import ReverseTether.Ipv6Connection
import ReverseTether.Library.History
import ReverseTether.Library.Machine

/-!
# The two streams of an IPv6 TCP flow

A flow is created from its first packet; from then on packets of the client,
readiness events and the end of the flow come in any order, and each finds the
client and the selector in any state.

Neither stream is one.  Towards the client every segment has the numbers and the
flags of the client's own first segment, so no SYN+ACK is ever sent and no byte has
a place (`run_serves_iff`).  Towards the host every payload is offered once, at
whatever place of the client's stream it is, so the host has a front of that stream
as long as every payload it takes bytes of begins where the last one ended
(`run_writes_prefix`).

Neither of the two is a slip in a detail: the relay passes the payloads on and has no control
block for such a flow, so there is nothing that could count.  The two statements say in which
runs this goes unnoticed.
-/

namespace ReverseTether

open Library

/-! ## Reading the trace -/

namespace Ipv6Action

/-- The bytes the host socket took in this action. -/
def written : Ipv6Action → List UInt8
  | .wrote data => data
  | _ => []

/-- The bytes read from the host socket in this action. -/
def received : Ipv6Action → List UInt8
  | .read data => data
  | _ => []

/-- The segment that reached the client in this action. -/
def segment : Ipv6Action → Option Segment
  | .handed raw => some (Segment.ofIpv6 raw)
  | _ => none

/-- All the bytes the host socket took. -/
def hostWritten (trace : List Ipv6Action) : List UInt8 := trace.flatMap written

/-- All the bytes read from the host socket. -/
def hostRead (trace : List Ipv6Action) : List UInt8 := trace.flatMap received

/-- The segments that reached the client, in order. -/
def segments (trace : List Ipv6Action) : List Segment := trace.filterMap segment

@[simp] theorem hostWritten_append (trace : List Ipv6Action) (action : Ipv6Action) :
    hostWritten (trace ++ [action]) = hostWritten trace ++ action.written := by
  simp [hostWritten]

@[simp] theorem hostRead_append (trace : List Ipv6Action) (action : Ipv6Action) :
    hostRead (trace ++ [action]) = hostRead trace ++ action.received := by
  simp [hostRead]

@[simp] theorem segments_append (trace : List Ipv6Action) (action : Ipv6Action) :
    segments (trace ++ [action]) = segments trace ++ action.segment.toList := by
  rw [segments, List.filterMap_append]
  cases h : action.segment <;> simp [segments, h]

end Ipv6Action

/-! ## The machine -/

/-- What `Router::create_connection` makes of the first packet of a TCP flow.  The packetizer has
the headers of that packet, and its flags are those of a SYN. -/
def Ipv6Connection.FreshTcp (conn : Ipv6Connection) : Prop :=
  ∃ raw packet id ipv6Header transportHeader packetizer selector selector' handle now,
    IpPacket.parse raw = .ok (.ok (.ipv6 packet)) ∧
    ConnectionId.fromPacket (.ipv6 packet) = some id ∧ id.protocol = .tcp ∧
    packet.ipv6Header = .ok ipv6Header ∧ packet.transportHeader = .ok transportHeader ∧
    Ipv6Packetizer.new ipv6Header transportHeader = .ok packetizer ∧
    Ipv6Connection.create selector handle id packetizer now (.ok ()) = .ok (conn, selector')

namespace Ipv6Life

/-- What reaches a TCP flow over IPv6: packets of its client, events of its socket, and the end. -/
inductive Label
  /-- A packet of the client, of whose payload the socket takes `write` bytes. -/
  | packet (packet : Ipv6Packet) (write : IoResult ℕ) (now : Instant)
  /-- A readiness event. -/
  | event (ready : Ready) (source : IoResult (List UInt8)) (now : Instant)
  /-- The flow is expired, or its client closed. -/
  | close

/-- The client and the selector are those of the moment: another connection may have used them
since the last step. -/
inductive Step : Ipv6Connection → Label → Ipv6Connection → Prop
  | packet {conn : Ipv6Connection} {packet : Ipv6Packet} {write : IoResult ℕ} {now : Instant}
      {client : Client} {selector : Selector} {c : Ipv6Context} :
      Ipv6Context.sendToNetwork ⟨conn, client, selector⟩ (.ipv6 packet) write now = .ok c →
      Step conn (.packet packet write now) c.conn
  | event {conn : Ipv6Connection} {ready : Ready} {source : IoResult (List UInt8)} {now : Instant}
      {client : Client} {selector : Selector} {c : Ipv6Context} :
      Ipv6Context.onReady ⟨conn, client, selector⟩ ready source now = .ok c →
      Step conn (.event ready source now) c.conn
  | close {conn : Ipv6Connection} {client : Client} {selector : Selector} :
      Step conn .close (Ipv6Context.close ⟨conn, client, selector⟩).conn

/-- The runs of one TCP flow over IPv6, from the moment at which its socket is open. -/
def machine : Machine Ipv6Connection Label where
  start := Ipv6Connection.FreshTcp
  step := Step

end Ipv6Life

/-- What closing changes of a connection. -/
theorem Ipv6Context.conn_close (c : Ipv6Context) :
    c.close.conn = { c.conn with closed := true } := by
  unfold close
  split
  · rename_i closed
    rw [← closed]
  · rfl

/-! ## Towards the client -/

/-- The connection sends with the headers of one segment of the client, and only
segments that carry something. -/
structure Ipv6Connection.SendsLike (conn : Ipv6Connection) (header : TcpHeaderData) : Prop where
  tcp : conn.socket = .tcp
  wellFormed : conn.networkToClient.WellFormed
  template : conn.networkToClient.transportHeader.data = .tcp header
  segments : ∀ segment ∈ Ipv6Action.segments conn.trace, ∃ payload, payload ≠ [] ∧
    segment = ⟨header.sequenceNumber, header.acknowledgementNumber, header.flags, payload⟩

/-- The segments sent to the client are a TCP stream: a SYN+ACK that answers the SYN
comes before any data, every byte read is carried at its place, and every segment
acknowledges what was taken of the client's bytes. -/
structure Ipv6Action.Serves (isn iss : UInt32) (trace : List Ipv6Action) : Prop where
  synAck : Each (fun before segment => segment.payload ≠ [] → ∃ first ∈ before,
      first.flags &&& flagSyn ≠ 0 ∧ first.flags &&& flagAck ≠ 0 ∧ first.sequenceNumber = iss ∧
      first.acknowledgementNumber = isn + 1) (segments trace)
  carried : ∀ k byte, (hostRead trace)[k]? = some byte → ∃ segment ∈ segments trace, ∃ i,
      segment.payload[i]? = some byte ∧
      segment.sequenceNumber + UInt32.ofNat i = iss + 1 + UInt32.ofNat k
  acknowledged : Each (fun before action => ∀ segment, action.segment = some segment →
      segment.acknowledgementNumber = isn + 1 + UInt32.ofNat (hostWritten before).length) trace

namespace Ipv6Life

/-- No readable event of the open flow finds bytes at its host socket. -/
def HostSilent (conn : Ipv6Connection) : Label → Prop
  | .event ready source _ => conn.closed = true ∨ ready.isReadable = false ∨
      ∀ available, source = .ok available → available = []
  | _ => True

end Ipv6Life

/-- The header of a packet whose id says TCP. -/
theorem Ipv6Packet.ReadFrom.tcp_of_id {raw : List UInt8} {packet : Ipv6Packet}
    (read : packet.ReadFrom raw) {id : ConnectionId}
    (known : ConnectionId.fromPacket (.ipv6 packet) = some id) (tcp : id.protocol = .tcp) :
    ∃ header, packet.transportHeaderData = .tcp header := by
  have transport := read.transport
  have next : packet.ipv6HeaderData.nextHeader = getByte raw 6 := by
    rw [read.header]
    rfl
  cases data : packet.transportHeaderData with
  | tcp header => exact ⟨header, rfl⟩
  | udp header =>
      rw [data] at transport
      cases transport with
      | udp isUdp _ _ =>
          simp only [ConnectionId.fromPacket, next, isUdp] at known
          cases known
          cases tcp

/-- A new TCP flow sends like the first segment of the client. -/
theorem Ipv6Connection.FreshTcp.sendsLike {conn : Ipv6Connection} (fresh : conn.FreshTcp) :
    ∃ header, conn.SendsLike header := by
  obtain ⟨raw, packet, id, ipv6Header, transportHeader, packetizer, selector, selector', handle,
    now, parsed, known, tcp, header, transport, made, created⟩ := fresh
  have read := IpPacket.parse_ipv6 parsed
  obtain ⟨first, data⟩ := read.tcp_of_id known tcp
  obtain ⟨_, _, p, header', transport', made', wf, template⟩ := Ipv6Packetizer.new_ok read
  rw [header] at header'
  cases header'
  rw [transport] at transport'
  cases transport'
  rw [made] at made'
  cases made'
  rw [data] at template
  rw [Ipv6Connection.create, tcp] at created
  cases created
  exact ⟨_, rfl, wf, template, nofun⟩

namespace Ipv6Connection.SendsLike

variable {conn : Ipv6Connection} {header : TcpHeaderData}

/-- The packet made of what a TCP socket hands over. -/
theorem packetized (like : conn.SendsLike header) {available : List UInt8} {packet : Ipv6Packet}
    {p : Ipv6Packetizer}
    (made : Packetized conn.networkToClient conn.socket (.ok available) (.ok (some packet)) p) :
    available ≠ [] ∧ conn.networkToClient.chunk available ≠ [] ∧ p.WellFormed ∧
      p.transportHeader.data = .tcp header ∧ Segment.ofIpv6 packet.raw =
        ⟨header.sequenceNumber, header.acknowledgementNumber, header.flags,
          conn.networkToClient.chunk available⟩ := by
  cases made with
  | built some eq =>
      have nonempty := some like.tcp
      obtain ⟨packet', p', eq', wf, kept, -, segment⟩ :=
        like.wellFormed.build_received (List.length_take_le _ _)
      change (conn.networkToClient.receive (conn.networkToClient.chunk available)).build
        (UInt16.ofNat (conn.networkToClient.chunk available).length) = .ok (packet', p') at eq'
      rw [eq] at eq'
      cases eq'
      refine ⟨?_, nonempty, wf, kept.trans like.template, segment header like.template⟩
      rintro rfl
      exact nonempty List.take_nil

/-- Bytes of a socket are there, and no packet is made of them, only if there are
none. -/
theorem chunk_ne_nil (like : conn.SendsLike header) {available : List UInt8}
    (some : available ≠ []) : conn.networkToClient.chunk available ≠ [] := by
  obtain ⟨_, _, -, -, -, -, nonempty, -⟩ := like.wellFormed.packetizeRead some
  exact nonempty

end Ipv6Connection.SendsLike

namespace Ipv6Life

open Ipv6Action

/-- **One step.**  The flow goes on sending like its first segment; bytes are read
exactly when the step is not silent, and nothing is sent otherwise. -/
theorem step_sendsLike {conn conn' : Ipv6Connection} {label : Label} {header : TcpHeaderData}
    (like : conn.SendsLike header) (step : Step conn label conn') :
    conn'.SendsLike header ∧
      ((HostSilent conn label ∧ hostRead conn'.trace = hostRead conn.trace ∧
          segments conn'.trace = segments conn.trace) ∨
        (¬ HostSilent conn label ∧
          ∃ data, data ≠ [] ∧ hostRead conn'.trace = hostRead conn.trace ++ data)) := by
  cases step with
  | @packet packet write now client selector c sent =>
      obtain ⟨payload, -, ⟨rfl, -⟩ | ⟨n, -, -, rfl⟩ | ⟨-, -, rfl⟩⟩ := Ipv6Context.sendToNetwork_ok sent
      · exact ⟨⟨like.tcp, like.wellFormed, like.template, like.segments⟩, .inl ⟨trivial, rfl, rfl⟩⟩
      · have same : segments (conn.trace ++ [.wrote ((payload.getD []).take n)]) =
            segments conn.trace := by
          rw [segments_append]
          exact List.append_nil _
        refine ⟨⟨like.tcp, like.wellFormed, like.template, ?_⟩, .inl ⟨trivial, ?_, same⟩⟩
        · intro segment mem
          exact like.segments segment (same ▸ mem)
        · show hostRead (conn.trace ++ [_]) = _
          rw [hostRead_append]
          exact List.append_nil _
      · exact ⟨⟨like.tcp, like.wellFormed, like.template, like.segments⟩, .inl ⟨trivial, rfl, rfl⟩⟩
  | @event ready source now client selector c happened =>
      cases Ipv6Context.onReady_ok happened with
      | ignored reason =>
          refine ⟨like, .inl ⟨?_, rfl, rfl⟩⟩
          rcases reason with closed | unreadable | rfl
          · exact .inl closed
          · exact .inr (.inl unreadable)
          · exact .inr (.inr nofun)
      | ended isOpen readable reason =>
          have closed : (Ipv6Context.close ⟨conn, client, selector⟩).removeFromRouter.conn =
              { conn with closed := true } := Ipv6Context.conn_close _
          rw [closed]
          refine ⟨⟨like.tcp, like.wellFormed, like.template, like.segments⟩, .inl ⟨?_, rfl, rfl⟩⟩
          refine .inr (.inr fun available same => ?_)
          rcases reason with rfl | ⟨-, available', rfl, empty⟩
          · cases same
          · cases same
            by_contra some
            exact like.chunk_ne_nil some empty
      | @received available packet p sent client' selector' action isOpen readable same made offered kind =>
          subst same
          obtain ⟨some, nonempty, wf, template, segment⟩ := like.packetized made
          have read : hostRead ((conn.trace ++ [.read (conn.networkToClient.chunk available)]) ++
              [action]) = hostRead conn.trace ++ conn.networkToClient.chunk available := by
            rw [hostRead_append, hostRead_append]
            rcases kind with rfl | rfl
            · exact List.append_nil _
            · exact List.append_nil _
          refine ⟨⟨like.tcp, wf, template, ?_⟩, .inr ⟨?_, _, nonempty, read⟩⟩
          · intro sentSegment mem
            change sentSegment ∈ segments ((conn.trace ++
              [.read (conn.networkToClient.chunk available)]) ++ [action]) at mem
            rw [segments_append, segments_append, List.mem_append, List.mem_append] at mem
            rcases mem with (before | wrong) | last
            · exact like.segments sentSegment before
            · cases wrong
            · rcases kind with rfl | rfl
              · rw [Ipv6Action.segment, Option.toList_some, List.mem_singleton] at last
                exact ⟨_, nonempty, last.trans segment⟩
              · cases last
          · rintro (closed | unreadable | silent)
            · rw [isOpen] at closed
              cases closed
            · rw [readable] at unreadable
              cases unreadable
            · exact some (silent available rfl)
  | @close client selector =>
      rw [Ipv6Context.conn_close]
      exact ⟨⟨like.tcp, like.wellFormed, like.template, like.segments⟩, .inl ⟨trivial, rfl, rfl⟩⟩

/-- What a run has read and sent, and whether the host was silent. -/
theorem run_silent_iff {t : List (Ipv6Connection × Label)} {s : Ipv6Connection}
    (run : machine.Run t s) :
    (∃ header, s.SendsLike header) ∧
      (hostRead s.trace = [] ↔ Machine.Meets HostSilent t) ∧
      (hostRead s.trace = [] → segments s.trace = []) := by
  induction run with
  | start fresh =>
      have new : (∃ header, _) := fresh.sendsLike
      obtain ⟨_, packet, id, _, _, _, _, _, _, _, -, -, tcp, -, -, -, created⟩ := fresh
      rw [Ipv6Connection.create, tcp] at created
      cases created
      exact ⟨new, ⟨fun _ => Machine.meets_nil _, fun _ => rfl⟩, fun _ => rfl⟩
  | @step t s s' label run step ih =>
      obtain ⟨⟨header, like⟩, silent, unsent⟩ := ih
      obtain ⟨like', ⟨quiet, read, sent⟩ | ⟨loud, data, nonempty, read⟩⟩ := step_sendsLike like step
      · refine ⟨⟨header, like'⟩, ?_, ?_⟩
        · rw [read, Machine.meets_append, Machine.meets_singleton, silent]
          exact ⟨fun met => ⟨met, quiet⟩, fun met => met.1⟩
        · rw [read, sent]
          exact unsent
      · have some : hostRead s'.trace ≠ [] := by
          rw [read]
          exact List.append_ne_nil_of_right_ne_nil _ nonempty
        refine ⟨⟨header, like'⟩, ⟨fun none => absurd none some, ?_⟩, fun none => absurd none some⟩
        rw [Machine.meets_append, Machine.meets_singleton]
        exact fun met => absurd met.2 loud

/-- **The segments of an IPv6 TCP flow are a TCP stream exactly as long as its host
sends nothing.**  The first segment sent carries data, and no SYN+ACK comes before
it. -/
theorem run_serves_iff {t : List (Ipv6Connection × Label)} {s : Ipv6Connection}
    (run : machine.Run t s) (isn : UInt32) :
    (∃ iss, Serves isn iss s.trace) ↔ Machine.Meets HostSilent t := by
  obtain ⟨⟨header, like⟩, silent, unsent⟩ := run_silent_iff run
  rw [← silent]
  constructor
  · rintro ⟨iss, serves⟩
    by_contra some
    obtain ⟨byte, rest, read⟩ := List.exists_cons_of_ne_nil some
    obtain ⟨segment, mem, -⟩ := serves.carried 0 byte (by rw [read]; rfl)
    obtain ⟨first, others, sent⟩ := List.exists_cons_of_ne_nil (List.ne_nil_of_mem mem)
    obtain ⟨payload, nonempty, rfl⟩ := like.segments first (by rw [sent]; exact List.mem_cons_self)
    -- nothing comes before the first segment
    obtain ⟨synAck, before, -⟩ := serves.synAck [] _ others sent nonempty
    cases before
  · intro none
    have nothing := unsent none
    refine ⟨0, ?_, ?_, ?_⟩
    · rw [nothing]
      exact each_nil _
    · intro k byte carried
      rw [none] at carried
      cases carried
    · refine each_of_forall_mem fun action mem before segment sends => ?_
      have among : segment ∈ segments s.trace := List.mem_filterMap.mpr ⟨action, mem, sends⟩
      rw [nothing] at among
      cases among

end Ipv6Life

/-! ### A flow whose host answers -/

/-- The bytes of a TCP segment without options, from port 4660 to port 80, with a
window of 65535, in an IPv6 packet from 2001:db8::1 to 2001:db8::2. -/
def segmentBytes6 (sequenceNumber flags : UInt8) (payload : List UInt8) : List UInt8 :=
  [0x60, 0, 0, 0, 0, 20 + UInt8.ofNat payload.length, 6, 64,
    0x20, 0x01, 0x0d, 0xb8, 0, 0, 0, 0, 0, 0, 0, 0, 0, 0, 0, 1,
    0x20, 0x01, 0x0d, 0xb8, 0, 0, 0, 0, 0, 0, 0, 0, 0, 0, 0, 2] ++
    [0x12, 0x34, 0, 80, 0, 0, 0, sequenceNumber, 0, 0, 0, 0, 0x50, flags, 0xFF, 0xFF, 0, 0, 0, 0] ++
    payload

/-- What `parse` makes of them. -/
def segmentPacket6 (sequenceNumber flags : UInt8) (payload : List UInt8) : Ipv6Packet :=
  let raw := segmentBytes6 sequenceNumber flags payload
  ⟨raw, .ofRaw raw, .tcp (.ofRaw (ipv6Body raw))⟩

/-- The SYN of a flow makes a connection, which sends like that SYN. -/
theorem Ipv6Connection.freshTcp_exists :
    ∃ conn : Ipv6Connection, conn.FreshTcp ∧ conn.closed = false ∧ conn.trace = [] ∧
      ∃ header, conn.SendsLike header ∧ header.sequenceNumber = 0 ∧ header.flags = flagSyn := by
  have parsed : IpPacket.parse (segmentBytes6 0 2 []) = .ok (.ok (.ipv6 (segmentPacket6 0 2 []))) :=
    rfl
  obtain ⟨ipv6Header, transportHeader, p, header, transport, made, wf, template⟩ :=
    Ipv6Packetizer.new_ok (IpPacket.parse_ipv6 parsed)
  exact ⟨⟨0, _, .tcp, p, false, 0, []⟩,
    ⟨_, _, _, _, _, _, ⟨fun _ => none, []⟩, _, 0, 0, parsed, rfl, rfl, header, transport, made, rfl⟩,
    rfl, rfl, _, ⟨rfl, wf, template, nofun⟩, rfl, rfl⟩

namespace Ipv6Life

open Ipv6Action

/-- Bytes of the host are read and reach a client that has room. -/
theorem step_receives {conn : Ipv6Connection} {header : TcpHeaderData}
    (like : conn.SendsLike header) (isOpen : conn.closed = false) {available : List UInt8}
    (some : available ≠ []) (now : Instant) :
    ∃ conn', Step conn (.event .readable (.ok available) now) conn' ∧ conn'.closed = false ∧
      segments conn'.trace = segments conn.trace ++
        [⟨header.sequenceNumber, header.acknowledgementNumber, header.flags,
          conn.networkToClient.chunk available⟩] := by
  obtain ⟨packet, p, eq, -, -, ⟨⟨data, accepted⟩, -⟩, -, segment⟩ :=
    like.wellFormed.packetizeRead some
  have short : packet.raw.length ≤ 65575 := by
    have field := (getU16 packet.raw 4).toNat_lt
    have bytes := congrArg List.length accepted.bytes
    rw [List.length_take] at bytes
    simp only at bytes
    omega
  obtain ⟨sent, client, selector, offered, -, -, ⟨-, rfl⟩ | ⟨noRoom, -⟩⟩ :=
    (Client.create 0).sendRawToClient_returns packet.raw
      (show (⟨fun _ => Option.some .empty, []⟩ : Selector).registered .client ≠ none from nofun)
  swap
  · have room : (Client.create 0).networkToClient.remaining = 1048576 := StreamBuffer.remaining_new
    omega
  set c : Ipv6Context := ⟨conn, Client.create 0, ⟨fun _ => Option.some .empty, []⟩⟩
  set c' : Ipv6Context := ⟨(({ conn with networkToClient := p }.record
    (.read (conn.networkToClient.chunk available))).touch now).record (.handed packet.raw),
    client, selector⟩ with hc'
  have packetized : Ipv6Context.packetizeSource conn.networkToClient conn.socket (.ok available) =
      .ok (.ok (Option.some packet), p) := by
    rw [like.tcp]
    exact eq
  have received : c.processReceive (.ok available) now = .ok (.ok (), c') :=
    bind_eq_ok.mpr ⟨_, bind_eq_ok.mpr ⟨_, packetized, bind_eq_ok.mpr ⟨_,
      bind_eq_ok.mpr ⟨_, offered, rfl⟩, rfl⟩⟩, rfl⟩
  have stays : ¬ c'.conn.closed = true := by
    rw [Bool.not_eq_true]
    exact isOpen
  have processed : c.process .readable (.ok available) now = .ok (.ok (), c') := by
    rw [Ipv6Context.process, if_neg (by rw [Bool.not_eq_true]; exact isOpen)]
    exact orReturn_eq_ok.mpr (.inl ⟨c', received, by rw [if_neg stays]⟩)
  have handled : c.onReady .readable (.ok available) now = .ok c' :=
    bind_eq_ok.mpr ⟨_, processed, rfl⟩
  refine ⟨c'.conn, .event handled, isOpen, ?_⟩
  show segments ((conn.trace ++ [_]) ++ [_]) = _
  rw [segments_append, segments_append, ← segment header like.template]
  simp [Ipv6Action.segment]

/-- The SYN of a flow, and one byte of its host. -/
theorem run_answered :
    ∃ t s payload acknowledgementNumber, machine.Run t s ∧ s.closed = false ∧ payload ≠ [] ∧
      segments s.trace = [⟨0, acknowledgementNumber, flagSyn, payload⟩] := by
  obtain ⟨conn, fresh, isOpen, trace, header, like, zero, syn⟩ := Ipv6Connection.freshTcp_exists
  obtain ⟨conn', step, isOpen', sent⟩ := step_receives like isOpen (List.cons_ne_nil 0x61 []) 0
  have nonempty := like.chunk_ne_nil (List.cons_ne_nil 0x61 [])
  rw [trace, zero, syn] at sent
  exact ⟨_, conn', _, _, (Machine.Run.start fresh).step step, isOpen', nonempty, sent⟩

/-- A flow whose host answers: it is served exactly when the host was silent, which it was not. -/
theorem run_serves_iff_answered :
    ∃ t s, machine.Run t s ∧ ((∃ iss, Serves 0 iss s.trace) ↔ Machine.Meets HostSilent t) := by
  obtain ⟨t, s, _, _, run, -⟩ := run_answered
  exact ⟨t, s, run, run_serves_iff run 0⟩

/-- The first byte of the host is sent in a SYN without ACK, from the sequence number of the
client's own SYN. The packetizer copies the flags of the first packet of the flow, and nothing in
an IPv6 connection rewrites them. -/
theorem run_sends_no_synAck :
    ¬ ∀ t s, machine.Run t s → ∃ isn iss, Serves isn iss s.trace := by
  intro all
  obtain ⟨t, s, payload, _, run, -, nonempty, sent⟩ := run_answered
  obtain ⟨isn, iss, serves⟩ := all t s run
  obtain ⟨first, before, -⟩ := serves.synAck [] _ [] sent nonempty
  cases before

/-! ## Towards the host -/

/-- A segment of a client that sends `stream` from `isn`.  Its place in the stream is
within `2 ^ 31` of what the host has taken. -/
def ClientSegment (stream : List UInt8) (isn : UInt32) (taken : ℕ) (header : TcpHeaderData)
    (payload : List UInt8) : Prop :=
  if header.isSyn then header.sequenceNumber = isn ∧ payload <+: stream
  else ∃ offset, header.sequenceNumber = isn + 1 + UInt32.ofNat offset ∧
    payload <+: stream.drop offset ∧ offset ≤ taken + 2 ^ 31 ∧ taken ≤ offset + 2 ^ 31

/-- The packets of a run are segments of such a client. -/
def ClientAgrees (stream : List UInt8) (isn : UInt32) (conn : Ipv6Connection) : Label → Prop
  | .packet packet _ _ => ∃ header payload, packet.transportHeaderData = .tcp header ∧
      packet.payload = .ok (some payload) ∧
      ClientSegment stream isn (hostWritten conn.trace).length header payload
  | _ => True

/-- The segment begins with the first byte the host has not taken.  For a SYN that is the beginning
of the stream. -/
def Continues (isn : UInt32) (taken : ℕ) (header : TcpHeaderData) : Prop :=
  if header.isSyn then taken = 0 else header.sequenceNumber = isn + 1 + UInt32.ofNat taken

/-- A payload of which the host takes a byte begins where the last one ended. -/
def TakenInOrder (isn : UInt32) (conn : Ipv6Connection) : Label → Prop
  | .packet packet (.ok n) _ => ∀ header payload, packet.transportHeaderData = .tcp header →
      packet.payload = .ok (some payload) → payload.take n ≠ [] →
      Continues isn (hostWritten conn.trace).length header
  | _ => True

section Upload

variable {stream : List UInt8} {isn : UInt32}

/-- The payload of a segment that continues what was taken. -/
theorem ClientSegment.behind {taken : List UInt8} {header : TcpHeaderData} {payload : List UInt8}
    (segment : ClientSegment stream isn taken.length header payload)
    (continues : Continues isn taken.length header) : payload <+: stream.drop taken.length := by
  unfold ClientSegment at segment
  unfold Continues at continues
  split at segment
  · rename_i syn
    rw [if_pos syn] at continues
    rw [continues]
    exact segment.2
  · rename_i noSyn
    rw [if_neg noSyn] at continues
    obtain ⟨offset, number, carried, notAhead, notBehind⟩ := segment
    have here := offset_unique (number.symm.trans continues) notAhead notBehind
    rw [← here]
    exact carried

/-- **One step** adds the bytes that come next, if it adds any.  The payload is written to the host
as it is, and what is taken out of order would be written out of order; hence the condition. -/
theorem step_takes {conn conn' : Ipv6Connection} {label : Label}
    (inside : hostWritten conn.trace <+: stream) (agrees : ClientAgrees stream isn conn label)
    (inOrder : TakenInOrder isn conn label) (step : Step conn label conn') :
    hostWritten conn'.trace <+: stream := by
  cases step with
  | @packet packet write now client selector c sent =>
      obtain ⟨answer, eq, ⟨rfl, -⟩ | ⟨n, -, rfl, rfl⟩ | ⟨-, -, rfl⟩⟩ := Ipv6Context.sendToNetwork_ok sent
      · exact inside
      · obtain ⟨header, payload, tcp, carried, segment⟩ := agrees
        rw [eq] at carried
        cases carried
        show hostWritten (conn.trace ++ [.wrote (payload.take n)]) <+: stream
        rw [hostWritten_append]
        by_cases none : payload.take n = []
        · rw [none]
          show hostWritten conn.trace ++ [] <+: stream
          rwa [List.append_nil]
        · have behind := segment.behind (inOrder header payload tcp eq none)
          exact prefix_append_of_drop inside ((List.take_prefix n payload).trans behind)
      · exact inside
  | @event ready source now client selector c happened =>
      cases Ipv6Context.onReady_ok happened with
      | ignored _ => exact inside
      | ended _ _ _ =>
          show hostWritten (Ipv6Context.close ⟨conn, client, selector⟩).conn.trace <+: stream
          rw [Ipv6Context.conn_close]
          exact inside
      | @received available packet p sent client' selector' action _ _ _ _ _ kind =>
          show hostWritten ((conn.trace ++ [_]) ++ [action]) <+: stream
          rw [hostWritten_append, hostWritten_append]
          rcases kind with rfl | rfl
          · simpa [written] using inside
          · simpa [written] using inside
  | @close client selector =>
      rw [Ipv6Context.conn_close]
      exact inside

/-- **What the host socket took is the front of the client's stream**, as long as no byte is taken
out of order.  An IPv6 connection writes each payload that it is given, and asks no sequence number
for its place; what the order of the segments is, is up to the network. -/
theorem run_writes_prefix {t : List (Ipv6Connection × Label)} {s : Ipv6Connection}
    (run : machine.Run t s)
    (met : Machine.Meets (fun conn label => ClientAgrees stream isn conn label ∧
      TakenInOrder isn conn label) t) : hostWritten s.trace <+: stream := by
  refine run.invariant (fun conn => hostWritten conn.trace <+: stream) ?_ ?_ met
  · rintro conn ⟨_, _, id, _, _, _, _, _, _, _, -, -, tcp, -, -, -, created⟩
    rw [Ipv6Connection.create, tcp] at created
    cases created
    exact List.nil_prefix
  · rintro conn label conn' inside ⟨agrees, inOrder⟩ step
    exact step_takes inside agrees inOrder step

end Upload

/-- A payload offered to a socket that takes some of it. -/
theorem step_writes (conn : Ipv6Connection) {packet : Ipv6Packet} {payload : List UInt8}
    (carried : packet.payload = .ok (some payload)) (nonempty : payload ≠ []) (n : ℕ)
    (now : Instant) : Step conn (.packet packet (.ok n) now)
      ((conn.touch now).record (.wrote (payload.take n))) := by
  have sent : Ipv6Context.sendToNetwork ⟨conn, .create 0, .create⟩ (.ipv6 packet) (.ok n) now =
      .ok (Ipv6Context.record (Ipv6Context.touch ⟨conn, .create 0, .create⟩ now)
        (.wrote (payload.take n))) := by
    rw [Ipv6Context.sendToNetwork, carried]
    exact if_neg nonempty
  exact .packet sent

/-- One byte, at the beginning of a stream. -/
def firstByte : Ipv6Packet := segmentPacket6 1 16 [0x61]

/-- Its payload is the byte. -/
theorem firstByte_payload : firstByte.payload = .ok (some [0x61]) := rfl

/-- The byte agrees with a stream of which it is the first, whether it was taken before or not. -/
theorem agrees_first (conn : Ipv6Connection) (taken : hostWritten conn.trace = [] ∨
    hostWritten conn.trace = [0x61]) (now : Instant) :
    ClientAgrees [0x61] 0 conn (.packet firstByte (.ok 1) now) := by
  refine ⟨_, [0x61], rfl, rfl, ?_⟩
  rw [ClientSegment, if_neg (by decide)]
  refine ⟨0, rfl, List.prefix_rfl, by omega, ?_⟩
  rcases taken with same | same
  · rw [same]
    decide
  · rw [same]
    decide

/-- The first byte of the stream is written to the host. -/
theorem run_writes_prefix_byte :
    ∃ t s, machine.Run t s ∧ hostWritten s.trace = [0x61] ∧ hostWritten s.trace <+: [0x61] := by
  obtain ⟨conn, fresh, -, trace, -⟩ := Ipv6Connection.freshTcp_exists
  have nothing : hostWritten conn.trace = [] := by
    rw [trace]
    rfl
  have run := (Machine.Run.start (M := machine) fresh).step
    (step_writes conn firstByte_payload (List.cons_ne_nil _ _) 1 0)
  have inOrder : TakenInOrder 0 conn (.packet firstByte (.ok 1) 0) := by
    intro header payload tcp carried _
    rw [← TransportHeaderData.tcp.inj tcp, nothing, Continues, if_neg (by decide)]
    rfl
  refine ⟨_, _, run, ?_, run_writes_prefix run
    (Machine.meets_singleton.mpr ⟨agrees_first conn (.inl nothing) 0, inOrder⟩)⟩
  show hostWritten (conn.trace ++ [_]) = _
  rw [hostWritten_append, nothing]
  rfl

/-- A segment that is sent twice is written twice.  A retransmission is nothing unusual for a
client, and it ends up as bytes that were never sent. -/
theorem run_writes_twice :
    ¬ ∀ stream isn t s, machine.Run t s → Machine.Meets (ClientAgrees stream isn) t →
      s.closed = false → hostWritten s.trace <+: stream := by
  intro all
  obtain ⟨conn, fresh, isOpen, trace, -⟩ := Ipv6Connection.freshTcp_exists
  have nothing : hostWritten conn.trace = [] := by
    rw [trace]
    rfl
  set conn₁ := (conn.touch 0).record (.wrote ([0x61].take 1)) with hconn₁
  have once : hostWritten conn₁.trace = [0x61] := by
    show hostWritten (conn.trace ++ [_]) = _
    rw [hostWritten_append, nothing]
    rfl
  have step (conn : Ipv6Connection) :=
    step_writes conn firstByte_payload (List.cons_ne_nil _ _) 1 0
  have inside := all [0x61] 0 _ _ (((Machine.Run.start fresh).step (step conn)).step (step conn₁))
    (Machine.meets_append.mpr ⟨Machine.meets_singleton.mpr (agrees_first conn (.inl nothing) 0),
      Machine.meets_singleton.mpr (agrees_first conn₁ (.inr once) 0)⟩) isOpen
  change hostWritten (conn₁.trace ++ [_]) <+: [0x61] at inside
  rw [hostWritten_append, once] at inside
  exact absurd inside (by decide)

end Ipv6Life

end ReverseTether
