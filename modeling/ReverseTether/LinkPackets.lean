import ReverseTether.Ipv6Flows
import ReverseTether.LinkProgress
import ReverseTether.Refusals

/-!
# Packets through the link

A packet that the app read from the tun device and forwarded is decided on by the relay, once and
in its place (`run_upstream`), and what the relay accepted is written to the tun device in the
same way (`run_downstream`).  So a packet that comes back is the reply to one that went out
(`run_comesBack`), and what a connection does with the packets of its flow it does with what was
read from the tun device (`run_uploadsThrough`, `run_datagramsThrough`).

Each statement is one about the relay and one about the app, joined by the two streams between
them: what the one end has written and the other has read is a front of the same list of
bytes, and cutting a front into packets gives a front of the packets.  No packet is compared
with another; their places in the streams tell which one is which.

The exchanges at the end of the sections are runs in which packets really go both ways, so
that none of the statements is about empty lists alone.
-/

namespace ReverseTether

open Library

/-! ## What the relay makes of one packet -/

namespace IpPacket

/-- What `IpPacket::parse` returns. -/
def parsed (raw : List UInt8) : ParseResult IpPacket :=
  (parse raw).toOption.get (by
    obtain ⟨result, returns⟩ := parse_returns raw
    rw [returns]
    rfl)

theorem parse_eq (raw : List UInt8) : parse raw = .ok (parsed raw) := by
  obtain ⟨result, returns⟩ := parse_returns raw
  simp only [parsed, returns]
  rfl

/-- What becomes of a packet in the relay. -/
def verdict (raw : List UInt8) : Verdict :=
  match parsed raw with
  | .ok packet => .routed packet
  | .error (.unsupported reason) => .dropped reason
  | .error (.malformed reason) => .closed (.malformed reason)

/-- A packet of the app is decided on by itself. -/
theorem answers_verdict {raw : List UInt8} (whole : IsPacket raw) :
    packets.Answers verdict raw := by
  have complete := relayJudge_eq.mp (relayJudge_isPacket.mpr whole)
  have front : packets.front raw = verdictOf raw.length (parse raw) := by
    show frontVerdict raw = _
    rw [frontVerdict, complete]
    show verdictOf raw.length (parse (raw.take raw.length)) = _
    rw [List.take_length]
  rw [Framing.Answers, front, parse_eq, verdict]
  cases parsed raw with
  | ok packet => exact .inl rfl
  | error reason =>
      cases reason with
      | unsupported _ => exact .inl rfl
      | malformed _ => exact .inr rfl

theorem verdict_eq_routed {raw : List UInt8} {packet : IpPacket} :
    verdict raw = .routed packet ↔ parse raw = .ok (.ok packet) := by
  rw [parse_eq, verdict]
  cases parsed raw with
  | ok packet' =>
      constructor
      · rintro ⟨⟩
        rfl
      · rintro ⟨⟩
        rfl
  | error reason => cases reason <;> simp

end IpPacket

/-- A reply is one whole packet. -/
theorem IsReply.isPacket {id : ConnectionId} {raw : List UInt8} (reply : IsReply id raw) :
    IsPacket raw := by
  obtain ⟨packet, parsed, same, -⟩ := reply
  cases packet with
  | ipv4 packet =>
      have read := IpPacket.parse_ipv4_iff.mp parsed
      have complete := read.complete
      have order := read.order
      have cut : packet.raw = raw := same
      have length := congrArg List.length (read.bytes.symm.trans cut)
      rw [List.length_take_of_le complete] at length
      refine .inl ⟨read.version, read.long, ?_, length⟩
      rw [← length]
      exact order
  | ipv6 packet =>
      have read := IpPacket.parse_ipv6 parsed
      have cut : packet.raw = raw := same
      have length := congrArg List.length (read.bytes.symm.trans cut)
      rw [List.length_take_of_le read.complete] at length
      exact .inr ⟨read.version, length⟩

/-- Both addresses of a flow are of the version of its packets. -/
theorem IpPacket.ipv4_of_flow {id : ConnectionId} {packet : Ipv4Packet} {packet' : IpPacket}
    (flow : ConnectionId.fromPacket (.ipv4 packet) = some id)
    (flow' : ConnectionId.fromPacket packet' = some id ∨
      ConnectionId.fromPacket packet' = some id.reverse) : ∃ packet₄, packet' = .ipv4 packet₄ := by
  cases packet' with
  | ipv4 packet₄ => exact ⟨packet₄, rfl⟩
  | ipv6 packet₆ =>
      obtain ⟨transport, -, rfl⟩ := Option.map_eq_some_iff.mp flow
      simp only [ConnectionId.fromPacket, ConnectionId.fromHeaders, ConnectionId.reverse] at flow'
      split at flow'
      · rcases flow' with same | same <;> simp at same
      · split at flow'
        · rcases flow' with same | same <;> simp at same
        · rcases flow' with same | same <;> simp at same

/-- The app cuts it off as one. -/
theorem IsPacket.appRule {raw : List UInt8} (whole : IsPacket raw) :
    appRule.judge raw = some (some raw.length) :=
  judges_item.mp (relayJudge_isPacket.mpr whole)

/-! ## Both streams -/

namespace Link

variable {ipv6Mode : Ipv6Mode} {l l' : Link} {label : Label} {t : List (Link × Label)}

/-! ### To the relay -/

/-- The packets that the app forwards. -/
def forwarded (ipv6Mode : Ipv6Mode) (t : Tunnel) : List (List UInt8) :=
  t.read.filter (Tunnel.forwards ipv6Mode)

theorem forwarded_answers (ipv6Mode : Ipv6Mode) (t : Tunnel) :
    ∀ raw ∈ forwarded ipv6Mode t, packets.Answers IpPacket.verdict raw := by
  intro raw mem
  refine IpPacket.answers_verdict (isWellFormedIpPacket_iff.mp ?_)
  exact (Tunnel.forwards_iff.mp (List.mem_filter.mp mem).2).1

/-- All that is read in the exchange is forwarded, except for the refused packet. -/
theorem forwarded_exchange (read : l.tunnel.read = barePacket :: exchangePackets) :
    forwarded .blackhole l.tunnel = exchangePackets := by
  rw [forwarded, read]
  decide

/-- Decisions are made on the packets that the app forwards, without a gap. -/
theorem run_verdicts (run : (machine ipv6Mode).Run t l) :
    Relay.allVerdicts (steps t) <+: (forwarded ipv6Mode l.tunnel).map IpPacket.verdict := by
  have linked := run_linked run
  have sends := (Tunnel.kept_of_run linked.tunnels).1.sends
  rw [← linked.upward, List.append_assoc] at sends
  rw [(Relay.run_decided linked.relays).verdicts]
  refine Framing.decode_front (show packets.front [] = .incomplete from rfl)
    (forwarded_answers ipv6Mode l.tunnel) ?_
  rw [forwarded, ← sends]
  exact List.prefix_append _ _

/-- **The relay decides on each packet that the app forwards**, by itself, once and in the order
in which they were read from the tun device.  When everything that the app sent has arrived, and
the client is open, no decision is missing. -/
theorem run_upstream (run : (machine ipv6Mode).Run t l) :
    Relay.allVerdicts (steps t) <+: (forwarded ipv6Mode l.tunnel).map IpPacket.verdict ∧
      (l.tunnel.outbound.drop l.tunnel.sendOffset = [] → l.up = [] → l.relay.client.closed = false →
        Relay.allVerdicts (steps t) = (forwarded ipv6Mode l.tunnel).map IpPacket.verdict) := by
  refine ⟨run_verdicts run, fun sent arrived isOpen => ?_⟩
  have linked := run_linked run
  have sends := (Tunnel.kept_of_run linked.tunnels).1.sends
  have decided := Relay.run_decided linked.relays
  rw [← linked.upward, sent, arrived, List.append_nil, List.append_nil] at sends
  have all : Relay.allTaken (steps t) = (forwarded ipv6Mode l.tunnel).flatten := sends
  have on := decided.goesOn isOpen
  rw [all] at on
  rw [decided.verdicts, all]
  exact congrArg _ (Framing.decode_whole (show packets.front [] = .incomplete from rfl)
    (forwarded_answers ipv6Mode l.tunnel) on)

/-- In the exchange the refused packet is left out, and a decision is made on each of the others. -/
theorem run_upstream_exchange : ∃ t l, (machine .blackhole).Run t l ∧
    l.tunnel.read = barePacket :: exchangePackets ∧
    forwarded .blackhole l.tunnel = exchangePackets ∧
      Relay.allVerdicts (steps t) = (forwarded .blackhole l.tunnel).map IpPacket.verdict := by
  obtain ⟨t, l, udp, tcp, reply, run, exchanged, -, read, -, idle, arrived⟩ := run_exchange
  have sent : l.tunnel.outbound.drop l.tunnel.sendOffset = [] := by
    rw [idle.outbound, List.drop_nil]
  exact ⟨t, l, run, read, forwarded_exchange read,
    (run_upstream run).2 sent arrived exchanged.rest.settled.1⟩

/-! ### To the app -/

/-- What is written in the exchange: the refusal, and all that the client was sent. -/
theorem written_exchange {packets : List (List UInt8)} {reply : List UInt8}
    (written : l.tunnel.written = .reply reply :: packets.map .framed) :
    l.tunnel.written.filterMap QueuedPacket.framed? = packets ∧
      l.tunnel.written.filterMap QueuedPacket.reply? = [reply] := by
  have refused : QueuedPacket.reply? (.reply reply) = some reply := rfl
  rw [written]
  constructor
  · refine (List.filterMap_cons_none rfl).trans ?_
    rw [List.filterMap_map]
    exact List.filterMap_some
  · refine (List.filterMap_cons_some refused).trans (congrArg _ ?_)
    rw [List.filterMap_map]
    exact List.filterMap_eq_nil_iff.mpr fun _ _ => rfl

/-- A reply is among it. -/
theorem framed_exchange {udp : UdpConnection} {tcp : TcpConnection} {reply : List UInt8}
    (exchanged : l.relay.toClientContext.Exchanged udp tcp)
    (written : l.tunnel.written = .reply reply :: l.relay.client.appended.map .framed) :
    [0x61] ∈ (l.tunnel.written.filterMap QueuedPacket.framed?).filterMap (payloadOf udp.id) := by
  rw [(written_exchange written).1, exchanged.udpId]
  exact exchanged.replied

/-- What the app has taken is a front of what its client has to say. -/
theorem run_heard (run : (machine ipv6Mode).Run t l) :
    l.greeting.id ++ l.tunnel.received <+:
      u32Bytes l.relay.client.id ++ l.relay.client.appended.flatten := by
  have linked := run_linked run
  refine .trans ?_ (Relay.run_streams linked.relays).received_starts
  rw [← linked.downward]
  exact List.prefix_append _ _

/-- The id that the app reads is the one of its client. -/
theorem run_greeted (run : (machine ipv6Mode).Run t l) {clientId : UInt32}
    (greeted : l.greeting.result = some (.ok clientId)) :
    l.greeting.id = u32Bytes l.relay.client.id ∧ clientId = l.relay.client.id := by
  obtain ⟨-, greets⟩ := Greeting.run_greets (run_linked run).greets
  obtain ⟨length, same⟩ := greets clientId greeted
  have first : l.greeting.id = u32Bytes l.relay.client.id := by
    have front := List.prefix_iff_eq_take.mp ((List.prefix_append _ _).trans (run_heard run))
    rw [front, length]
    exact List.take_left' (length_u32Bytes _)
  rw [first, getU32_u32Bytes] at same
  exact ⟨first, same.symm⟩

/-- What is written to the tun device for the relay. -/
theorem run_written (run : (machine ipv6Mode).Run t l) (unforged : l.relay.Unforged) :
    l.tunnel.written.filterMap QueuedPacket.framed? <+: l.relay.client.appended := by
  have linked := run_linked run
  have frames := (Tunnel.kept_of_run linked.tunnels).1.frames
  have cut : appRule.cut l.tunnel.received <+: l.relay.client.appended := by
    refine LengthRule.cut_front (fun raw mem => ?_) ?_
    · obtain ⟨_, _, -, reply⟩ := Relay.run_reply linked.relays unforged mem
      exact reply.isPacket.appRule
    · by_cases greeted : ∃ clientId, l.greeting.result = some (.ok clientId)
      · obtain ⟨clientId, greeted⟩ := greeted
        have received := run_heard run
        rw [(run_greeted run greeted).1] at received
        exact (List.prefix_append_right_inj _).mp received
      · rw [linked.waits (not_exists.mp greeted)]
        exact List.nil_prefix
  refine .trans ?_ cut
  rw [← frames, List.filterMap_append]
  exact List.prefix_append _ _

/-- **The app gets the packets of its client**, whole, once and in the order in which the relay
accepted them; and the id that it reads is the one of that client. -/
theorem run_downstream (run : (machine ipv6Mode).Run t l) (unforged : l.relay.Unforged) :
    l.tunnel.written.filterMap QueuedPacket.framed? <+: l.relay.client.appended ∧
      ∀ clientId, l.greeting.result = some (.ok clientId) → clientId = l.relay.client.id :=
  ⟨run_written run unforged, fun _ greeted => (run_greeted run greeted).2⟩

/-- The packets of the exchange are written, those of a TCP connection among them. -/
theorem run_downstream_exchange : ∃ t l udp tcp, (machine .blackhole).Run t l ∧
    l.relay.created = [.udp udp, .tcp tcp] ∧ l.greeting.result = some (.ok 0) ∧
    [0x61] ∈ (l.tunnel.written.filterMap QueuedPacket.framed?).filterMap (payloadOf udp.id) ∧
    l.tunnel.written.filterMap QueuedPacket.framed? <+: l.relay.client.appended ∧
      0 = l.relay.client.id := by
  obtain ⟨t, l, udp, tcp, reply, run, exchanged, greeted, -, written, -⟩ := run_exchange
  obtain ⟨front, same⟩ := run_downstream run (Relay.unforged_of_exchanged exchanged)
  exact ⟨t, l, udp, tcp, run, exchanged.created, greeted, framed_exchange exchanged written, front,
    same 0 greeted⟩

/-! ### Round trips -/

/-- What was routed was read from the tun device, and forwarded. -/
theorem run_forwarded (run : (machine ipv6Mode).Run t l) {packet : IpPacket}
    (routed : .routed packet ∈ Relay.allVerdicts (steps t)) :
    ∃ raw ∈ l.tunnel.read, Tunnel.forwards ipv6Mode raw = true ∧
      IpPacket.parse raw = .ok (.ok packet) := by
  obtain ⟨raw, mem, verdict⟩ := List.mem_map.mp ((run_verdicts run).subset routed)
  obtain ⟨read, forwards⟩ := List.mem_filter.mp mem
  exact ⟨raw, read, forwards, IpPacket.verdict_eq_routed.mp verdict⟩

/-- A packet of the relay is the reply to one that was routed. -/
theorem run_replied (run : (machine ipv6Mode).Run t l) (unforged : l.relay.Unforged) {raw : List UInt8}
    (mem : raw ∈ l.tunnel.written.filterMap QueuedPacket.framed?) :
    ∃ packet id, .routed packet ∈ Relay.allVerdicts (steps t) ∧
      ConnectionId.fromPacket packet = some id ∧ IsReply id raw := by
  have relays := (run_linked run).relays
  obtain ⟨handle, conn, place, reply⟩ :=
    Relay.run_reply relays unforged ((run_written run unforged).subset mem)
  obtain ⟨packet, routed, flow⟩ := Relay.run_asked relays handle conn place
  exact ⟨packet, conn.id, routed, flow, reply⟩

/-- **What comes back through the tunnel was asked for through it**: each packet of the relay that
is written to the tun device is whole, and goes from the destination of a packet that was read
from that device, and forwarded, to its source. -/
theorem run_comesBack (run : (machine ipv6Mode).Run t l) (unforged : l.relay.Unforged) :
    ∀ raw ∈ l.tunnel.written.filterMap QueuedPacket.framed?,
      ∃ asked ∈ l.tunnel.read, Tunnel.forwards ipv6Mode asked = true ∧
        ∃ packet id, IpPacket.parse asked = .ok (.ok packet) ∧
          ConnectionId.fromPacket packet = some id ∧ IsReply id raw := by
  intro raw mem
  obtain ⟨packet, id, routed, flow, reply⟩ := run_replied run unforged mem
  obtain ⟨asked, read, forwards, parsed⟩ := run_forwarded run routed
  exact ⟨asked, read, forwards, packet, id, parsed, flow, reply⟩

/-- In the exchange a reply comes back, next to the segments of a TCP connection. -/
theorem run_comesBack_exchange : ∃ t l udp tcp, (machine .blackhole).Run t l ∧
    l.relay.created = [.udp udp, .tcp tcp] ∧
    (∃ raw ∈ l.tunnel.written.filterMap QueuedPacket.framed?, payloadOf udp.id raw = some [0x61]) ∧
    ∀ raw ∈ l.tunnel.written.filterMap QueuedPacket.framed?,
      ∃ asked ∈ l.tunnel.read, Tunnel.forwards .blackhole asked = true ∧
        ∃ packet id, IpPacket.parse asked = .ok (.ok packet) ∧
          ConnectionId.fromPacket packet = some id ∧ IsReply id raw := by
  obtain ⟨t, l, udp, tcp, reply, run, exchanged, -, -, written, -⟩ := run_exchange
  exact ⟨t, l, udp, tcp, run, exchanged.created, List.mem_filterMap.mp (framed_exchange exchanged written),
    run_comesBack run (Relay.unforged_of_exchanged exchanged)⟩

/-- Unless IPv6 is proxied, a packet that is forwarded is one of IPv4. -/
theorem ipv4_of_forwards {raw : List UInt8} {packet : IpPacket} (off : ipv6Mode ≠ .proxy)
    (forwards : Tunnel.forwards ipv6Mode raw = true) (parsed : IpPacket.parse raw = .ok (.ok packet)) :
    ∃ packet₄, packet = .ipv4 packet₄ := by
  cases packet with
  | ipv4 packet₄ => exact ⟨packet₄, rfl⟩
  | ipv6 packet₆ =>
      have six : getByte raw 0 >>> 4 = 6 := (IpPacket.parse_ipv6 parsed).version
      rw [Tunnel.forwards, decide_eq_true_eq, six] at forwards
      rcases forwards.2 with four | proxy
      · exact absurd four (by decide)
      · exact absurd proxy off

/-- **The switch.**  Unless IPv6 is proxied the relay has no IPv6 connection, each of its packets
that is written to the tun device is a whole one of IPv4, and all else that is written there are refusals,
each of a packet that was read from it. -/
theorem run_ipv4Only (run : (machine ipv6Mode).Run t l) (off : ipv6Mode ≠ .proxy) :
    (∀ (handle : Handle) conn, l.relay.created[handle]? = some conn → ∀ conn₆, conn ≠ .ipv6 conn₆) ∧
      (l.relay.Unforged → ∀ raw ∈ l.tunnel.written.filterMap QueuedPacket.framed?,
        ∃ packet, IpPacket.parse raw = .ok (.ok (.ipv4 packet)) ∧ packet.raw = raw) ∧
      (l.tunnel.written.filterMap QueuedPacket.reply?).Sublist
        (l.tunnel.read.filterMap (refusalOf ipv6Mode)) := by
  have linked := run_linked run
  refine ⟨fun handle conn place conn₆ six => ?_, fun unforged raw mem => ?_, ?_⟩
  · obtain ⟨packet, routed, flow⟩ := Relay.run_asked linked.relays handle conn place
    obtain ⟨asked, -, forwards, parsed⟩ := run_forwarded run routed
    obtain ⟨packet₄, rfl⟩ := ipv4_of_forwards off forwards parsed
    subst six
    obtain ⟨_, reference, -, -, flow₆⟩ : conn₆.Faces :=
      (Relay.run_facing linked.relays).faces handle _ place
    obtain ⟨_, wrong⟩ := IpPacket.ipv4_of_flow flow (.inl flow₆)
    cases wrong
  · obtain ⟨packet, id, routed, flow, packet', parsed', whole, flow'⟩ := run_replied run unforged mem
    obtain ⟨asked, -, forwards, parsed⟩ := run_forwarded run routed
    obtain ⟨packet₄, rfl⟩ := ipv4_of_forwards off forwards parsed
    obtain ⟨reply₄, rfl⟩ := IpPacket.ipv4_of_flow flow (.inr flow')
    exact ⟨reply₄, parsed', whole⟩
  · refine .trans ?_ (Tunnel.run_refuses linked.tunnels).refusals
    rw [Tunnel.refusals, List.filterMap_append]
    exact List.sublist_append_left _ _

/-- In the exchange both are written: the refusal of a packet of IPv6, and packets of the relay. -/
theorem run_ipv4Only_exchange : ∃ t l udp tcp reply, (machine .blackhole).Run t l ∧
    l.relay.created = [.udp udp, .tcp tcp] ∧ l.tunnel.read = barePacket :: exchangePackets ∧
    [0x61] ∈ (l.tunnel.written.filterMap QueuedPacket.framed?).filterMap (payloadOf udp.id) ∧
    l.tunnel.written.filterMap QueuedPacket.reply? = [reply] ∧
    (∀ (handle : Handle) conn, l.relay.created[handle]? = some conn → ∀ conn₆, conn ≠ .ipv6 conn₆) ∧
      (∀ raw ∈ l.tunnel.written.filterMap QueuedPacket.framed?,
        ∃ packet, IpPacket.parse raw = .ok (.ok (.ipv4 packet)) ∧ packet.raw = raw) ∧
      [reply].Sublist (l.tunnel.read.filterMap (refusalOf .blackhole)) := by
  obtain ⟨t, l, udp, tcp, reply, run, exchanged, -, read, written, -⟩ := run_exchange
  obtain ⟨framed, refused⟩ := written_exchange written
  obtain ⟨only, whole, refusals⟩ := run_ipv4Only run (by decide)
  rw [refused] at refusals
  exact ⟨t, l, udp, tcp, reply, run, exchanged.created, read, framed_exchange exchanged written, refused, only,
    whole (Relay.unforged_of_exchanged exchanged), refusals⟩

/-! ### Flows -/

/-- The packets that were read from the tun device, and that the relay routes. -/
def routable (ipv6Mode : Ipv6Mode) (t : Tunnel) : List IpPacket :=
  (forwarded ipv6Mode t).filterMap fun raw => (IpPacket.verdict raw).packet?

/-- A connection is given packets of its flow in the order in which the tun device gave them,
without a gap. -/
theorem given_infix (run : (machine ipv6Mode).Run t l) {handle : Handle} {r : Flow}
    {own : List (Flow × Flow.Label)} (given : Relay.Given handle (steps t) r own) :
    Flow.packetsOf own <:+: flowOf r.conn.id (routable ipv6Mode l.tunnel) := by
  have routed : (Relay.allVerdicts (steps t)).filterMap Verdict.packet? <+:
      routable ipv6Mode l.tunnel := by
    have front := (run_verdicts run).filterMap Verdict.packet?
    rwa [List.filterMap_map] at front
  exact given.inside.trans (routed.filter _).isInfix

/-- **A connection of the relay on its own**, and what it is given of the tun device.  The whole is
projected to the client, its client to the flow, and the packets of the flow are those of the tun
device that were forwarded and are routable. -/
theorem run_given (run : (machine ipv6Mode).Run t l) {handle : Handle} {conn : Connection}
    (place : l.relay.created[handle]? = some conn) :
    ∃ own armed, Flow.machine.Run own ⟨conn, armed⟩ ∧
      Machine.Aligned (fun s : Relay => handle < s.created.length)
        (fun s label block => ∀ q ∈ block, Relay.Shows s label q.2) (steps t) own ∧
      Relay.Given handle (steps t) ⟨conn, armed⟩ own ∧
      Flow.packetsOf own <:+: flowOf conn.id (routable ipv6Mode l.tunnel) := by
  obtain ⟨own, ⟨conn', armed⟩, runs, ⟨place', -⟩, aligned, given⟩ :=
    (Relay.tracksFlow handle).run (run_linked run).relays (List.getElem?_eq_some_iff.mp place).1
  cases place'.symm.trans place
  exact ⟨own, armed, runs, aligned, given, given_infix run given⟩

/-- **An upload, from the tun device to the host.**  If the packets of a flow are segments of one
stream, the bytes that its socket took and those that wait for it are the front of that stream,
and no byte is acknowledged that the socket did not take. -/
theorem run_uploadsThrough (run : (machine ipv6Mode).Run t l) {handle : Handle} {conn : TcpConnection}
    (place : l.relay.created[handle]? = some (.tcp conn)) (opened : conn.tcb.state ≠ .init)
    (beforeFin : .finHandled ∉ conn.trace) {stream : List UInt8} {isn : UInt32}
    (short : stream.length < 2 ^ 31)
    (segments : ∀ packet ∈ flowOf conn.id (routable ipv6Mode l.tunnel), SegmentOf stream isn packet) :
    hostWritten conn.trace ++ conn.clientToNetwork.contents <+: stream ∧
      conn.tcb.acknowledgementNumber = isn + 1 + UInt32.ofNat (hostWritten conn.trace).length := by
  obtain ⟨own, armed, runs, -, -, part⟩ := run_given run place
  exact Flow.run_front runs rfl opened beforeFin short fun packet mem =>
    segments packet (part.subset mem)

/-- The relay routes the packets of the exchange. -/
theorem routable_exchange (read : l.tunnel.read = barePacket :: exchangePackets) :
    routable .blackhole l.tunnel =
      (packets.decode exchangePackets.flatten).items.filterMap Verdict.packet? := by
  rw [routable, forwarded_exchange read, Relay.decode_exchange]
  rfl

/-- The byte of the exchange is read from the tun device and written to the host. -/
theorem run_uploadsThrough_exchange : ∃ t l conn, (machine .blackhole).Run t l ∧
    l.relay.created[1]? = some (.tcp conn) ∧ hostWritten conn.trace = [0x62] ∧
      hostWritten conn.trace ++ conn.clientToNetwork.contents <+: [0x62] ∧
      conn.tcb.acknowledgementNumber = 0 + 1 + UInt32.ofNat (hostWritten conn.trace).length := by
  obtain ⟨t, l, udp, tcp, reply, run, exchanged, -, read, -⟩ := run_exchange
  obtain ⟨synAck, raw, ack, -, same⟩ := exchanged.exchanged
  have written : hostWritten tcp.trace = [0x62] := by
    rw [same.trace]
    rfl
  have segments : ∀ packet ∈ flowOf tcp.id (routable .blackhole l.tunnel), SegmentOf [0x62] 0 packet := by
    rw [routable_exchange read, exchanged.tcpId]
    exact Relay.exchange_segments
  exact ⟨t, l, tcp, run, exchanged.place_tcp, written, run_uploadsThrough run exchanged.place_tcp
    (by rw [same.established]; exact nofun) (by rw [same.trace]; simp) (by decide) segments⟩

/-- **A download, from the host to the tun device.**  The segments of a flow with one connection that
are written to the tun device carry the front of what its socket read, and each byte at its own
sequence number if nothing has disturbed the connection. -/
theorem run_downloadsThrough (run : (machine ipv6Mode).Run t l) (unforged : l.relay.Unforged)
    {handle : Handle} {conn : TcpConnection} (place : l.relay.created[handle]? = some (.tcp conn))
    (alone : l.relay.Alone handle conn.id) :
    carriedBytes ((l.tunnel.written.filterMap QueuedPacket.framed?).filterMap (segmentOf conn.id)) <+:
        hostRead conn.trace ∧
      (Each Undisturbed conn.trace → ∀ isn, .opened isn ∈ conn.trace →
        Tiles isn (hostRead conn.trace)
          ((l.tunnel.written.filterMap QueuedPacket.framed?).filterMap (segmentOf conn.id))) := by
  have relays := (run_linked run).relays
  have arrived := (run_written run unforged).filterMap (segmentOf conn.id)
  rw [Relay.run_told relays unforged place alone] at arrived
  refine ⟨?_, fun undisturbed isn opened =>
    Tiles.of_prefix (Relay.run_tiles relays place undisturbed opened) arrived⟩
  rw [← Relay.run_carried relays unforged place]
  exact (arrived.flatMap _).trans (List.prefix_append _ _)

/-- The byte of the host is written to the tun device, at the number after the SYN. -/
theorem run_downloadsThrough_exchange : ∃ t l conn, (machine .blackhole).Run t l ∧
    l.relay.created[1]? = some (.tcp conn) ∧ hostRead conn.trace = [0x61] ∧
      carriedBytes ((l.tunnel.written.filterMap QueuedPacket.framed?).filterMap (segmentOf conn.id)) =
        [0x61] ∧
      Tiles 0 (hostRead conn.trace)
        ((l.tunnel.written.filterMap QueuedPacket.framed?).filterMap (segmentOf conn.id)) := by
  obtain ⟨t, l, udp, tcp, reply, run, exchanged, -, -, written, -⟩ := run_exchange
  obtain ⟨synAck, raw, ack, answer, same⟩ := exchanged.exchanged
  have trace := same.trace
  have unforged := Relay.unforged_of_exchanged exchanged
  have alone := (Relay.alone_of_exchanged exchanged).2
  have relays := (run_linked run).relays
  have hostRead : hostRead tcp.trace = [0x61] := by
    rw [trace]
    rfl
  have carried : carriedBytes
      ((l.tunnel.written.filterMap QueuedPacket.framed?).filterMap (segmentOf tcp.id)) = [0x61] := by
    have whole := Relay.run_carried relays unforged exchanged.place_tcp
    rw [TcpConnection.waitingPacket_of_idle same.idle, hostRead] at whole
    rw [(written_exchange written).1, Relay.run_told relays unforged exchanged.place_tcp alone, ← whole]
    exact (List.append_nil _).symm
  have undisturbed : Each Undisturbed tcp.trace := by
    have noFin : (TcpAction.forged synAck false).fin = none := by
      rw [TcpAction.fin, answer]
      rfl
    have fins : sentFins [TcpAction.opened 0, TcpAction.forged synAck false] = [] :=
      List.filterMap_cons_none noFin
    rw [trace]
    simp only [each_cons, each_nil]
    refine ⟨trivial, rfl, ⟨fun action mem => ?_, fins⟩, trivial, trivial, rfl, trivial⟩
    simp only [List.mem_cons, List.not_mem_nil, or_false] at mem
    rcases mem with rfl | rfl <;> exact id
  obtain ⟨-, tiles⟩ := run_downloadsThrough run unforged exchanged.place_tcp alone
  exact ⟨t, l, tcp, run, exchanged.place_tcp, hostRead, carried, tiles undisturbed 0 (by rw [trace]; simp)⟩

/-- **Datagrams, from the tun device to the host**: those that a socket was offered, followed by
those that wait, are a part of what the packets of its flow carried, in their order. -/
theorem run_datagramsThrough (run : (machine ipv6Mode).Run t l) {handle : Handle}
    {conn : UdpConnection} (place : l.relay.created[handle]? = some (.udp conn)) :
    ∃ own armed queued, Machine.Aligned (fun s : Relay => handle < s.created.length)
        (fun s label block => ∀ q ∈ block, Relay.Shows s label q.2) (steps t) own ∧
      Relay.Given handle (steps t) ⟨.udp conn, armed⟩ own ∧ conn.clientToNetwork.Holds queued ∧
      (Flow.offered own ++ queued).Sublist
        ((flowOf conn.id (routable ipv6Mode l.tunnel)).filterMap IpPacket.datagram?) := by
  obtain ⟨own, armed, runs, aligned, given, inside⟩ := run_given run place
  obtain ⟨queued, holds, part⟩ := Flow.run_queued runs rfl
  exact ⟨own, armed, queued, aligned, given, holds, part.trans (inside.sublist.filterMap _)⟩

theorem run_datagramsThrough_udp : ∃ t l conn own armed queued, (machine .off).Run t l ∧
    l.relay.created[0]? = some (.udp conn) ∧
      Relay.Given 0 (steps t) ⟨.udp conn, armed⟩ own ∧ conn.clientToNetwork.Holds queued ∧
      (Flow.offered own ++ queued).Sublist
        ((flowOf conn.id (routable .off l.tunnel)).filterMap IpPacket.datagram?) := by
  obtain ⟨t, l, conn, run, -, -, created⟩ := run_udp
  have place : l.relay.created[0]? = some (.udp conn) := congrArg (·[0]?) created
  obtain ⟨own, armed, queued, -, given, holds, part⟩ := run_datagramsThrough run place
  exact ⟨t, l, conn, own, armed, queued, run, place, given, holds, part⟩

/-- **A flow of IPv6, from the tun device to the host**: each write of its socket took a front of a
payload of the flow, and no packet was offered twice or before one that was read earlier. -/
theorem run_writes6Through (run : (machine ipv6Mode).Run t l) {handle : Handle} {conn : Ipv6Connection}
    (place : l.relay.created[handle]? = some (.ipv6 conn)) :
    ∃ offered, offered.Sublist ((flowOf conn.id (routable ipv6Mode l.tunnel)).filterMap
        IpPacket.payload?) ∧
      List.Forall₂ (· <+: ·) (Ipv6Action.writes conn.trace) offered := by
  obtain ⟨own, armed, runs, -, -, inside⟩ := run_given run place
  obtain ⟨offered, part, fronts⟩ := Flow.run_wrote runs rfl
  exact ⟨offered, part.trans (inside.sublist.filterMap _), fronts⟩

theorem run_writes6Through_udp : ∃ t l conn offered, (machine .proxy).Run t l ∧
    l.relay.created[0]? = some (.ipv6 conn) ∧ Ipv6Action.writes conn.trace = [[0x61]] ∧
      offered.Sublist ((flowOf conn.id (routable .proxy l.tunnel)).filterMap IpPacket.payload?) ∧
      List.Forall₂ (· <+: ·) (Ipv6Action.writes conn.trace) offered := by
  obtain ⟨t, l, conn, run, -, created, trace⟩ := run_udp6
  have place : l.relay.created[0]? = some (.ipv6 conn) := congrArg (·[0]?) created
  obtain ⟨offered, part, fronts⟩ := run_writes6Through run place
  exact ⟨t, l, conn, offered, run, place, by rw [trace]; rfl, part, fronts⟩

/-- **From the host to the tun device, on a flow that is forwarded.**  What is written to the tun
device of a flow with one connection is a part of what its socket received, each read whole and at
most once, in the order in which they were received. -/
theorem run_forwardedRepliesThrough (run : (machine ipv6Mode).Run t l) (unforged : l.relay.Unforged)
    {handle : Handle} {conn : Connection} (forwards : conn.Forwards)
    (place : l.relay.created[handle]? = some conn) (alone : l.relay.Alone handle conn.id) :
    ((l.tunnel.written.filterMap QueuedPacket.framed?).filterMap (payloadOf conn.id)).Sublist
      (Relay.allReceivedFrom handle (steps t)) := by
  have arrived := (run_written run unforged).filterMap (payloadOf conn.id)
  exact arrived.sublist.trans
    (Relay.run_hosted (run_linked run).relays conn place forwards alone unforged.all)

/-- The reply of the exchange is written to the tun device. -/
theorem run_forwardedRepliesThrough_exchange : ∃ t l udp, (machine .blackhole).Run t l ∧
    l.relay.created[0]? = some (.udp udp) ∧
    [0x61] ∈ (l.tunnel.written.filterMap QueuedPacket.framed?).filterMap (payloadOf udp.id) ∧
      ((l.tunnel.written.filterMap QueuedPacket.framed?).filterMap (payloadOf udp.id)).Sublist
        (Relay.allReceivedFrom 0 (steps t)) := by
  obtain ⟨t, l, udp, tcp, reply, run, exchanged, -, -, written, -⟩ := run_exchange
  exact ⟨t, l, udp, run, exchanged.place_udp, framed_exchange exchanged written,
    @run_forwardedRepliesThrough _ _ _ run (Relay.unforged_of_exchanged exchanged) _ (.udp udp) trivial
      exchanged.place_udp (Relay.alone_of_exchanged exchanged).1⟩

end Link

end ReverseTether
