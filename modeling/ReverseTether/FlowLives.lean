import ReverseTether.RelayExchange
import ReverseTether.Upload

/-!
# A flow of TCP is a life of its connection

`TcpLife` is a TCP connection that is called in any order, by a client and a selector in any
state.  A `Flow` over TCP is one: `Flow.run_tcp` reads off the same labels.  So what holds of every
life of a connection holds of every TCP connection of the relay, in whatever company it is.

`Relay.run_uploads` is the first to be carried over.  All that it asks of the client is about the
packets of the flow: each is a segment of one stream, cut, repeated, lost and reordered at will.

The step from a flow to a life loses nothing: the labels are the same, and the client and the
selector of each step are those that the relay had then.  It is used in one direction only, to
carry over what was proved of all lives; a life that no relay produces is of no interest here.

The two conditions of the upload are those under which one connection was looked at: the
numbers that a segment has are near the place where the connection stands, which `2 ^ 31`
bytes guarantee, and the first SYN has come.  The statement ends with the FIN of the client,
behind which the numbers count one more.
-/

namespace ReverseTether

open Library

/-! ## Handing over a packet needs no particular client -/

namespace TcpContext

/-- Where the socket is registered, only the connection decides. -/
theorem updateInterests_anywhere {c c' : TcpContext} (h : c.updateInterests = .ok c')
    (client : Client) {selector : Selector}
    (known : selector.registered (.connection c.conn.handle) ≠ none) :
    ∃ d, updateInterests ⟨c.conn, client, selector⟩ = .ok d ∧ d.conn = c'.conn := by
  obtain ⟨isOpen, same, -⟩ := updateInterests_ok h
  have returns : ∃ d, updateInterests ⟨c.conn, client, selector⟩ = .ok d := by
    unfold updateInterests
    rw [if_neg (by rw [isOpen]; exact Bool.false_ne_true)]
    split
    · exact ⟨_, bind_eq_ok.mpr ⟨_, Selector.reregister_eq_ok.mpr ⟨known, rfl⟩, rfl⟩⟩
    · exact ⟨_, rfl⟩
  obtain ⟨d, updated⟩ := returns
  obtain ⟨-, same', -⟩ := updateInterests_ok updated
  exact ⟨d, updated, same'.trans same.symm⟩

theorem next_anywhere {c c' : TcpContext} (h : c.next = .ok c') (client : Client)
    {selector : Selector} (known : selector.registered (.connection c.conn.handle) ≠ none) :
    ∃ d, next ⟨c.conn, client, selector⟩ = .ok d ∧ d.conn = c'.conn := by
  unfold next at h ⊢
  cases waits : c.conn.packetForClientLength with
  | none =>
      rw [waits] at h
      cases h
  | some length =>
      rw [waits] at h
      exact updateInterests_anywhere h client known

/-- What waits fits in the stream of a client that has sent nothing yet. -/
theorem next_offered {c c' : TcpContext} (h : c.next = .ok c') :
    ∃ packet client client' selector selector' d, c.conn.get = some packet ∧
      Client.sendToClient client selector packet = .ok (.ok (), client', selector') ∧
      next ⟨c.conn, client', selector'⟩ = .ok d ∧ d.conn = c'.conn := by
  cases waits : c.conn.packetForClientLength with
  | none =>
      unfold next at h
      rw [waits] at h
      cases h
  | some length =>
      let selector : Selector := ⟨fun _ => some .writable, []⟩
      let packet := c.conn.networkToClient.inflate length
      have short : packet.raw.length ≤ (Client.create 0).networkToClient.remaining := by
        have least : packet.raw.length ≤ length.toNat := List.length_take_le _ _
        have small := length.toNat_lt
        have room : (Client.create 0).networkToClient.remaining = 16 * maxPacketLength :=
          StreamBuffer.remaining_eq _
        have large : maxPacketLength = 65536 := rfl
        omega
      obtain ⟨sent, client', selector', offered, -, keeps, room⟩ :=
        @Client.sendRawToClient_returns (Client.create 0) selector packet.raw (by simp [selector])
      rcases room with ⟨-, rfl⟩ | ⟨full, -⟩
      · obtain ⟨d, handed, same⟩ := @next_anywhere _ _ h client' selector' (keeps _ (by simp))
        exact ⟨packet, _, client', selector, selector', d, by rw [TcpConnection.get, waits]; rfl,
          offered, handed, same⟩
      · exact absurd short (not_le.mpr full)

end TcpContext

/-! ## The life of a TCP connection -/

namespace Flow

variable {s s' : Flow} {own : List (Flow × Label)} {conn : TcpConnection}

/-- What a step is in the life of a TCP connection.  It has no use for a packet over IPv6. -/
def Label.ofTcp? : Label → Option TcpLife.Label
  | .poll => some .poll
  | .call (.packet (.ipv4 packet) answers) =>
      some (.packet packet answers.random answers.overflowChecks answers.now)
  | .call (.packet (.ipv6 _) _) => none
  | .call (.event ready answers now) => some (.event ready answers now)
  | .call .close => some .close
  | .call .expire => some .expire
  | .call .next => some .deliver

theorem Opened.fresh (opened : Opened (.tcp conn)) : conn.Fresh := by
  obtain ⟨c, id, packet, answers, selector, known, -, ⟨raw, parsed⟩, created⟩ := opened
  cases Router.createConnection_creates created with
  | tcp _ headers made => exact ⟨_, _, _, _, _, _, _, _, _, parsed, known, headers, made⟩

/-- A connection stays of its kind. -/
theorem Step.tcp {label : Label} (step : Step s label s') (tcp : s'.conn = .tcp conn) :
    ∃ before, s.conn = .tcp before := by
  cases step with
  | poll => exact ⟨conn, tcp⟩
  | @call call client selector f isOpen _ executes =>
      have returns := executes.returns
      cases kind : s.conn with
      | tcp before => exact ⟨before, rfl⟩
      | udp _ =>
          rw [kind] at returns
          obtain ⟨_, _, -, same⟩ := returns.udp
          exact absurd (same.conn.symm.trans tcp) (by simp [UdpContext.asConnection])
      | ipv6 _ =>
          rw [kind] at returns
          obtain ⟨_, _, -, same⟩ := returns.ipv6
          exact absurd (same.conn.symm.trans tcp) (by simp [Ipv6Context.asConnection])

/-- A step of a flow is one of the life of its connection, or none. -/
theorem Step.life {before : TcpConnection} {armed armed' : Ready} {label : Label}
    (step : Step ⟨.tcp before, armed⟩ label ⟨.tcp conn, armed'⟩) :
    match label.ofTcp? with
    | some label => TcpLife.Step ⟨before, armed⟩ label ⟨conn, armed'⟩
    | none => conn = before ∧ armed' = armed := by
  generalize is : (⟨.tcp conn, armed'⟩ : Flow) = s' at step
  cases step with
  | poll =>
      cases is
      exact .poll
  | @call call client selector f _ fits executes =>
      obtain ⟨connections, c', returns, same⟩ := executes.returns.tcp
      have ends : f.conn = .tcp c'.conn := same.conn
      rw [ends] at is
      cases is
      cases call with
      | packet packet answers =>
          cases packet with
          | ipv4 packet => exact .packet returns
          | ipv6 _ =>
              cases returns
              exact ⟨rfl, rfl⟩
      | event ready answers now => exact .event fits returns
      | close =>
          cases returns
          exact .close
      | expire => exact .expire returns
      | next =>
          obtain ⟨packet, _, _, _, _, d, got, offered, handed, same⟩ :=
            TcpContext.next_offered (show TcpContext.next _ = _ from returns)
          have same : d.conn = c'.conn := same
          have life : TcpLife.Step ⟨before, armed⟩ .deliver ⟨d.conn, armed⟩ :=
            .deliver got offered handed
          rw [same] at life
          exact life

/-- **A flow of TCP is a life of its connection**, with the same labels.  The steps of the flow
that are none of a TCP connection, a poll of a closed one for instance, are left out of it. -/
theorem run_tcp (run : machine.Run own s) (tcp : s.conn = .tcp conn) :
    ∃ t, TcpLife.machine.Run t ⟨conn, s.armed⟩ ∧
      t.map Prod.snd = own.filterMap fun p => p.2.ofTcp? := by
  induction run generalizing conn with
  | @start s starts =>
      obtain ⟨opened, empty⟩ := starts
      rw [tcp] at opened
      exact ⟨[], .start ⟨opened.fresh, empty⟩, rfl⟩
  | @step own s s' label run step ih =>
      obtain ⟨before, kind⟩ := Step.tcp step tcp
      obtain ⟨t, runs, labels⟩ := ih kind
      have life : Step ⟨.tcp before, s.armed⟩ label ⟨.tcp conn, s'.armed⟩ := by
        rw [← kind, ← tcp]
        exact step
      have goes := life.life
      rw [List.filterMap_append]
      cases is : label.ofTcp? with
      | none =>
          rw [is] at goes
          refine ⟨t, ?_, ?_⟩
          · rw [goes.1, goes.2]
            exact runs
          · simp [labels, is]
      | some label' =>
          rw [is] at goes
          refine ⟨_, .step runs goes, ?_⟩
          simp [labels, is]

/-- The packets of a life are those of the flow. -/
theorem mem_packetsOf {t : List (TcpLife × TcpLife.Label)} {packet : Ipv4Packet} {random : UInt32}
    {overflowChecks : Bool} {now : Instant} {before : TcpLife}
    (labels : t.map Prod.snd = own.filterMap fun p => p.2.ofTcp?)
    (mem : (before, .packet packet random overflowChecks now) ∈ t) :
    .ipv4 packet ∈ packetsOf own := by
  have mem := List.mem_map_of_mem (f := Prod.snd) mem
  rw [labels] at mem
  obtain ⟨⟨s, label⟩, step, is⟩ := List.mem_filterMap.mp mem
  refine List.mem_filterMap.mpr ⟨(s, label), step, ?_⟩
  cases label with
  | poll => cases is
  | call call =>
      cases call with
      | packet arrived answers =>
          cases arrived with
          | ipv4 _ =>
              cases is
              rfl
          | ipv6 _ => cases is
      | _ => cases is

end Flow

/-! ## Segments of one stream -/

/-- **A packet of an endpoint that sends `stream` from `isn`**, however it cuts the stream and
whatever it repeats.  What comes after its FIN stands one byte past the end. -/
def SegmentOf (stream : List UInt8) (isn : UInt32) : IpPacket → Prop
  | .ipv4 packet => ∀ header, TcpConnection.tcpHeaderOfPacket packet = .ok header →
      ∃ payload, packet.payload = .ok (some payload) ∧
        if header.data.isSyn then header.data.sequenceNumber = isn
        else ∃ offset ≤ stream.length + 1,
          header.data.sequenceNumber = isn + 1 + UInt32.ofNat offset ∧ payload <+: stream.drop offset
  | .ipv6 _ => True

namespace TcpLife

variable {stream : List UInt8} {isn : UInt32} {t : List (TcpLife × Label)} {s s' : TcpLife}

/-- The packets of a life are segments of one stream. -/
def Sends (stream : List UInt8) (isn : UInt32) : TcpLife → Label → Prop
  | _, .packet packet _ _ _ => SegmentOf stream isn (.ipv4 packet)
  | _, _ => True

/-- Up to the FIN the connection stands within the stream. -/
theorem expectedOffset_le (uploads : Uploads stream isn s.conn)
    (beforeFin : .finHandled ∉ s.conn.trace) : expectedOffset s.conn ≤ stream.length := by
  by_cases init : s.conn.tcb.state = .init
  · obtain ⟨written, contents, -, -⟩ := uploads.untouched init
    rw [expectedOffset, written, contents, List.count_eq_zero_of_not_mem beforeFin]
    exact Nat.zero_le _
  · rw [(uploads.expectedPacket_eq init beforeFin).1]
    exact (uploads.front init beforeFin).1.length_le

/-- In a stream of less than `2 ^ 31` bytes no place is too far from any other. -/
theorem clientAgrees_of_sends (short : stream.length < 2 ^ 31) {label : Label}
    (within : expectedOffset s.conn ≤ stream.length) (sends : Sends stream isn s label) :
    ClientAgrees stream isn s label := by
  cases label with
  | packet packet random overflowChecks now =>
      intro header tcp
      obtain ⟨payload, carried, segment⟩ := sends header tcp
      refine ⟨payload, carried, ?_⟩
      unfold ClientSegment
      split <;> rename_i syn
      · rw [if_pos syn] at segment
        exact segment
      · rw [if_neg syn] at segment
        obtain ⟨offset, inside, number, front⟩ := segment
        exact ⟨offset, number, front, by omega, by omega⟩
  | _ => trivial

/-- **Up to the FIN**, a client whose segments are of one stream agrees with it at every step.  A
segment names its place in the stream by a number of 32 bits; with less than half of them in the
stream the place is the only one that the relay can take it for. -/
theorem meets_clientAgrees (short : stream.length < 2 ^ 31) (run : machine.Run t s)
    (sends : Machine.Meets (Sends stream isn) t) (beforeFin : .finHandled ∉ s.conn.trace) :
    Machine.Meets (ClientAgrees stream isn) t := by
  induction run with
  | start _ => exact Machine.meets_nil _
  | @step t s s' label run step ih =>
      rw [Machine.meets_append, Machine.meets_singleton] at sends ⊢
      have before : .finHandled ∉ s.conn.trace := fun mem => beforeFin (Step.trace_prefix step |>.subset mem)
      have agrees := ih sends.1 before
      exact ⟨agrees, clientAgrees_of_sends short
        (expectedOffset_le (uploads_of_run run agrees) before) sends.2⟩

end TcpLife

/-! ## The upload of a connection of the relay -/

/-- **A flow whose packets are segments of one stream**: its socket has the front of that stream.
What is said of a life of one connection is said here of the packets that the router gave it,
whatever came in between. -/
theorem Flow.run_front {own : List (Flow × Flow.Label)} {s : Flow} {conn : TcpConnection}
    (run : Flow.machine.Run own s) (tcp : s.conn = .tcp conn) (opened : conn.tcb.state ≠ .init)
    (beforeFin : .finHandled ∉ conn.trace) {stream : List UInt8} {isn : UInt32}
    (short : stream.length < 2 ^ 31)
    (segments : ∀ packet ∈ Flow.packetsOf own, SegmentOf stream isn packet) :
    hostWritten conn.trace ++ conn.clientToNetwork.contents <+: stream ∧
      conn.tcb.acknowledgementNumber = isn + 1 + UInt32.ofNat (hostWritten conn.trace).length := by
  obtain ⟨life, lives, labels⟩ := Flow.run_tcp run tcp
  have sends : Machine.Meets (TcpLife.Sends stream isn) life := by
    rintro ⟨before, label⟩ mem
    cases label with
    | packet packet random overflowChecks now =>
        exact segments _ (Flow.mem_packetsOf labels mem)
    | _ => trivial
  have agrees := TcpLife.meets_clientAgrees short lives sends beforeFin
  exact (TcpLife.uploads_of_run lives agrees).front opened beforeFin

namespace Relay

variable {t : List (Relay × Label)} {s : Relay} {handle : Handle} {conn : TcpConnection}

/-- **A TCP connection of the relay has a life**, in whatever company it is.  All that is proved of
single connections therefore holds in the relay.  Its labels are the calls that the client and the
loop make, in their order. -/
theorem run_life (run : machine.Run t s) (place : s.created[handle]? = some (.tcp conn)) :
    ∃ life armed, TcpLife.machine.Run life ⟨conn, armed⟩ := by
  obtain ⟨own, ⟨conn', armed⟩, runs, ⟨place', -⟩, -, -⟩ :=
    (tracksFlow handle).run run (List.getElem?_eq_some_iff.mp place).1
  cases place'.symm.trans place
  obtain ⟨life, lives, -⟩ := Flow.run_tcp runs rfl
  exact ⟨life, armed, lives⟩

/-- **What the host is sent comes from the packets of the flow**, in any run of the relay and
whatever its other connections do.  If these are segments of one stream, the bytes that the socket
took and those still buffered are the front of it, and no byte is acknowledged before the socket
took it. -/
theorem run_uploads (run : machine.Run t s) (place : s.created[handle]? = some (.tcp conn))
    (opened : conn.tcb.state ≠ .init) (beforeFin : .finHandled ∉ conn.trace) :
    ∃ own armed, Given handle t ⟨.tcp conn, armed⟩ own ∧ ∀ stream isn, stream.length < 2 ^ 31 →
      (∀ packet ∈ Flow.packetsOf own, SegmentOf stream isn packet) →
        hostWritten conn.trace ++ conn.clientToNetwork.contents <+: stream ∧
          conn.tcb.acknowledgementNumber =
            isn + 1 + UInt32.ofNat (hostWritten conn.trace).length := by
  obtain ⟨own, ⟨conn', armed⟩, runs, ⟨place', -⟩, -, given⟩ :=
    (tracksFlow handle).run run (List.getElem?_eq_some_iff.mp place).1
  cases place'.symm.trans place
  exact ⟨own, armed, given, fun stream isn short segments =>
    Flow.run_front runs rfl opened beforeFin short segments⟩

/-- The packets of the exchange on its TCP flow are segments of a stream of one byte. -/
theorem exchange_segments : ∀ packet ∈ flowOf segmentId
    ((packets.decode exchangePackets.flatten).items.filterMap Verdict.packet?),
      SegmentOf [0x62] 0 packet := by
  have own : flowOf segmentId
      ((packets.decode exchangePackets.flatten).items.filterMap Verdict.packet?) =
        [.ipv4 (segmentPacket 0 0 2 []), .ipv4 (segmentPacket 1 1 0x10 []),
          .ipv4 (segmentPacket 1 1 0x18 [0x62])] := by
    rw [decode_exchange]
    rfl
  have syn : TcpConnection.tcpHeaderOfPacket (segmentPacket 0 0 2 []) = .ok (segmentHeader 0 0 2) := rfl
  have ack : TcpConnection.tcpHeaderOfPacket (segmentPacket 1 1 0x10 []) = .ok (segmentHeader 1 1 0x10) :=
    rfl
  have data : TcpConnection.tcpHeaderOfPacket (segmentPacket 1 1 0x18 [0x62]) =
      .ok (segmentHeader 1 1 0x18) := rfl
  rw [own]
  intro packet mem
  simp only [List.mem_cons, List.not_mem_nil, or_false] at mem
  rcases mem with rfl | rfl | rfl
  · intro header parsed
    cases syn.symm.trans parsed
    exact ⟨[], rfl, rfl⟩
  · intro header parsed
    cases ack.symm.trans parsed
    exact ⟨[], rfl, 0, Nat.zero_le _, rfl, List.nil_prefix⟩
  · intro header parsed
    cases data.symm.trans parsed
    exact ⟨[0x62], rfl, 0, Nat.zero_le _, rfl, List.prefix_refl _⟩

/-- A byte is written to the host, next to a flow of datagrams: its number and that of the SYN are
acknowledged. -/
theorem run_uploads_exchange : ∃ t s conn, machine.Run t s ∧ s.created[1]? = some (.tcp conn) ∧
    hostWritten conn.trace = [0x62] ∧ hostWritten conn.trace ++ conn.clientToNetwork.contents <+: [0x62] ∧
      conn.tcb.acknowledgementNumber = 0 + 1 + UInt32.ofNat (hostWritten conn.trace).length := by
  obtain ⟨t, s, udp, tcp, run, exchanged, taken⟩ := run_exchange
  obtain ⟨synAck, raw, ack, -, same⟩ := exchanged.exchanged
  obtain ⟨own, armed, given, uploads⟩ := run_uploads run exchanged.place_tcp
    (by rw [same.established]; exact nofun) (by rw [same.trace]; simp)
  have segments : ∀ packet ∈ Flow.packetsOf own, SegmentOf [0x62] 0 packet := by
    intro packet mem
    have inside := given.inside.subset mem
    rw [(run_decided run).verdicts, taken] at inside
    refine exchange_segments packet ?_
    rw [← exchanged.tcpId]
    exact inside
  have written : hostWritten tcp.trace = [0x62] := by
    rw [same.trace]
    rfl
  exact ⟨t, s, tcp, run, exchanged.place_tcp, written, uploads [0x62] 0 (by decide) segments⟩

end Relay

end ReverseTether
