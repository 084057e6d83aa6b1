import ReverseTether.TcpProgress

/-!
# From the client to the host socket

A client that sends one stream of bytes from one initial sequence number may
repeat, reorder, cut and lose its segments as it likes.  Of all the segments that
arrive, the relay takes those that begin where it stands, so the bytes the host
socket took and those still buffered are always the front of the stream, and the
acknowledgement number counts what the socket took.

The FIN is another matter: it is noted whether or not the bytes of its segment
were.  `FinKeepsPayload` says when they were.

The agreement is about segments and not about the order in which they come: each is a piece of
the stream at the position that its number gives, for some number that the stream begins at.
Numbers wrap, so of all the positions with one number only the near one can be meant:
`ClientSegment` asks for it to be within `2 ^ 31` of where the connection stands.

Bytes that the relay has no room for are dropped with the whole segment, and it relies on the
client to send them again.  Nothing forces the client to; so the statement is about what was
taken and never promises that all of it will be.
-/

namespace ReverseTether

open Library Relation

/-! ## Segments of a stream -/

/-- How far in the stream of the client the connection has come: what the socket
took, what is buffered, and the FIN. -/
def expectedOffset (conn : TcpConnection) : ℕ :=
  (hostWritten conn.trace).length + conn.clientToNetwork.contents.length +
    conn.trace.count .finHandled

/-- A segment of a client that sends `stream` from `isn`.  Its place in the stream
is within `2 ^ 31` of the one expected. -/
def ClientSegment (stream : List UInt8) (isn : UInt32) (expected : ℕ) (header : TcpHeaderData)
    (payload : List UInt8) : Prop :=
  if header.isSyn then header.sequenceNumber = isn
  else ∃ offset, header.sequenceNumber = isn + 1 + UInt32.ofNat offset ∧
    payload <+: stream.drop offset ∧ offset ≤ expected + 2 ^ 31 ∧ expected ≤ offset + 2 ^ 31

/-- The packets of a run are segments of such a client. -/
def ClientAgrees (stream : List UInt8) (isn : UInt32) (s : TcpLife) : TcpLife.Label → Prop
  | .packet packet _ _ _ => ∀ header, TcpConnection.tcpHeaderOfPacket packet = .ok header →
      ∃ payload, packet.payload = .ok (some payload) ∧
        ClientSegment stream isn (expectedOffset s.conn) header.data payload
  | _ => True

/-! ## The front of the stream -/

/-- Up to the FIN, what the socket took and what is buffered is the front of the
stream, and the acknowledgement number counts what it took. -/
structure Uploads (stream : List UInt8) (isn : UInt32) (conn : TcpConnection) : Prop where
  untouched : conn.tcb.state = .init → hostWritten conn.trace = [] ∧
    conn.clientToNetwork.contents = [] ∧ conn.tcb.finReceived = false ∧
    .finHandled ∉ conn.trace
  unwritten : conn.tcb.state = .synSent → hostWritten conn.trace = []
  front : conn.tcb.state ≠ .init → .finHandled ∉ conn.trace →
    hostWritten conn.trace ++ conn.clientToNetwork.contents <+: stream ∧
    conn.tcb.acknowledgementNumber = isn + 1 + UInt32.ofNat (hostWritten conn.trace).length

namespace Uploads

variable {stream : List UInt8} {isn : UInt32}

theorem of_fresh {conn : TcpConnection} (fresh : conn.Fresh) : Uploads stream isn conn := by
  obtain ⟨_, _, _, _, rfl⟩ := fresh.eq_initial
  exact ⟨fun _ => ⟨rfl, StreamBuffer.contents_new, rfl, List.not_mem_nil⟩, fun _ => rfl,
    fun notInit => absurd rfl notInit⟩

/-- The invariant depends on this much of a connection, and not on the state once
the first SYN is behind. -/
theorem congr {conn conn' : TcpConnection} (inv : Uploads stream isn conn)
    (state : conn'.tcb.state = conn.tcb.state ∨
      conn.tcb.state ≠ .init ∧ conn'.tcb.state ≠ .init ∧ conn'.tcb.state ≠ .synSent)
    (acknowledgement : conn'.tcb.acknowledgementNumber = conn.tcb.acknowledgementNumber)
    (finReceived : conn'.tcb.finReceived = conn.tcb.finReceived)
    (clientToNetwork : conn'.clientToNetwork = conn.clientToNetwork)
    (written : hostWritten conn'.trace = hostWritten conn.trace)
    (fin : .finHandled ∈ conn'.trace ↔ .finHandled ∈ conn.trace) : Uploads stream isn conn' where
  untouched init := by
    rw [written, clientToNetwork, finReceived, fin]
    rcases state with same | ⟨-, notInit, -⟩
    · exact inv.untouched (same ▸ init)
    · exact absurd init notInit
  unwritten synSent := by
    rw [written]
    rcases state with same | ⟨-, -, notSynSent⟩
    · exact inv.unwritten (same ▸ synSent)
    · exact absurd synSent notSynSent
  front notInit := by
    rw [written, clientToNetwork, acknowledgement, fin]
    rcases state with same | ⟨notInit', -, -⟩
    · exact inv.front (same ▸ notInit)
    · exact inv.front notInit'

/-- A move that neither writes to the socket nor counts a FIN. -/
theorem congr_record {conn conn' : TcpConnection} (inv : Uploads stream isn conn)
    {action : TcpAction} (trace : conn'.trace = conn.trace ++ [action])
    (silent : action.written = []) (noFin : action ≠ .finHandled)
    (state : conn'.tcb.state = conn.tcb.state ∨
      conn.tcb.state ≠ .init ∧ conn'.tcb.state ≠ .init ∧ conn'.tcb.state ≠ .synSent)
    (acknowledgement : conn'.tcb.acknowledgementNumber = conn.tcb.acknowledgementNumber)
    (finReceived : conn'.tcb.finReceived = conn.tcb.finReceived)
    (clientToNetwork : conn'.clientToNetwork = conn.clientToNetwork) :
    Uploads stream isn conn' := by
  refine inv.congr state acknowledgement finReceived clientToNetwork ?_ ?_
  · rw [trace, hostWritten_append, silent, List.append_nil]
  · rw [trace, List.mem_append, List.mem_singleton]
    exact or_iff_left (Ne.symm noFin)

/-- A forged segment changes nothing here. -/
theorem reply {c c' : TcpContext} {flags : UInt16} (inv : Uploads stream isn c.conn)
    (forged : c.replyEmptyPacketToClient flags = .ok c') : Uploads stream isn c'.conn := by
  obtain ⟨packet, packetizer, sent, -, -, same⟩ := TcpContext.replyEmptyPacketToClient_ok forged
  rw [same]
  exact inv.congr_record rfl rfl nofun (.inl rfl) rfl rfl rfl

/-- There is nothing to write before the first SYN. -/
theorem writes_nothing {conn : TcpConnection} (inv : Uploads stream isn conn)
    (init : conn.tcb.state = .init) {answer : IoResult ℕ} {written : List UInt8}
    {clientToNetwork : StreamBuffer (4 * maxPacketLength)}
    (wrote : conn.clientToNetwork.writeTo answer = (.ok written, clientToNetwork)) :
    written = [] := by
  have contents := StreamBuffer.contents_writeTo wrote
  rw [(inv.untouched init).2.1] at contents
  exact (List.append_eq_nil_iff.mp contents.symm).1

/-- The socket takes bytes from the front of the buffer. -/
theorem acknowledge {c : TcpContext} (inv : Uploads stream isn c.conn)
    (notSynSent : c.conn.tcb.state ≠ .synSent) {answer : IoResult ℕ} {written : List UInt8}
    {clientToNetwork : StreamBuffer (4 * maxPacketLength)}
    (wrote : c.conn.clientToNetwork.writeTo answer = (.ok written, clientToNetwork))
    (nonempty : written ≠ []) : Uploads stream isn (c.acknowledge written clientToNetwork).conn := by
  have contents := StreamBuffer.contents_writeTo wrote
  rw [TcpContext.conn_acknowledge]
  refine ⟨fun init => ?_, fun synSent => absurd synSent notSynSent, fun notInit noFin => ?_⟩
  · exact absurd (inv.writes_nothing init wrote) nonempty
  · have earlier : .finHandled ∉ c.conn.trace := fun mem =>
      noFin (List.mem_append_left _ mem)
    obtain ⟨front, acknowledgement⟩ := inv.front notInit earlier
    dsimp only [TcpConnection.record]
    rw [hostWritten_append]
    refine ⟨?_, ?_⟩
    · rw [TcpAction.written, List.append_assoc, ← contents]
      exact front
    · rw [TcpAction.written, List.length_append, UInt32.ofNat_add, acknowledgement,
        UInt32.add_assoc]

theorem move {may : TcpWork → Prop} {c c' : TcpContext}
    (connected : may .read → c.conn.tcb.state.isConnected = true)
    (inv : Uploads stream isn c.conn) (h : TcpMove may c c') : Uploads stream isn c'.conn := by
  cases h with
  | touch now => exact inv.congr (.inl rfl) rfl rfl rfl rfl Iff.rfl
  | interests updated =>
      obtain ⟨-, same, -⟩ := TcpContext.updateInterests_ok updated
      rw [same]
      exact inv.congr (.inl rfl) rfl rfl rfl rfl Iff.rfl
  | prime _ _ _ => exact inv.congr (.inl rfl) rfl rfl rfl rfl Iff.rfl
  | forge _ forged => exact inv.reply forged
  | close => exact inv.congr_record rfl rfl nofun (.inl rfl) rfl rfl rfl
  | removeFromRouter => exact inv
  | connect _ synSent forged =>
      have synReceived : Uploads stream isn
          (c.withTcb fun tcb => { tcb with state := .synReceived }).conn :=
        inv.congr (.inr ⟨synSent ▸ nofun, nofun, nofun⟩) rfl rfl rfl rfl Iff.rfl
      exact (synReceived.reply forged).congr (.inl rfl) rfl rfl rfl rfl Iff.rfl
  | write _ notSynSent wrote nonempty _ => exact inv.acknowledge notSynSent wrote nonempty
  | @writeLast answer written clientToNetwork _ notSynSent wrote nonempty _ _ =>
      rw [TcpContext.conn_countReceivedFin, TcpContext.conn_acknowledge]
      refine ⟨fun init => ?_, fun synSent => absurd synSent notSynSent, fun _ noFin => ?_⟩
      · exact absurd (inv.writes_nothing init wrote) nonempty
      · exact absurd (List.mem_append_right _ (List.mem_singleton_self _)) noFin
  | receive _ _ _ _ _ sent =>
      have read {p : Packetizer} {data : List UInt8} : Uploads stream isn
          ({ c.conn with networkToClient := p }.record (.read data)) :=
        inv.congr_record rfl rfl nofun (.inl rfl) rfl rfl rfl
      obtain ⟨_, _, _, -, ⟨_, -, -, same, -⟩ | ⟨-, same, -⟩⟩ := TcpContext.sendDataToClient_ok sent
      · rw [same]
        exact read.congr_record rfl rfl nofun (.inl rfl) rfl rfl rfl
      · rw [same]
        exact read.congr_record rfl rfl nofun (.inl rfl) rfl rfl rfl
  | eof reading _ ended =>
      obtain ⟨c₁, forged, rest⟩ := bind_eq_ok.mp ended
      cases rest
      have notInit : c.conn.tcb.state ≠ .init := by
        rintro init
        have := connected reading
        rw [init] at this
        cases this
      have found : Uploads stream isn (c.record .readEof).conn :=
        inv.congr_record rfl rfl nofun (.inl rfl) rfl rfl rfl
      have state : c₁.conn.tcb.state = c.conn.tcb.state := by
        obtain ⟨_, _, _, -, -, same⟩ := TcpContext.replyEmptyPacketToClient_ok forged
        rw [same]
        rfl
      refine (found.reply forged).congr (.inr ⟨state ▸ notInit, ?_, ?_⟩) rfl rfl rfl rfl Iff.rfl
      · show (if _ then _ else _) ≠ _
        split <;> nofun
      · show (if _ then _ else _) ≠ _
        split <;> nofun
  | @answerFin c₁ established forged =>
      have state : c₁.conn.tcb.state = .established := by
        obtain ⟨_, _, _, -, -, same⟩ := TcpContext.replyEmptyPacketToClient_ok forged
        rw [same]
        exact established
      exact (inv.reply forged).congr (.inr ⟨state ▸ nofun, nofun, nofun⟩) rfl rfl rfl rfl Iff.rfl
  | closing finWait1 =>
      exact inv.congr (.inr ⟨finWait1 ▸ nofun, nofun, nofun⟩) rfl rfl rfl rfl Iff.rfl
  | finAcked finWait1 =>
      exact inv.congr (.inr ⟨finWait1 ▸ nofun, nofun, nofun⟩) rfl rfl rfl rfl Iff.rfl
  | deliver _ _ => exact inv.congr_record rfl rfl nofun (.inl rfl) rfl rfl rfl

/-- Where the relay stands, as a sequence number. -/
theorem expectedPacket_eq {conn : TcpConnection} (inv : Uploads stream isn conn)
    (notInit : conn.tcb.state ≠ .init) (noFin : .finHandled ∉ conn.trace) :
    expectedOffset conn = (hostWritten conn.trace ++ conn.clientToNetwork.contents).length ∧
      conn.expectedPacket = isn + 1 + UInt32.ofNat (expectedOffset conn) := by
  obtain ⟨-, acknowledgement⟩ := inv.front notInit noFin
  have place : expectedOffset conn = (hostWritten conn.trace).length + conn.clientToNetwork.size := by
    rw [expectedOffset, List.count_eq_zero_of_not_mem noFin, StreamBuffer.length_contents,
      Nat.add_zero]
  refine ⟨?_, ?_⟩
  · rw [place, List.length_append, StreamBuffer.length_contents]
  · rw [TcpConnection.expectedPacket, acknowledgement, place, UInt32.ofNat_add, UInt32.add_assoc]

/-- A segment that begins where the relay stands carries what comes next. -/
theorem expected_payload {conn : TcpConnection} (inv : Uploads stream isn conn)
    (notInit : conn.tcb.state ≠ .init) (noFin : .finHandled ∉ conn.trace)
    {header : TcpHeaderData} {payload : List UInt8} (noSyn : header.isSyn = false)
    (segment : ClientSegment stream isn (expectedOffset conn) header payload)
    (expected : header.sequenceNumber = conn.expectedPacket) :
    payload <+: stream.drop
      (hostWritten conn.trace ++ conn.clientToNetwork.contents).length := by
  obtain ⟨place, number⟩ := inv.expectedPacket_eq notInit noFin
  rw [ClientSegment, noSyn] at segment
  obtain ⟨offset, number', carried, notAhead, notBehind⟩ := segment
  have here := offset_unique (number'.symm.trans (expected.trans number)) notAhead notBehind
  rw [← place, ← here]
  exact carried

/-- The acknowledgement part of an expected segment. -/
theorem ackPart {packet : Ipv4Packet} {header : TcpHeaderData} {payload : List UInt8}
    {c c' : TcpContext} (inv : Uploads stream isn c.conn) (notInit : c.conn.tcb.state ≠ .init)
    (noSyn : header.isSyn = false) (expected : header.sequenceNumber = c.conn.expectedPacket)
    (carried : packet.payload = .ok (some payload))
    (segment : ClientSegment stream isn (expectedOffset c.conn) header payload)
    (acked : (if header.isAck then (c.noteWindow header).handleAck packet
      else .ok (c.noteWindow header)) = .ok c') :
    Uploads stream isn c'.conn ∧ c'.conn.tcb.state ≠ .init := by
  have window : Uploads stream isn (c.noteWindow header).conn :=
    inv.congr (.inl rfl) rfl rfl rfl rfl Iff.rfl
  rcases ackPart_ok acked with ⟨-, -, same⟩ | ⟨same, -⟩ |
    ⟨payload', clientToNetwork, carried', stored, same⟩
  · rw [same]
    exact ⟨window.congr (.inr ⟨notInit, nofun, nofun⟩) rfl rfl rfl rfl Iff.rfl, nofun⟩
  · rw [same]
    exact ⟨window, notInit⟩
  · rw [carried] at carried'
    cases carried'
    have contents := StreamBuffer.contents_readFrom stored
    rw [same]
    refine ⟨⟨fun init => absurd init notInit, inv.unwritten, fun _ noFin => ?_⟩, notInit⟩
    obtain ⟨front, acknowledgement⟩ := inv.front notInit noFin
    refine ⟨?_, acknowledgement⟩
    show hostWritten c.conn.trace ++ clientToNetwork.contents <+: stream
    rw [contents, ← List.append_assoc]
    exact prefix_append_of_drop front (inv.expected_payload notInit noFin noSyn segment expected)

theorem noteFin {c : TcpContext} (inv : Uploads stream isn c.conn)
    (notInit : c.conn.tcb.state ≠ .init) : Uploads stream isn c.noteFin.conn := by
  rcases c.noteFin_ok with ⟨-, same⟩ | ⟨-, same⟩
  · rw [same]
    refine ⟨fun init => absurd init notInit, fun synSent => ?_, fun _ noFin => ?_⟩
    · show hostWritten (c.conn.trace ++ [.finHandled]) = []
      rw [hostWritten_append, inv.unwritten synSent]
      rfl
    · exact absurd (List.mem_append_right _ (List.mem_singleton_self _)) noFin
  · rw [same]
    exact ⟨fun init => absurd init notInit, inv.unwritten, inv.front⟩

/-- Every arrival of a segment of the client. -/
theorem arrival {packet : Ipv4Packet} {header : TcpHeaderData} {random : UInt32}
    {payload : List UInt8} {c c' : TcpContext} (inv : Uploads stream isn c.conn)
    (carried : packet.payload = .ok (some payload))
    (segment : ClientSegment stream isn (expectedOffset c.conn) header payload)
    (h : TcpArrival packet header random c c') : Uploads stream isn c'.conn := by
  cases h with
  | opened init syn =>
      obtain ⟨written, contents, noFin, -⟩ := inv.untouched init
      have taken : hostWritten (c.conn.trace ++ [.opened random]) = [] := by
        rw [hostWritten_append, written]
        rfl
      rw [ClientSegment, if_pos syn] at segment
      refine ⟨nofun, fun _ => taken, fun _ _ => ?_⟩
      show hostWritten (c.conn.trace ++ [.opened random]) ++ c.conn.clientToNetwork.contents <+: stream ∧
        header.sequenceNumber + 1 =
          isn + 1 + UInt32.ofNat (hostWritten (c.conn.trace ++ [.opened random])).length
      rw [taken, contents, segment]
      exact ⟨List.nil_prefix, (UInt32.add_zero _).symm⟩
  | refused _ _ => exact inv.congr (.inl rfl) rfl rfl rfl rfl Iff.rfl
  | reopened synSent syn =>
      rw [ClientSegment, if_pos syn] at segment
      refine ⟨fun init => ?_, inv.unwritten, fun notInit noFin => ⟨(inv.front notInit noFin).1, ?_⟩⟩
      · exact absurd (synSent.symm.trans init) nofun
      · show header.sequenceNumber + 1 = isn + 1 + UInt32.ofNat (hostWritten c.conn.trace).length
        rw [segment, inv.unwritten synSent]
        exact (UInt32.add_zero _).symm
  | lateSyn _ _ _ => exact inv
  | ignored _ _ _ => exact inv
  | reset _ _ _ _ => exact inv.congr (.inl rfl) rfl rfl rfl rfl Iff.rfl
  | expected notInit noSyn expected _ acked =>
      obtain ⟨inv', notInit'⟩ := inv.ackPart notInit noSyn expected carried segment acked
      split
      · exact inv'.noteFin notInit'
      · exact inv'

end Uploads

namespace TcpLife

variable {stream : List UInt8} {isn : UInt32} {t : List (TcpLife × Label)} {s : TcpLife}

theorem uploads_of_run (run : machine.Run t s)
    (agrees : Machine.Meets (ClientAgrees stream isn) t) : Uploads stream isn s.conn := by
  refine run_invariant (Uploads stream isn) (fun conn fresh => .of_fresh fresh) ?_ ?_ run agrees
  · rintro s packet random overflowChecks now header c c₁ guarded tcp same inv arrived
    obtain ⟨payload, carried, segment⟩ := guarded header tcp
    have touched : Uploads stream isn c.conn := by
      rw [same]
      exact inv.congr (.inl rfl) rfl rfl rfl rfl Iff.rfl
    refine touched.arrival carried ?_ arrived
    rw [same]
    exact segment
  · rintro may c c' connected inv move
    exact inv.move connected move

/-- **Nothing is repeated, reordered or skipped, and nothing is acknowledged before
the host socket took it.**  Up to the FIN, for a client whose segments agree with
one stream, the bytes written to the host followed by those buffered are a prefix
of the stream, and the acknowledgement number is that of the next byte to write. -/
theorem run_uploads_front (run : machine.Run t s)
    (agrees : Machine.Meets (ClientAgrees stream isn) t) (opened : s.conn.tcb.state ≠ .init)
    (beforeFin : .finHandled ∉ s.conn.trace) :
    hostWritten s.conn.trace ++ s.conn.clientToNetwork.contents <+: stream ∧
      s.conn.tcb.acknowledgementNumber =
        isn + 1 + UInt32.ofNat (hostWritten s.conn.trace).length :=
  (uploads_of_run run agrees).front opened beforeFin

/-- A run that wrote little never came far. -/
theorem expectedOffset_bounded (run : machine.Run t s) {p : TcpLife × Label} (mem : p ∈ t) :
    expectedOffset p.1.conn ≤
      (hostWritten s.conn.trace).length + 4 * maxPacketLength + s.conn.trace.count .finHandled := by
  obtain ⟨later, trace⟩ := run_trace_prefix run mem
  have held : p.1.conn.clientToNetwork.contents.length ≤ 4 * maxPacketLength :=
    p.1.conn.clientToNetwork.length_contents ▸ p.1.conn.clientToNetwork.size_le
  have written : (hostWritten p.1.conn.trace).length ≤ (hostWritten s.conn.trace).length := by
    unfold hostWritten
    rw [← trace, List.flatMap_append, List.length_append]
    exact Nat.le_add_right _ _
  have handled : p.1.conn.trace.count .finHandled ≤ s.conn.trace.count .finHandled := by
    rw [← trace, List.count_append]
    exact Nat.le_add_right _ _
  unfold expectedOffset
  omega

/-- Of a segment of two bytes the first is written, and the second waits. -/
theorem run_uploads_front_partial :
    ∃ t s, machine.Run t s ∧ hostWritten s.conn.trace = [0x61] ∧
      s.conn.clientToNetwork.contents = [0x62] ∧
      hostWritten s.conn.trace ++ s.conn.clientToNetwork.contents <+: [0x61, 0x62, 0x63] ∧
      s.conn.tcb.acknowledgementNumber = 0 + 1 + UInt32.ofNat (hostWritten s.conn.trace).length := by
  obtain ⟨conn, fresh⟩ := TcpConnection.fresh_exists
  obtain ⟨t, s, synAck, ack, run, -, labels, -, exchanged⟩ :=
    @run_writes conn (segmentPacket 1 1 0x10 [0x61, 0x62]) 0x61 [0x62] fresh rfl rfl (by decide)
  have trace := exchanged.trace
  have written : hostWritten s.conn.trace = [0x61] := by
    rw [trace]
    rfl
  have unhandled : .finHandled ∉ s.conn.trace := by
    rw [trace]
    simp
  have agrees : Machine.Meets (ClientAgrees [0x61, 0x62, 0x63] 0) t := by
    rintro ⟨before, label⟩ mem
    have near : expectedOffset before.conn ≤ 0 + 2 ^ 31 := by
      have bounded := expectedOffset_bounded run mem
      rw [written, List.count_eq_zero_of_not_mem unhandled] at bounded
      exact bounded.trans (by decide)
    have label' := List.mem_map_of_mem (f := Prod.snd) mem
    rw [labels] at label'
    simp only [List.mem_cons, List.not_mem_nil, or_false] at label'
    rcases label' with rfl | rfl | rfl | rfl | rfl | rfl | rfl | rfl
    · rintro header ⟨⟩
      exact ⟨[], rfl, by rw [ClientSegment, if_pos (by decide)]; decide⟩
    · trivial
    · trivial
    · rintro header ⟨⟩
      refine ⟨[], rfl, ?_⟩
      rw [ClientSegment, if_neg (by decide)]
      exact ⟨0, by decide, List.nil_prefix, Nat.zero_le _, near⟩
    · trivial
    · rintro header ⟨⟩
      refine ⟨[0x61, 0x62], rfl, ?_⟩
      rw [ClientSegment, if_neg (by decide)]
      exact ⟨0, by decide, ⟨[0x63], rfl⟩, Nat.zero_le _, near⟩
    · trivial
    · trivial
  have opened : s.conn.tcb.state ≠ .init := by
    rw [exchanged.tcb]
    exact nofun
  exact ⟨t, s, run, written, exchanged.held, run_uploads_front run agrees opened unhandled⟩

end TcpLife

end ReverseTether
