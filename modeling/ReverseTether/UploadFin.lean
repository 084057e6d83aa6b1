import ReverseTether.Upload

/-!
# The FIN of the client

The relay consumes the FIN of the client once nothing is left to write before it.
`handle_packet` looks at the payload and at the FIN of a segment one after the
other, and `handle_ack` may ignore the payload: the segment completes the
handshake, the buffer is full, or there is no ACK flag.  `FinKeepsPayload` says
that this does not happen to the segment with the FIN.  It also says that no SYN
arrives between a FIN consumed before the socket was connected and the
connection, since a SYN resets the acknowledgement number then.

Under this condition the FIN is consumed once, after all bytes of the stream.

The condition looks at a packet and at the connection that it finds, before anything is done
with it.  Without it the count goes wrong in one direction only: the FIN is consumed too
early, and bytes before it are neither written nor asked for again, as
`run_loses_handshake_payload` shows with a single byte.
-/

namespace ReverseTether

open Library Relation

/-- A segment of a client that sends `stream` from `isn`, and a FIN after it. -/
def ClientFinSegment (stream : List UInt8) (isn : UInt32) (expected : ℕ) (header : TcpHeaderData)
    (payload : List UInt8) : Prop :=
  if header.isSyn then header.sequenceNumber = isn
  else ∃ offset, header.sequenceNumber = isn + 1 + UInt32.ofNat offset ∧
    payload <+: stream.drop offset ∧ offset ≤ expected + 2 ^ 31 ∧ expected ≤ offset + 2 ^ 31 ∧
    (header.isFin = true → offset ≤ stream.length ∧ payload = stream.drop offset)

/-- The packets of a run are segments of such a client. -/
def ClientFinishes (stream : List UInt8) (isn : UInt32) (s : TcpLife) : TcpLife.Label → Prop
  | .packet packet _ _ _ => ∀ header, TcpConnection.tcpHeaderOfPacket packet = .ok header →
      ∃ payload, packet.payload = .ok (some payload) ∧
        ClientFinSegment stream isn (expectedOffset s.conn) header.data payload
  | _ => True

/-- A FIN that the relay expects and that comes with a payload is acknowledging, does
not complete the handshake, and its payload fits in the buffer. -/
def FinKept (conn : TcpConnection) (header : TcpHeaderData) (payload : List UInt8) : Prop :=
  conn.tcb.state ≠ .init → header.isSyn = false → header.sequenceNumber = conn.expectedPacket →
    header.isRst = false → header.isFin = true → payload ≠ [] →
    header.isAck = true ∧ conn.tcb.state ≠ .synReceived ∧
      payload.length ≤ conn.clientToNetwork.remaining

/-- No SYN is taken for the first one after the FIN was handled. -/
def SynBeforeFin (conn : TcpConnection) (header : TcpHeaderData) : Prop :=
  conn.tcb.state = .synSent → header.isSyn = true → .finHandled ∉ conn.trace

/-- The condition on each packet of a run. -/
def FinKeepsPayload (s : TcpLife) : TcpLife.Label → Prop
  | .packet packet _ _ _ => ∀ header payload, TcpConnection.tcpHeaderOfPacket packet = .ok header →
      packet.payload = .ok (some payload) →
      FinKept s.conn header.data payload ∧ SynBeforeFin s.conn header.data
  | _ => True

theorem ClientFinSegment.clientSegment {stream : List UInt8} {isn : UInt32} {expected : ℕ}
    {header : TcpHeaderData} {payload : List UInt8}
    (segment : ClientFinSegment stream isn expected header payload) :
    ClientSegment stream isn expected header payload := by
  unfold ClientFinSegment at segment
  unfold ClientSegment
  split at segment
  · rename_i syn
    rw [if_pos syn]
    exact segment
  · rename_i noSyn
    rw [if_neg noSyn]
    obtain ⟨offset, number, carried, notAhead, notBehind, -⟩ := segment
    exact ⟨offset, number, carried, notAhead, notBehind⟩

/-- The FIN is handled at most once, when everything was written; from then on the
acknowledgement number counts the whole stream and the FIN. -/
structure FinConsumed (stream : List UInt8) (isn : UInt32) (conn : TcpConnection) : Prop where
  once : conn.trace.count .finHandled ≤ 1
  afterAll : Each (fun pre action => action = .finHandled → hostWritten pre = stream) conn.trace
  acknowledged : .finHandled ∈ conn.trace →
    conn.tcb.acknowledgementNumber = isn + 1 + UInt32.ofNat stream.length + 1

/-- The invariant behind it: a FIN that is noted comes after what is buffered, and
nothing is buffered after it was handled. -/
structure Finishes (stream : List UInt8) (isn : UInt32) (conn : TcpConnection) : Prop
    extends FinConsumed stream isn conn where
  uploads : Uploads stream isn conn
  complete : conn.tcb.state ≠ .init → .finHandled ∉ conn.trace → conn.tcb.finReceived = true →
    hostWritten conn.trace ++ conn.clientToNetwork.contents = stream
  drained : .finHandled ∈ conn.trace → conn.clientToNetwork.contents = [] ∧
    hostWritten conn.trace = stream

namespace Finishes

variable {stream : List UInt8} {isn : UInt32}

theorem of_fresh {conn : TcpConnection} (fresh : conn.Fresh) : Finishes stream isn conn := by
  have uploads : Uploads stream isn conn := .of_fresh fresh
  obtain ⟨_, _, _, _, rfl⟩ := fresh.eq_initial
  exact ⟨⟨Nat.zero_le _, each_nil _, nofun⟩, uploads, nofun, nofun⟩

theorem congr {conn conn' : TcpConnection} (inv : Finishes stream isn conn)
    (uploads : Uploads stream isn conn')
    (state : conn'.tcb.state = conn.tcb.state ∨ conn.tcb.state ≠ .init)
    (acknowledgement : conn'.tcb.acknowledgementNumber = conn.tcb.acknowledgementNumber)
    (finReceived : conn'.tcb.finReceived = conn.tcb.finReceived)
    (clientToNetwork : conn'.clientToNetwork = conn.clientToNetwork)
    (trace : conn'.trace = conn.trace) : Finishes stream isn conn' where
  once := trace ▸ inv.once
  afterAll := trace ▸ inv.afterAll
  acknowledged := by
    rw [trace, acknowledgement]
    exact inv.acknowledged
  uploads := uploads
  complete notInit := by
    rw [trace, clientToNetwork, finReceived]
    rcases state with same | notInit'
    · exact inv.complete (same ▸ notInit)
    · exact inv.complete notInit'
  drained := by
    rw [trace, clientToNetwork]
    exact inv.drained

/-- A recorded action that neither writes to the socket nor counts a FIN. -/
theorem record {conn : TcpConnection} (inv : Finishes stream isn conn) (action : TcpAction)
    (silent : action.written = []) (noFin : action ≠ .finHandled) :
    Finishes stream isn (conn.record action) := by
  have written : hostWritten (conn.trace ++ [action]) = hostWritten conn.trace := by
    rw [hostWritten_append, silent, List.append_nil]
  have handled : .finHandled ∈ conn.trace ++ [action] ↔ .finHandled ∈ conn.trace := by
    rw [List.mem_append, List.mem_singleton]
    exact or_iff_left (Ne.symm noFin)
  refine ⟨⟨?_, each_append.mpr ⟨inv.afterAll, fun new => absurd new noFin⟩,
    fun mem => inv.acknowledged (handled.mp mem)⟩, ?_, ?_, ?_⟩
  · show (conn.trace ++ [action]).count .finHandled ≤ 1
    rw [List.count_append, @List.count_eq_zero_of_not_mem _ _ _ _ [action]
      (fun mem => noFin (List.mem_singleton.mp mem).symm)]
    exact inv.once
  · exact inv.uploads.congr_record rfl silent noFin (.inl rfl) rfl rfl rfl
  · intro notInit notHandled finReceived
    show hostWritten (conn.trace ++ [action]) ++ _ = _
    rw [written]
    exact inv.complete notInit (fun mem => notHandled (handled.mpr mem)) finReceived
  · intro mem
    show _ ∧ hostWritten (conn.trace ++ [action]) = _
    rw [written]
    exact inv.drained (handled.mp mem)

theorem reply {c c' : TcpContext} {flags : UInt16} (inv : Finishes stream isn c.conn)
    (forged : c.replyEmptyPacketToClient flags = .ok c') : Finishes stream isn c'.conn := by
  obtain ⟨packet, packetizer, sent, -, -, same⟩ := TcpContext.replyEmptyPacketToClient_ok forged
  have rebuilt : Finishes stream isn { c.conn with networkToClient := packetizer } :=
    inv.congr (inv.uploads.congr (.inl rfl) rfl rfl rfl rfl Iff.rfl) (.inl rfl) rfl rfl rfl rfl
  rw [same]
  exact rebuilt.record _ rfl nofun

/-- Nothing is written once the FIN was handled. -/
theorem notHandled_of_write {conn : TcpConnection} (inv : Finishes stream isn conn)
    {answer : IoResult ℕ} {written : List UInt8}
    {clientToNetwork : StreamBuffer (4 * maxPacketLength)}
    (wrote : conn.clientToNetwork.writeTo answer = (.ok written, clientToNetwork))
    (nonempty : written ≠ []) : .finHandled ∉ conn.trace := by
  intro mem
  have contents := StreamBuffer.contents_writeTo wrote
  rw [(inv.drained mem).1] at contents
  exact nonempty (List.append_eq_nil_iff.mp contents.symm).1

/-- Counting the FIN when all is written and nothing is buffered. -/
theorem countReceivedFin {c : TcpContext} (inv : Uploads stream isn c.conn)
    (notInit : c.conn.tcb.state ≠ .init) (notHandled : .finHandled ∉ c.conn.trace)
    (all : hostWritten c.conn.trace ++ c.conn.clientToNetwork.contents = stream)
    (empty : c.conn.clientToNetwork.isEmpty = true)
    (uploads : Uploads stream isn c.countReceivedFin.conn) :
    Finishes stream isn c.countReceivedFin.conn := by
  have contents := (StreamBuffer.isEmpty_iff _).mp empty
  rw [contents, List.append_nil] at all
  have written : hostWritten (c.conn.trace ++ [.finHandled]) = stream := by
    rw [hostWritten_append, all]
    exact List.append_nil _
  have before : Each (fun pre action => action = .finHandled → hostWritten pre = stream)
      c.conn.trace :=
    each_of_forall_mem fun action mem pre new => absurd (new ▸ mem) notHandled
  refine ⟨⟨?_, each_append.mpr ⟨before, fun _ => all⟩, fun _ => ?_⟩, uploads,
    fun _ notHandled' => ?_, fun _ => ⟨contents, written⟩⟩
  · show (c.conn.trace ++ [TcpAction.finHandled]).count TcpAction.finHandled ≤ 1
    rw [List.count_append, List.count_eq_zero_of_not_mem notHandled]
    exact le_rfl
  · rw [TcpContext.conn_countReceivedFin]
    show c.conn.tcb.acknowledgementNumber + 1 = _
    rw [(inv.front notInit notHandled).2, all]
  · exact absurd (List.mem_append_right _ (List.mem_singleton_self _)) notHandled'

theorem move {may : TcpWork → Prop} {c c' : TcpContext}
    (connected : may .read → c.conn.tcb.state.isConnected = true)
    (inv : Finishes stream isn c.conn) (h : TcpMove may c c') : Finishes stream isn c'.conn := by
  have uploads := inv.uploads.move connected h
  cases h with
  | touch now => exact inv.congr uploads (.inl rfl) rfl rfl rfl rfl
  | interests updated =>
      obtain ⟨-, same, -⟩ := TcpContext.updateInterests_ok updated
      rw [same] at uploads ⊢
      exact inv.congr uploads (.inl rfl) rfl rfl rfl rfl
  | prime _ _ _ => exact inv.congr uploads (.inl rfl) rfl rfl rfl rfl
  | forge _ forged => exact inv.reply forged
  | close =>
      have closed : Finishes stream isn { c.conn with closed := true } :=
        inv.congr (inv.uploads.congr (.inl rfl) rfl rfl rfl rfl Iff.rfl) (.inl rfl) rfl rfl rfl rfl
      exact closed.record _ rfl (by simp)
  | removeFromRouter => exact inv
  | @connect c₁ _ synSent forged =>
      have synReceived : Finishes stream isn
          (c.withTcb fun tcb => { tcb with state := .synReceived }).conn :=
        inv.congr (inv.uploads.congr (.inr ⟨by rw [synSent]; simp, by rintro ⟨⟩, by rintro ⟨⟩⟩)
          rfl rfl rfl rfl Iff.rfl) (.inr (by rw [synSent]; simp)) rfl rfl rfl rfl
      exact (synReceived.reply forged).congr uploads (.inl rfl) rfl rfl rfl rfl
  | @write answer written clientToNetwork _ notSynSent wrote nonempty notLast =>
      have notHandled := inv.notHandled_of_write wrote nonempty
      have contents := StreamBuffer.contents_writeTo wrote
      rw [TcpContext.conn_acknowledge] at uploads ⊢
      have handled : .finHandled ∉ c.conn.trace ++ [.wrote written] := by
        rw [List.mem_append, List.mem_singleton]
        rintro (mem | new)
        · exact notHandled mem
        · cases new
      refine ⟨⟨?_, each_append.mpr ⟨inv.afterAll, by simp⟩, fun mem => absurd mem handled⟩,
        uploads, fun notInit _ finReceived => ?_, fun mem => absurd mem handled⟩
      · show (c.conn.trace ++ [TcpAction.wrote written]).count TcpAction.finHandled ≤ 1
        rw [List.count_eq_zero_of_not_mem handled]
        exact Nat.zero_le _
      · have complete := inv.complete notInit notHandled finReceived
        show hostWritten (c.conn.trace ++ [.wrote written]) ++ clientToNetwork.contents = stream
        rw [hostWritten_append, TcpAction.written, List.append_assoc, ← contents]
        exact complete
  | @writeLast answer written clientToNetwork _ notSynSent wrote nonempty finReceived empty =>
      have notHandled := inv.notHandled_of_write wrote nonempty
      have contents := StreamBuffer.contents_writeTo wrote
      have notInit : c.conn.tcb.state ≠ .init := fun init =>
        nonempty (inv.uploads.writes_nothing init wrote)
      have handled : .finHandled ∉ c.conn.trace ++ [.wrote written] := by
        rw [List.mem_append, List.mem_singleton]
        rintro (mem | new)
        · exact notHandled mem
        · cases new
      have before := inv.uploads.acknowledge notSynSent wrote nonempty
      refine countReceivedFin before notInit handled ?_ empty uploads
      have complete := inv.complete notInit notHandled finReceived
      show hostWritten (c.conn.trace ++ [.wrote written]) ++ clientToNetwork.contents = stream
      rw [hostWritten_append, TcpAction.written, List.append_assoc, ← contents]
      exact complete
  | @receive c' primed packetizer available packet _ _ _ _ _ sent =>
      have rebuilt : Finishes stream isn { c.conn with networkToClient := packetizer } :=
        inv.congr (inv.uploads.congr (.inl rfl) rfl rfl rfl rfl Iff.rfl) (.inl rfl) rfl rfl rfl rfl
      have read := rebuilt.record (.read (primed.chunk available c.receivable)) rfl (by simp)
      obtain ⟨_, _, _, -, ⟨payload, -, -, same, -⟩ | ⟨-, same, -⟩⟩ :=
        TcpContext.sendDataToClient_ok sent
      · rw [same]
        refine record ?_ (.handed packet.raw) rfl (by simp)
        exact read.congr (read.uploads.congr (.inl rfl) rfl rfl rfl rfl Iff.rfl) (.inl rfl)
          rfl rfl rfl rfl
      · rw [same]
        refine record ?_ (.deferred packet.raw) rfl (by simp)
        exact read.congr (read.uploads.congr (.inl rfl) rfl rfl rfl rfl Iff.rfl) (.inl rfl)
          rfl rfl rfl rfl
  | eof reading _ ended =>
      obtain ⟨c₁, forged, rest⟩ := bind_eq_ok.mp ended
      cases rest
      have found : Finishes stream isn (c.record .readEof).conn := inv.record _ rfl (by simp)
      have notInit : c₁.conn.tcb.state ≠ .init := by
        obtain ⟨_, _, _, -, -, same⟩ := TcpContext.replyEmptyPacketToClient_ok forged
        rw [same]
        rintro init
        have := connected reading
        rw [show c.conn.tcb.state = .init from init] at this
        cases this
      exact (found.reply forged).congr uploads (.inr notInit) rfl rfl rfl rfl
  | @answerFin c₁ established forged =>
      have notInit : c₁.conn.tcb.state ≠ .init := by
        obtain ⟨_, _, _, -, -, same⟩ := TcpContext.replyEmptyPacketToClient_ok forged
        rw [same]
        show c.conn.tcb.state ≠ .init
        rw [established]
        simp
      exact (inv.reply forged).congr uploads (.inr notInit) rfl rfl rfl rfl
  | closing finWait1 => exact inv.congr uploads (.inr (by rw [finWait1]; simp)) rfl rfl rfl rfl
  | finAcked finWait1 => exact inv.congr uploads (.inr (by rw [finWait1]; simp)) rfl rfl rfl rfl
  | @deliver length _ _ =>
      refine record ?_ (.delivered (c.conn.networkToClient.inflate length).raw) rfl (by simp)
      exact inv.congr (inv.uploads.congr (.inl rfl) rfl rfl rfl rfl Iff.rfl) (.inl rfl)
        rfl rfl rfl rfl

/-- Where the relay stands, before and after the FIN. -/
theorem expectedPacket_eq {conn : TcpConnection} (inv : Finishes stream isn conn)
    (notInit : conn.tcb.state ≠ .init) :
    conn.expectedPacket = isn + 1 + UInt32.ofNat (expectedOffset conn) ∧
      (.finHandled ∈ conn.trace → expectedOffset conn = stream.length + 1) := by
  by_cases handled : .finHandled ∈ conn.trace
  · obtain ⟨contents, written⟩ := inv.drained handled
    have counted : conn.trace.count .finHandled = 1 :=
      le_antisymm inv.once (List.count_pos_iff.mpr handled)
    have size : conn.clientToNetwork.size = 0 := by
      rw [← StreamBuffer.length_contents, contents]
      rfl
    have place : expectedOffset conn = stream.length + 1 := by
      rw [expectedOffset, counted, written, contents]
      rfl
    refine ⟨?_, fun _ => place⟩
    rw [TcpConnection.expectedPacket, inv.acknowledged handled, size, place, UInt32.ofNat_add,
      UInt32.add_assoc _ (UInt32.ofNat _)]
    exact UInt32.add_zero _
  · exact ⟨(inv.uploads.expectedPacket_eq notInit handled).2, fun mem => absurd mem handled⟩

/-- An expected segment is at the place where the relay stands. -/
theorem expected_offset {conn : TcpConnection} (inv : Finishes stream isn conn)
    (notInit : conn.tcb.state ≠ .init) {header : TcpHeaderData} {payload : List UInt8}
    (noSyn : header.isSyn = false)
    (segment : ClientFinSegment stream isn (expectedOffset conn) header payload)
    (expected : header.sequenceNumber = conn.expectedPacket) :
    payload <+: stream.drop (expectedOffset conn) ∧ (header.isFin = true →
      expectedOffset conn ≤ stream.length ∧ payload = stream.drop (expectedOffset conn)) := by
  rw [ClientFinSegment, noSyn] at segment
  obtain ⟨offset, number, carried, notAhead, notBehind, fin⟩ := segment
  have here := offset_unique (number.symm.trans (expected.trans (inv.expectedPacket_eq notInit).1))
    notAhead notBehind
  rw [here] at carried fin
  exact ⟨carried, fin⟩

/-- The acknowledgement part of an expected segment: a FIN that was noted or handled
lets nothing follow it. -/
theorem ackPart {packet : Ipv4Packet} {header : TcpHeaderData} {payload : List UInt8}
    {c c' : TcpContext} (inv : Finishes stream isn c.conn) (notInit : c.conn.tcb.state ≠ .init)
    (noSyn : header.isSyn = false) (expected : header.sequenceNumber = c.conn.expectedPacket)
    (carried : packet.payload = .ok (some payload))
    (segment : ClientFinSegment stream isn (expectedOffset c.conn) header payload)
    (acked : (if header.isAck then (c.noteWindow header).handleAck packet
      else .ok (c.noteWindow header)) = .ok c') : Finishes stream isn c'.conn := by
  obtain ⟨uploads, -⟩ :=
    inv.uploads.ackPart notInit noSyn expected carried segment.clientSegment acked
  rcases ackPart_ok acked with ⟨-, -, same⟩ | ⟨same, -⟩ |
    ⟨payload', clientToNetwork, carried', stored, same⟩
  · rw [same] at uploads ⊢
    exact inv.congr uploads (.inr notInit) rfl rfl rfl rfl
  · rw [same] at uploads ⊢
    exact inv.congr uploads (.inr notInit) rfl rfl rfl rfl
  · rw [carried] at carried'
    cases carried'
    have contents := StreamBuffer.contents_readFrom stored
    have next := (inv.expected_offset notInit noSyn segment expected).1
    rw [same] at uploads ⊢
    refine ⟨⟨inv.once, inv.afterAll, inv.acknowledged⟩, uploads,
      fun _ notHandled finReceived => ?_, fun handled => ?_⟩
    · have complete := inv.complete notInit notHandled finReceived
      have front := (inv.uploads.expectedPacket_eq notInit notHandled).1
      rw [front, complete, List.drop_length, List.prefix_nil] at next
      show hostWritten c.conn.trace ++ clientToNetwork.contents = stream
      rw [contents, next, List.append_nil]
      exact complete
    · have place := (inv.expectedPacket_eq notInit).2 handled
      rw [place, List.drop_of_length_le (Nat.le_succ _), List.prefix_nil] at next
      refine ⟨?_, (inv.drained handled).2⟩
      show clientToNetwork.contents = []
      rw [contents, next, (inv.drained handled).1]
      rfl

/-- A FIN is noted only with all that is before it. -/
theorem fin_complete {packet : Ipv4Packet} {header : TcpHeaderData} {payload : List UInt8}
    {c c' : TcpContext} (inv : Finishes stream isn c.conn) (notInit : c.conn.tcb.state ≠ .init)
    (noSyn : header.isSyn = false) (expected : header.sequenceNumber = c.conn.expectedPacket)
    (noRst : header.isRst = false) (isFin : header.isFin = true)
    (carried : packet.payload = .ok (some payload))
    (segment : ClientFinSegment stream isn (expectedOffset c.conn) header payload)
    (kept : FinKept c.conn header payload)
    (acked : (if header.isAck then (c.noteWindow header).handleAck packet
      else .ok (c.noteWindow header)) = .ok c') :
    .finHandled ∉ c'.conn.trace ∧
      hostWritten c'.conn.trace ++ c'.conn.clientToNetwork.contents = stream := by
  obtain ⟨inside, rest⟩ := (inv.expected_offset notInit noSyn segment expected).2 isFin
  have notHandled : .finHandled ∉ c.conn.trace := by
    intro handled
    have place := (inv.expectedPacket_eq notInit).2 handled
    omega
  obtain ⟨front, -⟩ := inv.uploads.front notInit notHandled
  obtain ⟨after, split⟩ := front
  have remaining : payload = after := by
    rw [rest, (inv.uploads.expectedPacket_eq notInit notHandled).1, ← split, List.drop_left]
  subst remaining
  have empty : payload = [] →
      hostWritten c.conn.trace ++ c.conn.clientToNetwork.contents = stream := by
    rintro rfl
    rwa [List.append_nil] at split
  rcases ackPart_ok acked with ⟨synReceived, -, same⟩ | ⟨same, dropped⟩ |
    ⟨payload', clientToNetwork, carried', stored, same⟩
  · -- the handshake is completed, so there is no payload
    rw [same]
    refine ⟨notHandled, empty ?_⟩
    by_contra nonempty
    exact (kept notInit noSyn expected noRst isFin nonempty).2.1 synReceived
  · -- the payload is ignored, so there is none
    rw [same]
    refine ⟨notHandled, empty ?_⟩
    by_contra nonempty
    obtain ⟨isAck, -, fits⟩ := kept notInit noSyn expected noRst isFin nonempty
    obtain ⟨-, payload', carried', reason⟩ := dropped isAck
    rw [carried] at carried'
    cases carried'
    rcases reason with reason | reason
    · exact nonempty reason
    · omega
  · rw [carried] at carried'
    cases carried'
    rw [same]
    refine ⟨notHandled, ?_⟩
    show hostWritten c.conn.trace ++ clientToNetwork.contents = stream
    rw [StreamBuffer.contents_readFrom stored, ← List.append_assoc]
    exact split

theorem noteFin {c : TcpContext} (inv : Finishes stream isn c.conn)
    (notInit : c.conn.tcb.state ≠ .init) (notHandled : .finHandled ∉ c.conn.trace)
    (complete : hostWritten c.conn.trace ++ c.conn.clientToNetwork.contents = stream) :
    Finishes stream isn c.noteFin.conn := by
  have uploads := inv.uploads.noteFin notInit
  have noted : Uploads stream isn
      (c.withTcb fun tcb => { tcb with finReceived := true }).conn :=
    ⟨fun init => absurd init notInit, inv.uploads.unwritten, inv.uploads.front⟩
  unfold TcpContext.noteFin at uploads ⊢
  simp only at uploads ⊢
  split at uploads
  · rename_i empty
    rw [if_pos empty]
    exact countReceivedFin noted notInit notHandled complete empty uploads
  · rename_i nonempty
    rw [if_neg nonempty]
    exact ⟨⟨inv.once, inv.afterAll, inv.acknowledged⟩, uploads, fun _ _ _ => complete,
      fun mem => absurd mem notHandled⟩

/-- Every arrival of a segment of the client that meets the condition. -/
theorem arrival {packet : Ipv4Packet} {header : TcpHeaderData} {random : UInt32}
    {payload : List UInt8} {c c' : TcpContext} (inv : Finishes stream isn c.conn)
    (carried : packet.payload = .ok (some payload))
    (segment : ClientFinSegment stream isn (expectedOffset c.conn) header payload)
    (kept : FinKept c.conn header payload) (before : SynBeforeFin c.conn header)
    (h : TcpArrival packet header random c c') : Finishes stream isn c'.conn := by
  have uploads := inv.uploads.arrival carried segment.clientSegment h
  cases h with
  | opened init syn =>
      obtain ⟨-, -, noFin, earlier⟩ := inv.uploads.untouched init
      have notHandled : .finHandled ∉ c.conn.trace ++ [.opened random] := by
        rw [List.mem_append, List.mem_singleton]
        rintro (mem | new)
        · exact earlier mem
        · cases new
      refine ⟨⟨?_, each_append.mpr ⟨inv.afterAll, nofun⟩, fun mem => absurd mem notHandled⟩, uploads,
        fun _ _ finReceived => ?_, fun mem => absurd mem notHandled⟩
      · show (c.conn.trace ++ [TcpAction.opened random]).count TcpAction.finHandled ≤ 1
        rw [List.count_eq_zero_of_not_mem notHandled]
        exact Nat.zero_le _
      · exact absurd (noFin.symm.trans finReceived) nofun
  | refused init _ => exact inv.congr uploads (.inl rfl) rfl rfl rfl rfl
  | reopened synSent syn =>
      have notHandled := before synSent syn
      exact ⟨⟨inv.once, inv.afterAll, fun mem => absurd mem notHandled⟩, uploads,
        fun _ _ => inv.complete (synSent ▸ nofun) notHandled, fun mem => absurd mem notHandled⟩
  | lateSyn _ _ _ => exact inv
  | ignored _ _ _ => exact inv
  | reset _ _ _ _ => exact inv.congr uploads (.inl rfl) rfl rfl rfl rfl
  | @expected acked notInit noSyn expected noRst ackPart =>
      have after := inv.ackPart notInit noSyn expected carried segment ackPart
      have notInit' := (inv.uploads.ackPart notInit noSyn expected carried
        segment.clientSegment ackPart).2
      by_cases isFin : header.isFin = true
      · rw [if_pos isFin]
        obtain ⟨notHandled, complete⟩ := inv.fin_complete notInit noSyn expected noRst isFin
          carried segment kept ackPart
        exact after.noteFin notInit' notHandled complete
      · rw [if_neg isFin]
        exact after

end Finishes

namespace TcpLife

variable {stream : List UInt8} {isn : UInt32} {t : List (TcpLife × Label)} {s : TcpLife}

/-- **The FIN is consumed once, after everything.**  For a client that sends one
stream and then a FIN, if no packet of the run makes the relay note a FIN without the
payload before it, `do_handle_fin` is executed at most once, when all bytes of the
stream were written, and the acknowledgement number then counts the stream and the
FIN. -/
theorem run_finConsumed (run : machine.Run t s)
    (client : Machine.Meets (ClientFinishes stream isn) t)
    (kept : Machine.Meets FinKeepsPayload t) : FinConsumed stream isn s.conn := by
  suffices h : Finishes stream isn s.conn from h.toFinConsumed
  have both : Machine.Meets (fun s l => ClientFinishes stream isn s l ∧ FinKeepsPayload s l) t :=
    fun p mem => ⟨client p mem, kept p mem⟩
  refine run_invariant (Finishes stream isn) (fun conn fresh => .of_fresh fresh) ?_ ?_ run both
  · rintro s packet random overflowChecks now header c c₁ ⟨segment, keeps⟩ tcp same inv arrived
    obtain ⟨payload, carried, segment⟩ := segment header tcp
    obtain ⟨finKept, before⟩ := keeps header payload tcp carried
    have touched : Finishes stream isn c.conn := by
      rw [same]
      exact inv.congr (inv.uploads.congr (.inl rfl) rfl rfl rfl rfl Iff.rfl) (.inl rfl)
        rfl rfl rfl rfl
    rw [show s.conn = { c.conn with idleSince := s.conn.idleSince } by rw [same]; rfl]
      at segment finKept before
    exact touched.arrival carried segment finKept before arrived
  · rintro may c c' connected inv move
    exact inv.move connected move

/-- A SYN with the right number is a segment of any client, whatever came before. -/
theorem clientFinishes_syn (s : TcpLife) :
    ClientFinishes [0x61] 0 s (.packet (segmentPacket 0 0 2 []) 0 false 0) := by
  intro header tcp
  cases tcp
  refine ⟨[], rfl, ?_⟩
  rw [ClientFinSegment, if_pos (by decide)]
  decide

/-- A segment that is no SYN is one of such a client if it carries the stream from its offset. -/
theorem clientFinishes_segment {stream payload : List UInt8} {isn : UInt32} {s : TcpLife}
    {packet : Ipv4Packet} {header : TcpHeader} {random : UInt32} {overflowChecks : Bool}
    {now : Instant} (offset : ℕ) (tcp : TcpConnection.tcpHeaderOfPacket packet = .ok header)
    (carried : packet.payload = .ok (some payload)) (noSyn : header.data.isSyn = false)
    (number : header.data.sequenceNumber = isn + 1 + UInt32.ofNat offset)
    (carries : payload <+: stream.drop offset) (notAhead : offset ≤ expectedOffset s.conn + 2 ^ 31)
    (notBehind : expectedOffset s.conn ≤ offset + 2 ^ 31)
    (last : header.data.isFin = true → offset ≤ stream.length ∧ payload = stream.drop offset) :
    ClientFinishes stream isn s (.packet packet random overflowChecks now) := by
  intro header' tcp'
  cases tcp.symm.trans tcp'
  refine ⟨payload, carried, ?_⟩
  rw [ClientFinSegment, if_neg (by rw [noSyn]; exact Bool.false_ne_true)]
  exact ⟨offset, number, carries, notAhead, notBehind, last⟩

/-- A segment with neither SYN nor FIN keeps no FIN from its payload. -/
theorem finKeepsPayload_unfinished {s : TcpLife} {packet : Ipv4Packet} {header : TcpHeader}
    {random : UInt32} {overflowChecks : Bool} {now : Instant}
    (tcp : TcpConnection.tcpHeaderOfPacket packet = .ok header) (noSyn : header.data.isSyn = false)
    (noFin : header.data.isFin = false) :
    FinKeepsPayload s (.packet packet random overflowChecks now) := by
  intro header' payload tcp' _
  cases tcp.symm.trans tcp'
  refine ⟨fun _ _ _ _ fin => ?_, fun _ syn => ?_⟩
  · rw [noFin] at fin
    cases fin
  · rw [noSyn] at syn
    cases syn

/-- The one byte of the stream is written, and then the FIN is handled and counted. -/
theorem run_finConsumed_byte :
    ∃ t s, machine.Run t s ∧ hostWritten s.conn.trace = [0x61] ∧
      s.conn.trace.count .finHandled = 1 ∧ FinConsumed [0x61] 0 s.conn := by
  obtain ⟨conn, fresh⟩ := TcpConnection.fresh_exists
  obtain ⟨t, s₁, synAck, ack, run₁, first, labels, -, exchanged⟩ :=
    @run_writes conn (segmentPacket 1 1 0x10 [0x61]) 0x61 [] fresh rfl rfl (by decide)
  obtain ⟨s, fin, run, -, trace⟩ := @run_answersFin t s₁ (segmentPacket 2 1 0x11 [])
    (segmentHeader 2 1 0x11) 2 1 _ run₁ exchanged rfl rfl (by decide) (by decide) (by decide)
    (by decide) (by decide) (by decide)
  have written : hostWritten s.conn.trace = [0x61] := by
    rw [trace]
    rfl
  have once : s.conn.trace.count .finHandled = 1 := by
    rw [trace]
    simp
  obtain ⟨⟨before₀, _⟩, later, rfl, rfl, others⟩ := List.map_eq_cons_iff.mp labels
  obtain rfl : before₀ = ⟨conn, .empty⟩ := Option.some.inj first
  -- the SYN comes first, and the other packets are the ACK, the byte and the FIN
  have packets (p : TcpLife × Label)
      (mem : p ∈ ((⟨conn, .empty⟩ : TcpLife), Label.packet (segmentPacket 0 0 2 []) 0 false 0) ::
        (later ++ [(s₁, Label.packet (segmentPacket 2 1 0x11 []) 0 false 0)])) :
      ClientFinishes [0x61] 0 p.1 p.2 ∧ FinKeepsPayload p.1 p.2 := by
    have near : expectedOffset p.1.conn ≤ 2 ^ 31 := by
      have bounded := expectedOffset_bounded run mem
      rw [written, once] at bounded
      exact bounded.trans (by decide)
    rcases List.mem_cons.mp mem with rfl | mem
    · refine ⟨clientFinishes_syn _, ?_⟩
      rintro header payload ⟨⟩ -
      refine ⟨fun _ noSyn => absurd noSyn (by decide), fun synSent => ?_⟩
      obtain ⟨_, _, _, _, rfl⟩ := fresh.eq_initial
      cases synSent
    · obtain ⟨before, label⟩ := p
      have label' := List.mem_map_of_mem (f := Prod.snd) mem
      rw [List.map_append, others] at label'
      simp only [List.cons_append, List.nil_append, List.map_cons, List.map_nil, List.mem_cons,
        List.not_mem_nil, or_false] at label'
      rcases label' with rfl | rfl | rfl | rfl | rfl | rfl | rfl | rfl
      · exact ⟨trivial, trivial⟩
      · exact ⟨trivial, trivial⟩
      · exact ⟨clientFinishes_segment 0 rfl rfl (by decide) (by decide) List.nil_prefix (Nat.zero_le _)
          (near.trans (Nat.le_add_left _ _)) (fun fin => by cases fin),
          finKeepsPayload_unfinished rfl (by decide) (by decide)⟩
      · exact ⟨trivial, trivial⟩
      · exact ⟨clientFinishes_segment 0 rfl rfl (by decide) (by decide) List.prefix_rfl (Nat.zero_le _)
          (near.trans (Nat.le_add_left _ _)) (fun fin => by cases fin),
          finKeepsPayload_unfinished rfl (by decide) (by decide)⟩
      · exact ⟨trivial, trivial⟩
      · exact ⟨trivial, trivial⟩
      · refine ⟨?_, ?_⟩
        · exact clientFinishes_segment 1 rfl rfl (by decide) (by decide) List.nil_prefix (by omega)
            (near.trans (Nat.le_add_left _ _)) fun _ => ⟨le_rfl, rfl⟩
        · rintro header payload ⟨⟩ ⟨⟩
          exact ⟨fun _ _ _ _ _ some => absurd rfl some, fun _ syn => by cases syn⟩
  exact ⟨_, s, run, written, once, run_finConsumed run (fun p mem => (packets p mem).1)
    fun p mem => (packets p mem).2⟩

/-- The labels of the handshake are those of such a client. -/
theorem clientFinishes_handshake {t : List (TcpLife × Label)}
    (labels : t.map Prod.snd = [.packet (segmentPacket 0 0 2 []) 0 false 0, .poll,
      .event .writable ⟨.ok none, .ok 0, .ok []⟩ 0]) :
    Machine.Meets (ClientFinishes [0x61] 0) t := by
  rintro ⟨s, label⟩ mem
  have known := @List.mem_map_of_mem _ _ _ _ Prod.snd mem
  rw [labels] at known
  simp only [List.mem_cons, List.not_mem_nil, or_false] at known
  rcases known with rfl | rfl | rfl
  · exact clientFinishes_syn s
  · trivial
  · trivial

/-- **The FIN is consumed although its byte is lost.**  The segment that completes the
handshake carries the only byte of the stream and the FIN: the byte is ignored, the
FIN is not. -/
theorem run_loses_handshake_payload :
    ∃ t s, machine.Run t s ∧
      t.map Prod.snd = [.packet (segmentPacket 0 0 2 []) 0 false 0, .poll,
        .event .writable ⟨.ok none, .ok 0, .ok []⟩ 0,
        .packet (segmentPacket 1 1 0x11 [0x61]) 0 false 0] ∧
      Machine.Meets (ClientFinishes [0x61] 0) t ∧ ¬ FinConsumed [0x61] 0 s.conn := by
  obtain ⟨conn, fresh⟩ := TcpConnection.fresh_exists
  obtain ⟨t, s, packetizer, raw, run, -, labels, forTcp, -, same⟩ :=
    @run_handshake conn (segmentPacket 0 0 2 []) (segmentHeader 0 0 2) fresh 0 rfl (by decide)
  obtain ⟨_, _, _, _, rfl⟩ := fresh.eq_initial
  obtain ⟨client, selector, usable, -⟩ :=
    @usable_exists s.conn (by rw [same]; rfl) (by rw [same]; exact forTcp) (.new _)
  have synReceived : s.conn.tcb.state = .synReceived := by rw [same]
  have expected : s.conn.expectedPacket = 1 := by
    rw [same]
    rfl
  have number : s.conn.tcb.sequenceNumber = 1 := by
    rw [same]
    rfl
  have empty : s.conn.clientToNetwork.isEmpty = true := by
    rw [same]
    rfl
  obtain ⟨c', packetizer', raw', sent, -, -, -, same'⟩ :=
    @TcpContext.Usable.finish ⟨s.conn, client, selector⟩ 0 0 (segmentPacket 1 1 0x11 [0x61])
      (segmentHeader 1 1 0x11) usable rfl (by rw [synReceived]; exact nofun) (by decide)
      (by rw [expected]; decide) (by decide) (by decide) (by decide) (.inl synReceived)
      (if_pos synReceived) empty (by rw [number]; decide)
  refine ⟨_, _, run.step (Step.packet sent), ?_, ?_, ?_⟩
  · rw [List.map_append, labels]
    rfl
  · refine Machine.meets_append.mpr ⟨clientFinishes_handshake labels, Machine.meets_singleton.mpr ?_⟩
    have offset : expectedOffset s.conn = 0 := by
      rw [same]
      rfl
    exact clientFinishes_segment 0 rfl rfl (by decide) (by decide) (List.prefix_refl _) (by omega)
      (by omega) fun _ => ⟨by decide, rfl⟩
  · intro consumed
    have trace : c'.conn.trace = [TcpAction.opened 0, TcpAction.forged raw false] ++
        TcpAction.finHandled :: [TcpAction.forged raw' s.conn.waiting] := by
      rw [same']
      show s.conn.trace ++ _ = _
      rw [same]
    have all := consumed.afterAll _ _ _ trace rfl
    cases all

end TcpLife

end ReverseTether
