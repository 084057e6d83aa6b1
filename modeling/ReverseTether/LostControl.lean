import ReverseTether.TcpProgress

/-!
# Control segments that are lost

A SYN+ACK, an ACK or a FIN+ACK that the client has no room for is lost, and the
connection goes on as if it had been sent.  `Attempt` lists the places where such a
segment is sent, with the connection before, when the segment is offered to the
client, and after.

The client of each step matters here, so a step is a `Meeting`: what happens, and the
client and the selector it meets.

The places are those from which the state goes on: the SYN+ACK, the acknowledgement of written
bytes, the answers to a FIN, and the FIN of the relay itself.  `run_recovers_iff` needs no
condition on the steps, and looks at each attempt by itself.

A client repeats what was not acknowledged, and `sendToNetwork_retransmission` says what the
relay makes of a repetition: it is not answered, so the segment that was lost is not made
again.
-/

namespace ReverseTether

open Library Relation

open TcpConnection (tcpHeaderOfPacket createEmptyResponsePacket updateHeaders)

/-! ## What a client sends again -/

/-- What the client of a flow sends again when it misses a control segment. -/
inductive Retransmission (conn : TcpConnection) (header : TcpHeaderData) : Prop
  | duplicateSyn : header.isSyn = true →
      header.sequenceNumber = conn.tcb.synSequenceNumber → Retransmission conn header
  /-- Data or a FIN that was received already is not what is expected. -/
  | alreadyReceived : header.isSyn = false →
      header.sequenceNumber ≠ conn.expectedPacket → Retransmission conn header
  /-- An ACK that does not cover the FIN. -/
  | uncoveredFin {finSequenceNumber : UInt32} : header.isSyn = false → header.isRst = false →
      header.isFin = false → conn.tcb.finSequenceNumber = some finSequenceNumber →
      header.acknowledgementNumber ≠ finSequenceNumber + 1 → Retransmission conn header

namespace TcpContext

variable {c c' : TcpContext}

theorem handleAck_keeps {packet : Ipv4Packet} (h : c.handleAck packet = .ok c') :
    c'.conn.trace = c.conn.trace ∧
      c'.conn.tcb.finSequenceNumber = c.conn.tcb.finSequenceNumber := by
  rcases handleAck_ok h with ⟨-, same⟩ | ⟨-, payload, -, ⟨same, -⟩ | ⟨clientToNetwork, -, same⟩⟩
  · rw [same]
    exact ⟨rfl, rfl⟩
  · rw [same]
    exact ⟨rfl, rfl⟩
  · rw [same]
    exact ⟨rfl, rfl⟩

/-- The end of a FIN check that the acknowledgement does not pass. -/
theorem afterFin_eq {overflowChecks : Bool} {finSequenceNumber acked : UInt32}
    (h : afterFin overflowChecks finSequenceNumber = .ok acked) : acked = finSequenceNumber + 1 := by
  unfold afterFin at h
  split at h
  · cases h
  · cases h
    rfl

theorem handlePacket_retransmission {packet : Ipv4Packet} {header : TcpHeader} {random : UInt32}
    {overflowChecks : Bool} (notInit : c.conn.tcb.state ≠ .init)
    (tcp : tcpHeaderOfPacket packet = .ok header) (again : Retransmission c.conn header.data)
    (h : c.handlePacket packet random overflowChecks = .ok c') :
    c'.conn.trace = c.conn.trace := by
  have unexpected (noSyn : header.data.isSyn = false)
      (other : header.data.sequenceNumber ≠ c.conn.expectedPacket) :
      c'.conn.trace = c.conn.trace := by
    rw [handlePacket, tcp, ok_bind, if_neg notInit,
      if_neg (by rw [noSyn]; exact Bool.false_ne_true), if_pos other] at h
    cases h
    rfl
  cases again with
  | duplicateSyn syn same =>
      rw [handlePacket, tcp, ok_bind, if_neg notInit, if_pos syn, handleDuplicateSyn, tcp,
        ok_bind] at h
      simp only at h
      split at h
      · cases h
        rfl
      · rw [if_neg (not_not.mpr same)] at h
        cases h
        rfl
  | alreadyReceived noSyn other => exact unexpected noSyn other
  | uncoveredFin noSyn noRst noFin sent uncovered =>
      by_cases expected : header.data.sequenceNumber = c.conn.expectedPacket
      · rw [handlePacket_expected tcp notInit noSyn expected noRst] at h
        obtain ⟨acked, ackPart, h⟩ := bind_eq_ok.mp h
        rw [if_neg (by rw [noFin]; exact Bool.false_ne_true), ok_bind] at h
        have kept : acked.conn.trace = c.conn.trace ∧
            acked.conn.tcb.finSequenceNumber = c.conn.tcb.finSequenceNumber := by
          split at ackPart
          · obtain ⟨trace, fin⟩ := handleAck_keeps ackPart
            exact ⟨trace, fin⟩
          · cases ackPart
            exact ⟨rfl, rfl⟩
        rw [kept.2, sent] at h
        obtain ⟨number, after, h⟩ := bind_eq_ok.mp h
        rw [afterFin_eq after, if_neg uncovered] at h
        cases h
        exact kept.1
      · exact unexpected noSyn expected

/-- A write that took bytes, with no FIN behind them, is acknowledged. -/
theorem processSend_acknowledges {write : IoResult ℕ} {written : List UInt8}
    {clientToNetwork : StreamBuffer (4 * maxPacketLength)} {result : IoResult Unit}
    (wrote : c.conn.clientToNetwork.writeTo write = (.ok written, clientToNetwork))
    (nonempty : written ≠ []) (notLast : ¬ (c.conn.tcb.finReceived ∧ clientToNetwork.isEmpty))
    (h : c.processSend write = .ok (result, c')) :
    (c.acknowledge written clientToNetwork).replyEmptyPacketToClient flagAck = .ok c' := by
  rw [processSend, wrote] at h
  simp only at h
  rw [if_pos nonempty] at h
  obtain ⟨c₁, forged, rest⟩ := bind_eq_ok.mp ((if_neg notLast).symm.trans h)
  cases rest
  exact forged

/-- **A retransmission is not answered**, whatever the state of the connection.  It is the SYN once
more, or a segment out of order, or one that does not acknowledge the FIN, and the code drops each
of them with no answer; so an answer that was lost is not repeated when the client asks again. -/
theorem sendToNetwork_retransmission {packet : Ipv4Packet} {header : TcpHeader} {random : UInt32}
    {overflowChecks : Bool} {now : Instant} (notInit : c.conn.tcb.state ≠ .init)
    (tcp : tcpHeaderOfPacket packet = .ok header) (again : Retransmission c.conn header.data)
    (h : c.sendToNetwork (.ipv4 packet) random overflowChecks now = .ok c') :
    c'.conn.trace = c.conn.trace := by
  obtain ⟨c₁, handled, h⟩ := bind_eq_ok.mp h
  have touched : Retransmission (c.conn.touch now) header.data := by
    cases again with
    | duplicateSyn syn same => exact .duplicateSyn syn same
    | alreadyReceived noSyn other => exact .alreadyReceived noSyn other
    | uncoveredFin noSyn noRst noFin sent uncovered =>
        exact .uncoveredFin noSyn noRst noFin sent uncovered
  have kept := @handlePacket_retransmission { c with conn := c.conn.touch now } c₁ packet header
    random overflowChecks notInit tcp touched handled
  split at h
  · cases h
    exact kept
  · obtain ⟨-, same, -⟩ := updateInterests_ok h
    rw [same]
    exact kept

end TcpContext

/-! ## Where control segments are sent -/

/-- The FIN of the client is answered with a FIN of the relay, or with an ACK once that was
sent. -/
def finAnswer : TcpState → Option UInt16
  | .established => some (flagFin ||| flagAck)
  | .finWait1 | .finWait2 => some flagAck
  | _ => none

namespace TcpLife

/-- What happens in a step, and the client and the selector it meets. -/
structure Meeting where
  label : Label
  client : Client
  selector : Selector

/-- The connection of `s` with the client and the selector it meets. -/
def meets (s : TcpLife) (m : Meeting) : TcpContext := ⟨s.conn, m.client, m.selector⟩

/-- The steps of `TcpLife.machine`, with the client and the selector each of them met. -/
def handle (s : TcpLife) (m : Meeting) : Outcome TcpContext :=
  match m.label with
  | .packet packet random overflowChecks now =>
      (s.meets m).sendToNetwork (.ipv4 packet) random overflowChecks now
  | .poll => .ok (s.meets m)
  | .event ready answers now => (s.meets m).onReady ready answers now
  | .expire => (s.meets m).expire
  | .close => .ok (s.meets m).close
  | .deliver => do
      match s.conn.get with
      | none => .error .noPendingPacket
      | some packet =>
          match ← m.client.sendToClient m.selector packet with
          | (.ok (), client, selector) => TcpContext.next ⟨s.conn, client, selector⟩
          | (.error _, client, selector) => return ⟨s.conn, client, selector⟩

/-- The life of a TCP connection, each step under a meeting that its label alone decides on. -/
def metMachine : Machine TcpLife Meeting where
  start s := s.conn.Fresh ∧ s.armed = .empty
  step s m s' := ∃ c, s.handle m = .ok c ∧ s'.conn = c.conn ∧
    match m.label with
    | .poll => s'.armed = s.conn.interests
    | .event ready _ _ => ready.Within s.armed ∧ s'.armed = s.armed
    | _ => s'.armed = s.armed

/-- The connection at the beginning of the treatment of a packet or an event. -/
def touched (s : TcpLife) (m : Meeting) (now : Instant) : TcpContext :=
  { s.meets m with conn := s.conn.touch now }

/-- A control segment is sent in the step: its flags, the connection before, when the segment
is offered to the client, and after. -/
inductive Attempt (s : TcpLife) (m : Meeting) : UInt16 → TcpContext → TcpContext → TcpContext → Prop
  /-- `process_connect`. -/
  | connect {ready : Ready} {answers : SocketAnswers} {now : Instant} {after : TcpContext} :
      m.label = .event ready answers now → s.conn.closed = false → ready.isWritable = true →
      s.conn.tcb.state = .synSent → (∀ err, answers.takeError ≠ .ok (some err)) →
      (s.touched m now).processConnect answers.takeError = .ok after →
      Attempt s m (flagSyn ||| flagAck) (s.touched m now)
        ((s.touched m now).withTcb fun tcb => { tcb with state := .synReceived }) after
  /-- `process_send`, when no FIN waits for the bytes written. -/
  | acknowledge {ready : Ready} {answers : SocketAnswers} {now : Instant} {written : List UInt8}
      {clientToNetwork : StreamBuffer (4 * maxPacketLength)} {after : TcpContext} :
      m.label = .event ready answers now → s.conn.closed = false → ready.isWritable = true →
      s.conn.tcb.state ≠ .synSent →
      s.conn.clientToNetwork.writeTo answers.write = (.ok written, clientToNetwork) →
      written ≠ [] → ¬ (s.conn.tcb.finReceived ∧ clientToNetwork.isEmpty) →
      (s.touched m now).processSend answers.write = .ok (.ok (), after) →
      Attempt s m flagAck (s.touched m now)
        ((s.touched m now).acknowledge written clientToNetwork) after
  /-- `do_handle_fin`, behind the last bytes before the FIN. -/
  | lastWritten {ready : Ready} {answers : SocketAnswers} {now : Instant} {written : List UInt8}
      {clientToNetwork : StreamBuffer (4 * maxPacketLength)} {flags : UInt16} {after : TcpContext} :
      m.label = .event ready answers now → s.conn.closed = false → ready.isWritable = true →
      s.conn.tcb.state ≠ .synSent →
      s.conn.clientToNetwork.writeTo answers.write = (.ok written, clientToNetwork) →
      written ≠ [] → s.conn.tcb.finReceived → clientToNetwork.isEmpty →
      finAnswer s.conn.tcb.state = some flags →
      ((s.touched m now).acknowledge written clientToNetwork).doHandleFin = .ok after →
      Attempt s m flags ((s.touched m now).acknowledge written clientToNetwork)
        ((s.touched m now).acknowledge written clientToNetwork).countReceivedFin after
  /-- `do_handle_fin`, when a FIN arrives and nothing is before it. -/
  | finArrived {packet : Ipv4Packet} {random : UInt32} {overflowChecks : Bool} {now : Instant}
      {header : TcpHeader} {acked after : TcpContext} {flags : UInt16} :
      m.label = .packet packet random overflowChecks now → tcpHeaderOfPacket packet = .ok header →
      s.conn.tcb.state ≠ .init → header.data.isSyn = false →
      header.data.sequenceNumber = s.conn.expectedPacket → header.data.isRst = false →
      (if header.data.isAck then ((s.touched m now).noteWindow header.data).handleAck packet
        else .ok ((s.touched m now).noteWindow header.data)) = .ok acked →
      header.data.isFin = true → acked.conn.clientToNetwork.isEmpty = true →
      finAnswer acked.conn.tcb.state = some flags → acked.handleFin = .ok after →
      Attempt s m flags (acked.withTcb fun tcb => { tcb with finReceived := true })
        (acked.withTcb fun tcb => { tcb with finReceived := true }).countReceivedFin after
  /-- `eof`. -/
  | eof {ready : Ready} {answers : SocketAnswers} {now : Instant} {c after : TcpContext}
      {primed packetizer : Packetizer} :
      m.label = .event ready answers now → s.conn.closed = false → ready.isReadable = true →
      (if ready.isWritable then (s.touched m now).processWritable answers
        else .ok (.ok (), s.touched m now)) = .ok (.ok (), c) →
      c.conn.closed = false →
      updateHeaders c.conn.networkToClient c.conn.tcb (flagAck ||| flagPsh) = .ok primed →
      primed.packetizeRead answers.read c.receivable = .ok (.ok none, packetizer) →
      ({ c with conn := { c.conn with networkToClient := packetizer } }.record
        .readEof).eof = .ok after →
      Attempt s m (flagFin ||| flagAck)
        ({ c with conn := { c.conn with networkToClient := packetizer } }.record .readEof)
        ({ c with conn := { c.conn with networkToClient := packetizer } }.record .readEof) after

/-! ## Losing one -/

/-- The segment is offered to a client that has no room for it. -/
def Rejected (flags : UInt16) (offering : TcpContext) : Prop :=
  ∃ packet packetizer, createEmptyResponsePacket offering.conn.networkToClient offering.conn.tcb
      flags = .ok (packet, packetizer) ∧
    offering.client.networkToClient.remaining < packet.raw.length

/-- Some state that is reached later answers some retransmission with the segment.  The segment may
be lost once more, but it was not given up. -/
def SentAgain (flags : UInt16) (after : TcpContext) : Prop :=
  ∃ armed s, ReflTransGen (fun s s' => ∃ l, Step s l s') ⟨after.conn, armed⟩ s ∧
    s.conn.tcb.state ≠ .init ∧
    ∃ packet header random overflowChecks now client selector c raw waiting,
      tcpHeaderOfPacket packet = .ok header ∧ Retransmission s.conn header.data ∧
      (⟨s.conn, client, selector⟩ : TcpContext).sendToNetwork (.ipv4 packet) random overflowChecks
        now = .ok c ∧
      .forged raw waiting ∈ c.conn.trace.drop s.conn.trace.length ∧
      (Segment.ofRaw raw).flags = flags

/-- Losing the segment does no harm: the control block is left as it was before the attempt,
or the segment is sent again when the client asks for it. -/
def Recovers (flags : UInt16) (before offering after : TcpContext) : Prop :=
  Rejected flags offering → after.conn.tcb = before.conn.tcb ∨ SentAgain flags after

theorem not_sentAgain (flags : UInt16) (after : TcpContext) : ¬ SentAgain flags after := by
  rintro ⟨armed, s, -, notInit, packet, header, random, overflowChecks, now, client, selector, c,
    raw, waiting, tcp, again, sent, mem, -⟩
  have silent := @TcpContext.sendToNetwork_retransmission ⟨s.conn, client, selector⟩ c packet header
    random overflowChecks now notInit tcp again sent
  rw [silent, List.drop_length] at mem
  cases mem

/-- A wrapping number moves with every step of less than `2 ^ 32`. -/
theorem add_ofNat_ne (number : UInt32) {n : ℕ} (pos : 0 < n) (small : n < 2 ^ 32) :
    number + UInt32.ofNat n ≠ number := by
  intro same
  have toNat := congrArg UInt32.toNat same
  have bound := number.toNat_lt
  rw [UInt32.toNat_add, UInt32.toNat_ofNat'] at toNat
  omega

theorem add_one_ne (number : UInt32) : number + 1 ≠ number :=
  add_ofNat_ne number Nat.one_pos (by decide)

/-- What a connection writes at once is far from a turn of its numbers. -/
theorem length_written_lt {b b' : StreamBuffer (4 * maxPacketLength)} {write : IoResult ℕ}
    {written : List UInt8} (wrote : b.writeTo write = (.ok written, b')) :
    written.length < 2 ^ 32 := by
  have held := congrArg List.length (StreamBuffer.contents_writeTo wrote)
  have most : 4 * maxPacketLength < 2 ^ 32 := by decide
  have size := b.size_le
  rw [StreamBuffer.length_contents, List.length_append] at held
  omega

/-- Consuming a FIN moves the acknowledgement number. -/
theorem doHandleFin_advances {c c' : TcpContext} (h : c.doHandleFin = .ok c') :
    c'.conn.tcb ≠ c.conn.tcb := by
  suffices moved : c'.conn.tcb.acknowledgementNumber = c.conn.tcb.acknowledgementNumber + 1 by
    intro same
    rw [same] at moved
    exact add_one_ne _ moved.symm
  have replied {flags : UInt16} {c₁ : TcpContext}
      (forged : c.countReceivedFin.replyEmptyPacketToClient flags = .ok c₁) :
      c₁.conn.tcb.acknowledgementNumber = c.conn.tcb.acknowledgementNumber + 1 := by
    obtain ⟨_, _, _, -, -, same⟩ := TcpContext.replyEmptyPacketToClient_ok forged
    rw [same]
    rfl
  unfold TcpContext.doHandleFin at h
  simp only at h
  split at h
  · obtain ⟨c₁, forged, rest⟩ := bind_eq_ok.mp h
    have moved := replied forged
    cases rest
    exact moved
  · split at h
    · obtain ⟨c₁, forged, rest⟩ := bind_eq_ok.mp h
      have moved := replied forged
      cases rest
      exact moved
    · split at h
      · obtain ⟨c₁, forged, rest⟩ := bind_eq_ok.mp h
        have moved := replied forged
        cases rest
        exact moved
      · cases h
        rfl

/-- **Every attempt advances the control block**, whether its segment is lost or not.  The state or
a number is moved on in the operation that builds the segment, and the result of sending is only
logged. -/
theorem Attempt.advances {s : TcpLife} {m : Meeting} {flags : UInt16}
    {before offering after : TcpContext} (attempt : Attempt s m flags before offering after) :
    after.conn.tcb ≠ before.conn.tcb := by
  cases attempt with
  | connect _ _ _ synSent noError connected =>
      unfold TcpContext.processConnect at connected
      split at connected
      · cases connected
      · split at connected
        · rename_i err failed
          exact absurd failed (noError err)
        all_goals
          obtain ⟨c₁, forged, rest⟩ := bind_eq_ok.mp connected
          cases rest
          obtain ⟨_, _, _, -, -, same⟩ := TcpContext.replyEmptyPacketToClient_ok forged
          intro unchanged
          have state := congrArg Tcb.state unchanged
          change c₁.conn.tcb.state = s.conn.tcb.state at state
          rw [same, synSent] at state
          cases state
  | acknowledge _ _ _ _ wrote nonempty notLast sent =>
      obtain ⟨_, _, _, -, -, same⟩ := TcpContext.replyEmptyPacketToClient_ok
        (TcpContext.processSend_acknowledges wrote nonempty notLast sent)
      intro unchanged
      have moved := congrArg Tcb.acknowledgementNumber unchanged
      rw [same] at moved
      exact add_ofNat_ne _ (List.length_pos_of_ne_nil nonempty) (length_written_lt wrote) moved
  | lastWritten _ _ _ _ _ _ _ _ _ handled => exact doHandleFin_advances handled
  | finArrived _ _ _ _ _ _ _ _ empty _ handled =>
      exact doHandleFin_advances (((if_pos empty).symm.trans handled :))
  | eof _ _ _ _ _ _ _ ended =>
      obtain ⟨c₁, forged, rest⟩ := bind_eq_ok.mp ended
      cases rest
      obtain ⟨_, _, _, -, -, same⟩ := TcpContext.replyEmptyPacketToClient_ok forged
      intro unchanged
      have moved := congrArg Tcb.sequenceNumber unchanged
      rw [TcpContext.conn_countSentFin, same] at moved
      exact add_one_ne _ moved

/-- **A control segment that is lost stays lost.**  Whatever the steps, those of any run included,
losing control segments does no harm exactly when none is lost. -/
theorem run_recovers_iff (t : List (TcpLife × Meeting)) :
    (∀ p ∈ t, ∀ flags before offering after, Attempt p.1 p.2 flags before offering after →
        Recovers flags before offering after) ↔
      ∀ p ∈ t, ∀ flags before offering after, Attempt p.1 p.2 flags before offering after →
        ¬ Rejected flags offering := by
  constructor
  · intro recovers p mem flags before offering after attempt rejected
    rcases recovers p mem flags before offering after attempt rejected with unchanged | again
    · exact attempt.advances unchanged
    · exact not_sentAgain _ _ again
  · intro accepted p mem flags before offering after attempt rejected
    exact absurd rejected (accepted p mem flags before offering after attempt)

/-- A poll sends nothing. -/
theorem not_attempt_poll {s : TcpLife} {m : Meeting} {flags : UInt16}
    {before offering after : TcpContext} (poll : m.label = .poll) :
    ¬ Attempt s m flags before offering after := by
  intro attempt
  cases attempt with
  | connect event _ _ _ _ _ => cases poll.symm.trans event
  | acknowledge event _ _ _ _ _ _ _ => cases poll.symm.trans event
  | lastWritten event _ _ _ _ _ _ _ _ _ => cases poll.symm.trans event
  | finArrived event _ _ _ _ _ _ _ _ _ _ => cases poll.symm.trans event
  | eof event _ _ _ _ _ _ _ => cases poll.symm.trans event

/-- The first packet of a flow is answered with no control segment that is lost silently. -/
theorem not_attempt_init {s : TcpLife} {m : Meeting} {flags : UInt16}
    {before offering after : TcpContext} {packet : Ipv4Packet} {random : UInt32}
    {overflowChecks : Bool} {now : Instant}
    (arrives : m.label = .packet packet random overflowChecks now) (init : s.conn.tcb.state = .init) :
    ¬ Attempt s m flags before offering after := by
  intro attempt
  cases attempt with
  | connect event _ _ _ _ _ => cases arrives.symm.trans event
  | acknowledge event _ _ _ _ _ _ _ => cases arrives.symm.trans event
  | lastWritten event _ _ _ _ _ _ _ _ _ => cases arrives.symm.trans event
  | finArrived _ _ begun _ _ _ _ _ _ _ _ => exact begun init
  | eof event _ _ _ _ _ _ _ => cases arrives.symm.trans event

/-- While the socket connects, a writable event attempts the SYN+ACK and nothing else. -/
theorem Attempt.connects {s : TcpLife} {m : Meeting} {flags : UInt16}
    {before offering after : TcpContext} {answers : SocketAnswers} {now : Instant}
    (attempt : Attempt s m flags before offering after)
    (happens : m.label = .event .writable answers now) (synSent : s.conn.tcb.state = .synSent) :
    flags = flagSyn ||| flagAck ∧ before = s.touched m now ∧
      offering = (s.touched m now).withTcb fun tcb => { tcb with state := .synReceived } := by
  cases attempt with
  | connect event _ _ _ _ _ =>
      cases happens.symm.trans event
      exact ⟨rfl, rfl, rfl⟩
  | acknowledge _ _ _ begun _ _ _ _ => exact absurd synSent begun
  | lastWritten _ _ _ begun _ _ _ _ _ _ => exact absurd synSent begun
  | finArrived event _ _ _ _ _ _ _ _ _ _ => cases happens.symm.trans event
  | eof event _ readable _ _ _ _ _ =>
      cases happens.symm.trans event
      cases readable

/-- The attempts of a connection whose socket gets connected: the SYN+ACK alone.  The context that
offers it is named, so that a run can be chosen by the room of its client. -/
structure Connects (t : List (TcpLife × Meeting)) (before offering after : TcpContext) : Prop where
  attempts : ∃ p ∈ t, Attempt p.1 p.2 (flagSyn ||| flagAck) before offering after
  only : ∀ p ∈ t, ∀ flags before' offering' after', Attempt p.1 p.2 flags before' offering' after' →
    flags = flagSyn ||| flagAck ∧ offering' = offering
  forTcp : offering.conn.networkToClient.ForTcp

/-- A run in which the socket is connected while `stream` waits for the client. -/
theorem run_connects (stream : StreamBuffer (16 * maxPacketLength)) :
    ∃ t s before offering after, metMachine.Run t s ∧ Connects t before offering after ∧
      offering.client.networkToClient = stream := by
  obtain ⟨conn, fresh⟩ := TcpConnection.fresh_exists
  have forTcp := fresh.forTcp
  have start : metMachine.Run [] ⟨conn, .empty⟩ := .start ⟨fresh, rfl⟩
  obtain ⟨_, _, _, _, rfl⟩ := fresh.eq_initial
  obtain ⟨client, selector, usable, -⟩ := usable_exists rfl forTcp (.new _)
  obtain ⟨c₁, opened, usable₁, -, -, same₁⟩ := @TcpContext.Usable.openWith _ (segmentPacket 0 0 2 [])
    (segmentHeader 0 0 2) false usable 0 0 rfl rfl (by decide)
  have synSent : c₁.conn.tcb.state = .synSent := by
    rw [same₁]
    rfl
  have run₁ := start.step (show metMachine.step _
    ⟨.packet (segmentPacket 0 0 2 []) 0 false 0, client, selector⟩ ⟨c₁.conn, .empty⟩
    from ⟨c₁, opened, rfl, rfl⟩)
  have run₂ := run₁.step (show metMachine.step _ ⟨.poll, client, selector⟩
    ⟨c₁.conn, c₁.conn.interests⟩ from ⟨_, rfl, rfl, rfl⟩)
  obtain ⟨client', selector', usable', waits⟩ :=
    @usable_exists c₁.conn usable₁.isOpen usable₁.forTcp stream
  let answers : SocketAnswers := ⟨.ok none, .ok 0, .ok []⟩
  let meeting : Meeting := ⟨.event .writable answers 0, client', selector'⟩
  obtain ⟨c₂, packetizer, raw, connected, -⟩ :=
    @TcpContext.Usable.connect ⟨c₁.conn, client', selector'⟩ 0 answers usable' synSent rfl
  have armed : Ready.writable.Within c₁.conn.interests := by
    rw [same₁]
    exact Ready.within_refl _
  have run₃ := run₂.step (show metMachine.step _ meeting ⟨c₂.conn, c₁.conn.interests⟩
    from ⟨c₂, connected, rfl, armed, rfl⟩)
  let last : TcpLife := ⟨c₁.conn, c₁.conn.interests⟩
  let offering := (last.touched meeting 0).withTcb fun tcb => { tcb with state := .synReceived }
  have usable₂ : offering.Usable := usable'.congr rfl rfl rfl ⟨.refl client', fun _ known => known⟩
  obtain ⟨c₃, _, _, forged, -⟩ := @TcpContext.Usable.reply offering (flagSyn ||| flagAck) usable₂
    (by decide)
  have attempted : (last.touched meeting 0).processConnect (.ok none) =
      .ok (c₃.withTcb fun tcb => { tcb with sequenceNumber := tcb.sequenceNumber + 1 }) :=
    (if_neg (not_not.mpr synSent)).trans (bind_eq_ok.mpr ⟨c₃, forged, rfl⟩)
  have attempt := Attempt.connect (s := last) (m := meeting) rfl usable₁.isOpen rfl synSent nofun
    attempted
  refine ⟨_, _, last.touched meeting 0, offering, _, run₃, ⟨⟨(last, meeting), ?_, attempt⟩, ?_,
    usable₂.forTcp⟩, waits⟩
  · exact List.mem_append_right _ (List.mem_singleton_self _)
  · intro p mem flags before' offering' after' other
    simp only [List.nil_append, List.cons_append, List.mem_cons, List.not_mem_nil, or_false] at mem
    rcases mem with rfl | rfl | rfl
    · exact absurd other (not_attempt_init rfl rfl)
    · exact absurd other (not_attempt_poll rfl)
    · obtain ⟨control, -, offers⟩ := other.connects rfl synSent
      exact ⟨control, offers⟩

/-- The length of a control segment. -/
theorem Connects.rejected_iff {t : List (TcpLife × Meeting)} {before offering after : TcpContext}
    (connects : Connects t before offering after) {flags : UInt16} (mem : flags ∈ relayFlags) :
    Rejected flags offering ↔ offering.client.networkToClient.remaining <
      offering.conn.networkToClient.payloadIndex := by
  obtain ⟨packet, packetizer, built, -, -, length, -⟩ :=
    connects.forTcp.createEmptyResponsePacket offering.conn.tcb mem
  constructor
  · rintro ⟨other, _, built', full⟩
    cases built.symm.trans built'
    rwa [length] at full
  · intro full
    exact ⟨packet, packetizer, built, by rwa [length]⟩

/-- The client has no room for the SYN+ACK. -/
theorem run_connects_full : ∃ t s before offering after, metMachine.Run t s ∧
    Connects t before offering after ∧ Rejected (flagSyn ||| flagAck) offering := by
  obtain ⟨full, noSpace⟩ := StreamBuffer.exists_full (16 * maxPacketLength)
  obtain ⟨t, s, before, offering, after, run, connects, stream⟩ := run_connects full
  refine ⟨t, s, before, offering, after, run, connects, (connects.rejected_iff (by decide)).mpr ?_⟩
  have header := connects.forTcp.wellFormed.ipv4.long
  rw [stream, noSpace]
  show 0 < offering.conn.networkToClient.ipv4Header.raw.length + _
  omega

/-- In one run the SYN+ACK is lost, and in one the client has room for it. -/
theorem run_recovers_iff_connects :
    (∃ t s, metMachine.Run t s ∧
      ¬ ∀ p ∈ t, ∀ flags before offering after, Attempt p.1 p.2 flags before offering after →
        Recovers flags before offering after) ∧
      ∃ t s before offering after, metMachine.Run t s ∧
        (∃ p ∈ t, Attempt p.1 p.2 (flagSyn ||| flagAck) before offering after) ∧
        ∀ p ∈ t, ∀ flags before offering after, Attempt p.1 p.2 flags before offering after →
          Recovers flags before offering after := by
  constructor
  · obtain ⟨t, s, before, offering, after, run, connects, rejected⟩ := run_connects_full
    obtain ⟨p, mem, attempt⟩ := connects.attempts
    refine ⟨t, s, run, fun recovers => ?_⟩
    exact (run_recovers_iff t).mp recovers p mem _ _ _ _ attempt rejected
  · obtain ⟨t, s, before, offering, after, run, connects, stream⟩ := run_connects (.new _)
    refine ⟨t, s, before, offering, after, run, connects.attempts, (run_recovers_iff t).mpr ?_⟩
    intro p mem flags before' offering' after' attempt
    obtain ⟨rfl, rfl⟩ := connects.only p mem flags before' offering' after' attempt
    rw [connects.rejected_iff (by decide), stream]
    have small := connects.forTcp.payloadIndex_lt
    have room : (StreamBuffer.new (16 * maxPacketLength)).remaining = 1048576 := rfl
    omega

/-- **A SYN+ACK is lost for good.** -/
theorem run_loses_synAck : ∃ t s p before offering after, metMachine.Run t s ∧ p ∈ t ∧
    Attempt p.1 p.2 (flagSyn ||| flagAck) before offering after ∧
    ¬ Recovers (flagSyn ||| flagAck) before offering after := by
  obtain ⟨t, s, before, offering, after, run, connects, rejected⟩ := run_connects_full
  obtain ⟨p, mem, attempt⟩ := connects.attempts
  refine ⟨t, s, p, before, offering, after, run, mem, attempt, fun recovers => ?_⟩
  rcases recovers rejected with unchanged | again
  · exact attempt.advances unchanged
  · exact not_sentAgain _ _ again

end TcpLife

end ReverseTether
