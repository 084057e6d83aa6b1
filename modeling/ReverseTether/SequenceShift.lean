import ReverseTether.ShiftedHeaders
import ReverseTether.UploadWindow

/-!
# The initial sequence number of the relay

Two connections are followed side by side.  The random number the second drew is `d` ahead of
the first's, and so are the acknowledgement numbers of its client.  Every method keeps them
apart by that and nothing else (`TcpContext.Shifted`): the states, the bytes of the host and
the closes are the same, and the segments are the same but for their sequence numbers.

The one place where the number itself counts is `afterFin`, which does not wrap: with overflow
checks it panics on the last number.  `ComparesFin` says, before a packet is treated, which FIN
its acknowledgement number will be compared with.

Which numbers are ahead is part of the relation: the sequence number of the relay, the
acknowledgement number of the client and the number of the FIN; those of the client's own
direction are equal.  Before the first SYN no number was drawn, and the two connections are
alike.

The wrapping differences of two pairs of numbers that are both `d` ahead are equal, which is
all that the window and the comparisons look at.  That is why the proof has no case
distinction on where the numbers wrap.
-/

namespace ReverseTether

open Library

open TcpConnection (tcpHeaderOfPacket)

open TcpContext (afterFin)

/-- Both return related values, or panic alike, and not because of an overflow. -/
abbrev InStep {α β : Type} (R : α → β → Prop) : Outcome α → Outcome β → Prop :=
  Both (· ≠ Panic.overflow) R

/-! ## The client -/

/-- The two differ only in the bytes that wait for the socket, of which there are as many. -/
structure Client.Alike (client client' : Client) : Prop where
  rest : client' = { client with
    networkToClient := client'.networkToClient
    appended := client'.appended }
  size : client'.networkToClient.size = client.networkToClient.size

namespace Client.Alike

variable {client client' : Client}

theorem refl (client : Client) : client.Alike client := ⟨rfl, rfl⟩

theorem interests (alike : client.Alike client') : client'.interests = client.interests := by
  rw [alike.rest]

theorem wanted (alike : client.Alike client') : client'.wanted = client.wanted := by
  have empty : client'.networkToClient.isEmpty = client.networkToClient.isEmpty := by
    rw [Bool.eq_iff_iff, StreamBuffer.isEmpty_iff, StreamBuffer.isEmpty_iff,
      ← List.length_eq_zero_iff, ← List.length_eq_zero_iff, StreamBuffer.length_contents,
      StreamBuffer.length_contents, alike.size]
  rw [Client.wanted, Client.wanted, empty]

/-- The interests of the two clients are computed from equal lengths, so that both are registered
again or neither is. -/
theorem updateInterests (alike : client.Alike client') (selector : Selector) :
    Both ⊤ (fun a b => a.1.Alike b.1 ∧ b.2 = a.2) (client.updateInterests selector)
      (client'.updateInterests selector) := by
  rw [Client.updateInterests, Client.updateInterests, alike.interests, alike.wanted]
  refine .ite Iff.rfl (fun _ => .bind_same (fun _ _ => trivial) fun selector' _ => ?_)
    fun _ => .ok ⟨alike, rfl⟩
  refine .ok ⟨⟨?_, alike.size⟩, rfl⟩
  rw [alike.rest]

/-- **Packets of one length** are both appended, or both rejected.  Whether there is room depends
on lengths alone, and the two clients have the same lengths all along. -/
theorem sendRawToClient (alike : client.Alike client') (selector : Selector)
    {raw raw' : List UInt8} (length : raw'.length = raw.length) :
    InStep (fun a b => b.1 = a.1 ∧ a.2.1.Alike b.2.1 ∧ b.2.2 = a.2.2)
      (client.sendRawToClient selector raw) (client'.sendRawToClient selector raw') := by
  have remaining : client'.networkToClient.remaining = client.networkToClient.remaining := by
    rw [StreamBuffer.remaining, StreamBuffer.remaining, alike.size]
  have both : Both ⊤ (fun a b => b.1 = a.1 ∧ a.2.1.Alike b.2.1 ∧ b.2.2 = a.2.2)
      (client.sendRawToClient selector raw) (client'.sendRawToClient selector raw') := by
    rw [Client.sendRawToClient, Client.sendRawToClient, remaining, length]
    refine .ite Iff.rfl (fun fits => ?_) fun _ => .ok ⟨rfl, alike, rfl⟩
    have fits' : raw'.length ≤ client'.networkToClient.remaining := by rwa [remaining, length]
    obtain ⟨buffer, stored, contents⟩ := StreamBuffer.readFrom_ok fits
    obtain ⟨buffer', stored', contents'⟩ := StreamBuffer.readFrom_ok fits'
    rw [stored, stored', ok_bind, ok_bind]
    have appended : Client.Alike
        { client with networkToClient := buffer, appended := client.appended ++ [raw] }
        { client' with networkToClient := buffer', appended := client'.appended ++ [raw'] } := by
      constructor
      · rw [alike.rest]
      · have size := congrArg List.length contents
        have size' := congrArg List.length contents'
        simp only [List.length_append, StreamBuffer.length_contents] at size size'
        show buffer'.size = buffer.size
        rw [size, size', alike.size, length]
    refine (appended.updateInterests selector).bind ?_
    rintro ⟨client₁, selector₁⟩ ⟨client₁', selector₁'⟩ ⟨alike₁, same⟩
    exact .ok ⟨rfl, alike₁, same⟩
  refine both.errors fun panic failed => ?_
  rw [Client.sendRawToClient_error failed]
  simp

end Client.Alike

/-! ## The connection -/

/-- The control block after the initial sequence number `d` ahead.  A number that is not
set yet may be anything. -/
structure Tcb.Shifted (d : UInt32) (tcb tcb' : Tcb) : Prop where
  state : tcb'.state = tcb.state
  synSequenceNumber : tcb'.synSequenceNumber = tcb.synSequenceNumber
  sequenceNumber : tcb.state ≠ .init → tcb'.sequenceNumber = tcb.sequenceNumber + d
  acknowledgementNumber : tcb'.acknowledgementNumber = tcb.acknowledgementNumber
  theirAcknowledgementNumber : tcb.state.isConnected = true →
    tcb'.theirAcknowledgementNumber = tcb.theirAcknowledgementNumber + d
  finSequenceNumber : tcb'.finSequenceNumber = tcb.finSequenceNumber.map (· + d)
  finReceived : tcb'.finReceived = tcb.finReceived
  clientWindow : tcb'.clientWindow = tcb.clientWindow

/-- The same action, but for the sequence numbers in it, which are `d` ahead. -/
inductive TcpAction.Shifted (d : UInt32) : TcpAction → TcpAction → Prop
  | opened (sequenceNumber : UInt32) :
      Shifted d (.opened sequenceNumber) (.opened (sequenceNumber + d))
  | forged {raw raw' : List UInt8} (waiting : Bool) : ShiftedRaw d raw raw' →
      Shifted d (.forged raw waiting) (.forged raw' waiting)
  | read (data : List UInt8) : Shifted d (.read data) (.read data)
  | readEof : Shifted d .readEof .readEof
  | handed {raw raw' : List UInt8} : ShiftedRaw d raw raw' → Shifted d (.handed raw) (.handed raw')
  | deferred {raw raw' : List UInt8} : ShiftedRaw d raw raw' →
      Shifted d (.deferred raw) (.deferred raw')
  | delivered {raw raw' : List UInt8} : ShiftedRaw d raw raw' →
      Shifted d (.delivered raw) (.delivered raw')
  | wrote (data : List UInt8) : Shifted d (.wrote data) (.wrote data)
  | finHandled : Shifted d .finHandled .finHandled
  | closed (waiting : Bool) : Shifted d (.closed waiting) (.closed waiting)

/-- The same connection, but for the sequence numbers: its control block, the headers it keeps and
what it has done. -/
inductive TcpConnection.Shifted (d : UInt32) (conn : TcpConnection) : TcpConnection → Prop
  | mk {tcb : Tcb} {networkToClient : Packetizer} {trace : List TcpAction} :
      conn.tcb.Shifted d tcb → conn.networkToClient.Twin TcpHeader.Alike networkToClient →
      (∀ length, conn.packetForClientLength = some length →
        conn.networkToClient.Twin (TcpHeader.Shifted d) networkToClient ∧
          conn.networkToClient.payloadIndex ≤ length.toNat) →
      List.Forall₂ (TcpAction.Shifted d) conn.trace trace →
      Shifted d conn { conn with tcb, networkToClient, trace }

/-- The connections are `d` apart, the clients have as much room for packets, and the selectors are
the same. -/
structure TcpContext.Shifted (d : UInt32) (c c' : TcpContext) : Prop where
  conn : c.conn.Shifted d c'.conn
  client : c.client.Alike c'.client
  selector : c'.selector = c.selector

theorem TcpState.ne_init {state : TcpState} (connected : state.isConnected = true) :
    state ≠ .init := by
  rintro rfl
  cases connected

/-- The remaining window is a difference of numbers that are `d` ahead on both sides, so it is the
same for both, once they are all drawn. -/
theorem Tcb.Shifted.remainingClientWindow {d : UInt32} {tcb tcb' : Tcb}
    (shifted : tcb.Shifted d tcb') (connected : tcb.state.isConnected = true) :
    tcb'.remainingClientWindow = tcb.remainingClientWindow := by
  have remaining :
      tcb'.theirAcknowledgementNumber + tcb'.clientWindow.toUInt32 - tcb'.sequenceNumber =
        tcb.theirAcknowledgementNumber + tcb.clientWindow.toUInt32 - tcb.sequenceNumber := by
    rw [shifted.theirAcknowledgementNumber connected,
      shifted.sequenceNumber (TcpState.ne_init connected), shifted.clientWindow]
    grind
  unfold Tcb.remainingClientWindow
  rw [remaining, shifted.clientWindow]

namespace TcpConnection.Shifted

variable {d : UInt32} {conn conn' : TcpConnection}

theorem tcb (shifted : conn.Shifted d conn') : conn.tcb.Shifted d conn'.tcb := by
  cases shifted with
  | mk tcb _ _ _ => exact tcb

theorem state (shifted : conn.Shifted d conn') : conn'.tcb.state = conn.tcb.state :=
  shifted.tcb.state

theorem closed (shifted : conn.Shifted d conn') : conn'.closed = conn.closed := by
  cases shifted
  rfl

theorem handle (shifted : conn.Shifted d conn') : conn'.handle = conn.handle := by
  cases shifted
  rfl

theorem id (shifted : conn.Shifted d conn') : conn'.id = conn.id := by
  cases shifted
  rfl

theorem interests (shifted : conn.Shifted d conn') : conn'.interests = conn.interests := by
  cases shifted
  rfl

theorem clientToNetwork (shifted : conn.Shifted d conn') :
    conn'.clientToNetwork = conn.clientToNetwork := by
  cases shifted
  rfl

/-- A packet waits in both connections or in none, and it has the same length. -/
theorem packetForClientLength (shifted : conn.Shifted d conn') :
    conn'.packetForClientLength = conn.packetForClientLength := by
  cases shifted
  rfl

theorem waiting (shifted : conn.Shifted d conn') : conn'.waiting = conn.waiting := by
  cases shifted
  rfl

/-- The client of both is expected to go on at the same number: its own numbers are not shifted. -/
theorem expectedPacket (shifted : conn.Shifted d conn') :
    conn'.expectedPacket = conn.expectedPacket := by
  rw [TcpConnection.expectedPacket, TcpConnection.expectedPacket, shifted.clientToNetwork,
    shifted.tcb.acknowledgementNumber]

/-- Both connections are interested in the same, since neither the states nor the windows differ.
-/
theorem wanted (shifted : conn.Shifted d conn') : conn'.wanted = conn.wanted := by
  have reads : conn'.mayRead = conn.mayRead := by
    unfold TcpConnection.mayRead
    rw [shifted.state, shifted.packetForClientLength]
    cases connected : conn.tcb.state.isConnected with
    | false => rfl
    | true => rw [shifted.tcb.remainingClientWindow connected]
  have writes : conn'.mayWrite = conn.mayWrite := by
    rw [TcpConnection.mayWrite, TcpConnection.mayWrite, shifted.clientToNetwork]
  rw [TcpConnection.wanted, TcpConnection.wanted, reads, writes, shifted.state]

/-- The two packetizers differ in the numbers of their headers at most, whether or not these were
set since the first SYN. -/
theorem twin (shifted : conn.Shifted d conn') :
    conn.networkToClient.Twin TcpHeader.Alike conn'.networkToClient := by
  cases shifted with
  | mk _ twin _ _ => exact twin

/-- While a packet waits the headers are those it was built with, so that they are shifted and not
only alike. -/
theorem waits (shifted : conn.Shifted d conn') {length : UInt16}
    (some : conn.packetForClientLength = some length) :
    conn.networkToClient.Twin (TcpHeader.Shifted d) conn'.networkToClient ∧
      conn.networkToClient.payloadIndex ≤ length.toNat := by
  cases shifted with
  | mk _ _ waits _ => exact waits length some

theorem trace (shifted : conn.Shifted d conn') :
    List.Forall₂ (TcpAction.Shifted d) conn.trace conn'.trace := by
  cases shifted with
  | mk _ _ _ trace => exact trace

theorem record {action action' : TcpAction} (shifted : conn.Shifted d conn')
    (same : action.Shifted d action') : (conn.record action).Shifted d (conn'.record action') := by
  cases shifted with
  | mk tcb twin waits trace =>
      exact .mk tcb twin waits (List.rel_append trace (.cons same .nil))

end TcpConnection.Shifted

/-! ## The packets of the client -/

/-- The headers differ in the acknowledgement number, which is `d` ahead in the second.  That of
a SYN is not looked at. -/
def TcpHeader.AckShifted (d : UInt32) (header header' : TcpHeader) : Prop :=
  ∃ number, header'.data = { header.data with acknowledgementNumber := number } ∧
    (header.data.isSyn = true ∨ number = header.data.acknowledgementNumber + d)

/-- Two packets with the same payload, and the acknowledgement number `d` ahead.  It is what a
client sends to two twins whose numbers are `d` apart. -/
structure AckShifted (d : UInt32) (packet packet' : Ipv4Packet) : Prop where
  header : Both ⊤ (TcpHeader.AckShifted d) (tcpHeaderOfPacket packet) (tcpHeaderOfPacket packet')
  payload : packet'.payload = packet.payload

/-- A slice that is out of bounds is a panic of its own: the one of an overflow comes from
arithmetic. -/
theorem readSlice_error {raw : List UInt8} {i j : ℕ} {panic : Panic}
    (h : readSlice raw i j = .error panic) : panic ≠ .overflow := by
  unfold readSlice at h
  split at h
  · cases h
  · cases h
    exact nofun

/-- The payload of a packet is cut by slices alone, which cannot overflow. -/
theorem Ipv4Packet.payload_error {packet : Ipv4Packet} {panic : Panic}
    (h : packet.payload = .error panic) : panic ≠ .overflow := by
  unfold payload at h
  split at h
  · rcases bind_eq_error.mp h with failed | ⟨_, -, rest⟩
    · exact readSlice_error failed
    · cases rest
  · cases h

/-- To find the TCP header of a packet nothing is added, so a failure is never an overflow. -/
theorem tcpHeaderOfPacket_error {packet : Ipv4Packet} {panic : Panic}
    (h : tcpHeaderOfPacket packet = .error panic) : panic ≠ .overflow := by
  rcases bind_eq_error.mp h with failed | ⟨header, -, rest⟩
  · unfold Ipv4Packet.transportHeader at failed
    split at failed
    · rcases bind_eq_error.mp failed with failed | ⟨_, -, rest⟩
      · exact readSlice_error failed
      · cases rest
    · cases failed
  · split at rest
    · cases rest
    · cases rest
      exact nofun

/-! ## The number an acknowledgement is compared with -/

namespace TcpConnection

/-- The segment ends the stream of an established connection, and nothing is before its FIN:
it is answered with the FIN of the relay. -/
def FinAnswered (conn : TcpConnection) (packet : Ipv4Packet) (header : TcpHeaderData) : Prop :=
  header.isFin = true ∧ conn.clientToNetwork.isEmpty = true ∧
    ((conn.tcb.state = .synReceived ∧ header.isAck = true) ∨
      (conn.tcb.state = .established ∧ (header.isAck = true →
        ∀ payload, packet.payload = .ok (some payload) →
          payload = [] ∨ conn.clientToNetwork.remaining < payload.length)))

/-- The acknowledgement number of the segment is compared with the number after
`finSequenceNumber`: that of the FIN it is answered with, or of one sent before. -/
structure ComparesFin (conn : TcpConnection) (packet : Ipv4Packet) (header : TcpHeaderData)
    (finSequenceNumber : UInt32) : Prop where
  begun : conn.tcb.state ≠ .init
  noSyn : header.isSyn = false
  expected : header.sequenceNumber = conn.expectedPacket
  noRst : header.isRst = false
  fin : (conn.FinAnswered packet header ∧ finSequenceNumber = conn.tcb.sequenceNumber) ∨
    (¬ conn.FinAnswered packet header ∧ conn.tcb.finSequenceNumber = some finSequenceNumber)

/-- With overflow checks, it is not compared with the number after the last one. -/
def SparesFin (conn : TcpConnection) (packet : Ipv4Packet) (overflowChecks : Bool) : Prop :=
  overflowChecks = true → ∀ header finSequenceNumber, tcpHeaderOfPacket packet = .ok header →
    conn.ComparesFin packet header.data finSequenceNumber → finSequenceNumber.toNat + 1 ≠ 2 ^ 32

end TcpConnection

/-- The number after the FIN exists, unless it would be the one after the last and overflows are
checked. -/
theorem afterFin_spared {overflowChecks : Bool} {finSequenceNumber : UInt32}
    (spared : overflowChecks = true → finSequenceNumber.toNat + 1 ≠ 2 ^ 32) :
    afterFin overflowChecks finSequenceNumber = .ok (finSequenceNumber + 1) :=
  if_neg fun last => spared last.1 last.2

/-- What is left to say of a FIN after the acknowledgement part. -/
theorem finAnswered_iff {c c₁ : TcpContext} {packet : Ipv4Packet} {header : TcpHeaderData}
    (ackPart : (if header.isAck then (c.noteWindow header).handleAck packet
      else .ok (c.noteWindow header)) = .ok c₁) :
    (header.isFin = true ∧ c₁.conn.clientToNetwork.isEmpty = true ∧
        c₁.conn.tcb.state = .established ↔ c.conn.FinAnswered packet header) ∧
      c₁.conn.tcb.sequenceNumber = c.conn.tcb.sequenceNumber ∧
      c₁.conn.tcb.finSequenceNumber = c.conn.tcb.finSequenceNumber := by
  by_cases ack : header.isAck = true
  · rw [if_pos ack] at ackPart
    rcases TcpContext.handleAck_ok ackPart with ⟨synReceived, same⟩ |
      ⟨notSynReceived, payload, carried, ⟨same, dropped⟩ | ⟨stored, readFrom, same⟩⟩
    · rw [same]
      refine ⟨and_congr_right fun _ => and_congr_right fun _ => ?_, rfl, rfl⟩
      exact ⟨fun _ => .inl ⟨synReceived, ack⟩, fun _ => rfl⟩
    · rw [same]
      refine ⟨and_congr_right fun _ => and_congr_right fun _ => ⟨fun established => ?_, ?_⟩,
        rfl, rfl⟩
      · refine .inr ⟨established, fun _ payload' carried' => ?_⟩
        rw [carried] at carried'
        cases carried'
        exact dropped
      · rintro (⟨synReceived, -⟩ | ⟨established, -⟩)
        · exact absurd synReceived notSynReceived
        · exact established
    · have contents := StreamBuffer.contents_readFrom readFrom
      rw [same]
      refine ⟨and_congr_right fun _ => ?_, rfl, rfl⟩
      rw [StreamBuffer.isEmpty_iff, StreamBuffer.isEmpty_iff, contents, List.append_eq_nil_iff]
      constructor
      · rintro ⟨⟨empty, none⟩, established⟩
        refine ⟨empty, .inr ⟨established, fun _ payload' carried' => ?_⟩⟩
        rw [carried] at carried'
        cases carried'
        exact .inl none
      · rintro ⟨empty, ⟨synReceived, -⟩ | ⟨established, dropped⟩⟩
        · exact absurd synReceived notSynReceived
        · refine ⟨⟨empty, ?_⟩, established⟩
          refine (dropped ack payload carried).resolve_right fun full => ?_
          cases (StreamBuffer.readFrom_full full).symm.trans readFrom
  · rw [if_neg ack] at ackPart
    cases ackPart
    refine ⟨and_congr_right fun _ => and_congr_right fun _ => ⟨fun established => ?_, ?_⟩,
      rfl, rfl⟩
    · exact .inr ⟨established, fun isAck => absurd isAck ack⟩
    · rintro (⟨-, isAck⟩ | ⟨established, -⟩)
      · exact absurd isAck ack
      · exact established

/-- The FIN that is sent in answer to the client's. -/
theorem handleFin_finSequenceNumber {c c' : TcpContext} (h : c.handleFin = .ok c') :
    c'.conn.tcb.finSequenceNumber =
      if c.conn.clientToNetwork.isEmpty = true ∧ c.conn.tcb.state = .established then
        some c.conn.tcb.sequenceNumber
      else c.conn.tcb.finSequenceNumber := by
  unfold TcpContext.handleFin at h
  simp only at h
  split at h
  · rename_i empty
    unfold TcpContext.doHandleFin at h
    simp only at h
    split at h
    · rename_i established
      obtain ⟨c₁, forged, rest⟩ := bind_eq_ok.mp h
      obtain ⟨_, _, _, -, -, same⟩ := TcpContext.replyEmptyPacketToClient_ok forged
      cases rest
      rw [if_pos ⟨empty, established⟩, TcpContext.conn_countSentFin, same]
      rfl
    · rename_i other
      rw [if_neg fun answered => other answered.2]
      split at h
      · obtain ⟨c₁, forged, rest⟩ := bind_eq_ok.mp h
        obtain ⟨_, _, _, -, -, same⟩ := TcpContext.replyEmptyPacketToClient_ok forged
        cases rest
        exact congrArg (·.tcb.finSequenceNumber) same
      · split at h
        · obtain ⟨c₁, forged, rest⟩ := bind_eq_ok.mp h
          obtain ⟨_, _, _, -, -, same⟩ := TcpContext.replyEmptyPacketToClient_ok forged
          cases rest
          exact congrArg (·.tcb.finSequenceNumber) same
        · cases h
          rfl
  · rename_i nonempty
    rw [if_neg fun answered => nonempty answered.1]
    cases h
    rfl

/-- **What the comparison is with**, as the state before the packet and the segment say it.  The
FIN of the relay was sent before, or it answers a FIN of this very segment, and then its number is
the one that the relay stands at. -/
theorem comparesFin {c c₁ c₂ : TcpContext} {packet : Ipv4Packet} {header : TcpHeaderData}
    {finSequenceNumber : UInt32} (begun : c.conn.tcb.state ≠ .init)
    (noSyn : header.isSyn = false)
    (expected : header.sequenceNumber = c.conn.expectedPacket)
    (noRst : header.isRst = false)
    (ackPart : (if header.isAck then (c.noteWindow header).handleAck packet
      else .ok (c.noteWindow header)) = .ok c₁)
    (finPart : (if header.isFin then c₁.handleFin else .ok c₁) = .ok c₂)
    (sent : c₂.conn.tcb.finSequenceNumber = some finSequenceNumber) :
    c.conn.ComparesFin packet header finSequenceNumber := by
  obtain ⟨answered, number, fin⟩ := finAnswered_iff ackPart
  refine ⟨begun, noSyn, expected, noRst, ?_⟩
  rw [← answered]
  by_cases isFin : header.isFin = true
  · rw [if_pos isFin] at finPart
    rw [handleFin_finSequenceNumber finPart] at sent
    split at sent
    · rename_i answers
      cases sent
      exact .inl ⟨⟨isFin, answers⟩, number⟩
    · rename_i silent
      exact .inr ⟨fun answers => silent answers.2, fin ▸ sent⟩
  · rw [if_neg isFin] at finPart
    cases finPart
    exact .inr ⟨fun answers => isFin answers.1, fin ▸ sent⟩

/-! ## What every method keeps -/

namespace TcpContext.Shifted

variable {d : UInt32} {c c' : TcpContext}

/-- What one connection records the other one records as well, up to the numbers in it. -/
theorem record {action action' : TcpAction} (shifted : c.Shifted d c')
    (same : action.Shifted d action') : (c.record action).Shifted d (c'.record action') :=
  ⟨shifted.conn.record same, shifted.client, shifted.selector⟩

/-- The control blocks may be changed by two functions, as long as these keep them shifted. -/
theorem withTcb {f g : Tcb → Tcb} (shifted : c.Shifted d c')
    (tcb : (f c.conn.tcb).Shifted d (g c'.conn.tcb)) :
    (c.withTcb f).Shifted d (c'.withTcb g) := by
  refine ⟨?_, shifted.client, shifted.selector⟩
  obtain ⟨conn', client', selector'⟩ := c'
  obtain ⟨conn, -, -⟩ := shifted
  cases conn with
  | mk _ twin waits trace => exact .mk tcb twin waits trace

/-- Both have the same bytes for their host, also behind any change that is made to both buffers.
-/
theorem withBuffer (shifted : c.Shifted d c')
    (clientToNetwork : StreamBuffer (4 * maxPacketLength)) :
    Shifted d { c with conn := { c.conn with clientToNetwork } }
      { c' with conn := { c'.conn with clientToNetwork } } := by
  refine ⟨?_, shifted.client, shifted.selector⟩
  obtain ⟨conn', client', selector'⟩ := c'
  obtain ⟨conn, -, -⟩ := shifted
  cases conn with
  | mk tcb twin waits trace => exact .mk tcb twin waits trace

theorem touch (shifted : c.Shifted d c') (now : Instant) :
    Shifted d { c with conn := c.conn.touch now } { c' with conn := c'.conn.touch now } := by
  refine ⟨?_, shifted.client, shifted.selector⟩
  obtain ⟨conn', client', selector'⟩ := c'
  obtain ⟨conn, -, -⟩ := shifted
  cases conn with
  | mk tcb twin waits trace => exact .mk tcb twin waits trace

theorem close (shifted : c.Shifted d c') : c.close.Shifted d c'.close := by
  obtain ⟨conn', client', selector'⟩ := c'
  obtain ⟨conn, client, rfl⟩ := shifted
  refine ⟨?_, client, ?_⟩
  · cases conn with
    | mk tcb twin waits trace =>
        exact .mk tcb twin waits (List.rel_append trace (.cons (.closed _) .nil))
  · show (c.selector.deregister (.connection conn'.handle)).2 = _
    rw [conn.handle]
    rfl

theorem removeFromRouter (shifted : c.Shifted d c') :
    c.removeFromRouter.Shifted d c'.removeFromRouter := by
  refine ⟨shifted.conn, ?_, shifted.selector⟩
  constructor
  · show c'.client.removeConnection c'.conn.id = _
    rw [shifted.conn.id, shifted.client.rest]
    rfl
  · exact shifted.client.size

/-- Both are registered again, under the same interest, or neither is. -/
theorem updateInterests (shifted : c.Shifted d c') :
    InStep (Shifted d) c.updateInterests c'.updateInterests := by
  rw [TcpContext.updateInterests, TcpContext.updateInterests, shifted.conn.closed,
    shifted.conn.interests, shifted.conn.wanted, shifted.conn.handle, shifted.selector]
  refine .ite Iff.rfl (fun _ => .error nofun) fun _ => ?_
  refine .ite Iff.rfl (fun _ => ?_) fun _ => .ok shifted
  refine .bind_same (fun panic failed => ?_) fun selector _ => ?_
  · rw [Selector.reregister_error failed]
    exact nofun
  · refine .ok ⟨?_, shifted.client, rfl⟩
    obtain ⟨conn', client', selector'⟩ := c'
    obtain ⟨conn, -, -⟩ := shifted
    cases conn with
    | mk tcb twin waits trace => exact .mk tcb twin waits trace

/-- The sequence numbers are `d` apart once they were drawn, which is in every state but the first.
-/
theorem numbered (shifted : c.Shifted d c') (begun : c.conn.tcb.state ≠ .init) :
    c'.conn.tcb.sequenceNumber = c.conn.tcb.sequenceNumber + d :=
  shifted.conn.tcb.sequenceNumber begun

/-- **An empty segment** is forged alike.  Its number is shifted and its acknowledgement is not,
which is what a client of the shifted twin expects. -/
theorem reply {flags : UInt16} (shifted : c.Shifted d c') (mem : flags ∈ relayFlags)
    (sequenceNumber : c'.conn.tcb.sequenceNumber = c.conn.tcb.sequenceNumber + d) :
    InStep (fun a b => a.Shifted d b ∧ a.conn.tcb = c.conn.tcb)
      (c.replyEmptyPacketToClient flags) (c'.replyEmptyPacketToClient flags) := by
  obtain ⟨packet, packet', packetizer, packetizer', created, created', twin, packets, index⟩ :=
    shifted.conn.twin.createEmptyResponsePacket mem sequenceNumber
      shifted.conn.tcb.acknowledgementNumber
  rw [replyEmptyPacketToClient, replyEmptyPacketToClient, created, created', ok_bind, ok_bind,
    shifted.selector]
  refine (shifted.client.sendRawToClient c.selector packets.raw.length).bind ?_
  rintro ⟨sent, client, selector⟩ ⟨sent', client', selector'⟩ ⟨-, alike, same⟩
  refine .ok ⟨⟨?_, alike, same⟩, rfl⟩
  obtain ⟨conn', client', selector'⟩ := c'
  obtain ⟨conn, -, -⟩ := shifted
  cases conn with
  | mk tcb _ waits trace =>
      refine .mk tcb twin.alike (fun length some => ⟨twin, ?_⟩)
        (List.rel_append trace (.cons (.forged _ packets.raw) .nil))
      exact index.trans_le (waits length some).2

/-- A reset is forged alike, and both close. -/
theorem resetAndClose (shifted : c.Shifted d c')
    (sequenceNumber : c'.conn.tcb.sequenceNumber = c.conn.tcb.sequenceNumber + d) :
    InStep (Shifted d) (do return (← c.replyEmptyPacketToClient flagRst).close)
      (do return (← c'.replyEmptyPacketToClient flagRst).close) := by
  refine (shifted.reply (by decide) sequenceNumber).bind ?_
  rintro a b ⟨replied, -⟩
  exact .ok replied.close

/-- A FIN that was sent has the sequence number of the moment, in both. -/
theorem countSentFin {state : TcpState} (shifted : c.Shifted d c')
    (connected : c.conn.tcb.state.isConnected = true)
    (sequenceNumber : c'.conn.tcb.sequenceNumber = c.conn.tcb.sequenceNumber + d) :
    (c.countSentFin state).Shifted d (c'.countSentFin state) := by
  refine shifted.withTcb { shifted.conn.tcb with
    state := rfl
    sequenceNumber := fun _ => ?_
    theirAcknowledgementNumber := fun _ => shifted.conn.tcb.theirAcknowledgementNumber connected
    finSequenceNumber := ?_ }
  · show c'.conn.tcb.sequenceNumber + 1 = c.conn.tcb.sequenceNumber + 1 + d
    rw [sequenceNumber]
    grind
  · show some c'.conn.tcb.sequenceNumber = some (c.conn.tcb.sequenceNumber + d)
    rw [sequenceNumber]

/-- The FIN of the client counts for one in both, and its numbers are not shifted. -/
theorem countReceivedFin (shifted : c.Shifted d c') :
    c.countReceivedFin.Shifted d c'.countReceivedFin := by
  refine (shifted.withTcb { shifted.conn.tcb with acknowledgementNumber := ?_ }).record .finHandled
  show c'.conn.tcb.acknowledgementNumber + 1 = c.conn.tcb.acknowledgementNumber + 1
  rw [shifted.conn.tcb.acknowledgementNumber]

/-! ## Packets of the client -/

/-- The answer to a FIN depends on the state alone, and the states are equal. -/
theorem doHandleFin (shifted : c.Shifted d c') :
    InStep (Shifted d) c.doHandleFin c'.doHandleFin := by
  have counted := shifted.countReceivedFin
  have state := counted.conn.state
  unfold TcpContext.doHandleFin
  simp only [state]
  refine .ite Iff.rfl (fun established => ?_) fun _ => ?_
  · have number := counted.numbered (by rw [established]; exact nofun)
    refine (counted.reply (by decide) number).bind ?_
    rintro a b ⟨replied, same⟩
    refine .ok (replied.countSentFin ?_ (replied.numbered ?_))
    · rw [same, established]
      rfl
    · rw [same, established]
      exact nofun
  · refine .ite Iff.rfl (fun finWait1 => ?_) fun _ => ?_
    · have number := counted.numbered (by rw [finWait1]; exact nofun)
      refine (counted.reply (by decide) number).bind ?_
      rintro a b ⟨replied, same⟩
      have connected : a.conn.tcb.state.isConnected = true := by
        rw [same, finWait1]
        rfl
      refine .ok (replied.withTcb { replied.conn.tcb with
        state := rfl
        sequenceNumber := fun _ => replied.numbered ?_
        theirAcknowledgementNumber := fun _ =>
          replied.conn.tcb.theirAcknowledgementNumber connected })
      rw [same, finWait1]
      exact nofun
    · refine .ite Iff.rfl (fun finWait2 => ?_) fun _ => .ok counted
      have number := counted.numbered (by rw [finWait2]; exact nofun)
      refine (counted.reply (by decide) number).bind ?_
      rintro a b ⟨replied, -⟩
      exact .ok replied.close

/-- The FIN of the client is noted by both, and handled by both or by neither, since their buffers
are equal. -/
theorem handleFin (shifted : c.Shifted d c') : InStep (Shifted d) c.handleFin c'.handleFin := by
  have noted : Shifted d (c.withTcb fun tcb => { tcb with finReceived := true })
      (c'.withTcb fun tcb => { tcb with finReceived := true }) :=
    shifted.withTcb { shifted.conn.tcb with finReceived := rfl }
  unfold TcpContext.handleFin
  simp only [noted.conn.clientToNetwork]
  exact .ite Iff.rfl (fun _ => noted.doHandleFin) fun _ => .ok noted

/-- What the acknowledgement of the FIN leads to depends on the state alone. -/
theorem handleFinAck (shifted : c.Shifted d c') : c.handleFinAck.Shifted d c'.handleFinAck := by
  have state := shifted.conn.state
  unfold TcpContext.handleFinAck
  rw [state]
  split
  · exact shifted.close
  · split
    · rename_i finWait1
      have connected : c.conn.tcb.state.isConnected = true := by
        rw [finWait1]
        rfl
      refine shifted.withTcb { shifted.conn.tcb with
        state := rfl
        sequenceNumber := fun _ => shifted.numbered ?_
        theirAcknowledgementNumber := fun _ =>
          shifted.conn.tcb.theirAcknowledgementNumber connected }
      rw [finWait1]
      exact nofun
    · exact shifted

/-- The acknowledgement part of a packet: the payloads are equal, and so is the room for them. -/
theorem handleAck {packet packet' : Ipv4Packet} (shifted : c.Shifted d c')
    (payload : packet'.payload = packet.payload)
    (number : c'.conn.tcb.theirAcknowledgementNumber =
      c.conn.tcb.theirAcknowledgementNumber + d) :
    InStep (Shifted d) (c.handleAck packet) (c'.handleAck packet') := by
  have state := shifted.conn.state
  have buffer := shifted.conn.clientToNetwork
  unfold TcpContext.handleAck
  rw [payload]
  refine .ite (by rw [state]) (fun synReceived => ?_) fun _ => ?_
  · refine .ok (shifted.withTcb { shifted.conn.tcb with
      state := rfl
      sequenceNumber := fun _ => shifted.numbered ?_
      theirAcknowledgementNumber := fun _ => number })
    rw [synReceived]
    exact nofun
  · refine .bind_same (fun panic failed => Ipv4Packet.payload_error failed) fun payload _ => ?_
    cases payload with
    | none => exact .error nofun
    | some payload =>
        simp only [buffer]
        refine .ite Iff.rfl (fun _ => .ok shifted) fun _ => ?_
        refine .ite Iff.rfl (fun _ => .ok shifted) fun room => ?_
        obtain ⟨stored, readFrom, -⟩ := StreamBuffer.readFrom_ok (not_lt.mp room)
        rw [readFrom]
        exact .ok (shifted.withBuffer stored)

/-- The first packet: both connections draw their number here, and the second one is `d` ahead. -/
theorem handleFirstPacket {packet packet' : Ipv4Packet} {random : UInt32}
    (shifted : c.Shifted d c') (packets : AckShifted d packet packet') :
    InStep (Shifted d) (c.handleFirstPacket packet random)
      (c'.handleFirstPacket packet' (random + d)) := by
  refine (packets.header.errors fun _ => tcpHeaderOfPacket_error).bind ?_
  rintro header ⟨raw', data'⟩ ⟨number, rfl, acked⟩
  refine .ite Iff.rfl (fun syn => ?_) fun noSyn => ?_
  · refine .ok (.record (shifted.withTcb { shifted.conn.tcb with
      state := rfl
      synSequenceNumber := rfl
      sequenceNumber := fun _ => rfl
      acknowledgementNumber := rfl
      theirAcknowledgementNumber := fun connected => ?_
      clientWindow := rfl }) (.opened random))
    cases connected
  · have ahead : number = header.data.acknowledgementNumber + d := acked.resolve_left noSyn
    have refused : Shifted d
        (c.withTcb fun tcb => { tcb with sequenceNumber := header.data.acknowledgementNumber })
        (c'.withTcb fun tcb => { tcb with sequenceNumber := number }) :=
      shifted.withTcb { shifted.conn.tcb with sequenceNumber := fun _ => ahead }
    exact refused.resetAndClose ahead

/-- A repeated SYN is compared by its own number, which is not shifted. -/
theorem handleDuplicateSyn {packet packet' : Ipv4Packet} (shifted : c.Shifted d c')
    (packets : AckShifted d packet packet') (begun : c.conn.tcb.state ≠ .init) :
    InStep (Shifted d) (c.handleDuplicateSyn packet) (c'.handleDuplicateSyn packet') := by
  have state := shifted.conn.state
  have syn := shifted.conn.tcb.synSequenceNumber
  refine (packets.header.errors fun _ => tcpHeaderOfPacket_error).bind ?_
  rintro header ⟨raw', data'⟩ ⟨number, rfl, -⟩
  refine .ite (by rw [state]) (fun _ => ?_) fun _ => ?_
  · exact .ok (shifted.withTcb { shifted.conn.tcb with
      synSequenceNumber := rfl
      acknowledgementNumber := rfl })
  · exact .ite (by rw [syn]) (fun _ => shifted.resetAndClose (shifted.numbered begun))
      fun _ => .ok shifted

/-- **A packet of the client**, when the number it is compared with is not the last one.  Only the
comparison with the FIN is made by an addition that does not wrap, so it is the one place where the
shift may be seen. -/
theorem handlePacket {packet packet' : Ipv4Packet} {random : UInt32} {overflowChecks : Bool}
    (shifted : c.Shifted d c') (packets : AckShifted d packet packet')
    (spares : c.conn.SparesFin packet overflowChecks)
    (spares' : c'.conn.SparesFin packet' overflowChecks) :
    InStep (Shifted d) (c.handlePacket packet random overflowChecks)
      (c'.handlePacket packet' (random + d) overflowChecks) := by
  have state := shifted.conn.state
  have expected := shifted.conn.expectedPacket
  refine (packets.header.errors fun _ => tcpHeaderOfPacket_error).bind_eq ?_
  rintro header ⟨raw', data'⟩ tcp tcp' ⟨number, rfl, acked⟩
  refine .ite (by rw [state]) (fun _ => shifted.handleFirstPacket packets) fun begun => ?_
  refine .ite Iff.rfl (fun _ => shifted.handleDuplicateSyn packets begun) fun noSyn => ?_
  refine .ite (by rw [expected]) (fun _ => .ok shifted) fun next => ?_
  have ahead : number = header.data.acknowledgementNumber + d := acked.resolve_left noSyn
  have noted : Shifted d (c.noteWindow header.data)
      (c'.noteWindow { header.data with acknowledgementNumber := number }) :=
    shifted.withTcb { shifted.conn.tcb with
      theirAcknowledgementNumber := fun _ => ahead
      clientWindow := rfl }
  refine .ite Iff.rfl (fun _ => .ok noted.close) fun noRst => ?_
  have ackPart : InStep (Shifted d)
      (if header.data.isAck then (c.noteWindow header.data).handleAck packet
        else .ok (c.noteWindow header.data))
      (if header.data.isAck then
          (c'.noteWindow { header.data with acknowledgementNumber := number }).handleAck packet'
        else .ok (c'.noteWindow { header.data with acknowledgementNumber := number })) :=
    .ite Iff.rfl (fun _ => noted.handleAck packets.payload ahead) fun _ => .ok noted
  refine ackPart.bind_eq fun c₁ c₁' acks acks' shifted₁ => ?_
  have finPart : InStep (Shifted d) (if header.data.isFin then c₁.handleFin else .ok c₁)
      (if header.data.isFin then c₁'.handleFin else .ok c₁') :=
    .ite Iff.rfl (fun _ => shifted₁.handleFin) fun _ => .ok shifted₁
  refine finPart.bind_eq fun c₂ c₂' fins fins' shifted₂ => ?_
  have fin := shifted₂.conn.tcb.finSequenceNumber
  rw [Bool.not_eq_true] at noSyn noRst
  rw [not_not] at next
  cases sent : c₂.conn.tcb.finSequenceNumber with
  | none =>
      rw [sent] at fin
      simp only [fin, Option.map_none]
      exact .ok shifted₂
  | some finSequenceNumber =>
      rw [sent] at fin
      simp only [fin, Option.map_some]
      have compares := comparesFin begun noSyn next noRst acks fins sent
      have compares' : c'.conn.ComparesFin packet'
          { header.data with acknowledgementNumber := number } (finSequenceNumber + d) :=
        comparesFin (state ▸ begun) noSyn (next.trans expected.symm) noRst acks' fins' fin
      rw [afterFin_spared fun checks => spares checks header _ tcp compares,
        afterFin_spared fun checks => spares' checks _ _ tcp' compares', ok_bind, ok_bind]
      refine .ite ?_ (fun _ => .ok shifted₂.handleFinAck) fun _ => .ok shifted₂
      rw [ahead]
      grind

end TcpContext.Shifted

end ReverseTether
