import ReverseTether.FlowLives
import ReverseTether.ReadableWindow
import ReverseTether.UdpFlows
import ReverseTether.WritableInterest

/-!
# Packets in front of an event

The events of a batch are handled one after the other, and the client's socket may be the first
of them.  What its packets do to a connection is then done before the event of that connection,
which was polled for the connection as it was.  Two things that an event relies on can be lost
in this way, the room in the window of the client and the look of the queue of a UDP connection.

`Relay.ClosesWindow` and `Relay.Overtakes` say so by the state that the event of the client
leaves.  Here the same is said by what the event brings and by the state before it: the packets
of the flow among those that the bytes of the client amount to, and the numbers that the
connection stands at.

## The window

A header says where the window of the client ends, and the relay counts from its own next
number what is left (`Tcb.hears`).  Between two packets of one event the relay sends nothing of
the host, so that this number is the one of the state before, or the next one when the FIN of
the client was answered meanwhile.  A window is closed, then, only by a header that leaves no
room at all, or one byte of it that the FIN of the relay takes (`TcpConnection.Narrows`).

## The queue

While the reader of the queue stands at the beginning, every datagram is stored, and `head` goes
on by its block and back to the beginning at the end.  Where `head` is behind some datagrams is
a sum, begun anew where it is reset (`DatagramBuffer.headBehind`), and the queue looks empty
exactly when the last of them ends there (`Relay.isEmpty_iff_filledBy`).
-/

namespace ReverseTether

open Library

/-! ## The window -/

/-- One of the packets is a TCP segment with the FIN flag.  The relay answers it with its own FIN,
and that takes a number of the window. -/
def HasFin (packets : List IpPacket) : Prop :=
  ∃ packet header, .ipv4 packet ∈ packets ∧
    TcpConnection.tcpHeaderOfPacket packet = .ok header ∧ header.data.isFin = true

/-- One of the packets leaves the connection no room, or the one byte that the FIN of the relay
takes when it answers a FIN of the client. -/
def TcpConnection.Narrows (conn : TcpConnection) (packets : List IpPacket) : Prop :=
  ∃ packet header, .ipv4 packet ∈ packets ∧ tcpHeaderOfPacket packet = .ok header ∧
    ((conn.tcb.hears header.data).remainingClientWindow = 0 ∨
      (conn.tcb.hears header.data).remainingClientWindow = 1 ∧ conn.tcb.state = .established ∧
        HasFin packets)

/-- What the relay has sent into the window: nothing, or the FIN that answers the client's.  It is
sent once, since the connection is established only before it. -/
inductive Tcb.Sends (cause : Prop) (tcb tcb' : Tcb) : Prop
  | nothing : tcb'.sequenceNumber = tcb.sequenceNumber →
      (tcb.state ≠ .established → tcb'.state ≠ .established) → Sends cause tcb tcb'
  | fin : cause → tcb.state = .established → tcb'.state ≠ .established →
      tcb'.sequenceNumber = tcb.sequenceNumber + 1 → Sends cause tcb tcb'

/-- What packets of the client have told the control block of its window: nothing, or the header of
one of them says where it ends. -/
inductive Tcb.Told (packets : List IpPacket) (tcb tcb' : Tcb) : Prop
  | nothing : tcb'.clientWindow = tcb.clientWindow →
      tcb'.theirAcknowledgementNumber = tcb.theirAcknowledgementNumber →
      tcb'.sequenceNumber = tcb.sequenceNumber →
      (tcb.state ≠ .established → tcb'.state ≠ .established) → Told packets tcb tcb'
  | heard {packet : Ipv4Packet} {header : TcpHeader} : .ipv4 packet ∈ packets →
      TcpConnection.tcpHeaderOfPacket packet = .ok header →
      tcb'.clientWindow = header.data.window →
      tcb'.theirAcknowledgementNumber = header.data.acknowledgementNumber →
      tcb.Sends (HasFin packets) tcb' → Told packets tcb tcb'

/-- A FIN among some packets is one among more of them. -/
theorem HasFin.mono {packets packets' : List IpPacket} (hasFin : HasFin packets)
    (more : packets ⊆ packets') : HasFin packets' := by
  obtain ⟨packet, header, mem, tcp, fin⟩ := hasFin
  exact ⟨packet, header, more mem, tcp, fin⟩

namespace Tcb

variable {cause cause' : Prop} {packets packets' : List IpPacket} {tcb tcb₁ tcb' : Tcb}

/-- What was sent for one reason was sent for any reason that it gives. -/
theorem Sends.mono (sends : tcb.Sends cause tcb') (weaker : cause → cause') :
    tcb.Sends cause' tcb' := by
  cases sends with
  | nothing number past => exact .nothing number past
  | fin fin established past number => exact .fin (weaker fin) established past number

/-- Two stretches in which at most the FIN is sent make one: the second finds the connection past
`established`, if the first has sent it. -/
theorem Sends.trans (first : tcb.Sends cause tcb₁) (second : tcb₁.Sends cause tcb') :
    tcb.Sends cause tcb' := by
  cases first with
  | nothing number past =>
      cases second with
      | nothing number' past' => exact .nothing (number'.trans number) (past' ∘ past)
      | fin fin established past' number' =>
          refine .fin fin ?_ past' (by rw [number', number])
          by_contra before
          exact past before established
  | fin fin established past number =>
      cases second with
      | nothing number' past' => exact .fin fin established (past' past) (number'.trans number)
      | fin _ established' _ _ => exact absurd established' past

/-- **The last packet that is heeded says where the window ends.**  The header of the second
stretch wins if there is one; if there is none the header of the first stays, and at most the FIN
of the relay is counted behind it. -/
theorem Told.trans (first : tcb.Told packets tcb₁) (second : tcb₁.Told packets' tcb') :
    tcb.Told (packets ++ packets') tcb' := by
  have left : packets ⊆ packets ++ packets' := List.subset_append_left _ _
  have right : packets' ⊆ packets ++ packets' := List.subset_append_right _ _
  cases second with
  | nothing window acked number past =>
      cases first with
      | nothing window' acked' number' past' =>
          exact .nothing (window.trans window') (acked.trans acked') (number.trans number')
            (past ∘ past')
      | heard mem tcp window' acked' sends =>
          exact .heard (left mem) tcp (window.trans window') (acked.trans acked')
            ((sends.mono fun fin => fin.mono left).trans (.nothing number past))
  | heard mem tcp window acked sends =>
      have before : tcb.Sends (HasFin (packets ++ packets')) tcb₁ := by
        cases first with
        | nothing _ _ number past => exact .nothing number past
        | heard _ _ _ _ sends => exact sends.mono fun fin => fin.mono left
      exact .heard (right mem) tcp window acked (before.trans (sends.mono fun fin => fin.mono right))

end Tcb

namespace TcpContext

variable {c c' : TcpContext}

/-- A FIN of the client is answered once, and the window is not touched. -/
theorem handleFin_sends (h : c.handleFin = .ok c') :
    c'.conn.tcb.clientWindow = c.conn.tcb.clientWindow ∧
      c'.conn.tcb.theirAcknowledgementNumber = c.conn.tcb.theirAcknowledgementNumber ∧
      c.conn.tcb.Sends True c'.conn.tcb := by
  unfold handleFin at h
  simp only at h
  split at h
  · unfold doHandleFin at h
    simp only at h
    split at h
    · rename_i established
      obtain ⟨c₁, forged, rest⟩ := bind_eq_ok.mp h
      cases rest
      obtain ⟨-, tcb⟩ := reply_sameWindow forged
      rw [conn_countSentFin, tcb]
      exact ⟨rfl, rfl, .fin trivial established (fun same => by cases same) rfl⟩
    · rename_i notEstablished
      split at h
      · obtain ⟨c₁, forged, rest⟩ := bind_eq_ok.mp h
        cases rest
        obtain ⟨-, tcb⟩ := reply_sameWindow forged
        rw [withTcb, tcb]
        exact ⟨rfl, rfl, .nothing rfl fun _ same => by cases same⟩
      · split at h
        · obtain ⟨c₁, forged, rest⟩ := bind_eq_ok.mp h
          cases rest
          obtain ⟨-, tcb⟩ := reply_sameWindow forged
          have tcb : c₁.close.conn.tcb = _ := tcb
          rw [tcb]
          exact ⟨rfl, rfl, .nothing rfl id⟩
        · cases h
          exact ⟨rfl, rfl, .nothing rfl id⟩
  · cases h
    exact ⟨rfl, rfl, .nothing rfl id⟩

/-- Acknowledging a FIN of the relay sends nothing. -/
theorem handleFinAck_sends (c : TcpContext) :
    c.handleFinAck.conn.tcb.clientWindow = c.conn.tcb.clientWindow ∧
      c.handleFinAck.conn.tcb.theirAcknowledgementNumber = c.conn.tcb.theirAcknowledgementNumber ∧
      c.conn.tcb.Sends False c.handleFinAck.conn.tcb := by
  unfold handleFinAck
  split
  · exact ⟨rfl, rfl, .nothing rfl id⟩
  · split
    · exact ⟨rfl, rfl, .nothing rfl fun _ same => by cases same⟩
    · exact ⟨rfl, rfl, .nothing rfl id⟩

/-- **What an expected segment tells a connection**: its header is heeded, and no more is sent than
the answer to its FIN. The three parts of the source are taken in their order: the acknowledgement,
the FIN, and the acknowledgement of the FIN of the relay. -/
theorem handlePacket_heard {packet : Ipv4Packet} {header : TcpHeader} {random : UInt32}
    {overflowChecks : Bool} (connected : c.conn.tcb.state.isConnected = true)
    (tcp : TcpConnection.tcpHeaderOfPacket packet = .ok header) (notInit : c.conn.tcb.state ≠ .init)
    (noSyn : header.data.isSyn = false)
    (expected : header.data.sequenceNumber = c.conn.expectedPacket)
    (noRst : header.data.isRst = false)
    (h : c.handlePacket packet random overflowChecks = .ok c') :
    c.conn.tcb.Told [.ipv4 packet] c'.conn.tcb := by
  rw [handlePacket_expected tcp notInit noSyn expected noRst] at h
  obtain ⟨acked, ackPart, h⟩ := bind_eq_ok.mp h
  obtain ⟨c₂, finPart, h⟩ := bind_eq_ok.mp h
  have heard : acked.conn.tcb.clientWindow = header.data.window ∧
      acked.conn.tcb.theirAcknowledgementNumber = header.data.acknowledgementNumber ∧
      c.conn.tcb.Sends False acked.conn.tcb := by
    rcases ackPart_ok ackPart with ⟨synReceived, -, -⟩ | ⟨same, -⟩ | ⟨_, _, -, -, same⟩
    · rw [synReceived] at connected
      cases connected
    · rw [same]
      exact ⟨rfl, rfl, .nothing rfl id⟩
    · rw [same]
      exact ⟨rfl, rfl, .nothing rfl id⟩
  have finished : c₂.conn.tcb.clientWindow = acked.conn.tcb.clientWindow ∧
      c₂.conn.tcb.theirAcknowledgementNumber = acked.conn.tcb.theirAcknowledgementNumber ∧
      acked.conn.tcb.Sends (HasFin [.ipv4 packet]) c₂.conn.tcb := by
    split at finPart
    · rename_i isFin
      obtain ⟨window, number, sends⟩ := handleFin_sends finPart
      exact ⟨window, number, sends.mono fun _ =>
        ⟨packet, header, List.mem_singleton_self _, tcp, isFin⟩⟩
    · cases finPart
      exact ⟨rfl, rfl, .nothing rfl id⟩
  have answered : c'.conn.tcb.clientWindow = c₂.conn.tcb.clientWindow ∧
      c'.conn.tcb.theirAcknowledgementNumber = c₂.conn.tcb.theirAcknowledgementNumber ∧
      c₂.conn.tcb.Sends False c'.conn.tcb := by
    split at h
    · cases h
      exact ⟨rfl, rfl, .nothing rfl id⟩
    · obtain ⟨number, -, h⟩ := bind_eq_ok.mp h
      split at h
      · cases h
        exact handleFinAck_sends c₂
      · cases h
        exact ⟨rfl, rfl, .nothing rfl id⟩
  refine .heard (List.mem_singleton_self _) tcp
    (answered.1.trans (finished.1.trans heard.1))
    (answered.2.1.trans (finished.2.1.trans heard.2.1)) ?_
  exact ((heard.2.2.mono False.elim).trans finished.2.2).trans (answered.2.2.mono False.elim)

/-- **What a packet tells a connection that stays open**: a segment that is expected says where the
window ends, and any other says nothing.  Of the others a late SYN closes it or is ignored, a RST
closes it, and a segment out of order is ignored. -/
theorem handlePacket_told {packet : Ipv4Packet} {random : UInt32} {overflowChecks : Bool}
    (connected : c.conn.tcb.state.isConnected = true)
    (h : c.handlePacket packet random overflowChecks = .ok c') (isOpen : c'.conn.closed = false) :
    c.conn.tcb.Told [.ipv4 packet] c'.conn.tcb := by
  have handled := h
  obtain ⟨header, tcp, h⟩ := bind_eq_ok.mp h
  simp only at h
  split at h
  · rename_i init
    rw [init] at connected
    cases connected
  · rename_i notInit
    split at h
    · obtain ⟨header', -, h⟩ := bind_eq_ok.mp h
      simp only at h
      split at h
      · rename_i synSent
        rw [synSent] at connected
        cases connected
      · split at h
        · obtain ⟨c₁, -, rest⟩ := bind_eq_ok.mp h
          cases rest
          cases isOpen
        · cases h
          exact .nothing rfl rfl rfl id
    · rename_i noSyn
      split at h
      · cases h
        exact .nothing rfl rfl rfl id
      · rename_i expected
        split at h
        · cases h
          cases isOpen
        · rename_i noRst
          exact handlePacket_heard connected tcp notInit (Bool.of_not_eq_true noSyn)
            (of_not_not expected) (Bool.of_not_eq_true noRst) handled

/-- The same for the call of the router. -/
theorem sendToNetwork_told {packet : IpPacket} {random : UInt32} {overflowChecks : Bool}
    {now : Instant} (connected : c.conn.tcb.state.isConnected = true)
    (h : c.sendToNetwork packet random overflowChecks now = .ok c')
    (isOpen : c'.conn.closed = false) : c.conn.tcb.Told [packet] c'.conn.tcb := by
  cases packet with
  | ipv6 _ =>
      cases h
      exact .nothing rfl rfl rfl id
  | ipv4 packet =>
      obtain ⟨c₂, handled, h⟩ := bind_eq_ok.mp h
      split at h
      · cases h
        exact handlePacket_told (c := { c with conn := c.conn.touch now }) connected handled isOpen
      · obtain ⟨stillOpen, same, -⟩ := updateInterests_ok h
        have told := handlePacket_told (c := { c with conn := c.conn.touch now }) connected handled
          stillOpen
        rw [same]
        exact told

end TcpContext

/-- A header that is heeded closes the window only if it leaves no room for more than the FIN of the
relay. -/
theorem TcpConnection.narrows_of_told {conn : TcpConnection} {tcb' : Tcb} {packets : List IpPacket}
    (told : conn.tcb.Told packets tcb') (room : 0 < conn.tcb.remainingClientWindow)
    (shut : ¬ 0 < tcb'.remainingClientWindow) : conn.Narrows packets := by
  have none : tcb'.remainingClientWindow = 0 := by
    rw [← UInt16.toNat_inj]
    rw [UInt16.lt_iff_toNat_lt] at shut
    exact Nat.eq_zero_of_not_pos shut
  have same {tcb : Tcb} (window : tcb'.clientWindow = tcb.clientWindow)
      (acked : tcb'.theirAcknowledgementNumber = tcb.theirAcknowledgementNumber)
      (number : tcb'.sequenceNumber = tcb.sequenceNumber) :
      tcb'.remainingClientWindow = tcb.remainingClientWindow := by
    rw [Tcb.remainingClientWindow, window, acked, number]
    rfl
  cases told with
  | nothing window acked number _ =>
      rw [same window acked number] at shut
      exact absurd room shut
  | @heard packet header mem tcp window acked sends =>
      refine ⟨packet, header, mem, tcp, ?_⟩
      cases sends with
      | nothing number _ =>
          have left := @same (conn.tcb.hears header.data) window acked number
          exact .inl (left.symm.trans none)
      | fin finishes established _ number =>
          by_cases left : 0 < (conn.tcb.hears header.data).remainingClientWindow
          · have taken := @Tcb.remainingClientWindow_countSentFin (conn.tcb.hears header.data) tcb'
              number acked window left
            rw [none] at taken
            rw [UInt16.lt_iff_toNat_lt] at left
            refine .inr ⟨?_, established, finishes⟩
            rw [← UInt16.toNat_inj]
            simp only [UInt16.toNat_zero, UInt16.toNat_one] at taken left ⊢
            omega
          · refine .inl ?_
            rw [← UInt16.toNat_inj]
            rw [UInt16.lt_iff_toNat_lt] at left
            exact Nat.eq_zero_of_not_pos left

namespace Flow

variable {block : List (Flow × Label)} {armed armed' : Ready}

/-- A call that is no event tells a connection that stays open of its window what its packet says,
if it brings one.  Nothing waits, so that no packet is asked for. -/
theorem returns_told {c c' : TcpContext} {call : ConnectionCall} (s : Flow)
    (noEvent : ¬ call.IsEvent) (connected : c.conn.tcb.state.isConnected = true)
    (idle : c.conn.packetForClientLength = none) (returns : c.Returns call c')
    (isOpen : c'.conn.closed = false) :
    c.conn.tcb.Told (packetsOf [(s, .call call)]) c'.conn.tcb := by
  cases call with
  | packet packet answers => exact TcpContext.sendToNetwork_told connected returns isOpen
  | event _ _ _ => exact absurd trivial noEvent
  | close =>
      cases returns
      cases isOpen
  | expire =>
      have returns : c.expire = .ok c' := returns
      unfold TcpContext.expire at returns
      split at returns
      · obtain ⟨c₁, -, rest⟩ := bind_eq_ok.mp returns
        cases rest
        cases isOpen
      · cases returns
        cases isOpen
  | next =>
      have returns : c.next = .ok c' := returns
      unfold TcpContext.next at returns
      rw [idle] at returns
      cases returns

/-- **The packets of an event tell an idle connection of its window**, and what else the event does
to it does not.  It stays connected and nothing comes to wait, so that the next packet finds it as
the lemma about one packet asks; this is the induction over the packets. -/
theorem path_told {conn conn' : TcpConnection}
    (path : Machine.Path machine ⟨.tcp conn, armed⟩ block ⟨.tcp conn', armed'⟩)
    (quiet : ∀ q ∈ block, ∃ call, q.2 = .call call ∧ ¬ call.IsEvent)
    (connected : conn.tcb.state.isConnected = true) (idle : conn.packetForClientLength = none)
    (isOpen : conn'.closed = false) :
    conn'.tcb.state.isConnected = true ∧ conn'.packetForClientLength = none ∧
      conn.tcb.Told (packetsOf block) conn'.tcb := by
  generalize ends : (⟨.tcp conn', armed'⟩ : Flow) = r at path
  induction path generalizing conn' armed' with
  | refl =>
      cases ends
      exact ⟨connected, idle, .nothing rfl rfl rfl id⟩
  | @step block r' r label before step ih =>
      subst ends
      obtain ⟨middle, is⟩ := step.tcp rfl
      obtain ⟨r'conn, r'armed⟩ := r'
      subst is
      obtain ⟨call, rfl, noEvent⟩ :=
        quiet (_, label) (List.mem_append_right _ (List.mem_singleton_self _))
      generalize after : (⟨.tcp conn', armed'⟩ : Flow) = s' at step
      cases step with
      | @call call client selector f wasOpen _ executes =>
          obtain ⟨connections, c', returns, same⟩ := executes.returns.tcp
          have ends : f.conn = .tcp c'.conn := same.conn
          rw [ends] at after
          cases after
          obtain ⟨connected', idle', told⟩ :=
            ih (fun q mem => quiet q (List.mem_append_left _ mem)) wasOpen rfl
          have keeps := TcpContext.Returns.keeps noEvent returns
          refine ⟨keeps.connected connected', keeps.idle idle', ?_⟩
          rw [packetsOf_append]
          exact told.trans (returns_told ⟨.tcp middle, r'armed⟩ noEvent connected' idle' returns isOpen)

end Flow

/-! ## The queue -/

namespace DatagramBuffer

variable {capacity : ℕ} {b b' : DatagramBuffer capacity} {d : List UInt8}

/-- Where `head` is behind some more datagrams, if all of them are stored: it goes on by the block
of each, and is reset where a block ends at `limit` or behind it. -/
def headBehind (limit head : ℕ) (ds : List (List UInt8)) : ℕ :=
  ds.foldl (fun head d => if limit ≤ head + 2 + d.length then 0 else head + 2 + d.length) head

@[simp] theorem headBehind_nil (limit head : ℕ) : headBehind limit head [] = head := rfl

/-- Some datagrams are stored behind the others. -/
theorem headBehind_append (limit head : ℕ) (ds ds' : List (List UInt8)) :
    headBehind limit head (ds ++ ds') = headBehind limit (headBehind limit head ds) ds' :=
  List.foldl_append

/-- Storing a datagram moves `head` behind its block, or back to the beginning. -/
theorem readFrom_positions {result : IoResult Unit} (h : b.readFrom d = .ok (result, b')) :
    (b.hasEnoughSpaceFor d.length = false ∧ result = .error .other ∧ b' = b) ∨
      (b.hasEnoughSpaceFor d.length = true ∧ result = .ok () ∧ b'.tail = b.tail ∧
        b'.head = headBehind (capacity + 1) b.head [d]) := by
  unfold readFrom at h
  split at h
  · cases h
  · split at h
    · rename_i full
      cases h
      exact .inl ⟨by simpa using full, rfl, rfl⟩
    · rename_i space
      obtain ⟨b₁, wrote, h⟩ := bind_eq_ok.mp h
      unfold writeLength at wrote
      split at wrote
      · cases wrote
        split at h
        · cases h
          exact .inr ⟨by simpa using space, rfl, rfl, rfl⟩
        · cases h
      · cases wrote

/-- With the reader elsewhere the queue does not come to look empty. -/
theorem readFrom_apart {result : IoResult Unit} (h : b.readFrom d = .ok (result, b'))
    (elsewhere : b.tail ≠ 0) (nonempty : b.isEmpty = false) :
    b'.tail ≠ 0 ∧ b'.isEmpty = false := by
  rcases readFrom_positions h with ⟨-, -, rfl⟩ | ⟨space, -, tail, head⟩
  · exact ⟨elsewhere, nonempty⟩
  · refine ⟨tail ▸ elsewhere, ?_⟩
    rw [isEmpty, decide_eq_false_iff_not, tail, head]
    rw [isEmpty, decide_eq_false_iff_not] at nonempty
    rw [headBehind, List.foldl_cons, List.foldl_nil]
    rw [hasEnoughSpaceFor] at space
    split
    · exact elsewhere.symm
    · split at space
      · omega
      · rw [decide_eq_true_iff, headerLength] at space
        omega

end DatagramBuffer

/-- The datagrams of the packets fill the queue up to the place where `head` is reset, while the
reader stands at the beginning. -/
def UdpConnection.FilledBy (conn : UdpConnection) (packets : List IpPacket) : Prop :=
  conn.clientToNetwork.tail = 0 ∧
    DatagramBuffer.headBehind (4 * maxPacketLength + 1) conn.clientToNetwork.head
      (packets.filterMap IpPacket.datagram?) = 0

namespace UdpContext

variable {c c' : UdpContext}

/-- A packet is offered to the queue, if it carries a datagram. -/
theorem sendToNetwork_offers {packet : IpPacket} (h : c.sendToNetwork packet = .ok c') :
    (packet.datagram? = none ∧ c'.conn.clientToNetwork = c.conn.clientToNetwork) ∨
      ∃ d result, packet.datagram? = some d ∧
        c.conn.clientToNetwork.readFrom d = .ok (result, c'.conn.clientToNetwork) := by
  cases packet with
  | ipv6 _ =>
      cases h
      exact .inl ⟨rfl, rfl⟩
  | ipv4 packet =>
      obtain ⟨payload, carried, h⟩ := bind_eq_ok.mp h
      cases payload with
      | none => cases h
      | some d =>
          have datagram : IpPacket.datagram? (.ipv4 packet) = some d := by
            rw [IpPacket.datagram?, carried]
            rfl
          obtain ⟨⟨stored, clientToNetwork⟩, queued, h⟩ := bind_eq_ok.mp h
          refine .inr ⟨d, stored, datagram, ?_⟩
          cases stored with
          | ok _ =>
              rw [updateInterests_queue h]
              exact queued
          | error err =>
              cases h
              rcases DatagramBuffer.readFrom_positions queued with ⟨-, -, same⟩ | ⟨-, stored, -⟩
              · rw [same] at queued
                exact queued
              · cases stored

end UdpContext

namespace Flow

variable {block : List (Flow × Label)} {armed armed' : Ready}

/-- A call that is no event offers the queue the datagram of its packet, if it brings one. -/
theorem returns_offers {c c' : UdpContext} {call : ConnectionCall} (s : Flow)
    (noEvent : ¬ call.IsEvent) (returns : c.Returns call c') :
    (packetsOf [(s, .call call)]).filterMap IpPacket.datagram? = [] ∧
        c'.conn.clientToNetwork = c.conn.clientToNetwork ∨
      ∃ d result, (packetsOf [(s, .call call)]).filterMap IpPacket.datagram? = [d] ∧
        c.conn.clientToNetwork.readFrom d = .ok (result, c'.conn.clientToNetwork) := by
  cases call with
  | packet packet answers =>
      have only : packetsOf [(s, Label.call (.packet packet answers))] = [packet] := rfl
      rw [only]
      rcases UdpContext.sendToNetwork_offers returns with ⟨none, same⟩ | ⟨d, result, some, read⟩
      · exact .inl ⟨List.filterMap_cons_none none, same⟩
      · exact .inr ⟨d, result, List.filterMap_cons_some some, read⟩
  | event _ _ _ => exact absurd trivial noEvent
  | close | expire =>
      cases returns
      exact .inl ⟨rfl, rfl⟩
  | next => exact returns.elim

/-- **The datagrams of an event are stored one after the other.**  Where the reader stands
elsewhere than at the beginning the queue may refuse a datagram, but it cannot come to look empty.
-/
theorem path_queue {conn conn' : UdpConnection}
    (path : Machine.Path machine ⟨.udp conn, armed⟩ block ⟨.udp conn', armed'⟩)
    (quiet : ∀ q ∈ block, ∃ call, q.2 = .call call ∧ ¬ call.IsEvent) :
    (conn.clientToNetwork.tail = 0 → conn'.clientToNetwork.tail = 0 ∧
        conn'.clientToNetwork.head = DatagramBuffer.headBehind (4 * maxPacketLength + 1)
          conn.clientToNetwork.head ((packetsOf block).filterMap IpPacket.datagram?)) ∧
      (conn.clientToNetwork.tail ≠ 0 → conn.clientToNetwork.isEmpty = false →
        conn'.clientToNetwork.tail ≠ 0 ∧ conn'.clientToNetwork.isEmpty = false) := by
  generalize ends : (⟨.udp conn', armed'⟩ : Flow) = r at path
  induction path generalizing conn' armed' with
  | refl =>
      cases ends
      exact ⟨fun start => ⟨start, rfl⟩, fun elsewhere nonempty => ⟨elsewhere, nonempty⟩⟩
  | @step block r' r label before step ih =>
      subst ends
      obtain ⟨middle, is⟩ := step.udp rfl
      obtain ⟨r'conn, r'armed⟩ := r'
      subst is
      obtain ⟨call, rfl, noEvent⟩ :=
        quiet (_, label) (List.mem_append_right _ (List.mem_singleton_self _))
      obtain ⟨atStart, apart⟩ := ih (fun q mem => quiet q (List.mem_append_left _ mem)) rfl
      generalize after : (⟨.udp conn', armed'⟩ : Flow) = s' at step
      cases step with
      | @call call client selector f wasOpen _ executes =>
          obtain ⟨connections, c', returns, same⟩ := executes.returns.udp
          have ends : f.conn = .udp c'.conn := same.conn
          rw [ends] at after
          cases after
          rw [packetsOf_append, List.filterMap_append]
          rcases returns_offers ⟨.udp middle, r'armed⟩ noEvent returns with
            ⟨none, same⟩ | ⟨d, result, only, read⟩
          · rw [none, List.append_nil, same]
            exact ⟨atStart, apart⟩
          · rw [only, DatagramBuffer.headBehind_append]
            refine ⟨fun start => ?_, fun elsewhere nonempty => ?_⟩
            · obtain ⟨tail, head⟩ := atStart start
              rcases DatagramBuffer.readFrom_positions read with ⟨full, -, -⟩ | ⟨-, -, same, moved⟩
              · rw [DatagramBuffer.hasEnoughSpaceFor, if_pos (tail ▸ Nat.zero_le _)] at full
                cases full
              · exact ⟨same.trans tail, head ▸ moved⟩
            · obtain ⟨tail, look⟩ := apart elsewhere nonempty
              exact DatagramBuffer.readFrom_apart read tail look

end Flow

/-! ## The events behind them -/

namespace Relay

variable {s : Relay} {label : Label} {t : List (Relay × Label)}

/-- The packets of an event of the client narrow the window of a connection, while a readable
event of the connection waits behind it. -/
def NarrowsWindow (s : Relay) : Label → Prop
  | .handle answers => ∃ (handle : Handle) (ready ready' : Ready)
      (batch : List (Source × Ready)) (conn : TcpConnection),
      s.batch = (.client, ready) :: batch ∧ (.connection handle, ready') ∈ batch ∧
      ready'.isReadable = true ∧ s.created[handle]? = some (.tcp conn) ∧
      conn.Narrows (s.flowPackets (.handle answers) conn.id)
  | _ => False

/-- The packets of an event of the client fill the queue of a UDP connection, while a writable
event of the connection waits behind it. -/
def FillsQueue (s : Relay) : Label → Prop
  | .handle answers => ∃ (handle : Handle) (ready ready' : Ready)
      (batch : List (Source × Ready)) (conn : UdpConnection),
      s.batch = (.client, ready) :: batch ∧ (.connection handle, ready') ∈ batch ∧
      ready'.isWritable = true ∧ s.created[handle]? = some (.udp conn) ∧
      conn.clientToNetwork.isEmpty = false ∧
      conn.FilledBy (s.flowPackets (.handle answers) conn.id)
  | _ => False

/-- What an event of the client does to a connection that stays open: a path of calls, which
brings it the packets of its flow. -/
theorem client_path {ready : Ready} {batch : List (Source × Ready)} {answers : EventAnswers}
    {c : ClientContext} {handle : Handle} {conn conn' : Connection} (routed : s.Routed)
    (next : s.batch = (.client, ready) :: batch)
    (handled : s.toClientContext.onReady ready answers = .ok c)
    (place : s.created[handle]? = some conn) (place' : c.created[handle]? = some conn')
    (isOpen : conn'.isClosed = false) :
    ∃ block, Machine.Path Flow.machine ⟨conn, .empty⟩ block ⟨conn', .empty⟩ ∧
      Flow.packetsOf block = s.flowPackets (.handle answers) conn.id ∧
      ∀ q ∈ block, ∃ call, q.2 = .call call ∧ ¬ call.IsEvent := by
  obtain ⟨conn₁, place₁, block, rest, path, given, all, shown⟩ :=
    client_goes routed next handled place .empty
  cases place'.symm.trans place₁
  refine ⟨block, path, ?_, fun q mem => ?_⟩
  · rw [all isOpen, List.append_nil] at given
    rw [flowPackets, verdicts, next]
    exact given.symm
  · obtain ⟨call, is, caused⟩ := shown q mem
    refine ⟨call, is, ?_⟩
    cases caused with
    | client _ caused => exact caused.quiet
    | connection next' => cases next.symm.trans next'

/-- **When the queue of a UDP connection looks empty** behind an event of the client, where it did
not before.  The condition is arithmetic: a sum over the lengths of the datagrams that the event
brings, from where `head` stood before it. -/
theorem isEmpty_iff_filledBy {ready : Ready} {batch : List (Source × Ready)}
    {answers : EventAnswers} {c : ClientContext} {handle : Handle} {conn conn' : UdpConnection}
    (routed : s.Routed) (next : s.batch = (.client, ready) :: batch)
    (handled : s.toClientContext.onReady ready answers = .ok c)
    (place : s.created[handle]? = some (.udp conn))
    (nonempty : conn.clientToNetwork.isEmpty = false)
    (place' : c.created[handle]? = some (.udp conn')) (isOpen : conn'.closed = false) :
    conn'.clientToNetwork.isEmpty = true ↔
      conn.FilledBy (s.flowPackets (.handle answers) conn.id) := by
  obtain ⟨block, path, given, quiet⟩ := client_path routed next handled place place' isOpen
  obtain ⟨atStart, elsewhere⟩ := Flow.path_queue path quiet
  have given : Flow.packetsOf block = s.flowPackets (.handle answers) conn.id := given
  rw [UdpConnection.FilledBy, ← given]
  by_cases start : conn.clientToNetwork.tail = 0
  · obtain ⟨tail, head⟩ := atStart start
    rw [DatagramBuffer.isEmpty, decide_eq_true_iff, tail, head]
    exact ⟨fun met => ⟨start, met⟩, fun filled => filled.2⟩
  · obtain ⟨-, stays⟩ := elsewhere start nonempty
    rw [stays]
    exact ⟨fun looks => absurd looks Bool.false_ne_true, fun filled => absurd filled.1 start⟩

/-- A window that an event of the client closes is narrowed by its packets. -/
theorem ClosesWindow.narrows (routed : s.Routed) (batched : s.Batched ReadsExpected)
    (closes : s.ClosesWindow label) : s.NarrowsWindow label := by
  cases label with
  | handle answers =>
      obtain ⟨ready, batch, c, next, handled, handle, ready', conn, conn', waits, readable, place,
        room, place', isOpen, shut⟩ := closes
      obtain ⟨block, path, given, quiet⟩ :=
        client_path routed next handled place place' isOpen
      have wasOpen : conn.closed = false := by
        by_contra closed
        obtain ⟨same, -⟩ := Flow.path_closed path (Bool.of_not_eq_false closed)
        rw [Connection.tcp.inj same] at isOpen
        exact closed isOpen
      have mem : (.connection handle, ready') ∈ s.batch := next ▸ List.mem_cons_of_mem _ waits
      have before := batched.expected handle ready' _ mem place wasOpen readable conn rfl
      obtain ⟨-, -, told⟩ := Flow.path_told path quiet before.connected before.idle isOpen
      refine ⟨handle, ready, ready', batch, conn, next, waits, readable, place, ?_⟩
      have given : Flow.packetsOf block = s.flowPackets (.handle answers) conn.id := given
      rw [← given]
      exact conn.narrows_of_told told room shut
  | _ => exact closes.elim

/-- A queue that is overtaken is filled by the packets of the event. -/
theorem Overtakes.fills (routed : s.Routed) (overtakes : s.Overtakes label) :
    s.FillsQueue label := by
  cases label with
  | handle answers =>
      obtain ⟨ready, batch, c, next, handled, handle, ready', conn, conn', waits, writable, place,
        nonempty, place', isOpen, empty⟩ := overtakes
      exact ⟨handle, ready, ready', batch, conn, next, waits, writable, place, nonempty,
        (isEmpty_iff_filledBy routed next handled place nonempty place' isOpen).mp empty⟩
  | _ => exact overtakes.elim

/-- What keeps windows open, said before each step: one event for each socket, and no packet in
front of a readable event that narrows the window, nor a FIN that fills it. -/
structure SparesWindow (s : Relay) (label : Label) : Prop where
  once : PollsOnce label
  unnarrowed : ¬ s.NarrowsWindow label
  unfilled : ¬ s.FillsWindow label

/-- What keeps the interest in writing right, said before each step.  Only the last differs from
`KeepsWriting`, which asks for the queue behind the event. -/
structure SparesQueues (s : Relay) (label : Label) : Prop where
  once : PollsOnce label
  unstranded : ¬ s.Strands label
  unfilled : ¬ s.FillsQueue label

/-- A step that spares the queues keeps the interest in writing right. -/
theorem SparesQueues.keeps (routed : s.Routed) (spares : s.SparesQueues label) :
    s.KeepsWriting label :=
  ⟨spares.once, spares.unstranded, fun overtakes => spares.unfilled (overtakes.fills routed)⟩

/-- A step that spares the windows keeps them open, as every readable event of the batch was polled
for an open one. -/
theorem SparesWindow.keeps (routed : s.Routed) (batched : s.Batched ReadsExpected)
    (spares : s.SparesWindow label) : s.KeepsWindow label :=
  ⟨spares.once, fun closes => spares.unnarrowed (closes.narrows routed batched), spares.unfilled⟩

/-- A run of such steps keeps every window open: what was polled for, in each state, is known from
the steps before it. -/
theorem run_keepsWindow (run : machine.Run t s) (met : Machine.Meets SparesWindow t) :
    Machine.Meets KeepsWindow t := by
  induction run with
  | start => exact fun _ mem => absurd mem List.not_mem_nil
  | @step t s s' label run step ih =>
      rw [Machine.meets_append, Machine.meets_singleton] at met ⊢
      have kept := ih met.1
      exact ⟨kept, met.2.keeps (run_routed run) (run_readsNoted run kept).2⟩

/-- **The assertions of `process_receive`**, under conditions on what each step brings and on the
state before it.  Of the earlier events they exclude those with a packet that leaves the window at
`0`, or at the one byte that the FIN of the relay takes. -/
theorem run_receives_spared (run : machine.Run t s) (met : Machine.Meets SparesWindow t)
    {answers : EventAnswers} (now : SparesWindow s (.handle answers)) {f : TcpContext}
    (enters : s.EntersReceive answers f) :
    f.conn.packetForClientLength = none ∧ 0 < f.conn.tcb.remainingClientWindow := by
  have kept := run_keepsWindow run met
  exact run_receives run kept (now.keeps (run_routed run) (run_readsNoted run kept).2) enters

/-- **The interest in writing**, under conditions on what each step brings and on the state before
it.  `FillsQueue` asks for a reader at the beginning and for datagrams that end where the buffer
does, which can be told from the packets alone. -/
theorem run_writesRegistered_spared (run : machine.Run t s)
    (met : Machine.Meets SparesQueues t) :
    (s.batch = [] → s.WritesRegistered) ∧ s.FindsOutgoing := by
  refine run_writesRegistered run fun p mem => ?_
  obtain ⟨_, _, _, reached⟩ := run.of_mem mem
  exact (met p mem).keeps (run_routed reached)

end Relay

end ReverseTether
