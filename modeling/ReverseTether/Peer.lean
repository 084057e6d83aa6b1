import ReverseTether.LostControl

/-!
# The client's end of a TCP flow

What a client makes of a RST depends on where it is in its own state diagram: in
SYN-SENT it takes one that acknowledges its SYN, later one that has the sequence number
it expects next.  `Peer` is that much of a client.  It learns from its own packets and
from the segments it was sent, and from nothing else.

A segment that the relay has no room for was not sent: those that were are in
`Client.appended`.  The control block follows the client as long as every SYN and every
FIN is sent, and `InAgreement` says so of one method after the other.

`Agrees` compares the control block with what the client can know: in SYN-SENT the
acknowledgement number with that of its SYN, and later the sequence number with the one that
it expects next.  `InAgreement` is what a method keeps of it: the client has taken what was
appended meanwhile, and agrees with the connection behind the method if that is still open.
-/

namespace ReverseTether

open Library Relation

open TcpConnection (tcpHeaderOfPacket createEmptyResponsePacket updateHeaders)

/-- The flag is set in the segment. -/
def Segment.has (segment : Segment) (flag : UInt16) : Bool := segment.flags &&& flag ≠ 0

/-! ## The client's end -/

/-- The client's end of a flow, as far as it matters for a RST. -/
inductive Peer
  /-- Nothing was sent yet. -/
  | idle
  /-- SYN-SENT, with its initial sequence number. -/
  | synSent (isn : UInt32)
  /-- The sequence number expected next, and whether the FIN was received. -/
  | synchronized (next : UInt32) (finished : Bool)
  deriving DecidableEq, Repr

namespace Peer

/-- What a packet of its own says of a client.  One that begins with anything but a SYN
is in the middle of a connection, and acknowledges what it expects next. -/
def send : Peer → TcpHeaderData → Peer
  | .idle, header =>
      if header.isSyn then .synSent header.sequenceNumber
      else .synchronized header.acknowledgementNumber false
  | .synSent isn, header => .synSent (if header.isSyn then header.sequenceNumber else isn)
  | .synchronized next finished, _ => .synchronized next finished

/-- What a segment changes.  The SYN+ACK completes the handshake, what is in order is
counted, and nothing is in order behind the FIN.  A RST ends the flow, so what it changes
does not matter. -/
def hear : Peer → Segment → Peer
  | .idle, _ => .idle
  | .synSent isn, segment =>
      if segment.has flagSyn ∧ segment.has flagAck ∧ segment.acknowledgementNumber = isn + 1 then
        .synchronized (segment.sequenceNumber + 1) false
      else .synSent isn
  | .synchronized next finished, segment =>
      if segment.has flagRst = false ∧ finished = false ∧ segment.sequenceNumber = next then
        .synchronized
          (next + UInt32.ofNat segment.payload.length + if segment.has flagFin then 1 else 0)
          (segment.has flagFin)
      else .synchronized next finished

/-- Whether a RST is acceptable. -/
def Accepts : Peer → Segment → Prop
  | .idle, _ => False
  | .synSent isn, reset => reset.has flagAck ∧ reset.acknowledgementNumber = isn + 1
  | .synchronized next _, reset => reset.sequenceNumber = next

/-- The client after some segments. -/
def hearAll (peer : Peer) (segments : List Segment) : Peer := segments.foldl hear peer

/-- Each segment with the client it finds. -/
def meetings : Peer → List Segment → List (Peer × Segment)
  | _, [] => []
  | peer, segment :: rest => (peer, segment) :: meetings (peer.hear segment) rest

theorem hearAll_append (peer : Peer) (segments segments' : List Segment) :
    peer.hearAll (segments ++ segments') = (peer.hearAll segments).hearAll segments' :=
  List.foldl_append

theorem meetings_append (segments segments' : List Segment) (peer : Peer) :
    peer.meetings (segments ++ segments') =
      peer.meetings segments ++ (peer.hearAll segments).meetings segments' := by
  induction segments generalizing peer with
  | nil => rfl
  | cons segment rest ih => exact congrArg _ (ih (peer.hear segment))

/-- An acknowledgement and a RST leave the client where it is. -/
theorem hear_empty (peer : Peer) (sequenceNumber acknowledgementNumber : UInt32) {flags : UInt16}
    (plain : flags = flagAck ∨ flags = flagRst) :
    peer.hear ⟨sequenceNumber, acknowledgementNumber, flags, []⟩ = peer := by
  have noSyn : flags &&& flagSyn = 0 := by rcases plain with rfl | rfl <;> decide
  have noFin : flags &&& flagFin = 0 := by rcases plain with rfl | rfl <;> decide
  cases peer with
  | idle => rfl
  | synSent isn =>
      refine if_neg ?_
      rintro ⟨syn, -⟩
      simp [Segment.has, noSyn] at syn
  | synchronized next finished =>
      simp only [hear]
      split
      · rename_i inOrder
        simp [Segment.has, noFin, inOrder.2.1]
      · rfl

/-- What is in order is counted. -/
theorem hear_inOrder {next : UInt32} {segment : Segment} (noRst : segment.has flagRst = false)
    (inOrder : segment.sequenceNumber = next) :
    (synchronized next false).hear segment = .synchronized
      (next + UInt32.ofNat segment.payload.length + if segment.has flagFin then 1 else 0)
      (segment.has flagFin) :=
  if_pos ⟨noRst, rfl, inOrder⟩

/-- **A bare RST does nothing in SYN-SENT.** -/
theorem not_accepts_bare (isn sequenceNumber acknowledgementNumber : UInt32) :
    ¬ (synSent isn).Accepts ⟨sequenceNumber, acknowledgementNumber, flagRst, []⟩ := by
  rintro ⟨ack, -⟩
  exact absurd ack (show ¬ decide (flagRst &&& flagAck ≠ 0) = true by decide)

end Peer

/-! ## What a method has a client take -/

/-- From `c` to `c'` the client is sent segments that take it from `peer` to `peer'`, and
every RST among them is acceptable. -/
def TcpContext.Follows (peer peer' : Peer) (c c' : TcpContext) : Prop :=
  ∃ raws : List (List UInt8), c'.client.appended = c.client.appended ++ raws ∧
    peer' = peer.hearAll (raws.map Segment.ofRaw) ∧
    ∀ met ∈ peer.meetings (raws.map Segment.ofRaw), met.2.has flagRst → met.1.Accepts met.2

namespace TcpContext.Follows

variable {peer peer₁ peer' : Peer} {c c₁ c' : TcpContext}

theorem silent (peer : Peer) (same : c'.client.appended = c.client.appended) :
    Follows peer peer c c' :=
  ⟨[], by rw [same, List.append_nil], rfl, nofun⟩

theorem trans (first : Follows peer peer₁ c c₁) (second : Follows peer₁ peer' c₁ c') :
    Follows peer peer' c c' := by
  obtain ⟨raws, appended, rfl, accepted⟩ := first
  obtain ⟨raws', appended', rfl, accepted'⟩ := second
  refine ⟨raws ++ raws', ?_, ?_, ?_⟩
  · rw [appended', appended, List.append_assoc]
  · rw [List.map_append, Peer.hearAll_append]
  · intro met mem
    rw [List.map_append, Peer.meetings_append, List.mem_append] at mem
    exact mem.elim (accepted met) (accepted' met)

/-- One segment is sent. -/
theorem one {raw : List UInt8} (appended : c'.client.appended = c.client.appended ++ [raw])
    (accepted : (Segment.ofRaw raw).has flagRst → peer.Accepts (Segment.ofRaw raw)) :
    Follows peer (peer.hear (Segment.ofRaw raw)) c c' := by
  refine ⟨[raw], appended, rfl, ?_⟩
  intro met mem
  rw [List.map_singleton, Peer.meetings, Peer.meetings, List.mem_singleton] at mem
  rw [mem]
  exact accepted

/-- Nothing but the client's output matters. -/
theorem congr {d d' : TcpContext} (follows : Follows peer peer' c c')
    (before : d.client.appended = c.client.appended)
    (after : d'.client.appended = c'.client.appended) : Follows peer peer' d d' := by
  obtain ⟨raws, appended, rest⟩ := follows
  exact ⟨raws, by rw [before, after, appended], rest⟩

end TcpContext.Follows

/-! ## A connection that agrees with its client -/

/-- The control block knows where the client is: in each state of the client the connection has a
state and the numbers that go with it. -/
inductive TcpConnection.Tracks (conn : TcpConnection) : Peer → Prop
  | idle : conn.tcb.state = .init → conn.clientToNetwork.isEmpty = true →
      conn.tcb.finSequenceNumber = none → Tracks conn .idle
  | synSent {isn : UInt32} : conn.tcb.state = .synSent →
      conn.tcb.acknowledgementNumber = isn + 1 → conn.tcb.finSequenceNumber = none →
      Tracks conn (.synSent isn)
  | synchronized : conn.tcb.state ≠ .init → conn.tcb.state ≠ .synSent →
      (conn.tcb.finSequenceNumber.isSome = true → conn.tcb.state.isClosed = true) →
      Tracks conn (.synchronized conn.tcb.sequenceNumber conn.tcb.finSequenceNumber.isSome)

/-- An open connection knows where its client is, and can make segments.  It is kept by every step
that loses no control segment. -/
structure TcpConnection.Agrees (conn : TcpConnection) (peer : Peer) : Prop where
  forTcp : conn.networkToClient.ForTcp
  tracks : conn.Tracks peer

namespace TcpConnection.Agrees

variable {conn conn' : TcpConnection} {peer : Peer}

/-- What an agreement depends on. -/
theorem congr (agrees : conn.Agrees peer) (forTcp : conn'.networkToClient.ForTcp)
    (state : conn'.tcb.state = conn.tcb.state)
    (sequenceNumber : conn'.tcb.sequenceNumber = conn.tcb.sequenceNumber)
    (fin : conn'.tcb.finSequenceNumber = conn.tcb.finSequenceNumber)
    (acknowledged : conn.tcb.state = .synSent →
      conn'.tcb.acknowledgementNumber = conn.tcb.acknowledgementNumber)
    (empty : conn.tcb.state = .init →
      conn'.clientToNetwork.isEmpty = conn.clientToNetwork.isEmpty) : conn'.Agrees peer := by
  refine ⟨forTcp, ?_⟩
  cases agrees.tracks with
  | idle init isEmpty none =>
      exact .idle (state.trans init) ((empty init).trans isEmpty) (fin.trans none)
  | synSent synSent number none =>
      exact .synSent (state.trans synSent) ((acknowledged synSent).trans number) (fin.trans none)
  | synchronized notInit notSynSent closed =>
      rw [← sequenceNumber, ← fin]
      exact .synchronized (state ▸ notInit) (state ▸ notSynSent) (by rwa [state, fin])

/-- A flow past the handshake. -/
theorem of_synchronized {next : UInt32} {finished : Bool} (forTcp : conn.networkToClient.ForTcp)
    (notInit : conn.tcb.state ≠ .init) (notSynSent : conn.tcb.state ≠ .synSent)
    (number : conn.tcb.sequenceNumber = next) (fin : conn.tcb.finSequenceNumber.isSome = finished)
    (closed : finished = true → conn.tcb.state.isClosed = true) :
    conn.Agrees (.synchronized next finished) := by
  subst number fin
  exact ⟨forTcp, .synchronized notInit notSynSent closed⟩

/-- The client of a connected flow. -/
theorem eq_synchronized (agrees : conn.Agrees peer) (notInit : conn.tcb.state ≠ .init)
    (notSynSent : conn.tcb.state ≠ .synSent) :
    peer = .synchronized conn.tcb.sequenceNumber conn.tcb.finSequenceNumber.isSome ∧
      (conn.tcb.finSequenceNumber.isSome = true → conn.tcb.state.isClosed = true) := by
  cases agrees.tracks with
  | idle init _ _ => exact absurd init notInit
  | synSent synSent _ _ => exact absurd synSent notSynSent
  | synchronized _ _ closed => exact ⟨rfl, closed⟩

/-- A RST in the middle of a flow is acceptable. -/
theorem accepts (agrees : conn.Agrees peer) (notInit : conn.tcb.state ≠ .init)
    (notSynSent : conn.tcb.state ≠ .synSent) :
    peer.Accepts ⟨conn.tcb.sequenceNumber, conn.tcb.acknowledgementNumber, flagRst, []⟩ := by
  rw [(agrees.eq_synchronized notInit notSynSent).1]
  exact rfl

end TcpConnection.Agrees

namespace TcpContext

variable {peer : Peer} {c c₁ c' : TcpContext}

/-- A method that finds the connection in agreement with its client leaves it so, unless
it closes it. -/
def InAgreement (peer : Peer) (c c' : TcpContext) : Prop :=
  ∃ peer', Follows peer peer' c c' ∧ (c'.conn.closed = false → c'.conn.Agrees peer')

theorem InAgreement.silent (same : c'.client.appended = c.client.appended)
    (agrees : c'.conn.closed = false → c'.conn.Agrees peer) : InAgreement peer c c' :=
  ⟨peer, .silent peer same, agrees⟩

/-- A method follows on another, if that left the connection open. -/
theorem InAgreement.trans (first : InAgreement peer c c₁)
    (second : ∀ peer₁, (c₁.conn.closed = false → c₁.conn.Agrees peer₁) → InAgreement peer₁ c₁ c') :
    InAgreement peer c c' := by
  obtain ⟨peer₁, follows, agrees⟩ := first
  obtain ⟨peer', follows', agrees'⟩ := second peer₁ agrees
  exact ⟨peer', follows.trans follows', agrees'⟩

/-- The client is offered what was forged, and takes it if it has room. -/
theorem replyEmptyPacketToClient_offers {flags : UInt16} (tcp : c.conn.networkToClient.ForTcp)
    (mem : flags ∈ relayFlags) (h : c.replyEmptyPacketToClient flags = .ok c') :
    ∃ packetizer raw, packetizer.ForTcp ∧
      Segment.ofRaw raw =
        ⟨c.conn.tcb.sequenceNumber, c.conn.tcb.acknowledgementNumber, flags, []⟩ ∧
      c'.conn = { c.conn with networkToClient := packetizer }.record (.forged raw c.conn.waiting) ∧
      (c'.client.appended = c.client.appended ++ [raw] ∨
        c'.client.appended = c.client.appended ∧ TcpLife.Rejected flags c) := by
  obtain ⟨packet, packetizer, sent, created, offered, same⟩ := replyEmptyPacketToClient_ok h
  obtain ⟨packet', packetizer', created', tcp', -, -, -, segment⟩ :=
    tcp.createEmptyResponsePacket c.conn.tcb mem
  have built := created
  rw [created'] at built
  cases built
  refine ⟨packetizer, packet.raw, tcp', segment, same, ?_⟩
  rcases (Client.sendRawToClient_ok offered).2.2.2 with ⟨-, -, -, taken⟩ | ⟨-, full, client, -⟩
  · exact .inl taken
  · exact .inr ⟨by rw [client], packet, packetizer, created, full⟩

/-- **An acknowledgement or an acceptable RST** changes nothing for the client.  It takes no
number, and the acknowledgement in it is not beyond what the client has sent. -/
theorem reply_follows {flags : UInt16} (tcp : c.conn.networkToClient.ForTcp)
    (plain : flags = flagAck ∨ flags = flagRst)
    (accepted : flags = flagRst →
      peer.Accepts ⟨c.conn.tcb.sequenceNumber, c.conn.tcb.acknowledgementNumber, flagRst, []⟩)
    (h : c.replyEmptyPacketToClient flags = .ok c') :
    Follows peer peer c c' ∧ ∃ packetizer raw, packetizer.ForTcp ∧
      c'.conn = { c.conn with networkToClient := packetizer }.record
        (.forged raw c.conn.waiting) := by
  have mem : flags ∈ relayFlags := by rcases plain with rfl | rfl <;> decide
  obtain ⟨packetizer, raw, tcp', segment, same, taken | ⟨silent, -⟩⟩ :=
    replyEmptyPacketToClient_offers tcp mem h
  · refine ⟨?_, packetizer, raw, tcp', same⟩
    have follows := @Follows.one peer c c' raw taken
    rw [segment, peer.hear_empty _ _ plain] at follows
    apply follows
    intro reset
    rcases plain with rfl | rfl
    · exact absurd reset (show ¬ decide (flagAck &&& flagRst ≠ 0) = true by decide)
    · exact accepted rfl
  · exact ⟨.silent peer silent, packetizer, raw, tcp', same⟩

/-- An acknowledgement is sent. -/
theorem ack_inAgreement (agrees : c.conn.Agrees peer)
    (h : c.replyEmptyPacketToClient flagAck = .ok c') :
    Follows peer peer c c' ∧ c'.conn.Agrees peer ∧ c'.conn.tcb = c.conn.tcb ∧
      c'.conn.closed = c.conn.closed := by
  obtain ⟨follows, packetizer, raw, tcp', same⟩ := reply_follows agrees.forTcp (.inl rfl) nofun h
  refine ⟨follows, ?_, by rw [same]; rfl, by rw [same]; rfl⟩
  rw [same]
  exact agrees.congr tcp' rfl rfl rfl (fun _ => rfl) (fun _ => rfl)

/-- A connection is reset. -/
theorem reset_inAgreement (tcp : c.conn.networkToClient.ForTcp)
    (accepted : peer.Accepts
      ⟨c.conn.tcb.sequenceNumber, c.conn.tcb.acknowledgementNumber, flagRst, []⟩)
    (h : c.replyEmptyPacketToClient flagRst = .ok c₁) : InAgreement peer c c₁.close := by
  obtain ⟨follows, -⟩ := reply_follows tcp (.inr rfl) (fun _ => accepted) h
  exact ⟨peer, follows.congr rfl rfl, nofun⟩

/-- **A FIN that the client takes** is counted on both sides.  The number that the relay goes on by
is the number that the client expects next, and it expects nothing behind the FIN. -/
theorem fin_inAgreement {state : TcpState} (agrees : c.conn.Agrees peer)
    (notInit : c.conn.tcb.state ≠ .init) (notSynSent : c.conn.tcb.state ≠ .synSent)
    (first : c.conn.tcb.finSequenceNumber = none) (closed : state.isClosed = true)
    (room : ¬ TcpLife.Rejected (flagFin ||| flagAck) c)
    (h : c.replyEmptyPacketToClient (flagFin ||| flagAck) = .ok c') :
    InAgreement peer c (c'.countSentFin state) := by
  obtain ⟨packetizer, raw, tcp', segment, same, taken | ⟨-, rejected⟩⟩ :=
    replyEmptyPacketToClient_offers agrees.forTcp
      (show flagFin ||| flagAck ∈ relayFlags by decide) h
  · have follows := @Follows.one peer c c' raw taken
    rw [segment] at follows
    have client := (agrees.eq_synchronized notInit notSynSent).1
    rw [first] at client
    have heard : peer.hear ⟨c.conn.tcb.sequenceNumber, c.conn.tcb.acknowledgementNumber,
        flagFin ||| flagAck, []⟩ = .synchronized (c.conn.tcb.sequenceNumber + 1) true := by
      have isFin : Segment.has ⟨c.conn.tcb.sequenceNumber, c.conn.tcb.acknowledgementNumber,
          flagFin ||| flagAck, []⟩ flagFin = true :=
        (by decide : decide ((flagFin ||| flagAck) &&& flagFin ≠ 0) = true)
      rw [client]
      have noRst : Segment.has ⟨c.conn.tcb.sequenceNumber, c.conn.tcb.acknowledgementNumber,
          flagFin ||| flagAck, []⟩ flagRst = false :=
        (by decide : decide ((flagFin ||| flagAck) &&& flagRst ≠ 0) = false)
      refine (Peer.hear_inOrder noRst rfl).trans ?_
      rw [isFin]
      simp
    refine ⟨_, (follows ?_).congr rfl rfl, fun _ => ?_⟩
    · intro reset
      exact absurd reset (show ¬ decide ((flagFin ||| flagAck) &&& flagRst ≠ 0) = true by decide)
    · rw [heard, conn_countSentFin, same]
      refine .of_synchronized tcp' ?_ ?_ rfl rfl fun _ => closed
      · rintro (rfl : state = _)
        cases closed
      · rintro (rfl : state = _)
        cases closed
  · exact absurd rejected room

theorem updateInterests_inAgreement (agrees : c.conn.Agrees peer) (h : c.updateInterests = .ok c') :
    InAgreement peer c c' := by
  obtain ⟨-, same, client, -⟩ := updateInterests_ok h
  refine .silent (by rw [client]) fun _ => ?_
  rw [same]
  exact agrees.congr agrees.forTcp rfl rfl rfl (fun _ => rfl) (fun _ => rfl)

/-! ## The methods -/

/-- **A SYN+ACK that the client takes** completes its handshake.  Both ends now agree on the first
number of the host; had the segment been lost, the client would go on waiting for it while the
relay counts on. -/
theorem processConnect_inAgreement {takeError : IoResult (Option IoError)}
    (agrees : c.conn.Agrees peer) (synSent : c.conn.tcb.state = .synSent)
    (noError : ∀ err, takeError ≠ .ok (some err))
    (room : ¬ TcpLife.Rejected (flagSyn ||| flagAck)
      (c.withTcb fun tcb => { tcb with state := .synReceived }))
    (h : c.processConnect takeError = .ok c') : InAgreement peer c c' := by
  obtain ⟨c₁, forged, rfl⟩ : ∃ c₁,
      (c.withTcb fun tcb => { tcb with state := .synReceived }).replyEmptyPacketToClient
        (flagSyn ||| flagAck) = .ok c₁ ∧
      (c₁.withTcb fun tcb => { tcb with sequenceNumber := tcb.sequenceNumber + 1 }) = c' := by
    unfold processConnect at h
    rw [if_neg (not_not.mpr synSent)] at h
    split at h
    · rename_i err
      exact absurd rfl (noError err)
    all_goals
      obtain ⟨c₁, forged, rest⟩ := bind_eq_ok.mp h
      cases rest
      exact ⟨c₁, forged, rfl⟩
  obtain ⟨packetizer, raw, tcp', segment, same, taken | ⟨-, rejected⟩⟩ :=
    @replyEmptyPacketToClient_offers (c.withTcb fun tcb => { tcb with state := .synReceived }) c₁ _
      agrees.forTcp (show flagSyn ||| flagAck ∈ relayFlags by decide) forged
  · cases agrees.tracks with
    | idle init _ _ => exact absurd (init.symm.trans synSent) nofun
    | synchronized _ notSynSent _ => exact absurd synSent notSynSent
    | @synSent isn _ number unfinished =>
        have follows := @Follows.one (.synSent isn) c c₁ raw taken
        have heard : (Peer.synSent isn).hear (Segment.ofRaw raw) =
            .synchronized (c.conn.tcb.sequenceNumber + 1) false := by
          rw [segment]
          exact if_pos ⟨(by decide : decide ((flagSyn ||| flagAck) &&& flagSyn ≠ 0) = true),
            (by decide : decide ((flagSyn ||| flagAck) &&& flagAck ≠ 0) = true), number⟩
        rw [heard] at follows
        refine ⟨_, (follows ?_).congr rfl rfl, fun _ => ?_⟩
        · rw [segment]
          intro reset
          exact absurd reset (show ¬ decide ((flagSyn ||| flagAck) &&& flagRst ≠ 0) = true by decide)
        · show TcpConnection.Agrees { c₁.conn with tcb := { c₁.conn.tcb with
            sequenceNumber := c₁.conn.tcb.sequenceNumber + 1 } } _
          rw [same]
          exact .of_synchronized tcp' nofun nofun rfl (Option.isSome_eq_false_iff.mpr
            (Option.isNone_iff_eq_none.mpr unfinished)) nofun
  · exact absurd rejected room

/-- A FIN of the client is counted and answered. -/
theorem doHandleFin_inAgreement (agrees : c.conn.Agrees peer) (notInit : c.conn.tcb.state ≠ .init)
    (notSynSent : c.conn.tcb.state ≠ .synSent)
    (room : c.conn.tcb.state = .established →
      ¬ TcpLife.Rejected (flagFin ||| flagAck) c.countReceivedFin)
    (h : c.doHandleFin = .ok c') : InAgreement peer c c' := by
  have counted : c.countReceivedFin.conn.Agrees peer :=
    agrees.congr agrees.forTcp rfl rfl rfl (fun synSent => absurd synSent notSynSent) (fun _ => rfl)
  unfold doHandleFin at h
  simp only at h
  split at h
  · rename_i established
    obtain ⟨c₁, forged, rest⟩ := bind_eq_ok.mp h
    cases rest
    have first : c.conn.tcb.finSequenceNumber = none := by
      by_contra sent
      have closed := (agrees.eq_synchronized notInit notSynSent).2 (Option.isSome_iff_ne_none.mpr sent)
      rw [show c.conn.tcb.state = .established from established] at closed
      cases closed
    obtain ⟨peer', follows, agrees'⟩ :=
      fin_inAgreement counted notInit notSynSent first (show TcpState.lastAck.isClosed = true from rfl)
        (room established) forged
    exact ⟨peer', follows.congr rfl rfl, agrees'⟩
  · split at h
    · rename_i finWait1
      obtain ⟨c₁, forged, rest⟩ := bind_eq_ok.mp h
      cases rest
      obtain ⟨follows, agrees₁, tcb, -⟩ := ack_inAgreement counted forged
      refine ⟨peer, follows.congr rfl rfl, fun _ => ?_⟩
      obtain ⟨same, -⟩ := agrees₁.eq_synchronized (by rw [tcb]; exact notInit)
        (by rw [tcb]; exact notSynSent)
      rw [same]
      exact .of_synchronized agrees₁.forTcp nofun nofun rfl rfl fun _ => rfl
    · split at h
      · obtain ⟨c₁, forged, rest⟩ := bind_eq_ok.mp h
        cases rest
        obtain ⟨follows, -⟩ := ack_inAgreement counted forged
        exact ⟨peer, follows.congr rfl rfl, nofun⟩
      · cases h
        exact .silent rfl fun _ => counted

theorem handleFinAck_inAgreement (agrees : c.conn.closed = false → c.conn.Agrees peer) :
    InAgreement peer c c.handleFinAck := by
  unfold handleFinAck
  split
  · exact .silent rfl nofun
  · split
    · rename_i finWait1
      refine .silent rfl fun isOpen => ?_
      have agrees := agrees isOpen
      have notInit : c.conn.tcb.state ≠ .init := by
        rw [finWait1]
        nofun
      have notSynSent : c.conn.tcb.state ≠ .synSent := by
        rw [finWait1]
        nofun
      rw [(agrees.eq_synchronized notInit notSynSent).1]
      exact .of_synchronized agrees.forTcp nofun nofun rfl rfl fun _ => rfl
    · exact .silent rfl agrees

/-- What was stored is written. -/
theorem processSend_inAgreement {write : IoResult ℕ} {result : IoResult Unit}
    (agrees : c.conn.Agrees peer) (notSynSent : c.conn.tcb.state ≠ .synSent)
    (room : ∀ written clientToNetwork after,
      c.conn.clientToNetwork.writeTo write = (.ok written, clientToNetwork) → written ≠ [] →
      c.conn.tcb.finReceived = true → clientToNetwork.isEmpty = true →
      c.conn.tcb.state = .established →
      (c.acknowledge written clientToNetwork).doHandleFin = .ok after →
      ¬ TcpLife.Rejected (flagFin ||| flagAck)
        (c.acknowledge written clientToNetwork).countReceivedFin)
    (h : c.processSend write = .ok (result, c')) : InAgreement peer c c' := by
  -- nothing is stored before the first packet
  have notInit : c.conn.clientToNetwork.isEmpty = false → c.conn.tcb.state ≠ .init := by
    intro nonempty init
    cases agrees.tracks with
    | idle _ empty _ => exact absurd (nonempty.symm.trans empty) Bool.false_ne_true
    | synSent synSent _ _ => exact notSynSent synSent
    | synchronized notInit _ _ => exact notInit init
  unfold processSend at h
  split at h
  · rename_i written clientToNetwork wrote
    split at h
    · rename_i nonempty
      have stored : c.conn.clientToNetwork.isEmpty = false := by
        by_contra empty
        rw [Bool.not_eq_false] at empty
        rw [StreamBuffer.writeTo_of_isEmpty empty] at wrote
        cases wrote
        exact nonempty rfl
      have taken : (c.acknowledge written clientToNetwork).conn.Agrees peer :=
        agrees.congr agrees.forTcp rfl rfl rfl (fun synSent => absurd synSent notSynSent)
          (fun init => absurd init (notInit stored))
      simp only at h
      split at h
      · rename_i last
        obtain ⟨c₁, handled, rest⟩ := bind_eq_ok.mp h
        cases rest
        obtain ⟨peer', follows, agrees'⟩ := doHandleFin_inAgreement taken (notInit stored) notSynSent
          (fun established => room _ _ _ wrote nonempty last.1 last.2 established handled) handled
        exact ⟨peer', follows.congr rfl rfl, agrees'⟩
      · obtain ⟨c₁, forged, rest⟩ := bind_eq_ok.mp h
        cases rest
        obtain ⟨follows, agrees', -⟩ := ack_inAgreement taken forged
        exact ⟨peer, follows.congr rfl rfl, fun _ => agrees'⟩
    · cases h
      exact .silent rfl nofun
  · cases h
    exact .silent rfl fun _ => agrees
  · rename_i failed
    obtain ⟨c₁, forged, rest⟩ := bind_eq_ok.mp h
    cases rest
    have stored := (StreamBuffer.writeTo_error_eq failed).2.2
    exact reset_inAgreement agrees.forTcp (agrees.accepts (notInit stored) notSynSent) forged

/-- **A data segment is in order**, handed over or not.  If it waits, its bytes are not counted
yet, and they are when it is delivered. -/
theorem sendDataToClient_inAgreement {primed packetizer : Packetizer} {available : List UInt8}
    {packet : Ipv4Packet} (agrees : c.conn.Agrees peer) (notInit : c.conn.tcb.state ≠ .init)
    (notSynSent : c.conn.tcb.state ≠ .synSent) (noFin : c.conn.tcb.finSequenceNumber = none)
    (updated : updateHeaders c.conn.networkToClient c.conn.tcb (flagAck ||| flagPsh) = .ok primed)
    (packetized : primed.packetizeRead (.ok available) c.receivable =
      .ok (.ok (some packet), packetizer))
    (h : ({ c with conn := { c.conn with networkToClient := packetizer } }.record
      (.read (primed.chunk available c.receivable))).sendDataToClient packet = .ok c') :
    InAgreement peer c c' := by
  obtain ⟨tcp', built, -, segment⟩ := packetizeRead_segment agrees.forTcp updated packetized
  obtain ⟨same, -⟩ := agrees.eq_synchronized notInit notSynSent
  rw [noFin] at same
  obtain ⟨sent, client, selector, offered, ⟨payload, rfl, carried, conn, rfl, -⟩ |
    ⟨⟨err, rfl⟩, conn, registered, -⟩⟩ := sendDataToClient_ok h
  · rw [built.payload] at carried
    cases carried
    obtain ⟨-, -, -, ⟨-, -, -, taken⟩ | ⟨failed, -⟩⟩ := Client.sendRawToClient_ok offered
    · have noRst : (Segment.ofRaw packet.raw).has flagRst = false := by
        rw [segment]
        exact (by decide : decide ((flagAck ||| flagPsh) &&& flagRst ≠ 0) = false)
      have noFin' : (Segment.ofRaw packet.raw).has flagFin = false := by
        rw [segment]
        exact (by decide : decide ((flagAck ||| flagPsh) &&& flagFin ≠ 0) = false)
      have follows := @Follows.one peer c c' packet.raw taken
      have heard : peer.hear (Segment.ofRaw packet.raw) = .synchronized
          (c.conn.tcb.sequenceNumber +
            UInt32.ofNat (primed.chunk available c.receivable).length) false := by
        rw [same]
        refine (Peer.hear_inOrder noRst (by rw [segment])).trans ?_
        rw [noFin', segment]
        simp
      rw [heard] at follows
      refine ⟨_, follows ?_, fun _ => ?_⟩
      · intro reset
        rw [noRst] at reset
        cases reset
      · rw [conn]
        exact .of_synchronized tcp' notInit notSynSent rfl (Option.isSome_eq_false_iff.mpr
          (Option.isNone_iff_eq_none.mpr noFin)) nofun
    · cases failed
  · obtain ⟨-, -, -, ⟨taken, -⟩ | ⟨-, -, kept, -⟩⟩ := Client.sendRawToClient_ok offered
    · cases taken
    · refine .silent ?_ fun _ => ?_
      · rw [registered, kept]
        rfl
      · rw [conn]
        exact agrees.congr tcp' rfl rfl rfl (fun _ => rfl) (fun _ => rfl)

theorem eof_inAgreement (agrees : c.conn.Agrees peer) (notInit : c.conn.tcb.state ≠ .init)
    (notSynSent : c.conn.tcb.state ≠ .synSent) (first : c.conn.tcb.finSequenceNumber = none)
    (room : ¬ TcpLife.Rejected (flagFin ||| flagAck) c) (h : c.eof = .ok c') :
    InAgreement peer c c' := by
  obtain ⟨c₁, forged, rest⟩ := bind_eq_ok.mp h
  cases rest
  split
  · exact fin_inAgreement agrees notInit notSynSent first rfl room forged
  · exact fin_inAgreement agrees notInit notSynSent first rfl room forged

/-- What the host has is read. -/
theorem processReceive_inAgreement {read : IoResult (List UInt8)} {result : IoResult Unit}
    (agrees : c.conn.Agrees peer) (connected : c.conn.tcb.state.isConnected = true)
    (late : c.conn.tcb.finSequenceNumber.isSome = true → ∃ err, read = .error err)
    (room : ∀ primed packetizer after,
      updateHeaders c.conn.networkToClient c.conn.tcb (flagAck ||| flagPsh) = .ok primed →
      primed.packetizeRead read c.receivable = .ok (.ok none, packetizer) →
      ({ c with conn := { c.conn with networkToClient := packetizer } }.record .readEof).eof =
        .ok after →
      ¬ TcpLife.Rejected (flagFin ||| flagAck)
        ({ c with conn := { c.conn with networkToClient := packetizer } }.record .readEof))
    (h : c.processReceive read = .ok (result, c')) : InAgreement peer c c' := by
  have notInit : c.conn.tcb.state ≠ .init := by
    rintro init
    rw [init] at connected
    cases connected
  have notSynSent : c.conn.tcb.state ≠ .synSent := by
    rintro synSent
    rw [synSent] at connected
    cases connected
  have unfinished {available : List UInt8} (ok : read = .ok available) :
      c.conn.tcb.finSequenceNumber = none := by
    by_contra sent
    obtain ⟨err, failed⟩ := late (Option.isSome_iff_ne_none.mpr sent)
    rw [ok] at failed
    cases failed
  unfold processReceive at h
  split at h
  · cases h
  · split at h
    · cases h
    · obtain ⟨primed, updated, h⟩ := bind_eq_ok.mp h
      obtain ⟨⟨outcome, packetizer⟩, packetized, h⟩ := bind_eq_ok.mp h
      have tcp : primed.ForTcp := by
        obtain ⟨header, updated', tcp, -⟩ := agrees.forTcp.updateHeaders c.conn.tcb
          (show flagAck ||| flagPsh ∈ relayFlags by decide)
        rw [updated] at updated'
        cases updated'
        exact tcp
      have built : TcpConnection.Agrees { c.conn with networkToClient := primed } peer :=
        agrees.congr tcp rfl rfl rfl (fun _ => rfl) (fun _ => rfl)
      cases read with
      | error err =>
          cases packetized
          cases err with
          | wouldBlock =>
              cases h
              exact .silent rfl fun _ => built
          | other =>
              obtain ⟨c₁, forged, rest⟩ := bind_eq_ok.mp h
              cases rest
              obtain ⟨peer', follows, agrees'⟩ := @reset_inAgreement peer
                { c with conn := { c.conn with networkToClient := primed } } c₁ tcp
                (built.accepts notInit notSynSent) forged
              exact ⟨peer', follows.congr rfl rfl, agrees'⟩
      | ok available =>
          have first : c.conn.tcb.finSequenceNumber = none := unfinished rfl
          have bound : primed.payloadIndex + c.receivable < 65536 :=
            (Nat.add_le_add tcp.short c.receivable_le).trans_lt (by decide)
          rcases tcp.wellFormed.packetizeRead bound with ⟨-, ended⟩ | ⟨-, packet, p', sent, -⟩
          · have whole := packetized
            rw [ended] at packetized
            cases packetized
            obtain ⟨c₁, closing, rest⟩ := bind_eq_ok.mp h
            have closed : c' = c₁ := by
              cases rest
              rfl
            rw [closed]
            have roomy := room primed primed c₁ updated whole closing
            have found : TcpConnection.Agrees
                ({ c.conn with networkToClient := primed }.record .readEof) peer :=
              agrees.congr tcp rfl rfl rfl (fun _ => rfl) (fun _ => rfl)
            obtain ⟨peer', follows, agrees'⟩ := @eof_inAgreement peer
              ({ c with conn := { c.conn with networkToClient := primed } }.record .readEof) c₁ found
              notInit notSynSent first roomy closing
            exact ⟨peer', follows.congr rfl rfl, agrees'⟩
          · have whole := packetized
            rw [sent] at packetized
            cases packetized
            obtain ⟨c₁, handed, rest⟩ := bind_eq_ok.mp h
            cases rest
            exact sendDataToClient_inAgreement agrees notInit notSynSent first updated whole handed

/-- What the acknowledgement part of a segment leaves. -/
theorem ackPart_agrees {packet : Ipv4Packet} {header : TcpHeaderData}
    (agrees : c.conn.Agrees peer) (notInit : c.conn.tcb.state ≠ .init)
    (h : (if header.isAck then (c.noteWindow header).handleAck packet
      else .ok (c.noteWindow header)) = .ok c') :
    c'.conn.Agrees peer ∧ c'.conn.tcb.state ≠ .init ∧
      (c.conn.tcb.state ≠ .synSent → c'.conn.tcb.state ≠ .synSent) := by
  rcases ackPart_ok h with ⟨synReceived, -, same⟩ | ⟨same, -⟩ | ⟨_, _, -, -, same⟩
  · rw [same]
    have notSynSent : c.conn.tcb.state ≠ .synSent := by
      rw [synReceived]
      nofun
    obtain ⟨client, closed⟩ := agrees.eq_synchronized notInit notSynSent
    rw [client]
    refine ⟨.of_synchronized agrees.forTcp nofun nofun rfl rfl ?_, nofun, fun _ => nofun⟩
    intro sent
    have closed := closed sent
    rw [synReceived] at closed
    cases closed
  · rw [same]
    exact ⟨agrees.congr agrees.forTcp rfl rfl rfl (fun _ => rfl) (fun _ => rfl), notInit, id⟩
  · rw [same]
    exact ⟨agrees.congr agrees.forTcp rfl rfl rfl (fun _ => rfl) (fun init => absurd init notInit),
      notInit, id⟩

/-- **A packet of the client.**  The cases are those of the source, and in each of them what is
answered is acceptable to the client that sent the packet, under the conditions that exclude the
known defects. -/
theorem handlePacket_inAgreement {packet : Ipv4Packet} {header : TcpHeader} {random : UInt32}
    {overflowChecks : Bool} (agrees : c.conn.Agrees peer)
    (tcp : tcpHeaderOfPacket packet = .ok header)
    (early : c.conn.tcb.state = .synSent → header.data.isSyn = false →
      header.data.sequenceNumber = c.conn.expectedPacket → header.data.isFin = false)
    (room : ∀ acked after, c.conn.tcb.state ≠ .init → header.data.isSyn = false →
      header.data.sequenceNumber = c.conn.expectedPacket → header.data.isRst = false →
      (if header.data.isAck then (c.noteWindow header.data).handleAck packet
        else .ok (c.noteWindow header.data)) = .ok acked →
      header.data.isFin = true → acked.conn.clientToNetwork.isEmpty = true →
      acked.conn.tcb.state = .established → acked.handleFin = .ok after →
      ¬ TcpLife.Rejected (flagFin ||| flagAck)
        (acked.withTcb fun tcb => { tcb with finReceived := true }).countReceivedFin)
    (h : c.handlePacket packet random overflowChecks = .ok c') :
    InAgreement (peer.send header.data) c c' := by
  by_cases init : c.conn.tcb.state = .init
  · -- the first packet
    obtain ⟨client, noFin⟩ : peer = .idle ∧ c.conn.tcb.finSequenceNumber = none := by
      cases agrees.tracks with
      | idle _ _ noFin => exact ⟨rfl, noFin⟩
      | synSent synSent _ _ => exact absurd (init.symm.trans synSent) (by simp)
      | synchronized notInit _ _ => exact absurd init notInit
    rw [handlePacket, tcp, ok_bind, if_pos init, handleFirstPacket, tcp, ok_bind] at h
    subst client
    simp only at h
    split at h
    · rename_i syn
      cases h
      refine .silent rfl fun _ => ?_
      rw [Peer.send, if_pos syn]
      exact ⟨agrees.forTcp, .synSent rfl rfl noFin⟩
    · rename_i syn
      obtain ⟨c₁, forged, rest⟩ := bind_eq_ok.mp h
      cases rest
      rw [Peer.send, if_neg syn]
      obtain ⟨peer', follows, agrees'⟩ := @reset_inAgreement (.synchronized _ false)
        (c.withTcb fun tcb => { tcb with
          sequenceNumber := header.data.acknowledgementNumber }) c₁ agrees.forTcp rfl forged
      exact ⟨peer', follows.congr rfl rfl, agrees'⟩
  · cases syn : header.data.isSyn with
    | true =>
        rw [handlePacket, tcp, ok_bind, if_neg init, if_pos syn, handleDuplicateSyn, tcp,
          ok_bind] at h
        simp only at h
        split at h
        · rename_i synSent
          cases h
          refine .silent rfl fun _ => ?_
          cases agrees.tracks with
          | idle first _ _ => exact absurd first init
          | synchronized _ notSynSent _ => exact absurd synSent notSynSent
          | synSent _ _ noFin =>
              rw [Peer.send, if_pos syn]
              exact ⟨agrees.forTcp, .synSent synSent rfl noFin⟩
        · rename_i notSynSent
          have same := (agrees.eq_synchronized init notSynSent).1
          have kept : peer.send header.data = peer := by rw [same]; rfl
          rw [kept]
          split at h
          · obtain ⟨c₁, forged, rest⟩ := bind_eq_ok.mp h
            cases rest
            exact reset_inAgreement agrees.forTcp (agrees.accepts init notSynSent) forged
          · cases h
            exact .silent rfl fun _ => agrees
    | false =>
        have kept : peer.send header.data = peer := by
          cases agrees.tracks with
          | idle first _ _ => exact absurd first init
          | synchronized _ _ _ => rfl
          | synSent _ _ _ => simp only [Peer.send, syn]; rfl
        rw [kept]
        by_cases expected : header.data.sequenceNumber = c.conn.expectedPacket
        · cases rst : header.data.isRst with
          | true =>
              rw [handlePacket, tcp, ok_bind, if_neg init,
                if_neg (by rw [syn]; exact Bool.false_ne_true), if_neg (not_not.mpr expected)] at h
              simp only [rst] at h
              cases h
              exact .silent rfl (by rintro ⟨⟩)
          | false =>
              rw [handlePacket_expected tcp init syn expected rst] at h
              obtain ⟨acked, ackPart, h⟩ := bind_eq_ok.mp h
              obtain ⟨c₂, finPart, h⟩ := bind_eq_ok.mp h
              obtain ⟨agrees₁, notInit₁, kept₁⟩ := ackPart_agrees agrees init ackPart
              have silent : acked.client = c.client := by
                split at ackPart
                · have kept := handleAck_client ackPart
                  exact kept
                · cases ackPart
                  rfl
              have fin : InAgreement peer acked c₂ := by
                split at finPart
                · rename_i isFin
                  have notSynSent : acked.conn.tcb.state ≠ .synSent := by
                    refine kept₁ fun synSent => ?_
                    rw [early synSent syn expected] at isFin
                    cases isFin
                  have noted : TcpConnection.Agrees
                      (acked.withTcb fun tcb => { tcb with finReceived := true }).conn peer :=
                    agrees₁.congr agrees₁.forTcp rfl rfl rfl (fun _ => rfl) (fun _ => rfl)
                  have handled := finPart
                  unfold handleFin at finPart
                  simp only at finPart
                  split at finPart
                  · rename_i empty
                    obtain ⟨peer', follows, agrees'⟩ := doHandleFin_inAgreement noted notInit₁ notSynSent
                      (fun established => room acked c₂ init syn expected rst ackPart isFin empty
                        established handled) finPart
                    exact ⟨peer', follows.congr rfl rfl, agrees'⟩
                  · cases finPart
                    exact .silent rfl fun _ => noted
                · cases finPart
                  exact .silent rfl fun _ => agrees₁
              obtain ⟨peer₂, follows, agrees₂⟩ := fin
              refine InAgreement.trans ⟨peer₂, follows.congr (by rw [silent]) rfl, agrees₂⟩ ?_
              intro peer₂ agrees₂
              split at h
              · cases h
                exact .silent rfl agrees₂
              · obtain ⟨number, -, h⟩ := bind_eq_ok.mp h
                split at h
                · cases h
                  exact handleFinAck_inAgreement agrees₂
                · cases h
                  exact .silent rfl agrees₂
        · rw [handlePacket, tcp, ok_bind, if_neg init,
            if_neg (by rw [syn]; exact Bool.false_ne_true), if_pos expected] at h
          cases h
          exact .silent rfl fun _ => agrees

end TcpContext

end ReverseTether
