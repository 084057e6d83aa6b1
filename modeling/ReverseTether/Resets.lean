import ReverseTether.Peer

/-!
# Resets

The relay never sets the ACK flag of a RST, and it counts more sequence numbers than it
uses when a packet waited, when a SYN or a FIN is lost and when the host is read behind
the FIN.  `InOrder` says that a step does none of this.

A run carries the client along: `TcpFlow` is a connection, what its client knows, and
every segment with the client that it found.

A client accepts a reset in two ways only.  Before the handshake is over the RST has to
acknowledge its SYN, which needs the ACK flag; afterwards the sequence number has to be the
next one that it expects.  So the theorem is about the numbers that the relay has counted,
compared with those that the client can have seen.

The condition names the steps after which the two counts part, and it looks at the state
before the step and at what the step meets, never at what comes of it.  A run all of whose
steps avoid them keeps `InAgreement`, and every RST of such a run is one that the client acts
on.
-/

namespace ReverseTether

open Library Relation

open TcpConnection (tcpHeaderOfPacket createEmptyResponsePacket updateHeaders)

/-! ## What is needed of a step -/

/-- Only an open connection can go on behind its packet. -/
theorem TcpContext.next_open {c c' : TcpContext} (h : c.next = .ok c') : c.conn.closed = false := by
  unfold TcpContext.next at h
  split at h
  · cases h
  · obtain ⟨isOpen, -⟩ := TcpContext.updateInterests_ok h
    exact isOpen

namespace TcpLife

/-- The connect fails, the socket is hung up, or the reaper comes. -/
def Aborts : Label → Prop
  | .event ready answers _ =>
      (ready.isReadable = false ∧ ready.isWritable = false) ∨
        (ready.isWritable = true ∧ ∃ err, answers.takeError = .ok (some err))
  | .expire => True
  | _ => False

/-- The condition on a step: nothing makes the control block lose its client. -/
structure InOrder (s : TcpLife) (m : Meeting) : Prop where
  /-- A flow in SynSent is not given up. -/
  connects : s.conn.closed = false → s.conn.tcb.state = .synSent → ¬ Aborts m.label
  /-- A flow in SynSent is not ended by its client. -/
  early : ∀ packet random overflowChecks now header,
    m.label = .packet packet random overflowChecks now → tcpHeaderOfPacket packet = .ok header →
    s.conn.tcb.state = .synSent → header.data.isSyn = false →
    header.data.sequenceNumber = s.conn.expectedPacket → header.data.isFin = false
  /-- The client has room for every SYN and every FIN. -/
  room : ∀ flags before offering after, Attempt s m flags before offering after →
    flags ≠ flagAck → ¬ Rejected flags offering
  /-- No packet that waited is handed over. -/
  undelivered : m.label = .deliver → ∀ packet, s.conn.get = some packet →
    m.client.networkToClient.remaining < packet.raw.length
  /-- The host is not read behind the FIN. -/
  unread : ∀ ready answers now c, m.label = .event ready answers now → ready.isReadable = true →
    (if ready.isWritable then (s.touched m now).processWritable answers
      else .ok (.ok (), s.touched m now)) = .ok (.ok (), c) →
    c.conn.closed = false → c.conn.tcb.finSequenceNumber.isSome = true →
    ∃ err, answers.read = .error err

variable {peer : Peer} {s : TcpLife} {m : Meeting} {c : TcpContext}

/-- The writable half of an event. -/
theorem processWritable_inAgreement {ready : Ready} {answers : SocketAnswers} {now : Instant}
    {result : IoResult Unit} (inOrder : InOrder s m) (label : m.label = .event ready answers now)
    (isOpen : s.conn.closed = false) (writable : ready.isWritable = true)
    (agrees : s.conn.Agrees peer)
    (h : (s.touched m now).processWritable answers = .ok (result, c)) :
    TcpContext.InAgreement peer (s.touched m now) c := by
  have touched : (s.touched m now).conn.Agrees peer :=
    agrees.congr agrees.forTcp rfl rfl rfl (fun _ => rfl) (fun _ => rfl)
  unfold TcpContext.processWritable at h
  split at h
  · rename_i synSent
    obtain ⟨c₁, connected, rest⟩ := bind_eq_ok.mp h
    cases rest
    have noError : ∀ err, answers.takeError ≠ .ok (some err) := by
      intro err failed
      have steady := inOrder.connects isOpen synSent
      rw [label] at steady
      exact steady (.inr ⟨writable, err, failed⟩)
    exact TcpContext.processConnect_inAgreement touched synSent noError
      (inOrder.room _ _ _ _ (.connect label isOpen writable synSent noError connected) (by decide))
      connected
  · rename_i notSynSent
    refine TcpContext.processSend_inAgreement touched notSynSent ?_ h
    intro written clientToNetwork after wrote nonempty received empty established handled
    refine inOrder.room _ _ _ _ (.lastWritten label isOpen writable notSynSent wrote nonempty
      received empty ?_ handled) (by decide)
    rw [show s.conn.tcb.state = .established from established]
    rfl

/-- Both halves, and the interests. -/
theorem processReady_inAgreement {ready : Ready} {answers : SocketAnswers} {now : Instant}
    {result : IoResult Unit} (inOrder : InOrder s m) (label : m.label = .event ready answers now)
    (isOpen : s.conn.closed = false)
    (connected : ready.isReadable = true → s.conn.tcb.state.isConnected = true)
    (agrees : s.conn.Agrees peer)
    (h : (s.touched m now).processReady ready answers = .ok (result, c)) :
    TcpContext.InAgreement peer (s.touched m now) c := by
  have touched : (s.touched m now).conn.Agrees peer :=
    agrees.congr agrees.forTcp rfl rfl rfl (fun _ => rfl) (fun _ => rfl)
  have write {result : IoResult Unit} {c₁ : TcpContext}
      (h : (if ready.isWritable then (s.touched m now).processWritable answers
        else .ok (.ok (), s.touched m now)) = .ok (result, c₁)) :
      TcpContext.InAgreement peer (s.touched m now) c₁ ∧
        (ready.isReadable = true → c₁.conn.tcb.state.isConnected = true) := by
    split at h
    · rename_i writable
      refine ⟨processWritable_inAgreement inOrder label isOpen writable agrees h, ?_⟩
      intro readable
      have connected := connected readable
      have notSynSent : (s.touched m now).conn.tcb.state ≠ .synSent := by
        intro synSent
        rw [show s.conn.tcb.state = .synSent from synSent] at connected
        cases connected
      rw [TcpContext.processWritable, if_neg notSynSent] at h
      have moves := @TcpContext.processSend_moves (fun _ => True) _ _ _ _ trivial notSynSent h
      clear h
      induction moves with
      | refl => exact connected
      | tail _ last ih => exact last.isConnected ih
    · cases h
      exact ⟨.silent rfl fun _ => touched, connected⟩
  have read {result : IoResult Unit} {c₁ c₂ : TcpContext} {peer₁ : Peer}
      (written : (if ready.isWritable then (s.touched m now).processWritable answers
        else .ok (.ok (), s.touched m now)) = .ok (.ok (), c₁))
      (still : ready.isReadable = true → c₁.conn.tcb.state.isConnected = true)
      (agrees : c₁.conn.closed = false → c₁.conn.Agrees peer₁)
      (h : (if c₁.conn.closed = false ∧ ready.isReadable then c₁.processReceive answers.read
        else .ok (.ok (), c₁)) = .ok (result, c₂)) :
      TcpContext.InAgreement peer₁ c₁ c₂ := by
    split at h
    · rename_i usable
      refine TcpContext.processReceive_inAgreement (agrees usable.1) (still usable.2)
        (inOrder.unread _ _ _ _ label usable.2 written usable.1) ?_ h
      intro primed packetizer after updated packetized ended
      exact inOrder.room _ _ _ _ (.eof label isOpen usable.2 written usable.1 updated packetized
        ended) (by decide)
    · cases h
      exact .silent rfl agrees
  rcases orReturn_eq_ok.mp h with ⟨c₁, sent, h⟩ | ⟨err, c₁, sent, rest⟩
  · obtain ⟨first, still⟩ := write sent
    refine first.trans fun peer₁ agrees₁ => ?_
    rcases orReturn_eq_ok.mp h with ⟨c₂, received, h⟩ | ⟨err, c₂, received, rest⟩
    · refine (read sent still agrees₁ received).trans fun peer₂ agrees₂ => ?_
      obtain ⟨c₃, updated, rest⟩ := bind_eq_ok.mp h
      cases rest
      split at updated
      · cases updated
        exact .silent rfl agrees₂
      · rename_i open₂
        rw [Bool.not_eq_true] at open₂
        exact TcpContext.updateInterests_inAgreement (agrees₂ open₂) updated
    · cases rest
      exact read sent still agrees₁ received
  · cases rest
    exact (write sent).1

/-- A flow in its handshake is reset, if its SYN is answered. -/
theorem reset_handshake {c₁ : TcpContext} (agrees : c.conn.Agrees peer)
    (synReceived : c.conn.tcb.state = .synReceived)
    (forged : c.replyEmptyPacketToClient flagRst = .ok c₁) :
    TcpContext.InAgreement peer c c₁.close := by
  refine TcpContext.reset_inAgreement agrees.forTcp (agrees.accepts ?_ ?_) forged
  · rw [synReceived]
    nofun
  · rw [synReceived]
    nofun

theorem processHup_inAgreement (agrees : c.conn.Agrees peer) {c' : TcpContext}
    (answered : c.conn.tcb.state ≠ .synSent) (h : c.processHup = .ok c') :
    TcpContext.InAgreement peer c c' := by
  obtain ⟨c₁, replied, rest⟩ := bind_eq_ok.mp h
  cases rest
  split at replied
  · rename_i handshake
    exact reset_handshake agrees (handshake.resolve_left answered) replied
  · cases replied
    exact .silent rfl nofun

theorem onReady_inAgreement {ready : Ready} {answers : SocketAnswers} {now : Instant}
    (inOrder : InOrder s m) (label : m.label = .event ready answers now)
    (isOpen : s.conn.closed = false)
    (connected : ready.isReadable = true → s.conn.tcb.state.isConnected = true)
    (agrees : s.conn.Agrees peer) (h : (s.meets m).onReady ready answers now = .ok c) :
    TcpContext.InAgreement peer (s.meets m) c := by
  have touched : (s.touched m now).conn.Agrees peer :=
    agrees.congr agrees.forTcp rfl rfl rfl (fun _ => rfl) (fun _ => rfl)
  have body {result : IoResult Unit} {c₁ : TcpContext}
      (h : (if ready.isReadable ∨ ready.isWritable then
          (s.touched m now).processReady ready answers
        else do return (.ok (), ← (s.touched m now).processHup)) = .ok (result, c₁)) :
      TcpContext.InAgreement peer (s.meets m) c₁ := by
    split at h
    · obtain ⟨peer', follows, agrees'⟩ :=
        processReady_inAgreement inOrder label isOpen connected agrees h
      exact ⟨peer', follows.congr rfl rfl, agrees'⟩
    · rename_i neither
      obtain ⟨c₂, hup, rest⟩ := bind_eq_ok.mp h
      cases rest
      have answered : (s.touched m now).conn.tcb.state ≠ .synSent := by
        intro synSent
        have steady := inOrder.connects isOpen synSent
        rw [label] at steady
        rw [not_or, Bool.not_eq_true, Bool.not_eq_true] at neither
        exact steady (.inl neither)
      obtain ⟨peer', follows, agrees'⟩ := processHup_inAgreement touched answered hup
      exact ⟨peer', follows.congr rfl rfl, agrees'⟩
  obtain ⟨⟨result, c₁⟩, processed, h⟩ := bind_eq_ok.mp h
  have processed' : TcpContext.InAgreement peer (s.meets m) c₁ := by
    unfold TcpContext.process at processed
    rw [if_neg (by rw [show (s.meets m).conn.closed = false from isOpen]; exact Bool.false_ne_true)]
      at processed
    rcases orReturn_eq_ok.mp processed with ⟨c₂, done, last⟩ | ⟨err, c₂, done, last⟩
    · cases last
      split
      · obtain ⟨peer', follows, agrees'⟩ := body done
        exact ⟨peer', follows.congr rfl rfl, agrees'⟩
      · exact body done
    · cases last
      exact body done
  cases result with
  | ok _ =>
      cases h
      exact processed'
  | error err =>
      cases err with
      | wouldBlock =>
          cases h
          exact processed'
      | other =>
          cases h
          obtain ⟨peer', follows, agrees'⟩ := processed'
          split
          · exact ⟨peer', follows.congr rfl rfl, agrees'⟩
          · exact ⟨peer', follows.congr rfl rfl, nofun⟩

theorem expire_inAgreement (inOrder : InOrder s m) (label : m.label = .expire)
    (isOpen : s.conn.closed = false) (agrees : s.conn.Agrees peer)
    (h : (s.meets m).expire = .ok c) : TcpContext.InAgreement peer (s.meets m) c := by
  unfold TcpContext.expire at h
  split at h
  · rename_i handshake
    obtain ⟨c₁, forged, rest⟩ := bind_eq_ok.mp h
    cases rest
    have answered : s.conn.tcb.state ≠ .synSent := by
      intro synSent
      have steady := inOrder.connects isOpen synSent
      rw [label] at steady
      exact steady trivial
    exact reset_handshake agrees (handshake.2.resolve_left answered) forged
  · cases h
    exact .silent rfl nofun

theorem sendToNetwork_inAgreement {packet : Ipv4Packet} {random : UInt32} {overflowChecks : Bool}
    {now : Instant} {header : TcpHeader} (inOrder : InOrder s m)
    (label : m.label = .packet packet random overflowChecks now)
    (tcp : tcpHeaderOfPacket packet = .ok header) (agrees : s.conn.Agrees peer)
    (h : (s.meets m).sendToNetwork (.ipv4 packet) random overflowChecks now = .ok c) :
    TcpContext.InAgreement (peer.send header.data) (s.meets m) c := by
  have touched : (s.touched m now).conn.Agrees peer :=
    agrees.congr agrees.forTcp rfl rfl rfl (fun _ => rfl) (fun _ => rfl)
  obtain ⟨c₁, handled, h⟩ := bind_eq_ok.mp h
  obtain ⟨peer₁, follows, agrees₁⟩ := @TcpContext.handlePacket_inAgreement peer (s.touched m now) c₁
    packet header random overflowChecks touched tcp (inOrder.early _ _ _ _ _ label tcp)
    (by
      intro acked after notInit syn expected rst ackPart isFin empty established handled
      refine inOrder.room _ _ _ _ (.finArrived label tcp notInit syn expected rst ackPart isFin empty
        ?_ handled) (by decide)
      rw [established]
      rfl) handled
  refine TcpContext.InAgreement.trans ⟨peer₁, follows.congr rfl rfl, agrees₁⟩ ?_
  intro peer₁ agrees₁
  split at h
  · cases h
    exact .silent rfl agrees₁
  · rename_i isOpen
    rw [Bool.not_eq_true] at isOpen
    exact TcpContext.updateInterests_inAgreement (agrees₁ isOpen) h

/-- A packet of the client tells where it is, nothing else does. -/
def Label.tells (label : Label) (peer : Peer) : Peer :=
  match label with
  | .packet ipv4Packet _ _ _ =>
      match tcpHeaderOfPacket ipv4Packet with
      | .ok header => peer.send header.data
      | .error _ => peer
  | _ => peer

/-- **One step of an open connection.**  The automaton of the client goes on by what was really
appended to its stream, and the connection by what it has meant to send; in order, the two are the
same. -/
theorem handle_inAgreement (inOrder : InOrder s m) (isOpen : s.conn.closed = false)
    (armed : s.armed.isReadable = true → s.conn.tcb.state.isConnected = true)
    (within : ∀ ready answers now, m.label = .event ready answers now → ready.Within s.armed)
    (agrees : s.conn.Agrees peer) (h : s.handle m = .ok c) :
    TcpContext.InAgreement (m.label.tells peer) (s.meets m) c := by
  unfold handle at h
  cases label : m.label with
  | packet packet random overflowChecks now =>
      rw [label] at h
      obtain ⟨_, handled, -⟩ := bind_eq_ok.mp h
      obtain ⟨header, tcp, -⟩ := bind_eq_ok.mp handled
      have told : Label.tells (.packet packet random overflowChecks now) peer =
          peer.send header.data := by
        simp only [Label.tells, tcp]
      rw [told]
      exact sendToNetwork_inAgreement inOrder label tcp agrees h
  | poll =>
      rw [label] at h
      cases h
      exact .silent rfl fun _ => agrees
  | event ready answers now =>
      rw [label] at h
      exact onReady_inAgreement inOrder label isOpen
        (fun readable => armed ((within _ _ _ label).1 readable)) agrees h
  | expire =>
      rw [label] at h
      exact expire_inAgreement inOrder label isOpen agrees h
  | close =>
      rw [label] at h
      cases h
      exact .silent rfl nofun
  | deliver =>
      rw [label] at h
      simp only at h
      split at h
      · cases h
      · rename_i packet waiting
        have full := inOrder.undelivered label packet waiting
        obtain ⟨⟨sent, client, selector⟩, offered, h⟩ := bind_eq_ok.mp h
        rcases (Client.sendRawToClient_ok offered).2.2.2 with ⟨-, fits, -⟩ | ⟨rfl, -, rfl, rfl⟩
        · exact absurd full (Nat.not_lt.mpr fits)
        · cases h
          exact .silent rfl fun _ => agrees

/-- A closed connection is silent, and stays closed. -/
theorem handle_closed (closed : s.conn.closed = true)
    (noPacket : ∀ packet random overflowChecks now,
      m.label ≠ .packet packet random overflowChecks now) (h : s.handle m = .ok c) :
    c.client.appended = m.client.appended ∧ c.conn.closed = true := by
  unfold handle at h
  cases label : m.label with
  | packet packet random overflowChecks now => exact absurd label (noPacket _ _ _ _)
  | poll =>
      rw [label] at h
      cases h
      exact ⟨rfl, closed⟩
  | event ready answers now =>
      rw [label] at h
      obtain ⟨⟨result, c₁⟩, processed, h⟩ := bind_eq_ok.mp h
      rw [TcpContext.process, if_pos (show (s.meets m).conn.closed = true from closed)] at processed
      cases processed
      cases h
      exact ⟨rfl, closed⟩
  | expire =>
      rw [label] at h
      have expired : (s.meets m).expire = .ok c := h
      unfold TcpContext.expire at expired
      split at expired
      · rename_i handshake
        exact absurd (closed.symm.trans handshake.1) nofun
      · cases expired
        exact ⟨rfl, rfl⟩
  | close =>
      rw [label] at h
      cases h
      exact ⟨rfl, rfl⟩
  | deliver =>
      rw [label] at h
      simp only at h
      split at h
      · cases h
      · obtain ⟨⟨sent, client, selector⟩, offered, h⟩ := bind_eq_ok.mp h
        rcases (Client.sendRawToClient_ok offered).2.2.2 with ⟨rfl, -⟩ | ⟨rfl, -, rfl, rfl⟩
        · have isOpen := TcpContext.next_open h
          exact absurd (closed.symm.trans isOpen) nofun
        · cases h
          exact ⟨rfl, closed⟩

/-- An interest in reading stays the interest of a connected socket. -/
theorem handle_connected (h : s.handle m = .ok c)
    (sound : s.conn.interests.isReadable = true → s.conn.tcb.state.isConnected = true) :
    (c.conn.interests.isReadable = true → c.conn.tcb.state.isConnected = true) ∧
      (s.conn.tcb.state.isConnected = true → c.conn.tcb.state.isConnected = true) := by
  have moves {c₀ c₁ : TcpContext}
      (sound : c₀.conn.interests.isReadable = true → c₀.conn.tcb.state.isConnected = true)
      (h : TcpMoves (fun _ => True) c₀ c₁) :
      (c₁.conn.interests.isReadable = true → c₁.conn.tcb.state.isConnected = true) ∧
        (c₀.conn.tcb.state.isConnected = true → c₁.conn.tcb.state.isConnected = true) := by
    induction h with
    | refl => exact ⟨sound, id⟩
    | tail _ last ih => exact ⟨last.interestConnected ih.1, fun h => last.isConnected (ih.2 h)⟩
  unfold handle at h
  cases label : m.label with
  | packet packet random overflowChecks now =>
      rw [label] at h
      obtain ⟨header, c₁, -, arrived, answers⟩ :=
        @TcpContext.sendToNetwork_moves (fun _ => True) _ _ _ _ _ _ h
      obtain ⟨interests, connected⟩ := arrived.isConnected
      obtain ⟨sound', connected'⟩ :=
        moves (fun readable => connected (sound (interests ▸ readable))) answers
      exact ⟨sound', fun h => connected' (connected h)⟩
  | poll =>
      rw [label] at h
      cases h
      exact ⟨sound, id⟩
  | event ready answers now =>
      rw [label] at h
      exact @moves (s.meets m) c sound
        (TcpContext.onReady_moves (fun _ => trivial) (fun _ => trivial) h)
  | expire =>
      rw [label] at h
      exact @moves (s.meets m) c sound (TcpContext.expire_moves h)
  | close =>
      rw [label] at h
      cases h
      exact ⟨sound, id⟩
  | deliver =>
      rw [label] at h
      simp only at h
      split at h
      · cases h
      · obtain ⟨⟨sent, client, selector⟩, offered, h⟩ := bind_eq_ok.mp h
        cases sent with
        | ok _ => exact @moves ⟨s.conn, client, selector⟩ c sound (TcpContext.next_moves trivial h)
        | error _ =>
            cases h
            exact ⟨sound, id⟩

/-- The segments the client was sent in a step that ends in `c`. -/
def Meeting.sent (m : Meeting) (c : TcpContext) : List Segment :=
  (c.client.appended.drop m.client.appended.length).map Segment.ofRaw

end TcpLife

/-! ## Runs -/

/-- A connection and its client, with every segment the client was sent and what it found. -/
structure TcpFlow where
  life : TcpLife
  peer : Peer
  heard : List (Peer × Segment)

namespace TcpFlow

open TcpLife (Meeting Label InOrder metMachine)

/-- A packet is for an open connection: the router has no other. -/
def machine : Machine TcpFlow Meeting where
  start s := metMachine.start s.life ∧ s.peer = .idle ∧ s.heard = []
  step s m s' :=
    metMachine.step s.life m s'.life ∧
    (∀ packet random overflowChecks now, m.label = .packet packet random overflowChecks now →
      s.life.conn.closed = false) ∧
    ∃ c, s.life.handle m = .ok c ∧
      s'.peer = (m.label.tells s.peer).hearAll (m.sent c) ∧
      s'.heard = s.heard ++ (m.label.tells s.peer).meetings (m.sent c)

/-- Every RST was acceptable to the client it found: a client in its own SYN only accepts one that
acknowledges it. -/
def ResetsAccepted (s : TcpFlow) : Prop :=
  ∀ met ∈ s.heard, met.2.has flagRst → met.1.Accepts met.2

/-- The invariant: what the peer has seen agrees with what an open connection keeps, and nothing is
read from the host before the socket is connected. -/
structure Consistent (s : TcpFlow) : Prop where
  accepted : s.ResetsAccepted
  agrees : s.life.conn.closed = false → s.life.conn.Agrees s.peer
  interest : s.life.conn.interests.isReadable = true → s.life.conn.tcb.state.isConnected = true
  armed : s.life.armed.isReadable = true → s.life.conn.tcb.state.isConnected = true

theorem Consistent.of_start {s : TcpFlow} (start : machine.start s) : s.Consistent := by
  obtain ⟨⟨fresh, armed⟩, idle, none⟩ := start
  have forTcp := fresh.forTcp
  obtain ⟨_, _, _, _, initial⟩ := fresh.eq_initial
  constructor
  · intro met mem
    rw [none] at mem
    cases mem
  · intro _
    rw [idle]
    refine ⟨forTcp, .idle ?_ ?_ ?_⟩ <;> rw [initial] <;> rfl
  · intro readable
    rw [initial] at readable
    cases readable
  · intro readable
    rw [armed] at readable
    cases readable

/-- What a step sends, in the words of the machine. -/
theorem sent_of_follows {peer peer' : Peer} {s : TcpLife} {m : Meeting} {c : TcpContext}
    (follows : TcpContext.Follows peer peer' (s.meets m) c) :
    peer' = peer.hearAll (m.sent c) ∧
      ∀ met ∈ peer.meetings (m.sent c), met.2.has flagRst → met.1.Accepts met.2 := by
  obtain ⟨raws, appended, same, accepted⟩ := follows
  have sent : m.sent c = raws.map Segment.ofRaw := by
    show (c.client.appended.drop (s.meets m).client.appended.length).map Segment.ofRaw = _
    rw [appended, List.drop_left]
  rw [sent]
  exact ⟨same, accepted⟩

theorem Consistent.step {s s' : TcpFlow} {m : Meeting} (consistent : s.Consistent)
    (inOrder : InOrder s.life m) (step : machine.step s m s') : s'.Consistent := by
  obtain ⟨⟨c, handled, conn, rest⟩, packets, c', handled', peer, heard⟩ := step
  rw [handled] at handled'
  cases handled'
  obtain ⟨interest, connected⟩ := TcpLife.handle_connected handled consistent.interest
  -- the poller looks, or nothing changes
  have armed : s'.life.armed.isReadable = true → s'.life.conn.tcb.state.isConnected = true := by
    rw [conn]
    intro readable
    split at rest
    · rename_i poll
      rw [rest] at readable
      exact connected (consistent.interest readable)
    · rw [rest.2] at readable
      exact connected (consistent.armed readable)
    · rw [rest] at readable
      exact connected (consistent.armed readable)
  have within : ∀ ready answers now, m.label = .event ready answers now →
      ready.Within s.life.armed := by
    intro ready answers now label
    rw [label] at rest
    exact rest.1
  have told : ∃ peer', TcpContext.Follows (m.label.tells s.peer) peer' (s.life.meets m) c ∧
      (c.conn.closed = false → c.conn.Agrees peer') := by
    cases closed : s.life.conn.closed with
    | false =>
        exact TcpLife.handle_inAgreement inOrder closed consistent.armed within
          (consistent.agrees closed) handled
    | true =>
        have noPacket : ∀ packet random overflowChecks now,
            m.label ≠ .packet packet random overflowChecks now := by
          intro packet random overflowChecks now label
          exact absurd (closed.symm.trans (packets _ _ _ _ label)) nofun
        obtain ⟨silent, still⟩ := TcpLife.handle_closed closed noPacket handled
        exact ⟨_, .silent _ silent, fun isOpen => absurd (still.symm.trans isOpen) nofun⟩
  obtain ⟨peer', follows, agrees⟩ := told
  obtain ⟨same, accepted⟩ := sent_of_follows follows
  refine ⟨?_, ?_, conn ▸ interest, armed⟩
  · intro met mem
    rw [heard, List.mem_append] at mem
    exact mem.elim (consistent.accepted met) (accepted met)
  · rw [conn, peer, ← same]
    exact agrees

/-- **Every RST is acceptable** in every run whose steps are in order: to a client in SYN-SENT
it acknowledges the SYN, and later its sequence number is the one the client expects next. -/
theorem run_resets_accepted {t : List (TcpFlow × Meeting)} {s : TcpFlow} (run : machine.Run t s)
    (inOrder : Machine.Meets (fun s m => InOrder s.life m) t) : s.ResetsAccepted :=
  (run.invariant Consistent (fun _ start => .of_start start)
    (fun _ _ _ consistent inOrder step => consistent.step inOrder step) inOrder).accepted

/-- A step in which the client is sent these segments. -/
theorem step_sends {s : TcpFlow} {m : Meeting} {c : TcpContext} {armed : Ready}
    {segments : List Segment} (handled : s.life.handle m = .ok c)
    (step : metMachine.step s.life m ⟨c.conn, armed⟩)
    (packets : ∀ packet random overflowChecks now,
      m.label = .packet packet random overflowChecks now → s.life.conn.closed = false)
    (sent : m.sent c = segments) :
    machine.step s m ⟨⟨c.conn, armed⟩, (m.label.tells s.peer).hearAll segments,
      s.heard ++ (m.label.tells s.peer).meetings segments⟩ :=
  ⟨step, packets, c, handled, by rw [sent], by rw [sent]⟩

/-- A RST reaches a client that has room for it. -/
theorem reset_sent {conn : TcpConnection} (isOpen : conn.closed = false)
    (forTcp : conn.networkToClient.ForTcp) :
    ∃ client selector c₁ raw,
      (⟨conn, client, selector⟩ : TcpContext).replyEmptyPacketToClient flagRst = .ok c₁ ∧
      c₁.client.appended = client.appended ++ [raw] ∧
      Segment.ofRaw raw =
        ⟨conn.tcb.sequenceNumber, conn.tcb.acknowledgementNumber, flagRst, []⟩ := by
  have mem : flagRst ∈ relayFlags := by decide
  obtain ⟨client, selector, usable, room⟩ := TcpLife.usable_exists isOpen forTcp (.new _)
  obtain ⟨c₁, -, -, forged, -⟩ := usable.reply mem
  obtain ⟨packetizer, raw, -, segment, -, taken | ⟨-, rejected⟩⟩ :=
    TcpContext.replyEmptyPacketToClient_offers forTcp mem forged
  · exact ⟨client, selector, c₁, raw, forged, taken, segment⟩
  · obtain ⟨packet, packetizer, created, full⟩ := rejected
    obtain ⟨packet', packetizer', created', -, -, length, -⟩ :=
      forTcp.createEmptyResponsePacket conn.tcb mem
    have short := forTcp.short
    have same : packet = packet' := by
      have both := created.symm.trans created'
      cases both
      rfl
    change client.networkToClient.remaining < packet.raw.length at full
    rw [same] at full
    rw [room, StreamBuffer.remaining_new, length] at full
    have most : 16 * maxPacketLength = 1048576 := rfl
    omega

/-- The first packet of a flow is in the middle of another connection. -/
theorem run_resets_accepted_ack : ∃ t s, machine.Run t s ∧ s.heard ≠ [] ∧ s.ResetsAccepted := by
  obtain ⟨conn, fresh⟩ := TcpConnection.fresh_exists
  have forTcp := fresh.forTcp
  have start : machine.Run [] ⟨⟨conn, .empty⟩, .idle, []⟩ := .start ⟨⟨fresh, rfl⟩, rfl, rfl⟩
  obtain ⟨handle, id, packetizer, now, rfl⟩ := fresh.eq_initial
  let refused : TcpConnection := { TcpConnection.initial handle id packetizer 0 with
    createdAt := now
    tcb := { Tcb.new with sequenceNumber := 5 } }
  obtain ⟨client, selector, c₁, raw, forged, taken, segment⟩ := @reset_sent refused rfl forTcp
  let label : Label := .packet (segmentPacket 1 5 0x10 []) 0 false 0
  have handled : TcpLife.handle ⟨TcpConnection.initial handle id packetizer now, .empty⟩
      ⟨label, client, selector⟩ = .ok c₁.close := by
    refine bind_eq_ok.mpr ⟨c₁.close, ?_, rfl⟩
    exact bind_eq_ok.mpr ⟨segmentHeader 1 5 0x10, rfl, bind_eq_ok.mpr ⟨segmentHeader 1 5 0x10, rfl,
      bind_eq_ok.mpr ⟨c₁, forged, rfl⟩⟩⟩
  have sent : Meeting.sent ⟨label, client, selector⟩ c₁.close = [Segment.ofRaw raw] := by
    show (c₁.client.appended.drop client.appended.length).map Segment.ofRaw = _
    rw [taken, List.drop_left]
    rfl
  have run := start.step
    (step_sends handled ⟨c₁.close, handled, rfl, rfl⟩ (fun _ _ _ _ _ => rfl) sent)
  refine ⟨_, _, run, ?_, run_resets_accepted run ?_⟩
  · exact List.append_ne_nil_of_right_ne_nil _ (List.cons_ne_nil _ _)
  · refine Machine.meets_singleton.mpr ⟨fun _ synSent => ?_, fun _ _ _ _ _ _ _ synSent => ?_,
      fun _ _ _ _ attempt => ?_, fun deliver => ?_, fun _ _ _ _ event => ?_⟩
    · cases synSent
    · cases synSent
    · cases attempt with
      | connect event => cases event
      | acknowledge event => cases event
      | lastWritten event => cases event
      | finArrived _ _ notInit => exact absurd rfl notInit
      | eof event => cases event
    · cases deliver
    · cases event

/-- **A flow in SynSent is hung up**, and its client does not take the RST. -/
theorem not_resets_accepted_hup : ∃ t s, machine.Run t s ∧
    t.map (fun p => p.2.label) = [.packet (segmentPacket 0 0 2 []) 0 false 0, .poll,
      .event .empty ⟨.ok none, .ok 0, .ok []⟩ 0] ∧
    ¬ s.ResetsAccepted := by
  obtain ⟨conn, fresh⟩ := TcpConnection.fresh_exists
  have forTcp := fresh.forTcp
  have start : machine.Run [] ⟨⟨conn, .empty⟩, .idle, []⟩ := .start ⟨⟨fresh, rfl⟩, rfl, rfl⟩
  obtain ⟨handle, id, packetizer, now, rfl⟩ := fresh.eq_initial
  obtain ⟨client, selector, usable, -⟩ := TcpLife.usable_exists rfl forTcp (.new _)
  obtain ⟨c₁, opened, usable₁, -, silent, same⟩ := @TcpContext.Usable.openWith _
    (segmentPacket 0 0 2 []) (segmentHeader 0 0 2) false usable 0 0 rfl rfl (by decide)
  let syn : Meeting := ⟨.packet (segmentPacket 0 0 2 []) 0 false 0, client, selector⟩
  have unanswered : syn.sent c₁ = [] := by
    show (c₁.client.appended.drop client.appended.length).map Segment.ofRaw = _
    rw [silent]
    simp
  have run := start.step
    (step_sends (m := syn) opened ⟨c₁, opened, rfl, rfl⟩ (fun _ _ _ _ _ => rfl) unanswered)
  have quiet : Meeting.sent ⟨.poll, client, selector⟩ ⟨c₁.conn, client, selector⟩ = [] := by
    show (client.appended.drop client.appended.length).map Segment.ofRaw = _
    simp
  have run := run.step (step_sends (m := ⟨.poll, client, selector⟩) rfl ⟨_, rfl, rfl, rfl⟩ nofun quiet)
  have synSent : c₁.conn.tcb.state = .synSent := by
    rw [same]
    rfl
  -- the socket is hung up
  obtain ⟨client', selector', c₂, raw, forged, taken, segment⟩ :=
    @reset_sent (c₁.conn.touch 0) usable₁.isOpen usable₁.forTcp
  let hup : Meeting := ⟨.event .empty ⟨.ok none, .ok 0, .ok []⟩ 0, client', selector'⟩
  let after : TcpContext := c₂.close.removeFromRouter
  have handled : TcpLife.handle ⟨c₁.conn, c₁.conn.interests⟩ hup = .ok after := by
    have hung : TcpContext.processHup ⟨c₁.conn.touch 0, client', selector'⟩ = .ok c₂.close :=
      bind_eq_ok.mpr ⟨c₂, (if_pos (.inl synSent)).trans forged, rfl⟩
    have processed : TcpContext.process ⟨c₁.conn, client', selector'⟩ .empty
        ⟨.ok none, .ok 0, .ok []⟩ 0 = .ok (.ok (), after) := by
      refine (if_neg (by rw [usable₁.isOpen]; exact Bool.false_ne_true)).trans ?_
      refine orReturn_eq_ok.mpr (.inl ⟨c₂.close, ?_, rfl⟩)
      exact (if_neg (by decide)).trans (bind_eq_ok.mpr ⟨c₂.close, hung, rfl⟩)
    exact bind_eq_ok.mpr ⟨_, processed, rfl⟩
  have sent : hup.sent after = [Segment.ofRaw raw] := by
    show (c₂.client.appended.drop client'.appended.length).map Segment.ofRaw = _
    rw [taken, List.drop_left]
    rfl
  have run := run.step
    (step_sends handled ⟨after, handled, rfl, Ready.empty_within _, rfl⟩ nofun sent)
  refine ⟨_, _, run, rfl, fun accepted => ?_⟩
  have mem : (Peer.synSent 0, Segment.ofRaw raw) ∈ [] ++ [(Peer.synSent 0, Segment.ofRaw raw)] := by
    simp
  have accepted := accepted _ mem
  rw [segment] at accepted
  exact Peer.not_accepts_bare 0 _ _ (accepted (by decide : decide (flagRst &&& flagRst ≠ 0) = true))

end TcpFlow

end ReverseTether
