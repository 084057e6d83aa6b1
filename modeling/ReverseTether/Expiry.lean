import ReverseTether.Borrows
import ReverseTether.ClientWindow
import ReverseTether.FlowLives
import ReverseTether.Registrations

/-!
# Expiry

A TCP connection has two clocks.  `createdAt` is never set again, and `idleSince` is set
when a packet of the client arrives and when the socket of an open connection is ready;
everything else that a method does leaves both alone (`TcpContext.SameClocks`).  The
reaper looks at the first one during the handshake and at the second one afterwards
(`TcpLife.run_clocks`).

What the reaper does with the routes it found expired is `Router.Cleaned`: each one leads
to an open connection, which leaves the router, is offered a RST for its client if it is
in its handshake, and is closed.  The others stay as they are.  It comes to that from every
state of the relay (`Relay.run_reaps`): the socket of an open client is registered, and so are those
of its connections, hence nothing in the reaper panics.

The reaper panics when a socket that it closes is not known to the selector, so that it
returns is a statement about registrations, for which the relay is followed through every run.
What it does not do is to wait: a connection whose RST the client has no room for is closed
all the same.
-/

namespace ReverseTether

open Library Relation

open TcpConnection (createEmptyResponsePacket)

/-! ## The clocks of a TCP connection -/

namespace TcpContext

/-- Neither clock is set: neither the one of the handshake, nor the one of the idle connection. -/
structure SameClocks (c c' : TcpContext) : Prop where
  createdAt : c'.conn.createdAt = c.conn.createdAt
  idleSince : c'.conn.idleSince = c.conn.idleSince

variable {c c₁ c' : TcpContext}

namespace SameClocks

theorem refl (c : TcpContext) : c.SameClocks c := ⟨rfl, rfl⟩

theorem trans (first : c.SameClocks c₁) (second : c₁.SameClocks c') : c.SameClocks c' :=
  ⟨second.createdAt.trans first.createdAt, second.idleSince.trans first.idleSince⟩

end SameClocks

/-- To register a socket again is no use of the connection. -/
theorem updateInterests_clocks (h : c.updateInterests = .ok c') : c.SameClocks c' := by
  obtain ⟨-, same, -⟩ := updateInterests_ok h
  constructor <;> rw [same]

/-- A segment that is forged sets no clock, whether the client has room for it or not. -/
theorem reply_clocks {flags : UInt16} (h : c.replyEmptyPacketToClient flags = .ok c') :
    c.SameClocks c' := by
  obtain ⟨_, _, _, -, -, same⟩ := replyEmptyPacketToClient_ok h
  constructor
  · rw [same]
    rfl
  · rw [same]
    rfl

/-- Data for the client set no clock, handed over or put aside. -/
theorem sendDataToClient_clocks {packet : Ipv4Packet} (h : c.sendDataToClient packet = .ok c') :
    c.SameClocks c' := by
  obtain ⟨_, _, _, -, ⟨_, -, -, same, -⟩ | ⟨-, same, -⟩⟩ := sendDataToClient_ok h
  · constructor
    · rw [same]
      rfl
    · rw [same]
      rfl
  · constructor
    · rw [same]
      rfl
    · rw [same]
      rfl

/-- A segment is forged, and then the connection is changed in ways that `f` says. -/
theorem replyThen_clocks {flags : UInt16} {f : TcpContext → TcpContext}
    (h : (do let c ← c.replyEmptyPacketToClient flags; return f c) = Except.ok c')
    (keeps : ∀ c : TcpContext, c.SameClocks (f c)) :
    c.SameClocks c' := by
  obtain ⟨c₁, forged, rest⟩ := bind_eq_ok.mp h
  cases rest
  exact (reply_clocks forged).trans (keeps c₁)

/-! ### Packets -/

/-- The answer to a FIN sets no clock. -/
theorem doHandleFin_clocks (h : c.doHandleFin = .ok c') : c.SameClocks c' := by
  have counted : c.SameClocks c.countReceivedFin := ⟨rfl, rfl⟩
  apply counted.trans
  unfold doHandleFin at h
  simp only at h
  split at h
  · exact replyThen_clocks h fun _ => ⟨rfl, rfl⟩
  split at h
  · exact replyThen_clocks h fun _ => ⟨rfl, rfl⟩
  split at h
  · exact replyThen_clocks h fun _ => ⟨rfl, rfl⟩
  · cases h
    exact .refl _

/-- A FIN of the client sets no clock by itself: the packet has set it before. -/
theorem handleFin_clocks (h : c.handleFin = .ok c') : c.SameClocks c' := by
  have noted : c.SameClocks (c.withTcb fun tcb => { tcb with finReceived := true }) := ⟨rfl, rfl⟩
  unfold handleFin at h
  simp only at h
  split at h
  · exact noted.trans (doHandleFin_clocks h)
  · cases h
    exact noted

/-- The acknowledgement of the FIN sets no clock by itself. -/
theorem handleFinAck_clocks (c : TcpContext) : c.SameClocks c.handleFinAck := by
  unfold handleFinAck
  split
  · exact ⟨rfl, rfl⟩
  split
  · exact ⟨rfl, rfl⟩
  · exact .refl _

/-- The acknowledgement part of a packet sets no clock by itself. -/
theorem handleAck_clocks {packet : Ipv4Packet} (h : c.handleAck packet = .ok c') :
    c.SameClocks c' := by
  unfold handleAck at h
  split at h
  · cases h
    exact ⟨rfl, rfl⟩
  · obtain ⟨payload, -, h⟩ := bind_eq_ok.mp h
    cases payload with
    | none => cases h
    | some payload =>
        simp only at h
        split at h
        · cases h
          exact .refl _
        split at h
        · cases h
          exact .refl _
        · obtain ⟨clientToNetwork, -, rest⟩ := bind_eq_ok.mp h
          cases rest
          exact ⟨rfl, rfl⟩

/-- How a packet is treated does not depend on the clocks, and sets none of them. -/
theorem handlePacket_clocks {packet : Ipv4Packet} {random : UInt32} {overflowChecks : Bool}
    (h : c.handlePacket packet random overflowChecks = .ok c') : c.SameClocks c' := by
  obtain ⟨header, -, h⟩ := bind_eq_ok.mp h
  simp only at h
  split at h
  · -- the first packet
    obtain ⟨_, -, h⟩ := bind_eq_ok.mp h
    simp only at h
    split at h
    · cases h
      exact ⟨rfl, rfl⟩
    · obtain ⟨created, idle⟩ := replyThen_clocks h fun _ => ⟨rfl, rfl⟩
      exact ⟨created, idle⟩
  split at h
  · -- another SYN
    obtain ⟨_, -, h⟩ := bind_eq_ok.mp h
    simp only at h
    split at h
    · cases h
      exact ⟨rfl, rfl⟩
    split at h
    · exact replyThen_clocks h fun _ => ⟨rfl, rfl⟩
    · cases h
      exact .refl _
  split at h
  · cases h
    exact .refl _
  have heard : c.SameClocks (c.noteWindow header.data) := ⟨rfl, rfl⟩
  apply heard.trans
  split at h
  · cases h
    exact ⟨rfl, rfl⟩
  obtain ⟨c₁, ackPart, h⟩ := bind_eq_ok.mp h
  obtain ⟨c₂, finPart, h⟩ := bind_eq_ok.mp h
  have acked : (c.noteWindow header.data).SameClocks c₁ := by
    split at ackPart
    · exact handleAck_clocks ackPart
    · cases ackPart
      exact .refl _
  have finished : c₁.SameClocks c₂ := by
    split at finPart
    · exact handleFin_clocks finPart
    · cases finPart
      exact .refl _
  apply (acked.trans finished).trans
  split at h
  · cases h
    exact .refl _
  · obtain ⟨number, -, h⟩ := bind_eq_ok.mp h
    split at h
    · cases h
      exact handleFinAck_clocks c₂
    · cases h
      exact .refl _

/-- **A packet of the client sets the idle clock.**  It does so before the packet is looked at, and
the time of creation stays. -/
theorem sendToNetwork_clocks {packet : Ipv4Packet} {random : UInt32} {overflowChecks : Bool}
    {now : Instant} (h : c.sendToNetwork (.ipv4 packet) random overflowChecks now = .ok c') :
    c'.conn.createdAt = c.conn.createdAt ∧ c'.conn.idleSince = now := by
  obtain ⟨c₁, handled, h⟩ := bind_eq_ok.mp h
  have same : SameClocks { c with conn := c.conn.touch now } c' := by
    apply (handlePacket_clocks handled).trans
    split at h
    · cases h
      exact .refl _
    · exact updateInterests_clocks h
  exact ⟨same.createdAt, same.idleSince⟩

/-! ### Events -/

/-- The end of the connect sets no clock; the time of the handshake goes on. -/
theorem processConnect_clocks {takeError : IoResult (Option IoError)}
    (h : c.processConnect takeError = .ok c') : c.SameClocks c' := by
  unfold processConnect at h
  split at h
  · cases h
  split at h
  · exact replyThen_clocks h fun _ => ⟨rfl, rfl⟩
  all_goals
    obtain ⟨c₁, forged, rest⟩ := bind_eq_ok.mp h
    cases rest
    obtain ⟨created, idle⟩ := reply_clocks forged
    exact ⟨created, idle⟩

/-- A write to the host sets no clock by itself: the event has set it before. -/
theorem processSend_clocks {write : IoResult ℕ} {result : IoResult Unit}
    (h : c.processSend write = .ok (result, c')) : c.SameClocks c' := by
  unfold processSend at h
  split at h
  · rename_i written clientToNetwork _
    split at h
    · have acknowledged : c.SameClocks (c.acknowledge written clientToNetwork) := ⟨rfl, rfl⟩
      apply acknowledged.trans
      simp only at h
      split at h
      · obtain ⟨c₁, handled, rest⟩ := bind_eq_ok.mp h
        cases rest
        exact doHandleFin_clocks handled
      · obtain ⟨c₁, forged, rest⟩ := bind_eq_ok.mp h
        cases rest
        exact reply_clocks forged
    · cases h
      exact ⟨rfl, rfl⟩
  · cases h
    exact .refl _
  · obtain ⟨c₁, forged, rest⟩ := bind_eq_ok.mp h
    cases rest
    obtain ⟨created, idle⟩ := reply_clocks forged
    exact ⟨created, idle⟩

/-- A read from the host sets no clock by itself: the event has set it before. -/
theorem processReceive_clocks {read : IoResult (List UInt8)} {result : IoResult Unit}
    (h : c.processReceive read = .ok (result, c')) : c.SameClocks c' := by
  unfold processReceive at h
  split at h
  · cases h
  split at h
  · cases h
  obtain ⟨primed, -, h⟩ := bind_eq_ok.mp h
  obtain ⟨⟨outcome, packetizer⟩, -, h⟩ := bind_eq_ok.mp h
  have built : c.SameClocks { c with conn := { c.conn with networkToClient := packetizer } } :=
    ⟨rfl, rfl⟩
  apply built.trans
  cases outcome with
  | ok packet =>
      cases packet with
      | some packet =>
          obtain ⟨c₁, sent, rest⟩ := bind_eq_ok.mp h
          cases rest
          obtain ⟨created, idle⟩ := sendDataToClient_clocks sent
          exact ⟨created, idle⟩
      | none =>
          obtain ⟨c₁, ended, rest⟩ := bind_eq_ok.mp h
          cases rest
          obtain ⟨c₂, forged, rest⟩ := bind_eq_ok.mp ended
          cases rest
          obtain ⟨created, idle⟩ := reply_clocks forged
          exact ⟨created, idle⟩
  | error err =>
      cases err with
      | wouldBlock =>
          cases h
          exact .refl _
      | other =>
          obtain ⟨c₁, forged, rest⟩ := bind_eq_ok.mp h
          cases rest
          obtain ⟨created, idle⟩ := reply_clocks forged
          exact ⟨created, idle⟩

/-- The two halves of an event set no clock between them. -/
theorem processReady_clocks {ready : Ready} {answers : SocketAnswers} {result : IoResult Unit}
    (h : c.processReady ready answers = .ok (result, c')) : c.SameClocks c' := by
  have writable {result : IoResult Unit} {c₁ : TcpContext}
      (h : (if ready.isWritable then c.processWritable answers else .ok (.ok (), c)) =
        .ok (result, c₁)) : c.SameClocks c₁ := by
    split at h
    · unfold processWritable at h
      split at h
      · obtain ⟨c₂, connected, rest⟩ := bind_eq_ok.mp h
        cases rest
        exact processConnect_clocks connected
      · exact processSend_clocks h
    · cases h
      exact .refl _
  have readable {result : IoResult Unit} {c₁ c₂ : TcpContext}
      (h : (if c₁.conn.closed = false ∧ ready.isReadable then c₁.processReceive answers.read
        else .ok (.ok (), c₁)) = .ok (result, c₂)) : c₁.SameClocks c₂ := by
    split at h
    · exact processReceive_clocks h
    · cases h
      exact .refl _
  rcases orReturn_eq_ok.mp h with ⟨c₁, sent, h⟩ | ⟨err, c₁, sent, rest⟩
  · rcases orReturn_eq_ok.mp h with ⟨c₂, received, h⟩ | ⟨err, c₂, received, rest⟩
    · obtain ⟨c₃, updated, rest⟩ := bind_eq_ok.mp h
      cases rest
      apply ((writable sent).trans (readable received)).trans
      split at updated
      · cases updated
        exact .refl _
      · exact updateInterests_clocks updated
    · cases rest
      exact (writable sent).trans (readable received)
  · cases rest
    exact writable sent

/-- A hang-up sets no clock behind the one that every event sets. -/
theorem processHup_clocks (h : c.processHup = .ok c') : c.SameClocks c' := by
  obtain ⟨c₁, replied, rest⟩ := bind_eq_ok.mp h
  cases rest
  have answered : c.SameClocks c₁ := by
    split at replied
    · exact reply_clocks replied
    · cases replied
      exact .refl _
  exact answered.trans ⟨rfl, rfl⟩

/-- **An event sets the idle clock of an open connection**, and does nothing to the clocks of a
closed one.  The clock is read once in the event, before either half of it. -/
theorem onReady_clocks {ready : Ready} {answers : SocketAnswers} {now : Instant}
    (h : c.onReady ready answers now = .ok c') :
    c'.conn.createdAt = c.conn.createdAt ∧
      c'.conn.idleSince = if c.conn.closed then c.conn.idleSince else now := by
  obtain ⟨⟨result, c₁⟩, processed, h⟩ := bind_eq_ok.mp h
  have settled : c₁.SameClocks c' := by
    rcases result with err | _
    · cases err with
      | wouldBlock =>
          cases h
          exact .refl _
      | other =>
          cases h
          constructor
          · show (if c₁.conn.closed then c₁ else c₁.close).conn.createdAt = _
            split <;> rfl
          · show (if c₁.conn.closed then c₁ else c₁.close).conn.idleSince = _
            split <;> rfl
    · cases h
      exact .refl _
  unfold process at processed
  split at processed
  · rename_i closed
    cases processed
    rw [if_pos closed]
    exact ⟨settled.createdAt, settled.idleSince⟩
  · rename_i isOpen
    have body {result : IoResult Unit} {c₂ : TcpContext}
        (h : (if ready.isReadable ∨ ready.isWritable then
            processReady { c with conn := c.conn.touch now } ready answers
          else do return (.ok (), ← processHup { c with conn := c.conn.touch now })) =
          .ok (result, c₂)) : SameClocks { c with conn := c.conn.touch now } c₂ := by
      split at h
      · exact processReady_clocks h
      · obtain ⟨c₃, hup, rest⟩ := bind_eq_ok.mp h
        cases rest
        exact processHup_clocks hup
    have touched : SameClocks { c with conn := c.conn.touch now } c₁ := by
      rcases orReturn_eq_ok.mp processed with ⟨c₂, done, rest⟩ | ⟨err, c₂, done, rest⟩
      · cases rest
        obtain ⟨created, idle⟩ := body done
        constructor
        · show (if c₂.conn.closed then c₂.removeFromRouter else c₂).conn.createdAt = _
          split
          · exact created
          · exact created
        · show (if c₂.conn.closed then c₂.removeFromRouter else c₂).conn.idleSince = _
          split
          · exact idle
          · exact idle
      · cases rest
        exact body done
    rw [if_neg isOpen]
    exact ⟨(touched.trans settled).createdAt, (touched.trans settled).idleSince⟩

/-- A connection that expires keeps its clocks, as they were found. -/
theorem expire_clocks (h : c.expire = .ok c') : c.SameClocks c' := by
  unfold expire at h
  split at h
  · exact replyThen_clocks h fun _ => ⟨rfl, rfl⟩
  · cases h
    exact ⟨rfl, rfl⟩

/-- A packet that is delivered sets no clock, so a client that reads slowly does not keep a flow
alive. -/
theorem next_clocks (h : c.next = .ok c') : c.SameClocks c' := by
  unfold next at h
  split at h
  · cases h
  · obtain ⟨created, idle⟩ := updateInterests_clocks h
    exact ⟨created, idle⟩

end TcpContext

/-! ### A closed connection stays closed -/

/-- No atomic step opens a connection again. -/
theorem TcpMove.staysClosed {may : TcpWork → Prop} {c c' : TcpContext} (move : TcpMove may c c')
    (closed : c.conn.closed = true) : c'.conn.closed = true := by
  cases move with
  | interests updated =>
      exact absurd (closed.symm.trans (TcpContext.updateInterests_ok updated).1) nofun
  | forge _ forged => exact (TcpContext.reply_proceeds forged).2.1.trans closed
  | close => rfl
  | connect _ _ forged => exact (TcpContext.reply_proceeds forged).2.1.trans closed
  | receive _ isOpen _ _ _ _ => exact absurd (closed.symm.trans isOpen) nofun
  | eof _ _ ended =>
      obtain ⟨_, forged, rest⟩ := bind_eq_ok.mp ended
      cases rest
      exact (TcpContext.reply_proceeds forged).2.1.trans closed
  | answerFin _ forged => exact (TcpContext.reply_proceeds forged).2.1.trans closed
  | _ => exact closed

/-- No sequence of atomic steps opens a connection again. -/
theorem TcpMoves.staysClosed {may : TcpWork → Prop} {c c' : TcpContext} (moves : TcpMoves may c c')
    (closed : c.conn.closed = true) : c'.conn.closed = true := by
  induction moves with
  | refl => exact closed
  | tail _ last ih => exact last.staysClosed ih

/-- What a packet changes at its beginning leaves the flag of the connection as it is. -/
theorem TcpArrival.closed_eq {packet : Ipv4Packet} {header : TcpHeaderData} {random : UInt32}
    {c c' : TcpContext} (arrival : TcpArrival packet header random c c') :
    c'.conn.closed = c.conn.closed := by
  cases arrival with
  | @expected acked _ _ _ _ ackPart =>
      have same : acked.conn.closed = c.conn.closed := by
        rcases ackPart_ok ackPart with ⟨-, -, same⟩ | ⟨same, -⟩ | ⟨_, _, -, -, same⟩
        · rw [same]
          rfl
        · rw [same]
          rfl
        · rw [same]
          rfl
      split
      · rcases acked.noteFin_ok with ⟨-, noted⟩ | ⟨-, noted⟩
        · rw [noted]
          exact same
        · rw [noted]
          exact same
      · exact same
  | _ => rfl

/-! ### The clocks over a run -/

/-- What `Router::create_connection` makes of the first packet of a flow when the clock
shows `now`. -/
def TcpConnection.FreshAt (conn : TcpConnection) (now : Instant) : Prop :=
  ∃ raw packet id ipv4Header transportHeader selector selector' handle,
    IpPacket.parse raw = .ok (.ok (.ipv4 packet)) ∧
    ConnectionId.fromPacket (.ipv4 packet) = some id ∧
    packet.headers = .ok (ipv4Header, some transportHeader) ∧
    TcpConnection.create selector handle id ipv4Header transportHeader now (.ok ()) =
      .ok (.ok (conn, selector'))

namespace TcpConnection

/-- A fresh connection was made at some time. -/
theorem fresh_iff {conn : TcpConnection} : conn.Fresh ↔ ∃ now, conn.FreshAt now := by
  constructor
  · rintro ⟨raw, packet, id, ipv4Header, transportHeader, selector, selector', handle, now, made⟩
    exact ⟨now, raw, packet, id, ipv4Header, transportHeader, selector, selector', handle, made⟩
  · rintro ⟨now, raw, packet, id, ipv4Header, transportHeader, selector, selector', handle, made⟩
    exact ⟨raw, packet, id, ipv4Header, transportHeader, selector, selector', handle, now, made⟩

/-- Both clocks begin at the time at which the connection is made. -/
theorem FreshAt.clocks {conn : TcpConnection} {now : Instant} (fresh : conn.FreshAt now) :
    conn.createdAt = now ∧ conn.idleSince = now := by
  obtain ⟨_, _, _, _, _, _, _, _, -, -, -, created⟩ := fresh
  obtain ⟨_, _, _, _, -, -, -, -, rfl, -⟩ := create_ok created
  exact ⟨rfl, rfl⟩

/-- The connection of the host is not there yet, or not acknowledged by the client. -/
def InHandshake (conn : TcpConnection) : Prop :=
  conn.tcb.state = .init ∨ conn.tcb.state = .synSent ∨ conn.tcb.state = .synReceived

/-- The timeout of the handshake is measured from the creation, the other one from the last use. -/
theorem isExpired_iff (conn : TcpConnection) (now : Instant) :
    conn.isExpired now = true ↔
      (conn.InHandshake ∧ connectTimeoutSeconds < elapsedSecs now conn.createdAt) ∨
        (¬ conn.InHandshake ∧ idleTimeoutSeconds < elapsedSecs now conn.idleSince) := by
  unfold isExpired InHandshake
  cases conn.tcb.state <;> simp

end TcpConnection

namespace TcpLife

/-- The state a run to `s` starts from. -/
def first (t : List (TcpLife × Label)) (s : TcpLife) : TcpLife := (t.head?.map Prod.fst).getD s

/-- Where a run began does not change when it goes on. -/
theorem first_append (t : List (TcpLife × Label)) (s s' : TcpLife) (l : Label) :
    first (t ++ [(s, l)]) s' = first t s := by
  cases t <;> rfl

/-- The last time that the client or the poller called, `since` if they did not yet. -/
def contact (since : Instant) : TcpLife × Label → Instant
  | (_, .packet _ _ _ now) => now
  | (_, .event _ _ now) => now
  | _ => since

/-- The same, without the events that a closed connection ignores. -/
def heed (since : Instant) : TcpLife × Label → Instant
  | (_, .packet _ _ _ now) => now
  | (s, .event _ _ now) => if s.conn.closed then since else now
  | _ => since

/-- The time of the last packet of the client or readiness event of a connection. -/
def lastContact (created : Instant) (t : List (TcpLife × Label)) : Instant :=
  t.foldl contact created

/-- The time of the last of these that it took notice of. -/
def lastHeeded (created : Instant) (t : List (TcpLife × Label)) : Instant := t.foldl heed created

@[simp] theorem lastContact_append (created : Instant) (t : List (TcpLife × Label))
    (p : TcpLife × Label) : lastContact created (t ++ [p]) = contact (lastContact created t) p := by
  simp [lastContact]

@[simp] theorem lastHeeded_append (created : Instant) (t : List (TcpLife × Label))
    (p : TcpLife × Label) : lastHeeded created (t ++ [p]) = heed (lastHeeded created t) p := by
  simp [lastHeeded]

variable {t : List (TcpLife × Label)} {s s' : TcpLife} {l : Label}

/-- A connection that is closed stays so, in every step. -/
theorem Step.staysClosed (step : Step s l s') (closed : s.conn.closed = true) :
    s'.conn.closed = true := by
  cases step with
  | packet sent =>
      obtain ⟨_, c₁, -, arrived, answers⟩ :=
        @TcpContext.sendToNetwork_moves (fun _ => False) _ _ _ _ _ _ sent
      exact answers.staysClosed (arrived.closed_eq.trans closed)
  | poll => exact closed
  | @event ready answers now client selector _ _ happened =>
      have moves : TcpMoves (fun _ => True) ⟨s.conn, client, selector⟩ _ :=
        TcpContext.onReady_moves (fun _ => trivial) (fun _ => trivial) happened
      exact moves.staysClosed closed
  | @expire client selector _ expired =>
      have moves : TcpMoves (fun _ => False) ⟨s.conn, client, selector⟩ _ :=
        TcpContext.expire_moves expired
      exact moves.staysClosed closed
  | close => rfl
  | @deliver _ client client' selector selector' _ _ _ advanced =>
      have moves : TcpMoves (· = .deliver) ⟨s.conn, client', selector'⟩ _ :=
        TcpContext.next_moves rfl advanced
      exact moves.staysClosed closed

/-- One step sets the idle clock when the connection is called, and no other. -/
theorem Step.clocks (step : Step s l s') :
    s'.conn.createdAt = s.conn.createdAt ∧ s'.conn.idleSince = heed s.conn.idleSince (s, l) := by
  cases step with
  | packet sent => exact TcpContext.sendToNetwork_clocks sent
  | poll => exact ⟨rfl, rfl⟩
  | event _ happened => exact TcpContext.onReady_clocks happened
  | expire expired =>
      obtain ⟨created, idle⟩ := TcpContext.expire_clocks expired
      exact ⟨created, idle⟩
  | close => exact ⟨rfl, rfl⟩
  | deliver _ _ advanced =>
      obtain ⟨created, idle⟩ := TcpContext.next_clocks advanced
      exact ⟨created, idle⟩

/-- **The clocks of a connection**, after any run.  The age is counted from the packet that opened
the connection, and the idle time from the last packet or event of the trace; both are folds over
what happened, with no reference to the fields. -/
theorem run_clocks (run : machine.Run t s) :
    ∃ created, (first t s).conn.FreshAt created ∧ s.conn.createdAt = created ∧
      s.conn.idleSince = lastHeeded created t ∧
      (s.conn.closed = false → lastHeeded created t = lastContact created t) := by
  induction run with
  | start fresh =>
      obtain ⟨created, fresh⟩ := TcpConnection.fresh_iff.mp fresh.1
      obtain ⟨createdAt, idle⟩ := fresh.clocks
      exact ⟨created, fresh, createdAt, idle, fun _ => rfl⟩
  | @step t s s' l run step ih =>
      obtain ⟨created, fresh, createdAt, idle, allHeeded⟩ := ih
      obtain ⟨createdAt', idle'⟩ := step.clocks
      refine ⟨created, ?_, createdAt'.trans createdAt, ?_, fun isOpen => ?_⟩
      · rw [first_append]
        exact fresh
      · rw [idle', idle, lastHeeded_append]
      · have wasOpen : s.conn.closed = false := by
          rw [← Bool.not_eq_true]
          intro closed
          exact absurd ((step.staysClosed closed).symm.trans isOpen) nofun
        rw [lastHeeded_append, lastContact_append, allHeeded wasOpen]
        cases l with
        | event _ _ now => exact if_neg (by simp [wasOpen])
        | _ => rfl

end TcpLife

/-! ## What the reaper does -/

/-- These packets are handed to the channel of the client, in this order.  Routes may
leave the router meanwhile. -/
inductive Client.Hands (client : Client) : List Ipv4Packet → Client → Prop
  | none : Hands client [] client
  | unroute {packets : List Ipv4Packet} {client' : Client} (id : ConnectionId) :
      Hands client packets client' → Hands client packets (client'.removeConnection id)
  | send {packets : List Ipv4Packet} {client₁ client' : Client} {selector selector' : Selector}
      {packet : Ipv4Packet} {sent : IoResult Unit} : Hands client packets client₁ →
      client₁.sendToClient selector packet = .ok (sent, client', selector') →
      Hands client (packets ++ [packet]) client'

theorem Client.Hands.trans {client client₁ client' : Client} {packets packets' : List Ipv4Packet}
    (first : client.Hands packets client₁) (second : client₁.Hands packets' client') :
    client.Hands (packets ++ packets') client' := by
  induction second with
  | none =>
      rw [List.append_nil]
      exact first
  | unroute id _ ih => exact .unroute id ih
  | send _ sent ih =>
      rw [← List.append_assoc]
      exact .send ih sent

/-- What becomes of a connection that expires, and the packets that tell its client. -/
inductive Connection.Reaped : Connection → List Ipv4Packet → Connection → Prop
  /-- A TCP flow in its handshake is reset. -/
  | reset {conn : TcpConnection} {packet : Ipv4Packet} {packetizer : Packetizer} :
      conn.tcb.state = .synSent ∨ conn.tcb.state = .synReceived →
      createEmptyResponsePacket conn.networkToClient conn.tcb flagRst = .ok (packet, packetizer) →
      Reaped (.tcp conn) [packet] (.tcp { conn with
        closed := true
        networkToClient := packetizer
        trace := conn.trace ++ [.forged packet.raw conn.waiting, .closed conn.waiting] })
  | tcp {conn : TcpConnection} : ¬ (conn.tcb.state = .synSent ∨ conn.tcb.state = .synReceived) →
      Reaped (.tcp conn) [] (.tcp { conn with
        closed := true
        trace := conn.trace ++ [.closed conn.waiting] })
  | udp {conn : UdpConnection} : Reaped (.udp conn) [] (.udp { conn with closed := true })
  | ipv6 {conn : Ipv6Connection} : Reaped (.ipv6 conn) [] (.ipv6 { conn with closed := true })

namespace ConnectionContext

variable {c c' : ConnectionContext}

/-- What becomes of any open connection that expires: it is closed, and its client is offered what
its kind says. -/
theorem expire_reaped (isOpen : c.conn.isClosed = false) (h : c.expire = .ok c') :
    ∃ packets, c.conn.Reaped packets c'.conn ∧ c.client.Hands packets c'.client := by
  obtain ⟨conn, client, selector⟩ := c
  cases conn with
  | tcp conn =>
      obtain ⟨c₁, expired, rest⟩ := bind_eq_ok.mp h
      cases rest
      unfold TcpContext.expire at expired
      split at expired
      · rename_i handshake
        obtain ⟨c₂, forged, rest⟩ := bind_eq_ok.mp expired
        cases rest
        obtain ⟨packet, packetizer, sent, created, offered, same⟩ :=
          TcpContext.replyEmptyPacketToClient_ok forged
        refine ⟨[packet], ?_, .send .none offered⟩
        have closed : c₂.close.conn = { conn with
            closed := true
            networkToClient := packetizer
            trace := conn.trace ++ [.forged packet.raw conn.waiting, .closed conn.waiting] } := by
          unfold TcpContext.close
          rw [same]
          simp [TcpConnection.record, TcpConnection.waiting]
        show (Connection.tcp conn).Reaped [packet] (.tcp c₂.close.conn)
        rw [closed]
        exact .reset handshake.2 created
      · rename_i settled
        cases expired
        exact ⟨[], .tcp fun handshake => settled ⟨isOpen, handshake⟩, .none⟩
  | udp conn =>
      cases h
      exact ⟨[], .udp, .none⟩
  | ipv6 conn =>
      cases h
      have closed := Ipv6Context.close_of_open (c := ⟨conn, client, selector⟩) isOpen
      refine ⟨[], ?_, ?_⟩
      · show (Connection.ipv6 conn).Reaped [] (.ipv6 (Ipv6Context.close _).conn)
        rw [closed]
        exact .ipv6
      · show client.Hands [] (Ipv6Context.close _).client
        rw [closed]
        exact .none

/-- The socket of a connection that expires is deregistered. -/
theorem expire_tokens (isOpen : c.conn.isClosed = false) (h : c.expire = .ok c') :
    c'.selector.tokensToRemove = c.selector.tokensToRemove ++ [.connection c.conn.handle] := by
  obtain ⟨proceeds, closed⟩ := expire_proceeds isOpen h
  cases proceeds.lives with
  | stays same _ _ => exact absurd (closed.symm.trans (same.trans isOpen)) nofun
  | ends _ _ tokens _ => exact tokens

end ConnectionContext

namespace Router

/-- The routes that `clean_expired_connections` collects first. -/
def expired (c : ClientContext) (clock : Handle → Instant) : List (ConnectionId × Handle) :=
  c.client.connections.filter fun route =>
    (c.created[route.2]?).any fun conn => conn.isExpired (clock route.2)

/-- The connections of these routes have expired, and the others are as they were. -/
structure Cleaned (c : ClientContext) (routes : List (ConnectionId × Handle)) (c' : ClientContext) :
    Prop where
  connections : c'.client.connections = c.client.connections.filter fun route => route ∉ routes
  /-- Each one is closed once. -/
  tokens : c'.selector.tokensToRemove =
    c.selector.tokensToRemove ++ routes.map fun route => .connection route.2
  others : ∀ handle, handle ∉ routes.map Prod.snd →
    c'.created[handle]? = c.created[handle]? ∧
      c'.selector.registered (.connection handle) = c.selector.registered (.connection handle)
  /-- Each one hands over its own packets. -/
  reaped : ∃ packets : Handle → List Ipv4Packet,
    (∀ route ∈ routes, ∃ conn conn', c.created[route.2]? = some conn ∧ conn.id = route.1 ∧
      c'.created[route.2]? = some conn' ∧ conn.Reaped (packets route.2) conn') ∧
    c.client.Hands (routes.flatMap fun route => packets route.2) c'.client

variable {c c₁ c' : ClientContext} {route : ConnectionId × Handle}
  {routes : List (ConnectionId × Handle)}

/-- Nothing is cleaned where nothing has expired. -/
theorem Cleaned.nil (c : ClientContext) : Cleaned c [] c := by
  refine ⟨?_, ?_, fun _ _ => ⟨rfl, rfl⟩, fun _ => [], nofun, .none⟩
  · simp
  · simp

/-- One more route has expired before the others. -/
theorem Cleaned.cons (first : Cleaned c [route] c₁) (rest : Cleaned c₁ routes c')
    (apart : route.2 ∉ routes.map Prod.snd) : Cleaned c (route :: routes) c' := by
  obtain ⟨packets, reaped, hands⟩ := first.reaped
  obtain ⟨packets', reaped', hands'⟩ := rest.reaped
  have ne {other : ConnectionId × Handle} (mem : other ∈ routes) : other.2 ≠ route.2 := by
    intro same
    exact apart (List.mem_map.mpr ⟨other, mem, same⟩)
  constructor
  · rw [rest.connections, first.connections, List.filter_filter]
    apply List.filter_congr
    intro other _
    rw [← Bool.decide_and, decide_eq_decide, List.mem_singleton, List.mem_cons, not_or]
    exact and_comm
  · rw [rest.tokens, first.tokens, List.append_assoc]
    rfl
  · intro handle none
    rw [List.map_cons, List.mem_cons, not_or] at none
    obtain ⟨created, registered⟩ := first.others handle (by simpa using none.1)
    obtain ⟨created', registered'⟩ := rest.others handle none.2
    exact ⟨created'.trans created, registered'.trans registered⟩
  · refine ⟨Function.update packets' route.2 (packets route.2), ?_, ?_⟩
    · intro other mem
      rcases List.mem_cons.mp mem with rfl | mem
      · obtain ⟨conn, conn', place, same, place', reaped⟩ := reaped other List.mem_cons_self
        rw [Function.update_self]
        exact ⟨conn, conn', place, same, (rest.others _ apart).1.trans place', reaped⟩
      · obtain ⟨conn, conn', place, same, place', reaped⟩ := reaped' other mem
        rw [Function.update_of_ne (ne mem)]
        refine ⟨conn, conn', ?_, same, place', reaped⟩
        rw [← place, (first.others other.2 (by simpa using ne mem)).1]
    · rw [List.flatMap_cons, Function.update_self]
      have kept : (routes.flatMap fun other =>
          Function.update packets' route.2 (packets route.2) other.2) =
          routes.flatMap fun other => packets' other.2 := by
        apply List.flatMap_congr
        intro other mem
        exact Function.update_of_ne (ne mem) _ _
      rw [kept]
      rw [List.flatMap_singleton] at hands
      exact hands.trans hands'

/-- **One expired route.**  Its connection is closed, reset if it has not been established, and
deregistered; the route goes and the other connections stay. -/
theorem expireRoute_cleaned (routed : c.Routed) (mem : route ∈ c.client.connections)
    (h : expireRoute c route = .ok c') : Cleaned c [route] c' := by
  obtain ⟨id, handle⟩ := route
  obtain ⟨conn, place, rfl, isOpen⟩ := (routed.routes id handle).mp mem
  have found : c.connectionOf conn.id = some conn := by
    rw [ClientContext.connectionOf, routed.route_eq mem]
    exact place
  unfold expireRoute at h
  rw [found] at h
  obtain ⟨f, expired, rest⟩ := bind_eq_ok.mp h
  cases rest
  have proceeds := (ConnectionContext.expire_proceeds
    (c := (c.removeConnection conn.id).enter conn) isOpen expired).1
  have here : conn.handle = handle := routed.places _ _ place
  have created : ((c.removeConnection conn.id).leave f).created = c.created.set handle f.conn := by
    show c.created.set f.conn.handle f.conn = _
    rw [show f.conn.handle = handle from proceeds.handle.trans here]
  constructor
  · show f.client.connections = _
    rw [proceeds.client.connections]
    apply List.filter_congr
    rintro ⟨id', handle'⟩ mem'
    simp only [List.mem_singleton, decide_eq_decide, ne_eq, not_iff_not]
    constructor
    · intro same
      rw [Prod.mk.injEq]
      refine ⟨same, ?_⟩
      exact routed.route_unique (show (conn.id, handle') ∈ _ from same ▸ mem') mem
    · exact fun same => congrArg Prod.fst same
  · have tokens := ConnectionContext.expire_tokens
      (c := (c.removeConnection conn.id).enter conn) isOpen expired
    rw [show ((c.removeConnection conn.id).enter conn).conn.handle = handle from here] at tokens
    exact tokens
  · intro other apart
    have ne : other ≠ handle := by simpa using apart
    constructor
    · rw [created, List.getElem?_set_ne ne.symm]
    · exact proceeds.others other (here ▸ ne)
  · obtain ⟨packets, reaped, hands⟩ := ConnectionContext.expire_reaped
      (c := (c.removeConnection conn.id).enter conn) isOpen expired
    refine ⟨fun _ => packets, ?_, ?_⟩
    · intro route mem
      rw [List.mem_singleton.mp mem]
      refine ⟨conn, f.conn, place, rfl, ?_, reaped⟩
      rw [created]
      exact List.getElem?_set_self (List.getElem?_eq_some_iff.mp place).1
    · rw [List.flatMap_singleton]
      exact (Client.Hands.unroute conn.id .none).trans hands

/-- The routes of a router lead to different connections. -/
theorem handles_nodup (routed : c.Routed) : (c.client.connections.map Prod.snd).Nodup := by
  apply List.Nodup.map_on ?_ (List.Nodup.of_map _ routed.unique)
  rintro ⟨id, handle⟩ mem ⟨id', handle'⟩ mem' same
  obtain ⟨conn, place, here, -⟩ := (routed.routes _ _).mp mem
  obtain ⟨conn', place', here', -⟩ := (routed.routes _ _).mp mem'
  change handle = handle' at same
  subst same
  rw [place] at place'
  cases place'
  rw [← here, ← here']

/-- **The collected routes are expired one after the other.**  They are those of different
connections, so that what is done for one of them is not undone or done again for the next. -/
theorem foldlM_cleaned (routed : c.Routed) (known : ∀ route ∈ routes, route ∈ c.client.connections)
    (apart : (routes.map Prod.snd).Nodup) (h : routes.foldlM expireRoute c = .ok c') :
    Cleaned c routes c' := by
  induction routes generalizing c with
  | nil =>
      cases h
      exact .nil c'
  | cons route routes ih =>
      rw [List.foldlM_cons] at h
      obtain ⟨c₁, expired, h⟩ := bind_eq_ok.mp h
      rw [List.map_cons, List.nodup_cons] at apart
      have first := expireRoute_cleaned routed (known route List.mem_cons_self) expired
      have moves : ClientMoves (fun _ => True) True c c₁ := expireRoute_moves trivial routed expired
      refine first.cons (ih (moves.routed routed) ?_ apart.2 h) apart.1
      intro other mem
      rw [first.connections, List.mem_filter]
      refine ⟨known other (List.mem_cons_of_mem _ mem), ?_⟩
      rw [decide_eq_true_iff, List.mem_singleton]
      rintro rfl
      exact apart.1 (List.mem_map_of_mem mem)

/-- What the reaper comes to, when it returns: the expired routes are cleaned, each connection
once. -/
theorem cleanExpiredConnections_cleaned {clock : Handle → Instant} (routed : c.Routed)
    (h : cleanExpiredConnections c clock = .ok c') :
    Cleaned c (expired c clock) c' ∧ ((expired c clock).map Prod.snd).Nodup := by
  have apart : ((expired c clock).map Prod.snd).Nodup :=
    (handles_nodup routed).sublist (List.filter_sublist.map _)
  exact ⟨foldlM_cleaned routed (fun _ mem => List.mem_of_mem_filter mem) apart h, apart⟩

/-! ### The reaper returns -/

/-- Whatever the reaper may find: the sockets of open connections, and of the client, are registered,
and TCP connections have their packetizers. -/
structure Reapable (c : ClientContext) : Prop where
  routed : c.Routed
  noted : c.Noted
  watched : c.Watched
  isOpen : c.client.closed = false

/-- The handlers keep the sockets registered that the reaper will deregister, as long as the client
is open. -/
theorem Reapable.moves {may : ConnectionCall → Prop} {reads : Prop} (reapable : Reapable c)
    (moves : ClientMoves may reads c c') (isOpen : c'.client.closed = false) : Reapable c' where
  routed := moves.routed reapable.routed
  noted := ClientMoves.invariant (fun _ _ routed noted move => move.noted routed noted) reapable.routed
    reapable.noted moves
  watched := ClientMoves.invariant (fun _ _ _ watched move => move.watched watched) reapable.routed
    reapable.watched moves
  isOpen := isOpen

/-- **No connection panics when it expires.**  A reset is built from the headers of the flow and
needs no payload; the client and the socket are registered as long as the connection is open. -/
theorem expireRoute_returns (reapable : Reapable c) (mem : route ∈ c.client.connections)
    (forTcp : ∀ conn, c.created[route.2]? = some (.tcp conn) → conn.networkToClient.ForTcp) :
    ∃ c', expireRoute c route = .ok c' := by
  obtain ⟨id, handle⟩ := route
  obtain ⟨conn, place, rfl, isOpen⟩ := (reapable.routed.routes id handle).mp mem
  have found : c.connectionOf conn.id = some conn := by
    rw [ClientContext.connectionOf, reapable.routed.route_eq mem]
    exact place
  have expires : ∃ f, ((c.removeConnection conn.id).enter conn).expire = .ok f := by
    cases conn with
    | tcp conn =>
        have usable : TcpContext.Usable ⟨conn, c.client.removeConnection conn.id, c.selector⟩ := by
          refine ⟨isOpen, forTcp conn place, ?_, ?_⟩
          · exact ne_of_eq_of_ne (reapable.watched reapable.isOpen) (Option.some_ne_none _)
          · exact ne_of_eq_of_ne (reapable.noted _ _ place isOpen) (Option.some_ne_none _)
        have expired : ∃ f, TcpContext.expire ⟨conn, c.client.removeConnection conn.id, c.selector⟩ =
            .ok f := by
          unfold TcpContext.expire
          split
          · obtain ⟨f, _, _, forged, -⟩ := usable.reply (show flagRst ∈ relayFlags by decide)
            exact ⟨f.close, bind_eq_ok.mpr ⟨f, forged, rfl⟩⟩
          · exact ⟨_, rfl⟩
        obtain ⟨f, expired⟩ := expired
        exact ⟨f.asConnection, bind_eq_ok.mpr ⟨f, expired, rfl⟩⟩
    | udp conn => exact ⟨_, rfl⟩
    | ipv6 conn => exact ⟨_, rfl⟩
  obtain ⟨f, expired⟩ := expires
  refine ⟨(c.removeConnection conn.id).leave f, ?_⟩
  unfold expireRoute
  rw [found]
  exact bind_eq_ok.mpr ⟨f, expired, rfl⟩

/-- The reaper gets through a list of routes, however it is put together from the routes of the
client. -/
theorem foldlM_returns (reapable : Reapable c) (known : ∀ route ∈ routes, route ∈ c.client.connections)
    (apart : (routes.map Prod.snd).Nodup)
    (forTcp : ∀ route ∈ routes, ∀ conn, c.created[route.2]? = some (.tcp conn) →
      conn.networkToClient.ForTcp) : ∃ c', routes.foldlM expireRoute c = .ok c' := by
  induction routes generalizing c with
  | nil => exact ⟨c, rfl⟩
  | cons route routes ih =>
      have mem := known route List.mem_cons_self
      obtain ⟨c₁, expired⟩ := expireRoute_returns reapable mem (forTcp route List.mem_cons_self)
      rw [List.map_cons, List.nodup_cons] at apart
      have first := expireRoute_cleaned reapable.routed mem expired
      have moves : ClientMoves (fun _ => True) True c c₁ := expireRoute_moves trivial reapable.routed expired
      have different {other : ConnectionId × Handle} (there : other ∈ routes) : other.2 ≠ route.2 :=
        fun same => apart.1 (List.mem_map.mpr ⟨other, there, same⟩)
      obtain ⟨c', rest⟩ := @ih c₁
        (reapable.moves moves ((expireRoute_closed reapable.routed expired).trans reapable.isOpen))
        (fun other there => by
          rw [first.connections, List.mem_filter]
          refine ⟨known other (List.mem_cons_of_mem _ there), decide_eq_true fun same => ?_⟩
          rw [List.mem_singleton.mp same] at there
          exact different there rfl)
        apart.2
        (fun other there conn place => by
          rw [(first.others other.2 (by simpa using different there)).1] at place
          exact forTcp other (List.mem_cons_of_mem _ there) conn place)
      exact ⟨c', by rw [List.foldlM_cons]; exact bind_eq_ok.mpr ⟨c₁, expired, rest⟩⟩

end Router

namespace Relay

variable {t : List (Relay × Label)} {s : Relay}

/-- A client that has closed has no route left. -/
theorem run_cleared (run : machine.Run t s) : s.client.closed = true → s.client.connections = [] := by
  refine (run.invariant (fun s => s.Routed ∧ (s.client.closed = true → s.client.connections = [])) ?_ ?_
    (Machine.meets_true t)).2
  · rintro _ ⟨id, rfl⟩
    exact ⟨create_routed id, fun closed => rfl⟩
  · rintro s label s' ⟨routed, cleared⟩ - step
    refine ⟨Step.routed routed step, fun closed => ?_⟩
    cases step with
    | poll _ _ => exact cleared closed
    | handle _ handled => exact Process.dispatch_cleared routed cleared handled closed
    | reap cleaned =>
        have none := cleared ((TunnelServer.cleanExpiredConnections_keeps routed cleaned).2.symm.trans closed)
        unfold Router.cleanExpiredConnections at cleaned
        rw [none] at cleaned
        cases cleaned
        exact none
    | release _ => exact cleared closed
    | rehash perm =>
        rw [cleared closed] at perm
        exact perm.eq_nil

/-- **The reaper returns**, from any state of the relay.  This is what keeps the statement about
the reaper from being empty: whatever the clock says, it ends, and so it has an effect that can be
described. -/
theorem run_reaps (run : machine.Run t s) (clock : Handle → Instant) :
    ∃ c', Router.cleanExpiredConnections s.toClientContext clock = .ok c' := by
  have routed := run_routed run
  cases closed : s.client.closed with
  | true =>
      unfold Router.cleanExpiredConnections
      rw [run_cleared run closed]
      exact ⟨_, rfl⟩
  | false =>
      refine Router.foldlM_returns ⟨routed, run_noted run, run_watched run, closed⟩
        (fun _ mem => List.mem_of_mem_filter mem)
        ((Router.handles_nodup routed).sublist (List.filter_sublist.map _)) fun route _ conn place => ?_
      exact ((run_facing run).faces route.2 (.tcp conn) place).forTcp

end Relay

/-- **Connections expire by their clocks, and the reaper takes those that have.**

In a handshake it is the time since the connection was created that counts, however many
packets and events there were; afterwards it is the time since the last one.  Then, from
any state of the relay, the reaper returns: the expired connections and no others leave the router,
each closed once, and what is handed to the client is one RST for each of them that is an IPv4 TCP flow
in `SynSent` or `SynReceived`. -/
theorem run_expires :
    (∀ t s, TcpLife.machine.Run t s → ∃ created, (TcpLife.first t s).conn.FreshAt created ∧
        (∀ now, s.conn.isExpired now = true ↔
          (s.conn.InHandshake ∧ 10 < elapsedSecs now created) ∨
            (¬ s.conn.InHandshake ∧ 600 < elapsedSecs now (TcpLife.lastHeeded created t))) ∧
        (s.conn.closed = false → TcpLife.lastHeeded created t = TcpLife.lastContact created t) ∧
        ∀ packet packetizer, createEmptyResponsePacket s.conn.networkToClient s.conn.tcb flagRst =
            .ok (packet, packetizer) →
          Segment.ofRaw packet.raw =
            ⟨s.conn.tcb.sequenceNumber, s.conn.tcb.acknowledgementNumber, flagRst, []⟩) ∧
      ∀ t s clock, Relay.machine.Run t s →
        ((Router.expired s.toClientContext clock).map Prod.snd).Nodup ∧
          ∃ c', Router.cleanExpiredConnections s.toClientContext clock = .ok c' ∧
            Router.Cleaned s.toClientContext (Router.expired s.toClientContext clock) c' := by
  constructor
  · intro t s run
    obtain ⟨created, fresh, createdAt, idle, heeded⟩ := TcpLife.run_clocks run
    refine ⟨created, fresh, fun now => ?_, heeded, fun packet packetizer forged => ?_⟩
    · rw [← idle, ← createdAt]
      exact s.conn.isExpired_iff now
    · obtain ⟨packet', packetizer', forged', -, -, -, -, segment⟩ :=
        (TcpLife.run_forTcp run).createEmptyResponsePacket s.conn.tcb
          (show flagRst ∈ relayFlags by decide)
      rw [forged] at forged'
      cases forged'
      exact segment
  · intro t s clock run
    obtain ⟨c', cleaned⟩ := Relay.run_reaps run clock
    obtain ⟨each, apart⟩ := Router.cleanExpiredConnections_cleaned (Relay.run_routed run) cleaned
    exact ⟨apart, c', cleaned, each⟩

/-- The router of a client with one connection, which is open, knows its route and no other. -/
theorem connections_of_only {s : Relay} {conn : Connection} (routed : s.Routed)
    (created : s.created = [conn]) (isOpen : conn.isClosed = false) :
    s.client.connections = [(conn.id, 0)] := by
  refine List.perm_singleton.mp ((List.perm_ext_iff_of_nodup (.of_map _ routed.unique)
    (List.nodup_singleton _)).mpr ?_)
  rintro ⟨id, handle⟩
  rw [routed.routes, List.mem_singleton]
  constructor
  · rintro ⟨conn', place, rfl, -⟩
    obtain ⟨rfl, rfl⟩ := Relay.place_of_only created place
    rfl
  · rintro ⟨⟩
    rw [created]
    exact ⟨conn, rfl, rfl, isOpen⟩

/-- A flow whose host has not answered for eleven seconds is reset, and leaves the router. -/
theorem run_expires_synSent : ∃ t s conn c' packet, Relay.machine.Run t s ∧ s.created = [.tcp conn] ∧
    conn.tcb.state = .synSent ∧ s.client.connections = [(conn.id, 0)] ∧
    Router.cleanExpiredConnections s.toClientContext (fun _ => 11000000000) = .ok c' ∧
    c'.client.connections = [] ∧
    c'.selector.tokensToRemove = s.selector.tokensToRemove ++ [.connection 0] ∧
    s.client.Hands [packet] c'.client ∧
    Segment.ofRaw packet.raw = ⟨conn.tcb.sequenceNumber, conn.tcb.acknowledgementNumber, flagRst, []⟩ := by
  obtain ⟨t₀, s₀, run₀, idle₀, rest₀, identified⟩ := Relay.run_identified 0
  have empty : s₀.created = [] := congrArg ClientContext.created identified
  have unknown : s₀.connectionOf Relay.segmentId = none := by
    rw [identified]
    rfl
  obtain ⟨t, s, p, run, -, -, -, -, created⟩ := Relay.run_syn run₀ idle₀ rest₀ unknown
  rw [empty, List.nil_append] at created
  have only : s.client.connections = [(Relay.segmentId, 0)] :=
    connections_of_only (Relay.run_routed run.run) created rfl
  have late : 10 < elapsedSecs 11000000000 0 := by decide
  have expired : Router.expired s.toClientContext (fun _ => 11000000000) = [(Relay.segmentId, 0)] := by
    rw [Router.expired, only, created]
    exact List.filter_cons_of_pos (decide_eq_true late)
  obtain ⟨-, c', cleaned, each⟩ := run_expires.2 t s (fun _ => 11000000000) run.run
  rw [expired] at each
  obtain ⟨packets, reaped, hands⟩ := each.reaped
  obtain ⟨conn, conn', place, -, -, reaped⟩ := reaped _ List.mem_cons_self
  cases (Relay.place_of_only created place).2
  obtain ⟨life, armed, lives⟩ := Relay.run_life run.run place
  obtain ⟨-, -, -, -, resets⟩ := run_expires.1 life _ lives
  have gone : c'.client.connections = [] := by
    rw [each.connections, only]
    exact List.filter_cons_of_neg (by simp)
  rw [List.flatMap_singleton] at hands
  generalize packets (Relay.segmentId, 0).2 = handed at reaped hands
  cases reaped with
  | @reset _ packet packetizer _ forged =>
      exact ⟨t, s, _, c', packet, run.run, created, rfl, only, cleaned, gone, each.tokens, hands,
        resets packet packetizer forged⟩
  | tcp settled => exact absurd (.inl rfl) settled

end ReverseTether
