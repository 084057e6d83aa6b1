import ReverseTether.Library.Machine
import ReverseTether.TcpConnection

/-!
# What the methods of a TCP connection can do, step by step

Every method of a `TcpConnection` is a sequence of a few kinds of atomic steps,
`TcpMove`.  Only the treatment of a packet begins with a step of its own,
`TcpArrival`, which says everything that depends on the segment.  Each method is
decomposed once; an invariant is then proved once for each kind of step.

A step is atomic when no invariant of the connection holds in the middle of it:
the SYN is forged *and* counted, the end of the stream is found *and* the FIN is
sent.

`TcpWork` is the one parameter: what kind of work may be done, so that the sequence of a
packet can be told from that of an event.  The same list of moves serves every invariant of
the connection, those about its segments, its clocks, its buffers and its flags; a new one
needs a case for each kind of move and nothing for the methods.

The end of the module says what the acknowledgement part of a packet brings: this is the one
helper that depends on the payload.
-/

namespace ReverseTether

open Library Relation

open TcpConnection (updateHeaders createEmptyResponsePacket tcpHeaderOfPacket)

namespace TcpContext

variable {c c' : TcpContext}

/-! ## What each helper returns -/

/-- Acknowledging bytes changes the buffer and the number, and records the segment. -/
theorem conn_acknowledge (c : TcpContext) (written : List UInt8)
    (clientToNetwork : StreamBuffer (4 * maxPacketLength)) :
    (c.acknowledge written clientToNetwork).conn = { c.conn with
      clientToNetwork
      tcb := { c.conn.tcb with acknowledgementNumber :=
        c.conn.tcb.acknowledgementNumber + UInt32.ofNat written.length } }.record
          (.wrote written) := rfl

/-- A FIN of the client counts as one number. -/
theorem conn_countReceivedFin (c : TcpContext) :
    c.countReceivedFin.conn = { c.conn with tcb := { c.conn.tcb with acknowledgementNumber :=
      c.conn.tcb.acknowledgementNumber + 1 } }.record .finHandled := rfl

/-- A FIN of the relay counts as one number, and moves the state. -/
theorem conn_countSentFin (c : TcpContext) (state : TcpState) :
    (c.countSentFin state).conn = { c.conn with tcb := { c.conn.tcb with
      finSequenceNumber := some c.conn.tcb.sequenceNumber
      sequenceNumber := c.conn.tcb.sequenceNumber + 1
      state } } := rfl

/-- The interests are only registered for an open connection, and are the ones it wants. -/
theorem updateInterests_ok (h : c.updateInterests = .ok c') :
    c.conn.closed = false ∧ c'.conn = { c.conn with interests := c.conn.wanted } ∧
      c'.client = c.client ∧ c.selector.SameBut (.connection c.conn.handle) c'.selector ∧
      (c.selector.registered (.connection c.conn.handle) = some c.conn.interests →
        c'.selector.registered (.connection c.conn.handle) = some c.conn.wanted) := by
  unfold updateInterests at h
  split at h
  · cases h
  · rename_i isOpen
    rw [Bool.not_eq_true] at isOpen
    split at h
    · obtain ⟨selector, reregistered, rest⟩ := bind_eq_ok.mp h
      obtain ⟨-, rfl⟩ := Selector.reregister_eq_ok.mp reregistered
      cases rest
      refine ⟨isOpen, rfl, rfl, ⟨fun other ne => ?_, rfl⟩, fun _ => ?_⟩
      · rw [Selector.registered_register, if_neg ne]
      · rw [Selector.registered_register, if_pos rfl]
    · rename_i same
      rw [not_not] at same
      cases h
      refine ⟨isOpen, ?_, rfl, ⟨fun _ _ => rfl, rfl⟩, fun registered => same ▸ registered⟩
      rw [← same]

/-- The forged packet is the only thing the client is offered, and the packetizer
the only thing of the connection that changes. -/
theorem replyEmptyPacketToClient_ok {flags : UInt16}
    (h : c.replyEmptyPacketToClient flags = .ok c') :
    ∃ packet packetizer sent, createEmptyResponsePacket c.conn.networkToClient c.conn.tcb flags =
        .ok (packet, packetizer) ∧
      c.client.sendToClient c.selector packet = .ok (sent, c'.client, c'.selector) ∧
      c'.conn = { c.conn with networkToClient := packetizer }.record
        (.forged packet.raw c.conn.waiting) := by
  obtain ⟨⟨packet, packetizer⟩, created, h⟩ := bind_eq_ok.mp h
  obtain ⟨⟨sent, client, selector⟩, offered, h⟩ := bind_eq_ok.mp h
  cases h
  exact ⟨packet, packetizer, sent, created, offered, rfl⟩

/-- A forged segment is recorded behind what was recorded before. -/
theorem replyEmptyPacketToClient_prefix {flags : UInt16}
    (h : c.replyEmptyPacketToClient flags = .ok c') : c.conn.trace <+: c'.conn.trace := by
  obtain ⟨_, _, _, -, -, same⟩ := replyEmptyPacketToClient_ok h
  rw [same]
  exact List.prefix_append _ _

/-- **A data packet is sent, or it waits.**  If the client takes it, the sequence number goes on by
its payload; if not, its length is kept and it is recorded as rejected. -/
theorem sendDataToClient_ok {packet : Ipv4Packet} (h : c.sendDataToClient packet = .ok c') :
    ∃ sent client selector,
      c.client.sendToClient c.selector packet = .ok (sent, client, selector) ∧
      ((∃ payload, sent = .ok () ∧ packet.payload = .ok (some payload) ∧
          c'.conn = { c.conn with tcb := { c.conn.tcb with
            sequenceNumber := c.conn.tcb.sequenceNumber + UInt32.ofNat payload.length } }.record
              (.handed packet.raw) ∧
          c'.client = client ∧ c'.selector = selector) ∨
        ((∃ err, sent = .error err) ∧
          c'.conn = { c.conn with packetForClientLength := some packet.length }.record
            (.deferred packet.raw) ∧
          c'.client = client.registerPendingPacketSource c.conn.handle ∧
          c'.selector = selector)) := by
  obtain ⟨⟨sent, client, selector⟩, offered, h⟩ := bind_eq_ok.mp h
  refine ⟨sent, client, selector, offered, ?_⟩
  cases sent with
  | ok _ =>
      obtain ⟨payload, carried, h⟩ := bind_eq_ok.mp h
      cases payload with
      | none => cases h
      | some payload =>
          cases h
          exact .inl ⟨payload, rfl, carried, rfl, rfl, rfl⟩
  | error err =>
      cases h
      exact .inr ⟨⟨err, rfl⟩, rfl, rfl, rfl⟩

end TcpContext

/-! ## The steps -/

/-- What only some methods do: the moves that need an event of the socket or a pull of the client.
-/
inductive TcpWork
  /-- Read the host socket. -/
  | read
  /-- Connect the host socket, or write to it. -/
  | write
  /-- Hand over the waiting packet. -/
  | deliver

/-- The atomic steps of a TCP connection.  `may` says which work a method can do, so that a
property can be had of the methods that cannot. -/
inductive TcpMove (may : TcpWork → Prop) : TcpContext → TcpContext → Prop
  | touch (c : TcpContext) (now : Instant) : TcpMove may c { c with conn := c.conn.touch now }
  | interests {c c' : TcpContext} : c.updateInterests = .ok c' → TcpMove may c c'
  /-- The headers of a data packet that is not built after all. -/
  | prime {c : TcpContext} {packetizer : Packetizer} :
      may .read → c.conn.packetForClientLength = none →
      updateHeaders c.conn.networkToClient c.conn.tcb (flagAck ||| flagPsh) = .ok packetizer →
      TcpMove may c { c with conn := { c.conn with networkToClient := packetizer } }
  | forge {c c' : TcpContext} {flags : UInt16} :
      flags = flagAck ∨ flags = flagRst → c.replyEmptyPacketToClient flags = .ok c' →
      TcpMove may c c'
  | close (c : TcpContext) : TcpMove may c c.close
  | removeFromRouter (c : TcpContext) : TcpMove may c c.removeFromRouter
  /-- The socket is connected: the SYN is sent. -/
  | connect {c c' : TcpContext} :
      may .write → c.conn.tcb.state = .synSent →
      (c.withTcb fun tcb => { tcb with state := .synReceived }).replyEmptyPacketToClient
        (flagSyn ||| flagAck) = .ok c' →
      TcpMove may c (c'.withTcb fun tcb => { tcb with sequenceNumber := tcb.sequenceNumber + 1 })
  /-- The socket took bytes, and no FIN waits for them. -/
  | write {c : TcpContext} {write : IoResult ℕ} {written : List UInt8}
      {clientToNetwork : StreamBuffer (4 * maxPacketLength)} :
      may .write → c.conn.tcb.state ≠ .synSent →
      c.conn.clientToNetwork.writeTo write = (.ok written, clientToNetwork) → written ≠ [] →
      ¬ (c.conn.tcb.finReceived ∧ clientToNetwork.isEmpty) →
      TcpMove may c (c.acknowledge written clientToNetwork)
  /-- The socket took the last bytes before the FIN. -/
  | writeLast {c : TcpContext} {write : IoResult ℕ} {written : List UInt8}
      {clientToNetwork : StreamBuffer (4 * maxPacketLength)} :
      may .write → c.conn.tcb.state ≠ .synSent →
      c.conn.clientToNetwork.writeTo write = (.ok written, clientToNetwork) → written ≠ [] →
      c.conn.tcb.finReceived → clientToNetwork.isEmpty →
      TcpMove may c (c.acknowledge written clientToNetwork).countReceivedFin
  /-- Bytes were read from the socket: the packet is handed over, or waits. -/
  | receive {c c' : TcpContext} {primed packetizer : Packetizer} {available : List UInt8}
      {packet : Ipv4Packet} :
      may .read → c.conn.closed = false → c.conn.packetForClientLength = none →
      updateHeaders c.conn.networkToClient c.conn.tcb (flagAck ||| flagPsh) = .ok primed →
      primed.packetizeRead (.ok available) c.receivable = .ok (.ok (some packet), packetizer) →
      ({ c with conn := { c.conn with networkToClient := packetizer } }.record
        (.read (primed.chunk available c.receivable))).sendDataToClient packet = .ok c' →
      TcpMove may c c'
  /-- The socket is at its end: the FIN is sent. -/
  | eof {c c' : TcpContext} :
      may .read → c.conn.packetForClientLength = none → (c.record .readEof).eof = .ok c' →
      TcpMove may c c'
  /-- The FIN that answers the client's. -/
  | answerFin {c c' : TcpContext} :
      c.conn.tcb.state = .established →
      c.replyEmptyPacketToClient (flagFin ||| flagAck) = .ok c' →
      TcpMove may c (c'.countSentFin .lastAck)
  /-- The two FINs have crossed. -/
  | closing {c : TcpContext} :
      c.conn.tcb.state = .finWait1 →
      TcpMove may c (c.withTcb fun tcb => { tcb with state := .closing })
  | finAcked {c : TcpContext} :
      c.conn.tcb.state = .finWait1 →
      TcpMove may c (c.withTcb fun tcb => { tcb with state := .finWait2 })
  /-- The waiting packet was handed to the client. -/
  | deliver {c : TcpContext} {length : UInt16} :
      may .deliver → c.conn.packetForClientLength = some length →
      TcpMove may c ({ c with conn := { c.conn with
        packetForClientLength := none
        tcb := { c.conn.tcb with
          sequenceNumber := c.conn.tcb.sequenceNumber + length.toUInt32 } } }.record
        (.delivered (c.conn.networkToClient.inflate length).raw))

/-- What a method of the connection does, as a sequence of moves, each of which one lemma can be
proved about. -/
abbrev TcpMoves (may : TcpWork → Prop) : TcpContext → TcpContext → Prop := ReflTransGen (TcpMove may)

namespace TcpContext

/-- The FIN of the client is noted, and counted when nothing is before it. -/
def noteFin (c : TcpContext) : TcpContext :=
  let c := c.withTcb fun tcb => { tcb with finReceived := true }
  if c.conn.clientToNetwork.isEmpty then c.countReceivedFin else c

/-- What an expected segment says of the client. -/
def noteWindow (c : TcpContext) (header : TcpHeaderData) : TcpContext :=
  c.withTcb fun tcb => { tcb with
    clientWindow := header.window
    theirAcknowledgementNumber := header.acknowledgementNumber }

end TcpContext

/-- What a FIN changes before it is answered. -/
theorem TcpContext.noteFin_ok (c : TcpContext) :
    (c.conn.clientToNetwork.isEmpty = true ∧
        c.noteFin.conn = { c.conn with tcb := { c.conn.tcb with
          finReceived := true
          acknowledgementNumber := c.conn.tcb.acknowledgementNumber + 1 } }.record .finHandled) ∨
      (c.conn.clientToNetwork.isEmpty = false ∧
        c.noteFin.conn = { c.conn with tcb := { c.conn.tcb with finReceived := true } }) := by
  unfold noteFin
  cases empty : c.conn.clientToNetwork.isEmpty with
  | true => exact .inl ⟨rfl, by simp only [withTcb, empty, if_true]; rfl⟩
  | false => exact .inr ⟨rfl, by simp only [withTcb, empty]; rfl⟩

@[simp] theorem TcpContext.noteFin_interests (c : TcpContext) :
    c.noteFin.conn.interests = c.conn.interests := by
  rcases c.noteFin_ok with ⟨-, same⟩ | ⟨-, same⟩
  · rw [same]
    rfl
  · rw [same]

@[simp] theorem TcpContext.noteFin_state (c : TcpContext) :
    c.noteFin.conn.tcb.state = c.conn.tcb.state := by
  rcases c.noteFin_ok with ⟨-, same⟩ | ⟨-, same⟩
  · rw [same]
    rfl
  · rw [same]

/-- What a packet with this header does before the answers to it. -/
inductive TcpArrival (packet : Ipv4Packet) (header : TcpHeaderData) (random : UInt32)
    (c : TcpContext) : TcpContext → Prop
  | opened : c.conn.tcb.state = .init → header.isSyn = true →
      TcpArrival packet header random c ((c.withTcb fun tcb => { tcb with
        acknowledgementNumber := header.sequenceNumber + 1
        synSequenceNumber := header.sequenceNumber
        sequenceNumber := random
        clientWindow := header.window
        state := .synSent }).record (.opened random))
  /-- The first packet is no SYN. -/
  | refused : c.conn.tcb.state = .init → header.isSyn = false →
      TcpArrival packet header random c (c.withTcb fun tcb => { tcb with
        sequenceNumber := header.acknowledgementNumber })
  /-- Another SYN before the connection is established. -/
  | reopened : c.conn.tcb.state = .synSent → header.isSyn = true →
      TcpArrival packet header random c (c.withTcb fun tcb => { tcb with
        synSequenceNumber := header.sequenceNumber
        acknowledgementNumber := header.sequenceNumber + 1 })
  | lateSyn : c.conn.tcb.state ≠ .init → c.conn.tcb.state ≠ .synSent → header.isSyn = true →
      TcpArrival packet header random c c
  | ignored : c.conn.tcb.state ≠ .init → header.isSyn = false →
      header.sequenceNumber ≠ c.conn.expectedPacket → TcpArrival packet header random c c
  | reset : c.conn.tcb.state ≠ .init → header.isSyn = false →
      header.sequenceNumber = c.conn.expectedPacket → header.isRst = true →
      TcpArrival packet header random c (c.noteWindow header)
  | expected {acked : TcpContext} : c.conn.tcb.state ≠ .init → header.isSyn = false →
      header.sequenceNumber = c.conn.expectedPacket → header.isRst = false →
      (if header.isAck then (c.noteWindow header).handleAck packet
        else .ok (c.noteWindow header)) = .ok acked →
      TcpArrival packet header random c (if header.isFin then acked.noteFin else acked)

namespace TcpContext

variable {may : TcpWork → Prop} {c c' : TcpContext}

/-! ## The decomposition of each method -/

/-- An empty segment with one flag is one move. -/
theorem reply_moves {flags : UInt16} (plain : flags = flagAck ∨ flags = flagRst)
    (h : c.replyEmptyPacketToClient flags = .ok c') : TcpMoves may c c' :=
  .single (.forge plain h)

/-- A RST, and the connection is closed. -/
theorem replyAndClose_moves
    (h : (do let c ← c.replyEmptyPacketToClient flagRst; return c.close) = Except.ok c') :
    TcpMoves may c c' := by
  obtain ⟨c₁, forged, rest⟩ := bind_eq_ok.mp h
  cases rest
  exact (reply_moves (.inr rfl) forged).tail (.close c₁)

/-- The answer to a FIN that has just been counted. -/
theorem doHandleFin_moves (h : c.doHandleFin = .ok c') : TcpMoves may c.countReceivedFin c' := by
  unfold doHandleFin at h
  simp only at h
  split at h
  · rename_i established
    obtain ⟨c₁, forged, rest⟩ := bind_eq_ok.mp h
    cases rest
    exact .single (.answerFin established forged)
  · split at h
    · rename_i finWait1
      obtain ⟨c₁, forged, rest⟩ := bind_eq_ok.mp h
      cases rest
      refine (reply_moves (.inl rfl) forged).tail (.closing ?_)
      obtain ⟨_, _, rest⟩ := bind_eq_ok.mp forged
      obtain ⟨_, _, rest⟩ := bind_eq_ok.mp rest
      cases rest
      exact finWait1
    · split at h
      · obtain ⟨c₁, forged, rest⟩ := bind_eq_ok.mp h
        cases rest
        exact (reply_moves (.inl rfl) forged).tail (.close c₁)
      · cases h
        exact .refl

/-- A FIN, behind the note that it came. -/
theorem handleFin_moves (h : c.handleFin = .ok c') : TcpMoves may c.noteFin c' := by
  unfold handleFin at h
  unfold noteFin
  simp only at h ⊢
  split at h
  · rename_i empty
    rw [if_pos empty]
    exact doHandleFin_moves h
  · rename_i nonempty
    rw [if_neg nonempty]
    cases h
    exact .refl

/-- What an acknowledged FIN of the relay leads to. -/
theorem handleFinAck_moves (c : TcpContext) : TcpMoves may c c.handleFinAck := by
  unfold handleFinAck
  split
  · exact .single (.close c)
  · split
    · rename_i finWait1
      exact .single (.finAcked finWait1)
    · exact .refl

/-- **A packet of the client is an arrival and moves behind it.**  The arrival is what the packet
itself changes; the moves are what the relay answers. -/
theorem handlePacket_moves {packet : Ipv4Packet} {random : UInt32} {overflowChecks : Bool}
    (h : c.handlePacket packet random overflowChecks = .ok c') :
    ∃ header c₁, tcpHeaderOfPacket packet = .ok header ∧
      TcpArrival packet header.data random c c₁ ∧ TcpMoves may c₁ c' := by
  obtain ⟨header, tcp, h⟩ := bind_eq_ok.mp h
  simp only at h
  split at h
  · rename_i first
    obtain ⟨header', tcp', h⟩ := bind_eq_ok.mp h
    rw [tcp] at tcp'
    cases tcp'
    cases syn : header.data.isSyn with
    | true =>
        rw [syn] at h
        cases h
        exact ⟨header, _, tcp, .opened first syn, .refl⟩
    | false =>
        rw [syn] at h
        exact ⟨header, _, tcp, .refused first syn, replyAndClose_moves h⟩
  · rename_i later
    split at h
    · rename_i syn
      obtain ⟨header', tcp', h⟩ := bind_eq_ok.mp h
      rw [tcp] at tcp'
      cases tcp'
      simp only at h
      split at h
      · rename_i synSent
        cases h
        exact ⟨header, _, tcp, .reopened synSent syn, .refl⟩
      · rename_i notSynSent
        refine ⟨header, _, tcp, .lateSyn later notSynSent syn, ?_⟩
        split at h
        · exact replyAndClose_moves h
        · cases h
          exact .refl
    · rename_i syn
      rw [Bool.not_eq_true] at syn
      split at h
      · rename_i unexpected
        cases h
        exact ⟨header, _, tcp, .ignored later syn unexpected, .refl⟩
      · rename_i expected
        rw [not_not] at expected
        split at h
        · rename_i rst
          cases h
          exact ⟨header, _, tcp, .reset later syn expected rst, .single (.close _)⟩
        · rename_i rst
          rw [Bool.not_eq_true] at rst
          obtain ⟨acked, ackPart, h⟩ := bind_eq_ok.mp h
          obtain ⟨c₂, finPart, h⟩ := bind_eq_ok.mp h
          refine ⟨header, _, tcp, .expected later syn expected rst ackPart, ?_⟩
          have fin : TcpMoves may (if header.data.isFin then acked.noteFin else acked) c₂ := by
            split at finPart
            · rename_i isFin
              rw [if_pos isFin]
              exact handleFin_moves finPart
            · rename_i isFin
              rw [if_neg isFin]
              cases finPart
              exact .refl
          refine fin.trans ?_
          split at h
          · cases h
            exact .refl
          · obtain ⟨number, -, h⟩ := bind_eq_ok.mp h
            split at h
            · cases h
              exact handleFinAck_moves c₂
            · cases h
              exact .refl

/-- The same for the call of the router, which touches the connection first and registers the
interests last. -/
theorem sendToNetwork_moves {packet : Ipv4Packet} {random : UInt32} {overflowChecks : Bool}
    {now : Instant} (h : c.sendToNetwork (.ipv4 packet) random overflowChecks now = .ok c') :
    ∃ header c₁, tcpHeaderOfPacket packet = .ok header ∧
      TcpArrival packet header.data random { c with conn := c.conn.touch now } c₁ ∧
      TcpMoves may c₁ c' := by
  obtain ⟨c₂, handled, h⟩ := bind_eq_ok.mp h
  obtain ⟨header, c₁, tcp, arrival, moves⟩ := handlePacket_moves handled
  refine ⟨header, c₁, tcp, arrival, moves.trans ?_⟩
  split at h
  · cases h
    exact .refl
  · exact .single (.interests h)

/-- The socket is connected: the SYN is answered, or a failed connect resets the client. -/
theorem processConnect_moves {takeError : IoResult (Option IoError)} (allowed : may .write)
    (h : c.processConnect takeError = .ok c') : TcpMoves may c c' := by
  unfold processConnect at h
  split at h
  · cases h
  · rename_i synSent
    rw [not_not] at synSent
    split at h
    · exact replyAndClose_moves h
    all_goals
      obtain ⟨c₁, forged, rest⟩ := bind_eq_ok.mp h
      cases rest
      exact .single (.connect allowed synSent forged)

/-- What the client sent is written to the host. -/
theorem processSend_moves {write : IoResult ℕ} {result : IoResult Unit} (allowed : may .write)
    (notSynSent : c.conn.tcb.state ≠ .synSent) (h : c.processSend write = .ok (result, c')) :
    TcpMoves may c c' := by
  unfold processSend at h
  split at h
  · rename_i written clientToNetwork wrote
    split at h
    · rename_i nonempty
      simp only at h
      split at h
      · rename_i last
        obtain ⟨c₁, handled, rest⟩ := bind_eq_ok.mp h
        cases rest
        exact .head (.writeLast allowed notSynSent wrote nonempty last.1 last.2)
          (doHandleFin_moves handled)
      · rename_i notLast
        obtain ⟨c₁, forged, rest⟩ := bind_eq_ok.mp h
        cases rest
        exact .head (.write allowed notSynSent wrote nonempty notLast)
          (reply_moves (.inl rfl) forged)
    · cases h
      exact .single (.close c)
  · cases h
    exact .refl
  · obtain ⟨c₁, forged, rest⟩ := bind_eq_ok.mp h
    cases rest
    exact (reply_moves (.inr rfl) forged).tail (.close c₁)

/-- The host is read, and a packet is built for the client. -/
theorem processReceive_moves {read : IoResult (List UInt8)} {result : IoResult Unit}
    (allowed : may .read) (isOpen : c.conn.closed = false)
    (h : c.processReceive read = .ok (result, c')) : TcpMoves may c c' := by
  unfold processReceive at h
  split at h
  · cases h
  · rename_i idle
    rw [Option.not_isSome_iff_eq_none] at idle
    split at h
    · cases h
    · obtain ⟨primed, updated, h⟩ := bind_eq_ok.mp h
      obtain ⟨⟨outcome, packetizer⟩, packetized, h⟩ := bind_eq_ok.mp h
      have prime := TcpMove.prime allowed idle updated
      cases read with
      | error err =>
          cases packetized
          cases err with
          | wouldBlock =>
              cases h
              exact .single prime
          | other =>
              obtain ⟨c₁, forged, rest⟩ := bind_eq_ok.mp h
              cases rest
              exact .head prime ((reply_moves (.inr rfl) forged).tail (.close c₁))
      | ok available =>
          cases outcome with
          | error err =>
              unfold Packetizer.packetizeRead at packetized
              simp only at packetized
              split at packetized
              · obtain ⟨_, _, rest⟩ := bind_eq_ok.mp packetized
                cases rest
              · cases packetized
          | ok packet =>
              cases packet with
              | none =>
                  obtain ⟨c₁, ended, rest⟩ := bind_eq_ok.mp h
                  cases rest
                  have same : packetizer = primed := by
                    unfold Packetizer.packetizeRead at packetized
                    simp only at packetized
                    split at packetized
                    · obtain ⟨_, _, rest⟩ := bind_eq_ok.mp packetized
                      cases rest
                    · cases packetized
                      rfl
                  rw [same] at ended
                  exact .head prime (.single (.eof allowed idle ended))
              | some packet =>
                  obtain ⟨c₁, sent, rest⟩ := bind_eq_ok.mp h
                  cases rest
                  exact .single (.receive allowed isOpen idle updated packetized sent)

/-- What is ready decides which work the handler may do. -/
theorem processReady_moves {ready : Ready} {answers : SocketAnswers} {result : IoResult Unit}
    (reads : ready.isReadable = true → may .read) (writes : ready.isWritable = true → may .write)
    (h : c.processReady ready answers = .ok (result, c')) : TcpMoves may c c' := by
  have writable {result : IoResult Unit} {c₁ : TcpContext}
      (h : (if ready.isWritable then c.processWritable answers else .ok (.ok (), c)) =
        .ok (result, c₁)) : TcpMoves may c c₁ := by
    split at h
    · rename_i writable
      unfold processWritable at h
      split at h
      · obtain ⟨c₂, connected, rest⟩ := bind_eq_ok.mp h
        cases rest
        exact processConnect_moves (writes writable) connected
      · rename_i notSynSent
        exact processSend_moves (writes writable) notSynSent h
    · cases h
      exact .refl
  have readable {result : IoResult Unit} {c₁ c₂ : TcpContext}
      (h : (if c₁.conn.closed = false ∧ ready.isReadable then c₁.processReceive answers.read
        else .ok (.ok (), c₁)) = .ok (result, c₂)) : TcpMoves may c₁ c₂ := by
    split at h
    · rename_i readable
      exact processReceive_moves (reads readable.2) readable.1 h
    · cases h
      exact .refl
  rcases orReturn_eq_ok.mp h with ⟨c₁, sent, h⟩ | ⟨err, c₁, sent, rest⟩
  · rcases orReturn_eq_ok.mp h with ⟨c₂, received, h⟩ | ⟨err, c₂, received, rest⟩
    · refine ((writable sent).trans (readable received)).trans ?_
      obtain ⟨c₃, updated, rest⟩ := bind_eq_ok.mp h
      cases rest
      split at updated
      · cases updated
        exact .refl
      · exact .single (.interests updated)
    · cases rest
      exact (writable sent).trans (readable received)
  · cases rest
    exact writable sent

/-- A hang-up closes the connection. -/
theorem processHup_moves (h : c.processHup = .ok c') : TcpMoves may c c' := by
  obtain ⟨c₁, replied, rest⟩ := bind_eq_ok.mp h
  cases rest
  refine .tail ?_ (.close c₁)
  split at replied
  · exact reply_moves (.inr rfl) replied
  · cases replied
    exact .refl

/-- The whole handler but for its errors. -/
theorem process_moves {ready : Ready} {answers : SocketAnswers} {now : Instant}
    {result : IoResult Unit} (reads : ready.isReadable = true → may .read)
    (writes : ready.isWritable = true → may .write)
    (h : c.process ready answers now = .ok (result, c')) : TcpMoves may c c' := by
  unfold process at h
  split at h
  · cases h
    exact .refl
  · have body {result : IoResult Unit} {c₁ : TcpContext}
        (h : (if ready.isReadable ∨ ready.isWritable then
            processReady { c with conn := c.conn.touch now } ready answers
          else do return (.ok (), ← processHup { c with conn := c.conn.touch now })) =
          .ok (result, c₁)) : TcpMoves may c c₁ := by
      refine .head (.touch c now) ?_
      split at h
      · exact processReady_moves reads writes h
      · obtain ⟨c₂, hup, rest⟩ := bind_eq_ok.mp h
        cases rest
        exact processHup_moves hup
    rcases orReturn_eq_ok.mp h with ⟨c₁, processed, h⟩ | ⟨err, c₁, processed, rest⟩
    · cases h
      split
      · exact (body processed).tail (.removeFromRouter c₁)
      · exact body processed
    · cases rest
      exact body processed

/-- **An event of the host socket is a sequence of moves**, whatever the socket answers.  An
invariant that each move keeps is kept by the event, and no proof of one opens `on_ready` again. -/
theorem onReady_moves {ready : Ready} {answers : SocketAnswers} {now : Instant}
    (reads : ready.isReadable = true → may .read) (writes : ready.isWritable = true → may .write)
    (h : c.onReady ready answers now = .ok c') : TcpMoves may c c' := by
  obtain ⟨⟨result, c₁⟩, processed, h⟩ := bind_eq_ok.mp h
  refine (process_moves reads writes processed).trans ?_
  cases result with
  | ok _ =>
      cases h
      exact .refl
  | error err =>
      cases err with
      | wouldBlock =>
          cases h
          exact .refl
      | other =>
          cases h
          split
          · exact .single (.removeFromRouter _)
          · exact .tail (.single (.close _)) (.removeFromRouter _)

/-- A connection that expires in its handshake resets the client, and every one that expires is
closed. -/
theorem expire_moves (h : c.expire = .ok c') : TcpMoves may c c' := by
  unfold expire at h
  split at h
  · exact replyAndClose_moves h
  · cases h
    exact .single (.close c)

/-- **The client pulls the waiting packet.**  The bytes are counted now, and the interests are
updated, since the connection may read again. -/
theorem next_moves (allowed : may .deliver) (h : c.next = .ok c') : TcpMoves may c c' := by
  unfold next at h
  split at h
  · cases h
  · rename_i length waiting
    exact .head (.deliver allowed waiting) (.single (.interests h))

end TcpContext

/-! ## What an acknowledgement brings -/

/-- What the client gets is not concerned. -/
theorem TcpContext.handleAck_client {c c' : TcpContext} {packet : Ipv4Packet}
    (h : c.handleAck packet = .ok c') : c'.client = c.client := by
  unfold handleAck at h
  split at h
  · cases h
    rfl
  · obtain ⟨payload, -, h⟩ := bind_eq_ok.mp h
    cases payload with
    | none => cases h
    | some payload =>
        simp only at h
        split at h
        · cases h
          rfl
        · split at h
          · cases h
            rfl
          · obtain ⟨clientToNetwork, -, rest⟩ := bind_eq_ok.mp h
            cases rest
            rfl

/-- **What `handle_ack` can do**: it ends the handshake, it leaves everything as it is when there
is no byte or no room for all of them, or it keeps the bytes. -/
theorem TcpContext.handleAck_ok {c c' : TcpContext} {packet : Ipv4Packet}
    (h : c.handleAck packet = .ok c') :
    (c.conn.tcb.state = .synReceived ∧
      c'.conn = { c.conn with tcb := { c.conn.tcb with state := .established } }) ∨
    (c.conn.tcb.state ≠ .synReceived ∧ ∃ payload, packet.payload = .ok (some payload) ∧
      ((c' = c ∧ (payload = [] ∨ c.conn.clientToNetwork.remaining < payload.length)) ∨
        ∃ clientToNetwork, c.conn.clientToNetwork.readFrom payload = .ok clientToNetwork ∧
          c'.conn = { c.conn with clientToNetwork })) := by
  unfold handleAck at h
  split at h
  · rename_i synReceived
    cases h
    exact .inl ⟨synReceived, rfl⟩
  · rename_i notSynReceived
    obtain ⟨payload, carried, h⟩ := bind_eq_ok.mp h
    cases payload with
    | none => cases h
    | some payload =>
        refine .inr ⟨notSynReceived, payload, carried, ?_⟩
        simp only at h
        split at h
        · rename_i empty
          cases h
          exact .inl ⟨rfl, .inl empty⟩
        · split at h
          · rename_i full
            cases h
            exact .inl ⟨rfl, .inr full⟩
          · obtain ⟨clientToNetwork, stored, h⟩ := bind_eq_ok.mp h
            cases h
            exact .inr ⟨clientToNetwork, stored, rfl⟩

/-- What the acknowledgement part of an expected segment does: the handshake is
completed, or nothing, or the payload is stored. -/
theorem ackPart_ok {c c' : TcpContext} {packet : Ipv4Packet} {header : TcpHeaderData}
    (h : (if header.isAck then (c.noteWindow header).handleAck packet
      else .ok (c.noteWindow header)) = .ok c') :
    (c.conn.tcb.state = .synReceived ∧ header.isAck = true ∧
      c'.conn = { (c.noteWindow header).conn with
        tcb := { (c.noteWindow header).conn.tcb with state := .established } }) ∨
    (c'.conn = (c.noteWindow header).conn ∧ (header.isAck = true →
      c.conn.tcb.state ≠ .synReceived ∧ ∃ payload, packet.payload = .ok (some payload) ∧
        (payload = [] ∨ c.conn.clientToNetwork.remaining < payload.length))) ∨
    ∃ payload clientToNetwork, packet.payload = .ok (some payload) ∧
      c.conn.clientToNetwork.readFrom payload = .ok clientToNetwork ∧
      c'.conn = { (c.noteWindow header).conn with clientToNetwork } := by
  split at h
  · rename_i ack
    rcases TcpContext.handleAck_ok h with ⟨synReceived, same⟩ |
      ⟨notSynReceived, payload, carried, ⟨rfl, dropped⟩ | ⟨clientToNetwork, stored, same⟩⟩
    · exact .inl ⟨synReceived, ack, same⟩
    · exact .inr (.inl ⟨rfl, fun _ => ⟨notSynReceived, payload, carried, dropped⟩⟩)
    · exact .inr (.inr ⟨payload, clientToNetwork, carried, stored, same⟩)
  · rename_i ack
    cases h
    exact .inr (.inl ⟨rfl, fun isAck => absurd isAck ack⟩)

end ReverseTether
