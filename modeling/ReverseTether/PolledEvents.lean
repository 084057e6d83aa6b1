import ReverseTether.Registrations
import ReverseTether.SpuriousEvents

/-!
# Polled events

The relay guards its sockets by interests alone: an event is polled within the interest its
socket is registered for, and handled when those before it in the batch are.  So two things
matter.  The first is how a call leaves the interests of a connection.  They are up to date
behind every call but two: the writable half of an event that would block has changed
nothing, and a read that would block leaves what the writable half before it has changed
(`TcpContext.Leaves`, `UdpContext.Leaves`).

The second is what the handlers in between do to the connection (`Relay.Batched`): what
holds of an open connection under an event that is polled holds when it is handled, if no
handler of the client breaks it.

The rules at the end are stated for any property `N` that is noted and any property that an
event expects.  They are used twice, for the readable and for the writable interest, with the
same moves and with different exceptions.
-/

namespace ReverseTether

open Library Relation

/-! ## What a call leaves -/

namespace TcpContext

variable {c c' : TcpContext}

/-- What is registered is what the connection wants. -/
theorem updateInterests_current (h : c.updateInterests = .ok c') :
    c'.conn.interests = c'.conn.wanted := by
  obtain ⟨-, conn, -⟩ := updateInterests_ok h
  rw [conn]
  rfl

/-- Behind a packet the interests are up to date. -/
theorem sendToNetwork_current {packet : Ipv4Packet} {random : UInt32} {overflowChecks : Bool}
    {now : Instant} (h : c.sendToNetwork (.ipv4 packet) random overflowChecks now = .ok c')
    (isOpen : c'.conn.closed = false) : c'.conn.interests = c'.conn.wanted := by
  obtain ⟨c₁, -, h⟩ := bind_eq_ok.mp h
  split at h
  · rename_i closed
    cases h
    exact absurd (isOpen.symm.trans closed) Bool.false_ne_true
  · exact updateInterests_current h

/-- The pull of the client leaves the interests up to date. -/
theorem next_current (h : c.next = .ok c') : c'.conn.interests = c'.conn.wanted := by
  unfold next at h
  split at h
  · cases h
  · exact updateInterests_current h

/-- A writable half fails only on a write that would block. -/
theorem writableHalf_error {ready : Ready} {answers : SocketAnswers} {err : IoError}
    (h : c.writableHalf ready answers = .ok (.error err, c')) :
    err = .wouldBlock ∧ ready.isWritable = true ∧ c' = c := by
  unfold writableHalf at h
  split at h
  · rename_i writable
    unfold processWritable at h
    split at h
    · obtain ⟨c₁, -, rest⟩ := bind_eq_ok.mp h
      cases rest
    · unfold processSend at h
      split at h
      · split at h
        · simp only at h
          split at h
          · obtain ⟨c₁, -, rest⟩ := bind_eq_ok.mp h
            cases rest
          · obtain ⟨c₁, -, rest⟩ := bind_eq_ok.mp h
            cases rest
        · cases h
      · cases h
        exact ⟨rfl, writable, rfl⟩
      · obtain ⟨c₁, -, rest⟩ := bind_eq_ok.mp h
        cases rest
  · cases h

/-- A read fails only where it would block, which finds both assertions true. -/
theorem processReceive_error {read : IoResult (List UInt8)} {err : IoError}
    (h : c.processReceive read = .ok (.error err, c')) :
    err = .wouldBlock ∧ read = .error .wouldBlock ∧ c.conn.packetForClientLength = none ∧
      0 < c.conn.tcb.remainingClientWindow ∧
      ∃ primed, c' = { c with conn := { c.conn with networkToClient := primed } } := by
  unfold processReceive at h
  split at h
  · cases h
  · rename_i idle
    rw [Option.not_isSome_iff_eq_none] at idle
    split at h
    · cases h
    · rename_i window
      rw [not_not] at window
      obtain ⟨primed, -, h⟩ := bind_eq_ok.mp h
      obtain ⟨⟨outcome, packetizer⟩, packetized, h⟩ := bind_eq_ok.mp h
      cases read with
      | error cause =>
          cases packetized
          cases cause with
          | wouldBlock =>
              cases h
              exact ⟨rfl, rfl, idle, window, primed, rfl⟩
          | other =>
              obtain ⟨c₁, -, rest⟩ := bind_eq_ok.mp h
              cases rest
      | ok available =>
          cases outcome with
          | error _ =>
              unfold Packetizer.packetizeRead at packetized
              simp only at packetized
              split at packetized
              · obtain ⟨_, -, rest⟩ := bind_eq_ok.mp packetized
                cases rest
              · cases packetized
          | ok packet =>
              cases packet with
              | none =>
                  obtain ⟨c₁, -, rest⟩ := bind_eq_ok.mp h
                  cases rest
              | some packet =>
                  obtain ⟨c₁, -, rest⟩ := bind_eq_ok.mp h
                  cases rest

/-- How an event leaves a connection that was open: closed, with its interests up to date, or
where one of the two halves would block. -/
inductive Leaves (c : TcpContext) (ready : Ready) (answers : SocketAnswers) : TcpContext → Prop
  | closed {c' : TcpContext} : c'.conn.closed = true → Leaves c ready answers c'
  | current {c' : TcpContext} : c'.conn.interests = c'.conn.wanted → Leaves c ready answers c'
  | sendBlocks : ready.isWritable = true → Leaves c ready answers c
  | receiveBlocks {f : TcpContext} {primed : Packetizer} :
      c.writableHalf ready answers = .ok (.ok (), f) → f.conn.closed = false →
      ready.isReadable = true → answers.read = .error .wouldBlock →
      f.conn.packetForClientLength = none → 0 < f.conn.tcb.remainingClientWindow →
      Leaves c ready answers { f with conn := { f.conn with networkToClient := primed } }

/-- How the two halves of the handler leave an open connection; they report no other error than
that they would block. -/
theorem processReady_leaves {ready : Ready} {answers : SocketAnswers} {result : IoResult Unit}
    (h : c.processReady ready answers = .ok (result, c')) :
    Leaves c ready answers c' ∧ result ≠ .error .other := by
  rcases orReturn_eq_ok.mp h with ⟨f, half, h⟩ | ⟨err, f, half, rest⟩
  · rcases orReturn_eq_ok.mp h with ⟨c₂, received, h⟩ | ⟨err, c₂, received, rest⟩
    · obtain ⟨c₃, updated, rest⟩ := bind_eq_ok.mp h
      cases rest
      refine ⟨?_, by simp⟩
      split at updated
      · rename_i closed
        cases updated
        exact .closed closed
      · exact .current (updateInterests_current updated)
    · cases rest
      split at received
      · rename_i both
        obtain ⟨rfl, blocked, idle, window, primed, rfl⟩ := processReceive_error received
        exact ⟨.receiveBlocks half both.1 both.2 blocked idle window, by simp⟩
      · cases received
  · cases rest
    obtain ⟨rfl, writable, rfl⟩ := writableHalf_error half
    exact ⟨.sendBlocks writable, by simp⟩

/-- **How an event leaves an open connection.** -/
theorem onReady_leaves {ready : Ready} {answers : SocketAnswers} {now : Instant}
    (isOpen : c.conn.closed = false) (h : c.onReady ready answers now = .ok c') :
    Leaves { c with conn := c.conn.touch now } ready answers c' := by
  obtain ⟨⟨result, c₁⟩, processed, h⟩ := bind_eq_ok.mp h
  rw [process, if_neg (by rw [isOpen]; exact Bool.false_ne_true)] at processed
  have body {result : IoResult Unit} {c₂ : TcpContext}
      (h : (if ready.isReadable ∨ ready.isWritable then
          processReady { c with conn := c.conn.touch now } ready answers
        else do return (.ok (), ← processHup { c with conn := c.conn.touch now })) =
          Except.ok (result, c₂)) :
      Leaves { c with conn := c.conn.touch now } ready answers c₂ ∧ result ≠ .error .other := by
    split at h
    · exact processReady_leaves h
    · obtain ⟨c₃, hup, rest⟩ := bind_eq_ok.mp h
      cases rest
      obtain ⟨c₄, -, closed⟩ := bind_eq_ok.mp hup
      cases closed
      exact ⟨.closed rfl, by simp⟩
  rcases orReturn_eq_ok.mp processed with ⟨c₂, done, rest⟩ | ⟨err, c₂, done, rest⟩
  · cases rest
    cases h
    split
    · rename_i closed
      exact .closed closed
    · exact (body done).1
  · cases rest
    obtain ⟨leaves, only⟩ := body done
    cases err with
    | wouldBlock =>
        cases h
        exact leaves
    | other => exact absurd rfl only

end TcpContext

namespace UdpContext

variable {c c' : UdpContext}

/-- The same for a UDP connection. -/
theorem updateInterests_current (h : c.updateInterests = .ok c') :
    c'.conn.interests = c'.conn.wanted := by
  unfold updateInterests at h
  split at h
  · obtain ⟨selector, -, rest⟩ := bind_eq_ok.mp h
    cases rest
    rfl
  · rename_i same
    cases h
    exact not_not.mp same

/-- A packet that is not stored changes nothing. -/
theorem sendToNetwork_current {packet : IpPacket} (h : c.sendToNetwork packet = .ok c') :
    c'.conn.interests = c'.conn.wanted ∨ c' = c := by
  cases packet with
  | ipv6 _ =>
      cases h
      exact .inr rfl
  | ipv4 packet =>
      obtain ⟨payload, -, h⟩ := bind_eq_ok.mp h
      cases payload with
      | none => cases h
      | some payload =>
          obtain ⟨⟨stored, clientToNetwork⟩, -, h⟩ := bind_eq_ok.mp h
          cases stored with
          | ok _ => exact .inl (updateInterests_current h)
          | error _ =>
              cases h
              exact .inr rfl

/-- A read fails only where it would block, and changes nothing there. -/
theorem processReceive_error {source : IoResult (List UInt8)} {err : IoError}
    (h : c.processReceive source = .ok (.error err, c')) :
    err = .wouldBlock ∧ source = .error .wouldBlock ∧ c' = c := by
  obtain ⟨⟨answer, c₁⟩, wasRead, h⟩ := bind_eq_ok.mp h
  obtain ⟨⟨packet, networkToClient⟩, packetized, wasRead⟩ := bind_eq_ok.mp wasRead
  cases source with
  | error cause =>
      cases packetized
      cases wasRead
      cases cause with
      | wouldBlock =>
          cases h
          exact ⟨rfl, rfl, rfl⟩
      | other => cases h
  | ok datagram =>
      obtain ⟨_, -, rest⟩ := bind_eq_ok.mp packetized
      cases rest
      obtain ⟨⟨sent, client, selector⟩, -, rest⟩ := bind_eq_ok.mp wasRead
      cases rest
      cases h

/-- How an event leaves a connection that was open. -/
inductive Leaves (c : UdpContext) (ready : Ready) (answers : SocketAnswers) : UdpContext → Prop
  | closed {c' : UdpContext} : c'.conn.closed = true → Leaves c ready answers c'
  | current {c' : UdpContext} : c'.conn.interests = c'.conn.wanted → Leaves c ready answers c'
  | receiveBlocks {f : UdpContext} :
      c.writableHalf ready answers = .ok f → f.conn.closed = false → ready.isReadable = true →
      answers.read = .error .wouldBlock → Leaves c ready answers f

/-- **How an event leaves an open connection.** -/
theorem onReady_leaves {ready : Ready} {answers : SocketAnswers} {now : Instant}
    (isOpen : c.conn.closed = false) (h : c.onReady ready answers now = .ok c') :
    Leaves { c with conn := c.conn.touch now } ready answers c' := by
  obtain ⟨⟨result, c₁⟩, processed, h⟩ := bind_eq_ok.mp h
  rw [process, if_neg (by rw [isOpen]; exact Bool.false_ne_true)] at processed
  have both {result : IoResult Unit} {c₂ : UdpContext}
      (h : processReady { c with conn := c.conn.touch now } ready answers = .ok (result, c₂)) :
      Leaves { c with conn := c.conn.touch now } ready answers c₂ ∧ result ≠ .error .other := by
    obtain ⟨f, half, h⟩ := bind_eq_ok.mp h
    rcases orReturn_eq_ok.mp h with ⟨c₃, received, h⟩ | ⟨err, c₃, received, rest⟩
    · obtain ⟨c₄, updated, rest⟩ := bind_eq_ok.mp h
      cases rest
      refine ⟨?_, by simp⟩
      split at updated
      · rename_i closed
        cases updated
        exact .closed closed
      · exact .current (updateInterests_current updated)
    · cases rest
      split at received
      · rename_i both
        obtain ⟨rfl, blocked, rfl⟩ := processReceive_error received
        exact ⟨.receiveBlocks half both.1 both.2 blocked, by simp⟩
      · cases received
  have body {result : IoResult Unit} {c₂ : UdpContext}
      (h : (if ready.isReadable ∨ ready.isWritable then
          processReady { c with conn := c.conn.touch now } ready answers
        else .ok (.ok (), close { c with conn := c.conn.touch now })) = Except.ok (result, c₂)) :
      Leaves { c with conn := c.conn.touch now } ready answers c₂ ∧ result ≠ .error .other := by
    split at h
    · exact both h
    · cases h
      exact ⟨.closed rfl, by simp⟩
  rcases orReturn_eq_ok.mp processed with ⟨c₂, done, rest⟩ | ⟨err, c₂, done, rest⟩
  · cases rest
    cases h
    split
    · rename_i closed
      exact .closed closed
    · exact (body done).1
  · cases rest
    obtain ⟨leaves, only⟩ := body done
    cases err with
    | wouldBlock =>
        cases h
        exact leaves
    | other => exact absurd rfl only

end UdpContext

/-! ## What only events take away -/

/-- There is something to do when the socket of the connection is writable. -/
theorem TcpConnection.wanted_isWritable (conn : TcpConnection) : conn.wanted.isWritable = true ↔
    conn.tcb.state = .synSent ∨ conn.clientToNetwork.isEmpty = false := by
  rw [wanted]
  split
  · rename_i synSent
    exact iff_of_true rfl (.inl synSent)
  · rename_i notSynSent
    rw [or_iff_right notSynSent, mayWrite, Bool.not_eq_true']

/-- A UDP connection wants to write exactly while a datagram waits. -/
theorem UdpConnection.wanted_isWritable (conn : UdpConnection) :
    conn.wanted.isWritable = true ↔ conn.clientToNetwork.isEmpty = false := by
  rw [wanted]
  cases conn.clientToNetwork.isEmpty with
  | true => exact iff_of_false Bool.false_ne_true (by simp)
  | false => exact iff_of_true rfl rfl

/-- What a call that is no event leaves of a connection: data and a waiting packet are only
taken and made by events, and the handshake is not gone back on. -/
structure TcpConnection.Keeps (conn conn' : TcpConnection) : Prop where
  outgoing : conn.wanted.isWritable = true → conn'.wanted.isWritable = true
  connected : conn.tcb.state.isConnected = true → conn'.tcb.state.isConnected = true
  idle : conn.packetForClientLength = none → conn'.packetForClientLength = none

namespace TcpConnection.Keeps

variable {conn conn₁ conn' : TcpConnection}

theorem refl (conn : TcpConnection) : conn.Keeps conn := ⟨fun h => h, fun h => h, fun h => h⟩

theorem trans (first : conn.Keeps conn₁) (second : conn₁.Keeps conn') : conn.Keeps conn' where
  outgoing := second.outgoing ∘ first.outgoing
  connected := second.connected ∘ first.connected
  idle := second.idle ∘ first.idle

/-- The data and the state are the same. -/
theorem of_same (queue : conn'.clientToNetwork = conn.clientToNetwork)
    (state : conn'.tcb.state = conn.tcb.state)
    (idle : conn.packetForClientLength = none → conn'.packetForClientLength = none) :
    conn.Keeps conn' where
  outgoing outgoing := by
    rw [wanted_isWritable, queue, state]
    exact (wanted_isWritable conn).mp outgoing
  connected connected := state ▸ connected
  idle := idle

/-- The state moves on among those that are connected. -/
theorem of_connected (queue : conn'.clientToNetwork = conn.clientToNetwork)
    (before : conn.tcb.state.isConnected = true) (after : conn'.tcb.state.isConnected = true)
    (idle : conn'.packetForClientLength = conn.packetForClientLength) : conn.Keeps conn' where
  outgoing outgoing := by
    rw [wanted_isWritable, queue]
    refine .inr (((wanted_isWritable conn).mp outgoing).resolve_left fun synSent => ?_)
    rw [synSent] at before
    exact Bool.false_ne_true before
  connected _ := after
  idle := idle.trans

end TcpConnection.Keeps

/-- A segment that is forged takes nothing away. -/
theorem TcpContext.reply_keeps {c c' : TcpContext} {flags : UInt16}
    (h : c.replyEmptyPacketToClient flags = .ok c') : c.conn.Keeps c'.conn := by
  obtain ⟨packet, packetizer, sent, -, offered, same⟩ := replyEmptyPacketToClient_ok h
  rw [same]
  exact .of_same rfl rfl id

/-- A move that neither reads nor writes takes nothing away. -/
theorem TcpMove.keeps {may : TcpWork → Prop} {c c' : TcpContext} (unread : ¬ may .read)
    (unwritten : ¬ may .write) (move : TcpMove may c c') : c.conn.Keeps c'.conn := by
  cases move with
  | touch now => exact .of_same rfl rfl id
  | interests updated =>
      obtain ⟨-, conn, -⟩ := TcpContext.updateInterests_ok updated
      rw [conn]
      exact .of_same rfl rfl id
  | prime allowed _ _ => exact absurd allowed unread
  | forge _ forged => exact TcpContext.reply_keeps forged
  | close => exact .of_same rfl rfl id
  | removeFromRouter => exact .refl _
  | connect allowed _ _ => exact absurd allowed unwritten
  | write allowed _ _ _ _ => exact absurd allowed unwritten
  | writeLast allowed _ _ _ _ _ => exact absurd allowed unwritten
  | receive allowed _ _ _ _ _ => exact absurd allowed unread
  | eof allowed _ _ => exact absurd allowed unread
  | answerFin established forged =>
      obtain ⟨packet, packetizer, sent, -, offered, same⟩ :=
        TcpContext.replyEmptyPacketToClient_ok forged
      rw [TcpContext.conn_countSentFin, same]
      exact .of_connected rfl (by rw [established]; rfl) rfl rfl
  | closing finWait1 => exact .of_connected rfl (by rw [finWait1]; rfl) rfl rfl
  | finAcked finWait1 => exact .of_connected rfl (by rw [finWait1]; rfl) rfl rfl
  | deliver _ _ => exact .of_same rfl rfl fun _ => rfl

/-- The same for a sequence of moves. -/
theorem TcpMoves.keeps {may : TcpWork → Prop} {c c' : TcpContext} (unread : ¬ may .read)
    (unwritten : ¬ may .write) (moves : TcpMoves may c c') : c.conn.Keeps c'.conn := by
  induction moves with
  | refl => exact .refl _
  | tail _ move ih => exact ih.trans (move.keeps unread unwritten)

/-- A packet of the client only adds data. -/
theorem TcpArrival.keeps {packet : Ipv4Packet} {header : TcpHeaderData} {random : UInt32}
    {c c' : TcpContext} (arrival : TcpArrival packet header random c c') :
    c.conn.Keeps c'.conn := by
  cases arrival with
  | opened init _ =>
      refine ⟨fun outgoing => ?_, fun connected => ?_, id⟩
      · exact (TcpConnection.wanted_isWritable _).mpr (.inl rfl)
      · rw [init] at connected
        exact absurd connected Bool.false_ne_true
  | @expected acked _ _ _ _ ackPart =>
      have answered : c.conn.Keeps acked.conn := by
        rcases ackPart_ok ackPart with ⟨synReceived, -, same⟩ | ⟨same, -⟩ |
          ⟨payload, clientToNetwork, -, stored, same⟩
        · rw [same]
          refine ⟨fun outgoing => ?_, fun _ => rfl, id⟩
          refine (TcpConnection.wanted_isWritable _).mpr (.inr ?_)
          refine ((TcpConnection.wanted_isWritable _).mp outgoing).resolve_left fun synSent => ?_
          cases synReceived.symm.trans synSent
        · rw [same]
          exact .of_same rfl rfl id
        · rw [same]
          refine ⟨fun outgoing => ?_, id, id⟩
          refine (TcpConnection.wanted_isWritable _).mpr
            (((TcpConnection.wanted_isWritable _).mp outgoing).imp_right fun nonempty => ?_)
          rw [StreamBuffer.isEmpty_eq_false_iff] at nonempty ⊢
          show clientToNetwork.contents ≠ []
          rw [StreamBuffer.contents_readFrom stored]
          exact List.append_ne_nil_of_left_ne_nil nonempty payload
      refine answered.trans ?_
      split
      · rcases acked.noteFin_ok with ⟨-, same⟩ | ⟨-, same⟩
        · rw [same]
          exact .of_same rfl rfl id
        · rw [same]
          exact .of_same rfl rfl id
      · exact .refl _
  | _ => exact .of_same rfl rfl id

/-- The call comes from the poller, and not from a packet of the client or from the reaper. -/
def ConnectionCall.IsEvent : ConnectionCall → Prop
  | .event _ _ _ => True
  | _ => False

theorem ConnectionCall.packet_quiet (packet : IpPacket) (answers : PacketAnswers) :
    ¬ (ConnectionCall.packet packet answers).IsEvent := fun event => event

/-- **Only an event takes data away**: no packet of the client does, nor the reaper.  It stays
connected if it was, and no packet comes to wait.  This is what an event finds of the state that it
was polled for. -/
theorem TcpContext.Returns.keeps {c c' : TcpContext} {call : ConnectionCall}
    (quiet : ¬ call.IsEvent) (returns : c.Returns call c') : c.conn.Keeps c'.conn := by
  obtain ⟨c₁, hears, moves⟩ := returns.moves
  have heard : c.conn.Keeps c₁.conn := by
    cases hears with
    | nothing => exact .refl _
    | packet _ arrival =>
        refine .trans ?_ arrival.keeps
        exact .of_same rfl rfl id
  refine heard.trans (moves.keeps ?_ ?_)
  · cases call with
    | event _ _ _ => exact absurd trivial quiet
    | _ => exact id
  · cases call with
    | event _ _ _ => exact absurd trivial quiet
    | _ => exact id

/-- The interest that `update_interests` computes. -/
def Connection.wanted : Connection → Ready
  | .tcp conn => conn.wanted
  | .udp conn => conn.wanted
  | .ipv6 _ => .readable

/-- What a call that is no event leaves of a connection. -/
def Connection.Keeps : Connection → Connection → Prop
  | .tcp conn, .tcp conn' => conn.Keeps conn'
  | .udp _, .udp _ => True
  | .ipv6 _, .ipv6 _ => True
  | _, _ => False

namespace Connection.Keeps

variable {conn conn₁ conn' : Connection}

theorem refl (conn : Connection) : conn.Keeps conn := by
  cases conn with
  | tcp conn => exact TcpConnection.Keeps.refl conn
  | udp _ => trivial
  | ipv6 _ => trivial

theorem trans (first : conn.Keeps conn₁) (second : conn₁.Keeps conn') : conn.Keeps conn' := by
  cases conn₁ with
  | tcp _ =>
      cases conn with
      | tcp _ =>
          cases conn' with
          | tcp _ => exact TcpConnection.Keeps.trans first second
          | udp _ => exact second.elim
          | ipv6 _ => exact second.elim
      | udp _ => exact first.elim
      | ipv6 _ => exact first.elim
  | udp _ =>
      cases conn with
      | tcp _ => exact first.elim
      | udp _ =>
          cases conn' with
          | tcp _ => exact second.elim
          | udp _ => trivial
          | ipv6 _ => exact second.elim
      | ipv6 _ => exact first.elim
  | ipv6 _ =>
      cases conn with
      | tcp _ => exact first.elim
      | udp _ => exact first.elim
      | ipv6 _ =>
          cases conn' with
          | tcp _ => exact second.elim
          | udp _ => exact second.elim
          | ipv6 _ => trivial

end Connection.Keeps

/-- The same for a connection of either kind. -/
theorem ConnectionContext.Executes.keeps {c f : ConnectionContext} {call : ConnectionCall}
    (quiet : ¬ call.IsEvent) (executes : c.Executes call f) : c.conn.Keeps f.conn := by
  obtain ⟨conn, client, selector⟩ := c
  have returns := executes.returns
  cases conn with
  | tcp conn =>
      obtain ⟨connections, c', returns, same⟩ := returns.tcp
      rw [same.conn]
      exact returns.keeps quiet
  | udp conn =>
      obtain ⟨connections, c', returns, same⟩ := returns.udp
      rw [same.conn]
      trivial
  | ipv6 conn =>
      obtain ⟨connections, c', returns, same⟩ := returns.ipv6
      rw [same.conn]
      trivial

/-- A connection that expires is closed. -/
theorem ConnectionContext.Executes.expires {c f : ConnectionContext} (isOpen : c.conn.isClosed = false)
    (executes : c.Executes .expire f) : f.conn.isClosed = true := by
  obtain ⟨connections, f₁, expired, rfl⟩ := executes.returns
  exact (ConnectionContext.expire_proceeds (c := c.withRoutes connections) isOpen expired).2

/-- What an event of the client causes are packets and pulls, and no events of connections. -/
theorem ClientContext.Causes.quiet {c : ClientContext} {ready : Ready} {answers : EventAnswers}
    {call : ConnectionCall} (caused : c.Causes ready answers call) : ¬ call.IsEvent := by
  cases caused with
  | close => exact fun event => event
  | next => exact fun event => event
  | packet _ => exact fun event => event

/-- **Behind a call that is no event** the interests of a connection are up to date, or it is as it
was.  A packet that is ignored returns before the update, and then nothing has changed that the
interests depend on. -/
theorem ConnectionContext.Executes.quiet_current {c f : ConnectionContext} {call : ConnectionCall}
    (quiet : ¬ call.IsEvent) (wasOpen : c.conn.isClosed = false) (executes : c.Executes call f)
    (isOpen : f.conn.isClosed = false) :
    f.conn.interests = f.conn.wanted ∨ f.conn = c.conn := by
  obtain ⟨conn, client, selector⟩ := c
  have returns := executes.returns
  cases conn with
  | tcp conn =>
      obtain ⟨connections, c', returns, same⟩ := returns.tcp
      rw [same.conn] at isOpen ⊢
      cases call with
      | packet packet answers =>
          cases packet with
          | ipv4 packet => exact .inl (TcpContext.sendToNetwork_current returns isOpen)
          | ipv6 packet =>
              cases returns
              exact .inr rfl
      | event ready answers now => exact absurd trivial quiet
      | close =>
          cases returns
          cases isOpen
      | expire =>
          rw [← same.conn] at isOpen
          exact absurd (isOpen.symm.trans (executes.expires wasOpen)) Bool.false_ne_true
      | next => exact .inl (TcpContext.next_current returns)
  | udp conn =>
      obtain ⟨connections, c', returns, same⟩ := returns.udp
      rw [same.conn] at isOpen ⊢
      cases call with
      | packet packet answers =>
          rcases UdpContext.sendToNetwork_current returns with current | rfl
          · exact .inl current
          · exact .inr rfl
      | event ready answers now => exact absurd trivial quiet
      | close =>
          cases returns
          cases isOpen
      | expire =>
          cases returns
          cases isOpen
      | next => exact returns.elim
  | ipv6 conn =>
      obtain ⟨connections, c', returns, same⟩ := returns.ipv6
      rw [same.conn]
      exact .inl rfl

/-- A flow that is opened has its interests up to date behind the first packet. -/
theorem Router.opened_current {c : ClientContext} {id : ConnectionId} {packet : IpPacket}
    {answers : PacketAnswers} {conn : Connection} {selector : Selector} {f : ConnectionContext}
    (created : createConnection c id packet answers = .ok (.ok (conn, selector)))
    (executes : ((insert c id conn selector).enter conn).Executes (.packet packet answers) f)
    (isOpen : f.conn.isClosed = false) : f.conn.interests = f.conn.wanted := by
  have before := (createConnection_ok created).2.2.1
  have quiet := ConnectionCall.packet_quiet packet answers
  cases createConnection_creates created with
  | @tcp packet _ _ conn _ _ _ made =>
      -- the first packet is one of IPv4, which is not left alone
      obtain ⟨connections, c', returns, same⟩ := ConnectionContext.Returns.tcp executes.returns
      rw [same.conn] at isOpen ⊢
      exact TcpContext.sendToNetwork_current returns isOpen
  | udp _ _ made =>
      rcases executes.quiet_current quiet before isOpen with current | same
      · exact current
      · rw [same]
        obtain ⟨packetizer, -, rest⟩ := bind_eq_ok.mp made
        cases rest
        rfl
  | ipv6 _ =>
      rcases executes.quiet_current quiet before isOpen with current | same
      · exact current
      · rw [same]
        rfl

/-! ## Connections while handlers run -/

section Moves

variable {may : ConnectionCall → Prop} {reads : Prop} {c c' : ClientContext}

/-- **The rule for one connection.**  It is related to what it becomes, by a relation that holds
behind each call.  The relation says what is known of a connection after any number of calls; the
moves of the other connections leave it alone. -/
theorem ClientMoves.relates {R : Connection → Connection → Prop} (refl : ∀ conn, R conn conn)
    (trans : ∀ conn conn₁ conn', R conn conn₁ → R conn₁ conn' → R conn conn')
    (calls : ∀ (c f : ConnectionContext) call, may call → c.conn.isClosed = false →
      c.Executes call f → R c.conn f.conn)
    (routed : c.Routed) (moves : ClientMoves may reads c c') {handle : Handle} {conn : Connection}
    (place : c.created[handle]? = some conn) :
    ∃ conn', c'.created[handle]? = some conn' ∧ R conn conn' := by
  refine ClientMoves.invariant (P := fun c => ∃ conn', c.created[handle]? = some conn' ∧
    R conn conn') ?_ routed ⟨conn, place, refl conn⟩ moves
  rintro c c' routed ⟨conn₁, place₁, related⟩ move
  have inside := (List.getElem?_eq_some_iff.mp place₁).1
  cases move with
  | @acts other conn₂ call f place₂ isOpen allowed executes =>
      rw [routed.leave_created place₂ executes.toActs]
      by_cases eq : other = handle
      · subst eq
        cases place₁.symm.trans place₂
        exact ⟨f.conn, List.getElem?_set_self inside,
          trans _ _ _ related (calls _ _ _ allowed isOpen executes)⟩
      · exact ⟨conn₁, by rw [List.getElem?_set_ne eq, place₁], related⟩
  | @opens id conn₂ selector packet answers f _ _ new created executes =>
      have routed' := Router.insert_routed routed new created
      rw [routed'.leave_created (Router.insert_place _ _ _ _) executes.toActs,
        List.getElem?_set_ne (ne_of_gt inside)]
      exact ⟨conn₁, (List.getElem?_append_left inside).trans place₁, related⟩
  | serves _ _ _ _ => exact ⟨conn₁, place₁, related⟩
  | receives _ _ => exact ⟨conn₁, place₁, related⟩
  | sendsId _ _ => exact ⟨conn₁, place₁, related⟩
  | writes _ _ => exact ⟨conn₁, place₁, related⟩
  | closes => exact ⟨conn₁, place₁, related⟩

/-- **The rule for all connections.**  A property that every call keeps, and that a new connection
has behind its first packet, holds of all connections after any sequence of steps of their client.
-/
theorem ClientMoves.everywhere {P : Connection → Prop}
    (calls : ∀ (c f : ConnectionContext) call, may call → c.conn.isClosed = false → P c.conn →
      c.Executes call f → P f.conn)
    (opens : ∀ (c : ClientContext) id packet answers conn selector f,
      Router.createConnection c id packet answers = .ok (.ok (conn, selector)) →
      ((Router.insert c id conn selector).enter conn).Executes (.packet packet answers) f →
      P f.conn)
    (routed : c.Routed) (moves : ClientMoves may reads c c')
    (holds : ∀ (handle : Handle) conn, c.created[handle]? = some conn → P conn) :
    ∀ (handle : Handle) conn, c'.created[handle]? = some conn → P conn := by
  refine ClientMoves.invariant (P := fun c => ∀ (handle : Handle) conn,
    c.created[handle]? = some conn → P conn) ?_ routed holds moves
  intro c c' routed holds move
  have set {created : List Connection} (holds : ∀ (handle : Handle) conn,
      created[handle]? = some conn → P conn) {other : Handle} {conn₁ : Connection} (new : P conn₁)
      (handle : Handle) (conn : Connection) (place : (created.set other conn₁)[handle]? = some conn) :
      P conn := by
    rw [List.getElem?_set] at place
    split at place
    · split at place
      · cases place
        exact new
      · cases place
    · exact holds _ _ place
  cases move with
  | acts place isOpen allowed executes =>
      rw [routed.leave_created place executes.toActs]
      exact set holds (calls _ _ _ allowed isOpen (holds _ _ place) executes)
  | @opens id conn₁ selector packet answers f _ _ new created executes =>
      have routed' := Router.insert_routed routed new created
      rw [routed'.leave_created (Router.insert_place _ _ _ _) executes.toActs]
      have first := opens _ _ _ _ _ _ _ created executes
      intro handle conn place
      have place : ((c.created ++ [conn₁]).set c.created.length f.conn)[handle]? = some conn := place
      rw [List.set_append_right _ _ le_rfl, Nat.sub_self, List.set_cons_zero] at place
      rw [List.getElem?_append] at place
      split at place
      · exact holds _ _ place
      · rw [List.getElem?_singleton] at place
        split at place
        · cases place
          exact first
        · cases place
  | serves _ _ _ _ => exact holds
  | receives _ _ => exact holds
  | sendsId _ _ => exact holds
  | writes _ _ => exact holds
  | closes => exact holds

/-- An event of the client leaves of every connection what calls leave. -/
theorem ClientContext.onReady_keeps {ready : Ready} {answers : EventAnswers} (routed : c.Routed)
    (h : c.onReady ready answers = .ok c') {handle : Handle} {conn : Connection}
    (place : c.created[handle]? = some conn) :
    ∃ conn', c'.created[handle]? = some conn' ∧ conn.Keeps conn' := by
  have moves : ClientMoves (c.Causes ready answers) True c c' :=
    @ClientContext.dispatch_moves _ c c' .client ready answers (fun other => absurd rfl other)
      (fun _ _ caused => caused) routed h
  exact moves.relates Connection.Keeps.refl (fun _ _ _ => Connection.Keeps.trans)
    (fun _ _ _ caused _ executes => executes.keeps caused.quiet) routed place

/-- No socket is registered for a connection that was not created.  Handles are places, and the
next connection gets the first that is free. -/
def ClientContext.Known (c : ClientContext) : Prop :=
  ∀ handle, c.created.length ≤ handle → c.selector.registered (.connection handle) = none

/-- A move registers no socket but that of a connection it creates. -/
theorem ClientMove.known (routed : c.Routed) (known : c.Known) (move : ClientMove may reads c c') :
    c'.Known := by
  have acts {c : ClientContext} (routed : c.Routed) (known : c.Known) {handle : Handle}
      {conn : Connection} {call : ConnectionCall} {f : ConnectionContext}
      (place : c.created[handle]? = some conn) (executes : (c.enter conn).Executes call f) :
      (c.leave f.removeIfClosed).Known := by
    intro other behind
    rw [routed.leave_created place executes.toActs, List.length_set] at behind
    have ne : other ≠ conn.handle := by
      rw [routed.places _ _ place]
      exact (ne_of_lt (lt_of_lt_of_le (List.getElem?_eq_some_iff.mp place).1 behind)).symm
    show f.removeIfClosed.selector.registered (.connection other) = none
    rw [ConnectionContext.removeIfClosed_selector, executes.others other ne]
    exact known other behind
  cases move with
  | acts place _ _ executes => exact acts routed known place executes
  | @opens id conn selector _ _ _ _ _ new created executes =>
      refine acts (Router.insert_routed routed new created) ?_ (Router.insert_place _ _ _ _) executes
      obtain ⟨-, -, -, interest, rfl⟩ := Router.createConnection_ok created
      intro other behind
      have longer : c.created.length < other := by
        have behind : (c.created ++ [conn]).length ≤ other := behind
        rwa [List.length_append, List.length_singleton] at behind
      refine (Selector.registered_register _ _ _ _).trans ?_
      rw [if_neg fun same => (ne_of_gt longer) (Source.connection.inj same)]
      exact known other (le_of_lt longer)
  | serves _ same _ _ =>
      intro other behind
      exact (same.registered _ (by simp)).trans (known other behind)
  | receives _ _ => exact known
  | sendsId _ _ => exact known
  | writes _ _ => exact known
  | closes =>
      intro other behind
      refine (Selector.registered_deregister _ _ _).trans ?_
      rw [if_neg (by simp)]
      exact known other behind

end Moves

/-- The same over whole runs. -/
theorem Relay.run_known {t : List (Relay × Label)} {s : Relay} (run : machine.Run t s) : s.Known := by
  refine (run.invariant (fun s => s.Routed ∧ s.Known) ?_ ?_ (Machine.meets_true t)).2
  · rintro _ ⟨id, rfl⟩
    exact ⟨create_routed id, fun handle _ => rfl⟩
  · rintro s label s' ⟨routed, known⟩ - step
    refine ⟨Step.routed routed step, ?_⟩
    rcases Step.moves routed step with ⟨moves, -⟩ | rfl | ⟨connections, -, rfl⟩
    · exact ClientMoves.invariant (fun _ _ routed known move => move.known routed known) routed
        known moves
    · exact known
    · exact known

namespace Relay

variable {s s' : Relay} {label : Label} {t : List (Relay × Label)}

/-- A socket that is registered is one of a connection that was created, for what an open one
has noted. -/
theorem run_registered (run : machine.Run t s) {handle : Handle} {interest : Ready}
    (registered : s.selector.registered (.connection handle) = some interest) :
    ∃ conn, s.created[handle]? = some conn ∧ (conn.isClosed = false → interest = conn.interests) := by
  have inside : handle < s.created.length := by
    by_contra behind
    have none := run_known run handle (not_lt.mp behind)
    rw [registered] at none
    cases none
  refine ⟨_, List.getElem?_eq_getElem inside, fun isOpen => ?_⟩
  have place := List.getElem?_eq_getElem inside
  have noted := run_noted run handle _ place isOpen
  have noted : s.selector.registered (.connection (s.created[handle]).handle) =
    some (s.created[handle]).interests := noted
  rw [(run_routed run).places _ _ place, registered] at noted
  exact Option.some.inj noted

/-- Each socket has one event in the batch, and an open connection is as its event expects. -/
structure Batched (P : Connection → Ready → Prop) (s : Relay) : Prop where
  once : (s.batch.map Prod.fst).Nodup
  created : ∀ handle ready, (.connection handle, ready) ∈ s.batch → handle < s.created.length
  expected : ∀ (handle : Handle) ready conn, (.connection handle, ready) ∈ s.batch →
    s.created[handle]? = some conn → conn.isClosed = false → P conn ready

/-- A poll gives each socket one event. -/
def PollsOnce : Label → Prop
  | .poll events => (events.map Prod.fst).Nodup
  | _ => True

/-- An event of the client leaves the connections as their events in the batch expect. -/
def SparesBatch (P : Connection → Ready → Prop) (s : Relay) : Label → Prop
  | .handle answers => ∀ ready batch c, s.batch = (.client, ready) :: batch →
      s.onReady ready answers = .ok c →
      ∀ (handle : Handle) ready' conn conn', (.connection handle, ready') ∈ batch →
        s.created[handle]? = some conn → conn.isClosed = false → P conn ready' →
        c.created[handle]? = some conn' → conn'.isClosed = false → P conn' ready'
  | _ => True

/-- **What a step does to the events of the batch.**  A connection is as a polled event
expects; the reaper closes connections or leaves them alone, and an event of a connection
concerns no other. -/
theorem Step.batched {P : Connection → Ready → Prop} (run : machine.Run t s)
    (polled : ∀ (handle : Handle) conn ready, s.created[handle]? = some conn →
      conn.isClosed = false → ready.Within conn.interests → P conn ready)
    (once : PollsOnce label) (spares : SparesBatch P s label) (batched : s.Batched P)
    (step : Step s label s') : s'.Batched P := by
  have routed := run_routed run
  cases step with
  | @poll events idle within =>
      refine ⟨once, fun handle ready mem => ?_, fun handle ready conn mem place isOpen => ?_⟩
      · obtain ⟨interest, registered, -⟩ := within _ mem
        obtain ⟨conn, place, -⟩ := run_registered run registered
        exact (List.getElem?_eq_some_iff.mp place).1
      · obtain ⟨interest, registered, within⟩ := within _ mem
        obtain ⟨conn', place', noted⟩ := run_registered run registered
        cases place.symm.trans place'
        exact polled _ _ _ place isOpen (noted isOpen ▸ within)
  | @reap clock c cleaned =>
      have moves : ClientMoves (· = .expire) False s.toClientContext c :=
        Router.cleanExpiredConnections_moves rfl routed cleaned
      have reaped {handle : Handle} {conn : Connection} (place : s.created[handle]? = some conn) :
          ∃ conn', c.created[handle]? = some conn' ∧ (conn' = conn ∨ conn'.isClosed = true) := by
        refine moves.relates (R := fun conn conn' => conn' = conn ∨ conn'.isClosed = true)
          (fun _ => .inl rfl) ?_ ?_ routed place
        · rintro conn conn₁ conn' first (rfl | closed)
          · exact first
          · exact .inr closed
        · rintro c f _ rfl isOpen executes
          exact .inr (executes.expires isOpen)
      refine ⟨batched.once, fun handle ready mem => ?_, fun handle ready conn mem place isOpen => ?_⟩
      · obtain ⟨conn', place', -⟩ :=
          reaped (List.getElem?_eq_getElem (batched.created handle ready mem))
        exact (List.getElem?_eq_some_iff.mp place').1
      · have before := List.getElem?_eq_getElem (batched.created handle ready mem)
        obtain ⟨conn', place', same | closed⟩ := reaped before
        · cases place.symm.trans place'
          rw [← same] at before
          exact batched.expected handle ready conn mem before isOpen
        · cases place.symm.trans place'
          exact absurd (isOpen.symm.trans closed) Bool.false_ne_true
  | @handle source ready batch answers c next handled =>
      have tail : ((source :: batch.map Prod.fst)).Nodup := by
        have once := batched.once
        rwa [next] at once
      rw [List.nodup_cons] at tail
      have mem {event : Source × Ready} (waits : event ∈ batch) : event ∈ s.batch := by
        rw [next]
        exact List.mem_cons_of_mem _ waits
      cases source with
      | client =>
          have moves : ClientMoves (fun _ => True) True s.toClientContext c :=
            ClientContext.dispatch_moves (fun _ => trivial) (fun _ _ _ => trivial) routed handled
          have stays {handle : Handle} {conn : Connection}
              (place : s.created[handle]? = some conn) :
              ∃ conn', c.created[handle]? = some conn' ∧ (conn.isClosed = true → conn' = conn) := by
            refine moves.relates (R := fun conn conn' => conn.isClosed = true → conn' = conn)
              (fun _ _ => rfl) ?_ ?_ routed place
            · intro conn conn₁ conn' first second closed
              have same := first closed
              rw [← same] at closed
              exact (second closed).trans same
            · intro c f call _ isOpen _ closed
              exact absurd (isOpen.symm.trans closed) Bool.false_ne_true
          refine ⟨tail.2, fun handle ready' waits => ?_,
            fun handle ready' conn' waits place' isOpen' => ?_⟩
          · obtain ⟨conn', place', -⟩ :=
              stays (List.getElem?_eq_getElem (batched.created handle ready' (mem waits)))
            exact (List.getElem?_eq_some_iff.mp place').1
          · obtain ⟨conn, before⟩ : ∃ conn, s.created[handle]? = some conn :=
              ⟨_, List.getElem?_eq_getElem (batched.created handle ready' (mem waits))⟩
            obtain ⟨conn₁, place₁, closed⟩ := stays before
            cases place'.symm.trans place₁
            have isOpen : conn.isClosed = false := by
              rw [← Bool.not_eq_true]
              intro wasClosed
              rw [← closed wasClosed, isOpen'] at wasClosed
              exact Bool.false_ne_true wasClosed
            exact spares ready batch c next handled handle ready' _ _ waits before isOpen
              (batched.expected handle ready' _ (mem waits) before isOpen) place' isOpen'
      | connection other =>
          cases place : s.created[other]? with
          | none =>
              simp only [ClientContext.dispatch, place] at handled
              cases handled
          | some conn =>
              have created : ∃ conn', c.created = s.created.set other conn' := by
                rcases ClientContext.dispatch_connection routed place handled with
                  ⟨-, rfl⟩ | ⟨-, f, executes, rfl, -⟩
                · obtain ⟨inside, at_other⟩ := List.getElem?_eq_some_iff.mp place
                  exact ⟨conn, by rw [← at_other, List.set_getElem_self]⟩
                · exact ⟨f.conn, routed.leave_created place executes.toActs⟩
              obtain ⟨conn', created⟩ := created
              refine ⟨tail.2, fun handle ready' waits => ?_,
                fun handle ready' conn₁ waits place₁ isOpen₁ => ?_⟩
              · show handle < c.created.length
                rw [created, List.length_set]
                exact batched.created handle ready' (mem waits)
              · have ne : other ≠ handle := by
                  rintro rfl
                  exact tail.1 (List.mem_map_of_mem waits)
                have place₁ : c.created[handle]? = some conn₁ := place₁
                rw [created, List.getElem?_set_ne ne] at place₁
                exact batched.expected handle ready' conn₁ (mem waits) place₁ isOpen₁
  | release _ => exact ⟨batched.once, batched.created, batched.expected⟩
  | rehash _ => exact ⟨batched.once, batched.created, batched.expected⟩

/-- **What a step leaves noted.**  `N` holds of an open connection whose interests are up to date,
and events have to keep it.  Between events only calls that are no events come to the connection,
and these leave its interests up to date. -/
theorem Step.noted {N : Connection → Prop} {P : Connection → Ready → Prop}
    (current : ∀ conn, conn.interests = conn.wanted → N conn)
    (events : ∀ (handle : Handle) ready batch conn answers f, label = .handle answers →
      s.batch = (.connection handle, ready) :: batch → s.created[handle]? = some conn →
      conn.isClosed = false → N conn → P conn ready →
      (s.enter conn).Executes (.event ready answers.socket answers.now) f →
      f.conn.isClosed = false → N f.conn)
    (routed : s.Routed) (batched : s.Batched P)
    (noted : ∀ (handle : Handle) conn, s.created[handle]? = some conn → conn.isClosed = false → N conn)
    (step : Step s label s') :
    ∀ (handle : Handle) conn, s'.created[handle]? = some conn → conn.isClosed = false → N conn := by
  have quiet {may : ConnectionCall → Prop} {reads : Prop} {c : ClientContext}
      (calm : ∀ call, may call → ¬ call.IsEvent)
      (moves : ClientMoves may reads s.toClientContext c) :
      ∀ (handle : Handle) conn, c.created[handle]? = some conn → conn.isClosed = false → N conn := by
    refine moves.everywhere (P := fun conn => conn.isClosed = false → N conn) ?_ ?_ routed noted
    · intro c f call allowed wasOpen noted executes isOpen
      rcases executes.quiet_current (calm _ allowed) wasOpen isOpen with up | same
      · exact current _ up
      · exact same ▸ noted wasOpen
    · intro c id packet answers conn selector f created executes isOpen
      exact current _ (Router.opened_current created executes isOpen)
  cases step with
  | poll _ _ => exact noted
  | @reap clock c cleaned =>
      have moves : ClientMoves (· = .expire) False s.toClientContext c :=
        Router.cleanExpiredConnections_moves rfl routed cleaned
      exact quiet (by rintro _ rfl event; exact event) moves
  | @handle source ready batch answers c next handled =>
      cases source with
      | client =>
          have moves : ClientMoves (s.toClientContext.Causes ready answers) True
              s.toClientContext c :=
            ClientContext.dispatch_moves (fun other => absurd rfl other) (fun _ _ caused => caused)
              routed handled
          exact quiet (fun _ caused => caused.quiet) moves
      | connection other =>
          cases place : s.created[other]? with
          | none =>
              simp only [ClientContext.dispatch, place] at handled
              cases handled
          | some conn =>
              rcases ClientContext.dispatch_connection routed place handled with
                ⟨-, rfl⟩ | ⟨wasOpen, f, executes, rfl, -⟩
              · exact noted
              · have mem : (.connection other, ready) ∈ s.batch := by
                  rw [next]
                  exact List.mem_cons_self
                have after (isOpen : f.conn.isClosed = false) : N f.conn :=
                  events other ready batch conn answers f rfl next place wasOpen
                    (noted _ _ place wasOpen) (batched.expected other ready conn mem place wasOpen)
                    executes isOpen
                intro handle conn₁ place₁ isOpen
                have place₁ : (s.leave f.removeIfClosed).created[handle]? = some conn₁ := place₁
                rw [routed.leave_created place executes.toActs, List.getElem?_set] at place₁
                split at place₁
                · split at place₁
                  · cases place₁
                    exact after isOpen
                  · cases place₁
                · exact noted _ _ place₁ isOpen
  | release _ => exact noted
  | rehash _ => exact noted

/-- **The rule for polled events.**  What is noted of every open connection is kept, and makes
the events that are polled find what they expect, in each run whose steps meet the guard. -/
theorem run_noted_batched {N : Connection → Prop} {P : Connection → Ready → Prop}
    {guard : Relay → Label → Prop} (current : ∀ conn, conn.interests = conn.wanted → N conn)
    (polled : ∀ conn ready, N conn → ready.Within conn.interests → P conn ready)
    (once : ∀ s label, guard s label → PollsOnce label)
    (spares : ∀ s label, s.Routed → guard s label → SparesBatch P s label)
    (events : ∀ (s : Relay) (handle : Handle) ready batch conn answers f, guard s (.handle answers) →
      s.batch = (.connection handle, ready) :: batch → s.created[handle]? = some conn →
      conn.isClosed = false → N conn → P conn ready →
      (s.enter conn).Executes (.event ready answers.socket answers.now) f →
      f.conn.isClosed = false → N f.conn)
    (run : machine.Run t s) (met : Machine.Meets guard t) :
    (∀ (handle : Handle) conn, s.created[handle]? = some conn → conn.isClosed = false → N conn) ∧
      s.Batched P := by
  refine (run.invariant (fun s => machine.Reachable s ∧
    (∀ (handle : Handle) conn, s.created[handle]? = some conn → conn.isClosed = false → N conn) ∧
      s.Batched P) ?_ ?_ met).2
  · rintro _ ⟨id, rfl⟩
    refine ⟨⟨[], .start ⟨id, rfl⟩⟩, ?_, List.nodup_nil, ?_, ?_⟩
    · intro handle conn place
      cases place
    · intro handle ready mem
      cases mem
    · intro handle ready conn mem
      cases mem
  · rintro s label s' ⟨⟨t, run⟩, noted, batched⟩ met step
    have routed := run_routed run
    refine ⟨⟨_, run.step step⟩, ?_, ?_⟩
    · refine Step.noted current ?_ routed batched noted step
      rintro handle ready batch conn answers f rfl next
      exact events s handle ready batch conn answers f met next
    · refine Step.batched run ?_ (once _ _ met) (spares _ _ routed met) batched step
      intro handle conn ready place isOpen within
      exact polled conn ready (noted handle conn place isOpen) within

end Relay

end ReverseTether
