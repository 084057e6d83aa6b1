import ReverseTether.RelayMoves

/-!
# What the handlers of a client and the poll loop do

The handlers of the client and of its connections, and the steps of the loop, are
decomposed into the steps of `ClientMove`.  Which connections a handler calls, and
with which packets, is read off its input (`ClientContext.Causes`): a read brings the
packets of `arrivals` to the router.  Beside that, a hang-up closes a connection of a
kind that listens to it (`ClientContext.dispatch_hup`).

The decomposition is what every invariant of the relay is proved over: a handler is long, with
branches for each answer of a socket, while a move is one change to the client, to one
connection or to the registrations.  `Step.moves` is the end of it, for all the steps of the
loop at once.

The arrivals of a read are defined from the bytes, by the rules of the parser, and not from
the state: so that which connection is called, and with which packet, can be said before the
handler has run.
-/

namespace ReverseTether

open Library Relation

/-- The packet of a verdict, if it is routed. -/
def Verdict.packet? : Verdict → Option IpPacket
  | .routed packet => some packet
  | .dropped _ | .closed _ => none

/-- The packets that a buffer brings to the router. -/
def arrivals (buffer : IpPacketBuffer) : List IpPacket :=
  (packets.decode buffer.peek).items.filterMap Verdict.packet?

/-- A socket refuses the payload of one of the packets that have arrived. -/
def RefusedIn (arrived : List IpPacket) (answers : ℕ → PacketAnswers) : Prop :=
  ∃ k packet, arrived[k]? = some packet ∧ (answers k).Refuse packet

/-- A socket refuses the payload of a packet that the event brings.  It is said by what is in the
input and what the sockets answer, before the event is handled. -/
def ClientContext.Refuses (c : ClientContext) (ready : Ready) (answers : EventAnswers) : Prop :=
  ready.isReadable = true ∧ c.client.closed = false ∧
    RefusedIn (arrivals (c.client.clientToNetwork.readFrom answers.socket.read).2) answers.packets

/-- The packet is the `k`-th that the event brings: the client is open, its socket is read, and
this is what the bytes amount to. -/
def ClientContext.Brings (c : ClientContext) (ready : Ready) (answers : EventAnswers) (k : ℕ)
    (packet : IpPacket) : Prop :=
  ready.isReadable = true ∧ c.client.closed = false ∧
    (arrivals (c.client.clientToNetwork.readFrom answers.socket.read).2)[k]? = some packet

/-- The calls that an event of the client can cause: it closes them all, pulls what waits, or
routes a packet that it read. -/
inductive ClientContext.Causes (c : ClientContext) (ready : Ready) (answers : EventAnswers) :
    ConnectionCall → Prop
  /-- The client is closed. -/
  | close : Causes c ready answers .close
  /-- A pending source is pulled. -/
  | next : Causes c ready answers .next
  | packet {k : ℕ} {packet : IpPacket} : c.Brings ready answers k packet →
      Causes c ready answers (.packet packet (answers.packets k))

theorem ClientContext.Causes.refuses {c : ClientContext} {ready : Ready} {answers : EventAnswers}
    {call : ConnectionCall} (caused : c.Causes ready answers call) (refused : call.Refused) :
    c.Refuses ready answers := by
  obtain ⟨_, _, rfl, refuse⟩ := refused
  cases caused with
  | packet brings => exact ⟨brings.1, brings.2.1, _, _, brings.2.2, refuse⟩

/-- The packet that was pulled is no longer waiting. -/
theorem TcpContext.next_proceeds {c c' : TcpContext} (h : c.next = .ok c') :
    c.conn.closed = false ∧ c'.conn.closed = false ∧ c.Proceeds c' := by
  unfold next at h
  split at h
  · cases h
  · rename_i length _
    obtain ⟨proceeds, isOpen⟩ := updateInterests_proceeds h
    have isOpen₀ := (updateInterests_ok h).1
    refine ⟨isOpen₀, isOpen, .trans ?_ proceeds⟩
    exact .of_conn rfl rfl rfl

namespace ClientContext

variable {may : ConnectionCall → Prop} {reads : Prop} {c c' : ClientContext}

theorem close_moves (closes : may .close) (routed : c.Routed) (h : c.close = .ok c') :
    ClientMoves may reads c c' := by
  unfold close at h
  simp only at h
  split at h
  · cases h
    have move : ClientMove may reads c { c with
        client := { c.client with closed := true }
        selector := (c.selector.deregister .client).2 } := .closes
    exact .head move (Router.clear_moves closes (move.routed routed))
  · cases h

theorem updateInterests_moves (h : c.updateInterests = .ok c') : ClientMoves may reads c c' := by
  obtain ⟨⟨client, selector⟩, updated, rest⟩ := bind_eq_ok.mp h
  cases rest
  obtain ⟨same, stream, appended, selectors, -, kept⟩ := Client.updateInterests_ok updated
  refine .single (.serves ⟨same.id, same.clientToNetwork, same.connections, same.closed,
    same.pendingIdBytes, [], ?_, ?_⟩ selectors (.inl ⟨appended, same.pendingPacketSources⟩) kept)
  · rw [appended, List.append_nil]
  · rw [stream, List.flatten_nil, List.append_nil]

/-! ### Writing -/

theorem sendId_moves {write : IoResult ℕ} {result : IoResult Unit}
    (h : c.sendId write = .ok (result, c')) : ClientMoves may reads c c' := by
  unfold sendId at h
  split at h
  · rename_i must
    cases write with
    | error _ =>
        cases h
        exact .refl
    | ok n =>
        cases h
        exact .single (.sendsId n must)
  · cases h

theorem write_moves {write : IoResult ℕ} (done : c.client.mustSendId = false) :
    ClientMoves may reads c (c.write write).2 := by
  unfold ClientContext.write
  split
  · rename_i taken networkToClient wrote
    exact .single (.writes done wrote)
  · exact .refl

theorem pull_moves (pulls : may .next) {source : Handle} (h : c.pull source = .ok c') :
    ClientMoves may reads c c' := by
  unfold pull at h
  split at h
  · rename_i conn place
    split at h
    · cases h
    · rename_i packet waits
      obtain ⟨⟨sent, client, selector⟩, offered, h⟩ := bind_eq_ok.mp h
      have serves := Client.Serves.of_sendRawToClient offered
      obtain ⟨-, same, kept, kind⟩ := Client.sendRawToClient_ok offered
      have appended : client.appended = c.client.appended ∨
          ∃ (handle : Handle) (conn : TcpConnection) (packet : Ipv4Packet),
            c.created[handle]? = some (.tcp conn) ∧ conn.get = some packet ∧
              client.appended = c.client.appended ++ [packet.raw] := by
        rcases kind with ⟨-, -, -, appended⟩ | ⟨-, -, rfl, -⟩
        · exact .inr ⟨source, conn, packet, place, waits, appended⟩
        · exact .inl rfl
      have sends : ClientMove may reads c { c with client, selector } :=
        .serves serves same (.inr ⟨pulls, appended⟩) kept
      have delivers {f : TcpContext} (next : TcpContext.next ⟨conn, client, selector⟩ = .ok f) :
          ClientMoves may reads c (c.leave f.asConnection) := by
        obtain ⟨isOpen, stays, proceeds⟩ := TcpContext.next_proceeds next
        have left : ({ c with client, selector } : ClientContext).leave
            f.asConnection.removeIfClosed = c.leave f.asConnection := by
          rw [ConnectionContext.removeIfClosed_of_open (c := f.asConnection) stays]
          rfl
        refine .tail (.single sends) (left ▸ ?_)
        exact .acts (c := { c with client, selector }) place isOpen pulls
          (proceeds.executes ⟨conn, f, rfl, next, rfl⟩)
      cases sent with
      | ok _ =>
          obtain ⟨f, next, rest⟩ := bind_eq_ok.mp h
          cases rest
          exact delivers next
      | error err =>
          cases err with
          | wouldBlock =>
              cases h
              exact .single (.serves (serves.trans (.registerPendingPacketSource _ _)) same
                (.inr ⟨pulls, appended⟩) kept)
          | other =>
              obtain ⟨f, next, rest⟩ := bind_eq_ok.mp h
              cases rest
              exact delivers next
  · cases h

theorem processPending_moves (pulls : may .next) (routed : c.Routed)
    (h : c.processPending = .ok c') : ClientMoves may reads c c' := by
  have emptied : ClientMove may reads c
      { c with client := { c.client with pendingPacketSources := [] } } :=
    .serves ⟨rfl, rfl, rfl, rfl, rfl, [], by simp, by simp⟩ ⟨fun _ _ => rfl, rfl⟩
      (.inr ⟨pulls, .inl rfl⟩) id
  exact .head emptied
    (foldlM_moves (fun _ _ _ _ h => pull_moves pulls h) (emptied.routed routed) h)

theorem processSend_moves (closes : may .close) (pulls : may .next) {write : IoResult ℕ}
    {result : IoResult Unit} (routed : c.Routed) (h : c.processSend write = .ok (result, c')) :
    ClientMoves may reads c c' := by
  unfold processSend at h
  split at h
  · obtain ⟨⟨answer, c₁⟩, sent, h⟩ := bind_eq_ok.mp h
    have moves : ClientMoves may reads c c₁ := sendId_moves sent
    cases answer with
    | ok _ =>
        cases h
        exact moves
    | error err =>
        cases err with
        | wouldBlock =>
            cases h
            exact moves
        | other =>
            obtain ⟨c₂, closed, rest⟩ := bind_eq_ok.mp h
            cases rest
            exact moves.trans (close_moves closes (moves.routed routed) closed)
  · rename_i done
    have moves : ClientMoves may reads c (c.write write).2 :=
      write_moves (by rwa [Bool.not_eq_true] at done)
    split at h
    · rename_i c₁ wrote
      rw [wrote] at moves
      obtain ⟨c₂, pulled, rest⟩ := bind_eq_ok.mp h
      cases rest
      exact moves.trans (processPending_moves pulls (moves.routed routed) pulled)
    · rename_i c₁ wrote
      rw [wrote] at moves
      obtain ⟨c₂, closed, rest⟩ := bind_eq_ok.mp h
      cases rest
      exact moves.trans (close_moves closes (moves.routed routed) closed)

/-! ### Reading -/

/-- The verdicts of a read, from the packet that is the `n`-th to be routed. -/
theorem applyVerdicts_moves (closes : may .close) {answers : ℕ → PacketAnswers}
    {verdicts : List Verdict} {n n' : ℕ}
    (sends : ∀ k packet, (verdicts.filterMap Verdict.packet?)[k]? = some packet →
      may (.packet packet (answers (n + k))))
    (routed : c.Routed)
    (h : verdicts.foldlM (applyVerdict (handlers answers)) (n, c) = .ok (n', c')) :
    ClientMoves may reads c c' := by
  induction verdicts generalizing n c with
  | nil =>
      cases h
      exact .refl
  | cons verdict verdicts ih =>
      rw [List.foldlM_cons] at h
      obtain ⟨⟨n₁, c₁⟩, first, h⟩ := bind_eq_ok.mp h
      cases verdict with
      | routed packet =>
          obtain ⟨c₂, sent, rest⟩ := bind_eq_ok.mp first
          cases rest
          rw [List.filterMap_cons_some (show (Verdict.routed packet).packet? = some packet from rfl)]
            at sends
          have moves : ClientMoves may reads c c₁ :=
            Router.sendToNetwork_moves (sends 0 packet rfl) routed sent
          refine moves.trans (ih (fun k packet mem => ?_) (moves.routed routed) h)
          rw [Nat.add_right_comm, Nat.add_assoc]
          exact sends (k + 1) packet mem
      | dropped _ =>
          cases first
          exact ih sends routed h
      | closed _ =>
          obtain ⟨c₂, closed, rest⟩ := bind_eq_ok.mp first
          cases rest
          have moves : ClientMoves may reads c c₁ := close_moves closes routed closed
          exact moves.trans (ih sends (moves.routed routed) h)

theorem pushToNetwork_moves (closes : may .close) {answers : ℕ → PacketAnswers}
    (sends : ∀ k packet, (arrivals c.client.clientToNetwork)[k]? = some packet →
      may (.packet packet (answers k)))
    (routed : c.Routed) (h : c.pushToNetwork answers = .ok c') : ClientMoves may True c c' := by
  obtain ⟨⟨clientToNetwork, n, c₁⟩, pushed, rest⟩ := bind_eq_ok.mp h
  cases rest
  obtain ⟨buffer, -, decoded⟩ := pushToNetwork_decodes (handlers answers) c.client.clientToNetwork
  rw [decoded] at pushed
  cases folded : (packets.decode c.client.clientToNetwork.peek).items.foldlM
      (applyVerdict (handlers answers)) (0, c) with
  | error _ =>
      rw [folded] at pushed
      cases pushed
  | ok s =>
      rw [folded] at pushed
      cases pushed
      have moves : ClientMoves may True c c₁ := by
        refine applyVerdicts_moves closes (fun k packet mem => ?_) routed folded
        rw [Nat.zero_add]
        exact sends k packet mem
      exact moves.tail (.receives _ trivial)

theorem processReceive_moves (closes : may .close) {read : IoResult (List UInt8)}
    {answers : ℕ → PacketAnswers} {result : IoResult Unit}
    (sends : ∀ k packet, (arrivals (c.client.clientToNetwork.readFrom read).2)[k]? = some packet →
      may (.packet packet (answers k)))
    (routed : c.Routed) (h : c.processReceive read answers = .ok (result, c')) :
    ClientMoves may True c c' := by
  unfold processReceive at h
  split at h
  · rename_i clientToNetwork received
    obtain ⟨c₁, pushed, rest⟩ := bind_eq_ok.mp h
    cases rest
    rw [received] at sends
    refine .head (.receives clientToNetwork trivial) ?_
    exact pushToNetwork_moves closes (c := { c with client := { c.client with clientToNetwork } })
      sends (routed.congr rfl rfl) pushed
  · rename_i clientToNetwork received
    obtain ⟨c₁, closed, rest⟩ := bind_eq_ok.mp h
    cases rest
    refine .head (.receives clientToNetwork trivial) ?_
    exact close_moves closes (c := { c with client := { c.client with clientToNetwork } })
      (routed.congr rfl rfl) closed
  · cases h
    exact .refl
  · obtain ⟨c₁, closed, rest⟩ := bind_eq_ok.mp h
    cases rest
    exact close_moves closes routed closed

/-- An event first writes, and what comes then pulls no source. -/
theorem process_moves (closes : may .close) {ready : Ready} {answers : EventAnswers}
    {result : IoResult Unit}
    (sends : ∀ k packet, c.Brings ready answers k packet → may (.packet packet (answers.packets k)))
    (routed : c.Routed) (h : c.process ready answers = .ok (result, c')) :
    ∃ c₁, (c₁ = c ∨ ∃ sent, c.processSend answers.socket.write = .ok (sent, c₁)) ∧
      ClientMoves may True c₁ c' := by
  unfold process at h
  split at h
  · cases h
    exact ⟨c, .inl rfl, .refl⟩
  · rename_i isOpen
    rw [Bool.not_eq_true] at isOpen
    have writable {result : IoResult Unit} {c₁ : ClientContext}
        (h : (if ready.isWritable then c.processSend answers.socket.write else .ok (.ok (), c)) =
          .ok (result, c₁)) : c₁ = c ∨ ∃ sent, c.processSend answers.socket.write = .ok (sent, c₁) := by
      split at h
      · exact .inr ⟨_, h⟩
      · cases h
        exact .inl rfl
    rcases orReturn_eq_ok.mp h with ⟨c₁, sent, h⟩ | ⟨err, c₁, sent, rest⟩
    · have wrote := writable sent
      refine ⟨c₁, wrote, ?_⟩
      have moves : ClientMoves (fun _ => True) False c c₁ := by
        rcases wrote with rfl | ⟨sent, wrote⟩
        · exact .refl
        · exact processSend_moves trivial trivial routed wrote
      have buffer := moves.clientToNetwork id
      have routed₁ := moves.routed routed
      have readable {result : IoResult Unit} {c₂ : ClientContext}
          (h : (if c₁.client.closed = false ∧ ready.isReadable then
              c₁.processReceive answers.socket.read answers.packets
            else .ok (.ok (), c₁)) = .ok (result, c₂)) : ClientMoves may True c₁ c₂ := by
        split at h
        · rename_i both
          refine processReceive_moves closes (fun k packet mem => ?_) routed₁ h
          rw [buffer] at mem
          exact sends k packet ⟨both.2, isOpen, mem⟩
        · cases h
          exact .refl
      rcases orReturn_eq_ok.mp h with ⟨c₂, received, h⟩ | ⟨err, c₂, received, rest⟩
      · obtain ⟨c₃, updated, rest⟩ := bind_eq_ok.mp h
        cases rest
        refine (readable received).trans ?_
        split at updated
        · cases updated
          exact .refl
        · exact updateInterests_moves updated
      · cases rest
        exact readable received
    · cases rest
      exact ⟨c', writable sent, .refl⟩

/-- The whole event. -/
theorem onReady_moves (closes : may .close) {ready : Ready} {answers : EventAnswers}
    (sends : ∀ k packet, c.Brings ready answers k packet → may (.packet packet (answers.packets k)))
    (routed : c.Routed) (h : c.onReady ready answers = .ok c') :
    ∃ c₁, (c₁ = c ∨ ∃ sent, c.processSend answers.socket.write = .ok (sent, c₁)) ∧
      ClientMoves may True c₁ c' := by
  obtain ⟨⟨result, c₂⟩, processed, h⟩ := bind_eq_ok.mp h
  obtain ⟨c₁, wrote, moves⟩ := process_moves closes sends routed processed
  refine ⟨c₁, wrote, moves.trans ?_⟩
  cases result with
  | ok _ =>
      cases h
      exact .refl
  | error err =>
      cases err with
      | wouldBlock =>
          cases h
          exact .refl
      | other =>
          simp only at h
          split at h
          · cases h
            exact .refl
          · refine close_moves closes ?_ h
            rcases wrote with rfl | ⟨sent, wrote⟩
            · exact moves.routed routed
            · have first : ClientMoves (fun _ => True) False c c₁ :=
                processSend_moves trivial trivial routed wrote
              exact moves.routed (first.routed routed)

/-! ### Every handler -/

/-- Nothing has changed in a connection that was looked at. -/
theorem leave_enter {handle : Handle} {conn : Connection} (routed : c.Routed)
    (place : c.created[handle]? = some conn) : c.leave (c.enter conn) = c := by
  have same : c.created.set conn.handle conn = c.created := by
    obtain ⟨inside, at_handle⟩ := List.getElem?_eq_some_iff.mp place
    rw [routed.places _ _ place, ← at_handle, List.set_getElem_self]
  show { c with created := c.created.set conn.handle conn } = c
  rw [same]

/-- **What the handler of a connection does.**  A closed connection ignores its event, which may be
in the batch when another event closes it; an open one reacts to it and is removed if it has
closed. -/
theorem dispatch_connection {handle : Handle} {conn : Connection} {ready : Ready}
    {answers : EventAnswers} (routed : c.Routed) (place : c.created[handle]? = some conn)
    (h : c.dispatch (.connection handle) ready answers = .ok c') :
    (conn.isClosed = true ∧ c' = c) ∨
      (conn.isClosed = false ∧ ∃ f,
        (c.enter conn).Executes (.event ready answers.socket answers.now) f ∧
        c' = c.leave f.removeIfClosed ∧
        (ready = .empty ∧ conn.closesOnHup = true → f.conn.isClosed = true)) := by
  simp only [dispatch, place] at h
  obtain ⟨f, handled, rest⟩ := bind_eq_ok.mp h
  cases rest
  cases closed : conn.isClosed with
  | true =>
      rw [ConnectionContext.onReady_closed (c := c.enter conn) closed handled]
      exact .inl ⟨rfl, leave_enter routed place⟩
  | false =>
      obtain ⟨f₁, proceeds, hup, rfl⟩ :=
        ConnectionContext.onReady_reacts (c := c.enter conn) closed handled
      exact .inr ⟨rfl, f₁, proceeds.executes handled, rfl, hup⟩

theorem dispatch_moves {source : Source} {ready : Ready} {answers : EventAnswers}
    (events : source ≠ .client → may (.event ready answers.socket answers.now))
    (causes : source = .client → ∀ call, c.Causes ready answers call → may call)
    (routed : c.Routed) (h : c.dispatch source ready answers = .ok c') :
    ClientMoves may True c c' := by
  cases source with
  | client =>
      obtain ⟨c₁, wrote, moves⟩ := onReady_moves (causes rfl _ .close)
        (fun k packet brings => causes rfl _ (.packet brings)) routed h
      refine .trans ?_ moves
      rcases wrote with rfl | ⟨sent, wrote⟩
      · exact .refl
      · exact processSend_moves (causes rfl _ .close) (causes rfl _ .next) routed wrote
  | connection handle =>
      cases place : c.created[handle]? with
      | none =>
          simp only [dispatch, place] at h
          cases h
      | some conn =>
          rcases dispatch_connection routed place h with ⟨-, rfl⟩ | ⟨isOpen, f, executes, rfl, -⟩
          · exact .refl
          · exact .single (.acts place isOpen (events nofun) executes)

/-- **A hang-up closes a connection of a kind that listens to it.**  The TCP and the UDP
connections do, and their route is gone behind it. -/
theorem dispatch_hup {handle : Handle} {conn : Connection} {answers : EventAnswers}
    (routed : c.Routed) (place : c.created[handle]? = some conn) (isOpen : conn.isClosed = false)
    (listens : conn.closesOnHup = true)
    (h : c.dispatch (.connection handle) .empty answers = .ok c') :
    ∃ conn', c'.created[handle]? = some conn' ∧ conn'.isClosed = true := by
  rcases dispatch_connection routed place h with ⟨closed, -⟩ | ⟨-, f, executes, rfl, hup⟩
  · exact absurd (isOpen.symm.trans closed) (by decide)
  · have here : f.conn.handle = handle := executes.handle.trans (routed.places _ _ place)
    refine ⟨f.removeIfClosed.conn, leave_place place ?_, ?_⟩
    · rwa [ConnectionContext.removeIfClosed_conn]
    · rw [ConnectionContext.removeIfClosed_conn]
      exact hup ⟨rfl, listens⟩

end ClientContext

/-! ## The loop -/

namespace Relay

/-- A socket refuses the payload of a packet that the next handler routes. -/
def Refuses (s : Relay) : Label → Prop
  | .handle answers => ∃ ready batch, s.batch = (.client, ready) :: batch ∧
      s.toClientContext.Refuses ready answers
  | _ => False

/-- The calls that the next step can make: to which connections is not said here, only which calls
there can be. -/
inductive Causes (s : Relay) : Label → ConnectionCall → Prop
  | reap {clock : Handle → Instant} : Causes s (.reap clock) .expire
  | client {ready : Ready} {batch : List (Source × Ready)} {answers : EventAnswers}
      {call : ConnectionCall} : s.batch = (.client, ready) :: batch →
      s.toClientContext.Causes ready answers call → Causes s (.handle answers) call
  | connection {handle : Handle} {ready : Ready} {batch : List (Source × Ready)}
      {answers : EventAnswers} : s.batch = (.connection handle, ready) :: batch →
      Causes s (.handle answers) (.event ready answers.socket answers.now)

theorem Causes.refuses {s : Relay} {label : Label} {call : ConnectionCall}
    (caused : s.Causes label call) (refused : call.Refused) : s.Refuses label := by
  cases caused with
  | reap =>
      obtain ⟨_, _, ⟨⟩, -⟩ := refused
  | client next caused => exact ⟨_, _, next, caused.refuses refused⟩
  | connection _ =>
      obtain ⟨_, _, ⟨⟩, -⟩ := refused

/-- **Every step of the loop** is a sequence of steps of the client, or releases the tokens, or
permutes the routes.  This is the list of what can happen, and every invariant of the relay is
proved along it, one lemma for a step of the client and nothing for the other two. -/
theorem Step.moves {s s' : Relay} {label : Label} (routed : s.Routed) (step : Step s label s') :
    (ClientMoves (s.Causes label) True s.toClientContext s'.toClientContext ∧
        s'.released = s.released) ∨
      (s' = { s with
        selector := { s.selector with tokensToRemove := [] }
        released := s.released ++ s.selector.tokensToRemove }) ∨
      ∃ connections, connections.Perm s.client.connections ∧
        s' = { s with client := { s.client with connections } } := by
  cases step with
  | poll _ _ => exact .inl ⟨.refl, rfl⟩
  | reap cleaned => exact .inl ⟨Router.cleanExpiredConnections_moves .reap routed cleaned, rfl⟩
  | @handle source ready batch answers c next handled =>
      refine .inl ⟨ClientContext.dispatch_moves ?_ ?_ routed handled, rfl⟩
      · intro other
        cases source with
        | client => exact absurd rfl other
        | connection handle => exact .connection next
      · rintro rfl call caused
        exact .client next caused
  | release _ => exact .inr (.inl rfl)
  | rehash perm => exact .inr (.inr ⟨_, perm, rfl⟩)

end Relay

/-! ## What some handlers return -/

namespace ClientContext

/-- A client that has got its id. -/
def identified (id : UInt32) : ClientContext where
  client := { Client.create id with interests := .readable, pendingIdBytes := 0 }
  selector := (Selector.create.register .client .writable).register .client .readable
  created := []
  received := u32Bytes id

theorem onReady_sendsId (id : UInt32) (answers : EventAnswers)
    (write : answers.socket.write = .ok 4) :
    (create id).onReady .writable answers = .ok (identified id) := by
  unfold onReady process processSend sendId
  rw [write]
  rfl

/-- The same client with another input buffer; no handler of a packet looks at that buffer. -/
def withInput (c : ClientContext) (clientToNetwork : IpPacketBuffer) : ClientContext :=
  { c with client := { c.client with clientToNetwork } }

/-- What `update_interests` has nothing to do about.  The client is open, and its interests are
those that its stream asks for. -/
def Settled (c : ClientContext) : Prop :=
  c.client.closed = false ∧ c.client.interests = c.client.wanted

theorem updateInterests_settled {c : ClientContext} (settled : c.Settled) :
    c.updateInterests = .ok c := by
  rw [updateInterests, Client.updateInterests, if_neg (not_not.mpr settled.2)]
  rfl

/-- A read that brings one packet, which leaves the client open. -/
theorem onReady_receives {c : ClientContext} {raw : List UInt8} {packet : IpPacket}
    {answers : EventAnswers} {routed : IpPacketBuffer → ClientContext}
    (isOpen : c.client.closed = false) (input : c.client.clientToNetwork.peek = [])
    (fits : raw.length ≤ maxIpPacketLength)
    (front : packets.front raw = .item (.routed packet) raw.length)
    (read : answers.socket.read = .ok raw)
    (routes : ∀ buffer, Router.sendToNetwork (c.withInput buffer) packet (answers.packets 0) =
      .ok (routed buffer))
    (settled : ∀ buffer, (routed buffer).Settled) :
    ∃ buffer buffer', buffer'.peek = [] ∧
      c.onReady .readable answers = .ok ((routed buffer).withInput buffer') := by
  obtain ⟨buf, eq, peek⟩ := c.client.clientToNetwork.buf.readFrom_ok raw
  have head : c.client.clientToNetwork.buf.head = 0 := by
    rw [← ByteBuffer.length_peek]
    exact List.length_eq_zero_iff.mpr input
  have all : raw.take (maxIpPacketLength - c.client.clientToNetwork.buf.head) = raw := by
    rw [head]
    exact List.take_of_length_le fits
  have nonempty : 0 < raw.length := packets.item_pos front
  rw [all] at eq peek
  have received : c.client.clientToNetwork.readFrom (.ok raw) = (.ok true, ⟨buf⟩) := by
    rw [IpPacketBuffer.readFrom, eq, decide_eq_true nonempty]
  have peek' : (⟨buf⟩ : IpPacketBuffer).peek = raw := by
    show buf.peek = raw
    rw [peek, show c.client.clientToNetwork.buf.peek = [] from input, List.nil_append]
  obtain ⟨buffer', left, decoded⟩ := pushToNetwork_decodes (handlers answers.packets) ⟨buf⟩
  have one : packets.decode raw = ⟨[.routed packet], [], false⟩ := by
    have rest : packets.decode (raw.drop raw.length) = ⟨[], [], false⟩ := by
      rw [List.drop_length]
      exact Framing.decode_of_incomplete rfl
    rw [Framing.decode_of_item front, rest]
  have pushed : (c.withInput ⟨buf⟩).pushToNetwork answers.packets =
      .ok ((routed ⟨buf⟩).withInput buffer') := by
    refine bind_eq_ok.mpr ⟨(buffer', 1, routed ⟨buf⟩), ?_, rfl⟩
    refine (decoded (0, c.withInput ⟨buf⟩)).trans ?_
    have applied : applyVerdict (handlers answers.packets) (0, c.withInput ⟨buf⟩) (.routed packet) =
        .ok (1, routed ⟨buf⟩) := bind_eq_ok.mpr ⟨_, routes ⟨buf⟩, rfl⟩
    rw [peek', one, List.foldlM_cons, applied]
    rfl
  refine ⟨⟨buf⟩, buffer', by rw [left, peek', one], ?_⟩
  have settled' : ((routed ⟨buf⟩).withInput buffer').Settled := settled ⟨buf⟩
  have processed : c.process .readable answers = .ok (.ok (), (routed ⟨buf⟩).withInput buffer') := by
    unfold process
    rw [if_neg (by rw [isOpen]; exact Bool.false_ne_true)]
    refine orReturn_eq_ok.mpr (.inl ⟨c, rfl, orReturn_eq_ok.mpr (.inl
      ⟨(routed ⟨buf⟩).withInput buffer', ?_, ?_⟩)⟩)
    · rw [if_pos ⟨isOpen, rfl⟩, processReceive, read, received]
      exact bind_eq_ok.mpr ⟨_, pushed, rfl⟩
    · rw [if_neg (by rw [settled'.1]; exact Bool.false_ne_true), updateInterests_settled settled']
      rfl
  rw [onReady, processed]
  rfl

/-- The host socket of an IPv6 flow fails. -/
theorem dispatch_fails {c : ClientContext} {handle : Handle} {conn : Ipv6Connection}
    {answers : EventAnswers} (place : c.created[handle]? = some (.ipv6 conn))
    (isOpen : conn.closed = false) (failed : answers.socket.read = .error .other) :
    c.dispatch (.connection handle) .readable answers = .ok (c.leave
      (Ipv6Context.close ⟨conn, c.client, c.selector⟩).removeFromRouter.asConnection) := by
  have received : Ipv6Context.processReceive ⟨conn, c.client, c.selector⟩ answers.socket.read
      answers.now = .ok (.ok (), Ipv6Context.close ⟨conn, c.client, c.selector⟩) := by
    rw [failed, Ipv6Context.processReceive, Ipv6Context.read]
    cases conn.socket <;> rfl
  have handled : Ipv6Context.onReady ⟨conn, c.client, c.selector⟩ .readable answers.socket.read
      answers.now = .ok (Ipv6Context.close ⟨conn, c.client, c.selector⟩).removeFromRouter := by
    have closed : (Ipv6Context.close ⟨conn, c.client, c.selector⟩).conn.closed = true :=
      (Ipv6Context.close_proceeds isOpen).2
    have processed : Ipv6Context.process ⟨conn, c.client, c.selector⟩ .readable answers.socket.read
        answers.now =
          .ok (.ok (), (Ipv6Context.close ⟨conn, c.client, c.selector⟩).removeFromRouter) := by
      unfold Ipv6Context.process
      rw [if_neg (by rw [isOpen]; exact Bool.false_ne_true)]
      exact orReturn_eq_ok.mpr (.inl ⟨_, received, by rw [if_pos closed]⟩)
    rw [Ipv6Context.onReady, processed]
    rfl
  simp only [dispatch, place]
  exact bind_eq_ok.mpr ⟨_, bind_eq_ok.mpr ⟨_, handled, rfl⟩, rfl⟩

end ClientContext

namespace Router

/-- The first packet of an IPv6 flow. -/
theorem sendToNetwork_opens {raw : List UInt8} {packet : Ipv6Packet} {id : ConnectionId}
    {socket : Ipv6Socket} (parsed : IpPacket.parse raw = .ok (.ok (.ipv6 packet)))
    (flow : ConnectionId.fromPacket (.ipv6 packet) = some id)
    (protocol : id.protocol = match socket with | .tcp => .tcp | .udp => .udp) :
    ∃ p, ∀ (c : ClientContext) (answers : PacketAnswers), c.connectionOf id = none →
      answers.opened = .ok () →
      let conn : Ipv6Connection := ⟨c.created.length, id, socket, p, false, answers.now, []⟩
      sendToNetwork c (.ipv6 packet) answers =
        deliver (insert c id (.ipv6 conn)
          (c.selector.register (.connection c.created.length) .readable)) id (.ipv6 conn)
          (.ipv6 packet) answers := by
  obtain ⟨ipv6Header, transportHeader, p, header, transport, made, -, -⟩ :=
    Ipv6Packetizer.new_ok (IpPacket.parse_ipv6 parsed)
  refine ⟨p, ?_⟩
  intro c answers unknown opened conn
  have created : createConnection c id (.ipv6 packet) answers =
      .ok (.ok (.ipv6 conn, c.selector.register (.connection c.created.length) .readable)) := by
    refine bind_eq_ok.mpr ⟨_, header, bind_eq_ok.mpr ⟨_, transport, bind_eq_ok.mpr ⟨_, made, ?_⟩⟩⟩
    rw [Ipv6Connection.create, protocol, opened]
    cases socket <;> rfl
  rw [sendToNetwork, flow]
  simp only [isValid, if_true, connectionFor, unknown, created, ok_bind]
  rfl

/-- A payload that the socket of an IPv6 flow refuses. -/
theorem deliver_refused {c : ClientContext} {conn : Ipv6Connection} {packet : Ipv6Packet}
    {payload : List UInt8} {id : ConnectionId} {answers : PacketAnswers}
    (carried : packet.payload = .ok (some payload)) (some : payload ≠ [])
    (refused : answers.write = .error .other) :
    deliver c id (.ipv6 conn) (.ipv6 packet) answers = .ok ((c.leave
      ⟨.ipv6 { conn.touch answers.now with closed := true }, c.client, c.selector⟩).removeConnection
        id) := by
  have sent : (c.enter (.ipv6 conn)).sendToNetwork (.ipv6 packet) answers =
      .ok ⟨.ipv6 { conn.touch answers.now with closed := true }, c.client, c.selector⟩ := by
    show (do
      let c ← Ipv6Context.sendToNetwork ⟨conn, c.client, c.selector⟩ (.ipv6 packet) answers.write
        answers.now
      return c.asConnection) = _
    rw [Ipv6Context.sendToNetwork, carried, refused, ok_bind]
    simp only [Option.getD_some, if_neg some]
    rfl
  rw [deliver, sent]
  rfl

/-- A payload that the socket of an IPv6 flow takes some of. -/
theorem deliver_taken {c : ClientContext} {conn : Ipv6Connection} {packet : Ipv6Packet}
    {payload : List UInt8} {id : ConnectionId} {answers : PacketAnswers} {n : ℕ}
    (isOpen : conn.closed = false) (carried : packet.payload = .ok (some payload))
    (some : payload ≠ []) (taken : answers.write = .ok n) :
    deliver c id (.ipv6 conn) (.ipv6 packet) answers = .ok (c.leave
      ⟨.ipv6 ((conn.touch answers.now).record (.wrote (payload.take n))), c.client, c.selector⟩) := by
  have sent : (c.enter (.ipv6 conn)).sendToNetwork (.ipv6 packet) answers = .ok
      ⟨.ipv6 ((conn.touch answers.now).record (.wrote (payload.take n))), c.client, c.selector⟩ := by
    show (do
      let c ← Ipv6Context.sendToNetwork ⟨conn, c.client, c.selector⟩ (.ipv6 packet) answers.write
        answers.now
      return c.asConnection) = _
    rw [Ipv6Context.sendToNetwork, carried, taken, ok_bind]
    simp only [Option.getD_some, if_neg some]
    rfl
  have stays : (Connection.ipv6 ((conn.touch answers.now).record
      (.wrote (payload.take n)))).isClosed = false := isOpen
  rw [deliver, sent, ok_bind, stays]
  rfl

end Router

namespace Relay

/-- One event is polled, and handled. -/
theorem run_event {t : List (Relay × Label)} {s : Relay} {source : Source} {ready interest : Ready}
    {answers : EventAnswers} {c : ClientContext} (run : machine.Run t s) (idle : s.batch = [])
    (known : s.selector.registered source = some interest) (within : ready.Within interest)
    (handled : s.dispatch source ready answers = .ok c) :
    machine.Run (t ++ [(s, .poll [(source, ready)])] ++
        [({ s with batch := [(source, ready)] }, .handle answers)])
      { s with toClientContext := c, batch := [] } := by
  have polled : Step s (.poll [(source, ready)]) { s with batch := [(source, ready)] } := by
    refine .poll idle fun event mem => ?_
    rw [List.mem_singleton.mp mem]
    exact ⟨interest, known, within⟩
  have ran : Step { s with batch := [(source, ready)] } (.handle answers)
      { s with toClientContext := c, batch := [] } := .handle rfl handled
  exact (run.step polled).step ran

end Relay

end ReverseTether
