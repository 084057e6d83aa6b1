import ReverseTether.Library.Machine
import ReverseTether.Relay

/-!
# What the handlers of a client can do, step by step

Every handler is a sequence of a few kinds of atomic steps, `ClientMove`: a method of
an open connection is called, a flow is opened by its first packet, the client is
served, its socket takes bytes, and so on.  A sequence stays a sequence of such steps
only as long as the router is in order, which is `Routed`: each flow that is open has
one route, and there are no other routes.  So each kind of step preserves `Routed`
first, and then each handler is decomposed once, from a state that is `Routed`.

A move names the connection it calls by its place in the list of all that were created, so
that connections which are gone can still be spoken about; the routes lead to places.
`ClientMoves.invariant` is the induction that the rest of the development uses, with `Routed`
at hand in every case.

Two parameters restrict the moves of a sequence: which calls of connections it may contain,
and whether the client may read from its socket.  With them the sequences of different
handlers are told apart.
-/

namespace ReverseTether

open Library Relation

/-- **The router is in order.**  Every connection is in its place, the routes are those of the
connections that are open, and no flow has two. -/
structure ClientContext.Routed (c : ClientContext) : Prop where
  places : ∀ (handle : Handle) (conn : Connection),
    c.created[handle]? = some conn → conn.handle = handle
  /-- The routes are those of the open connections. -/
  routes : ∀ id handle, (id, handle) ∈ c.client.connections ↔
    ∃ conn, c.created[handle]? = some conn ∧ conn.id = id ∧ conn.isClosed = false
  unique : (c.client.connections.map Prod.fst).Nodup

/-- What a step of the client itself does to its stream and its pending sources:
nothing, unless sources are pulled.  Then the packet that waits in one of them may be
appended. -/
def ClientContext.Sends (c : ClientContext) (pulls : Prop) (client : Client) : Prop :=
  (client.appended = c.client.appended ∧
      client.pendingPacketSources = c.client.pendingPacketSources) ∨
    (pulls ∧ (client.appended = c.client.appended ∨
      ∃ (handle : Handle) (conn : TcpConnection) (packet : Ipv4Packet),
        c.created[handle]? = some (.tcp conn) ∧ conn.get = some packet ∧
          client.appended = c.client.appended ++ [packet.raw]))

/-- The atomic steps.  Connections are called only as `may` says, and the input buffer
changes only in handlers that read. -/
inductive ClientMove (may : ConnectionCall → Prop) (reads : Prop) (c : ClientContext) :
    ClientContext → Prop
  /-- An open connection is called, and leaves the router if that closed it. -/
  | acts {handle : Handle} {conn : Connection} {call : ConnectionCall} {f : ConnectionContext} :
      c.created[handle]? = some conn → conn.isClosed = false → may call →
      (c.enter conn).Executes call f → ClientMove may reads c (c.leave f.removeIfClosed)
  /-- A flow is opened, and gets its first packet. -/
  | opens {id : ConnectionId} {conn : Connection} {selector : Selector} {packet : IpPacket}
      {answers : PacketAnswers} {f : ConnectionContext} :
      may (.packet packet answers) → ConnectionId.fromPacket packet = some id →
      (∀ handle, (id, handle) ∉ c.client.connections) →
      Router.createConnection c id packet answers = .ok (.ok (conn, selector)) →
      ((Router.insert c id conn selector).enter conn).Executes (.packet packet answers) f →
      ClientMove may reads c ((Router.insert c id conn selector).leave f.removeIfClosed)
  /-- The client sends to itself. -/
  | serves {client : Client} {selector : Selector} : c.client.Serves client →
      c.selector.SameBut .client selector → c.Sends (may .next) client →
      (c.selector.registered .client = some c.client.interests →
        selector.registered .client = some client.interests) →
      ClientMove may reads c { c with client, selector }
  | receives (clientToNetwork : IpPacketBuffer) : reads →
      ClientMove may reads c { c with client := { c.client with clientToNetwork } }
  /-- The socket took some bytes of the id. -/
  | sendsId (n : ℕ) : c.client.mustSendId = true →
      ClientMove may reads c { c with
        client := { c.client with pendingIdBytes := c.client.pendingIdBytes -
          (((u32Bytes c.client.id).drop (4 - c.client.pendingIdBytes)).take n).length }
        received := c.received ++
          ((u32Bytes c.client.id).drop (4 - c.client.pendingIdBytes)).take n }
  /-- The socket took some bytes of the packets. -/
  | writes {write : IoResult ℕ} {taken : List UInt8} {networkToClient : ClientStream} :
      c.client.mustSendId = false →
      c.client.networkToClient.writeTo write = (.ok taken, networkToClient) →
      ClientMove may reads c { c with
        client := { c.client with networkToClient }
        received := c.received ++ taken }
  | closes : ClientMove may reads c { c with
      client := { c.client with closed := true }
      selector := (c.selector.deregister .client).2 }

/-- What a handler of the client does, as a sequence of moves, each of which one lemma can be
proved about. -/
abbrev ClientMoves (may : ConnectionCall → Prop) (reads : Prop) :
    ClientContext → ClientContext → Prop :=
  ReflTransGen (ClientMove may reads)

@[simp] theorem ConnectionContext.removeIfClosed_conn (f : ConnectionContext) :
    f.removeIfClosed.conn = f.conn := by
  unfold removeIfClosed
  split <;> rfl

@[simp] theorem ConnectionContext.removeIfClosed_selector (f : ConnectionContext) :
    f.removeIfClosed.selector = f.selector := by
  unfold removeIfClosed
  split <;> rfl

@[simp] theorem ConnectionContext.removeIfClosed_appended (f : ConnectionContext) :
    f.removeIfClosed.client.appended = f.client.appended := by
  unfold removeIfClosed
  split <;> rfl

theorem ConnectionContext.removeIfClosed_connections (f : ConnectionContext) :
    f.removeIfClosed.client.connections =
      if f.conn.isClosed then f.client.connections.filter fun route => route.1 ≠ f.conn.id
      else f.client.connections := by
  unfold removeIfClosed
  split <;> rfl

/-- A connection is back in its place. -/
theorem ClientContext.leave_place {c : ClientContext} {f : ConnectionContext} {handle : Handle}
    {conn : Connection} (place : c.created[handle]? = some conn) (here : f.conn.handle = handle) :
    (c.leave f).created[handle]? = some f.conn := by
  show (c.created.set f.conn.handle f.conn)[handle]? = some f.conn
  rw [here]
  exact List.getElem?_set_self (List.getElem?_eq_some_iff.mp place).1

/-! ## The router stays in order -/

namespace ClientContext.Routed

variable {c c' : ClientContext}

/-- A flow has one route. -/
theorem route_unique (routed : c.Routed) {id : ConnectionId} {handle handle' : Handle}
    (mem : (id, handle) ∈ c.client.connections) (mem' : (id, handle') ∈ c.client.connections) :
    handle = handle' :=
  congrArg Prod.snd (List.inj_on_of_nodup_map routed.unique mem mem' rfl)

/-- The route of a flow is found. -/
theorem route_eq (routed : c.Routed) {id : ConnectionId} {handle : Handle}
    (mem : (id, handle) ∈ c.client.connections) : c.client.route id = some handle := by
  have found : (c.client.connections.find? fun entry => entry.1 = id).isSome :=
    List.find?_isSome.mpr ⟨(id, handle), mem, by simp⟩
  obtain ⟨⟨id', handle'⟩, found⟩ := Option.isSome_iff_exists.mp found
  have same : id' = id := by simpa using List.find?_some found
  rw [Client.route, found, ← routed.route_unique (same ▸ List.mem_of_find?_eq_some found) mem]
  rfl

/-- What the router is in order about stays the same. -/
theorem congr (routed : c.Routed) (created : c'.created = c.created)
    (connections : c'.client.connections = c.client.connections) : c'.Routed where
  places := created ▸ routed.places
  routes := by
    rw [created, connections]
    exact routed.routes
  unique := connections ▸ routed.unique

/-- One connection changes, and loses its route if it closes. -/
theorem update (routed : c.Routed) {handle : Handle} {conn conn' : Connection}
    (place : c.created[handle]? = some conn) (isOpen : conn.isClosed = false)
    (created : c'.created = c.created.set handle conn') (same : conn'.handle = conn.handle)
    (id : conn'.id = conn.id)
    (connections : c'.client.connections =
      if conn'.isClosed then c.client.connections.filter fun route => route.1 ≠ conn.id
      else c.client.connections) : c'.Routed := by
  have inside : handle < c.created.length := (List.getElem?_eq_some_iff.mp place).1
  have at_handle : c'.created[handle]? = some conn' := by
    rw [created, List.getElem?_set_self inside]
  have elsewhere {other : Handle} (ne : other ≠ handle) : c'.created[other]? = c.created[other]? := by
    rw [created, List.getElem?_set_ne ne.symm]
  have mine : (conn.id, handle) ∈ c.client.connections :=
    (routed.routes _ _).mpr ⟨conn, place, rfl, isOpen⟩
  constructor
  · intro other conn₁ place₁
    by_cases eq : other = handle
    · subst eq
      rw [at_handle] at place₁
      cases place₁
      exact same.trans (routed.places _ _ place)
    · exact routed.places _ _ (elsewhere eq ▸ place₁)
  · intro id₁ other
    cases closed : conn'.isClosed with
    | false =>
        rw [connections, if_neg (by rw [closed]; exact Bool.false_ne_true), routed.routes]
        by_cases eq : other = handle
        · subst eq
          rw [at_handle, place]
          constructor
          · rintro ⟨_, ⟨⟩, rfl, -⟩
            exact ⟨conn', rfl, id, closed⟩
          · rintro ⟨_, ⟨⟩, rfl, -⟩
            exact ⟨conn, rfl, id.symm, isOpen⟩
        · rw [elsewhere eq]
    | true =>
        rw [connections, if_pos closed, List.mem_filter, decide_eq_true_iff]
        by_cases eq : other = handle
        · subst eq
          rw [at_handle]
          constructor
          · rintro ⟨mem, ne⟩
            obtain ⟨conn₁, place₁, rfl, -⟩ := (routed.routes _ _).mp mem
            rw [place] at place₁
            cases place₁
            exact absurd rfl ne
          · rintro ⟨_, ⟨⟩, -, isOpen'⟩
            exact absurd (closed.symm.trans isOpen') (by decide)
        · rw [elsewhere eq, ← routed.routes]
          constructor
          · exact fun h => h.1
          · intro mem
            refine ⟨mem, ?_⟩
            rintro rfl
            exact eq (routed.route_unique mem mine)
  · rw [connections]
    split
    · exact routed.unique.sublist (List.filter_sublist.map _)
    · exact routed.unique

/-- A connection is created, with the only route of its flow. -/
theorem insert (routed : c.Routed) {id : ConnectionId} {conn : Connection} (selector : Selector)
    (handle : conn.handle = c.created.length) (same : conn.id = id) (isOpen : conn.isClosed = false)
    (new : ∀ handle, (id, handle) ∉ c.client.connections) :
    (Router.insert c id conn selector).Routed := by
  have kept : (c.client.connections.filter fun route => route.1 ≠ id) = c.client.connections := by
    rw [List.filter_eq_self]
    rintro ⟨id', handle'⟩ mem
    rw [decide_eq_true_iff]
    rintro rfl
    exact new _ mem
  have connections : (Router.insert c id conn selector).client.connections =
      c.client.connections ++ [(id, c.created.length)] :=
    congrArg (· ++ [(id, c.created.length)]) kept
  have created : (Router.insert c id conn selector).created = c.created ++ [conn] := rfl
  constructor
  · intro other conn₁ place
    rw [created, List.getElem?_append] at place
    split at place
    · exact routed.places _ _ place
    · rw [List.getElem?_singleton] at place
      split at place
      · rename_i behind last
        cases place
        exact handle.trans (Nat.le_antisymm (Nat.not_lt.mp behind) (Nat.sub_eq_zero_iff_le.mp last))
      · cases place
  · intro id₁ other
    rw [connections, created, List.mem_append, List.mem_singleton, routed.routes,
      List.getElem?_append]
    constructor
    · rintro (⟨conn₁, place, same₁, isOpen₁⟩ | eq)
      · have inside := (List.getElem?_eq_some_iff.mp place).1
        exact ⟨conn₁, by rw [if_pos inside, place], same₁, isOpen₁⟩
      · cases eq
        exact ⟨conn, by simp, same, isOpen⟩
    · rintro ⟨conn₁, place, same₁, isOpen₁⟩
      split at place
      · exact .inl ⟨conn₁, place, same₁, isOpen₁⟩
      · rw [List.getElem?_singleton] at place
        rename_i behind
        split at place
        · rename_i last
          cases place
          refine .inr (Prod.ext (same₁.symm.trans same) ?_)
          exact Nat.le_antisymm (Nat.sub_eq_zero_iff_le.mp last) (Nat.not_lt.mp behind)
        · cases place
  · rw [connections, List.map_append, List.nodup_append]
    refine ⟨routed.unique, List.nodup_singleton _, ?_⟩
    rintro id₁ mem _ last rfl
    obtain ⟨⟨id', handle'⟩, entry, rfl⟩ := List.mem_map.mp mem
    rw [List.map_singleton, List.mem_singleton] at last
    rw [show id' = id from last] at entry
    exact new handle' entry

/-- The connection that was called is back in its place. -/
theorem leave_created (routed : c.Routed) {handle : Handle} {conn : Connection}
    {f : ConnectionContext} (place : c.created[handle]? = some conn)
    (acts : (c.enter conn).Acts f) :
    (c.leave f.removeIfClosed).created = c.created.set handle f.conn := by
  have here : f.conn.handle = handle := acts.handle.trans (routed.places _ _ place)
  show c.created.set f.removeIfClosed.conn.handle f.removeIfClosed.conn = _
  rw [ConnectionContext.removeIfClosed_conn, here]

/-- An open connection acts, and leaves the router if that closed it. -/
theorem acts (routed : c.Routed) {handle : Handle} {conn : Connection} {f : ConnectionContext}
    (place : c.created[handle]? = some conn) (isOpen : conn.isClosed = false)
    (acts : (c.enter conn).Acts f) : (c.leave f.removeIfClosed).Routed := by
  refine routed.update place isOpen (routed.leave_created place acts) acts.handle acts.id ?_
  show f.removeIfClosed.client.connections = _
  rw [ConnectionContext.removeIfClosed_connections, acts.id, acts.client.connections]
  rfl

theorem connectionOf_some (routed : c.Routed) {id : ConnectionId} {conn : Connection}
    (h : c.connectionOf id = some conn) :
    ∃ handle : Handle, c.created[handle]? = some conn ∧ conn.id = id ∧ conn.isClosed = false := by
  obtain ⟨handle, route, place⟩ := Option.bind_eq_some_iff.mp h
  obtain ⟨⟨id', handle'⟩, found, rfl⟩ := Option.map_eq_some_iff.mp route
  have same : decide (id' = id) = true := by simpa using List.find?_some found
  obtain ⟨conn', place', same', isOpen⟩ := (routed.routes _ _).mp (List.mem_of_find?_eq_some found)
  rw [show c.created[handle']? = some conn from place] at place'
  cases place'
  exact ⟨handle', place, same'.trans (of_decide_eq_true same), isOpen⟩

theorem connectionOf_none (routed : c.Routed) {id : ConnectionId}
    (h : c.connectionOf id = none) (handle : Handle) :
    (id, handle) ∉ c.client.connections := by
  intro mem
  obtain ⟨conn, place, -, -⟩ := (routed.routes _ _).mp mem
  rw [connectionOf, routed.route_eq mem, Option.bind_some] at h
  exact absurd (place.symm.trans h) (by simp)

end ClientContext.Routed

namespace Router

variable {c : ClientContext} {id : ConnectionId} {packet : IpPacket} {answers : PacketAnswers}

/-- The kinds of connections, each created from the headers of the packet. -/
inductive Creates (c : ClientContext) (id : ConnectionId) (answers : PacketAnswers) :
    IpPacket → Connection → Selector → Prop
  | tcp {packet : Ipv4Packet} {ipv4Header : Ipv4Header} {transportHeader : TransportHeader}
      {conn : TcpConnection} {selector : Selector} : id.protocol = .tcp →
      packet.headers = .ok (ipv4Header, some transportHeader) →
      TcpConnection.create c.selector c.created.length id ipv4Header transportHeader answers.now
        (.ok ()) = .ok (.ok (conn, selector)) →
      Creates c id answers (.ipv4 packet) (.tcp conn) selector
  | udp {packet : Ipv4Packet} {ipv4Header : Ipv4Header} {transportHeader : TransportHeader}
      {conn : UdpConnection} {selector : Selector} : id.protocol = .udp →
      packet.headers = .ok (ipv4Header, some transportHeader) →
      UdpConnection.create c.selector c.created.length id ipv4Header transportHeader answers.now
        (.ok ()) = .ok (.ok (conn, selector)) →
      Creates c id answers (.ipv4 packet) (.udp conn) selector
  | ipv6 {packet : Ipv6Packet} {packetizer : Ipv6Packetizer} {conn : Ipv6Connection}
      {selector : Selector} :
      Ipv6Connection.create c.selector c.created.length id packetizer answers.now answers.opened =
        .ok (conn, selector) →
      Creates c id answers (.ipv6 packet) (.ipv6 conn) selector

theorem createConnection_creates {conn : Connection} {selector : Selector}
    (h : createConnection c id packet answers = .ok (.ok (conn, selector))) :
    Creates c id answers packet conn selector := by
  cases packet with
  | ipv4 packet =>
      obtain ⟨⟨ipv4Header, transport⟩, headers, h⟩ := bind_eq_ok.mp h
      cases transport with
      | none => cases h
      | some transportHeader =>
          simp only at h
          split at h
          · rename_i protocol
            obtain ⟨made, created, h⟩ := bind_eq_ok.mp h
            cases opened : answers.opened with
            | error err =>
                rw [opened] at created
                cases created
                cases h
            | ok _ =>
                rw [opened] at created
                cases made with
                | error _ => cases h
                | ok made =>
                    cases h
                    exact .tcp protocol headers created
          · rename_i protocol
            obtain ⟨made, created, h⟩ := bind_eq_ok.mp h
            cases opened : answers.opened with
            | error err =>
                rw [opened] at created
                cases created
                cases h
            | ok _ =>
                rw [opened] at created
                cases made with
                | error _ => cases h
                | ok made =>
                    cases h
                    exact .udp protocol headers created
          · cases h
  | ipv6 packet =>
      obtain ⟨header, -, h⟩ := bind_eq_ok.mp h
      obtain ⟨transport, -, h⟩ := bind_eq_ok.mp h
      obtain ⟨packetizer, -, h⟩ := bind_eq_ok.mp h
      cases created : Ipv6Connection.create c.selector c.created.length id packetizer answers.now
          answers.opened with
      | error _ =>
          rw [created] at h
          cases h
      | ok made =>
          rw [created] at h
          cases h
          exact .ipv6 created

/-- A new connection takes the next place, and its socket is registered. -/
theorem createConnection_ok {conn : Connection} {selector : Selector}
    (h : createConnection c id packet answers = .ok (.ok (conn, selector))) :
    conn.handle = c.created.length ∧ conn.id = id ∧ conn.isClosed = false ∧
      ∃ interest, selector = c.selector.register (.connection c.created.length) interest := by
  cases createConnection_creates h with
  | tcp _ _ created =>
      obtain ⟨_, _, _, packetizer, -, -, -, -, conn, selector⟩ := TcpConnection.create_ok created
      rw [conn]
      exact ⟨rfl, rfl, rfl, _, selector⟩
  | udp _ _ created =>
      obtain ⟨packetizer, -, created⟩ := bind_eq_ok.mp created
      cases created
      exact ⟨rfl, rfl, rfl, _, rfl⟩
  | ipv6 created =>
      obtain ⟨handle, same, isOpen, registered⟩ := Ipv6Connection.create_ok created
      exact ⟨handle, same, isOpen, _, registered⟩

/-- It is at the place it was given. -/
theorem insert_place (c : ClientContext) (id : ConnectionId) (conn : Connection)
    (selector : Selector) :
    (insert c id conn selector).created[c.created.length]? = some conn := by
  show (c.created ++ [conn])[c.created.length]? = some conn
  simp

/-- A created connection has the only route of its flow. -/
theorem insert_routed {conn : Connection} {selector : Selector} (routed : c.Routed)
    (new : ∀ handle, (id, handle) ∉ c.client.connections)
    (created : createConnection c id packet answers = .ok (.ok (conn, selector))) :
    (insert c id conn selector).Routed := by
  obtain ⟨handle, same, isOpen, -⟩ := createConnection_ok created
  exact routed.insert selector handle same isOpen new

end Router

section Moves

variable {may : ConnectionCall → Prop} {reads : Prop} {c c₁ c' : ClientContext}

theorem ClientMove.routed (routed : c.Routed) (move : ClientMove may reads c c') : c'.Routed := by
  cases move with
  | acts place isOpen _ executes => exact routed.acts place isOpen executes.toActs
  | opens _ _ new created executes =>
      have isOpen := (Router.createConnection_ok created).2.2.1
      exact (Router.insert_routed routed new created).acts (Router.insert_place _ _ _ _) isOpen
        executes.toActs
  | serves serves _ _ _ => exact routed.congr rfl serves.connections
  | receives _ _ => exact routed.congr rfl rfl
  | sendsId _ _ => exact routed.congr rfl rfl
  | writes _ _ => exact routed.congr rfl rfl
  | closes => exact routed.congr rfl rfl

theorem ClientMoves.routed (routed : c.Routed) (moves : ClientMoves may reads c c') :
    c'.Routed := by
  induction moves with
  | refl => exact routed
  | tail _ move ih => exact move.routed ih

/-- **The rule for sequences of steps.**  What every step preserves, from a router in order, holds
after them.  That the router is in order is itself kept by every step, and is handed to each of
them here so that no caller has to carry it. -/
theorem ClientMoves.invariant {P : ClientContext → Prop}
    (step : ∀ c c', c.Routed → P c → ClientMove may reads c c' → P c') (routed : c.Routed)
    (holds : P c) (moves : ClientMoves may reads c c') : P c' := by
  induction moves with
  | refl => exact holds
  | tail moves move ih => exact step _ _ (ClientMoves.routed routed moves) ih move

@[simp] theorem ConnectionContext.removeIfClosed_clientToNetwork (f : ConnectionContext) :
    f.removeIfClosed.client.clientToNetwork = f.client.clientToNetwork := by
  unfold removeIfClosed
  split <;> rfl

theorem ClientMove.clientToNetwork (unread : ¬ reads) (move : ClientMove may reads c c') :
    c'.client.clientToNetwork = c.client.clientToNetwork := by
  cases move with
  | @acts _ _ _ f _ _ _ executes =>
      exact f.removeIfClosed_clientToNetwork.trans executes.client.clientToNetwork
  | @opens _ _ _ _ _ f _ _ _ _ executes =>
      exact f.removeIfClosed_clientToNetwork.trans executes.client.clientToNetwork
  | serves serves _ _ _ => exact serves.clientToNetwork
  | receives _ allowed => exact absurd allowed unread
  | sendsId _ _ => rfl
  | writes _ _ => rfl
  | closes => rfl

/-- A handler that does not read leaves the input buffer alone. -/
theorem ClientMoves.clientToNetwork (unread : ¬ reads) (moves : ClientMoves may reads c c') :
    c'.client.clientToNetwork = c.client.clientToNetwork := by
  induction moves with
  | refl => rfl
  | tail _ move ih => exact (move.clientToNetwork unread).trans ih

/-- Sequences of steps that start with the router in order are put together. -/
theorem foldlM_moves {α : Type} {f : ClientContext → α → Outcome ClientContext}
    (step : ∀ c a c', c.Routed → f c a = .ok c' → ClientMoves may reads c c') {l : List α}
    (routed : c.Routed) (h : l.foldlM f c = .ok c') : ClientMoves may reads c c' := by
  induction l generalizing c with
  | nil =>
      cases h
      exact .refl
  | cons a l ih =>
      rw [List.foldlM_cons] at h
      obtain ⟨c₁, first, rest⟩ := bind_eq_ok.mp h
      have moves := step _ _ _ routed first
      exact moves.trans (ih (moves.routed routed) rest)

end Moves

/-! ## The router -/

namespace Router

variable {may : ConnectionCall → Prop} {reads : Prop} {c c' : ClientContext} {id : ConnectionId}
  {packet : IpPacket} {answers : PacketAnswers}

/-- The connection is known, or was just created. -/
theorem connectionFor_ok {conn : Connection}
    (h : connectionFor c id packet answers = .ok (.ok (conn, c'))) :
    (c.connectionOf id = some conn ∧ c' = c) ∨
      (c.connectionOf id = none ∧ ∃ selector,
        createConnection c id packet answers = .ok (.ok (conn, selector)) ∧
          c' = insert c id conn selector) := by
  unfold connectionFor at h
  split at h
  · rename_i found
    cases h
    exact .inl ⟨found, rfl⟩
  · rename_i unknown
    obtain ⟨made, created, h⟩ := bind_eq_ok.mp h
    cases made with
    | error _ => cases h
    | ok made =>
        cases h
        exact .inr ⟨unknown, _, created, rfl⟩

/-- A packet that is delivered is one call. -/
theorem deliver_ok {conn : Connection} (same : conn.id = id) (isOpen : conn.isClosed = false)
    (h : deliver c id conn packet answers = .ok c') :
    ∃ f, (c.enter conn).Executes (.packet packet answers) f ∧ c' = c.leave f.removeIfClosed := by
  obtain ⟨f, sent, h⟩ := bind_eq_ok.mp h
  obtain ⟨acts, rules⟩ := ConnectionContext.sendToNetwork_acts isOpen sent
  refine ⟨f, ⟨acts, rules.imp_left fun refused => ⟨_, _, rfl, refused⟩, sent⟩, ?_⟩
  cases h
  split
  · rename_i closed
    rw [ConnectionContext.removeIfClosed_of_closed closed, ← same,
      ← show f.conn.id = conn.id from acts.id]
    rfl
  · rename_i isOpen'
    rw [ConnectionContext.removeIfClosed_of_open (by rwa [Bool.not_eq_true] at isOpen')]

theorem sendToNetwork_moves (sends : may (.packet packet answers)) (routed : c.Routed)
    (h : sendToNetwork c packet answers = .ok c') : ClientMoves may reads c c' := by
  unfold sendToNetwork at h
  split at h
  · cases h
    exact .refl
  rename_i id flow
  split at h
  · obtain ⟨found, lookup, h⟩ := bind_eq_ok.mp h
    cases found with
    | error _ =>
        cases h
        exact .refl
    | ok found =>
        obtain ⟨conn, c₁⟩ := found
        rcases connectionFor_ok lookup with ⟨known, rfl⟩ | ⟨unknown, selector, created, rfl⟩
        · obtain ⟨handle, place, same, isOpen⟩ := routed.connectionOf_some known
          obtain ⟨f, executes, rfl⟩ := deliver_ok same isOpen h
          exact .single (.acts place isOpen sends executes)
        · obtain ⟨-, same, isOpen, -⟩ := createConnection_ok created
          obtain ⟨f, executes, rfl⟩ := deliver_ok same isOpen h
          exact .single (.opens sends flow (routed.connectionOf_none unknown) created executes)
  · cases h
    exact .refl

/-- To close a connection changes nothing in the client. -/
theorem closeRoute_client (c : ClientContext) (route : ConnectionId × Handle) :
    (closeRoute c route).client = c.client := by
  unfold closeRoute
  split
  · rename_i conn _
    cases conn with
    | tcp _ => rfl
    | udp _ => rfl
    | ipv6 conn =>
        show (Ipv6Context.close ⟨conn, c.client, c.selector⟩).client = _
        unfold Ipv6Context.close
        split <;> rfl
  · rfl

/-- The client has no route left. -/
theorem clear_client (c : ClientContext) : (clear c).client = c.drain.client := by
  have cleared (routes : List (ConnectionId × Handle)) :
      ∀ c : ClientContext, (routes.foldl closeRoute c).client = c.client := by
    induction routes with
    | nil =>
        intro c
        rfl
    | cons route rest ih =>
        intro c
        exact (ih _).trans (closeRoute_client c route)
  exact cleared c.client.connections c.drain

/-- Draining the map first, or removing each connection as it closes, comes to the
same. -/
theorem closeRoute_drain {handle : Handle} {conn : Connection}
    (place : c.created[handle]? = some conn) (isOpen : conn.isClosed = false) :
    closeRoute c.drain (id, handle) =
      (c.leave (c.enter conn).close.removeIfClosed).drain := by
  have found : c.drain.created[(id, handle).2]? = some conn := place
  rw [closeRoute, found]
  cases conn with
  | tcp conn => rfl
  | udp conn => rfl
  | ipv6 conn =>
      have closes (client : Client) :=
        Ipv6Context.close_of_open (c := ⟨conn, client, c.selector⟩) isOpen
      show c.drain.leave (Ipv6Context.close ⟨conn, c.drain.client, c.selector⟩).asConnection =
        (c.leave (Ipv6Context.close ⟨conn, c.client, c.selector⟩).asConnection.removeIfClosed).drain
      rw [closes, closes]
      rfl

theorem clear_moves (closes : may .close) (routed : c.Routed) :
    ClientMoves may reads c (clear c) := by
  unfold clear
  generalize eq : c.client.connections = routes
  induction routes generalizing c with
  | nil =>
      have drained : c.drain = c := by
        rw [ClientContext.drain, ← eq]
      rw [List.foldl_nil, drained]
  | cons route rest ih =>
      obtain ⟨id, handle⟩ := route
      obtain ⟨conn, place, rfl, isOpen⟩ :=
        (routed.routes id handle).mp (eq ▸ List.mem_cons_self)
      obtain ⟨proceeds, closed⟩ := ConnectionContext.close_proceeds (c := c.enter conn) isOpen
      have move : ClientMove may reads c (c.leave (c.enter conn).close.removeIfClosed) :=
        .acts place isOpen closes (proceeds.executes rfl)
      have left : (c.leave (c.enter conn).close.removeIfClosed).client.connections = rest := by
        show (c.enter conn).close.removeIfClosed.client.connections = rest
        rw [ConnectionContext.removeIfClosed_connections, if_pos closed, proceeds.id,
          proceeds.client.connections]
        show (c.client.connections.filter fun route => route.1 ≠ conn.id) = rest
        have unique := routed.unique
        rw [eq, List.map_cons, List.nodup_cons] at unique
        rw [eq, List.filter_cons_of_neg (by simp), List.filter_eq_self]
        intro route mem
        rw [decide_eq_true_iff]
        intro same
        exact unique.1 (List.mem_map.mpr ⟨route, mem, same⟩)
      rw [List.foldl_cons, closeRoute_drain place isOpen]
      exact .head move (ih (move.routed routed) left)

/-- Leaving the router before expiring, or after it, comes to the same. -/
theorem removed_move (expires : may .expire) {handle : Handle} {conn : Connection}
    {f : ConnectionContext} (place : c.created[handle]? = some conn)
    (isOpen : conn.isClosed = false)
    (expired : ((c.removeConnection conn.id).enter conn).expire = .ok f) :
    ClientMove may reads c ((c.removeConnection conn.id).leave f) := by
  obtain ⟨proceeds, closed⟩ := ConnectionContext.expire_proceeds isOpen expired
  let g : ConnectionContext := f.withRoutes c.client.connections
  have serves : (c.enter conn).client.Serves g.client :=
    ⟨proceeds.client.id, proceeds.client.clientToNetwork, rfl, proceeds.client.closed,
      proceeds.client.pendingIdBytes, proceeds.client.stream⟩
  have lives : (c.enter conn).Lives g := by
    cases proceeds.lives with
    | stays closed tokens kept => exact .stays closed tokens kept
    | ends isOpen closed tokens gone => exact .ends isOpen closed tokens gone
  have last : (c.enter conn).Proceeds g :=
    ⟨⟨proceeds.handle, proceeds.id, serves, proceeds.others⟩, lives⟩
  have removed : g.client.removeConnection g.conn.id = f.client := by
    have connections : f.client.connections =
        c.client.connections.filter fun route => route.1 ≠ conn.id := proceeds.client.connections
    have id : g.conn.id = conn.id := proceeds.id
    rw [Client.removeConnection, id]
    show { f.client with connections := c.client.connections.filter fun route => route.1 ≠ conn.id } = _
    rw [← connections]
  have settled : (c.removeConnection conn.id).leave f = c.leave g.removeIfClosed := by
    rw [ConnectionContext.removeIfClosed_of_closed (c := g) closed,
      ConnectionContext.removeFromRouter, removed]
    rfl
  rw [settled]
  exact .acts place isOpen expires (last.executes ⟨_, f, expired, rfl⟩)

theorem expireRoute_moves (expires : may .expire) {route : ConnectionId × Handle}
    (routed : c.Routed) (h : expireRoute c route = .ok c') : ClientMoves may reads c c' := by
  unfold expireRoute at h
  split at h
  · rename_i conn found
    obtain ⟨f, expired, h⟩ := bind_eq_ok.mp h
    obtain ⟨handle, place, same, isOpen⟩ := routed.connectionOf_some found
    cases h
    rw [← same] at expired ⊢
    exact .single (removed_move expires place isOpen expired)
  · cases h
    exact .refl

/-- A connection that expires leaves its client as open as it was. -/
theorem expireRoute_closed {route : ConnectionId × Handle} (routed : c.Routed)
    (h : expireRoute c route = .ok c') : c'.client.closed = c.client.closed := by
  unfold expireRoute at h
  split at h
  · rename_i conn found
    obtain ⟨f, expired, rest⟩ := bind_eq_ok.mp h
    obtain ⟨handle, -, -, isOpen⟩ := routed.connectionOf_some found
    cases rest
    exact (ConnectionContext.expire_proceeds isOpen expired).1.client.closed
  · cases h
    rfl

theorem cleanExpiredConnections_moves (expires : may .expire) {clock : Handle → Instant}
    (routed : c.Routed) (h : cleanExpiredConnections c clock = .ok c') : ClientMoves may reads c c' :=
  foldlM_moves (fun _ _ _ routed h => expireRoute_moves expires routed h) routed h

end Router

end ReverseTether
