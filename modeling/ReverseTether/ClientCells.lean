import ReverseTether.ConnectionCells
import ReverseTether.RelayHandlers

/-!
# The handlers of a client and of its router, with their borrows

A client that runs is borrowed already.  It borrows its connections one at a time: to hand them
a packet, to pull the packet that waits in them, to close them or to let them expire.  They get
the channel of the client, and borrow nothing themselves.  When the client closes, it borrows
the tunnel server, which drops it.

`Closes` says this of a program: it borrows the connections of the client and the tunnel
server, does what its model does, and is dropped by the server if that closed the client, whose
routes are gone then.

The client hands its own channel down instead of letting a connection upgrade its pointer, and
that is why the reaper and the router can call the same methods under a borrow that would
otherwise be refused.  The two ways of calling are two programs here, as they are in the
source.

`Closes` is proved from the inside to the outside: of the methods of the router, of the
writing and of the reading half of an event, and in the end of the event itself.
-/

namespace ReverseTether

open Library

/-- `Vec::swap_remove`. -/
def swapRemove {α : Type} (items : List α) (index : ℕ) : List α :=
  match items.getLast? with
  | some last => (items.set index last).dropLast
  | none => items

namespace TunnelServer

/-- The client is found by its pointer. -/
def removeClient (server : TunnelServer) (k : ClientHandle) : Except RelayPanic TunnelServer :=
  if k ∈ server.clients then
    .ok { server with clients := swapRemove server.clients (server.clients.idxOf k) }
  else .error .unknownClient

end TunnelServer

/-! ## The router -/

namespace RouterCells

open Sharing

variable (k : ClientHandle)

/-- A new connection borrows itself while it is registered. -/
def createConnection (c : ClientContext) (id : ConnectionId) (packet : IpPacket)
    (answers : PacketAnswers) : Sharing (IoResult (Connection × Selector)) :=
  Celled.borrowMut (.connection k c.created.length)
    (call (Router.createConnection c id packet answers))

/-- The connection of a flow, made when there is none; a failure to make it is only reported. -/
def connectionFor (c : ClientContext) (id : ConnectionId) (packet : IpPacket)
    (answers : PacketAnswers) : Sharing (IoResult (Connection × ClientContext)) :=
  match c.connectionOf id with
  | some conn => return .ok (conn, c)
  | none => do
      match ← createConnection k c id packet answers with
      | .ok (conn, selector) => return .ok (conn, Router.insert c id conn selector)
      | .error err => return .error err

/-- The packet is handed to its connection, which leaves the router at once if that closed it. -/
def deliver (c : ClientContext) (id : ConnectionId) (conn : Connection) (packet : IpPacket)
    (answers : PacketAnswers) : Sharing ClientContext := do
  let f ← Celled.borrowMut (.connection k conn.handle)
    (call ((c.enter conn).sendToNetwork packet answers))
  return if f.conn.isClosed then (c.leave f).removeConnection id else c.leave f

/-- `Router::send_to_network`: what is of no flow the relay knows, or not valid, is dropped. -/
def sendToNetwork (c : ClientContext) (packet : IpPacket) (answers : PacketAnswers) :
    Sharing ClientContext :=
  match ConnectionId.fromPacket packet with
  | none => return c
  | some id =>
      if Router.isValid packet then do
        match ← connectionFor k c id packet answers with
        | .ok (conn, c) => deliver k c id conn packet answers
        | .error _ => return c
      else return c

/-- `Router::clear`: the routes are drained first, and each connection is borrowed to be closed. -/
def clear (c : ClientContext) : Sharing ClientContext :=
  c.client.connections.foldlM
    (fun c route => Celled.borrowMut (.connection k route.2) (return Router.closeRoute c route))
    c.drain

/-- The route is removed before its connection is borrowed to be reset, so that it does not find
itself there. -/
def expireRoute (c : ClientContext) (route : ConnectionId × Handle) : Sharing ClientContext :=
  match c.connectionOf route.1 with
  | some conn => do
      let c := c.removeConnection route.1
      let f ← Celled.borrowMut (.connection k conn.handle) (call (c.enter conn).expire)
      return c.leave f
  | none => return c

/-- Each connection is borrowed to be asked, and those that have expired once more. -/
def cleanExpiredConnections (c : ClientContext) (clock : Handle → Instant) :
    Sharing ClientContext := do
  let expired ← c.client.connections.foldlM
    (fun expired route => do
      let isExpired ← Celled.borrow (.connection k route.2)
        (return (c.created[route.2]?).any fun conn => conn.isExpired (clock route.2))
      return if isExpired then expired ++ [route] else expired)
    []
  expired.foldlM (expireRoute k) c

end RouterCells

/-! ## The handlers of the client -/

namespace ClientCells

open Sharing

variable (k : ClientHandle)

/-- The close listener.  The relay holds the tunnel server, so that its weak pointer can always
be upgraded. -/
def onClosed : Sharing Unit :=
  Celled.borrowMut .tunnelServer (Celled.shared fun s =>
    match s.server.removeClient k with
    | .ok server => .ok ((), { s with server })
    | .error panic => .error panic)

/-- `Client::close`: the socket is deregistered, every connection is closed, and the tunnel server
forgets the client. -/
def close (c : ClientContext) : Sharing ClientContext :=
  let (deregistered, selector) := c.selector.deregister .client
  if deregistered then do
    let c ← RouterCells.clear k { c with client := { c.client with closed := true }, selector }
    onClosed k
    return c
  else call (.error .cannotRegister)

/-- A source that stays pending is put back once its borrow has ended, into a field of the
client. -/
def pull (c : ClientContext) (source : Handle) : Sharing ClientContext :=
  Celled.borrowMut (.connection k source) (call (c.pull source))

/-- Every connection that waited is asked once, in the order in which they began to wait. -/
def processPending (c : ClientContext) : Sharing ClientContext :=
  c.client.pendingPacketSources.foldlM (pull k)
    { c with client := { c.client with pendingPacketSources := [] } }

/-- The id goes first; behind it a write that made room lets the waiting connections go on. -/
def processSend (c : ClientContext) (write : IoResult ℕ) :
    Sharing (IoResult Unit × ClientContext) :=
  if c.client.mustSendId then do
    match ← call (c.sendId write) with
    | (.ok (), c) => return (.ok (), c)
    | (.error .wouldBlock, c) => return (.error .wouldBlock, c)
    | (.error .other, c) => return (.ok (), ← close k c)
  else
    match c.write write with
    | (.ok (), c) => do return (.ok (), ← processPending k c)
    | (.error _, c) => do return (.ok (), ← close k c)

/-- The packets routed so far are counted. -/
def pushOnePacketToNetwork (packets : ℕ → PacketAnswers) (buffer : IpPacketBuffer)
    (s : ℕ × ClientContext) : Sharing (Bool × ℕ × ClientContext) := do
  match ← call buffer.packet with
  | .ok (some packet) => do
      let c ← RouterCells.sendToNetwork k s.2 packet (packets s.1)
      return (true, s.1 + 1, c)
  | .ok none => return (false, s)
  | .error (.unsupported _) => return (true, s)
  | .error (.malformed _) => do
      let c ← close k s.2
      return (false, s.1, c)

/-- The loop, with a bound on its rounds. -/
def pushToNetworkLoop (packets : ℕ → PacketAnswers) :
    ℕ → IpPacketBuffer → ℕ × ClientContext → Sharing (IpPacketBuffer × ℕ × ClientContext)
  | 0, _, _ => call (.error .divergence)
  | rounds + 1, buffer, s => do
      match ← pushOnePacketToNetwork k packets buffer s with
      | (false, s) => return (buffer, s)
      | (true, s) =>
          match ← call buffer.next with
          | (.ok true, buffer) => pushToNetworkLoop packets rounds buffer s
          | (.ok false, buffer) => return (buffer, s)
          | (.error _, buffer) => do
              let c ← close k s.2
              return (buffer, s.1, c)

/-- `Client::push_to_network`: all packets that are complete, one after the other. -/
def pushToNetwork (c : ClientContext) (packets : ℕ → PacketAnswers) : Sharing ClientContext := do
  let (clientToNetwork, _, c) ← pushToNetworkLoop k packets
    (c.client.clientToNetwork.peek.length + 1) c.client.clientToNetwork (0, c)
  return { c with client := { c.client with clientToNetwork } }

/-- One read, and the packets it completes; the end of the stream and errors close the client. -/
def processReceive (c : ClientContext) (read : IoResult (List UInt8)) (packets : ℕ → PacketAnswers) :
    Sharing (IoResult Unit × ClientContext) :=
  match c.client.clientToNetwork.readFrom read with
  | (.ok true, clientToNetwork) => do
      let c ← pushToNetwork k { c with client := { c.client with clientToNetwork } } packets
      return (.ok (), c)
  | (.ok false, clientToNetwork) => do
      let c ← close k { c with client := { c.client with clientToNetwork } }
      return (.ok (), c)
  | (.error .wouldBlock, _) => return (.error .wouldBlock, c)
  | (.error .other, _) => do return (.ok (), ← close k c)

/-- `Client::process`: the writable half first, and the readable half if the client is still open.
-/
def process (c : ClientContext) (ready : Ready) (answers : EventAnswers) :
    Sharing (IoResult Unit × ClientContext) :=
  if c.client.closed then return (.ok (), c)
  else
    Sharing.orReturn
      (if ready.isWritable then processSend k c answers.socket.write else return (.ok (), c))
      fun c =>
        Sharing.orReturn
          (if c.client.closed = false ∧ ready.isReadable then
            processReceive k c answers.socket.read answers.packets
          else return (.ok (), c))
          fun c => do
            let c ← call (if c.client.closed then .ok c else c.updateInterests)
            return (.ok (), c)

/-- The handler a client registers its socket with, once its own cell is borrowed. -/
def onReady (c : ClientContext) (ready : Ready) (answers : EventAnswers) :
    Sharing ClientContext := do
  let (result, c) ← process k c ready answers
  match result with
  | .ok () => return c
  | .error .wouldBlock => return c
  | .error .other => if c.client.closed then return c else close k c

end ClientCells

/-! ## What the router does -/

/-- The cells of the connections of a client. -/
def Cell.connections (k : ClientHandle) : Set Cell := {cell | ∃ handle, cell = .connection k handle}

namespace RouterCells

variable {k : ClientHandle} {pre : Owners → Prop}

/-- A connection is called while its cell is borrowed. -/
theorem borrowMut_returns {α : Type} {x : Sharing α} {m : Outcome α} (handle : Handle)
    (body : Returns ∅ pre x m) :
    Returns (Cell.connections k) pre (Celled.borrowMut (.connection k handle) x) m :=
  Computes.borrowMut ⟨handle, rfl⟩ (body.mono (Set.empty_subset _) fun _ holds => holds)

/-- A connection is created while its new cell is borrowed, and nothing else is. -/
theorem createConnection_returns (c : ClientContext) (id : ConnectionId) (packet : IpPacket)
    (answers : PacketAnswers) : Returns (Cell.connections k) pre (createConnection k c id packet answers)
      (Router.createConnection c id packet answers) :=
  borrowMut_returns _ (.call _)

/-- A flow that is routed borrows nothing; a new flow borrows the cell of its connection. -/
theorem connectionFor_returns (c : ClientContext) (id : ConnectionId) (packet : IpPacket)
    (answers : PacketAnswers) : Returns (Cell.connections k) pre (connectionFor k c id packet answers)
      (Router.connectionFor c id packet answers) := by
  unfold connectionFor Router.connectionFor
  cases c.connectionOf id with
  | some conn => exact .ok _
  | none =>
      refine (createConnection_returns c id packet answers).bind fun made _ => ?_
      cases made with
      | error err => exact .ok _
      | ok made => exact .ok _

/-- A packet is delivered while the cell of its connection is borrowed. -/
theorem deliver_returns (c : ClientContext) (id : ConnectionId) (conn : Connection)
    (packet : IpPacket) (answers : PacketAnswers) : Returns (Cell.connections k) pre
      (deliver k c id conn packet answers) (Router.deliver c id conn packet answers) :=
  (borrowMut_returns _ (.call _)).map _

/-- **A packet is routed with one cell borrowed at a time**: the one of a new connection is given
back before the packet is delivered to it. -/
theorem sendToNetwork_returns (c : ClientContext) (packet : IpPacket) (answers : PacketAnswers) :
    Returns (Cell.connections k) pre (sendToNetwork k c packet answers)
      (Router.sendToNetwork c packet answers) := by
  unfold sendToNetwork Router.sendToNetwork
  cases ConnectionId.fromPacket packet with
  | none => exact .ok c
  | some id =>
      refine .ite ?_ (.ok c)
      refine (connectionFor_returns c id packet answers).bind fun found _ => ?_
      cases found with
      | error err => exact .ok c
      | ok found => exact deliver_returns _ _ _ packet answers

/-- The router closes its connections one after the other. -/
theorem clear_returns (c : ClientContext) :
    Returns (Cell.connections k) pre (clear k c) (.ok (Router.clear c)) := by
  have closes : Returns (Cell.connections k) pre (clear k c)
      (c.client.connections.foldlM (fun c route => pure (Router.closeRoute c route)) c.drain) :=
    Returns.foldlM (fun _ (route : ConnectionId × Handle) => borrowMut_returns route.2 (.ok _)) _
      c.drain
  rwa [List.foldlM_pure] at closes

/-- A connection that has expired is borrowed to be closed. -/
theorem expireRoute_returns (c : ClientContext) (route : ConnectionId × Handle) :
    Returns (Cell.connections k) pre (expireRoute k c route) (Router.expireRoute c route) := by
  unfold expireRoute Router.expireRoute
  cases c.connectionOf route.1 with
  | some conn => exact (borrowMut_returns _ (.call _)).map _
  | none => exact .ok c

/-- The cells are borrowed to be asked whether they expired, and again to be closed. -/
theorem cleanExpiredConnections_returns (c : ClientContext) (clock : Handle → Instant) :
    Returns (Cell.connections k) pre (cleanExpiredConnections k c clock)
      (Router.cleanExpiredConnections c clock) := by
  let isExpired (route : ConnectionId × Handle) : Bool :=
    (c.created[route.2]?).any fun conn => conn.isExpired (clock route.2)
  have asks (routes : List (ConnectionId × Handle)) : ∀ expired : List (ConnectionId × Handle),
      Returns (Cell.connections k) pre
        (routes.foldlM (fun expired route => do
            let isExpired ← Celled.borrow (.connection k route.2) (return isExpired route)
            return if isExpired then expired ++ [route] else expired)
          expired)
        (.ok (expired ++ routes.filter isExpired)) := by
    induction routes with
    | nil =>
        intro expired
        rw [List.filter_nil, List.append_nil]
        exact .ok expired
    | cons route rest ih =>
        intro expired
        have asked : Returns (Cell.connections k) pre
            (do
              let isExpired ← Celled.borrow (.connection k route.2) (return isExpired route)
              return if isExpired then expired ++ [route] else expired)
            (.ok (if isExpired route then expired ++ [route] else expired)) := by
          have answered : Returns (Cell.connections k) pre
              (Celled.borrow (.connection k route.2) (return isExpired route))
              (.ok (isExpired route)) := Computes.borrow ⟨route.2, rfl⟩ (Returns.ok _)
          exact answered.map _
        have collected : expired ++ (route :: rest).filter isExpired =
            (if isExpired route then expired ++ [route] else expired) ++ rest.filter isExpired := by
          rw [List.filter_cons]
          split
          · rw [List.append_assoc, List.singleton_append]
          · rfl
        rw [List.foldlM_cons, collected]
        exact asked.bind fun expired _ => ih expired
  exact Returns.bind (m := .ok (c.client.connections.filter isExpired)) (asks _ [])
    fun expired _ => Returns.foldlM expireRoute_returns expired c

end RouterCells

/-! ## What the client does -/

/-- The client is one of those of the tunnel server, as every client is that is open. -/
def Owners.Listed (k : ClientHandle) (s : Owners) : Prop := k ∈ s.server.clients

/-- The tunnel server has dropped a client. -/
def Owners.without (s : Owners) (k : ClientHandle) : Owners :=
  { s with server := { s.server with
    clients := swapRemove s.server.clients (s.server.clients.idxOf k) } }

/-- The client of the result `ctx a` is dropped if it has closed. -/
def leaving {α : Type} (k : ClientHandle) (ctx : α → ClientContext) (m : Outcome α) :
    StateT Owners (Except RelayPanic) α := fun s =>
  match m with
  | .ok a => .ok (a, if (ctx a).client.closed then s.without k else s)
  | .error panic => .error (.code panic)

/-- What a client can borrow: its connections and the tunnel server. -/
def Cell.below (k : ClientHandle) : Set Cell := insert .tunnelServer (Cell.connections k)

/-- The cells of the connections are below the client. -/
theorem Cell.connections_subset_below (k : ClientHandle) : Cell.connections k ⊆ Cell.below k :=
  Set.subset_insert _ _

/-- **What a handler of an open client does.**  It ends with its flags as they were; if it closes
the client, the owners have forgotten it and its router is empty. -/
structure Closes {α : Type} (k : ClientHandle) (ctx : α → ClientContext) (x : Sharing α)
    (m : Outcome α) : Prop where
  computes : Computes (Cell.below k) (Owners.Listed k) x (leaving k ctx m)
  cleared : ∀ a, m = .ok a → (ctx a).client.closed = true → (ctx a).client.connections = []

namespace Closes

variable {α β : Type} {k : ClientHandle} {ctx : α → ClientContext} {ctx' : β → ClientContext}
  {x : Sharing α} {m : Outcome α} {f : α → Sharing β} {g : α → Outcome β}

/-- The client stays open. -/
theorem of_returns (returns : Returns (Cell.below k) (Owners.Listed k) x m)
    (stays : ∀ a, m = .ok a → (ctx a).client.closed = false) : Closes k ctx x m where
  computes flags s unused listed := by
    rw [returns flags s unused listed]
    cases m with
    | error panic => rfl
    | ok a =>
        show Except.ok (a, flags, s) = .ok (a, flags, if (ctx a).client.closed then _ else s)
        rw [if_neg (by rw [stays a rfl]; exact Bool.false_ne_true)]
  cleared a eq closed := absurd ((stays a eq).symm.trans closed) Bool.false_ne_true

/-- First something that leaves the owners alone. -/
theorem after (returns : Returns (Cell.below k) (Owners.Listed k) x m)
    (rest : ∀ a, m = .ok a → Closes k ctx' (f a) (g a)) : Closes k ctx' (x >>= f) (m >>= g) where
  computes flags s unused listed := by
    rw [StateT.run_bind, returns flags s unused listed]
    cases m with
    | error panic => rfl
    | ok a => exact (rest a rfl).computes flags s unused listed
  cleared b eq closed := by
    obtain ⟨a, first, rest_eq⟩ := bind_eq_ok.mp eq
    exact (rest a first).cleared b rest_eq closed

/-- After a part that may close the client; once it is closed, the rest returns at once. -/
theorem bind (first : Closes k ctx x m)
    (rest : ∀ a, m = .ok a → (ctx a).client.closed = false → Closes k ctx' (f a) (g a))
    (done : ∀ a, m = .ok a → (ctx a).client.closed = true → ∃ b, f a = pure b ∧ g a = .ok b ∧
      (ctx' b).client.closed = true ∧
      (ctx' b).client.connections = (ctx a).client.connections) :
    Closes k ctx' (x >>= f) (m >>= g) where
  computes flags s unused listed := by
    rw [StateT.run_bind, first.computes flags s unused listed]
    cases m with
    | error panic => rfl
    | ok a =>
        show (f a).run (flags, if (ctx a).client.closed then s.without k else s) =
          returning flags ((leaving k ctx' (g a)).run s)
        cases closed : (ctx a).client.closed with
        | false => exact (rest a rfl closed).computes flags s unused listed
        | true =>
            obtain ⟨b, returned, same, closed', -⟩ := done a rfl closed
            rw [returned, same]
            show Except.ok (b, flags, s.without k) =
              .ok (b, flags, if (ctx' b).client.closed then s.without k else s)
            rw [if_pos closed']
  cleared b eq closed := by
    obtain ⟨a, made, rest_eq⟩ := bind_eq_ok.mp eq
    cases before : (ctx a).client.closed with
    | false => exact (rest a made before).cleared b rest_eq closed
    | true =>
        obtain ⟨b', -, same, -, connections⟩ := done a made before
        cases same.symm.trans rest_eq
        rw [connections, first.cleared a made before]

/-- The result is put into another form. -/
theorem map {f : α → β} (first : Closes k ctx x m)
    (closed : ∀ a, (ctx' (f a)).client.closed = (ctx a).client.closed)
    (connections : ∀ a, (ctx' (f a)).client.connections = (ctx a).client.connections) :
    Closes k ctx' (x >>= fun a => pure (f a)) (m >>= fun a => pure (f a)) := by
  refine first.bind (fun a _ isOpen => ?_) fun a _ isClosed => ?_
  · refine of_returns (.ok (f a)) fun b eq => ?_
    cases eq
    rw [closed, isOpen]
  · exact ⟨f a, rfl, rfl, (closed a).trans isClosed, connections a⟩

/-- Both ways of a test. -/
theorem ite {p : Prop} [Decidable p] {x' : Sharing α} {m' : Outcome α} (left : p → Closes k ctx x m)
    (right : ¬ p → Closes k ctx x' m') :
    Closes k ctx (if p then x else x') (if p then m else m') := by
  split
  · exact left ‹_›
  · exact right ‹_›

end Closes

namespace ClientContext

variable {c c' : ClientContext}

/-- Sending the id does not close the client. -/
theorem sendId_closed {write : IoResult ℕ} {result : IoResult Unit}
    (h : c.sendId write = .ok (result, c')) : c'.client.closed = c.client.closed := by
  unfold sendId at h
  split at h
  · cases write with
    | error _ =>
        cases h
        rfl
    | ok n =>
        cases h
        rfl
  · cases h

/-- Neither does writing: it is the caller that closes on an error. -/
theorem write_closed (c : ClientContext) (write : IoResult ℕ) :
    (c.write write).2.client.closed = c.client.closed := by
  unfold ClientContext.write
  split <;> rfl

/-- Neither do the interests. -/
theorem updateInterests_closed (h : c.updateInterests = .ok c') :
    c'.client.closed = c.client.closed := by
  obtain ⟨⟨client, selector⟩, updated, rest⟩ := bind_eq_ok.mp h
  cases rest
  exact (Client.updateInterests_ok updated).1.closed

/-- Neither does a packet taken from a connection that waits. -/
theorem pull_closed {source : Handle} (h : c.pull source = .ok c') :
    c'.client.closed = c.client.closed := by
  unfold pull at h
  split at h
  · split at h
    · cases h
    · obtain ⟨⟨sent, client, selector⟩, offered, h⟩ := bind_eq_ok.mp h
      have serves := Client.Serves.of_sendRawToClient offered
      have delivers {conn : TcpConnection} {f : TcpContext}
          (next : TcpContext.next ⟨conn, client, selector⟩ = .ok f) :
          f.client.closed = c.client.closed :=
        (TcpContext.next_proceeds next).2.2.client.closed.trans serves.closed
      match sent with
      | .error .wouldBlock =>
          cases h
          exact serves.closed
      | .ok () =>
          obtain ⟨f, next, rest⟩ := bind_eq_ok.mp h
          cases rest
          exact delivers next
      | .error .other =>
          obtain ⟨f, next, rest⟩ := bind_eq_ok.mp h
          cases rest
          exact delivers next
  · cases h

/-- Neither does the whole list of those that wait. -/
theorem processPending_closed (h : c.processPending = .ok c') :
    c'.client.closed = c.client.closed := by
  have pulls (sources : List Handle) : ∀ c c' : ClientContext,
      sources.foldlM pull c = .ok c' → c'.client.closed = c.client.closed := by
    induction sources with
    | nil =>
        intro c c' h
        cases h
        rfl
    | cons source rest ih =>
        intro c c' h
        rw [List.foldlM_cons] at h
        obtain ⟨c₁, pulled, h⟩ := bind_eq_ok.mp h
        rw [ih c₁ c' h, pull_closed pulled]
  have pulled := pulls c.client.pendingPacketSources _ c' h
  exact pulled

end ClientContext

/-- A connection that closes leaves its client open. -/
theorem ConnectionContext.removeIfClosed_closed (f : ConnectionContext) :
    f.removeIfClosed.client.closed = f.client.closed := by
  unfold removeIfClosed
  split <;> rfl

/-- A packet routed leaves the client open, whatever becomes of its connection. -/
theorem Router.sendToNetwork_closed {c c' : ClientContext} {packet : IpPacket}
    {answers : PacketAnswers} (routed : c.Routed)
    (h : Router.sendToNetwork c packet answers = .ok c') :
    c'.client.closed = c.client.closed := by
  have delivers {c c' : ClientContext} {id : ConnectionId} {conn : Connection}
      (same : conn.id = id) (isOpen : conn.isClosed = false)
      (h : Router.deliver c id conn packet answers = .ok c') :
      c'.client.closed = c.client.closed := by
    obtain ⟨f, executes, rfl⟩ := Router.deliver_ok same isOpen h
    exact f.removeIfClosed_closed.trans executes.client.closed
  unfold Router.sendToNetwork at h
  split at h
  · cases h
    rfl
  · split at h
    · obtain ⟨found, lookup, h⟩ := bind_eq_ok.mp h
      cases found with
      | error _ =>
          cases h
          rfl
      | ok found =>
          obtain ⟨conn, c₁⟩ := found
          rcases Router.connectionFor_ok lookup with ⟨known, rfl⟩ | ⟨-, selector, created, rfl⟩
          · obtain ⟨handle, -, same, isOpen⟩ := routed.connectionOf_some known
            exact delivers same isOpen h
          · obtain ⟨-, same, isOpen, -⟩ := Router.createConnection_ok created
            have delivered := delivers same isOpen h
            exact delivered
    · cases h
      rfl

namespace ClientCells

open ClientContext (Routed)

variable {k : ClientHandle} {c : ClientContext}

/-- **The callback of a client that closes borrows the tunnel server**, and finds the client in its
list.  It is called by the client while that is borrowed, so what matters is that it borrows
nothing else. -/
theorem onClosed_computes :
    Computes {.tunnelServer} (Owners.Listed k) (onClosed k) (fun s => .ok ((), s.without k)) := by
  refine Computes.congr (Computes.borrowMut rfl (Computes.shared _)) fun s listed => ?_
  have found : s.server.removeClient k = .ok (s.without k).server := if_pos listed
  show (match s.server.removeClient k with
    | .ok server => Except.ok ((), { s with server })
    | .error panic => .error panic) = _
  rw [found]
  rfl

/-- **A client that closes closes its connections, and is dropped.**  Each connection is reached
through the router and closed on its own, which borrows the connection and asks nothing of the
client; only then is the callback called. -/
theorem close_closes (c : ClientContext) : Closes k id (close k c) c.close := by
  unfold close ClientContext.close
  refine .ite (fun _ => ?_) fun _ => .of_returns (.call _) nofun
  have clears (c : ClientContext) : Returns (Cell.connections k) (fun _ => True)
      (RouterCells.clear k c) (.ok (Router.clear c)) := RouterCells.clear_returns c
  refine ⟨fun flags s unused listed => ?_, fun c' eq _ => ?_⟩
  · rw [StateT.run_bind, clears _ flags s (unused.mono (Cell.connections_subset_below k)) trivial]
    show (onClosed k >>= fun _ => pure _).run (flags, s) = _
    rw [StateT.run_bind, onClosed_computes flags s
      (unused.mono (Set.singleton_subset_iff.mpr (Set.mem_insert _ _))) listed]
    show Except.ok (_, flags, s.without k) =
      .ok (_, flags, if (Router.clear _).client.closed then s.without k else s)
    rw [Router.clear_client]
    rfl
  · cases eq
    exact congrArg Client.connections (Router.clear_client _)

/-- The client closes, and the event returns. -/
theorem closeAndReturn_closes (c : ClientContext) :
    Closes k Prod.snd (do return ((.ok () : IoResult Unit), ← close k c))
      (do return (.ok (), ← c.close)) :=
  (close_closes c).map (fun _ => rfl) fun _ => rfl

/-- The same for the front of the input, which keeps its count. -/
theorem closeFront_closes {α : Type} {ctx : α → ClientContext} {packets : ℕ → PacketAnswers}
    {err : PacketParseError} (s : ℕ × ClientContext) (f : ℕ × ClientContext → α)
    (same : ∀ r, ctx (f r) = r.2) :
    Closes k ctx (close k s.2 >>= fun c => pure (f (s.1, c)))
      ((ClientContext.handlers packets).close err s >>= fun r => pure (f r)) := by
  have counted : ((ClientContext.handlers packets).close err s >>= fun r => pure (f r)) =
      s.2.close >>= fun c => pure (f (s.1, c)) := by
    show (s.2.close >>= fun c => pure (s.1, c)) >>= (fun r => pure (f r)) = _
    rw [bind_assoc]
    rfl
  rw [counted]
  refine (close_closes s.2).map (fun c => ?_) fun c => ?_
  · rw [same]
    rfl
  · rw [same]
    rfl

/-- What the router does with its connections is done below the client. -/
theorem below_returns {α : Type} {pre : Owners → Prop} {x : Sharing α} {m : Outcome α}
    (returns : Returns (Cell.connections k) pre x m) : Returns (Cell.below k) pre x m :=
  returns.mono (Cell.connections_subset_below k) fun _ holds => holds

/-- Each connection that waits is borrowed in its turn. -/
theorem processPending_returns {pre : Owners → Prop} (c : ClientContext) :
    Returns (Cell.connections k) pre (processPending k c) c.processPending :=
  Returns.foldlM (fun _ source => RouterCells.borrowMut_returns source (.call _)) _ _

/-- **The write path closes the client on an error.**  An error of the socket is treated like any
other, also one that says that the write would block. -/
theorem processSend_closes (isOpen : c.client.closed = false) (write : IoResult ℕ) :
    Closes k Prod.snd (processSend k c write) (c.processSend write) := by
  refine .ite (fun _ => ?_) fun _ => ?_
  · refine .after (.call _) fun p sent => ?_
    have stays : p.2.client.closed = false := (ClientContext.sendId_closed sent).trans isOpen
    match p with
    | (.ok (), c) => exact .of_returns (.ok _) fun a eq => by cases eq; exact stays
    | (.error .wouldBlock, c) => exact .of_returns (.ok _) fun a eq => by cases eq; exact stays
    | (.error .other, c) => exact closeAndReturn_closes c
  · have stays := (ClientContext.write_closed c write).trans isOpen
    generalize c.write write = p at stays
    match p with
    | (.ok (), c) =>
        refine .of_returns ((below_returns (processPending_returns c)).map _) fun a eq => ?_
        obtain ⟨c', pulled, rest⟩ := bind_eq_ok.mp eq
        cases rest
        exact (ClientContext.processPending_closed pulled).trans stays
    | (.error _, c) => exact closeAndReturn_closes c

/-- **The front of the input is pushed, or closes the client**, when it is no packet.  The packet
is routed while the client is borrowed, and a connection that answers it at once finds the client
through the reference it is handed, not through its cell. -/
theorem pushOnePacketToNetwork_closes {packets : ℕ → PacketAnswers} {buffer : IpPacketBuffer}
    {s : ℕ × ClientContext} (isOpen : s.2.client.closed = false) (routed : s.2.Routed) :
    Closes k (fun r => r.2.2) (pushOnePacketToNetwork k packets buffer s)
      (ReverseTether.pushOnePacketToNetwork (ClientContext.handlers packets) buffer s) := by
  refine .after (.call _) fun parsed _ => ?_
  match parsed with
  | .ok (some packet) =>
      have counted : (do return (true, ← (ClientContext.handlers packets).route packet s)) =
          Router.sendToNetwork s.2 packet (packets s.1) >>= fun c => pure (true, s.1 + 1, c) := by
        show (Router.sendToNetwork s.2 packet (packets s.1) >>= fun c => pure (s.1 + 1, c)) >>=
          (fun r => pure (true, r)) = _
        rw [bind_assoc]
        rfl
      simp only [counted]
      refine .of_returns ((below_returns
        (RouterCells.sendToNetwork_returns s.2 packet (packets s.1))).map _) fun a eq => ?_
      obtain ⟨c', sent, rest⟩ := bind_eq_ok.mp eq
      cases rest
      exact (Router.sendToNetwork_closed routed sent).trans isOpen
  | .ok none => exact .of_returns (.ok _) fun a eq => by cases eq; exact isOpen
  | .error (.unsupported _) => exact .of_returns (.ok _) fun a eq => by cases eq; exact isOpen
  | .error (.malformed _) => exact closeFront_closes s (fun r => (false, r)) fun _ => rfl

/-- The loop goes on with an open client, and a router in order. -/
theorem pushOnePacketToNetwork_goesOn {packets : ℕ → PacketAnswers} {buffer : IpPacketBuffer}
    {s s' : ℕ × ClientContext} (isOpen : s.2.client.closed = false) (routed : s.2.Routed)
    (h : ReverseTether.pushOnePacketToNetwork (ClientContext.handlers packets) buffer s =
      .ok (true, s')) : s'.2.client.closed = false ∧ s'.2.Routed := by
  obtain ⟨parsed, -, h⟩ := bind_eq_ok.mp h
  match parsed with
  | .ok (some packet) =>
      obtain ⟨s₁, routes, rest⟩ := bind_eq_ok.mp h
      obtain ⟨c', sent, counted⟩ := bind_eq_ok.mp routes
      cases rest
      cases counted
      have moves : ClientMoves (fun _ => True) True s.2 c' :=
        Router.sendToNetwork_moves trivial routed sent
      exact ⟨(Router.sendToNetwork_closed routed sent).trans isOpen, moves.routed routed⟩
  | .ok none => cases h
  | .error (.unsupported _) =>
      cases h
      exact ⟨isOpen, routed⟩
  | .error (.malformed _) =>
      obtain ⟨s₁, -, rest⟩ := bind_eq_ok.mp h
      cases rest

/-- The same for as long as there are packets.  A client that was closed is not pushed to again. -/
theorem pushToNetworkLoop_closes {packets : ℕ → PacketAnswers} (rounds : ℕ)
    {buffer : IpPacketBuffer} {s : ℕ × ClientContext} (isOpen : s.2.client.closed = false)
    (routed : s.2.Routed) :
    Closes k (fun r => r.2.2) (pushToNetworkLoop k packets rounds buffer s)
      (ReverseTether.pushToNetworkLoop (ClientContext.handlers packets) rounds buffer s) := by
  induction rounds generalizing buffer s with
  | zero => exact .of_returns (.call _) nofun
  | succ rounds ih =>
      refine (pushOnePacketToNetwork_closes isOpen routed).bind (fun r pushed stays => ?_)
        fun r pushed closed => ?_
      · match r with
        | (false, s') => exact .of_returns (.ok _) fun a eq => by cases eq; exact stays
        | (true, s') =>
            have goesOn := pushOnePacketToNetwork_goesOn isOpen routed pushed
            refine .after (.call _) fun next _ => ?_
            match next with
            | (.ok true, buffer') => exact ih goesOn.1 goesOn.2
            | (.ok false, buffer') => exact .of_returns (.ok _) fun a eq => by cases eq; exact stays
            | (.error err, buffer') =>
                exact closeFront_closes s' (fun r => (buffer', r)) fun _ => rfl
      · match r with
        | (false, s') => exact ⟨_, rfl, rfl, closed, rfl⟩
        | (true, s') =>
            have goesOn := pushOnePacketToNetwork_goesOn isOpen routed pushed
            exact absurd (goesOn.1.symm.trans closed) Bool.false_ne_true

/-- The same for all of the input. -/
theorem pushToNetwork_closes (isOpen : c.client.closed = false) (routed : c.Routed)
    (packets : ℕ → PacketAnswers) :
    Closes k id (pushToNetwork k c packets) (c.pushToNetwork packets) := by
  unfold pushToNetwork ClientContext.pushToNetwork ReverseTether.pushToNetwork
  exact (pushToNetworkLoop_closes _ (s := (0, c)) isOpen routed).map (fun _ => rfl) fun _ => rfl

/-- **The read path closes the client** at the end of the stream, on an error and on a front that
is no packet.  Whatever was complete in the input before that has been pushed by then. -/
theorem processReceive_closes {packets : ℕ → PacketAnswers} (isOpen : c.client.closed = false)
    (routed : c.Routed) (read : IoResult (List UInt8)) :
    Closes k Prod.snd (processReceive k c read packets) (c.processReceive read packets) := by
  unfold processReceive ClientContext.processReceive
  generalize c.client.clientToNetwork.readFrom read = answer
  match answer with
  | (.ok true, clientToNetwork) =>
      have pushed := pushToNetwork_closes (k := k)
        (c := { c with client := { c.client with clientToNetwork } }) isOpen (routed.congr rfl rfl)
        packets
      exact pushed.map (fun _ => rfl) fun _ => rfl
  | (.ok false, clientToNetwork) => exact closeAndReturn_closes _
  | (.error .wouldBlock, _) => exact .of_returns (.ok _) fun a eq => by cases eq; exact isOpen
  | (.error .other, _) => exact closeAndReturn_closes c

/-- The early return of `process`: a part that closed the client is the last one. -/
theorem orReturn_closes {step : Sharing (IoResult Unit × ClientContext)}
    {m : Outcome (IoResult Unit × ClientContext)}
    {rest : ClientContext → Sharing (IoResult Unit × ClientContext)}
    {g : ClientContext → Outcome (IoResult Unit × ClientContext)} (first : Closes k Prod.snd step m)
    (then_ : ∀ c, m = .ok (.ok (), c) → c.client.closed = false →
      Closes k Prod.snd (rest c) (g c))
    (done : ∀ c, c.client.closed = true → rest c = pure (.ok (), c) ∧ g c = .ok (.ok (), c)) :
    Closes k Prod.snd (Sharing.orReturn step rest) (orReturn m g) := by
  refine first.bind (fun r eq stays => ?_) fun r _ closed => ?_
  · obtain ⟨⟨⟩ | ⟨⟩, c⟩ := r
    · exact .of_returns (.ok _) fun a eq => by cases eq; exact stays
    · exact then_ c eq stays
  · obtain ⟨⟨⟩ | ⟨⟩, c⟩ := r
    · exact ⟨_, rfl, rfl, closed, rfl⟩
    · obtain ⟨returned, same⟩ := done c closed
      exact ⟨_, returned, same, closed, rfl⟩

/-- **An event of an open client**: the write path, then the read path, and each may close it.  The
read path is skipped when the write path has closed the client, which the source asks for between
the two. -/
theorem process_closes (isOpen : c.client.closed = false) (routed : c.Routed) (ready : Ready)
    (answers : EventAnswers) :
    Closes k Prod.snd (process k c ready answers) (c.process ready answers) := by
  have isOpen' : ¬ c.client.closed = true := by
    rw [isOpen]
    exact Bool.false_ne_true
  rw [process, ClientContext.process, if_neg isOpen', if_neg isOpen']
  refine orReturn_closes (.ite (fun _ => processSend_closes isOpen _) fun _ => ?_)
    (fun c₁ sent isOpen₁ => ?_) fun c₁ closed => ?_
  · exact .of_returns (.ok _) fun a eq => by cases eq; exact isOpen
  · have routed₁ : c₁.Routed := by
      split at sent
      · have moves : ClientMoves (fun _ => True) True c c₁ :=
          ClientContext.processSend_moves trivial trivial routed sent
        exact moves.routed routed
      · cases sent
        exact routed
    refine orReturn_closes (.ite (fun _ => processReceive_closes isOpen₁ routed₁ _) fun _ => ?_)
      (fun c₂ _ isOpen₂ => ?_) fun c₂ closed => ?_
    · exact .of_returns (.ok _) fun a eq => by cases eq; exact isOpen₁
    · refine .of_returns ((Returns.call _).map _) fun a eq => ?_
      obtain ⟨c₃, updated, rest⟩ := bind_eq_ok.mp eq
      cases rest
      rw [if_neg (by rw [isOpen₂]; exact Bool.false_ne_true)] at updated
      exact (ClientContext.updateInterests_closed updated).trans isOpen₂
    · rw [if_pos closed]
      exact ⟨rfl, rfl⟩
  · have shut : ¬ (c₁.client.closed = false ∧ ready.isReadable = true) := by
      rw [closed]
      exact fun both => Bool.false_ne_true both.1.symm
    rw [if_neg shut, if_neg shut]
    constructor
    · show (Sharing.call (if c₁.client.closed then .ok c₁ else c₁.updateInterests) >>=
        fun c => pure (Except.ok (), c)) = _
      rw [if_pos closed]
      rfl
    · show ((if c₁.client.closed then .ok c₁ else c₁.updateInterests) >>=
        fun c => pure (Except.ok (), c)) = _
      rw [if_pos closed]
      rfl

/-- **An event of a client does what its model does**, and the tunnel server drops the client if it
has closed.  It is the top of the nested calls, so that the flags are what they were before the
event. -/
theorem onReady_closes (isOpen : c.client.closed = false) (routed : c.Routed) (ready : Ready)
    (answers : EventAnswers) : Closes k id (onReady k c ready answers) (c.onReady ready answers) := by
  refine (process_closes isOpen routed ready answers).bind (fun r _ stays => ?_) fun r _ closed => ?_
  · match r with
    | (.ok (), c) => exact .of_returns (.ok _) fun a eq => by cases eq; exact stays
    | (.error .wouldBlock, c) => exact .of_returns (.ok _) fun a eq => by cases eq; exact stays
    | (.error .other, c) =>
        refine .ite (fun closed => absurd (stays.symm.trans closed) Bool.false_ne_true) fun _ => ?_
        exact close_closes c
  · match r with
    | (.ok (), c) => exact ⟨c, rfl, rfl, closed, rfl⟩
    | (.error .wouldBlock, c) => exact ⟨c, rfl, rfl, closed, rfl⟩
    | (.error .other, c) => exact ⟨c, if_pos closed, if_pos closed, closed, rfl⟩

/-- One that has closed borrows nothing. -/
theorem onReady_closed (closed : c.client.closed = true) (ready : Ready) (answers : EventAnswers) :
    onReady k c ready answers = pure c ∧ c.onReady ready answers = .ok c := by
  have ends : process k c ready answers = pure (.ok (), c) := if_pos closed
  have same : c.process ready answers = .ok (.ok (), c) := if_pos closed
  rw [onReady, ends, ClientContext.onReady, same]
  exact ⟨rfl, rfl⟩

end ClientCells

end ReverseTether
