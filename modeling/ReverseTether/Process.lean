import ReverseTether.ClientCells

/-!
# The whole relay: tunnel server, clients and poll loop

`Process` is the poll loop over a tunnel server and any number of clients, each at the place it
was accepted at.  Every handler and every round of the reaper is a program over the cells; a
step runs one of them, and one that panics is no step.

The parts of the tunnel server are written twice, without their borrows and with them.

A step is one round of a handler, with what the sockets and the clock answer as its label.
The order of the steps is that of the loop: a batch of events is polled and run to its end,
with the reaper, the removal of tokens and the statistics where the source has them.

The clients are kept by their places in a list that only grows, so that a client which is
closed is still there to be spoken about; the cells and the owners know that it is gone.  What
one client does is a run of `Relay`, and that the two fit together is shown elsewhere.
-/

namespace ReverseTether

open Library

/-! ## The tunnel server -/

namespace TunnelServer

/-- The id of the next client, which counts up. -/
def takeClientId (overflowChecks : Bool) : StateT Owners (Except RelayPanic) UInt32 := fun s =>
  if overflowChecks ∧ s.server.nextClientId.toNat + 1 = 2 ^ 32 then .error (.code .overflow)
  else .ok (s.server.nextClientId,
    { s with server := { s.server with nextClientId := s.server.nextClientId + 1 } })

/-- The handler of a new client is registered, which keeps the client. -/
def registerClient (k : ClientHandle) (registered : IoResult Unit) :
    StateT Owners (Except RelayPanic) (IoResult Unit) := fun s =>
  match registered with
  | .ok () => .ok (.ok (), { s with handlers := s.handlers ++ [k] })
  | .error err => .ok (.error err, s)

/-- `self.clients.push`: from here on the server is an owner of the client. -/
def pushClient (k : ClientHandle) : StateT Owners (Except RelayPanic) Unit := fun s =>
  .ok ((), { s with server := { s.server with clients := s.server.clients ++ [k] } })

/-- One client is accepted.  `answer` is what `accept` and then the registration answer. -/
def acceptClient (contexts : List ClientContext) (overflowChecks : Bool)
    (answer : IoResult (IoResult Unit)) :
    StateT Owners (Except RelayPanic) (IoResult Unit × List ClientContext) :=
  match answer with
  | .error err => return (.error err, contexts)
  | .ok registered => do
      let clientId ← takeClientId overflowChecks
      match ← registerClient contexts.length registered with
      | .error err => return (.error err, contexts)
      | .ok () => do
          pushClient contexts.length
          return (.ok (), contexts ++ [.create clientId])

/-- The accept queue is drained. -/
def onReady (overflowChecks : Bool) : List (IoResult (IoResult Unit)) → List ClientContext →
    StateT Owners (Except RelayPanic) (List ClientContext)
  | [], contexts => return contexts
  | answer :: answers, contexts => do
      match ← acceptClient contexts overflowChecks answer with
      | (.ok (), contexts) => onReady overflowChecks answers contexts
      | (.error _, contexts) => return contexts

/-- The connections of one client are cleaned. -/
def cleanClient (clock : ClientHandle → Handle → Instant) (contexts : List ClientContext)
    (k : ClientHandle) : Outcome (List ClientContext) :=
  match contexts[k]? with
  | some c => do
      let c ← Router.cleanExpiredConnections c (clock k)
      return contexts.set k c
  | none => return contexts

end TunnelServer

namespace TunnelServerCells

/-- A new client borrows itself while it is registered. -/
def createClient (k : ClientHandle) (registered : IoResult Unit) : Sharing (IoResult Unit) :=
  Celled.borrowMut (.client k) (Celled.shared (TunnelServer.registerClient k registered))

/-- `accept_client`: the id is taken before the client is registered, so that a client which cannot
be registered uses one up. -/
def acceptClient (contexts : List ClientContext) (overflowChecks : Bool)
    (answer : IoResult (IoResult Unit)) : Sharing (IoResult Unit × List ClientContext) :=
  match answer with
  | .error err => return (.error err, contexts)
  | .ok registered => do
      let clientId ← Celled.shared (TunnelServer.takeClientId overflowChecks)
      match ← createClient contexts.length registered with
      | .error err => return (.error err, contexts)
      | .ok () => do
          Celled.shared (TunnelServer.pushClient contexts.length)
          return (.ok (), contexts ++ [.create clientId])

/-- `on_ready` of the listener: the queue of connections is emptied until an accept or a
registration fails. -/
def onReady (overflowChecks : Bool) : List (IoResult (IoResult Unit)) → List ClientContext →
    Sharing (List ClientContext)
  | [], contexts => return contexts
  | answer :: answers, contexts => do
      match ← acceptClient contexts overflowChecks answer with
      | (.ok (), contexts) => onReady overflowChecks answers contexts
      | (.error _, contexts) => return contexts

/-- The server is borrowed already, and borrows each client for as long as its connections are
cleaned. -/
def cleanClient (clock : ClientHandle → Handle → Instant) (contexts : List ClientContext)
    (k : ClientHandle) : Sharing (List ClientContext) :=
  match contexts[k]? with
  | some c => do
      let c ← Celled.borrowMut (.client k) (RouterCells.cleanExpiredConnections k c (clock k))
      return contexts.set k c
  | none => return contexts

end TunnelServerCells

/-! ## The handlers and the poll loop -/

/-- What the process and the sockets answer during one handler, of the tunnel server or of a
client. -/
structure HandlerAnswers where
  /-- What each `accept` of the tunnel server comes to. -/
  accepts : List (IoResult (IoResult Unit))
  overflowChecks : Bool
  event : EventAnswers

/-- The cell behind a socket of a client. -/
def Source.cell (k : ClientHandle) : Source → Cell
  | .client => .client k
  | .connection handle => .connection k handle

/-- The whole relay between two steps of its poll loop: the flags of the cells, the owners, the
clients, and the rest of the batch. -/
structure Process where
  flags : Flags Cell
  owners : Owners
  /-- The clients created so far, open or not. -/
  contexts : List ClientContext
  /-- The events that were polled and not handled yet. -/
  batch : List (Cell × Ready)

namespace Process

/-- The handler of an event: the owner of the socket is borrowed mutably for the event. -/
def handler (contexts : List ClientContext) (cell : Cell) (ready : Ready)
    (answers : HandlerAnswers) : Sharing (List ClientContext) :=
  match cell with
  | .tunnelServer => Celled.borrowMut .tunnelServer
      (TunnelServerCells.onReady answers.overflowChecks answers.accepts contexts)
  | .client k =>
      match contexts[k]? with
      | some c => do
          let c ← Celled.borrowMut (.client k) (ClientCells.onReady k c ready answers.event)
          return contexts.set k c
      | none => Sharing.call (.error .tokenNotFound)
  | .connection k handle =>
      match contexts[k]? with
      | some c =>
          match c.created[handle]? with
          | some conn => do
              let f ← Celled.borrowMut (.connection k handle)
                (ConnectionCells.onReady k (c.enter conn) ready answers.event.socket answers.event.now)
              return contexts.set k (c.leave f)
          | none => Sharing.call (.error .tokenNotFound)
      | none => Sharing.call (.error .tokenNotFound)

/-- `clean_up`. -/
def cleanUp (contexts : List ClientContext) (clock : ClientHandle → Handle → Instant) :
    Sharing (List ClientContext) :=
  Celled.borrowMut .tunnelServer do
    let s ← Celled.shared get
    s.server.clients.foldlM (TunnelServerCells.cleanClient clock) contexts

/-- `log_stats`. -/
def logStats : Sharing Unit :=
  Celled.borrow .tunnelServer do
    let s ← Celled.shared get
    s.server.clients.foldlM (fun _ k => Celled.borrow (.client k) (return ())) ()

/-- The interest that the owner of a cell is registered with. -/
def interest (s : Process) : Cell → Option Ready
  | .tunnelServer => some .readable
  | .client k => (s.contexts[k]?).bind fun c => c.selector.registered .client
  | .connection k handle =>
      (s.contexts[k]?).bind fun c => c.selector.registered (.connection handle)

/-- The handlers of the tokens to be removed are dropped, with what they keep. -/
def cleanRemovedTokens (s : Process) : Process where
  flags := s.flags
  owners :=
    { s.owners with
      handlers := s.owners.handlers.filter fun k =>
        (s.contexts[k]?).all fun c => .client ∉ c.selector.tokensToRemove }
  contexts := s.contexts.map fun c =>
    { c with selector := { c.selector with tokensToRemove := [] } }
  batch := s.batch

/-- The steps of the poll loop, with what the system answers in each of them. -/
inductive Label
  | poll (events : List (Cell × Ready))
  | cleanUp (clock : ClientHandle → Handle → Instant)
  | logStats
  | handle (answers : HandlerAnswers)
  | cleanRemovedTokens
  | rehash (k : ClientHandle) (connections : List (ConnectionId × Handle))

/-- One step of the loop.  A step that panics is none. -/
inductive Step : Process → Label → Process → Prop
  | poll {s : Process} {events : List (Cell × Ready)} : s.batch = [] →
      (∀ event ∈ events, ∃ interest, s.interest event.1 = some interest ∧ event.2.Within interest) →
      Step s (.poll events) { s with batch := events }
  | cleanUp {s : Process} {clock : ClientHandle → Handle → Instant} {contexts : List ClientContext}
      {flags : Flags Cell} {owners : Owners} :
      (Process.cleanUp s.contexts clock).run (s.flags, s.owners) = .ok (contexts, flags, owners) →
      Step s (.cleanUp clock) { s with flags, owners, contexts }
  | logStats {s : Process} {flags : Flags Cell} {owners : Owners} :
      Process.logStats.run (s.flags, s.owners) = .ok ((), flags, owners) →
      Step s .logStats { s with flags, owners }
  | handle {s : Process} {cell : Cell} {ready : Ready} {batch : List (Cell × Ready)}
      {answers : HandlerAnswers} {contexts : List ClientContext} {flags : Flags Cell}
      {owners : Owners} : s.batch = (cell, ready) :: batch →
      (handler s.contexts cell ready answers).run (s.flags, s.owners) =
        .ok (contexts, flags, owners) →
      Step s (.handle answers) ⟨flags, owners, contexts, batch⟩
  | cleanRemovedTokens {s : Process} : s.batch = [] →
      Step s .cleanRemovedTokens s.cleanRemovedTokens
  /-- A map is iterated in no particular order. -/
  | rehash {s : Process} {k : ClientHandle} {c : ClientContext}
      {connections : List (ConnectionId × Handle)} : s.contexts[k]? = some c →
      connections.Perm c.client.connections →
      Step s (.rehash k connections)
        { s with contexts := s.contexts.set k { c with client := { c.client with connections } } }

/-- The loop before the first poll. -/
def create : Process where
  flags _ := 0
  owners := ⟨⟨[], 0⟩, []⟩
  contexts := []
  batch := []

/-- The relay starts without a client; the table of a router may be rehashed at any time. -/
def machine : Library.Machine Process Label where
  start s := s = create
  step := Step

end Process

end ReverseTether
