import ReverseTether.ClientInput
import ReverseTether.ConnectionLife

/-!
# The relay of one client: router, client handlers and poll loop

`ClientContext` is what a handler of the client can reach: the client with the
routes of its router, the selector, and the connections that were created for it,
each at the place its handle names.  The routes point into `created`, as the map of
the source shares its connections with their handlers.

A map is iterated in no particular order.  The routes are a list, which any step of
`Relay` between two handlers may permute.

`Relay` is the poll loop as a labelled machine: events are fetched for registered
sockets, expired connections are reaped, handlers run one after the other, and the
tokens marked for removal are released after the whole batch.  Other clients share
nothing with this one but the loop.

What the sockets, the clock and the random generator answer is input.  `received`
and `released` are not in the source: they record the bytes that the socket of the
client took, and the tokens that were released.
-/

namespace ReverseTether

open Library

/-- What a handler of the client can reach: the client, the selector and the connections, with the
record of what its socket took. -/
structure ClientContext where
  client : Client
  selector : Selector
  /-- The connections created for the client, open or not. -/
  created : List Connection
  /-- The bytes the client's socket took. -/
  received : List UInt8

/-- What the process and the sockets answer during one handler of a client or of one of its
connections. -/
structure EventAnswers where
  socket : SocketAnswers
  now : Instant
  /-- For the packets that are routed, in their order. -/
  packets : ℕ → PacketAnswers

namespace Client

/-- The route of a flow, if it has one. -/
def route (client : Client) (id : ConnectionId) : Option Handle :=
  (client.connections.find? fun entry => entry.1 = id).map Prod.snd

/-- `HashMap::insert`. -/
def insertConnection (client : Client) (id : ConnectionId) (handle : Handle) : Client :=
  { client with
    connections := (client.connections.filter fun entry => entry.1 ≠ id) ++ [(id, handle)] }

/-- `must_send_id`: some byte of the client id is not written yet, and nothing else may be written
before. -/
def mustSendId (client : Client) : Bool := 0 < client.pendingIdBytes

end Client

namespace ClientContext

/-- A method of one of the connections is called. -/
def enter (c : ClientContext) (conn : Connection) : ConnectionContext := ⟨conn, c.client, c.selector⟩

/-- It has returned. -/
def leave (c : ClientContext) (f : ConnectionContext) : ClientContext where
  client := f.client
  selector := f.selector
  created := c.created.set f.conn.handle f.conn
  received := c.received

/-- The connection of a flow. -/
def connectionOf (c : ClientContext) (id : ConnectionId) : Option Connection :=
  (c.client.route id).bind fun handle => c.created[handle]?

/-- The route leaves the router of the client, and the rest of the relay stays as it is. -/
def removeConnection (c : ClientContext) (id : ConnectionId) : ClientContext :=
  { c with client := c.client.removeConnection id }

/-- The map of the router is drained. -/
def drain (c : ClientContext) : ClientContext :=
  { c with client := { c.client with connections := [] } }

end ClientContext

/-! ## The router -/

namespace Router

/-- `Router::create_connection`: the connection, and the selector it is registered
with. -/
def createConnection (c : ClientContext) (id : ConnectionId) (packet : IpPacket)
    (answers : PacketAnswers) : Outcome (IoResult (Connection × Selector)) :=
  match packet with
  | .ipv4 packet => do
      match ← packet.headers with
      | (_, none) => .error .noTransport
      | (ipv4Header, some transportHeader) =>
          match id.protocol with
          | .tcp => do
              let made ← TcpConnection.create c.selector c.created.length id ipv4Header
                transportHeader answers.now answers.opened
              return made.map fun (conn, selector) => (.tcp conn, selector)
          | .udp => do
              let made ← UdpConnection.create c.selector c.created.length id ipv4Header
                transportHeader answers.now answers.opened
              return made.map fun (conn, selector) => (.udp conn, selector)
          | .other => return .error .other
  | .ipv6 packet => do
      -- the response template is built from the first packet of the flow
      let packetizer ← Ipv6Packetizer.new (← packet.ipv6Header) (← packet.transportHeader)
      let made := Ipv6Connection.create c.selector c.created.length id packetizer answers.now
        answers.opened
      return made.map fun (conn, selector) => (.ipv6 conn, selector)

/-- A connection that was just created takes its place, and its route. -/
def insert (c : ClientContext) (id : ConnectionId) (conn : Connection) (selector : Selector) :
    ClientContext where
  client := c.client.insertConnection id c.created.length
  selector
  created := c.created ++ [conn]
  received := c.received

/-- The connection of a flow, created if there is none. -/
def connectionFor (c : ClientContext) (id : ConnectionId) (packet : IpPacket)
    (answers : PacketAnswers) : Outcome (IoResult (Connection × ClientContext)) :=
  match c.connectionOf id with
  | some conn => .ok (.ok (conn, c))
  | none => do
      match ← createConnection c id packet answers with
      | .ok (conn, selector) => return .ok (conn, insert c id conn selector)
      | .error err => return .error err

/-- A packet is given to a connection, which leaves the router if that closed it. -/
def deliver (c : ClientContext) (id : ConnectionId) (conn : Connection) (packet : IpPacket)
    (answers : PacketAnswers) : Outcome ClientContext := do
  let f ← (c.enter conn).sendToNetwork packet answers
  return if f.conn.isClosed then (c.leave f).removeConnection id else c.leave f

/-- The router takes an IPv4 packet only with a transport header that it knows; an IPv6 packet
always has one. -/
def isValid : IpPacket → Bool
  | .ipv4 packet => packet.isValid
  | .ipv6 _ => true

/-- Invalid packets, and those whose flow cannot be opened, are dropped. -/
def sendToNetwork (c : ClientContext) (packet : IpPacket) (answers : PacketAnswers) :
    Outcome ClientContext :=
  match ConnectionId.fromPacket packet with
  | none => .ok c
  | some id =>
      if isValid packet then do
        match ← connectionFor c id packet answers with
        | .ok (conn, c) => deliver c id conn packet answers
        | .error _ => return c
      else .ok c

/-- The connection of a drained route is closed. -/
def closeRoute (c : ClientContext) (route : ConnectionId × Handle) : ClientContext :=
  match c.created[route.2]? with
  | some conn => c.leave (c.enter conn).close
  | none => c

/-- `clear`: the connections are closed one after the other, in the order of the table. -/
def clear (c : ClientContext) : ClientContext :=
  c.client.connections.foldl closeRoute c.drain

/-- The connection of an expired route is removed, then told to expire. -/
def expireRoute (c : ClientContext) (route : ConnectionId × Handle) : Outcome ClientContext :=
  match c.connectionOf route.1 with
  | some conn => do
      let c := c.removeConnection route.1
      return c.leave (← (c.enter conn).expire)
  | none => .ok c

/-- The clock is read anew for each connection. -/
def cleanExpiredConnections (c : ClientContext) (clock : Handle → Instant) :
    Outcome ClientContext :=
  (c.client.connections.filter fun route =>
    (c.created[route.2]?).any fun conn => conn.isExpired (clock route.2)).foldlM expireRoute c

end Router

/-! ## The handlers of the client -/

namespace ClientContext

/-- The client of a stream that was just accepted. -/
def create (id : UInt32) : ClientContext where
  client := .create id
  selector := Selector.create.register .client .writable
  created := []
  received := []

/-- `close`: the socket leaves the selector, and with the client all of its connections are closed.
-/
def close (c : ClientContext) : Outcome ClientContext :=
  let (deregistered, selector) := c.selector.deregister .client
  if deregistered then .ok (Router.clear { c with client := { c.client with closed := true }, selector })
  else .error .cannotRegister

/-- `update_interests`: the client waits for what its buffers allow, and is registered again if
that has changed. -/
def updateInterests (c : ClientContext) : Outcome ClientContext := do
  let (client, selector) ← c.client.updateInterests c.selector
  return { c with client, selector }

/-- The socket takes some of the bytes of the id that it does not have yet. -/
def sendId (c : ClientContext) (write : IoResult ℕ) : Outcome (IoResult Unit × ClientContext) :=
  if c.client.mustSendId then
    match write with
    | .error err => .ok (.error err, c)
    | .ok n =>
        let taken := ((u32Bytes c.client.id).drop (4 - c.client.pendingIdBytes)).take n
        .ok (.ok (),
          { c with
            client := { c.client with pendingIdBytes := c.client.pendingIdBytes - taken.length }
            received := c.received ++ taken })
  else .error .idAlreadySent

/-- `write`: what the stream takes of the buffer, from its oldest byte on; the app receives it in
this order. -/
def write (c : ClientContext) (write : IoResult ℕ) : IoResult Unit × ClientContext :=
  match c.client.networkToClient.writeTo write with
  | (.ok taken, networkToClient) =>
      (.ok (), { c with
        client := { c.client with networkToClient }
        received := c.received ++ taken })
  | (.error err, _) => (.error err, c)

/-- One pending source is pulled: its packet is sent, or it stays pending. -/
def pull (c : ClientContext) (source : Handle) : Outcome ClientContext :=
  match c.created[source]? with
  | some (.tcp conn) =>
      match conn.get with
      | none => .error .noPendingPacket
      | some ipv4Packet => do
          let (sent, client, selector) ← c.client.sendToClient c.selector ipv4Packet
          match sent with
          | .error .wouldBlock =>
              -- keep it pending
              return { c with client := client.registerPendingPacketSource source, selector }
          | .ok () | .error .other => do
              let f ← TcpContext.next ⟨conn, client, selector⟩
              return c.leave f.asConnection
  | _ => .error .noPendingPacket

/-- `process_pending`: every connection that waits for room is asked once, in the order of waiting.
-/
def processPending (c : ClientContext) : Outcome ClientContext :=
  c.client.pendingPacketSources.foldlM pull
    { c with client := { c.client with pendingPacketSources := [] } }

/-- `Err(WouldBlock)` on spurious event. -/
def processSend (c : ClientContext) (write : IoResult ℕ) :
    Outcome (IoResult Unit × ClientContext) :=
  if c.client.mustSendId then do
    match ← c.sendId write with
    | (.ok (), c) => return (.ok (), c)
    | (.error .wouldBlock, c) => return (.error .wouldBlock, c)
    | (.error .other, c) => return (.ok (), ← c.close)
  else
    match c.write write with
    | (.ok (), c) => do return (.ok (), ← c.processPending)
    | (.error _, c) => do return (.ok (), ← c.close)

/-- What the drain loop does with the packets of the client; the packets routed so
far are counted. -/
def handlers (packets : ℕ → PacketAnswers) : PacketHandlers (ℕ × ClientContext) where
  route packet s := do
    let c ← Router.sendToNetwork s.2 packet (packets s.1)
    return (s.1 + 1, c)
  drop _ s := s
  close _ s := do
    let c ← s.2.close
    return (s.1, c)

/-- `push_to_network`: every whole packet of the input buffer goes to the router, and what is left
is less than one. -/
def pushToNetwork (c : ClientContext) (packets : ℕ → PacketAnswers) : Outcome ClientContext := do
  let (clientToNetwork, _, c) ←
    ReverseTether.pushToNetwork (handlers packets) c.client.clientToNetwork (0, c)
  return { c with client := { c.client with clientToNetwork } }

/-- `Err(WouldBlock)` on spurious event. -/
def processReceive (c : ClientContext) (read : IoResult (List UInt8)) (packets : ℕ → PacketAnswers) :
    Outcome (IoResult Unit × ClientContext) :=
  match c.client.clientToNetwork.readFrom read with
  | (.ok true, clientToNetwork) => do
      let c ← pushToNetwork { c with client := { c.client with clientToNetwork } } packets
      return (.ok (), c)
  | (.ok false, clientToNetwork) => do
      -- EOF reached
      let c ← close { c with client := { c.client with clientToNetwork } }
      return (.ok (), c)
  | (.error .wouldBlock, _) => .ok (.error .wouldBlock, c)
  | (.error .other, _) => do return (.ok (), ← c.close)

/-- `Err(WouldBlock)` on spurious event. -/
def process (c : ClientContext) (ready : Ready) (answers : EventAnswers) :
    Outcome (IoResult Unit × ClientContext) :=
  if c.client.closed then .ok (.ok (), c)
  else
    orReturn (if ready.isWritable then c.processSend answers.socket.write else .ok (.ok (), c))
      fun c =>
        orReturn
          (if c.client.closed = false ∧ ready.isReadable then
            c.processReceive answers.socket.read answers.packets
          else .ok (.ok (), c))
          fun c => do
            let c ← (if c.client.closed then .ok c else c.updateInterests)
            return (.ok (), c)

/-- `on_ready`: an error other than `WouldBlock` closes the client, unless it is closed by then. -/
def onReady (c : ClientContext) (ready : Ready) (answers : EventAnswers) : Outcome ClientContext := do
  let (result, c) ← c.process ready answers
  match result with
  | .ok () => return c
  | .error .wouldBlock =>
      -- spurious event, ignoring
      return c
  | .error .other => if c.client.closed then return c else c.close

/-- The handler of a socket is run. -/
def dispatch (c : ClientContext) (source : Source) (ready : Ready) (answers : EventAnswers) :
    Outcome ClientContext :=
  match source with
  | .client => c.onReady ready answers
  | .connection handle =>
      match c.created[handle]? with
      | some conn => do
          let f ← (c.enter conn).onReady ready answers.socket answers.now
          return c.leave f
      | none => .error .tokenNotFound

end ClientContext

/-! ## The poll loop -/

/-- One client with its connections and the selector, between two steps of the poll loop. -/
structure Relay extends ClientContext where
  /-- The events that were polled and not handled yet. -/
  batch : List (Source × Ready)
  /-- The tokens whose handlers were removed. -/
  released : List Source

namespace Relay

/-- The steps of the poll loop that concern one client, with what the sockets answer in each of
them. -/
inductive Label
  | poll (events : List (Source × Ready))
  | reap (clock : Handle → Instant)
  | handle (answers : EventAnswers)
  /-- `clean_removed_tokens`. -/
  | release
  | rehash (connections : List (ConnectionId × Handle))

/-- One step of the loop.  A step that panics is none. -/
inductive Step : Relay → Label → Relay → Prop
  /-- Events are within the interests of their sockets; an error or a hang-up is
  always. -/
  | poll {s : Relay} {events : List (Source × Ready)} : s.batch = [] →
      (∀ event ∈ events, ∃ interest, s.selector.registered event.1 = some interest ∧
        event.2.Within interest) →
      Step s (.poll events) { s with batch := events }
  | reap {s : Relay} {clock : Handle → Instant} {c : ClientContext} :
      Router.cleanExpiredConnections s.toClientContext clock = .ok c →
      Step s (.reap clock) { s with toClientContext := c }
  | handle {s : Relay} {source : Source} {ready : Ready} {batch : List (Source × Ready)}
      {answers : EventAnswers} {c : ClientContext} : s.batch = (source, ready) :: batch →
      s.dispatch source ready answers = .ok c →
      Step s (.handle answers) { s with toClientContext := c, batch }
  | release {s : Relay} : s.batch = [] →
      Step s .release { s with
        selector := { s.selector with tokensToRemove := [] }
        released := s.released ++ s.selector.tokensToRemove }
  | rehash {s : Relay} {connections : List (ConnectionId × Handle)} :
      connections.Perm s.client.connections →
      Step s (.rehash connections) { s with client := { s.client with connections } }

/-- The loop when a client was just accepted. -/
def create (id : UInt32) : Relay where
  toClientContext := .create id
  batch := []
  released := []

/-- The client was just accepted, under some id; the table of its router may be rehashed at any
time. -/
def machine : Machine Relay Label where
  start s := ∃ id, s = create id
  step := Step

end Relay

end ReverseTether
