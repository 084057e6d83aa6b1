import ReverseTether.DatagramBuffer
import ReverseTether.TcpConnection

/-!
# An IPv4 UDP connection

Datagrams of the client wait in a queue for the host socket; datagrams of the host
become packets that the client takes at once or that are dropped.

A method reaches its own record, the client and the selector, as for TCP; what the
socket answers is input.

The queue has boundaries: a datagram is accepted whole or dropped, and one `send` of the
socket offers the oldest datagram.  One that the socket refuses is gone, since the buffer has
moved on before it is sent.  The other way nothing waits; a UDP connection is no packet
source.

`UdpContext` is the connection with its surroundings, and `onReady` its handler: the writable
half first, then the readable one, then the interests.  An event that is neither closes the
connection.
-/

namespace ReverseTether

/-- `UdpConnection`: one UDP flow, with the buffer for its host, and the packetizer for its client.
-/
structure UdpConnection where
  /-- The owner of `token`. -/
  handle : Handle
  id : ConnectionId
  interests : Ready
  clientToNetwork : DatagramBuffer (4 * maxPacketLength)
  networkToClient : Packetizer
  closed : Bool
  idleSince : Instant

/-- What a method of the connection can reach: the connection, its client and the selector. -/
structure UdpContext where
  conn : UdpConnection
  client : Client
  selector : Selector

namespace UdpConnection

/-- `IDLE_TIMEOUT_SECONDS`: two minutes without an event of the socket. -/
def idleTimeoutSeconds : ℕ := 2 * 60

/-- The fields of a new connection. -/
def initial (handle : Handle) (id : ConnectionId) (packetizer : Packetizer) (now : Instant) :
    UdpConnection where
  handle
  id
  interests := .readable
  clientToNetwork := .new _
  networkToClient := packetizer
  closed := false
  idleSince := now

/-- `create_socket` and the registration may fail, which `opened` says. -/
def create (selector : Selector) (handle : Handle) (id : ConnectionId) (ipv4Header : Ipv4Header)
    (transportHeader : TransportHeader) (now : Instant) (opened : IoResult Unit) :
    Outcome (IoResult (UdpConnection × Selector)) :=
  match opened with
  | .error err => .ok (.error err)
  | .ok () => do
      let packetizer ← Packetizer.new ipv4Header transportHeader
      let conn := initial handle id packetizer now
      return .ok (conn, selector.register (.connection handle) conn.interests)

/-- `touch`: the connection was used just now, so its idle time begins again. -/
def touch (conn : UdpConnection) (now : Instant) : UdpConnection := { conn with idleSince := now }

/-- The interest the queue calls for. -/
def wanted (conn : UdpConnection) : Ready :=
  if conn.clientToNetwork.isEmpty then .readable else Ready.readable.union .writable

/-- `is_expired`: it has been idle for longer than the timeout, in whole seconds. -/
def isExpired (conn : UdpConnection) (now : Instant) : Bool :=
  idleTimeoutSeconds < elapsedSecs now conn.idleSince

end UdpConnection

namespace UdpContext

/-- A failure to deregister is only logged. -/
def close (c : UdpContext) : UdpContext :=
  { c with
    conn := { c.conn with closed := true }
    selector := (c.selector.deregister (.connection c.conn.handle)).2 }

/-- `remove_from_router`: the route leaves the client, and the connection itself stays as it is. -/
def removeFromRouter (c : UdpContext) : UdpContext :=
  { c with client := c.client.removeConnection c.conn.id }

/-- `update_interests`: the socket is registered again only when what the connection waits for has
changed. -/
def updateInterests (c : UdpContext) : Outcome UdpContext :=
  if c.conn.interests ≠ c.conn.wanted then do
    -- interests must be changed
    let selector ← c.selector.reregister (.connection c.conn.handle) c.conn.wanted
    return { c with conn := { c.conn with interests := c.conn.wanted }, selector }
  else .ok c

/-- Another state of the queue. -/
def withQueue (c : UdpContext) (clientToNetwork : DatagramBuffer (4 * maxPacketLength)) :
    UdpContext :=
  { c with conn := { c.conn with clientToNetwork } }

/-- A datagram that does not fit in the queue is dropped. -/
def sendToNetwork (c : UdpContext) (packet : IpPacket) : Outcome UdpContext :=
  match packet with
  | .ipv6 _ => .ok c
  | .ipv4 packet => do
      match ← packet.payload with
      | none => .error .noTransport
      | some payload =>
          match ← c.conn.clientToNetwork.readFrom payload with
          | (.ok (), clientToNetwork) => (c.withQueue clientToNetwork).updateInterests
          | (.error _, _) => return c

/-- A spurious event is ignored here already. -/
def processSend (c : UdpContext) (write : IoResult ℕ) : Outcome UdpContext := do
  let (result, _, clientToNetwork) ← c.conn.clientToNetwork.writeTo write
  let c := c.withQueue clientToNetwork
  match result with
  | .ok () => return c
  | .error .wouldBlock => return c
  | .error .other => return c.close

/-- A packet that the client has no room for is dropped. -/
def read (c : UdpContext) (source : IoResult (List UInt8)) : Outcome (IoResult Unit × UdpContext) := do
  let (packet, networkToClient) ← c.conn.networkToClient.packetize source
  let c := { c with conn := { c.conn with networkToClient } }
  match packet with
  | .error err => return (.error err, c)
  | .ok packet => do
      let (_, client, selector) ← c.client.sendToClient c.selector packet
      return (.ok (), { c with client, selector })

/-- `Err(WouldBlock)` on spurious event. -/
def processReceive (c : UdpContext) (source : IoResult (List UInt8)) :
    Outcome (IoResult Unit × UdpContext) := do
  match ← c.read source with
  | (.ok (), c) => return (.ok (), c)
  | (.error .wouldBlock, c) => return (.error .wouldBlock, c)
  | (.error .other, c) => return (.ok (), c.close)

/-- The halves of an event, and the interests they call for. -/
def processReady (c : UdpContext) (ready : Ready) (answers : SocketAnswers) :
    Outcome (IoResult Unit × UdpContext) := do
  let c ← (if ready.isWritable then c.processSend answers.write else .ok c)
  orReturn
    (if c.conn.closed = false ∧ ready.isReadable then c.processReceive answers.read
      else .ok (.ok (), c))
    fun c => do
      let c ← (if c.conn.closed then .ok c else c.updateInterests)
      return (.ok (), c)

/-- `Err(WouldBlock)` on spurious event. -/
def process (c : UdpContext) (ready : Ready) (answers : SocketAnswers) (now : Instant) :
    Outcome (IoResult Unit × UdpContext) :=
  if c.conn.closed then .ok (.ok (), c)
  else
    let c := { c with conn := c.conn.touch now }
    orReturn
      (if ready.isReadable ∨ ready.isWritable then c.processReady ready answers
        -- error or hup
        else .ok (.ok (), c.close))
      -- on_ready is not called from the router, so the connection must remove itself
      fun c => .ok (.ok (), if c.conn.closed then c.removeFromRouter else c)

/-- `on_ready`: a spurious event is ignored, and any other error closes the connection for good. -/
def onReady (c : UdpContext) (ready : Ready) (answers : SocketAnswers) (now : Instant) :
    Outcome UdpContext := do
  let (result, c) ← c.process ready answers now
  match result with
  | .ok () => return c
  | .error .wouldBlock =>
      -- spurious event, ignoring
      return c
  | .error .other =>
      let c := if c.conn.closed then c else c.close
      return c.removeFromRouter

end UdpContext

end ReverseTether
