import ReverseTether.Ipv6Connection
import ReverseTether.UdpConnection

/-!
# Connections of every kind

The router keeps TCP, UDP and IPv6 connections behind one trait.  `Connection` is
their sum, and `ConnectionContext` what a method of the trait can reach: the
connection, the client and the selector.

The second half says what a method does to the rest of the relay, whatever the
kind of the connection.  `Client.Serves` is what becomes of the client: whole
blocks are appended to its stream.  `ConnectionContext.Proceeds` adds the life of
the connection: its socket is deregistered when it closes, once, and the sockets
of the other connections are left alone.

What the calls of the trait have in common is said of `ConnectionContext`, so that the router
can be followed without asking which kind of connection it has.  The kinds keep their own
records, and what is special to one of them is proved before they are put together.

Nothing here is about what a connection sends: only that it is made of whole blocks, and that
closing is an event which happens to a connection once.
-/

namespace ReverseTether

/-- `Rc<RefCell<dyn Connection>>`: the three implementations of the trait, of which the router
keeps one for each flow. -/
inductive Connection
  | tcp (conn : TcpConnection)
  | udp (conn : UdpConnection)
  | ipv6 (conn : Ipv6Connection)

namespace Connection

/-- Which connection it is, as the selector and the waiting list of the client know it. -/
def handle : Connection → Handle
  | .tcp conn => conn.handle
  | .udp conn => conn.handle
  | .ipv6 conn => conn.handle

/-- `Connection::id`: the flow that the router looks the connection up by. -/
def id : Connection → ConnectionId
  | .tcp conn => conn.id
  | .udp conn => conn.id
  | .ipv6 conn => conn.id

/-- `Connection::is_closed`: the flag that every close path of a connection sets, whatever its
kind. -/
def isClosed : Connection → Bool
  | .tcp conn => conn.closed
  | .udp conn => conn.closed
  | .ipv6 conn => conn.closed

/-- `Connection::is_expired`: each kind has its own timeouts, and TCP has one more for the
handshake. -/
def isExpired (now : Instant) : Connection → Bool
  | .tcp conn => conn.isExpired now
  | .udp conn => conn.isExpired now
  | .ipv6 conn => conn.isExpired now

end Connection

/-- What a method of a connection can reach: the connection itself, the client it belongs to, and
the selector. -/
structure ConnectionContext where
  conn : Connection
  client : Client
  selector : Selector

/-- A TCP connection with its surroundings, as the router sees it behind the trait. -/
def TcpContext.asConnection (c : TcpContext) : ConnectionContext :=
  ⟨.tcp c.conn, c.client, c.selector⟩

/-- A UDP connection with its surroundings, as the router sees it behind the trait. -/
def UdpContext.asConnection (c : UdpContext) : ConnectionContext :=
  ⟨.udp c.conn, c.client, c.selector⟩

/-- An IPv6 connection with its surroundings, as the router sees it behind the trait. -/
def Ipv6Context.asConnection (c : Ipv6Context) : ConnectionContext :=
  ⟨.ipv6 c.conn, c.client, c.selector⟩

/-- What the process and the host give while a packet of the client is routed. -/
structure PacketAnswers where
  /-- The initial sequence number of a TCP flow. -/
  random : UInt32
  overflowChecks : Bool
  now : Instant
  /-- Opening and registering the socket of a new flow. -/
  opened : IoResult Unit
  /-- How many bytes a write takes. -/
  write : IoResult ℕ

namespace ConnectionContext

/-! ## The trait -/

/-- `Connection::send_to_network`: the method of the trait, which each kind takes the answers from
that it asks for. -/
def sendToNetwork (c : ConnectionContext) (packet : IpPacket) (answers : PacketAnswers) :
    Outcome ConnectionContext :=
  match c.conn with
  | .tcp conn => do
      let c ← TcpContext.sendToNetwork ⟨conn, c.client, c.selector⟩ packet answers.random
        answers.overflowChecks answers.now
      return c.asConnection
  | .udp conn => do
      let c ← UdpContext.sendToNetwork ⟨conn, c.client, c.selector⟩ packet
      return c.asConnection
  | .ipv6 conn => do
      let c ← Ipv6Context.sendToNetwork ⟨conn, c.client, c.selector⟩ packet answers.write answers.now
      return c.asConnection

/-- `Connection::close`, through the trait: the router calls it for what it removes. -/
def close (c : ConnectionContext) : ConnectionContext :=
  match c.conn with
  | .tcp conn => (TcpContext.close ⟨conn, c.client, c.selector⟩).asConnection
  | .udp conn => (UdpContext.close ⟨conn, c.client, c.selector⟩).asConnection
  | .ipv6 conn => (Ipv6Context.close ⟨conn, c.client, c.selector⟩).asConnection

/-- Only TCP has more to do than `close`. -/
def expire (c : ConnectionContext) : Outcome ConnectionContext :=
  match c.conn with
  | .tcp conn => do
      let c ← TcpContext.expire ⟨conn, c.client, c.selector⟩
      return c.asConnection
  | .udp _ | .ipv6 _ => .ok c.close

/-- The handler a connection registers its socket with. -/
def onReady (c : ConnectionContext) (ready : Ready) (answers : SocketAnswers) (now : Instant) :
    Outcome ConnectionContext :=
  match c.conn with
  | .tcp conn => do
      let c ← TcpContext.onReady ⟨conn, c.client, c.selector⟩ ready answers now
      return c.asConnection
  | .udp conn => do
      let c ← UdpContext.onReady ⟨conn, c.client, c.selector⟩ ready answers now
      return c.asConnection
  | .ipv6 conn => do
      let c ← Ipv6Context.onReady ⟨conn, c.client, c.selector⟩ ready answers.read now
      return c.asConnection

/-- `remove_from_router`: the route leaves the client, and the connection itself stays as it is. -/
def removeFromRouter (c : ConnectionContext) : ConnectionContext :=
  { c with client := c.client.removeConnection c.conn.id }

/-- The end of an event: a connection that has closed removes itself. -/
def removeIfClosed (c : ConnectionContext) : ConnectionContext :=
  if c.conn.isClosed then c.removeFromRouter else c

/-- The router has other routes. -/
def withRoutes (c : ConnectionContext) (connections : List (ConnectionId × Handle)) :
    ConnectionContext :=
  { c with client := { c.client with connections } }

end ConnectionContext

/-- A call of a method, with what the process and the host give to it. -/
inductive ConnectionCall
  | packet (packet : IpPacket) (answers : PacketAnswers)
  | event (ready : Ready) (answers : SocketAnswers) (now : Instant)
  | close
  | expire
  /-- `PacketSource::next`, which only TCP has. -/
  | next

/-- The call returns.  A connection that an event has closed removes itself, and one
that expires was removed before. -/
def ConnectionContext.Returns (c : ConnectionContext) :
    ConnectionCall → ConnectionContext → Prop
  | .packet packet answers, c' => c.sendToNetwork packet answers = .ok c'
  | .event ready answers now, c' => c.onReady ready answers now = .ok c'.removeIfClosed
  | .close, c' => c' = c.close
  | .expire, c' => ∃ connections f, (c.withRoutes connections).expire = .ok f ∧
      c' = f.withRoutes c.client.connections
  | .next, c' => ∃ conn f, c.conn = .tcp conn ∧
      TcpContext.next ⟨conn, c.client, c.selector⟩ = .ok f ∧ c' = f.asConnection

/-! ## What a method does to the client -/

/-- Whole blocks are appended to the stream of the client; its interests and its
pending sources may change, and nothing else. -/
structure Client.Serves (client client' : Client) : Prop where
  id : client'.id = client.id
  clientToNetwork : client'.clientToNetwork = client.clientToNetwork
  connections : client'.connections = client.connections
  closed : client'.closed = client.closed
  pendingIdBytes : client'.pendingIdBytes = client.pendingIdBytes
  stream : ∃ blocks, client'.appended = client.appended ++ blocks ∧
    client'.networkToClient.contents = client.networkToClient.contents ++ blocks.flatten

namespace Client.Serves

variable {client client₁ client' : Client}

theorem refl (client : Client) : client.Serves client :=
  ⟨rfl, rfl, rfl, rfl, rfl, [], by simp, by simp⟩

theorem trans (first : client.Serves client₁) (second : client₁.Serves client') :
    client.Serves client' := by
  obtain ⟨blocks, appended, contents⟩ := first.stream
  obtain ⟨blocks', appended', contents'⟩ := second.stream
  refine ⟨second.id.trans first.id, second.clientToNetwork.trans first.clientToNetwork,
    second.connections.trans first.connections, second.closed.trans first.closed,
    second.pendingIdBytes.trans first.pendingIdBytes, blocks ++ blocks', ?_, ?_⟩
  · rw [appended', appended, List.append_assoc]
  · rw [contents', contents, List.flatten_append, List.append_assoc]

theorem registerPendingPacketSource (client : Client) (source : Handle) :
    client.Serves (client.registerPendingPacketSource source) :=
  ⟨rfl, rfl, rfl, rfl, rfl, [], by simp [Client.registerPendingPacketSource],
    by simp [Client.registerPendingPacketSource]⟩

theorem of_sendRawToClient {selector selector' : Selector} {raw : List UInt8} {sent : IoResult Unit}
    (h : client.sendRawToClient selector raw = .ok (sent, client', selector')) :
    client.Serves client' := by
  obtain ⟨same, -, -, ⟨-, -, contents, appended⟩ | ⟨-, -, rfl, -⟩⟩ := sendRawToClient_ok h
  · refine ⟨same.id, same.clientToNetwork, same.connections, same.closed, same.pendingIdBytes, [raw],
      appended, ?_⟩
    rw [contents, List.flatten_singleton]
  · exact .refl client'

end Client.Serves

/-! ## What a method does to the selector -/

/-- How the life of a connection goes on over one call: it stays as it is, or it closes and gives
up its registration. -/
inductive ConnectionContext.Lives (c c' : ConnectionContext) : Prop
  /-- It stays as it is, open or closed; a closed one is not registered again. -/
  | stays : c'.conn.isClosed = c.conn.isClosed →
      c'.selector.tokensToRemove = c.selector.tokensToRemove →
      (c.conn.isClosed = true → c'.selector.registered (.connection c.conn.handle) =
        c.selector.registered (.connection c.conn.handle)) →
      Lives c c'
  /-- It is closed, and deregistered. -/
  | ends : c.conn.isClosed = false → c'.conn.isClosed = true →
      c'.selector.tokensToRemove = c.selector.tokensToRemove ++ [.connection c.conn.handle] →
      c'.selector.registered (.connection c.conn.handle) = none →
      Lives c c'

/-- The connection is still the same, and has only served its client.  Every call does at most this
to the rest of the relay, and it is what keeps the flows apart. -/
structure ConnectionContext.Acts (c c' : ConnectionContext) : Prop where
  handle : c'.conn.handle = c.conn.handle
  id : c'.conn.id = c.conn.id
  client : c.client.Serves c'.client
  /-- The sockets of the other connections are left alone. -/
  others : ∀ handle, handle ≠ c.conn.handle →
    c'.selector.registered (.connection handle) = c.selector.registered (.connection handle)

/-- It acts as a connection may on its client and the selector, and is deregistered once if it
closes. -/
structure ConnectionContext.Proceeds (c c' : ConnectionContext) : Prop extends
    ConnectionContext.Acts c c' where
  lives : c.Lives c'

/-- What an event does to an open connection: it goes on, and removes itself from the
router if that closed it, as a hang-up does. -/
def ConnectionContext.Reacts (c : ConnectionContext) (hangsUp : Prop) (c' : ConnectionContext) : Prop :=
  ∃ c₁, c.Proceeds c₁ ∧ (hangsUp → c₁.conn.isClosed = true) ∧ c' = c₁.removeIfClosed

namespace ConnectionContext

variable {c c₁ c' : ConnectionContext}

theorem removeIfClosed_of_closed (closed : c.conn.isClosed = true) :
    c.removeIfClosed = c.removeFromRouter := if_pos closed

theorem removeIfClosed_of_open (isOpen : c.conn.isClosed = false) : c.removeIfClosed = c :=
  if_neg (by rw [isOpen]; exact Bool.false_ne_true)

theorem Acts.refl (c : ConnectionContext) : c.Acts c := ⟨rfl, rfl, .refl c.client, fun _ _ => rfl⟩

theorem Acts.trans (first : c.Acts c₁) (second : c₁.Acts c') : c.Acts c' where
  handle := second.handle.trans first.handle
  id := second.id.trans first.id
  client := first.client.trans second.client
  others handle ne := by
    rw [second.others handle (by rwa [first.handle]), first.others handle ne]

namespace Proceeds

theorem refl (c : ConnectionContext) : c.Proceeds c := ⟨.refl c, .stays rfl rfl fun _ => rfl⟩

theorem trans (first : c.Proceeds c₁) (second : c₁.Proceeds c') : c.Proceeds c' := by
  refine ⟨first.toActs.trans second.toActs, ?_⟩
  have handle := first.handle
  cases first.lives with
  | stays closed tokens kept =>
      cases second.lives with
      | stays closed' tokens' kept' =>
          refine .stays (closed'.trans closed) (tokens'.trans tokens) fun isClosed => ?_
          rw [← handle, kept' (closed.trans isClosed), handle, kept isClosed]
      | ends isOpen closed' tokens' gone =>
          refine .ends (closed.symm.trans isOpen) closed' ?_ (handle ▸ gone)
          rw [tokens', tokens, handle]
  | ends isOpen closed tokens gone =>
      cases second.lives with
      | stays closed' tokens' kept' =>
          refine .ends isOpen (closed'.trans closed) (tokens'.trans tokens) ?_
          rw [← handle, kept' closed, handle, gone]
      | ends isOpen' => exact absurd (closed.symm.trans isOpen') (by decide)

/-- Only the connection has changed, and not its life. -/
theorem of_conn {conn : Connection} (handle : conn.handle = c.conn.handle)
    (id : conn.id = c.conn.id) (closed : conn.isClosed = c.conn.isClosed) :
    c.Proceeds { c with conn } :=
  ⟨⟨handle, id, .refl c.client, fun _ _ => rfl⟩, .stays closed rfl fun _ => rfl⟩

/-- The connection, not closed by it, has sent something to the client. -/
theorem of_send {selector : Selector} {client : Client} {conn : Connection}
    (handle : conn.handle = c.conn.handle) (id : conn.id = c.conn.id)
    (closed : conn.isClosed = c.conn.isClosed) (serves : c.client.Serves client)
    (same : c.selector.SameBut .client selector) : c.Proceeds ⟨conn, client, selector⟩ :=
  ⟨⟨handle, id, serves, fun _ _ => same.registered _ nofun⟩,
    .stays closed same.tokensToRemove fun _ => same.registered _ nofun⟩

/-- The interests of an open connection have been brought up to date. -/
theorem of_interests {selector : Selector} {conn : Connection}
    (handle : conn.handle = c.conn.handle) (id : conn.id = c.conn.id) (isOpen : c.conn.isClosed = false)
    (closed : conn.isClosed = c.conn.isClosed)
    (same : c.selector.SameBut (.connection c.conn.handle) selector) :
    c.Proceeds ⟨conn, c.client, selector⟩ := by
  refine ⟨⟨handle, id, .refl c.client, fun other ne => ?_⟩, .stays closed same.tokensToRemove ?_⟩
  · exact same.registered _ fun eq => ne (Source.connection.inj eq)
  · exact fun isClosed => absurd (isOpen.symm.trans isClosed) (by decide)

/-- The connection has been closed and deregistered. -/
theorem of_close {conn : Connection} (handle : conn.handle = c.conn.handle)
    (id : conn.id = c.conn.id) (isOpen : c.conn.isClosed = false) (closed : conn.isClosed = true) :
    c.Proceeds ⟨conn, c.client, (c.selector.deregister (.connection c.conn.handle)).2⟩ := by
  refine ⟨⟨handle, id, .refl c.client, fun other ne => ?_⟩, .ends isOpen closed rfl ?_⟩
  · rw [Selector.registered_deregister, if_neg fun eq => ne (Source.connection.inj eq)]
  · rw [Selector.registered_deregister, if_pos rfl]

/-- An event has left the connection open. -/
theorem reacts_open {hangsUp : Prop} (proceeds : c.Proceeds c') (isOpen : c'.conn.isClosed = false)
    (notHup : ¬ hangsUp) : c.Reacts hangsUp c' :=
  ⟨c', proceeds, fun hup => absurd hup notHup, (removeIfClosed_of_open isOpen).symm⟩

/-- An event has closed the connection, which removes itself. -/
theorem reacts_closed {hangsUp : Prop} (proceeds : c.Proceeds c') (closed : c'.conn.isClosed = true) :
    c.Reacts hangsUp c'.removeFromRouter :=
  ⟨c', proceeds, fun _ => closed, (removeIfClosed_of_closed closed).symm⟩

end Proceeds

end ConnectionContext

end ReverseTether
