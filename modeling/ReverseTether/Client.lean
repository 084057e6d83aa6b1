import ReverseTether.IpPacketBuffer
import ReverseTether.Selector
import ReverseTether.StreamBuffer

/-!
# The client of a tunnel: its data and its channel

A `Client` owns the two buffers of the tunnel socket, the routes to its
connections, and the list of connections that wait to hand over a packet.  This
file has what its connections use of it; its own event handlers come after the
connections.

A packet for the client is appended to `networkToClient` as a whole or rejected.
`appended` is not in the source: it records the blocks appended so far, so that
the stream can be talked about as a list of blocks.

The id that the client still has to write, its place in the tunnel server and the flag that it
is closed are fields of the same record, though only its own handlers look at them.  A packet
is sent through `ClientChannel`, which has the output buffer and the interests of the client,
so that a connection can be given it while the client is borrowed.

`appended` and the buffer cannot disagree: a block is appended to both or to none
(`sendRawToClient_ok`), and only the write of the client takes bytes out.
-/

namespace ReverseTether

/-- `SocketAddr`: the address as a number for IPv4, and as its 16 bytes for IPv6. -/
inductive SocketAddr
  | v4 (ip : UInt32) (port : UInt16)
  | v6 (ip : List UInt8) (port : UInt16)
  deriving DecidableEq, Repr

/-- `id_string` is left out: it is made from the other fields, to be logged. -/
structure ConnectionId where
  protocol : Protocol
  source : SocketAddr
  destination : SocketAddr
  deriving DecidableEq, Repr

namespace ConnectionId

/-- The flow of an IPv4 packet with a transport header. -/
def fromHeaders (ipv4 : Ipv4HeaderData) (transport : TransportHeaderData) : ConnectionId where
  protocol := ipv4.protocol
  source := .v4 ipv4.source transport.sourcePort
  destination := .v4 ipv4.destination transport.destinationPort

/-- The flow a packet is of, as far as the relay knows its protocol. -/
def fromPacket : IpPacket → Option ConnectionId
  | .ipv4 packet => packet.transportHeaderData.map (fromHeaders packet.ipv4HeaderData)
  | .ipv6 packet =>
      let header := packet.ipv6HeaderData
      let transport := packet.transportHeaderData
      let make (protocol : Protocol) : ConnectionId :=
        { protocol
          source := .v6 header.source transport.sourcePort
          destination := .v6 header.destination transport.destinationPort }
      if header.nextHeader = 6 then some (make .tcp)
      else if header.nextHeader = 17 then some (make .udp)
      else none

end ConnectionId

/-- The bytes waiting for the client's socket. -/
abbrev ClientStream := StreamBuffer (16 * maxPacketLength)

/-- What the connections share of their client: its buffers, the routes, and the connections that
wait for room. -/
structure Client where
  id : UInt32
  interests : Ready
  clientToNetwork : IpPacketBuffer
  networkToClient : ClientStream
  /-- The `connections` of its router. -/
  connections : List (ConnectionId × Handle)
  closed : Bool
  pendingPacketSources : List Handle
  /-- Number of remaining bytes of `id` to send to the client before relaying any
  data. -/
  pendingIdBytes : ℕ
  /-- The blocks appended to `networkToClient` since the start. -/
  appended : List (List UInt8)

namespace Client

/-- `Client::create`, in what concerns the client itself: on start it is
interested only in writing. -/
def create (id : UInt32) : Client where
  id
  interests := .writable
  clientToNetwork := .new
  networkToClient := .new _
  connections := []
  closed := false
  pendingPacketSources := []
  pendingIdBytes := 4
  appended := []

/-- The interest the output buffer calls for. -/
def wanted (client : Client) : Ready :=
  if client.networkToClient.isEmpty then .readable else Ready.readable.union .writable

/-- The client is registered again only when what it waits for has changed. -/
def updateInterests (client : Client) (selector : Selector) : Outcome (Client × Selector) :=
  if client.interests ≠ client.wanted then do
    let selector ← selector.reregister .client client.wanted
    return ({ client with interests := client.wanted }, selector)
  else .ok (client, selector)

/-- Send an already serialized IP packet.  `ClientChannel` has a copy of this
function that works on the same fields of the client, borrowed; both are this
one. -/
def sendRawToClient (client : Client) (selector : Selector) (raw : List UInt8) :
    Outcome (IoResult Unit × Client × Selector) :=
  if raw.length ≤ client.networkToClient.remaining then do
    let networkToClient ← client.networkToClient.readFrom raw
    let (client, selector) ←
      { client with networkToClient, appended := client.appended ++ [raw] }.updateInterests selector
    return (.ok (), client, selector)
  else .ok (.error .wouldBlock, client, selector)

/-- `ClientChannel::send_to_client`, for the connections that hold a parsed packet. -/
def sendToClient (client : Client) (selector : Selector) (ipv4Packet : Ipv4Packet) :
    Outcome (IoResult Unit × Client × Selector) :=
  client.sendRawToClient selector ipv4Packet.raw

/-- A connection whose packet was rejected queues up behind those that wait already. -/
def registerPendingPacketSource (client : Client) (source : Handle) : Client :=
  { client with pendingPacketSources := client.pendingPacketSources ++ [source] }

/-- `Router::remove`: by id, known or not. -/
def removeConnection (client : Client) (id : ConnectionId) : Client :=
  { client with connections := client.connections.filter fun route => route.1 ≠ id }

end Client

/-! ## What sending changes -/

/-- Only the output buffer, its record and the interests may differ.  A packet that is appended, or
refused, changes nothing else of the client. -/
structure Client.SameButOutput (client client' : Client) : Prop where
  id : client'.id = client.id
  clientToNetwork : client'.clientToNetwork = client.clientToNetwork
  connections : client'.connections = client.connections
  closed : client'.closed = client.closed
  pendingPacketSources : client'.pendingPacketSources = client.pendingPacketSources
  pendingIdBytes : client'.pendingIdBytes = client.pendingIdBytes

/-- Only the registration of `source` may differ.  What a call does to one socket it does not do to
another. -/
structure Selector.SameBut (source : Source) (selector selector' : Selector) : Prop where
  registered : ∀ other, other ≠ source → selector'.registered other = selector.registered other
  tokensToRemove : selector'.tokensToRemove = selector.tokensToRemove

namespace Client

variable {client client' : Client} {selector selector' : Selector} {raw : List UInt8}

theorem updateInterests_ok (h : client.updateInterests selector = .ok (client', selector')) :
    client.SameButOutput client' ∧ client'.networkToClient = client.networkToClient ∧
      client'.appended = client.appended ∧ selector.SameBut .client selector' ∧
      client'.interests = client.wanted ∧
      (selector.registered .client = some client.interests →
        selector'.registered .client = some client'.interests) := by
  unfold updateInterests at h
  split at h
  · obtain ⟨selector₁, reregistered, rest⟩ := bind_eq_ok.mp h
    obtain ⟨-, rfl⟩ := Selector.reregister_eq_ok.mp reregistered
    cases rest
    refine ⟨⟨rfl, rfl, rfl, rfl, rfl, rfl⟩, rfl, rfl, ⟨fun other ne => ?_, rfl⟩, rfl, fun _ => ?_⟩
    · rw [Selector.registered_register, if_neg ne]
    · rw [Selector.registered_register, if_pos rfl]
  · rename_i same
    cases h
    exact ⟨⟨rfl, rfl, rfl, rfl, rfl, rfl⟩, rfl, rfl, ⟨fun _ _ => rfl, rfl⟩, not_not.mp same, fun h => h⟩

/-- **A block is appended as a whole, or nothing changes.**  The room is asked for before the first
byte is copied; that is why a packet is never cut in the stream of the client.  The interests are
those of the new state, which is seldom another one. -/
theorem sendRawToClient_ok {r : IoResult Unit}
    (h : client.sendRawToClient selector raw = .ok (r, client', selector')) :
    client.SameButOutput client' ∧ selector.SameBut .client selector' ∧
      (selector.registered .client = some client.interests →
        selector'.registered .client = some client'.interests) ∧
      ((r = .ok () ∧ raw.length ≤ client.networkToClient.remaining ∧
          client'.networkToClient.contents = client.networkToClient.contents ++ raw ∧
          client'.appended = client.appended ++ [raw]) ∨
        (r = .error .wouldBlock ∧ client.networkToClient.remaining < raw.length ∧
          client' = client ∧ selector' = selector)) := by
  unfold sendRawToClient at h
  split at h
  · rename_i fits
    obtain ⟨buffer, full, rest⟩ := bind_eq_ok.mp h
    obtain ⟨⟨client₁, selector₁⟩, updated, rest⟩ := bind_eq_ok.mp rest
    cases rest
    obtain ⟨same, stream, appended, selector_same, -, kept⟩ := updateInterests_ok updated
    refine ⟨⟨same.id, same.clientToNetwork, same.connections, same.closed,
      same.pendingPacketSources, same.pendingIdBytes⟩, selector_same, kept, .inl ⟨rfl, fits, ?_,
      appended⟩⟩
    rw [stream]
    exact StreamBuffer.contents_readFrom full
  · rename_i full
    cases h
    exact ⟨⟨rfl, rfl, rfl, rfl, rfl, rfl⟩, ⟨fun _ _ => rfl, rfl⟩, fun h => h,
      .inr ⟨rfl, by omega, rfl, rfl⟩⟩

theorem SameButOutput.refl (client : Client) : client.SameButOutput client :=
  ⟨rfl, rfl, rfl, rfl, rfl, rfl⟩

theorem SameButOutput.trans {client client₁ client' : Client} (first : client.SameButOutput client₁)
    (second : client₁.SameButOutput client') : client.SameButOutput client' :=
  ⟨second.id.trans first.id, second.clientToNetwork.trans first.clientToNetwork,
    second.connections.trans first.connections, second.closed.trans first.closed,
    second.pendingPacketSources.trans first.pendingPacketSources,
    second.pendingIdBytes.trans first.pendingIdBytes⟩

theorem updateInterests_returns (client : Client) {selector : Selector}
    (registered : selector.registered .client ≠ none) :
    ∃ client' selector', client.updateInterests selector = .ok (client', selector') ∧
      selector.Keeps selector' := by
  unfold updateInterests
  split
  · rw [Selector.reregister_eq_ok.mpr ⟨registered, rfl⟩]
    exact ⟨_, _, rfl, selector.keeps_register _ _⟩
  · exact ⟨_, _, rfl, fun _ known => known⟩

/-- A packet is sent when there is room for it, and rejected when there is not. -/
theorem sendRawToClient_returns (client : Client) {selector : Selector} (raw : List UInt8)
    (registered : selector.registered .client ≠ none) :
    ∃ sent client' selector', client.sendRawToClient selector raw = .ok (sent, client', selector') ∧
      client.SameButOutput client' ∧ selector.Keeps selector' ∧
      ((raw.length ≤ client.networkToClient.remaining ∧ sent = .ok ()) ∨
        (client.networkToClient.remaining < raw.length ∧ sent = .error .wouldBlock)) := by
  by_cases fits : raw.length ≤ client.networkToClient.remaining
  · obtain ⟨networkToClient, stored, -⟩ := StreamBuffer.readFrom_ok fits
    obtain ⟨client', selector', updated, keeps⟩ := updateInterests_returns
      { client with networkToClient, appended := client.appended ++ [raw] } registered
    have sent : client.sendRawToClient selector raw = .ok (.ok (), client', selector') := by
      rw [sendRawToClient, if_pos fits, stored, ok_bind, updated]
      rfl
    exact ⟨_, client', selector', sent, (sendRawToClient_ok sent).1, keeps, .inl ⟨fits, rfl⟩⟩
  · refine ⟨.error .wouldBlock, client, selector, if_neg fits, .refl client, fun _ known => known,
      .inr ⟨?_, rfl⟩⟩
    exact not_le.mp fits

/-- Only the client's registration can be missing. -/
theorem sendRawToClient_error {panic : Panic}
    (h : client.sendRawToClient selector raw = .error panic) : panic = .cannotRegister := by
  unfold sendRawToClient at h
  split at h
  · rename_i fits
    obtain ⟨networkToClient, stored, -⟩ := StreamBuffer.readFrom_ok fits
    rw [stored, ok_bind] at h
    rcases bind_eq_error.mp h with updated | ⟨_, -, rest⟩
    · unfold updateInterests at updated
      split at updated
      · rcases bind_eq_error.mp updated with missing | ⟨_, -, rest⟩
        · exact Selector.reregister_error missing
        · cases rest
      · cases updated
    · cases rest
  · cases h

end Client

end ReverseTether
