import ReverseTether.Client
import ReverseTether.Ipv6Packetizer

/-!
# An IPv6 connection

The relay does not terminate IPv6 flows: the payload of every packet of the client
is offered once to a host socket, whose answer is only looked at for errors, and
what the host sends is put behind the headers of the first packet of the flow.  TCP
and UDP differ in their socket only.

What the socket answers is input, as for the other connections.  `trace` is not in
the source; it records what the connection has done, oldest first.

The packetizer is made of the first packet, for the way back, and its headers are completed
for each chunk that the host sends; a TCP flow gets the header of that first packet with its
ports swapped, and the relay neither answers its SYN nor counts its bytes.

A flow is closed by the end of a TCP stream, by an error of its socket and by the timeout.  An
error of the write while a packet of the client is routed is special: the connection only
marks itself closed, and stays registered.
-/

namespace ReverseTether

/-- The socket of a flow: the kind decides how its bytes are read and how they are packetized. -/
inductive Ipv6Socket
  | tcp
  | udp
  deriving DecidableEq, Repr

/-- What a connection has done, one entry for each effect that its host or its client can see. -/
inductive Ipv6Action
  /-- The host socket took these bytes. -/
  | wrote (data : List UInt8)
  /-- These bytes were read from the host socket. -/
  | read (data : List UInt8)
  /-- A packet was handed to the client. -/
  | handed (raw : List UInt8)
  /-- A packet was rejected by the client. -/
  | dropped (raw : List UInt8)
  deriving DecidableEq, Repr

/-- `Ipv6Connection`: a flow over IPv6, with its host socket and the packetizer of what comes back.
-/
structure Ipv6Connection where
  /-- The owner of `token`. -/
  handle : Handle
  id : ConnectionId
  socket : Ipv6Socket
  networkToClient : Ipv6Packetizer
  closed : Bool
  idleSince : Instant
  /-- What it has done so far. -/
  trace : List Ipv6Action

/-- What a method of the connection can reach: the connection, its client and the selector. -/
structure Ipv6Context where
  conn : Ipv6Connection
  client : Client
  selector : Selector

namespace Ipv6Connection

/-- `IDLE_TIMEOUT_SECONDS`: two minutes, for TCP flows as well as for UDP. -/
def idleTimeoutSeconds : ℕ := 2 * 60

/-- Opening and registering the socket may fail, which `opened` says. -/
def create (selector : Selector) (handle : Handle) (id : ConnectionId) (packetizer : Ipv6Packetizer)
    (now : Instant) (opened : IoResult Unit) : IoResult (Ipv6Connection × Selector) := do
  let socket ←
    match id.protocol with
    | .tcp => .ok Ipv6Socket.tcp
    | .udp => .ok Ipv6Socket.udp
    | .other => .error .other
  let () ← opened
  let conn : Ipv6Connection :=
    { handle, id, socket, networkToClient := packetizer, closed := false, idleSince := now, trace := [] }
  return (conn, selector.register (.connection handle) .readable)

theorem create_ok {selector selector' : Selector} {handle : Handle} {id : ConnectionId}
    {packetizer : Ipv6Packetizer} {now : Instant} {opened : IoResult Unit} {conn : Ipv6Connection}
    (h : create selector handle id packetizer now opened = .ok (conn, selector')) :
    conn.handle = handle ∧ conn.id = id ∧ conn.closed = false ∧
      selector' = selector.register (.connection handle) .readable := by
  unfold create at h
  cases opened with
  | error _ => cases protocol : id.protocol <;> rw [protocol] at h <;> cases h
  | ok _ =>
      cases protocol : id.protocol with
      | other =>
          rw [protocol] at h
          cases h
      | tcp =>
          rw [protocol] at h
          cases h
          exact ⟨rfl, rfl, rfl, rfl⟩
      | udp =>
          rw [protocol] at h
          cases h
          exact ⟨rfl, rfl, rfl, rfl⟩

/-- `touch`: the connection was used just now, so its idle time begins again. -/
def touch (conn : Ipv6Connection) (now : Instant) : Ipv6Connection := { conn with idleSince := now }

/-- The record grows. -/
def record (conn : Ipv6Connection) (action : Ipv6Action) : Ipv6Connection :=
  { conn with trace := conn.trace ++ [action] }

/-- `is_expired`: it has been idle for longer than the timeout, in whole seconds. -/
def isExpired (conn : Ipv6Connection) (now : Instant) : Bool :=
  idleTimeoutSeconds < elapsedSecs now conn.idleSince

end Ipv6Connection

namespace Ipv6Context

/-- One more action is added to the history of the connection. -/
def record (c : Ipv6Context) (action : Ipv6Action) : Ipv6Context :=
  { c with conn := c.conn.record action }

/-- The same with the surroundings of the connection, which stay as they are. -/
def touch (c : Ipv6Context) (now : Instant) : Ipv6Context := { c with conn := c.conn.touch now }

/-- `self.closed = true`. -/
def markClosed (c : Ipv6Context) : Ipv6Context := { c with conn := { c.conn with closed := true } }

/-- A failure to deregister is ignored. -/
def close (c : Ipv6Context) : Ipv6Context :=
  if c.conn.closed then c
  else { c.markClosed with selector := (c.selector.deregister (.connection c.conn.handle)).2 }

/-- `remove_from_router`: the route of the flow leaves the client; the connection itself stays as
it is. -/
def removeFromRouter (c : Ipv6Context) : Ipv6Context :=
  { c with client := c.client.removeConnection c.conn.id }

/-- The packet of a client is offered to the socket, which takes `write` bytes of its
payload. -/
def sendToNetwork (c : Ipv6Context) (packet : IpPacket) (write : IoResult ℕ) (now : Instant) :
    Outcome Ipv6Context :=
  match packet with
  | .ipv4 _ => .ok c
  | .ipv6 packet => do
      let payload := (← packet.payload).getD []
      let c := c.touch now
      if payload = [] then return c
      else
        match write with
        | .ok n => return c.record (.wrote (payload.take n))
        | .error .wouldBlock => return c
        | .error .other => return c.markClosed

/-- What the socket hands over of `source`, and the packet made of it. -/
def packetizeSource (p : Ipv6Packetizer) (socket : Ipv6Socket) (source : IoResult (List UInt8)) :
    Outcome (IoResult (Option Ipv6Packet) × Ipv6Packetizer) :=
  match socket with
  | .tcp => p.packetizeRead source
  | .udp => do
      let (packet, p) ← p.packetize source
      return (packet.map some, p)

/-- A packet that the client has no room for is dropped. -/
def sendDataToClient (c : Ipv6Context) (packet : Ipv6Packet) : Outcome Ipv6Context := do
  let (sent, client, selector) ← c.client.sendRawToClient c.selector packet.raw
  let c := { c with client, selector }
  match sent with
  | .ok () => return c.record (.handed packet.raw)
  | .error _ => return c.record (.dropped packet.raw)

/-- `read`: one read of the host socket is one packet for the client, and the end of a TCP stream
closes the flow. -/
def read (c : Ipv6Context) (source : IoResult (List UInt8)) (now : Instant) :
    Outcome (IoResult Unit × Ipv6Context) := do
  let data := c.conn.networkToClient.chunk (source.toOption.getD [])
  let (packet, networkToClient) ← packetizeSource c.conn.networkToClient c.conn.socket source
  let c := { c with conn := { c.conn with networkToClient } }
  match packet with
  | .error err => return (.error err, c)
  | .ok none =>
      -- EOF on a TCP host socket: nothing left to relay
      return (.ok (), c.close)
  | .ok (some packet) => do
      let c ← ((c.record (.read data)).touch now).sendDataToClient packet
      return (.ok (), c)

/-- `Err(WouldBlock)` on spurious event. -/
def processReceive (c : Ipv6Context) (source : IoResult (List UInt8)) (now : Instant) :
    Outcome (IoResult Unit × Ipv6Context) := do
  match ← c.read source now with
  | (.ok (), c) => return (.ok (), c)
  | (.error .wouldBlock, c) => return (.error .wouldBlock, c)
  | (.error .other, c) => return (.ok (), c.close)

/-- `process`: only a readable event does anything, and a connection that it has closed leaves the
router. -/
def process (c : Ipv6Context) (ready : Ready) (source : IoResult (List UInt8)) (now : Instant) :
    Outcome (IoResult Unit × Ipv6Context) :=
  if c.conn.closed then .ok (.ok (), c)
  else
    orReturn (if ready.isReadable then c.processReceive source now else .ok (.ok (), c))
      fun c => .ok (.ok (), if c.conn.closed then c.removeFromRouter else c)

/-- `on_ready`: `WouldBlock` is ignored, and any other error is logged and closes the connection
for good. -/
def onReady (c : Ipv6Context) (ready : Ready) (source : IoResult (List UInt8)) (now : Instant) :
    Outcome Ipv6Context := do
  let (result, c) ← c.process ready source now
  match result with
  | .ok () => return c
  | .error .wouldBlock =>
      -- spurious event, ignoring
      return c
  | .error .other =>
      let c := if c.conn.closed then c else c.close
      return c.removeFromRouter

end Ipv6Context

/-! ## What its methods can do -/

/-- What packetizing a source comes to: the error of the source, the end of a TCP stream, or a
packet around the bytes that were read. -/
inductive Packetized (p : Ipv6Packetizer) (socket : Ipv6Socket) :
    IoResult (List UInt8) → IoResult (Option Ipv6Packet) → Ipv6Packetizer → Prop
  | failed (err : IoError) : Packetized p socket (.error err) (.error err) p
  | eof {available : List UInt8} : socket = .tcp → p.chunk available = [] →
      Packetized p socket (.ok available) (.ok none) p
  | built {available : List UInt8} {packet : Ipv6Packet} {p' : Ipv6Packetizer} :
      (socket = .tcp → p.chunk available ≠ []) →
      (p.receive (p.chunk available)).build (UInt16.ofNat (p.chunk available).length) =
        .ok (packet, p') →
      Packetized p socket (.ok available) (.ok (some packet)) p'

/-- What a readiness event does to a connection: nothing, its end, or a packet for the client,
which may not be taken. -/
inductive Ipv6Handled (c : Ipv6Context) (ready : Ready) (source : IoResult (List UInt8))
    (now : Instant) : Ipv6Context → Prop
  | ignored : c.conn.closed = true ∨ ready.isReadable = false ∨ source = .error .wouldBlock →
      Ipv6Handled c ready source now c
  /-- The host socket failed, or is at its end. -/
  | ended : c.conn.closed = false → ready.isReadable = true →
      source = .error .other ∨
        (c.conn.socket = .tcp ∧ ∃ available, source = .ok available ∧
          c.conn.networkToClient.chunk available = []) →
      Ipv6Handled c ready source now c.close.removeFromRouter
  | received {available : List UInt8} {packet : Ipv6Packet} {p : Ipv6Packetizer}
      {sent : IoResult Unit} {client : Client} {selector : Selector} {action : Ipv6Action} :
      c.conn.closed = false → ready.isReadable = true → source = .ok available →
      Packetized c.conn.networkToClient c.conn.socket source (.ok (some packet)) p →
      c.client.sendRawToClient c.selector packet.raw = .ok (sent, client, selector) →
      action = .handed packet.raw ∨ action = .dropped packet.raw →
      Ipv6Handled c ready source now
        ⟨(({ c.conn with networkToClient := p }.record
          (.read (c.conn.networkToClient.chunk available))).touch now).record action,
          client, selector⟩

namespace Ipv6Context

variable {c c' : Ipv6Context} {source : IoResult (List UInt8)} {now : Instant}

theorem packetizeSource_ok {p p' : Ipv6Packetizer} {socket : Ipv6Socket}
    {packet : IoResult (Option Ipv6Packet)}
    (h : packetizeSource p socket source = .ok (packet, p')) :
    Packetized p socket source packet p' := by
  cases source with
  | error err =>
      cases socket <;> cases h <;> exact .failed err
  | ok available =>
      cases socket with
      | tcp =>
          unfold packetizeSource Ipv6Packetizer.packetizeRead at h
          simp only at h
          split at h
          · rename_i some
            obtain ⟨⟨built, p₁⟩, eq, rest⟩ := bind_eq_ok.mp h
            cases rest
            exact .built (fun _ => List.ne_nil_of_length_pos some) eq
          · rename_i none
            cases h
            exact .eof rfl (List.eq_nil_of_length_eq_zero (by omega))
      | udp =>
          obtain ⟨⟨built, p₁⟩, packetized, rest⟩ := bind_eq_ok.mp h
          obtain ⟨⟨packet₁, p₂⟩, eq, last⟩ := bind_eq_ok.mp packetized
          cases last
          cases rest
          exact .built nofun eq

theorem sendToNetwork_ok {packet : Ipv6Packet} {write : IoResult ℕ}
    (h : c.sendToNetwork (.ipv6 packet) write now = .ok c') :
    ∃ payload, packet.payload = .ok payload ∧
      ((c' = c.touch now ∧ (payload.getD [] = [] ∨ write = .error .wouldBlock)) ∨
        (∃ n, payload.getD [] ≠ [] ∧ write = .ok n ∧
          c' = (c.touch now).record (.wrote ((payload.getD []).take n))) ∨
        (payload.getD [] ≠ [] ∧ write = .error .other ∧ c' = (c.touch now).markClosed)) := by
  obtain ⟨payload, eq, h⟩ := bind_eq_ok.mp h
  refine ⟨payload, eq, ?_⟩
  simp only at h
  split at h
  · rename_i empty
    cases h
    exact .inl ⟨rfl, .inl empty⟩
  · rename_i some
    split at h
    · cases h
      exact .inr (.inl ⟨_, some, rfl, rfl⟩)
    · cases h
      exact .inl ⟨rfl, .inr rfl⟩
    · cases h
      exact .inr (.inr ⟨some, rfl, rfl⟩)

theorem sendDataToClient_ok {packet : Ipv6Packet} (h : c.sendDataToClient packet = .ok c') :
    ∃ sent client selector action,
      c.client.sendRawToClient c.selector packet.raw = .ok (sent, client, selector) ∧
      (action = .handed packet.raw ∨ action = .dropped packet.raw) ∧
      c' = ⟨c.conn.record action, client, selector⟩ := by
  obtain ⟨⟨sent, client, selector⟩, offered, h⟩ := bind_eq_ok.mp h
  cases sent with
  | ok _ =>
      cases h
      exact ⟨_, client, selector, _, offered, .inl rfl, rfl⟩
  | error err =>
      cases h
      exact ⟨_, client, selector, _, offered, .inr rfl, rfl⟩

/-- What reading from the host socket can do. -/
theorem processReceive_ok {result : IoResult Unit}
    (h : c.processReceive source now = .ok (result, c')) :
    (result = .error .wouldBlock ∧ source = .error .wouldBlock ∧ c' = c) ∨
      (result = .ok () ∧ c' = c.close ∧
        (source = .error .other ∨
          (c.conn.socket = .tcp ∧ ∃ available, source = .ok available ∧
            c.conn.networkToClient.chunk available = []))) ∨
      (result = .ok () ∧ ∃ available packet p sent client selector action,
        source = .ok available ∧
        Packetized c.conn.networkToClient c.conn.socket source (.ok (some packet)) p ∧
        c.client.sendRawToClient c.selector packet.raw = .ok (sent, client, selector) ∧
        (action = .handed packet.raw ∨ action = .dropped packet.raw) ∧
        c' = ⟨(({ c.conn with networkToClient := p }.record
          (.read (c.conn.networkToClient.chunk available))).touch now).record action,
          client, selector⟩) := by
  obtain ⟨⟨answer, c₁⟩, wasRead, h⟩ := bind_eq_ok.mp h
  obtain ⟨⟨packet, p⟩, packetized, wasRead⟩ := bind_eq_ok.mp wasRead
  have made := packetizeSource_ok packetized
  cases made with
  | failed err =>
      cases wasRead
      cases err with
      | wouldBlock =>
          cases h
          exact .inl ⟨rfl, rfl, rfl⟩
      | other =>
          cases h
          exact .inr (.inl ⟨rfl, rfl, .inl rfl⟩)
  | eof tcp empty =>
      cases wasRead
      cases h
      exact .inr (.inl ⟨rfl, rfl, .inr ⟨tcp, _, rfl, empty⟩⟩)
  | @built available packet p some eq =>
      obtain ⟨c₂, offered, wasRead⟩ := bind_eq_ok.mp wasRead
      cases wasRead
      cases h
      obtain ⟨sent, client, selector, action, accepted, kind, rfl⟩ := sendDataToClient_ok offered
      exact .inr (.inr ⟨rfl, available, packet, p, sent, client, selector, action, rfl,
        .built some eq, accepted, kind, rfl⟩)

/-- **What a readiness event can do.**  An event is ignored, or it ends the connection, or it
brings one packet, which is appended for the client or dropped. -/
theorem onReady_ok {ready : Ready} (h : c.onReady ready source now = .ok c') :
    Ipv6Handled c ready source now c' := by
  obtain ⟨⟨result, c₁⟩, processed, h⟩ := bind_eq_ok.mp h
  unfold process at processed
  split at processed
  · rename_i closed
    cases processed
    cases h
    exact .ignored (.inl closed)
  · rename_i isOpen
    rw [Bool.not_eq_true] at isOpen
    rcases orReturn_eq_ok.mp processed with ⟨c₂, received, rest⟩ | ⟨err, c₂, received, rest⟩
    · cases rest
      cases h
      split at received
      · rename_i readable
        rcases processReceive_ok received with ⟨wrong, -⟩ | ⟨-, rfl, ended⟩ |
          ⟨-, available, packet, p, sent, client, selector, action, rfl, made, accepted, kind, same⟩
        · cases wrong
        · have closed : c.close.conn.closed = true := by
            rw [close, if_neg (by rw [isOpen]; decide)]
            rfl
          rw [if_pos closed]
          exact .ended isOpen readable ended
        · have stays : c₂.conn.closed = false := by
            rw [same]
            exact isOpen
          rw [if_neg (by rw [stays]; decide), same]
          exact .received isOpen readable rfl made accepted kind
      · rename_i unreadable
        cases received
        rw [if_neg (by rw [isOpen]; decide)]
        exact .ignored (.inr (.inl (by rwa [Bool.not_eq_true] at unreadable)))
    · cases rest
      split at received
      · rcases processReceive_ok received with ⟨wouldBlock, blocked, rfl⟩ | ⟨wrong, -⟩ | ⟨wrong, -⟩
        · cases wouldBlock
          cases h
          exact .ignored (.inr (.inr blocked))
        · cases wrong
        · cases wrong
      · cases received

end Ipv6Context

end ReverseTether
