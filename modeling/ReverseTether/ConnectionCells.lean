import ReverseTether.Connection
import ReverseTether.Library.Celled

/-!
# The cells of the relay, and the handlers of its connections

The tunnel server, every client and every connection are in a `RefCell` each, shared by
reference counting.  A handler borrows its own cell mutably for as long as it runs, and a
connection that has something for its client upgrades its weak pointer and borrows the client
as well.

The models of the handlers leave the cells out: a method has its connection and its client at
hand.  Here the same handlers are written with their borrows, as `Sharing` programs, down to
the calls that borrow nothing, which are `call`.  A handler of a connection needs no cell but
that of its client, and when that client is alive, it does what its model does
(`ConnectionCells.onReady_returns`).

The flags say which cells are borrowed, and the borrow of a cell that is borrowed already is a
fault of its own, apart from the panics of the code.  A program that returns has given back
what it has borrowed, so between two steps the flags are all down.
-/

namespace ReverseTether

open Library

/-- The place of a client. -/
abbrev ClientHandle := ℕ

/-- The `RefCell`s of the relay, each with the place or the handle that tells it from the others of
its kind. -/
inductive Cell
  | tunnelServer
  | client (k : ClientHandle)
  | connection (k : ClientHandle) (handle : Handle)
  deriving DecidableEq, Repr

/-- The clients that the server owns, in the order in which it accepted them, and the id that the
next one gets. -/
structure TunnelServer where
  clients : List ClientHandle
  nextClientId : UInt32
  deriving Repr

/-- What keeps the clients alive: the list of the tunnel server, and the handlers in the selector,
which own the client they call. -/
structure Owners where
  server : TunnelServer
  /-- The clients whose handlers are in the selector. -/
  handlers : List ClientHandle
  deriving Repr

/-- `Rc::strong_count` of a client, between two upgrades. -/
def Owners.strongCount (s : Owners) (k : ClientHandle) : ℕ :=
  s.server.clients.count k + s.handlers.count k

/-- An upgrade of the weak pointers to the client succeeds: the server or the selector still has a
strong one. -/
def Owners.Alive (k : ClientHandle) (s : Owners) : Prop := 0 < s.strongCount k

/-- The panics of the code, and those of the pointers between the cells. -/
inductive RelayPanic
  | code (panic : Panic)
  /-- "Expected client not found". -/
  | clientNotFound
  /-- "Trying to remove an unknown client". -/
  | unknownClient
  deriving DecidableEq, Repr

/-- A part of the code with its borrows: it reads the flags of the cells and the owners, and a
second borrow of a cell, or a pointer to a client that is gone, ends it with a fault. -/
abbrev Sharing := Celled Cell Owners RelayPanic

/-- A part of the code with no pointer in it. -/
def Outcome.code {α : Type} : Outcome α → Except RelayPanic α
  | .ok a => .ok a
  | .error panic => .error (.code panic)

/-- The owners stay as they are. -/
def steady {α : Type} (m : Outcome α) : StateT Owners (Except RelayPanic) α :=
  StateT.lift (Outcome.code m)

namespace Sharing

variable {α β : Type}

/-- A call that borrows nothing. -/
def call (m : Outcome α) : Sharing α := Celled.lift (Outcome.code m)

/-- `client.upgrade().expect("Expected client not found")`. -/
def upgrade (k : ClientHandle) : Sharing Unit :=
  Celled.shared fun s => if s.strongCount k = 0 then .error .clientNotFound else .ok ((), s)

/-- The client of a connection is upgraded and borrowed mutably. -/
def withClient (k : ClientHandle) (body : Sharing α) : Sharing α := do
  upgrade k
  Celled.borrowMut (.client k) body

/-- `step?` followed by the rest of the function. -/
def orReturn (step : Sharing (IoResult Unit × α)) (rest : α → Sharing (IoResult Unit × α)) :
    Sharing (IoResult Unit × α) := do
  match ← step with
  | (.ok (), s) => rest s
  | (.error err, s) => return (.error err, s)

end Sharing

/-! ## The handlers -/

namespace TcpCells

open Sharing TcpConnection

variable (k : ClientHandle)

/-- To be used if called by `on_ready`, so the client is not borrowed yet. -/
def sendEmptyPacketToClient (c : TcpContext) (flags : UInt16) : Sharing TcpContext :=
  withClient k (call (c.replyEmptyPacketToClient flags))

/-- The client is borrowed, once, for the removal of the route; the connection has its own cell
already. -/
def removeFromRouter (c : TcpContext) : Sharing TcpContext :=
  withClient k (return c.removeFromRouter)

/-- The host has closed its side: the FIN for the client is sent under a borrow of the client. -/
def eof (c : TcpContext) : Sharing TcpContext := do
  let c ← sendEmptyPacketToClient k c (flagFin ||| flagAck)
  return c.countSentFin (if c.conn.tcb.state = .closeWait then .lastAck else .finWait1)

/-- The client is borrowed for the SYN+ACK, and for the RST when the connect has failed; the panic
of a socket that was not connecting comes first. -/
def processConnect (c : TcpContext) (takeError : IoResult (Option IoError)) : Sharing TcpContext :=
  if c.conn.tcb.state ≠ .synSent then call (.error .notConnecting)
  else
    match takeError with
    | .ok (some _) => do
        let c ← sendEmptyPacketToClient k c flagRst
        return c.close
    | .ok none | .error _ => do
        let c := c.withTcb fun tcb => { tcb with state := .synReceived }
        let c ← sendEmptyPacketToClient k c (flagSyn ||| flagAck)
        return c.withTcb fun tcb => { tcb with sequenceNumber := tcb.sequenceNumber + 1 }

/-- The client is borrowed for the acknowledgement of what was written, for the FIN that has waited
for the buffer to become empty, or for the RST of an error. -/
def processSend (c : TcpContext) (write : IoResult ℕ) : Sharing (IoResult Unit × TcpContext) :=
  match c.conn.clientToNetwork.writeTo write with
  | (.ok written, clientToNetwork) =>
      if written ≠ [] then
        let c := c.acknowledge written clientToNetwork
        if c.conn.tcb.finReceived ∧ c.conn.clientToNetwork.isEmpty then do
          -- the channel of the client is borrowed while the FIN is processed
          let c ← withClient k (call c.doHandleFin)
          return (.ok (), c)
        else do
          let c ← sendEmptyPacketToClient k c flagAck
          return (.ok (), c)
      else return (.ok (), c.close)
  | (.error .wouldBlock, _) => return (.error .wouldBlock, c)
  | (.error .other, _) => do
      let c ← sendEmptyPacketToClient k c flagRst
      return (.ok (), c.close)

/-- The client is borrowed to be sent the packet, and once more to register the
connection. -/
def sendDataToClient (c : TcpContext) (packet : Ipv4Packet) : Sharing TcpContext := do
  let (sent, client, selector) ← withClient k (call (c.client.sendToClient c.selector packet))
  let c := { c with client, selector }
  match sent with
  | .ok () => do
      match ← call packet.payload with
      | none => call (.error .noTransport)
      | some payload =>
          return (c.withTcb fun tcb => { tcb with
            sequenceNumber := tcb.sequenceNumber + UInt32.ofNat payload.length }).record
            (.handed packet.raw)
  | .error _ => do
      let c ← withClient k (return c.await packet.length)
      return c.record (.deferred packet.raw)

/-- Behind the two panics that guard the call, the client is borrowed for the packet that was read,
or for the FIN or the RST at the end of the stream. -/
def processReceive (c : TcpContext) (read : IoResult (List UInt8)) :
    Sharing (IoResult Unit × TcpContext) :=
  if c.conn.packetForClientLength.isSome then call (.error .pendingPacketNotSent)
  else if ¬ 0 < c.conn.tcb.remainingClientWindow then call (.error .zeroClientWindow)
  else do
    let packetizer ← call (updateHeaders c.conn.networkToClient c.conn.tcb (flagAck ||| flagPsh))
    let data := packetizer.chunk (read.toOption.getD []) c.receivable
    let (result, packetizer) ← call (packetizer.packetizeRead read c.receivable)
    let c := { c with conn := { c.conn with networkToClient := packetizer } }
    match result with
    | .ok (some packet) => do
        let c ← sendDataToClient k (c.record (.read data)) packet
        return (.ok (), c)
    | .ok none => do
        let c ← eof k (c.record .readEof)
        return (.ok (), c)
    | .error .wouldBlock => return (.error .wouldBlock, c)
    | .error .other => do
        let c ← sendEmptyPacketToClient k c flagRst
        return (.ok (), c.close)

/-- A writable socket has finished its connect in `SynSent`, and can take data in every other
state. -/
def processWritable (c : TcpContext) (answers : SocketAnswers) :
    Sharing (IoResult Unit × TcpContext) :=
  if c.conn.tcb.state = .synSent then do
    let c ← processConnect k c answers.takeError
    return (.ok (), c)
  else processSend k c answers.write

/-- The writable half, the readable half unless that closed the connection, and the interests at
the end. -/
def processReady (c : TcpContext) (ready : Ready) (answers : SocketAnswers) :
    Sharing (IoResult Unit × TcpContext) :=
  Sharing.orReturn (if ready.isWritable then processWritable k c answers else return (.ok (), c)) fun c =>
    Sharing.orReturn
      (if c.conn.closed = false ∧ ready.isReadable then processReceive k c answers.read
        else return (.ok (), c))
      fun c => do
        let c ← call (if c.conn.closed then .ok c else c.updateInterests)
        return (.ok (), c)

/-- Neither readable nor writable: during the handshake the client is told so by a RST, and the
connection is closed. -/
def processHup (c : TcpContext) : Sharing TcpContext := do
  let c ←
    (if c.conn.tcb.state = .synSent ∨ c.conn.tcb.state = .synReceived then
      sendEmptyPacketToClient k c flagRst
    else return c)
  return c.close

/-- `process`: a closed connection does nothing, and one that this event has closed is removed from
the router. -/
def process (c : TcpContext) (ready : Ready) (answers : SocketAnswers) (now : Instant) :
    Sharing (IoResult Unit × TcpContext) :=
  if c.conn.closed then return (.ok (), c)
  else
    let c := { c with conn := c.conn.touch now }
    Sharing.orReturn
      (if ready.isReadable ∨ ready.isWritable then processReady k c ready answers
        else do return (.ok (), ← processHup k c))
      fun c => do
        let c ← (if c.conn.closed then removeFromRouter k c else return c)
        return (.ok (), c)

/-- `on_ready`: an error other than `WouldBlock` is logged, and it closes the connection and
removes it. -/
def onReady (c : TcpContext) (ready : Ready) (answers : SocketAnswers) (now : Instant) :
    Sharing TcpContext := do
  let (result, c) ← process k c ready answers now
  match result with
  | .ok () => return c
  | .error .wouldBlock => return c
  | .error .other => removeFromRouter k (if c.conn.closed then c else c.close)

end TcpCells

namespace UdpCells

open Sharing

variable (k : ClientHandle)

/-- The client is borrowed, once, for the removal of the route; the connection has its own cell
already. -/
def removeFromRouter (c : UdpContext) : Sharing UdpContext :=
  withClient k (return c.removeFromRouter)

/-- A datagram of the host becomes a packet first, and only then is the client borrowed for it. -/
def read (c : UdpContext) (source : IoResult (List UInt8)) :
    Sharing (IoResult Unit × UdpContext) := do
  let (packet, networkToClient) ← call (c.conn.networkToClient.packetize source)
  let c := { c with conn := { c.conn with networkToClient } }
  match packet with
  | .error err => return (.error err, c)
  | .ok packet => do
      let (_, client, selector) ← withClient k (call (c.client.sendToClient c.selector packet))
      return (.ok (), { c with client, selector })

/-- An error of the socket closes the connection; `WouldBlock` is handed on to `on_ready`, which
ignores it. -/
def processReceive (c : UdpContext) (source : IoResult (List UInt8)) :
    Sharing (IoResult Unit × UdpContext) := do
  match ← read k c source with
  | (.ok (), c) => return (.ok (), c)
  | (.error .wouldBlock, c) => return (.error .wouldBlock, c)
  | (.error .other, c) => return (.ok (), c.close)

/-- The writable half borrows nothing, the readable half the client; the interests are set unless
the connection is closed by then. -/
def processReady (c : UdpContext) (ready : Ready) (answers : SocketAnswers) :
    Sharing (IoResult Unit × UdpContext) := do
  let c ← call (if ready.isWritable then c.processSend answers.write else .ok c)
  Sharing.orReturn
    (if c.conn.closed = false ∧ ready.isReadable then processReceive k c answers.read
      else return (.ok (), c))
    fun c => do
      let c ← call (if c.conn.closed then .ok c else c.updateInterests)
      return (.ok (), c)

/-- `process`: an event that is neither readable nor writable closes the connection at once. -/
def process (c : UdpContext) (ready : Ready) (answers : SocketAnswers) (now : Instant) :
    Sharing (IoResult Unit × UdpContext) :=
  if c.conn.closed then return (.ok (), c)
  else
    let c := { c with conn := c.conn.touch now }
    Sharing.orReturn
      (if ready.isReadable ∨ ready.isWritable then processReady k c ready answers
        else return (.ok (), c.close))
      fun c => do
        let c ← (if c.conn.closed then removeFromRouter k c else return c)
        return (.ok (), c)

/-- `on_ready`: an error other than `WouldBlock` is logged, and it closes the connection and
removes it. -/
def onReady (c : UdpContext) (ready : Ready) (answers : SocketAnswers) (now : Instant) :
    Sharing UdpContext := do
  let (result, c) ← process k c ready answers now
  match result with
  | .ok () => return c
  | .error .wouldBlock => return c
  | .error .other => removeFromRouter k (if c.conn.closed then c else c.close)

end UdpCells

namespace Ipv6Cells

open Sharing

variable (k : ClientHandle)

/-- The client is borrowed, once, for the removal of the route; the connection has its own cell
already. -/
def removeFromRouter (c : Ipv6Context) : Sharing Ipv6Context :=
  withClient k (return c.removeFromRouter)

/-- The client takes the whole packet or refuses it, and a refused packet is dropped with a
warning. -/
def sendDataToClient (c : Ipv6Context) (packet : Ipv6Packet) : Sharing Ipv6Context := do
  let (sent, client, selector) ←
    withClient k (call (c.client.sendRawToClient c.selector packet.raw))
  let c := { c with client, selector }
  match sent with
  | .ok () => return c.record (.handed packet.raw)
  | .error _ => return c.record (.dropped packet.raw)

/-- What the host sent is packetized under the socket of the flow alone, and the client is borrowed
for the packet. -/
def read (c : Ipv6Context) (source : IoResult (List UInt8)) (now : Instant) :
    Sharing (IoResult Unit × Ipv6Context) := do
  let data := c.conn.networkToClient.chunk (source.toOption.getD [])
  let (packet, networkToClient) ←
    call (Ipv6Context.packetizeSource c.conn.networkToClient c.conn.socket source)
  let c := { c with conn := { c.conn with networkToClient } }
  match packet with
  | .error err => return (.error err, c)
  | .ok none => return (.ok (), c.close)
  | .ok (some packet) => do
      let c ← sendDataToClient k ((c.record (.read data)).touch now) packet
      return (.ok (), c)

/-- An error of the socket closes the connection; `WouldBlock` is handed on to `on_ready`, which
ignores it. -/
def processReceive (c : Ipv6Context) (source : IoResult (List UInt8)) (now : Instant) :
    Sharing (IoResult Unit × Ipv6Context) := do
  match ← read k c source now with
  | (.ok (), c) => return (.ok (), c)
  | (.error .wouldBlock, c) => return (.error .wouldBlock, c)
  | (.error .other, c) => return (.ok (), c.close)

/-- `process`: only a readable event does anything, and a connection that it closes is removed from
the router. -/
def process (c : Ipv6Context) (ready : Ready) (source : IoResult (List UInt8)) (now : Instant) :
    Sharing (IoResult Unit × Ipv6Context) :=
  if c.conn.closed then return (.ok (), c)
  else
    Sharing.orReturn (if ready.isReadable then processReceive k c source now else return (.ok (), c))
      fun c => do
        let c ← (if c.conn.closed then removeFromRouter k c else return c)
        return (.ok (), c)

/-- `on_ready`: an error other than `WouldBlock` is logged, and it closes the connection and
removes it. -/
def onReady (c : Ipv6Context) (ready : Ready) (source : IoResult (List UInt8)) (now : Instant) :
    Sharing Ipv6Context := do
  let (result, c) ← process k c ready source now
  match result with
  | .ok () => return c
  | .error .wouldBlock => return c
  | .error .other => removeFromRouter k (if c.conn.closed then c else c.close)

end Ipv6Cells

namespace ConnectionCells

/-- The handler a connection registers its socket with, once its own cell is borrowed. -/
def onReady (k : ClientHandle) (c : ConnectionContext) (ready : Ready) (answers : SocketAnswers)
    (now : Instant) : Sharing ConnectionContext :=
  match c.conn with
  | .tcp conn => do
      let c ← TcpCells.onReady k ⟨conn, c.client, c.selector⟩ ready answers now
      return c.asConnection
  | .udp conn => do
      let c ← UdpCells.onReady k ⟨conn, c.client, c.selector⟩ ready answers now
      return c.asConnection
  | .ipv6 conn => do
      let c ← Ipv6Cells.onReady k ⟨conn, c.client, c.selector⟩ ready answers.read now
      return c.asConnection

end ConnectionCells

/-! ## What they do -/

/-- Without its borrows the program is `m`, and the owners stay as they are. -/
abbrev Returns {α : Type} (free : Set Cell) (pre : Owners → Prop) (x : Sharing α) (m : Outcome α) :
    Prop := Computes free pre x (steady m)

namespace Returns

variable {α β : Type} {free : Set Cell} {pre : Owners → Prop} {k : ClientHandle}

/-- A program that only returns is what its model is. -/
theorem ok (a : α) : Returns free pre (pure a) (.ok a) := Computes.pure a

/-- A call that borrows nothing does what the code in it does. -/
theorem call (m : Outcome α) : Returns free pre (Sharing.call m) m := Computes.lift (Outcome.code m)

/-- Two programs one after the other do what their models do one after the other. -/
theorem bind {x : Sharing α} {m : Outcome α} {f : α → Sharing β} {g : α → Outcome β}
    (first : Returns free pre x m) (rest : ∀ a, m = .ok a → Returns free pre (f a) (g a)) :
    Returns free pre (x >>= f) (m >>= g) := by
  have split : steady (m >>= g) = steady m >>= fun a => steady (g a) := by
    cases m <;> rfl
  unfold Returns
  rw [split]
  have reaches (s : Owners) (a : α) (s' : Owners) (holds : pre s)
      (run : (steady m).run s = .ok (a, s')) : pre s' ∧ m = .ok a := by
    cases m with
    | error p => cases run
    | ok b =>
        cases run
        exact ⟨holds, rfl⟩
  refine Computes.bind first reaches fun a => ?_
  intro flags s unused ⟨holds, eq⟩
  exact rest a eq flags s unused holds

/-- The result is only put into another form. -/
theorem map {x : Sharing α} {m : Outcome α} (first : Returns free pre x m) (f : α → β) :
    Returns free pre (x >>= fun a => pure (f a)) (m >>= fun a => pure (f a)) :=
  first.bind fun a _ => .ok (f a)

/-- What goes on behind a `?` does so in the program exactly when it does in the model. -/
theorem orReturn {step : Sharing (IoResult Unit × α)} {m : Outcome (IoResult Unit × α)}
    {rest : α → Sharing (IoResult Unit × α)} {g : α → Outcome (IoResult Unit × α)}
    (first : Returns free pre step m) (then_ : ∀ a, Returns free pre (rest a) (g a)) :
    Returns free pre (Sharing.orReturn step rest) (ReverseTether.orReturn m g) := by
  refine first.bind fun p _ => ?_
  obtain ⟨⟨⟩ | ⟨⟩, s⟩ := p
  · exact .ok _
  · exact then_ s

/-- A loop, from its rounds. -/
theorem foldlM {γ : Type} {f : α → γ → Sharing α} {g : α → γ → Outcome α}
    (round : ∀ a item, Returns free pre (f a item) (g a item)) (items : List γ) (a : α) :
    Returns free pre (items.foldlM f a) (items.foldlM g a) := by
  induction items generalizing a with
  | nil => exact .ok a
  | cons item items ih =>
      rw [List.foldlM_cons, List.foldlM_cons]
      exact (round a item).bind fun a _ => ih a

/-- A branch that depends on no cell is one of the model. -/
theorem ite {p : Prop} [Decidable p] {x x' : Sharing α} {m m' : Outcome α}
    (left : Returns free pre x m) (right : Returns free pre x' m') :
    Returns free pre (if p then x else x') (if p then m else m') := by
  split
  · exact left
  · exact right

/-- **The client of a connection is reached**, when it is alive and not borrowed.  The reference is
upgraded first and the cell borrowed for the length of the body, which for that time finds all
other cells as they were. -/
theorem withClient {x : Sharing α} {m : Outcome α} (body : Returns ∅ (Owners.Alive k) x m) :
    Returns {.client k} (Owners.Alive k) (Sharing.withClient k x) m := by
  have upgraded : Returns {.client k} (Owners.Alive k) (Sharing.upgrade k) (.ok ()) :=
    (Computes.shared _).congr fun s alive => if_neg (Nat.pos_iff_ne_zero.mp alive)
  have inside : ({.client k} : Set Cell) \ {.client k} = ∅ := Set.sdiff_self
  exact upgraded.bind fun _ _ => Computes.borrowMut rfl (inside ▸ body)

end Returns

/-- The client is alive and not borrowed, as it is in a handler of an open connection. -/
abbrev Handles {α : Type} (k : ClientHandle) (x : Sharing α) (m : Outcome α) : Prop :=
  Returns {.client k} (Owners.Alive k) x m

variable {k : ClientHandle}

namespace TcpCells

/-- An empty segment, under a borrow of the client. -/
theorem sendEmptyPacketToClient_returns (c : TcpContext) (flags : UInt16) :
    Handles k (sendEmptyPacketToClient k c flags) (c.sendEmptyPacketToClient flags) :=
  .withClient (.call _)

/-- The removal of the route, under a borrow of the client. -/
theorem removeFromRouter_returns (c : TcpContext) :
    Handles k (removeFromRouter k c) (.ok c.removeFromRouter) := .withClient (.ok _)

/-- The end of the host's stream borrows the client once, for the FIN. -/
theorem eof_returns (c : TcpContext) : Handles k (eof k c) c.eof :=
  (sendEmptyPacketToClient_returns c _).map _

/-- The end of the connect borrows the client once, for its SYN+ACK or its RST, or panics as the
model does. -/
theorem processConnect_returns (c : TcpContext) (takeError : IoResult (Option IoError)) :
    Handles k (processConnect k c takeError) (c.processConnect takeError) := by
  refine .ite (.call _) ?_
  match takeError with
  | .ok (some _) => exact (sendEmptyPacketToClient_returns c _).map _
  | .ok none => exact (sendEmptyPacketToClient_returns _ _).map _
  | .error _ => exact (sendEmptyPacketToClient_returns _ _).map _

/-- A write to the host borrows the client once at most, for what is to be told about it. -/
theorem processSend_returns (c : TcpContext) (write : IoResult ℕ) :
    Handles k (processSend k c write) (c.processSend write) := by
  unfold processSend TcpContext.processSend
  generalize c.conn.clientToNetwork.writeTo write = answer
  match answer with
  | (.ok written, clientToNetwork) =>
      refine .ite (.ite ?_ ?_) (.ok _)
      · exact (Returns.withClient (.call _)).map _
      · exact (sendEmptyPacketToClient_returns _ _).map _
  | (.error .wouldBlock, _) => exact .ok _
  | (.error .other, _) => exact (sendEmptyPacketToClient_returns c _).map _

/-- A data packet borrows the client once to be sent, and once more if it has to wait. -/
theorem sendDataToClient_returns (c : TcpContext) (packet : Ipv4Packet) :
    Handles k (sendDataToClient k c packet) (c.sendDataToClient packet) := by
  refine (Returns.withClient (.call _)).bind fun p _ => ?_
  obtain ⟨⟨⟩ | ⟨⟩, client, selector⟩ := p
  · exact (Returns.withClient (.ok _)).map _
  · refine (Returns.call packet.payload).bind fun payload _ => ?_
    cases payload with
    | none => exact .call _
    | some payload => exact .ok _

/-- A read from the host borrows the client behind its two assertions, and never twice at the same
time. -/
theorem processReceive_returns (c : TcpContext) (read : IoResult (List UInt8)) :
    Handles k (processReceive k c read) (c.processReceive read) := by
  refine .ite (.call _) (.ite (.call _) ?_)
  refine (Returns.call _).bind fun packetizer _ => ?_
  refine (Returns.call _).bind fun p _ => ?_
  match p with
  | (.ok (some packet), packetizer) => exact (sendDataToClient_returns _ packet).map _
  | (.ok none, packetizer) => exact (eof_returns _).map _
  | (.error .wouldBlock, packetizer) => exact .ok _
  | (.error .other, packetizer) => exact (sendEmptyPacketToClient_returns _ _).map _

/-- An event of an open connection does in both halves what its model does. -/
theorem processReady_returns (c : TcpContext) (ready : Ready) (answers : SocketAnswers) :
    Handles k (processReady k c ready answers) (c.processReady ready answers) := by
  refine .orReturn (.ite (.ite ?_ ?_) (.ok _)) fun c => ?_
  · exact (processConnect_returns c _).map _
  · exact processSend_returns c _
  · refine .orReturn (.ite (processReceive_returns c _) (.ok _)) fun c => ?_
    exact (Returns.call _).map _

/-- A hang-up borrows the client once, if the handshake is still going on. -/
theorem processHup_returns (c : TcpContext) : Handles k (processHup k c) c.processHup :=
  (Returns.ite (sendEmptyPacketToClient_returns c _) (.ok c)).map _

/-- An event of a TCP connection, its removal from the router included. -/
theorem process_returns (c : TcpContext) (ready : Ready) (answers : SocketAnswers) (now : Instant) :
    Handles k (process k c ready answers now) (c.process ready answers now) := by
  refine .ite (.ok _) (.orReturn (.ite (processReady_returns _ _ _) ?_) fun c => ?_)
  · exact (processHup_returns _).map _
  · by_cases closed : c.conn.closed = true
    · rw [if_pos closed, if_pos closed]
      exact (removeFromRouter_returns c).map _
    · rw [if_neg closed, if_neg closed]
      exact .ok _

/-- An event of a TCP connection, as the poll loop sees it. -/
theorem onReady_returns (c : TcpContext) (ready : Ready) (answers : SocketAnswers) (now : Instant) :
    Handles k (onReady k c ready answers now) (c.onReady ready answers now) := by
  refine (process_returns c ready answers now).bind fun p _ => ?_
  match p with
  | (.ok (), c) => exact .ok _
  | (.error .wouldBlock, c) => exact .ok _
  | (.error .other, c) => exact removeFromRouter_returns _

end TcpCells

namespace UdpCells

theorem removeFromRouter_returns (c : UdpContext) :
    Handles k (removeFromRouter k c) (.ok c.removeFromRouter) := .withClient (.ok _)

/-- A datagram of the host borrows the client once, to be appended as a packet. -/
theorem read_returns (c : UdpContext) (source : IoResult (List UInt8)) :
    Handles k (read k c source) (c.read source) := by
  refine (Returns.call _).bind fun p _ => ?_
  obtain ⟨⟨⟩ | ⟨⟩, packetizer⟩ := p
  · exact .ok _
  · exact (Returns.withClient (.call _)).map _

/-- A read that fails closes the connection, without a borrow. -/
theorem processReceive_returns (c : UdpContext) (source : IoResult (List UInt8)) :
    Handles k (processReceive k c source) (c.processReceive source) := by
  refine (read_returns c source).bind fun p _ => ?_
  match p with
  | (.ok (), c) => exact .ok _
  | (.error .wouldBlock, c) => exact .ok _
  | (.error .other, c) => exact .ok _

/-- An event of an open connection does in both halves what its model does. -/
theorem processReady_returns (c : UdpContext) (ready : Ready) (answers : SocketAnswers) :
    Handles k (processReady k c ready answers) (c.processReady ready answers) := by
  refine (Returns.call _).bind fun c _ => ?_
  refine .orReturn (.ite (processReceive_returns c _) (.ok _)) fun c => ?_
  exact (Returns.call _).map _

/-- An event of a UDP connection, its removal from the router included. -/
theorem process_returns (c : UdpContext) (ready : Ready) (answers : SocketAnswers) (now : Instant) :
    Handles k (process k c ready answers now) (c.process ready answers now) := by
  refine .ite (.ok _) (.orReturn (.ite (processReady_returns _ _ _) (.ok _)) fun c => ?_)
  by_cases closed : c.conn.closed = true
  · rw [if_pos closed, if_pos closed]
    exact (removeFromRouter_returns c).map _
  · rw [if_neg closed, if_neg closed]
    exact .ok _

/-- An event of a UDP connection, as the poll loop sees it. -/
theorem onReady_returns (c : UdpContext) (ready : Ready) (answers : SocketAnswers) (now : Instant) :
    Handles k (onReady k c ready answers now) (c.onReady ready answers now) := by
  refine (process_returns c ready answers now).bind fun p _ => ?_
  match p with
  | (.ok (), c) => exact .ok _
  | (.error .wouldBlock, c) => exact .ok _
  | (.error .other, c) => exact removeFromRouter_returns _

end UdpCells

namespace Ipv6Cells

theorem removeFromRouter_returns (c : Ipv6Context) :
    Handles k (removeFromRouter k c) (.ok c.removeFromRouter) := .withClient (.ok _)

/-- A packet borrows the client once, to be appended or to be dropped. -/
theorem sendDataToClient_returns (c : Ipv6Context) (packet : Ipv6Packet) :
    Handles k (sendDataToClient k c packet) (c.sendDataToClient packet) := by
  refine (Returns.withClient (.call _)).bind fun p _ => ?_
  obtain ⟨⟨⟩ | ⟨⟩, client, selector⟩ := p
  · exact .ok _
  · exact .ok _

/-- What the host has sent is packetized first, and the client borrowed afterwards. -/
theorem read_returns (c : Ipv6Context) (source : IoResult (List UInt8)) (now : Instant) :
    Handles k (read k c source now) (c.read source now) := by
  refine (Returns.call _).bind fun p _ => ?_
  match p with
  | (.error err, packetizer) => exact .ok _
  | (.ok none, packetizer) => exact .ok _
  | (.ok (some packet), packetizer) => exact (sendDataToClient_returns _ packet).map _

/-- A read that fails closes the connection, without a borrow. -/
theorem processReceive_returns (c : Ipv6Context) (source : IoResult (List UInt8)) (now : Instant) :
    Handles k (processReceive k c source now) (c.processReceive source now) := by
  refine (read_returns c source now).bind fun p _ => ?_
  match p with
  | (.ok (), c) => exact .ok _
  | (.error .wouldBlock, c) => exact .ok _
  | (.error .other, c) => exact .ok _

/-- An event of an IPv6 connection, its removal from the router included. -/
theorem process_returns (c : Ipv6Context) (ready : Ready) (source : IoResult (List UInt8))
    (now : Instant) : Handles k (process k c ready source now) (c.process ready source now) := by
  refine .ite (.ok _) (.orReturn (.ite (processReceive_returns c _ _) (.ok _)) fun c => ?_)
  by_cases closed : c.conn.closed = true
  · rw [if_pos closed, if_pos closed]
    exact (removeFromRouter_returns c).map _
  · rw [if_neg closed, if_neg closed]
    exact .ok _

/-- An event of an IPv6 connection, as the poll loop sees it. -/
theorem onReady_returns (c : Ipv6Context) (ready : Ready) (source : IoResult (List UInt8))
    (now : Instant) : Handles k (onReady k c ready source now) (c.onReady ready source now) := by
  refine (process_returns c ready source now).bind fun p _ => ?_
  match p with
  | (.ok (), c) => exact .ok _
  | (.error .wouldBlock, c) => exact .ok _
  | (.error .other, c) => exact removeFromRouter_returns _

end Ipv6Cells

namespace ConnectionCells

/-- **An event of a connection does what its model does**: its client, alive and not borrowed, is
all that it borrows.  The three kinds of connections do it in the same way: each call borrows the
client for itself, and has given it back when the next one is made. -/
theorem onReady_returns (c : ConnectionContext) (ready : Ready) (answers : SocketAnswers)
    (now : Instant) : Handles k (onReady k c ready answers now) (c.onReady ready answers now) := by
  obtain ⟨conn, client, selector⟩ := c
  cases conn with
  | tcp conn => exact (TcpCells.onReady_returns _ ready answers now).map _
  | udp conn => exact (UdpCells.onReady_returns _ ready answers now).map _
  | ipv6 conn => exact (Ipv6Cells.onReady_returns _ ready answers.read now).map _

/-- One that has closed borrows nothing, whatever has become of its client. -/
theorem onReady_closed {c : ConnectionContext} (closed : c.conn.isClosed = true) (ready : Ready)
    (answers : SocketAnswers) (now : Instant) :
    onReady k c ready answers now = pure c ∧ c.onReady ready answers now = .ok c := by
  obtain ⟨conn, client, selector⟩ := c
  cases conn with
  | tcp conn =>
      have ends : TcpCells.process k ⟨conn, client, selector⟩ ready answers now =
          pure (.ok (), ⟨conn, client, selector⟩) := if_pos closed
      have same : TcpContext.process ⟨conn, client, selector⟩ ready answers now =
          .ok (.ok (), ⟨conn, client, selector⟩) := if_pos closed
      simp only [onReady, TcpCells.onReady, ends, ConnectionContext.onReady, TcpContext.onReady, same]
      exact ⟨rfl, rfl⟩
  | udp conn =>
      have ends : UdpCells.process k ⟨conn, client, selector⟩ ready answers now =
          pure (.ok (), ⟨conn, client, selector⟩) := if_pos closed
      have same : UdpContext.process ⟨conn, client, selector⟩ ready answers now =
          .ok (.ok (), ⟨conn, client, selector⟩) := if_pos closed
      simp only [onReady, UdpCells.onReady, ends, ConnectionContext.onReady, UdpContext.onReady, same]
      exact ⟨rfl, rfl⟩
  | ipv6 conn =>
      have ends : Ipv6Cells.process k ⟨conn, client, selector⟩ ready answers.read now =
          pure (.ok (), ⟨conn, client, selector⟩) := if_pos closed
      have same : Ipv6Context.process ⟨conn, client, selector⟩ ready answers.read now =
          .ok (.ok (), ⟨conn, client, selector⟩) := if_pos closed
      simp only [onReady, Ipv6Cells.onReady, ends, ConnectionContext.onReady, Ipv6Context.onReady, same]
      exact ⟨rfl, rfl⟩

end ConnectionCells

end ReverseTether
