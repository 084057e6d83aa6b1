import ReverseTether.Client
import ReverseTether.Packetizer

/-!
# An IPv4 TCP connection

The relay terminates TCP: towards the client it plays the server with forged
segments, towards the network it owns a plain socket.  A method of the connection
reaches its own record, the client (or the channel that borrows from it) and the
selector; `TcpContext` is the three together.

What the socket answers is input: the number of bytes a write takes, the bytes
that are there to be read, the pending `SO_ERROR`.  So are the random initial
sequence number, the clock, and whether the build checks integer overflow.

`trace` is not in the source.  It records what the connection has done, oldest
first, so that the two streams it joins can be talked about.

A packet for the client is built in the one buffer of the connection, handed to the client if
there is room for it, and otherwise only its length is remembered.  The methods are in the
order of the source: what is sent, what is received, and the events of the socket; `onReady`
is the last one, and `sendToNetwork` what the router calls.
-/

namespace ReverseTether

open Library

/-! ## The transport control block -/

/-- `TcpState`: the states that the relay goes through as the server of its client; `Init` is
before the first packet. -/
inductive TcpState
  | init
  | synSent
  | synReceived
  | established
  | closeWait
  | lastAck
  | closing
  | finWait1
  | finWait2
  deriving DecidableEq, Repr

namespace TcpState

/-- `is_connected`: the handshake with the host is over, and with the client as well. -/
def isConnected (state : TcpState) : Bool :=
  state ≠ .init ∧ state ≠ .synSent ∧ state ≠ .synReceived

/-- `is_closed`: a FIN was sent to the client, so nothing more is read from the host. -/
def isClosed (state : TcpState) : Bool :=
  state = .finWait1 ∨ state = .finWait2 ∨ state = .closing ∨ state = .lastAck

end TcpState

/-- `Tcb`, the transport control block.  All its numbers wrap at `2 ^ 32`, as the sequence numbers
of TCP do. -/
structure Tcb where
  state : TcpState
  synSequenceNumber : UInt32
  sequenceNumber : UInt32
  acknowledgementNumber : UInt32
  theirAcknowledgementNumber : UInt32
  finSequenceNumber : Option UInt32
  finReceived : Bool
  clientWindow : UInt16
  deriving DecidableEq, Repr

namespace Tcb

/-- `Tcb::new`: no number is known before the SYN, and the window of the client is zero. -/
def new : Tcb where
  state := .init
  synSequenceNumber := 0
  sequenceNumber := 0
  acknowledgementNumber := 0
  theirAcknowledgementNumber := 0
  finSequenceNumber := none
  finReceived := false
  clientWindow := 0

/-- `remaining_client_window`: what the window of the client leaves behind the bytes on the way, or
zero when these are beyond it. -/
def remainingClientWindow (tcb : Tcb) : UInt16 :=
  let remaining :=
    tcb.theirAcknowledgementNumber + tcb.clientWindow.toUInt32 - tcb.sequenceNumber
  if remaining ≤ tcb.clientWindow.toUInt32 then remaining.toUInt16 else 0

end Tcb

/-! ## The connection -/

/-- What a connection has done, in order: every segment it made, every byte it moved, and whether
the client took what it was given. -/
inductive TcpAction
  /-- The first SYN was accepted, with this random initial sequence number. -/
  | opened (sequenceNumber : UInt32)
  /-- An empty segment was forged in the packetizer and offered to the client, while
  a packet was waiting there or not. -/
  | forged (raw : List UInt8) (waiting : Bool)
  /-- These bytes were read from the host socket. -/
  | read (data : List UInt8)
  /-- The host socket was at its end. -/
  | readEof
  /-- A data packet was handed to the client directly. -/
  | handed (raw : List UInt8)
  /-- A data packet was rejected by the client, and waits. -/
  | deferred (raw : List UInt8)
  /-- The waiting packet was handed to the client. -/
  | delivered (raw : List UInt8)
  /-- The host socket took these bytes. -/
  | wrote (data : List UInt8)
  /-- `do_handle_fin` was executed. -/
  | finHandled
  /-- The connection was closed, while a packet was waiting or not. -/
  | closed (waiting : Bool)
  deriving DecidableEq, Repr

/-- `TcpConnection`: one TCP flow, with the buffer for its host, the packetizer for its client, and
the control block. -/
structure TcpConnection where
  /-- The place of `self_weak`, and the owner of `token`. -/
  handle : Handle
  id : ConnectionId
  interests : Ready
  clientToNetwork : StreamBuffer (4 * maxPacketLength)
  networkToClient : Packetizer
  packetForClientLength : Option UInt16
  closed : Bool
  tcb : Tcb
  idleSince : Instant
  /-- When this flow was first observed; never refreshed. -/
  createdAt : Instant
  /-- What it has done so far. -/
  trace : List TcpAction

/-- What a method of the connection can reach: the connection, its client and the selector. -/
structure TcpContext where
  conn : TcpConnection
  client : Client
  selector : Selector

/-- What the socket answers during one event: its pending error, how much a write takes, and what a
read gives. -/
structure SocketAnswers where
  /-- `take_error`. -/
  takeError : IoResult (Option IoError)
  /-- How many bytes a write takes. -/
  write : IoResult ℕ
  /-- The bytes that are there to be read. -/
  read : IoResult (List UInt8)
  deriving Repr

namespace TcpConnection

/-- Same value as in the client; 20 bytes for IP headers, 20 bytes for TCP
headers. -/
def mtu : UInt16 := 0x4000

/-- `MAX_PAYLOAD_LENGTH`: what the MTU leaves for the payload behind two headers without options.
-/
def maxPayloadLength : UInt16 := mtu - 20 - 20

/-- `IDLE_TIMEOUT_SECONDS`: ten minutes without a packet of the client or an event of the socket.
-/
def idleTimeoutSeconds : ℕ := 10 * 60

/-- `CONNECT_TIMEOUT_SECONDS`: how long the handshake may take, from the creation on. -/
def connectTimeoutSeconds : ℕ := 10

/-- `tcp_header_of_transport`: a header of another protocol here is a panic, since the flow is TCP.
-/
def tcpHeaderOfTransport : TransportHeader → Outcome TcpHeader
  | .tcp header => .ok header
  | .udp _ => .error .notTcp

/-- `tcp_header_of_packet`: the same for a packet, which has to have a transport header at all. -/
def tcpHeaderOfPacket (packet : Ipv4Packet) : Outcome TcpHeader := do
  match ← packet.transportHeader with
  | some (.tcp header) => return header
  | _ => .error .notTcp

/-- The fields of a new connection. -/
def initial (handle : Handle) (id : ConnectionId) (packetizer : Packetizer) (now : Instant) :
    TcpConnection where
  handle
  id
  -- interests will be set on the first packet received
  interests := .writable
  clientToNetwork := .new _
  networkToClient := packetizer
  packetForClientLength := none
  closed := false
  tcb := .new
  idleSince := now
  createdAt := now
  trace := []

/-- `create_stream` and the registration may fail, which `opened` says. -/
def create (selector : Selector) (handle : Handle) (id : ConnectionId) (ipv4Header : Ipv4Header)
    (transportHeader : TransportHeader) (now : Instant) (opened : IoResult Unit) :
    Outcome (IoResult (TcpConnection × Selector)) :=
  match opened with
  | .error err => .ok (.error err)
  | .ok () => do
      let tcpHeader ← tcpHeaderOfTransport transportHeader
      -- shrink the TCP options to pass a minimal reference header to the packetizer
      let shrinkedRaw ← readSlice tcpHeader.raw 0 20
      let shrinked ← TcpHeader.shrinkOptions ⟨shrinkedRaw, tcpHeader.data⟩
      if shrinked.data.headerLength ≠ 20 then .error .optionsNotShrunk
      else do
        let packetizer ← Packetizer.new ipv4Header (.tcp shrinked)
        let conn := initial handle id packetizer now
        return .ok (conn, selector.register (.connection handle) conn.interests)

theorem create_ok {selector selector' : Selector} {handle : Handle} {id : ConnectionId}
    {ipv4Header : Ipv4Header} {transportHeader : TransportHeader} {now : Instant}
    {conn : TcpConnection}
    (h : create selector handle id ipv4Header transportHeader now (.ok ()) =
      .ok (.ok (conn, selector'))) :
    ∃ header shrinkedRaw shrinked packetizer, transportHeader = .tcp header ∧
      readSlice header.raw 0 20 = .ok shrinkedRaw ∧
      TcpHeader.shrinkOptions ⟨shrinkedRaw, header.data⟩ = .ok shrinked ∧
      Packetizer.new ipv4Header (.tcp shrinked) = .ok packetizer ∧
      conn = initial handle id packetizer now ∧
      selector' = selector.register (.connection handle) .writable := by
  obtain ⟨header, tcp, h⟩ := bind_eq_ok.mp h
  obtain ⟨shrinkedRaw, cut, h⟩ := bind_eq_ok.mp h
  obtain ⟨shrinked, shrunk, h⟩ := bind_eq_ok.mp h
  split at h
  · cases h
  · obtain ⟨packetizer, made, h⟩ := bind_eq_ok.mp h
    cases h
    cases transportHeader with
    | tcp _ =>
        cases tcp
        exact ⟨header, shrinkedRaw, shrinked, packetizer, rfl, cut, shrunk, made, rfl, rfl⟩
    | udp _ => cases tcp

/-- `update_headers`: the numbers of the control block and the flags are written into the header of
the packetizer. -/
def updateHeaders (packetizer : Packetizer) (tcb : Tcb) (flags : UInt16) : Outcome Packetizer := do
  let tcpHeader ← tcpHeaderOfTransport packetizer.transportHeader
  let tcpHeader ← tcpHeader.setSequenceNumber tcb.sequenceNumber
  let tcpHeader ← tcpHeader.setAcknowledgementNumber tcb.acknowledgementNumber
  let tcpHeader ← tcpHeader.setFlags flags
  return { packetizer with transportHeader := .tcp tcpHeader }

/-- `create_empty_response_packet`: a segment without payload, built in the packetizer of the
connection itself. -/
def createEmptyResponsePacket (packetizer : Packetizer) (tcb : Tcb) (flags : UInt16) :
    Outcome (Ipv4Packet × Packetizer) := do
  let packetizer ← updateHeaders packetizer tcb flags
  packetizer.packetizeEmptyPayload

/-- `touch`: the idle time begins again, while the time of the handshake does not. -/
def touch (conn : TcpConnection) (now : Instant) : TcpConnection := { conn with idleSince := now }

/-- The sequence number of the next byte the client is expected to send. -/
def expectedPacket (conn : TcpConnection) : UInt32 :=
  conn.tcb.acknowledgementNumber + UInt32.ofNat conn.clientToNetwork.size

/-- A packet is already pending. -/
def waiting (conn : TcpConnection) : Bool := conn.packetForClientLength.isSome

/-- `may_read`: the host is read only between the two handshakes, while no packet waits and the
client has window left. -/
def mayRead (conn : TcpConnection) : Bool :=
  if !conn.tcb.state.isConnected || conn.tcb.state.isClosed then false
  else if conn.packetForClientLength.isSome then false
  else 0 < conn.tcb.remainingClientWindow

/-- `may_write`: there are bytes of the client for the host. -/
def mayWrite (conn : TcpConnection) : Bool := !conn.clientToNetwork.isEmpty

/-- The interest `update_interests` computes. -/
def wanted (conn : TcpConnection) : Ready :=
  if conn.tcb.state = .synSent then
    -- waiting for connectable
    .writable
  else ⟨conn.mayRead, conn.mayWrite⟩

/-- `is_expired`: the handshake has its own, shorter timeout, which no packet can extend. -/
def isExpired (conn : TcpConnection) (now : Instant) : Bool :=
  match conn.tcb.state with
  | .init | .synSent | .synReceived => connectTimeoutSeconds < elapsedSecs now conn.createdAt
  | _ => idleTimeoutSeconds < elapsedSecs now conn.idleSince

/-- `PacketSource::get`. -/
def get (conn : TcpConnection) : Option Ipv4Packet :=
  conn.packetForClientLength.map conn.networkToClient.inflate

/-- The record grows. -/
def record (conn : TcpConnection) (action : TcpAction) : TcpConnection :=
  { conn with trace := conn.trace ++ [action] }

end TcpConnection

/-! ## Its methods -/

namespace TcpContext

open TcpConnection

/-- Change the control block. -/
def withTcb (c : TcpContext) (f : Tcb → Tcb) : TcpContext :=
  { c with conn := { c.conn with tcb := f c.conn.tcb } }

/-- One more action is added to the history of the connection. -/
def record (c : TcpContext) (action : TcpAction) : TcpContext :=
  { c with conn := c.conn.record action }

/-- A failure to deregister is only logged. -/
def close (c : TcpContext) : TcpContext :=
  { c with
    conn := { c.conn with closed := true }.record (.closed c.conn.waiting)
    selector := (c.selector.deregister (.connection c.conn.handle)).2 }

/-- Losing such an empty packet is only logged.  `send_empty_packet_to_client` is
this function on the channel of the client. -/
def replyEmptyPacketToClient (c : TcpContext) (flags : UInt16) : Outcome TcpContext := do
  let (packet, packetizer) ← createEmptyResponsePacket c.conn.networkToClient c.conn.tcb flags
  let (_, client, selector) ← c.client.sendToClient c.selector packet
  let conn := { c.conn with networkToClient := packetizer }
  return ⟨conn.record (.forged packet.raw conn.waiting), client, selector⟩

/-- `send_empty_packet_to_client`: the client is borrowed, and the packet sent through its channel.
-/
def sendEmptyPacketToClient (c : TcpContext) (flags : UInt16) : Outcome TcpContext :=
  c.replyEmptyPacketToClient flags

/-- `update_interests`: the socket is registered again only when what the connection waits for has
changed. -/
def updateInterests (c : TcpContext) : Outcome TcpContext :=
  if c.conn.closed then .error .connectionClosed
  else if c.conn.interests ≠ c.conn.wanted then do
    -- interests must be changed
    let selector ← c.selector.reregister (.connection c.conn.handle) c.conn.wanted
    return { c with conn := { c.conn with interests := c.conn.wanted }, selector }
  else .ok c

/-- The FIN counts for 1 byte. -/
def countSentFin (c : TcpContext) (state : TcpState) : TcpContext :=
  c.withTcb fun tcb => { tcb with
    finSequenceNumber := some tcb.sequenceNumber
    sequenceNumber := tcb.sequenceNumber + 1
    state }

/-- `eof`: the host has closed its side, and the FIN for the client is sent at once, whatever it
still has to be sent. -/
def eof (c : TcpContext) : Outcome TcpContext := do
  let c ← c.sendEmptyPacketToClient (flagFin ||| flagAck)
  return c.countSentFin (if c.conn.tcb.state = .closeWait then .lastAck else .finWait1)

/-- The received FIN counts for 1 byte. -/
def countReceivedFin (c : TcpContext) : TcpContext :=
  (c.withTcb fun tcb => { tcb with acknowledgementNumber := tcb.acknowledgementNumber + 1 }).record
    .finHandled

/-- `do_handle_fin`: the FIN of the client is acknowledged, which ends the connection, or its half,
by the state it is in. -/
def doHandleFin (c : TcpContext) : Outcome TcpContext :=
  let c := c.countReceivedFin
  if c.conn.tcb.state = .established then do
    let c ← c.replyEmptyPacketToClient (flagFin ||| flagAck)
    -- switch immediately to LastAck (bypass CloseWait)
    return c.countSentFin .lastAck
  else if c.conn.tcb.state = .finWait1 then do
    let c ← c.replyEmptyPacketToClient flagAck
    return c.withTcb fun tcb => { tcb with state := .closing }
  else if c.conn.tcb.state = .finWait2 then do
    let c ← c.replyEmptyPacketToClient flagAck
    return c.close
  else .ok c

/-- `handle_fin`: the FIN of the client counts behind all of its bytes, so it waits for the buffer
to become empty. -/
def handleFin (c : TcpContext) : Outcome TcpContext :=
  let c := c.withTcb fun tcb => { tcb with finReceived := true }
  if c.conn.clientToNetwork.isEmpty then c.doHandleFin
  else
    -- the FIN will be processed once client_to_network is empty
    .ok c

/-- `handle_fin_ack`: the client has acknowledged the FIN of the relay. -/
def handleFinAck (c : TcpContext) : TcpContext :=
  if c.conn.tcb.state = .lastAck ∨ c.conn.tcb.state = .closing then c.close
  else if c.conn.tcb.state = .finWait1 then c.withTcb fun tcb => { tcb with state := .finWait2 }
  else c

/-- `handle_ack`: it ends the handshake, or it carries data, which are kept if there is room for
all of them. -/
def handleAck (c : TcpContext) (packet : Ipv4Packet) : Outcome TcpContext :=
  if c.conn.tcb.state = .synReceived then
    .ok (c.withTcb fun tcb => { tcb with state := .established })
  else do
    match ← packet.payload with
    | none => .error .noTransport
    | some payload =>
        if payload = [] then
          -- no data to transmit
          return c
        else if c.conn.clientToNetwork.remaining < payload.length then
          -- not enough space, dropping packet
          return c
        else do
          let clientToNetwork ← c.conn.clientToNetwork.readFrom payload
          -- data will be ACKed once written to the network socket
          return { c with conn := { c.conn with clientToNetwork } }

/-- `handle_first_packet`: a SYN opens the flow, and any other packet is answered by a RST. -/
def handleFirstPacket (c : TcpContext) (packet : Ipv4Packet) (random : UInt32) :
    Outcome TcpContext := do
  let tcpHeader ← tcpHeaderOfPacket packet
  if tcpHeader.data.isSyn then
    let theirSequenceNumber := tcpHeader.data.sequenceNumber
    return (c.withTcb fun tcb => { tcb with
      acknowledgementNumber := theirSequenceNumber + 1
      synSequenceNumber := theirSequenceNumber
      sequenceNumber := random
      clientWindow := tcpHeader.data.window
      state := .synSent }).record (.opened random)
  else do
    -- make a RST in the window client
    let c := c.withTcb fun tcb => { tcb with
      sequenceNumber := tcpHeader.data.acknowledgementNumber }
    let c ← c.replyEmptyPacketToClient flagRst
    return c.close

/-- `handle_duplicate_syn`: before the SYN+ACK it takes the place of the first one; after it, only
the same SYN is harmless. -/
def handleDuplicateSyn (c : TcpContext) (packet : Ipv4Packet) : Outcome TcpContext := do
  let tcpHeader ← tcpHeaderOfPacket packet
  let theirSequenceNumber := tcpHeader.data.sequenceNumber
  if c.conn.tcb.state = .synSent then
    -- the connection is not established yet, we can accept this packet as if it
    -- were the first SYN
    return c.withTcb fun tcb => { tcb with
      synSequenceNumber := theirSequenceNumber
      acknowledgementNumber := theirSequenceNumber + 1 }
  else if theirSequenceNumber ≠ c.conn.tcb.synSequenceNumber then do
    let c ← c.replyEmptyPacketToClient flagRst
    return c.close
  else return c

/-- `fin_sequence_number + 1`, on a plain `u32`. -/
def afterFin (overflowChecks : Bool) (finSequenceNumber : UInt32) : Outcome UInt32 :=
  if overflowChecks ∧ finSequenceNumber.toNat + 1 = 2 ^ 32 then .error .overflow
  else .ok (finSequenceNumber + 1)

/-- `handle_packet`: only the packet that is next in the sequence is looked at, for its window,
RST, ACK and FIN in this order. -/
def handlePacket (c : TcpContext) (packet : Ipv4Packet) (random : UInt32) (overflowChecks : Bool) :
    Outcome TcpContext := do
  let tcpHeader ← tcpHeaderOfPacket packet
  if c.conn.tcb.state = .init then c.handleFirstPacket packet random
  else if tcpHeader.data.isSyn then c.handleDuplicateSyn packet
  else if tcpHeader.data.sequenceNumber ≠ c.conn.expectedPacket then
    -- ignore packet already received or out-of-order, retransmission is already
    -- managed by both sides
    return c
  else do
    let c := c.withTcb fun tcb => { tcb with
      clientWindow := tcpHeader.data.window
      theirAcknowledgementNumber := tcpHeader.data.acknowledgementNumber }
    if tcpHeader.data.isRst then return c.close
    else do
      let c ← (if tcpHeader.data.isAck then c.handleAck packet else .ok c)
      let c ← (if tcpHeader.data.isFin then c.handleFin else .ok c)
      match c.conn.tcb.finSequenceNumber with
      | none => return c
      | some finSequenceNumber => do
          let acked ← afterFin overflowChecks finSequenceNumber
          if tcpHeader.data.acknowledgementNumber = acked then return c.handleFinAck
          else return c

/-- `send_to_network`: what the router calls for each packet of the flow; the interests follow what
came of it. -/
def sendToNetwork (c : TcpContext) (packet : IpPacket) (random : UInt32) (overflowChecks : Bool)
    (now : Instant) : Outcome TcpContext :=
  match packet with
  | .ipv6 _ => .ok c
  | .ipv4 packet => do
      let c := { c with conn := c.conn.touch now }
      let c ← c.handlePacket packet random overflowChecks
      if c.conn.closed then return c else c.updateInterests

/-- `process_connect`: the socket has become writable, so the connect is over, with an error or
with a SYN+ACK for the client. -/
def processConnect (c : TcpContext) (takeError : IoResult (Option IoError)) : Outcome TcpContext :=
  if c.conn.tcb.state ≠ .synSent then .error .notConnecting
  else
    match takeError with
    | .ok (some _) => do
        let c ← c.sendEmptyPacketToClient flagRst
        return c.close
    | .ok none | .error _ => do
        let c := c.withTcb fun tcb => { tcb with state := .synReceived }
        let c ← c.sendEmptyPacketToClient (flagSyn ||| flagAck)
        -- SYN counts for 1 byte
        return c.withTcb fun tcb => { tcb with sequenceNumber := tcb.sequenceNumber + 1 }

/-- The acknowledgement number follows what the socket took. -/
def acknowledge (c : TcpContext) (written : List UInt8)
    (clientToNetwork : StreamBuffer (4 * maxPacketLength)) : TcpContext :=
  ({ c with conn := { c.conn with clientToNetwork } }.withTcb fun tcb => { tcb with
    acknowledgementNumber := tcb.acknowledgementNumber + UInt32.ofNat written.length }).record
    (.wrote written)

/-- `Err(WouldBlock)` on spurious event. -/
def processSend (c : TcpContext) (write : IoResult ℕ) : Outcome (IoResult Unit × TcpContext) :=
  match c.conn.clientToNetwork.writeTo write with
  | (.ok written, clientToNetwork) =>
      if written ≠ [] then
        let c := c.acknowledge written clientToNetwork
        if c.conn.tcb.finReceived ∧ c.conn.clientToNetwork.isEmpty then do
          -- no more pending data, process the pending FIN
          let c ← c.doHandleFin
          return (.ok (), c)
        else do
          let c ← c.sendEmptyPacketToClient flagAck
          return (.ok (), c)
      else .ok (.ok (), c.close)
  | (.error .wouldBlock, _) => .ok (.error .wouldBlock, c)
  | (.error .other, _) => do
      let c ← c.sendEmptyPacketToClient flagRst
      return (.ok (), c.close)

/-- The waiting packet of `length` bytes is registered with the client. -/
def await (c : TcpContext) (length : UInt16) : TcpContext where
  conn := { c.conn with packetForClientLength := some length }
  client := c.client.registerPendingPacketSource c.conn.handle
  selector := c.selector

/-- A data packet just built from `data` is handed to the client, or waits. -/
def sendDataToClient (c : TcpContext) (packet : Ipv4Packet) : Outcome TcpContext := do
  let (sent, client, selector) ← c.client.sendToClient c.selector packet
  let c := { c with client, selector }
  match sent with
  | .ok () => do
      match ← packet.payload with
      | none => .error .noTransport
      | some payload =>
          return (c.withTcb fun tcb => { tcb with
            sequenceNumber := tcb.sequenceNumber + UInt32.ofNat payload.length }).record
            (.handed packet.raw)
  | .error _ =>
      -- ask to the client to pull when its buffer is not full
      return (c.await packet.length).record (.deferred packet.raw)

/-- How many bytes `process_receive` asks for. -/
def receivable (c : TcpContext) : ℕ :=
  min c.conn.tcb.remainingClientWindow.toNat maxPayloadLength.toNat

/-- `Err(WouldBlock)` on spurious event. -/
def processReceive (c : TcpContext) (read : IoResult (List UInt8)) :
    Outcome (IoResult Unit × TcpContext) :=
  if c.conn.packetForClientLength.isSome then .error .pendingPacketNotSent
  else if ¬ 0 < c.conn.tcb.remainingClientWindow then .error .zeroClientWindow
  else do
    let packetizer ← updateHeaders c.conn.networkToClient c.conn.tcb (flagAck ||| flagPsh)
    let data := packetizer.chunk (read.toOption.getD []) c.receivable
    let (result, packetizer) ← packetizer.packetizeRead read c.receivable
    let c := { c with conn := { c.conn with networkToClient := packetizer } }
    match result with
    | .ok (some packet) => do
        let c ← (c.record (.read data)).sendDataToClient packet
        return (.ok (), c)
    | .ok none => do
        let c ← (c.record .readEof).eof
        return (.ok (), c)
    | .error .wouldBlock => return (.error .wouldBlock, c)
    | .error .other => do
        let c ← c.sendEmptyPacketToClient flagRst
        return (.ok (), c.close)

/-- `PacketSource::next`.  The packet handed over is the one `get` gives. -/
def next (c : TcpContext) : Outcome TcpContext :=
  match c.conn.packetForClientLength with
  | none => .error .emptyPacketSource
  | some length =>
      let raw := (c.conn.networkToClient.inflate length).raw
      let c := c.withTcb fun tcb => { tcb with
        sequenceNumber := tcb.sequenceNumber + length.toUInt32 }
      ({ c with conn := { c.conn with packetForClientLength := none } }.record
        (.delivered raw)).updateInterests

/-- Called by the periodic reaper instead of `close`. -/
def expire (c : TcpContext) : Outcome TcpContext :=
  if c.conn.closed = false ∧
      (c.conn.tcb.state = .synSent ∨ c.conn.tcb.state = .synReceived) then do
    let c ← c.replyEmptyPacketToClient flagRst
    return c.close
  else .ok c.close

/-- `remove_from_router`: the route leaves the client, and the connection itself stays as it is. -/
def removeFromRouter (c : TcpContext) : TcpContext :=
  { c with client := c.client.removeConnection c.conn.id }

/-- The writable half of an event. -/
def processWritable (c : TcpContext) (answers : SocketAnswers) :
    Outcome (IoResult Unit × TcpContext) :=
  if c.conn.tcb.state = .synSent then do
    -- writable is first triggered when the stream is connected
    let c ← c.processConnect answers.takeError
    return (.ok (), c)
  else c.processSend answers.write

/-- The halves of an event, and the interests they call for. -/
def processReady (c : TcpContext) (ready : Ready) (answers : SocketAnswers) :
    Outcome (IoResult Unit × TcpContext) :=
  orReturn (if ready.isWritable then c.processWritable answers else .ok (.ok (), c)) fun c =>
    orReturn
      (if c.conn.closed = false ∧ ready.isReadable then c.processReceive answers.read
        else .ok (.ok (), c))
      fun c => do
        let c ← (if c.conn.closed then .ok c else c.updateInterests)
        return (.ok (), c)

/-- Error or hup.  Only a flow in its handshake is reset. -/
def processHup (c : TcpContext) : Outcome TcpContext := do
  let c ←
    (if c.conn.tcb.state = .synSent ∨ c.conn.tcb.state = .synReceived then
      c.sendEmptyPacketToClient flagRst
    else .ok c)
  return c.close

/-- `Err(WouldBlock)` on spurious event. -/
def process (c : TcpContext) (ready : Ready) (answers : SocketAnswers) (now : Instant) :
    Outcome (IoResult Unit × TcpContext) :=
  if c.conn.closed then .ok (.ok (), c)
  else
    let c := { c with conn := c.conn.touch now }
    orReturn
      (if ready.isReadable ∨ ready.isWritable then c.processReady ready answers
        else do return (.ok (), ← c.processHup))
      -- on_ready is not called from the router, so the connection must remove itself
      fun c => .ok (.ok (), if c.conn.closed then c.removeFromRouter else c)

/-- `on_ready`: a spurious event is ignored, and any other error closes the connection for good. -/
def onReady (c : TcpContext) (ready : Ready) (answers : SocketAnswers) (now : Instant) :
    Outcome TcpContext := do
  let (result, c) ← c.process ready answers now
  match result with
  | .ok () => return c
  | .error .wouldBlock =>
      -- spurious event, ignoring
      return c
  | .error .other =>
      let c := if c.conn.closed then c else c.close
      return c.removeFromRouter

end TcpContext

end ReverseTether
