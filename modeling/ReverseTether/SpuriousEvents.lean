import ReverseTether.Routes

/-!
# Spurious events

An event is spurious when the operation it calls for would block.  `Blocks` lists the
seven places where a socket of a client or of an IPv4 connection is read or written, with
everything as the operation finds it; behind it the event must leave the owner of the
socket open, with the same outgoing data and under the same interest (`Harmless`).

Five places give the error back.  `Client::process_send` takes it for a failure of the
tunnel, and `DatagramBuffer::write_to` has dropped the datagram before it asks the socket.

The operation is given by its place, its owner and the answer of its socket, so that one
statement is about all seven: which of them an event comes to is decided by the state of the
connection and by what the event is ready for.  `Harmless` is what a caller of an operation
that would block may expect, and is about the owner alone.

The two sites that do harm lose different things.  A datagram is gone, and its flow goes on;
the client is closed, and with it all of its connections.
-/

namespace ReverseTether

open Library

/-! ## Outgoing data -/

/-- The data a component still has to hand over, in whichever buffer it is kept. -/
inductive Outgoing
  | client (networkToClient : ClientStream) (pendingIdBytes : ℕ)
  /-- The stream of the client, and the packet that waits for it. -/
  | tcp (clientToNetwork : StreamBuffer (4 * maxPacketLength)) (waiting : Option Ipv4Packet)
  | udp (clientToNetwork : DatagramBuffer (4 * maxPacketLength))

/-- Whether the component that owns a socket is closed, and its outgoing data. -/
def ClientContext.component (c : ClientContext) : Source → Option (Bool × Outgoing)
  | .client => some (c.client.closed, .client c.client.networkToClient c.client.pendingIdBytes)
  | .connection handle =>
      match c.created[handle]? with
      | some (.tcp conn) => some (conn.closed, .tcp conn.clientToNetwork conn.get)
      | some (.udp conn) => some (conn.closed, .udp conn.clientToNetwork)
      | _ => none

/-- Nothing is lost from `before` to `after`: the component is open and has the same data, and
the poller goes on waiting for the same. -/
structure ClientContext.Harmless (source : Source) (before after : ClientContext) : Prop where
  open_same : ∃ outgoing, before.component source = some (false, outgoing) ∧
    after.component source = some (false, outgoing)
  registered : after.selector.registered source = before.selector.registered source

/-! ## The places -/

/-- Where sockets are read and written: the seven places in which a call may answer that it would
block although the poller reported an event. -/
inductive Site
  | sendId
  | clientWrite
  | clientRead
  | tcpSend
  | tcpReceive
  | udpSend
  | udpReceive
  deriving DecidableEq, Repr

/-- The writable half of an event of a TCP connection. -/
def TcpContext.writableHalf (c : TcpContext) (ready : Ready) (answers : SocketAnswers) :
    Outcome (IoResult Unit × TcpContext) :=
  if ready.isWritable then c.processWritable answers else .ok (.ok (), c)

/-- The part of `process` in front of the readable half. -/
def UdpContext.writableHalf (c : UdpContext) (ready : Ready) (answers : SocketAnswers) :
    Outcome UdpContext :=
  if ready.isWritable then c.processSend answers.write else .ok c

/-- The part of `process` in front of the readable half. -/
def ClientContext.writableHalf (c : ClientContext) (ready : Ready) (answers : EventAnswers) :
    Outcome (IoResult Unit × ClientContext) :=
  if ready.isWritable then c.processSend answers.socket.write else .ok (.ok (), c)

/-- During an event the operation of a site would block; `before` is what it finds.  The
operation of a site is reached when the component is open, the event is ready for it, and
there is something to write. -/
inductive ClientContext.Blocks (c : ClientContext) (ready : Ready) (answers : EventAnswers) :
    Source → Site → ClientContext → Prop
  | sendId : c.client.closed = false → ready.isWritable = true → c.client.mustSendId = true →
      answers.socket.write = .error .wouldBlock → Blocks c ready answers .client .sendId c
  | clientWrite : c.client.closed = false → ready.isWritable = true → c.client.mustSendId = false →
      c.client.networkToClient.isEmpty = false → answers.socket.write = .error .wouldBlock →
      Blocks c ready answers .client .clientWrite c
  | clientRead {before : ClientContext} : c.client.closed = false →
      c.writableHalf ready answers = .ok (.ok (), before) → before.client.closed = false →
      ready.isReadable = true → answers.socket.read = .error .wouldBlock →
      Blocks c ready answers .client .clientRead before
  | tcpSend {handle : Handle} {conn : TcpConnection} : c.created[handle]? = some (.tcp conn) →
      conn.closed = false → ready.isWritable = true → conn.tcb.state ≠ .synSent →
      conn.clientToNetwork.isEmpty = false → answers.socket.write = .error .wouldBlock →
      Blocks c ready answers (.connection handle) .tcpSend c
  | tcpReceive {handle : Handle} {conn : TcpConnection} {f : TcpContext} :
      c.created[handle]? = some (.tcp conn) → conn.closed = false →
      TcpContext.writableHalf ⟨conn.touch answers.now, c.client, c.selector⟩ ready answers.socket =
        .ok (.ok (), f) →
      f.conn.closed = false → ready.isReadable = true → answers.socket.read = .error .wouldBlock →
      Blocks c ready answers (.connection handle) .tcpReceive (c.leave f.asConnection)
  | udpSend {handle : Handle} {conn : UdpConnection} : c.created[handle]? = some (.udp conn) →
      conn.closed = false → ready.isWritable = true → answers.socket.write = .error .wouldBlock →
      Blocks c ready answers (.connection handle) .udpSend c
  | udpReceive {handle : Handle} {conn : UdpConnection} {f : UdpContext} :
      c.created[handle]? = some (.udp conn) → conn.closed = false →
      UdpContext.writableHalf ⟨conn.touch answers.now, c.client, c.selector⟩ ready answers.socket =
        .ok f →
      f.conn.closed = false → ready.isReadable = true → answers.socket.read = .error .wouldBlock →
      Blocks c ready answers (.connection handle) .udpReceive (c.leave f.asConnection)

/-! ## The sites of a TCP connection -/

namespace TcpContext

variable {c c' f : TcpContext} {ready : Ready} {answers : SocketAnswers} {now : Instant}

/-- A spurious writable event changes nothing. -/
theorem onReady_sendBlocks (isOpen : c.conn.closed = false) (writable : ready.isWritable = true)
    (notSynSent : c.conn.tcb.state ≠ .synSent) (stored : c.conn.clientToNetwork.isEmpty = false)
    (blocked : answers.write = .error .wouldBlock) (h : c.onReady ready answers now = .ok c') :
    c' = { c with conn := c.conn.touch now } := by
  let touched : TcpContext := { c with conn := c.conn.touch now }
  have half : touched.processWritable answers = .ok (.error .wouldBlock, touched) := by
    refine (if_neg notSynSent).trans ?_
    have refused : touched.conn.clientToNetwork.writeTo answers.write =
        (.error .wouldBlock, c.conn.clientToNetwork) := by
      rw [blocked]
      exact StreamBuffer.writeTo_error stored .wouldBlock
    rw [processSend, refused]
  have both : touched.processReady ready answers = .ok (.error .wouldBlock, touched) :=
    orReturn_eq_ok.mpr (.inr ⟨_, _, (if_pos writable).trans half, rfl⟩)
  have processed : c.process ready answers now = .ok (.error .wouldBlock, touched) := by
    refine (if_neg (by rw [isOpen]; exact Bool.false_ne_true)).trans ?_
    exact orReturn_eq_ok.mpr (.inr ⟨_, _, (if_pos (.inr writable)).trans both, rfl⟩)
  rw [onReady, processed, ok_bind] at h
  exact (Except.ok.inj h).symm

/-- A spurious readable event leaves headers in the packetizer, where nothing waits. -/
theorem onReady_receiveBlocks (isOpen : c.conn.closed = false)
    (half : TcpContext.writableHalf { c with conn := c.conn.touch now } ready answers =
      .ok (.ok (), f))
    (stillOpen : f.conn.closed = false) (readable : ready.isReadable = true)
    (blocked : answers.read = .error .wouldBlock) (h : c.onReady ready answers now = .ok c') :
    f.conn.packetForClientLength = none ∧
      ∃ primed, c' = { f with conn := { f.conn with networkToClient := primed } } := by
  obtain ⟨⟨result, c₁⟩, processed, h⟩ := bind_eq_ok.mp h
  rw [process, if_neg (by rw [isOpen]; exact Bool.false_ne_true)] at processed
  have body {result : IoResult Unit} {c₂ : TcpContext}
      (h : processReady { c with conn := c.conn.touch now } ready answers = .ok (result, c₂)) :
      result = .error .wouldBlock ∧ f.conn.packetForClientLength = none ∧
        ∃ primed, c₂ = { f with conn := { f.conn with networkToClient := primed } } := by
    have received {result : IoResult Unit} {c₂ : TcpContext}
        (h : f.processReceive answers.read = .ok (result, c₂)) :
        result = .error .wouldBlock ∧ f.conn.packetForClientLength = none ∧
          ∃ primed, c₂ = { f with conn := { f.conn with networkToClient := primed } } := by
      unfold processReceive at h
      split at h
      · cases h
      · rename_i idle
        rw [Option.not_isSome_iff_eq_none] at idle
        split at h
        · cases h
        · obtain ⟨primed, -, h⟩ := bind_eq_ok.mp h
          obtain ⟨⟨outcome, packetizer⟩, packetized, h⟩ := bind_eq_ok.mp h
          rw [blocked] at packetized
          cases packetized
          cases h
          exact ⟨rfl, idle, primed, rfl⟩
    rcases orReturn_eq_ok.mp h with ⟨c₃, written, h⟩ | ⟨err, c₃, written, -⟩
    · have same := written.symm.trans half
      cases same
      rcases orReturn_eq_ok.mp h with ⟨c₄, done, -⟩ | ⟨err, c₄, done, rest⟩
      · have done := (if_pos ⟨stillOpen, readable⟩).symm.trans done
        exact absurd (received done).1 nofun
      · cases rest
        exact received ((if_pos ⟨stillOpen, readable⟩).symm.trans done)
    · have same := written.symm.trans half
      cases same
  rcases orReturn_eq_ok.mp processed with ⟨c₂, done, -⟩ | ⟨err, c₂, done, rest⟩
  · have done := (if_pos (.inl readable)).symm.trans done
    exact absurd (body done).1 nofun
  · cases rest
    obtain ⟨failed, idle, primed, same⟩ := body ((if_pos (.inl readable)).symm.trans done)
    cases failed
    cases h
    exact ⟨idle, primed, same⟩

end TcpContext

/-! ## The sites of a UDP connection -/

/-- **The datagram is gone**, whatever the socket says: `tail` moves by at least the length of a
block header.  The source takes the datagram out of the queue before it knows whether the socket
takes it. -/
theorem DatagramBuffer.writeTo_moves {capacity : ℕ} {b b' : DatagramBuffer capacity}
    {write : IoResult ℕ} {result : IoResult Unit} {d : List UInt8} (large : 65538 ≤ capacity)
    (h : b.writeTo write = .ok (result, d, b')) : b'.tail ≠ b.tail := by
  unfold writeTo at h
  split at h
  · cases h
  · obtain ⟨⟨length, b₁⟩, read, h⟩ := bind_eq_ok.mp h
    obtain ⟨value, -, moved⟩ := bind_eq_ok.mp read
    cases moved
    obtain ⟨source, -, h⟩ := bind_eq_ok.mp h
    have short := length.toNat_lt
    have tail : (if capacity + 1 ≤ b.tail + 2 + length.toNat then 0
        else b.tail + 2 + length.toNat) ≠ b.tail := by
      split <;> omega
    have same : b'.tail = if capacity + 1 ≤ b.tail + 2 + length.toNat then 0
        else b.tail + 2 + length.toNat := by
      cases write with
      | error err =>
          cases h
          rfl
      | ok n =>
          simp only at h
          split at h
          · cases h
            rfl
          · cases h
            rfl
    rw [same]
    exact tail

namespace UdpContext

variable {c c' f : UdpContext} {ready : Ready} {answers : SocketAnswers} {now : Instant}

theorem updateInterests_queue (h : c.updateInterests = .ok c') :
    c'.conn.clientToNetwork = c.conn.clientToNetwork := by
  unfold updateInterests at h
  split at h
  · obtain ⟨selector, -, rest⟩ := bind_eq_ok.mp h
    cases rest
    rfl
  · cases h
    rfl

theorem processReceive_queue {source : IoResult (List UInt8)} {result : IoResult Unit}
    (h : c.processReceive source = .ok (result, c')) :
    c'.conn.clientToNetwork = c.conn.clientToNetwork := by
  obtain ⟨⟨answer, c₁⟩, wasRead, h⟩ := bind_eq_ok.mp h
  have read : c₁.conn.clientToNetwork = c.conn.clientToNetwork := by
    obtain ⟨⟨packet, packetizer⟩, -, rest⟩ := bind_eq_ok.mp wasRead
    cases packet with
    | error err =>
        cases rest
        rfl
    | ok packet =>
        obtain ⟨⟨sent, client, selector⟩, -, rest⟩ := bind_eq_ok.mp rest
        cases rest
        rfl
  rw [← read]
  cases answer with
  | ok _ =>
      cases h
      rfl
  | error err =>
      cases err with
      | wouldBlock =>
          cases h
          rfl
      | other =>
          cases h
          rfl

/-- The queue after an event is the queue after its writable half. -/
theorem onReady_queue (isOpen : c.conn.closed = false)
    (some : ready.isReadable = true ∨ ready.isWritable = true)
    (h : c.onReady ready answers now = .ok c') :
    ∃ f, UdpContext.writableHalf { c with conn := c.conn.touch now } ready answers = .ok f ∧
      c'.conn.clientToNetwork = f.conn.clientToNetwork := by
  have received {result : IoResult Unit} {f c₁ : UdpContext}
      (h : (if f.conn.closed = false ∧ ready.isReadable then f.processReceive answers.read
        else .ok (.ok (), f)) = .ok (result, c₁)) :
      c₁.conn.clientToNetwork = f.conn.clientToNetwork := by
    split at h
    · exact processReceive_queue h
    · cases h
      rfl
  have both {result : IoResult Unit} {c₁ : UdpContext}
      (h : processReady { c with conn := c.conn.touch now } ready answers = .ok (result, c₁)) :
      ∃ f, UdpContext.writableHalf { c with conn := c.conn.touch now } ready answers = .ok f ∧
        c₁.conn.clientToNetwork = f.conn.clientToNetwork := by
    obtain ⟨f, half, h⟩ := bind_eq_ok.mp h
    refine ⟨f, half, ?_⟩
    rcases orReturn_eq_ok.mp h with ⟨c₂, read, h⟩ | ⟨err, c₂, read, rest⟩
    · obtain ⟨c₃, updated, rest⟩ := bind_eq_ok.mp h
      cases rest
      rw [← received read]
      split at updated
      · cases updated
        rfl
      · exact updateInterests_queue updated
    · cases rest
      exact received read
  obtain ⟨⟨result, c₁⟩, processed, h⟩ := bind_eq_ok.mp h
  have processed' : ∃ f, UdpContext.writableHalf { c with conn := c.conn.touch now } ready answers =
      .ok f ∧ c₁.conn.clientToNetwork = f.conn.clientToNetwork := by
    rw [process, if_neg (by rw [isOpen]; exact Bool.false_ne_true)] at processed
    rcases orReturn_eq_ok.mp processed with ⟨c₂, done, rest⟩ | ⟨err, c₂, done, rest⟩
    · cases rest
      obtain ⟨f, half, same⟩ := both ((if_pos some).symm.trans done)
      refine ⟨f, half, ?_⟩
      split
      · exact same
      · exact same
    · cases rest
      exact both ((if_pos some).symm.trans done)
  obtain ⟨f, half, same⟩ := processed'
  refine ⟨f, half, ?_⟩
  rw [← same]
  cases result with
  | ok _ =>
      cases h
      rfl
  | error err =>
      cases err with
      | wouldBlock =>
          cases h
          rfl
      | other =>
          cases h
          split <;> rfl

/-- **A datagram that would block is lost.**  It has left the queue by the time that the socket
says so, and nothing puts it back. -/
theorem onReady_sendBlocks (isOpen : c.conn.closed = false) (writable : ready.isWritable = true)
    (blocked : answers.write = .error .wouldBlock) (h : c.onReady ready answers now = .ok c') :
    c'.conn.clientToNetwork ≠ c.conn.clientToNetwork := by
  obtain ⟨f, half, same⟩ := onReady_queue isOpen (.inr writable) h
  rw [UdpContext.writableHalf, if_pos writable, blocked] at half
  obtain ⟨⟨result, datagram, clientToNetwork⟩, popped, rest⟩ := bind_eq_ok.mp half
  have moved := DatagramBuffer.writeTo_moves (by decide) popped
  have queue : f.conn.clientToNetwork = clientToNetwork := by
    cases result with
    | ok _ =>
        cases rest
        rfl
    | error err =>
        cases err with
        | wouldBlock =>
            cases rest
            rfl
        | other =>
            cases rest
            rfl
  rw [same, queue]
  intro unchanged
  exact moved (congrArg DatagramBuffer.tail unchanged)

/-- A read that would block leaves what the writable half has made. -/
theorem onReady_readBlocks (isOpen : c.conn.closed = false)
    (half : UdpContext.writableHalf { c with conn := c.conn.touch now } ready answers = .ok f)
    (stillOpen : f.conn.closed = false) (readable : ready.isReadable = true)
    (blocked : answers.read = .error .wouldBlock) : c.onReady ready answers now = .ok f := by
  have received : f.processReceive answers.read = .ok (.error .wouldBlock, f) := by
    rw [blocked]
    rfl
  have both : processReady { c with conn := c.conn.touch now } ready answers =
      .ok (.error .wouldBlock, f) := by
    refine bind_eq_ok.mpr ⟨f, half, ?_⟩
    exact orReturn_eq_ok.mpr (.inr ⟨_, _, (if_pos ⟨stillOpen, readable⟩).trans received, rfl⟩)
  have processed : c.process ready answers now = .ok (.error .wouldBlock, f) := by
    refine (if_neg (by rw [isOpen]; exact Bool.false_ne_true)).trans ?_
    exact orReturn_eq_ok.mpr (.inr ⟨_, _, (if_pos (.inl readable)).trans both, rfl⟩)
  rw [onReady, processed, ok_bind]
  rfl

/-- A spurious readable event changes nothing behind the writable half. -/
theorem onReady_receiveBlocks (isOpen : c.conn.closed = false)
    (half : UdpContext.writableHalf { c with conn := c.conn.touch now } ready answers = .ok f)
    (stillOpen : f.conn.closed = false) (readable : ready.isReadable = true)
    (blocked : answers.read = .error .wouldBlock) (h : c.onReady ready answers now = .ok c') :
    c' = f :=
  Except.ok.inj (h.symm.trans (onReady_readBlocks isOpen half stillOpen readable blocked))

end UdpContext

/-! ## The sites of the client -/

namespace ClientContext

variable {c c' before : ClientContext} {ready : Ready} {answers : EventAnswers}

/-- An event whose writable half would block. -/
theorem onReady_writableBlocks (isOpen : c.client.closed = false)
    (half : c.writableHalf ready answers = .ok (.error .wouldBlock, before))
    (h : c.onReady ready answers = .ok c') : c' = before := by
  have processed : c.process ready answers = .ok (.error .wouldBlock, before) := by
    refine (if_neg (by rw [isOpen]; exact Bool.false_ne_true)).trans ?_
    exact orReturn_eq_ok.mpr (.inr ⟨_, _, half, rfl⟩)
  rw [onReady, processed, ok_bind] at h
  exact (Except.ok.inj h).symm

theorem onReady_sendIdBlocks (isOpen : c.client.closed = false) (writable : ready.isWritable = true)
    (mustSendId : c.client.mustSendId = true) (blocked : answers.socket.write = .error .wouldBlock)
    (h : c.onReady ready answers = .ok c') : c' = c := by
  refine onReady_writableBlocks isOpen ?_ h
  have refused : c.sendId answers.socket.write = .ok (.error .wouldBlock, c) := by
    unfold sendId
    rw [if_pos mustSendId, blocked]
  refine (if_pos writable).trans ?_
  rw [processSend, if_pos mustSendId, refused]
  rfl

/-- A spurious readable event changes nothing behind the writable half. -/
theorem onReady_readBlocks (isOpen : c.client.closed = false)
    (half : c.writableHalf ready answers = .ok (.ok (), before))
    (stillOpen : before.client.closed = false) (readable : ready.isReadable = true)
    (blocked : answers.socket.read = .error .wouldBlock) (h : c.onReady ready answers = .ok c') :
    c' = before := by
  have refused : before.processReceive answers.socket.read answers.packets =
      .ok (.error .wouldBlock, before) := by
    rw [blocked]
    rfl
  have processed : c.process ready answers = .ok (.error .wouldBlock, before) := by
    refine (if_neg (by rw [isOpen]; exact Bool.false_ne_true)).trans ?_
    refine orReturn_eq_ok.mpr (.inl ⟨before, half, ?_⟩)
    exact orReturn_eq_ok.mpr (.inr ⟨_, _, (if_pos ⟨stillOpen, readable⟩).trans refused, rfl⟩)
  rw [onReady, processed, ok_bind] at h
  exact (Except.ok.inj h).symm

theorem close_closed (h : c.close = .ok c') : c'.client.closed = true := by
  unfold close at h
  simp only at h
  split at h
  · cases h
    exact congrArg Client.closed (Router.clear_client _)
  · cases h

/-- **A tunnel that would block is closed.**  The stream is asked to write as long as it holds
something, and an error of any kind closes the client, this one too. -/
theorem onReady_writeBlocks (isOpen : c.client.closed = false) (writable : ready.isWritable = true)
    (idSent : c.client.mustSendId = false) (stored : c.client.networkToClient.isEmpty = false)
    (blocked : answers.socket.write = .error .wouldBlock) (h : c.onReady ready answers = .ok c') :
    c'.client.closed = true := by
  have refused : c.write answers.socket.write = (.error .wouldBlock, c) := by
    have refused := StreamBuffer.writeTo_error stored .wouldBlock
    rw [write, blocked, refused]
  have half {result : IoResult Unit} {c₁ : ClientContext}
      (h : (if ready.isWritable then c.processSend answers.socket.write else .ok (.ok (), c)) =
        .ok (result, c₁)) : result = .ok () ∧ c₁.client.closed = true := by
    rw [if_pos writable, processSend, if_neg (by rw [idSent]; exact Bool.false_ne_true), refused] at h
    obtain ⟨c₂, closed, rest⟩ := bind_eq_ok.mp h
    cases rest
    exact ⟨rfl, close_closed closed⟩
  obtain ⟨⟨result, c₁⟩, processed, h⟩ := bind_eq_ok.mp h
  rw [process, if_neg (by rw [isOpen]; exact Bool.false_ne_true)] at processed
  rcases orReturn_eq_ok.mp processed with ⟨c₂, sent, rest⟩ | ⟨err, c₂, sent, -⟩
  · have closed := (half sent).2
    rw [if_neg (by rw [closed]; exact fun h => nomatch h.1)] at rest
    rcases orReturn_eq_ok.mp rest with ⟨c₃, kept, rest⟩ | ⟨err, c₃, kept, -⟩
    · cases kept
      obtain ⟨c₄, updated, rest⟩ := bind_eq_ok.mp rest
      rw [if_pos closed] at updated
      cases updated
      cases rest
      cases h
      exact closed
    · cases kept
  · exact absurd (half sent).1 nofun

/-! ## Every site -/

theorem dispatch_tcp {handle : Handle} {conn : TcpConnection}
    (place : c.created[handle]? = some (.tcp conn))
    (h : c.dispatch (.connection handle) ready answers = .ok c') :
    ∃ f, TcpContext.onReady ⟨conn, c.client, c.selector⟩ ready answers.socket answers.now = .ok f ∧
      c' = c.leave f.asConnection := by
  simp only [dispatch, place] at h
  obtain ⟨f, returned, rest⟩ := bind_eq_ok.mp h
  obtain ⟨f', happened, last⟩ := bind_eq_ok.mp returned
  cases last
  cases rest
  exact ⟨f', happened, rfl⟩

theorem dispatch_udp {handle : Handle} {conn : UdpConnection}
    (place : c.created[handle]? = some (.udp conn))
    (h : c.dispatch (.connection handle) ready answers = .ok c') :
    ∃ f, UdpContext.onReady ⟨conn, c.client, c.selector⟩ ready answers.socket answers.now = .ok f ∧
      c' = c.leave f.asConnection := by
  simp only [dispatch, place] at h
  obtain ⟨f, returned, rest⟩ := bind_eq_ok.mp h
  obtain ⟨f', happened, last⟩ := bind_eq_ok.mp returned
  cases last
  cases rest
  exact ⟨f', happened, rfl⟩

theorem component_tcp {handle : Handle} {conn : TcpConnection}
    (place : c.created[handle]? = some (.tcp conn)) :
    c.component (.connection handle) =
      some (conn.closed, .tcp conn.clientToNetwork conn.get) := by
  simp only [component, place]

theorem component_udp {handle : Handle} {conn : UdpConnection}
    (place : c.created[handle]? = some (.udp conn)) :
    c.component (.connection handle) = some (conn.closed, .udp conn.clientToNetwork) := by
  simp only [component, place]

/-- An event that changes nothing. -/
theorem Harmless.of_same {source : Source} {outgoing : Outgoing}
    (same : before.component source = some (false, outgoing)) : Harmless source before before :=
  ⟨⟨outgoing, same, same⟩, rfl⟩

/-- The datagram that a UDP connection would send is lost. -/
theorem Routed.not_harmless {handle : Handle} {conn : UdpConnection} (routed : c.Routed)
    (place : c.created[handle]? = some (.udp conn)) (isOpen : conn.closed = false)
    (writable : ready.isWritable = true) (blocked : answers.socket.write = .error .wouldBlock)
    (h : c.dispatch (.connection handle) ready answers = .ok c') :
    ¬ Harmless (.connection handle) c c' := by
  obtain ⟨f, happened, rfl⟩ := dispatch_udp place h
  have here : f.conn.handle = handle := by
    obtain ⟨c₁, proceeds, -, same⟩ := UdpContext.onReady_reacts isOpen happened
    have conn' := congrArg ConnectionContext.conn same
    rw [ConnectionContext.removeIfClosed_conn] at conn'
    have kept := proceeds.handle
    rw [← conn'] at kept
    exact kept.trans (routed.places _ _ place)
  rintro ⟨⟨outgoing, same, after⟩, -⟩
  rw [component_udp place] at same
  rw [component_udp (@leave_place c f.asConnection handle _ place here)] at after
  have queue := (congrArg Prod.snd (Option.some.inj after)).trans
    (congrArg Prod.snd (Option.some.inj same)).symm
  exact UdpContext.onReady_sendBlocks isOpen writable blocked happened (Outgoing.udp.inj queue)

/-- **A spurious event is harmless** but at two sites.  At the other five the handler returns and
has lost nothing; each of them has its own lemma above. -/
theorem Routed.spurious_iff {source : Source} {site : Site} (routed : c.Routed)
    (blocks : c.Blocks ready answers source site before)
    (h : c.dispatch source ready answers = .ok c') :
    Harmless source before c' ↔ site ≠ .clientWrite ∧ site ≠ .udpSend := by
  cases blocks with
  | sendId isOpen writable mustSendId blocked =>
      refine iff_of_true ?_ ⟨nofun, nofun⟩
      rw [onReady_sendIdBlocks isOpen writable mustSendId blocked h]
      exact .of_same (congrArg (fun closed => some (closed, _)) isOpen)
  | clientWrite isOpen writable idSent stored blocked =>
      refine iff_of_false ?_ (fun sites => sites.1 rfl)
      rintro ⟨⟨outgoing, -, after⟩, -⟩
      have closed := onReady_writeBlocks isOpen writable idSent stored blocked h
      have isOpen' := congrArg Prod.fst (Option.some.inj after)
      exact absurd (closed.symm.trans isOpen') nofun
  | clientRead isOpen half stillOpen readable blocked =>
      refine iff_of_true ?_ ⟨nofun, nofun⟩
      rw [onReady_readBlocks isOpen half stillOpen readable blocked h]
      exact .of_same (congrArg (fun closed => some (closed, _)) stillOpen)
  | @tcpSend handle conn place isOpen writable notSynSent stored blocked =>
      refine iff_of_true ?_ ⟨nofun, nofun⟩
      obtain ⟨f, happened, rfl⟩ := dispatch_tcp place h
      have same := TcpContext.onReady_sendBlocks isOpen writable notSynSent stored blocked happened
      rw [same]
      have here : conn.handle = handle := routed.places _ _ place
      have place' := @leave_place c (TcpContext.asConnection
        ⟨conn.touch answers.now, c.client, c.selector⟩) handle _ place here
      refine ⟨⟨.tcp conn.clientToNetwork conn.get, ?_, ?_⟩, rfl⟩
      · rw [component_tcp place, isOpen]
      · rw [component_tcp place']
        exact congrArg (fun closed => some (closed, _)) isOpen
  | @tcpReceive handle conn f place isOpen half stillOpen readable blocked =>
      refine iff_of_true ?_ ⟨nofun, nofun⟩
      obtain ⟨f', happened, rfl⟩ := dispatch_tcp place h
      obtain ⟨idle, primed, same⟩ := @TcpContext.onReady_receiveBlocks
        ⟨conn, c.client, c.selector⟩ f' f ready answers.socket answers.now isOpen half stillOpen
        readable blocked happened
      have here : f.conn.handle = handle := by
        rw [← routed.places _ _ place]
        unfold TcpContext.writableHalf at half
        split at half
        · exact (TcpContext.processWritable_proceeds isOpen half).1.handle
        · cases half
          rfl
      have place₁ := @leave_place c f.asConnection handle _ place here
      have place₂ := @leave_place c f'.asConnection handle _ place (by rw [same]; exact here)
      have nothing : f.conn.get = none := by rw [TcpConnection.get, idle]; rfl
      refine ⟨⟨.tcp f.conn.clientToNetwork none, ?_, ?_⟩, by rw [same]; rfl⟩
      · rw [component_tcp place₁, stillOpen, nothing]
      · rw [component_tcp place₂, same, TcpConnection.get, idle, stillOpen]
        rfl
  | udpSend place isOpen writable blocked =>
      refine iff_of_false ?_ (fun sites => sites.2 rfl)
      exact routed.not_harmless place isOpen writable blocked h
  | @udpReceive handle conn f place isOpen half stillOpen readable blocked =>
      refine iff_of_true ?_ ⟨nofun, nofun⟩
      obtain ⟨f', happened, rfl⟩ := dispatch_udp place h
      have same := @UdpContext.onReady_receiveBlocks ⟨conn, c.client, c.selector⟩ f' f ready
        answers.socket answers.now isOpen half stillOpen readable blocked happened
      have here : f.conn.handle = handle := by
        rw [← routed.places _ _ place]
        unfold UdpContext.writableHalf at half
        split at half
        · exact (UdpContext.processSend_proceeds isOpen half).handle
        · cases half
          rfl
      rw [same]
      refine @Harmless.of_same _ _ (.udp f.conn.clientToNetwork) ?_
      rw [component_udp (@leave_place c f.asConnection handle _ place here)]
      exact congrArg (fun closed => some (closed, _)) stillOpen

end ClientContext

namespace Relay

/-- **Spurious events in every run.**  An event whose operation would block is harmless exactly
when that operation is neither a write of the client nor a send of a UDP connection. -/
theorem run_spurious_iff {t : List (Relay × Label)} {s s' : Relay} {source : Source} {ready : Ready}
    {batch : List (Source × Ready)} {answers : EventAnswers} {site : Site}
    {before : ClientContext} (run : machine.Run t s) (step : Step s (.handle answers) s')
    (next : s.batch = (source, ready) :: batch)
    (blocks : s.toClientContext.Blocks ready answers source site before) :
    before.Harmless source s'.toClientContext ↔ site ≠ .clientWrite ∧ site ≠ .udpSend := by
  cases step with
  | handle next' handled =>
      have same := next.symm.trans next'
      cases same
      exact (run_routed run).spurious_iff blocks handled

/-- The first write of the id would block. -/
theorem run_spurious_iff_sendId : ∃ t s s' answers, ∃ before : ClientContext, machine.Run t s ∧
    Step s (.handle answers) s' ∧ before.Harmless .client s'.toClientContext := by
  let answers : EventAnswers :=
    ⟨⟨.ok none, .error .wouldBlock, .ok []⟩, 0, fun _ => ⟨0, false, 0, .ok (), .ok 0⟩⟩
  have start : machine.Run [] (create 0) := .start ⟨0, rfl⟩
  have run := start.step (show machine.step _ (.poll [(.client, .writable)])
    { create 0 with batch := [(.client, .writable)] } from .poll rfl fun event mem => by
      rw [List.mem_singleton.mp mem]
      exact ⟨.writable, rfl, Ready.within_refl _⟩)
  have step : Step { create 0 with batch := [(.client, .writable)] } (.handle answers)
      { create 0 with batch := [] } := .handle rfl rfl
  exact ⟨_, _, _, answers, _, run, step, (run_spurious_iff run step rfl
    (.sendId rfl rfl rfl rfl)).mpr ⟨nofun, nofun⟩⟩

/-! ### A datagram that is lost -/

/-- The bytes of a UDP datagram with one byte of payload, from 10.0.0.1:4660 to 10.0.0.2:53. -/
def datagramBytes4 : List UInt8 :=
  [0x45, 0, 0, 29, 0, 0, 0, 0, 64, 17, 0, 0, 10, 0, 0, 1, 10, 0, 0, 2] ++
    [0x12, 0x34, 0, 53, 0, 9, 0, 0] ++ [0x61]

/-- What `parse` makes of them. -/
def datagramPacket4 : Ipv4Packet where
  raw := datagramBytes4
  ipv4HeaderData := .ofRaw datagramBytes4
  transportHeaderData := some (.udp (.ofRaw (datagramBytes4.drop 20)))

/-- Its flow. -/
def datagramId4 : ConnectionId where
  protocol := .udp
  source := .v4 0x0a000001 4660
  destination := .v4 0x0a000002 53

theorem datagram4_front :
    packets.front datagramBytes4 = .item (.routed (.ipv4 datagramPacket4)) datagramBytes4.length :=
  rfl

/-- The first datagram of a queue, and the block it is in. -/
theorem datagram4_read : ∃ queue,
    (DatagramBuffer.new (4 * maxPacketLength)).readFrom [0x61] = .ok (.ok (), queue) ∧
      queue.isEmpty = false ∧ queue.tail = 0 ∧
      DatagramBuffer.Blocks (4 * maxPacketLength + 1) queue.buf queue.tail [[0x61]] queue.head := by
  obtain ⟨queue, read, buf, tail, head⟩ := @DatagramBuffer.readFrom_ok (4 * maxPacketLength)
    (.new _) [0x61] (by decide) (by decide) (by decide)
  have head : queue.head = 0 + 2 + 1 := head
  have tail : queue.tail = 0 := tail
  refine ⟨queue, read, ?_, tail, ?_⟩
  · rw [DatagramBuffer.isEmpty, head, tail]
    rfl
  · rw [buf, tail, head]
    refine DatagramBuffer.blocks_splice (by decide) (by decide) ?_
    rw [DatagramBuffer.length_buf]
    decide

/-- A queue that was empty makes the connection wait for its socket. -/
theorem datagram4_queued {c : UdpContext} {queue : DatagramBuffer (4 * maxPacketLength)}
    (read : c.conn.clientToNetwork.readFrom [0x61] = .ok (.ok (), queue))
    (stored : queue.isEmpty = false) (interests : c.conn.interests = .readable)
    (registered : c.selector.registered (.connection c.conn.handle) ≠ none) :
    c.sendToNetwork (.ipv4 datagramPacket4) = .ok
      { c with
        conn := { c.conn with
          clientToNetwork := queue
          interests := Ready.readable.union .writable }
        selector := c.selector.register (.connection c.conn.handle)
          (Ready.readable.union .writable) } := by
  have payload : datagramPacket4.payload = .ok (some [0x61]) := rfl
  have wanted : (c.withQueue queue).conn.wanted = Ready.readable.union .writable := by
    show (if queue.isEmpty then Ready.readable else Ready.readable.union .writable) = _
    rw [stored]
    rfl
  rw [UdpContext.sendToNetwork, payload, ok_bind]
  simp only [read, ok_bind]
  rw [UdpContext.updateInterests, wanted, if_pos (by
    show c.conn.interests ≠ _
    rw [interests]
    decide)]
  exact bind_eq_ok.mpr ⟨_, Selector.reregister_eq_ok.mpr ⟨registered, rfl⟩, rfl⟩

/-- The packet opens a flow, and is its first datagram. -/
theorem queued_sendToNetwork {p : Packetizer} {ipv4Header : Ipv4Header}
    {transportHeader : TransportHeader} {packet : Ipv4Packet} {id : ConnectionId}
    {c : ClientContext} {f : UdpContext} (answers : PacketAnswers)
    (headers : packet.headers = .ok (ipv4Header, some transportHeader))
    (made : Packetizer.new ipv4Header transportHeader = .ok p)
    (flow : ConnectionId.fromPacket (.ipv4 packet) = some id) (udp : id.protocol = .udp)
    (valid : packet.isValid = true) (unknown : c.connectionOf id = none)
    (opened : answers.opened = .ok ())
    (queued : UdpContext.sendToNetwork
      ⟨UdpConnection.initial c.created.length id p answers.now,
        c.client.insertConnection id c.created.length,
        c.selector.register (.connection c.created.length) .readable⟩ (.ipv4 packet) = .ok f)
    (isOpen : f.conn.closed = false) :
    Router.sendToNetwork c (.ipv4 packet) answers =
      .ok ((Router.insert c id (.udp (.initial c.created.length id p answers.now))
        (c.selector.register (.connection c.created.length) .readable)).leave f.asConnection) := by
  have created : Router.createConnection c id (.ipv4 packet) answers =
      .ok (.ok (.udp (.initial c.created.length id p answers.now),
        c.selector.register (.connection c.created.length) .readable)) := by
    refine bind_eq_ok.mpr ⟨_, headers, ?_⟩
    simp only [udp, UdpConnection.create, opened, made, ok_bind]
    rfl
  have valid' : Router.isValid (.ipv4 packet) = true := valid
  have stays : f.asConnection.conn.isClosed = false := isOpen
  rw [Router.sendToNetwork, flow]
  simp only [if_pos valid', Router.connectionFor, unknown, created, ok_bind]
  refine bind_eq_ok.mpr ⟨_, rfl, bind_eq_ok.mpr ⟨f.asConnection, ?_, ?_⟩⟩
  · exact bind_eq_ok.mpr ⟨f, queued, rfl⟩
  · rw [stays]
    rfl

/-- A datagram waits for its socket.  No connection was there before the last event. -/
theorem run_queued : ∃ t s conn, machine.Run t s ∧
    (∀ p ∈ t, p.1.created = [] ∧ ∀ events, p.2 = .poll events → ∃ event, events = [event]) ∧
    s.batch = [] ∧ s.created[0]? = some (.udp conn) ∧
    conn.closed = false ∧ conn.handle = 0 ∧ conn.clientToNetwork.isEmpty = false ∧
    conn.clientToNetwork.tail = 0 ∧
    DatagramBuffer.Blocks (4 * maxPacketLength + 1) conn.clientToNetwork.buf
      conn.clientToNetwork.tail [[0x61]] conn.clientToNetwork.head ∧
    s.selector.registered (.connection 0) = some (Ready.readable.union .writable) := by
  let answers : PacketAnswers := ⟨0, false, 0, .ok (), .ok 0⟩
  obtain ⟨ipv4Header, transportHeader, p, headers, made⟩ : ∃ h t p,
      datagramPacket4.headers = .ok (h, some t) ∧ Packetizer.new h t = .ok p :=
    ⟨_, _, _, rfl, rfl⟩
  obtain ⟨queue, read, stored, tail, blocks⟩ := datagram4_read
  let conn : UdpConnection := .initial 0 datagramId4 p 0
  let c (buffer : IpPacketBuffer) : ClientContext := (ClientContext.identified 0).withInput buffer
  let f (buffer : IpPacketBuffer) : UdpContext :=
    ⟨conn, (c buffer).client.insertConnection datagramId4 0,
      (c buffer).selector.register (.connection 0) .readable⟩
  have queued (buffer : IpPacketBuffer) := datagram4_queued (c := f buffer) read stored rfl nofun
  have routes (buffer : IpPacketBuffer) := queued_sendToNetwork (c := c buffer) answers
    headers made rfl rfl rfl rfl rfl (queued buffer) rfl
  let first : EventAnswers := ⟨⟨.ok none, .ok 4, .ok []⟩, 0, fun _ => answers⟩
  let second : EventAnswers := ⟨⟨.ok none, .ok 0, .ok datagramBytes4⟩, 0, fun _ => answers⟩
  have start : machine.Run [] (create 0) := .start ⟨0, rfl⟩
  have writable : (create 0).selector.registered .client = some .writable := rfl
  have identified := run_event start rfl writable (Ready.within_refl _)
    (ClientContext.onReady_sendsId 0 first rfl)
  have readable : (ClientContext.identified 0).selector.registered .client = some .readable := rfl
  have received : second.socket.read = .ok datagramBytes4 := rfl
  obtain ⟨buffer, buffer', -, handled⟩ := ClientContext.onReady_receives
    (c := ClientContext.identified 0) rfl rfl (by decide) datagram4_front received routes
    (fun _ => ⟨rfl, rfl⟩)
  refine ⟨_, _, _, run_event identified rfl readable (Ready.within_refl _) handled, ?_, rfl, rfl,
    rfl, rfl, stored, tail, blocks, rfl⟩
  have polls {source : Source} {ready : Ready} (events : List (Source × Ready))
      (same : Label.poll [(source, ready)] = .poll events) : ∃ event, events = [event] := by
    cases same
    exact ⟨_, rfl⟩
  intro p mem
  simp only [List.nil_append, List.mem_append, List.mem_singleton] at mem
  rcases mem with ((rfl | rfl) | rfl) | rfl
  · exact ⟨rfl, polls⟩
  · exact ⟨rfl, fun events same => by cases same⟩
  · exact ⟨rfl, polls⟩
  · exact ⟨rfl, fun events same => by cases same⟩

theorem updateInterests_returns {c : UdpContext}
    (registered : c.selector.registered (.connection c.conn.handle) ≠ none) :
    ∃ c', c.updateInterests = .ok c' := by
  unfold UdpContext.updateInterests
  split
  · exact ⟨_, bind_eq_ok.mpr ⟨_, Selector.reregister_eq_ok.mpr ⟨registered, rfl⟩, rfl⟩⟩
  · exact ⟨c, rfl⟩

/-- A writable event of a connection with a datagram returns. -/
theorem udpSend_returns {c : UdpContext} {answers : SocketAnswers} {now : Instant}
    {d : List UInt8} {ds : List (List UInt8)} {limit j : ℕ} (isOpen : c.conn.closed = false)
    (stored : c.conn.clientToNetwork.isEmpty = false)
    (blocks : DatagramBuffer.Blocks limit c.conn.clientToNetwork.buf c.conn.clientToNetwork.tail
      (d :: ds) j)
    (registered : c.selector.registered (.connection c.conn.handle) ≠ none) :
    ∃ c', c.onReady .writable answers now = .ok c' := by
  let touched : UdpContext := { c with conn := c.conn.touch now }
  obtain ⟨result, queue, popped, -⟩ := DatagramBuffer.writeTo_block stored blocks answers.write
  have half : ∃ f, touched.processSend answers.write = .ok f ∧
      (f.conn.closed = false → f.selector.registered (.connection f.conn.handle) ≠ none) := by
    cases result with
    | ok _ => exact ⟨touched.withQueue queue, bind_eq_ok.mpr ⟨_, popped, rfl⟩, fun _ => registered⟩
    | error err =>
        cases err with
        | wouldBlock =>
            exact ⟨touched.withQueue queue, bind_eq_ok.mpr ⟨_, popped, rfl⟩, fun _ => registered⟩
        | other => exact ⟨(touched.withQueue queue).close, bind_eq_ok.mpr ⟨_, popped, rfl⟩, nofun⟩
  obtain ⟨f, sent, registered'⟩ := half
  have updated : ∃ c', (if f.conn.closed then Except.ok f else f.updateInterests) = .ok c' := by
    cases closed : f.conn.closed with
    | true => exact ⟨f, rfl⟩
    | false => exact updateInterests_returns (registered' closed)
  obtain ⟨f', updated⟩ := updated
  have both : touched.processReady .writable answers = .ok (.ok (), f') := by
    refine bind_eq_ok.mpr ⟨f, sent, orReturn_eq_ok.mpr (.inl ⟨f, ?_, ?_⟩)⟩
    · exact if_neg fun h => absurd h.2 (by decide)
    · exact bind_eq_ok.mpr ⟨f', updated, rfl⟩
  have processed : c.process .writable answers now =
      .ok (.ok (), if f'.conn.closed then f'.removeFromRouter else f') := by
    refine (if_neg (by rw [isOpen]; exact Bool.false_ne_true)).trans ?_
    exact orReturn_eq_ok.mpr (.inl ⟨f', (if_pos (.inr rfl)).trans both, rfl⟩)
  exact ⟨_, bind_eq_ok.mpr ⟨_, processed, rfl⟩⟩

/-- **A datagram is lost** to a socket that would block.  That a socket was reported writable is no
promise. -/
theorem not_run_spurious_udpSend :
    ¬ ∀ t s s' source ready batch answers site before, machine.Run t s →
      Step s (.handle answers) s' → s.batch = (source, ready) :: batch →
      s.toClientContext.Blocks ready answers source site before →
      before.Harmless source s'.toClientContext := by
  intro all
  obtain ⟨t, s, conn, run, -, idle, place, isOpen, here, stored, -, blocks, registered⟩ := run_queued
  let answers : EventAnswers :=
    ⟨⟨.ok none, .error .wouldBlock, .ok []⟩, 0, fun _ => ⟨0, false, 0, .ok (), .ok 0⟩⟩
  obtain ⟨c', happened⟩ := @udpSend_returns ⟨conn, s.client, s.selector⟩ answers.socket 0
    [0x61] [] _ _ isOpen stored blocks (by rw [here, registered]; exact nofun)
  have handled : s.dispatch (.connection 0) .writable answers =
      .ok (s.leave c'.asConnection) := by
    simp only [ClientContext.dispatch, place]
    exact bind_eq_ok.mpr ⟨_, bind_eq_ok.mpr ⟨c', happened, rfl⟩, rfl⟩
  let polled : Relay := { s with batch := [(.connection 0, .writable)] }
  have step : Step s (.poll [(.connection 0, .writable)]) polled := by
    refine .poll idle fun event mem => ?_
    rw [List.mem_singleton.mp mem]
    exact ⟨_, registered, by decide⟩
  have harmless := all _ polled _ _ _ _ _ _ _ (run.step step) (.handle rfl handled) rfl
    (.udpSend place isOpen rfl rfl)
  exact (run_routed run).not_harmless place isOpen rfl rfl handled harmless

end Relay

end ReverseTether
