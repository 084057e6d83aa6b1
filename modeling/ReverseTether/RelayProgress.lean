import ReverseTether.DatagramLimits
import ReverseTether.Registrations
import ReverseTether.SpuriousEvents
import ReverseTether.TcpProgress

/-!
# What the loop can do next

A client at rest is open and up to date, has got its id, and has nothing left of what it
read.  From such a state a read can bring one packet, and a socket of a connection can be
served, and the client is at rest again.  Runs of the loop are put together from these
steps, as runs of one connection are from its events.

As for a single connection, the lemmas say that a run exists and not that every run is like
it.  They are used where a statement about all runs is to be shown to have content, and where
a run is to be exhibited in which something goes wrong: a full buffer, a packet that waits, a
socket that hangs up.

The sections go up from one event of the client, over one connection that it serves, to the
handshake of a flow and the exchange of data; each lemma gives the whole state of the relay
behind the step, so that the next one applies to it.
-/

namespace ReverseTether

open Library

/-! ## Events of a client, one after the other -/

/-- The bytes that the buffer takes of what a socket offers. -/
def IpPacketBuffer.takes (b : IpPacketBuffer) : IoResult (List UInt8) → List UInt8
  | .ok offered => offered.take b.free
  | .error _ => []

namespace ClientContext

/-- The event comes to read the socket. -/
def comesToRead (c : ClientContext) (ready : Ready) (answers : EventAnswers) : Bool :=
  !c.client.closed && ready.isReadable &&
    match c.writableHalf ready answers with
    | .ok (.ok (), c) => !c.client.closed
    | _ => false

/-- The bytes that the event takes from the socket. -/
def taken (c : ClientContext) (ready : Ready) (answers : EventAnswers) : List UInt8 :=
  if c.comesToRead ready answers then
    c.client.clientToNetwork.takes answers.socket.read
  else []

/-- The bytes that an event of one of the sockets takes from the client. -/
def takenBy (c : ClientContext) (source : Source) (ready : Ready) (answers : EventAnswers) :
    List UInt8 :=
  match source with
  | .client => c.taken ready answers
  | .connection _ => []

/-- Events lead from a client to another, each polled for itself, and take `bytes` from the
socket of the client, which stays open.  Nothing is said of the machine that polls them. -/
inductive Goes (c : ClientContext) : List UInt8 → ClientContext → Prop
  | refl : Goes c [] c
  | event {bytes : List UInt8} {c₁ c₂ : ClientContext} {source : Source} {ready interest : Ready}
      {answers : EventAnswers} : Goes c bytes c₁ →
      c₁.selector.registered source = some interest → ready.Within interest →
      ¬ (ready.isReadable = true ∧ ready.isWritable = true) →
      c₁.dispatch source ready answers = .ok c₂ → c₂.client.closed = false →
      Goes c (bytes ++ c₁.takenBy source ready answers) c₂

theorem Goes.trans {c c₁ c' : ClientContext} {bytes bytes' : List UInt8} (first : c.Goes bytes c₁)
    (second : c₁.Goes bytes' c') : c.Goes (bytes ++ bytes') c' := by
  induction second with
  | refl =>
      rw [List.append_nil]
      exact first
  | event _ known within one handled isOpen ih =>
      rw [← List.append_assoc]
      exact ih.event known within one handled isOpen

/-! ## Clients that are served -/

/-- The client is open and up to date, and has got its id. -/
structure Serving (c : ClientContext) : Prop where
  settled : c.Settled
  identified : c.client.mustSendId = false
  registered : c.selector.registered .client = some c.client.interests

/-- The client is served, and it also has nothing left of what it read. -/
structure AtRest (c : ClientContext) : Prop extends Serving c where
  input : c.client.clientToNetwork.peek = []

/-- Bytes may have been appended for the client, and its input is the same. -/
structure Feeds (c c' : ClientContext) : Prop where
  output : c.client.networkToClient.contents <+: c'.client.networkToClient.contents
  appended : c.client.appended <+: c'.client.appended
  input : c'.client.clientToNetwork = c.client.clientToNetwork

variable {c c₁ c' : ClientContext}

theorem Feeds.trans (first : c.Feeds c₁) (second : c₁.Feeds c') : c.Feeds c' :=
  ⟨first.output.trans second.output, first.appended.trans second.appended,
    second.input.trans first.input⟩

/-- The client goes on, and has got no less than before: what is sent and what waits for it is
behind what there was. -/
structure Onward (c : ClientContext) (bytes : List UInt8) (c' : ClientContext) : Prop where
  goes : c.Goes bytes c'
  output : c.client.networkToClient.contents <+: c'.client.networkToClient.contents
  appended : c.client.appended <+: c'.client.appended

theorem Onward.trans {bytes bytes' : List UInt8} (first : c.Onward bytes c₁)
    (second : c₁.Onward bytes' c') : c.Onward (bytes ++ bytes') c' :=
  ⟨first.goes.trans second.goes, first.output.trans second.output,
    first.appended.trans second.appended⟩

theorem Serving.congr {client : Client} (serving : c.Serving) (closed : client.closed = c.client.closed)
    (interests : client.interests = c.client.interests)
    (stream : client.networkToClient = c.client.networkToClient)
    (pending : client.pendingIdBytes = c.client.pendingIdBytes) :
    ({ c with client } : ClientContext).Serving where
  settled := by
    refine ⟨closed.trans serving.settled.1, ?_⟩
    show client.interests = client.wanted
    rw [interests, serving.settled.2, Client.wanted, Client.wanted, stream]
  identified := by
    have identified := serving.identified
    unfold Client.mustSendId at identified ⊢
    rw [pending]
    exact identified
  registered := by
    show c.selector.registered .client = some client.interests
    rw [interests]
    exact serving.registered

theorem Serving.withInput (serving : c.Serving) (buffer : IpPacketBuffer) :
    (c.withInput buffer).Serving := serving.congr rfl rfl rfl rfl

/-- A call of a connection. -/
theorem Serving.acts (serving : c.Serving) {conn : Connection} {call : ConnectionCall}
    {f : ConnectionContext} (executes : (c.enter conn).Executes call f) :
    (c.leave f.removeIfClosed).Serving ∧ c.Feeds (c.leave f.removeIfClosed) := by
  have registers := executes.registers
  have serves := executes.client
  obtain ⟨blocks, appended, contents⟩ := serves.stream
  have left : (c.leave f).Serving := by
    refine ⟨⟨serves.closed.trans serving.settled.1, registers.settled serving.settled.2⟩, ?_,
      registers.client serving.registered⟩
    have identified := serving.identified
    unfold Client.mustSendId at identified ⊢
    rw [show (c.leave f).client.pendingIdBytes = c.client.pendingIdBytes from serves.pendingIdBytes]
    exact identified
  have fed : c.client.networkToClient.contents <+: f.client.networkToClient.contents :=
    contents ▸ List.prefix_append _ _
  have recorded : c.client.appended <+: f.client.appended := appended ▸ List.prefix_append _ _
  unfold ConnectionContext.removeIfClosed
  split
  · exact ⟨left.congr rfl rfl rfl rfl, fed, recorded, serves.clientToNetwork⟩
  · exact ⟨left, fed, recorded, serves.clientToNetwork⟩

theorem AtRest.acts (rest : c.AtRest) {conn : Connection} {call : ConnectionCall}
    {f : ConnectionContext} (executes : (c.enter conn).Executes call f) :
    (c.leave f.removeIfClosed).AtRest ∧ c.Feeds (c.leave f.removeIfClosed) := by
  obtain ⟨serving, feeds⟩ := rest.toServing.acts executes
  exact ⟨⟨serving, by rw [feeds.input, rest.input]⟩, feeds⟩

end ClientContext

/-! ## The router -/

namespace Router

variable {c c' : ClientContext} {id : ConnectionId} {packet : IpPacket} {answers : PacketAnswers}

/-- **What becomes of a packet**: it is dropped, or one connection gets it, which is known or new.
A new one is inserted first, so that in both cases it is a call of a connection that the router
knows. -/
theorem sendToNetwork_executes (routed : c.Routed)
    (h : sendToNetwork c packet answers = .ok c') :
    c' = c ∨ ∃ c₁ conn f, (c₁ = c ∨ ∃ id selector,
        createConnection c id packet answers = .ok (.ok (conn, selector)) ∧
          c₁ = insert c id conn selector) ∧
      (c₁.enter conn).Executes (.packet packet answers) f ∧ c' = c₁.leave f.removeIfClosed := by
  unfold sendToNetwork at h
  split at h
  · exact .inl (Except.ok.inj h).symm
  split at h
  · obtain ⟨found, lookup, h⟩ := bind_eq_ok.mp h
    cases found with
    | error _ => exact .inl (Except.ok.inj h).symm
    | ok found =>
        obtain ⟨conn, c₁⟩ := found
        rcases connectionFor_ok lookup with ⟨known, rfl⟩ | ⟨-, selector, created, rfl⟩
        · obtain ⟨handle, -, same, isOpen⟩ := routed.connectionOf_some known
          obtain ⟨f, executes, left⟩ := deliver_ok same isOpen h
          exact .inr ⟨c₁, conn, f, .inl rfl, executes, left⟩
        · obtain ⟨-, same, isOpen, -⟩ := createConnection_ok created
          obtain ⟨f, executes, left⟩ := deliver_ok same isOpen h
          exact .inr ⟨_, conn, f, .inr ⟨_, selector, created, rfl⟩, executes, left⟩
  · exact .inl (Except.ok.inj h).symm

theorem sendToNetwork_serving (routed : c.Routed) (serving : c.Serving)
    (h : sendToNetwork c packet answers = .ok c') : c'.Serving ∧ c.Feeds c' := by
  rcases sendToNetwork_executes routed h with rfl | ⟨c₁, conn, f, found, executes, rfl⟩
  · exact ⟨serving, List.prefix_refl _, List.prefix_refl _, rfl⟩
  have inserted : c₁.Serving ∧ c.Feeds c₁ := by
    rcases found with rfl | ⟨id, selector, created, rfl⟩
    · exact ⟨serving, List.prefix_refl _, List.prefix_refl _, rfl⟩
    · obtain ⟨-, -, -, interest, rfl⟩ := createConnection_ok created
      refine ⟨⟨serving.settled, serving.identified, ?_⟩, List.prefix_refl _, List.prefix_refl _, rfl⟩
      refine (Selector.registered_register _ _ _ _).trans (.trans (if_neg (by simp)) ?_)
      exact serving.registered
  obtain ⟨serving', feeds⟩ := inserted.1.acts executes
  exact ⟨serving', inserted.2.trans feeds⟩

/-- A packet of a known flow, which leaves its connection open. -/
theorem sendToNetwork_known {handle : Handle} {conn : Connection} {f : ConnectionContext}
    (routed : c.Routed) (flow : ConnectionId.fromPacket packet = some conn.id)
    (valid : isValid packet = true) (place : c.created[handle]? = some conn)
    (isOpen : conn.isClosed = false) (sent : (c.enter conn).sendToNetwork packet answers = .ok f)
    (stays : f.conn.isClosed = false) : sendToNetwork c packet answers = .ok (c.leave f) := by
  have mem : (conn.id, handle) ∈ c.client.connections :=
    (routed.routes _ _).mpr ⟨conn, place, rfl, isOpen⟩
  have known : c.connectionOf conn.id = some conn := by
    rw [ClientContext.connectionOf, routed.route_eq mem]
    exact place
  rw [sendToNetwork, flow]
  simp only [if_pos valid, connectionFor, known, ok_bind]
  refine bind_eq_ok.mpr ⟨f, sent, ?_⟩
  rw [if_neg (by rw [stays]; exact Bool.false_ne_true)]
  rfl

/-- The first packet of a flow. -/
theorem sendToNetwork_new {conn : Connection} {selector : Selector} {f : ConnectionContext}
    (flow : ConnectionId.fromPacket packet = some id) (valid : isValid packet = true)
    (unknown : c.connectionOf id = none)
    (created : createConnection c id packet answers = .ok (.ok (conn, selector)))
    (sent : ((insert c id conn selector).enter conn).sendToNetwork packet answers = .ok f)
    (stays : f.conn.isClosed = false) :
    sendToNetwork c packet answers = .ok ((insert c id conn selector).leave f) := by
  rw [sendToNetwork, flow]
  simp only [if_pos valid, connectionFor, unknown, created, ok_bind]
  refine bind_eq_ok.mpr ⟨_, rfl, bind_eq_ok.mpr ⟨f, sent, ?_⟩⟩
  rw [if_neg (by rw [stays]; exact Bool.false_ne_true)]
  rfl

end Router

/-! ## Datagrams of the host -/

/-- A datagram that fits in a packet makes one. -/
theorem Packetizer.WellFormed.packetize {p : Packetizer} (wf : p.WellFormed) {data : List UInt8}
    (fits : p.payloadIndex + data.length < 65536) :
    ∃ packet p', p.packetize (.ok data) = .ok (.ok packet, p') ∧ p'.WellFormed ∧
      p'.payloadIndex = p.payloadIndex ∧ packet.raw.length = p.payloadIndex + data.length := by
  have all := Packetizer.length_payload wf
  have whole : data.take p.payload.length = data := List.take_of_length_le (by omega)
  obtain ⟨wf', front⟩ := wf.receive (show data.length ≤ p.payload.length by omega)
  obtain ⟨packet, p', built, made⟩ := wf'.build_take (show p.payloadIndex + _ < _ from fits) front
  refine ⟨packet, p', ?_, made.wellFormed, made.payloadIndex, made.length_raw⟩
  rw [Packetizer.packetize]
  simp only
  rw [whole, built]
  rfl

/-- **A datagram is read**, and its packet is for the client, if there is room.  The packet has the
headers of the flow and the datagram behind them, and its length is known before it is built. -/
theorem UdpContext.onReady_reads {c : UdpContext} {answers : SocketAnswers} {now : Instant}
    {data : List UInt8} (isOpen : c.conn.closed = false) (wf : c.conn.networkToClient.WellFormed)
    (fits : c.conn.networkToClient.payloadIndex + data.length < 65536)
    (clientKnown : c.selector.registered .client ≠ none)
    (known : c.selector.registered (.connection c.conn.handle) ≠ none)
    (answer : answers.read = .ok data) :
    ∃ c' packet, c.onReady .readable answers now = .ok c' ∧ c'.conn.handle = c.conn.handle ∧
      c'.conn.id = c.conn.id ∧ c'.conn.closed = false ∧ c'.conn.interests = c'.conn.wanted ∧
      c.conn.networkToClient.packetize (.ok data) = .ok (.ok packet, c'.conn.networkToClient) ∧
      c'.conn.networkToClient.WellFormed ∧
      c'.conn.networkToClient.payloadIndex = c.conn.networkToClient.payloadIndex ∧
      packet.raw.length = c.conn.networkToClient.payloadIndex + data.length ∧
      (packet.raw.length ≤ c.client.networkToClient.remaining →
        c'.client.networkToClient.contents = c.client.networkToClient.contents ++ packet.raw ∧
          c'.client.appended = c.client.appended ++ [packet.raw]) := by
  obtain ⟨packet, p', packetized, wf', index, length⟩ := wf.packetize fits
  obtain ⟨sent, client, selector, offered, -, keeps, room⟩ :=
    c.client.sendRawToClient_returns packet.raw clientKnown
  let read : UdpContext := ⟨{ c.conn.touch now with networkToClient := p' }, client, selector⟩
  have received : UdpContext.processReceive { c with conn := c.conn.touch now } answers.read =
      .ok (.ok (), read) := by
    rw [answer]
    refine bind_eq_ok.mpr ⟨(.ok (), read), bind_eq_ok.mpr ⟨_, packetized, ?_⟩, rfl⟩
    exact bind_eq_ok.mpr ⟨_, offered, rfl⟩
  have updated : ∃ c', read.updateInterests = .ok c' ∧ c'.client = client ∧
      c'.conn = { read.conn with interests := read.conn.wanted } := by
    unfold UdpContext.updateInterests
    split
    · exact ⟨_, bind_eq_ok.mpr ⟨_, Selector.reregister_eq_ok.mpr ⟨keeps _ known, rfl⟩, rfl⟩, rfl, rfl⟩
    · rename_i same
      refine ⟨read, rfl, rfl, ?_⟩
      rw [← not_not.mp same]
  obtain ⟨c', updated, client', conn'⟩ := updated
  have stays : c'.conn.closed = false := by
    rw [conn']
    exact isOpen
  have both : UdpContext.processReady { c with conn := c.conn.touch now } .readable answers =
      .ok (.ok (), c') := by
    refine bind_eq_ok.mpr ⟨{ c with conn := c.conn.touch now }, rfl,
      orReturn_eq_ok.mpr (.inl ⟨read, (if_pos ⟨isOpen, rfl⟩).trans received, ?_⟩)⟩
    refine bind_eq_ok.mpr ⟨c', ?_, rfl⟩
    exact (if_neg (by rw [show read.conn.closed = false from isOpen]; exact Bool.false_ne_true)).trans
      updated
  have processed : c.process .readable answers now = .ok (.ok (), c') := by
    refine (if_neg (by rw [isOpen]; exact Bool.false_ne_true)).trans ?_
    refine orReturn_eq_ok.mpr (.inl ⟨c', (if_pos (.inl rfl)).trans both, ?_⟩)
    rw [if_neg (by rw [stays]; exact Bool.false_ne_true)]
  refine ⟨c', packet, bind_eq_ok.mpr ⟨_, processed, rfl⟩, by rw [conn']; rfl, by rw [conn']; rfl, stays,
    ?_, ?_, ?_, ?_, length, fun fits => ?_⟩
  · rw [conn']
    rfl
  · rw [conn']
    exact packetized
  · rw [conn']
    exact wf'
  · rw [conn']
    exact index
  · rw [client']
    rcases room with ⟨-, rfl⟩ | ⟨full, -⟩
    · obtain ⟨-, -, -, ⟨-, -, appends⟩ | ⟨wrong, -⟩⟩ := Client.sendRawToClient_ok offered
      · exact appends
      · cases wrong
    · omega

/-! ## Steps of a run -/

/-- A client that is up to date wants to read. -/
theorem Client.readable_within_wanted (client : Client) : Ready.readable.Within client.wanted := by
  unfold wanted
  split <;> decide

/-- A buffer in which nothing is left has room for any packet. -/
theorem ClientContext.AtRest.taken_readable {c : ClientContext} {raw : List UInt8}
    {answers : EventAnswers} (rest : c.AtRest) (fits : raw.length ≤ maxIpPacketLength)
    (read : answers.socket.read = .ok raw) : c.taken .readable answers = raw := by
  have comes : c.comesToRead .readable answers = true := by
    have half : c.writableHalf .readable answers = .ok (.ok (), c) := rfl
    rw [comesToRead, half]
    show (!c.client.closed && true && !c.client.closed) = true
    rw [rest.settled.1]
    rfl
  have head : c.client.clientToNetwork.buf.head = 0 := by
    rw [← ByteBuffer.length_peek]
    exact List.length_eq_zero_iff.mpr rest.input
  rw [taken, if_pos comes, read]
  show raw.take (maxIpPacketLength - c.client.clientToNetwork.buf.head) = raw
  rw [head]
  exact List.take_of_length_le fits

/-- **A read brings one packet**, whatever the buffer does with its bytes.  The buffer moves its
bytes to the front when it has to, and where they are is not seen in what it holds. -/
theorem ClientContext.AtRest.receives {c : ClientContext} {raw : List UInt8} {packet : IpPacket}
    {answers : EventAnswers} (rest : c.AtRest) (routed : c.Routed)
    (fits : raw.length ≤ maxIpPacketLength)
    (front : packets.front raw = .item (.routed packet) raw.length)
    (read : answers.socket.read = .ok raw)
    (routes : ∀ buffer, ∃ c', Router.sendToNetwork (c.withInput buffer) packet
      (answers.packets 0) = .ok c') :
    ∃ buffer buffer' c',
      Router.sendToNetwork (c.withInput buffer) packet (answers.packets 0) = .ok c' ∧
      c.onReady .readable answers = .ok (c'.withInput buffer') ∧ (c'.withInput buffer').AtRest ∧
      c.Onward raw (c'.withInput buffer') := by
  choose after sent using routes
  have routed' (buffer : IpPacketBuffer) : (c.withInput buffer).Routed := routed.congr rfl rfl
  have served (buffer : IpPacketBuffer) := Router.sendToNetwork_serving (routed' buffer)
    (rest.toServing.withInput buffer) (sent buffer)
  obtain ⟨buffer, buffer', left, handled⟩ := onReady_receives rest.settled.1 rest.input fits front
    read sent fun buffer => (served buffer).1.settled
  have within : Ready.readable.Within c.client.interests :=
    rest.settled.2 ▸ c.client.readable_within_wanted
  have goes : c.Goes ([] ++ c.takenBy .client .readable answers) _ :=
    Goes.refl.event rest.registered within (by decide) handled (served buffer).1.settled.1
  rw [List.nil_append, show c.takenBy .client .readable answers = raw from
    rest.taken_readable fits read] at goes
  refine ⟨buffer, buffer', after buffer, sent buffer, handled, ⟨?_, left⟩, goes, ?_, ?_⟩
  · exact (served buffer).1.withInput buffer'
  · exact (served buffer).2.output
  · exact (served buffer).2.appended

namespace Relay

variable {t : List (Relay × Label)} {s : Relay}

/-- A client with one connection. -/
theorem place_of_only {conn conn' : Connection} {handle : Handle} (created : s.created = [conn])
    (place : s.created[handle]? = some conn') : handle = 0 ∧ conn' = conn := by
  rw [created, List.getElem?_singleton] at place
  split at place
  · exact ⟨‹_›, (Option.some.inj place).symm⟩
  · cases place

/-- Each batch is one event, which does not ask for both halves. -/
def Solo (s : Relay) : Label → Prop
  | .poll events => ∃ event, events = [event]
  | .handle _ => ∃ (source : Source) (ready : Ready), s.batch = [(source, ready)] ∧
      ¬ (ready.isReadable = true ∧ ready.isWritable = true)
  | _ => True

/-- A run that takes one event at a time, so that no event finds what another of its batch has
changed. -/
structure SoloRun (t : List (Relay × Label)) (s : Relay) : Prop where
  run : machine.Run t s
  solo : Machine.Meets Solo t

theorem SoloRun.event {source : Source} {ready interest : Ready} {answers : EventAnswers}
    {c : ClientContext} (run : SoloRun t s) (idle : s.batch = [])
    (known : s.selector.registered source = some interest) (within : ready.Within interest)
    (one : ¬ (ready.isReadable = true ∧ ready.isWritable = true))
    (handled : s.dispatch source ready answers = .ok c) :
    SoloRun (t ++ [(s, .poll [(source, ready)])] ++
        [({ s with batch := [(source, ready)] }, .handle answers)])
      { s with toClientContext := c, batch := [] } where
  run := run_event run.run idle known within handled
  solo := by
    simp only [Machine.meets_append, Machine.meets_singleton]
    exact ⟨⟨run.solo, _, rfl⟩, source, ready, rfl, one⟩

/-- The client gets its id. -/
theorem run_identified (id : UInt32) : ∃ t s, SoloRun t s ∧ s.batch = [] ∧ s.AtRest ∧
    s.toClientContext = .identified id := by
  let answers : EventAnswers :=
    ⟨⟨.ok none, .ok 4, .ok []⟩, 0, fun _ => ⟨0, false, 0, .ok (), .ok 0⟩⟩
  have start : SoloRun [] (create id) := ⟨.start ⟨id, rfl⟩, Machine.meets_nil _⟩
  have writable : (create id).selector.registered .client = some .writable := rfl
  exact ⟨_, _, start.event rfl writable (Ready.within_refl _) (by decide)
    (ClientContext.onReady_sendsId id answers rfl), rfl, ⟨⟨⟨rfl, rfl⟩, rfl, rfl⟩, rfl⟩, rfl⟩

/-- One packet comes. -/
theorem run_packet {raw : List UInt8} {packet : IpPacket} {answers : PacketAnswers}
    (run : SoloRun t s) (idle : s.batch = []) (rest : s.AtRest)
    (fits : raw.length ≤ maxIpPacketLength)
    (front : packets.front raw = .item (.routed packet) raw.length)
    (routes : ∀ buffer, ∃ c', Router.sendToNetwork (s.withInput buffer) packet answers = .ok c') :
    ∃ t' s' buffer c' buffer', SoloRun t' s' ∧ s'.batch = [] ∧ s'.AtRest ∧
      s.Onward raw s'.toClientContext ∧
      Router.sendToNetwork (s.withInput buffer) packet answers = .ok c' ∧
      s'.toClientContext = c'.withInput buffer' := by
  let event : EventAnswers := ⟨⟨.ok none, .ok 0, .ok raw⟩, 0, fun _ => answers⟩
  have read : event.socket.read = .ok raw := rfl
  obtain ⟨buffer, buffer', c', sent, handled, rest', onward⟩ :=
    rest.receives (run_routed run.run) fits front read routes
  have within : Ready.readable.Within s.client.interests :=
    rest.settled.2 ▸ s.client.readable_within_wanted
  exact ⟨_, _, buffer, c', buffer', run.event idle rest.registered within (by decide) handled, rfl, rest',
    onward, sent, rfl⟩

/-- One event of an open connection comes. -/
theorem run_ready {handle : Handle} {conn : Connection} {ready : Ready} {answers : EventAnswers}
    {f : ConnectionContext} (run : SoloRun t s) (idle : s.batch = []) (rest : s.AtRest)
    (place : s.created[handle]? = some conn) (isOpen : conn.isClosed = false)
    (within : ready.Within conn.interests)
    (one : ¬ (ready.isReadable = true ∧ ready.isWritable = true))
    (happened : (s.enter conn).onReady ready answers.socket answers.now = .ok f) :
    ∃ t' s', SoloRun t' s' ∧ s'.batch = [] ∧ s'.AtRest ∧ s.Onward [] s'.toClientContext ∧
      s'.toClientContext = s.leave f := by
  have routed := run_routed run.run
  have known : s.selector.registered (.connection handle) = some conn.interests := by
    rw [← routed.places _ _ place]
    exact run_noted run.run _ _ place isOpen
  have handled : s.dispatch (.connection handle) ready answers = .ok (s.leave f) := by
    simp only [ClientContext.dispatch, place]
    exact bind_eq_ok.mpr ⟨f, happened, rfl⟩
  have left : (s.leave f).AtRest ∧ s.toClientContext.Feeds (s.leave f) := by
    rcases ClientContext.dispatch_connection routed place handled with ⟨closed, -⟩ |
      ⟨-, f', executes, same, -⟩
    · exact absurd (isOpen.symm.trans closed) (by simp)
    · rw [same]
      exact rest.acts executes
  have goes : s.Goes ([] ++ s.takenBy (.connection handle) ready answers) (s.leave f) :=
    ClientContext.Goes.refl.event known within one handled left.1.settled.1
  exact ⟨_, _, run.event idle known within one handled, rfl, left.1,
    ⟨goes, left.2.output, left.2.appended⟩, rfl⟩

/-- An open TCP connection can go on. -/
theorem usable (run : SoloRun t s) (rest : s.AtRest) {handle : Handle} {conn : TcpConnection}
    (place : s.created[handle]? = some (.tcp conn)) (isOpen : conn.closed = false)
    (forTcp : conn.networkToClient.ForTcp) (client : Client) :
    (⟨conn, client, s.selector⟩ : TcpContext).Usable where
  isOpen := isOpen
  forTcp := forTcp
  clientKnown := by
    show s.selector.registered .client ≠ none
    rw [rest.registered]
    exact Option.some_ne_none _
  known := by
    have noted := run_noted run.run _ _ place isOpen
    have known : s.selector.registered (.connection conn.handle) = some conn.interests := noted
    show s.selector.registered (.connection conn.handle) ≠ none
    rw [known]
    exact Option.some_ne_none _

/-- What a segment of a known TCP flow makes of its connection, which it leaves open. -/
theorem sendToNetwork_segment {P : TcpConnection → Prop} {packet : Ipv4Packet}
    {answers : PacketAnswers} {handle : Handle} {conn : TcpConnection} (routed : s.Routed)
    (flow : ConnectionId.fromPacket (.ipv4 packet) = some conn.id) (valid : packet.isValid = true)
    (place : s.created[handle]? = some (.tcp conn)) (isOpen : conn.closed = false)
    (heard : ∀ client, ∃ c : TcpContext, TcpContext.sendToNetwork ⟨conn, client, s.selector⟩
      (.ipv4 packet) answers.random answers.overflowChecks answers.now = .ok c ∧ P c.conn)
    (stays : ∀ conn', P conn' → conn'.handle = conn.handle ∧ conn'.closed = false)
    (buffer : IpPacketBuffer) :
    ∃ c', Router.sendToNetwork (s.withInput buffer) (.ipv4 packet) answers = .ok c' ∧
      ∃ conn', P conn' ∧ c'.created = s.created.set handle (.tcp conn') := by
  obtain ⟨c, sent, holds⟩ := heard (s.withInput buffer).client
  obtain ⟨same, stays⟩ := stays c.conn holds
  have routed' : (s.withInput buffer).Routed := routed.congr rfl rfl
  have flow' : ConnectionId.fromPacket (.ipv4 packet) = some (Connection.tcp conn).id := flow
  refine ⟨_, Router.sendToNetwork_known routed' flow' valid place isOpen
    (bind_eq_ok.mpr ⟨c, sent, rfl⟩) stays, c.conn, holds, ?_⟩
  have here : conn.handle = handle := routed.places _ _ place
  rw [← here, ← same]
  rfl

/-- A segment of a known TCP flow comes, and leaves its connection open. -/
theorem run_segment {P : TcpConnection → Prop} {raw : List UInt8} {packet : Ipv4Packet}
    {answers : PacketAnswers} {handle : Handle} {conn : TcpConnection} (run : SoloRun t s)
    (idle : s.batch = []) (rest : s.AtRest) (fits : raw.length ≤ maxIpPacketLength)
    (front : packets.front raw = .item (.routed (.ipv4 packet)) raw.length)
    (flow : ConnectionId.fromPacket (.ipv4 packet) = some conn.id) (valid : packet.isValid = true)
    (place : s.created[handle]? = some (.tcp conn)) (isOpen : conn.closed = false)
    (heard : ∀ client, ∃ c : TcpContext, TcpContext.sendToNetwork ⟨conn, client, s.selector⟩
      (.ipv4 packet) answers.random answers.overflowChecks answers.now = .ok c ∧ P c.conn)
    (stays : ∀ conn', P conn' → conn'.handle = conn.handle ∧ conn'.closed = false) :
    ∃ t' s' conn', SoloRun t' s' ∧ s'.batch = [] ∧ s'.AtRest ∧ s.Onward raw s'.toClientContext ∧
      P conn' ∧
      s'.created = s.created.set handle (.tcp conn') := by
  have sends := sendToNetwork_segment (run_routed run.run) flow valid place isOpen heard stays
  obtain ⟨t', s', buffer, c', buffer', run', idle', rest', onward, sent, left⟩ :=
    run_packet run idle rest fits front fun buffer => ⟨_, (sends buffer).choose_spec.1⟩
  obtain ⟨c, sent', conn', holds, created⟩ := sends buffer
  cases sent.symm.trans sent'
  refine ⟨t', s', conn', run', idle', rest', onward, holds, ?_⟩
  rw [left]
  exact created

/-- The flow of `segmentBytes`. -/
def segmentId : ConnectionId where
  protocol := .tcp
  source := .v4 0x0a000002 4660
  destination := .v4 0x0a000001 80

/-- **The SYN of a new flow.**  It creates the connection in SynSent, which waits for its socket
and has answered nothing. -/
theorem run_syn (run : SoloRun t s) (idle : s.batch = []) (rest : s.AtRest)
    (unknown : s.connectionOf segmentId = none) :
    ∃ t' s' p, SoloRun t' s' ∧ s'.batch = [] ∧ s'.AtRest ∧
      s.Onward (segmentBytes 0 0 2 []) s'.toClientContext ∧
      Packetizer.ForTcp p ∧ s'.created = s.created ++ [.tcp
        { TcpConnection.initial s.created.length segmentId p 0 with
          trace := [TcpAction.opened 0]
          tcb := { Tcb.new with
            state := .synSent
            acknowledgementNumber := 1
            clientWindow := 65535 } }] := by
  obtain ⟨ipv4Header, transportHeader, p, headers, create⟩ : ∃ ipv4Header transportHeader p,
      (segmentPacket 0 0 2 []).headers = .ok (ipv4Header, some transportHeader) ∧
      ∀ selector handle now, TcpConnection.create selector handle segmentId ipv4Header
        transportHeader now (.ok ()) = .ok (.ok (.initial handle segmentId p now,
          selector.register (.connection handle) .writable)) :=
    ⟨_, _, _, rfl, fun _ _ _ => rfl⟩
  have forTcp : p.ForTcp := by
    have fresh : (TcpConnection.initial 0 segmentId p 0).Fresh :=
      ⟨segmentBytes 0 0 2 [], segmentPacket 0 0 2 [], segmentId, _, _, s.selector, _, 0, 0, rfl, rfl,
        headers, create s.selector 0 0⟩
    exact fresh.forTcp
  let answers : PacketAnswers := ⟨0, false, 0, .ok (), .ok 0⟩
  let conn : TcpConnection := .initial s.created.length segmentId p 0
  let selector := s.selector.register (.connection s.created.length) .writable
  have heard (client : Client) : ∃ c : TcpContext, TcpContext.sendToNetwork ⟨conn, client, selector⟩
      (.ipv4 (segmentPacket 0 0 2 [])) 0 false 0 = .ok c ∧
      c.conn = { conn with
        trace := [TcpAction.opened 0]
        tcb := { Tcb.new with
          state := .synSent
          acknowledgementNumber := 1
          clientWindow := 65535 } } := by
    have usable : (⟨conn, client, selector⟩ : TcpContext).Usable := by
      refine ⟨rfl, forTcp, ?_, ?_⟩
      · show selector.registered .client ≠ none
        rw [Selector.registered_register, if_neg (by simp), rest.registered]
        exact Option.some_ne_none _
      · show selector.registered (.connection s.created.length) ≠ none
        rw [Selector.registered_register, if_pos rfl]
        exact Option.some_ne_none _
    obtain ⟨c, opened, -, -, -, same⟩ := @TcpContext.Usable.openWith _ (segmentPacket 0 0 2 [])
      (segmentHeader 0 0 2) false usable 0 0 rfl rfl (by decide)
    exact ⟨c, opened, same⟩
  have sends (buffer : IpPacketBuffer) : ∃ c : TcpContext, c.conn = { conn with
        trace := [TcpAction.opened 0]
        tcb := { Tcb.new with
          state := .synSent
          acknowledgementNumber := 1
          clientWindow := 65535 } } ∧
      Router.sendToNetwork (s.withInput buffer) (.ipv4 (segmentPacket 0 0 2 [])) answers =
        .ok ((Router.insert (s.withInput buffer) segmentId (.tcp conn) selector).leave
          c.asConnection) := by
    obtain ⟨c, sent, conn'⟩ := heard (Router.insert (s.withInput buffer) segmentId (.tcp conn)
      selector).client
    have flow : ConnectionId.fromPacket (.ipv4 (segmentPacket 0 0 2 [])) = some segmentId := rfl
    refine ⟨c, conn', Router.sendToNetwork_new flow rfl unknown ?_ ?_ ?_⟩
    · refine bind_eq_ok.mpr ⟨_, headers, ?_⟩
      exact bind_eq_ok.mpr ⟨_, create s.selector s.created.length 0, rfl⟩
    · exact bind_eq_ok.mpr ⟨c, sent, rfl⟩
    · show c.conn.closed = false
      rw [conn']
      rfl
  have front : packets.front (segmentBytes 0 0 2 []) =
      .item (.routed (.ipv4 (segmentPacket 0 0 2 []))) (segmentBytes 0 0 2 []).length := rfl
  obtain ⟨t', s', buffer, c', buffer', run', idle', rest', onward, sent, left⟩ :=
    run_packet run idle rest (by decide) front fun buffer => ⟨_, (sends buffer).choose_spec.2⟩
  refine ⟨t', s', p, run', idle', rest', onward, forTcp, ?_⟩
  obtain ⟨c, conn', sent'⟩ := sends buffer
  have created : s'.created =
      List.set (s.created ++ [Connection.tcp conn]) c.conn.handle (.tcp c.conn) := by
    rw [left]
    cases sent.symm.trans sent'
    rfl
  rw [created, conn']
  show List.set (s.created ++ [Connection.tcp conn]) s.created.length (.tcp _) = _
  rw [List.set_append_right _ _ le_rfl, Nat.sub_self]
  rfl

/-- An event of an open TCP connection. -/
theorem run_tcp {ready : Ready} {answers : EventAnswers} {handle : Handle} {conn : TcpConnection}
    {c : TcpContext} (run : SoloRun t s) (idle : s.batch = []) (rest : s.AtRest)
    (place : s.created[handle]? = some (.tcp conn)) (isOpen : conn.closed = false)
    (within : ready.Within conn.interests)
    (one : ¬ (ready.isReadable = true ∧ ready.isWritable = true))
    (happened : TcpContext.onReady ⟨conn, s.client, s.selector⟩ ready answers.socket answers.now =
      .ok c) (same : c.conn.handle = conn.handle) :
    ∃ t' s', SoloRun t' s' ∧ s'.batch = [] ∧ s'.AtRest ∧ s.Onward [] s'.toClientContext ∧
      s'.created = s.created.set handle (.tcp c.conn) ∧
      s'.client = c.client := by
  have handled : (s.enter (.tcp conn)).onReady ready answers.socket answers.now =
      .ok c.asConnection := bind_eq_ok.mpr ⟨c, happened, rfl⟩
  obtain ⟨t', s', run', idle', rest', onward, left⟩ := run_ready run idle rest place isOpen within one handled
  refine ⟨t', s', run', idle', rest', onward, ?_, by rw [left]; rfl⟩
  have here : conn.handle = handle := (run_routed run.run).places _ _ place
  rw [left, ← here, ← same]
  rfl

/-- **The handshake of a new flow.**  The SYN, the event of the socket, and the ACK of the client;
the segments are those of `segmentBytes`, and the host accepts at once. -/
theorem run_established (run : SoloRun t s) (idle : s.batch = []) (rest : s.AtRest)
    (unknown : s.connectionOf segmentId = none) :
    ∃ t' s' conn, SoloRun t' s' ∧ s'.batch = [] ∧ s'.AtRest ∧
      s.Onward (segmentBytes 0 0 2 [] ++ segmentBytes 1 1 0x10 []) s'.toClientContext ∧
      s'.created = s.created ++ [.tcp conn] ∧ conn.networkToClient.ForTcp ∧
      ∃ p synAck, Segment.ofRaw synAck = ⟨0, 1, flagSyn ||| flagAck, []⟩ ∧
        conn = { TcpConnection.initial s.created.length segmentId p 0 with
          interests := .readable
          trace := [TcpAction.opened 0, TcpAction.forged synAck false]
          tcb := { Tcb.new with
            state := .established
            acknowledgementNumber := 1
            sequenceNumber := 1
            theirAcknowledgementNumber := 1
            clientWindow := 65535 } } := by
  obtain ⟨t₁, s₁, p, run₁, idle₁, rest₁, onward₁, forTcp, created₁⟩ := run_syn run idle rest unknown
  have last (conn : TcpConnection) : (s.created ++ [.tcp conn])[s.created.length]? =
      some (Connection.tcp conn) := by simp
  have place₁ := created₁ ▸ last _
  -- the socket is connected
  let connected : EventAnswers := ⟨⟨.ok none, .ok 0, .ok []⟩, 0, fun _ => ⟨0, false, 0, .ok (), .ok 0⟩⟩
  obtain ⟨c₂, p₂, synAck, happened₂, usable₂, -, answer, conn₂⟩ :=
    @TcpContext.Usable.connect ⟨_, s₁.client, s₁.selector⟩ 0 connected.socket
      (usable run₁ rest₁ place₁ rfl forTcp s₁.client) rfl rfl
  have within : Ready.writable.Within .writable := Ready.within_refl _
  obtain ⟨t₂, s₂, run₂, idle₂, rest₂, onward₂, created₂, -⟩ := run_tcp run₁ idle₁ rest₁ place₁ rfl
    within (by decide) happened₂ (by rw [conn₂]; rfl)
  rw [created₁, List.set_append_right _ _ le_rfl, Nat.sub_self, List.set_cons_zero] at created₂
  have place₂ := created₂ ▸ last _
  -- the client acknowledges
  have forTcp₂ := usable₂.forTcp
  let answers : PacketAnswers := ⟨0, false, 0, .ok (), .ok 0⟩
  let heard : TcpConnection := { c₂.conn.touch 0 with
    tcb := c₂.conn.tcb.hears (segmentHeader 1 1 0x10).data }
  have front : packets.front (segmentBytes 1 1 0x10 []) =
      .item (.routed (.ipv4 (segmentPacket 1 1 0x10 []))) (segmentBytes 1 1 0x10 []).length := rfl
  obtain ⟨t₃, s₃, _, run₃, idle₃, rest₃, onward₃, rfl, created₃⟩ := @run_segment t₂ s₂
    (· = heard.settled) _ _ answers s.created.length c₂.conn run₂ idle₂ rest₂ (by decide) front
    (by rw [conn₂]; rfl) rfl place₂ usable₂.isOpen
    (fun client => by
      obtain ⟨c, sent, -, -, -, conn⟩ := @TcpContext.Usable.hear ⟨c₂.conn, client, s₂.selector⟩ 0 0
        (segmentPacket 1 1 0x10 []) (segmentHeader 1 1 0x10)
        (usable run₂ rest₂ place₂ usable₂.isOpen forTcp₂ client) rfl (by rw [conn₂]; rintro ⟨⟩)
        (by decide) (by rw [conn₂]; rfl) (by decide) (by decide) (by decide) (by rw [conn₂]; rfl)
        (.inl (by rw [conn₂]; rfl))
      exact ⟨c, sent, conn⟩)
    (by rintro _ rfl; exact ⟨rfl, usable₂.isOpen⟩)
  rw [created₂, List.set_append_right _ _ le_rfl, Nat.sub_self, List.set_cons_zero] at created₃
  have onward := (onward₁.trans onward₂).trans onward₃
  rw [List.append_nil] at onward
  refine ⟨t₃, s₃, heard.settled, run₃, idle₃, rest₃, onward, created₃, forTcp₂, p₂, synAck, answer, ?_⟩
  have tcb : c₂.conn.tcb.hears (segmentHeader 1 1 0x10).data = { Tcb.new with
      state := .established
      acknowledgementNumber := 1
      sequenceNumber := 1
      theirAcknowledgementNumber := 1
      clientWindow := 65535 } := by
    have synReceived : c₂.conn.tcb = { Tcb.new with
        state := .synReceived
        acknowledgementNumber := 1
        sequenceNumber := 1
        clientWindow := 65535 } := by
      rw [conn₂]
      rfl
    rw [synReceived]
    decide
  have wanted : heard.wanted = .readable := by
    refine TcpConnection.wanted_readable ?_ ?_ ?_ ?_
    · exact congrArg Tcb.state tcb
    · show c₂.conn.packetForClientLength = none
      rw [conn₂]
      rfl
    · show 0 < (c₂.conn.tcb.hears _).remainingClientWindow
      rw [tcb]
      decide
    · show c₂.conn.clientToNetwork.isEmpty = true
      rw [conn₂]
      rfl
  rw [TcpConnection.settled, wanted]
  dsimp only [heard, TcpConnection.touch]
  rw [tcb, conn₂]
  rfl

/-! ### Filling the client's buffer -/

/-- A UDP connection that can be read, whose packets have headers of `index` bytes. -/
def Reads (s : Relay) (handle : Handle) (index : ℕ) : Prop :=
  ∃ conn, s.created[handle]? = some (.udp conn) ∧ conn.closed = false ∧
    Ready.readable.Within conn.interests ∧ conn.networkToClient.WellFormed ∧
    conn.networkToClient.payloadIndex = index

/-- A datagram comes from the host, and there is room for its packet. -/
theorem run_reads {handle : Handle} {index : ℕ} (run : SoloRun t s) (idle : s.batch = [])
    (rest : s.AtRest) (reads : s.Reads handle index) {data : List UInt8}
    (fits : index + data.length < 65536)
    (room : index + data.length ≤ s.client.networkToClient.remaining) :
    ∃ t' s' conn conn' packet p, SoloRun t' s' ∧ s'.batch = [] ∧ s'.AtRest ∧
      s.Onward [] s'.toClientContext ∧ s'.Reads handle index ∧
      s.created[handle]? = some (.udp conn) ∧ s'.created = s.created.set handle (.udp conn') ∧
      conn'.id = conn.id ∧
      conn.networkToClient.packetize (.ok data) = .ok (.ok packet, p) ∧
      packet.raw.length = index + data.length ∧
      s'.client.appended = s.client.appended ++ [packet.raw] ∧
      s'.client.networkToClient.remaining + (index + data.length) =
        s.client.networkToClient.remaining := by
  obtain ⟨conn, place, isOpen, within, wf, rfl⟩ := reads
  let answers : EventAnswers :=
    ⟨⟨.ok none, .ok 0, .ok data⟩, 0, fun _ => ⟨0, false, 0, .ok (), .ok 0⟩⟩
  have noted : s.selector.registered (.connection conn.handle) = some conn.interests :=
    run_noted run.run _ _ place isOpen
  obtain ⟨c, packet, happened, handle', id, stays, interests, packetized, wf', index', length, appends⟩ :=
    @UdpContext.onReady_reads ⟨conn, s.client, s.selector⟩ answers.socket 0 data isOpen wf fits
      (by rw [rest.registered]; exact Option.some_ne_none _)
      (by rw [noted]; exact Option.some_ne_none _) rfl
  have handled : (s.enter (.udp conn)).onReady .readable answers.socket answers.now =
      .ok c.asConnection := bind_eq_ok.mpr ⟨c, happened, rfl⟩
  obtain ⟨t', s', run', idle', rest', onward, left⟩ :=
    run_ready run idle rest place isOpen within (by decide) handled
  have here : conn.handle = handle := (run_routed run.run).places _ _ place
  have created : s'.created = s.created.set handle (.udp c.conn) := by
    rw [left, ← here, ← handle']
    rfl
  have same : s'.client = c.client := by
    rw [left]
    rfl
  obtain ⟨contents, appended⟩ := appends (length.trans_le room)
  refine ⟨t', s', conn, c.conn, packet, _, run', idle', rest', onward,
    ⟨c.conn, ?_, stays, ?_, wf', index'⟩, place, created, id, packetized, length, ?_, ?_⟩
  · rw [created]
    exact List.getElem?_set_self (List.getElem?_eq_some_iff.mp place).1
  · rw [interests, UdpConnection.wanted]
    split <;> decide
  · rw [same]
    exact appended
  · have contents := congrArg List.length contents
    rw [List.length_append, length] at contents
    change _ = s.client.networkToClient.contents.length +
      (conn.networkToClient.payloadIndex + data.length) at contents
    have before := s.client.networkToClient.remaining_eq
    have after := c.client.networkToClient.remaining_eq
    rw [same]
    omega

theorem run_readsAll {handle : Handle} {index : ℕ} {data : List UInt8}
    (run : SoloRun t s) (idle : s.batch = []) (rest : s.AtRest) (reads : s.Reads handle index)
    (fits : index + data.length < 65536) (n : ℕ)
    (room : n * (index + data.length) ≤ s.client.networkToClient.remaining) :
    ∃ t' s', SoloRun t' s' ∧ s'.batch = [] ∧ s'.AtRest ∧ s'.Reads handle index ∧
      (∀ other, other ≠ handle → s'.created[other]? = s.created[other]?) ∧
      s'.client.networkToClient.remaining + n * (index + data.length) =
        s.client.networkToClient.remaining := by
  induction n with
  | zero =>
      refine ⟨t, s, run, idle, rest, reads, fun _ _ => rfl, ?_⟩
      rw [Nat.zero_mul, Nat.add_zero]
  | succ n ih =>
      rw [Nat.succ_mul n (index + data.length)] at room
      obtain ⟨t₁, s₁, run₁, idle₁, rest₁, reads₁, kept₁, left₁⟩ := ih (by omega)
      obtain ⟨t₂, s₂, _, _, _, _, run₂, idle₂, rest₂, -, reads₂, -, created₂, -, -, -, -, left₂⟩ :=
        run_reads run₁ idle₁ rest₁ reads₁ fits (by omega)
      refine ⟨t₂, s₂, run₂, idle₂, rest₂, reads₂, fun other ne => ?_, ?_⟩
      · rw [created₂, List.getElem?_set_ne ne.symm, kept₁ other ne]
      · rw [Nat.succ_mul n (index + data.length)]
        omega

/-- **The buffer of the client is filled**, by a host that sends and a client that takes
nothing: no packet with a payload fits any more. -/
theorem run_fills {handle : Handle} {index : ℕ} (small : index < 65535) (run : SoloRun t s)
    (idle : s.batch = []) (rest : s.AtRest) (reads : s.Reads handle index) :
    ∃ t' s', SoloRun t' s' ∧ s'.batch = [] ∧ s'.AtRest ∧ s'.Reads handle index ∧
      (∀ other, other ≠ handle → s'.created[other]? = s.created[other]?) ∧
      s'.client.networkToClient.remaining ≤ index := by
  have most (n : ℕ) : (List.replicate n (0 : UInt8)).length = n := List.length_replicate
  obtain ⟨t₁, s₁, run₁, idle₁, rest₁, reads₁, kept₁, left₁⟩ :=
    @run_readsAll t s handle index (List.replicate (65535 - index) 0) run idle rest reads
      (by rw [most]; omega) (s.client.networkToClient.remaining / 65535) (by
        rw [most, Nat.add_sub_cancel' small.le]
        exact Nat.div_mul_le_self _ _)
  rw [most, Nat.add_sub_cancel' small.le] at left₁
  have less : s₁.client.networkToClient.remaining < 65535 := by
    have divided := Nat.div_add_mod s.client.networkToClient.remaining 65535
    have short := Nat.mod_lt s.client.networkToClient.remaining (show 65535 > 0 by decide)
    omega
  by_cases full : s₁.client.networkToClient.remaining ≤ index
  · exact ⟨t₁, s₁, run₁, idle₁, rest₁, reads₁, kept₁, full⟩
  · obtain ⟨t₂, s₂, _, _, _, _, run₂, idle₂, rest₂, -, reads₂, -, created₂, -, -, -, -, left₂⟩ :=
      @run_reads t₁ s₁ handle index run₁ idle₁ rest₁ reads₁
        (List.replicate (s₁.client.networkToClient.remaining - index) 0)
        (by rw [most]; omega) (by rw [most]; omega)
    rw [most] at left₂
    refine ⟨t₂, s₂, run₂, idle₂, rest₂, reads₂, fun other ne => ?_, by omega⟩
    rw [created₂, List.getElem?_set_ne ne.symm, kept₁ other ne]

/-- A UDP flow, next to which there is room for the flow of `segmentBytes`. -/
theorem run_udpFlow : ∃ t s, SoloRun t s ∧ s.batch = [] ∧ s.AtRest ∧ s.Reads 0 28 ∧
    s.created.length = 1 ∧ s.connectionOf segmentId = none ∧
    s.client.pendingPacketSources = [] ∧
    (ClientContext.identified 0).Onward datagramBytes4 s.toClientContext ∧
    s.client.networkToClient.contents = [] ∧ s.client.appended = [] ∧
    ∃ conn, s.created = [.udp conn] ∧ conn.id = datagramId4 := by
  obtain ⟨t, ⟨c, batch, released⟩, run, idle, rest, rfl⟩ := run_identified 0
  let answers : PacketAnswers := ⟨0, false, 0, .ok (), .ok 0⟩
  have parsed : IpPacket.parse datagramBytes4 = .ok (.ok (.ipv4 datagramPacket4)) := rfl
  obtain ⟨ipv4Header, transportHeader, p, headers, made, reverses, index⟩ :=
    Packetizer.new_reverses_udp parsed rfl
  obtain ⟨queue, read, stored, -, -⟩ := datagram4_read
  let before (buffer : IpPacketBuffer) : ClientContext := (ClientContext.identified 0).withInput buffer
  let opened (buffer : IpPacketBuffer) : UdpContext :=
    ⟨.initial 0 datagramId4 p 0, (before buffer).client.insertConnection datagramId4 0,
      (before buffer).selector.register (.connection 0) .readable⟩
  have known (buffer : IpPacketBuffer) :
      (opened buffer).selector.registered (.connection (opened buffer).conn.handle) ≠ none := by
    refine ne_of_eq_of_ne ((Selector.registered_register _ _ _ _).trans (if_pos rfl)) ?_
    exact Option.some_ne_none _
  have queued (buffer : IpPacketBuffer) := datagram4_queued (c := opened buffer) read stored rfl
    (known buffer)
  have routes (buffer : IpPacketBuffer) := queued_sendToNetwork (c := before buffer) answers headers
    made rfl rfl rfl rfl rfl (queued buffer) rfl
  obtain ⟨t', s', buffer, c', buffer', run', idle', rest', onward, sent, left⟩ := run_packet run idle rest
    (show datagramBytes4.length ≤ maxIpPacketLength by decide) datagram4_front
    fun buffer => ⟨_, routes buffer⟩
  cases sent.symm.trans (routes buffer)
  have created : s'.created = [.udp { (opened buffer).conn with
      clientToNetwork := queue
      interests := Ready.readable.union .writable }] := by
    rw [left]
    rfl
  have both : Ready.readable.Within (Ready.readable.union .writable) := by decide
  have index' : p.payloadIndex = 28 := index
  refine ⟨t', s', run', idle', rest', ⟨_, by rw [created]; rfl, rfl, both, reverses.wellFormed, index'⟩,
    by rw [created]; rfl, ?_, ?_, onward, ?_, ?_, _, created, rfl⟩
  · rw [left]
    rfl
  · rw [left]
    rfl
  · rw [left]
    exact StreamBuffer.contents_new
  · rw [left]
    rfl

end Relay

end ReverseTether
