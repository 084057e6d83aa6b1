import ReverseTether.FlowDownloads
import ReverseTether.UdpFlows

/-!
# What comes back on the connections that forward

A UDP connection, and an IPv6 connection of either protocol, makes one packet of whatever it reads
from its socket and offers this to the client at once: there is room for it in the stream, or it is
dropped.  So of each such flow the stream has a part of what its socket received, read by read, in
the order in which it was received (`run_forwardedReplies`).  No other step of the connection sends
anything, and no other connection sends anything that this flow could be taken for.

`Client.Gains` is what a call does that gives the client a part of what the socket received;
every other step gives it nothing of this flow (`ClientMove.mute`).  The relation is one of
sublists, as the room in the stream decides which packet is dropped; the order of the packets
is that of the reads, because a packet that is dropped is not tried again.

What makes the packets of a flow recognizable in the shared stream is their endpoints,
swapped: two open connections never have the same ones, and a closed one no longer sends.
-/

namespace ReverseTether

open Library Relation

/-- A packet of another flow. -/
theorem IsReply.payloadOf_other {id id' : ConnectionId} {raw : List UInt8} (reply : IsReply id raw)
    (other : id ≠ id') : payloadOf id' raw = none := by
  obtain ⟨packet, parsed, -, flow⟩ := reply
  rw [payloadOf, parsed]
  refine if_neg fun same => other (ConnectionId.eq_of_reverse ?_)
  exact Option.some.inj (flow.symm.trans same)

namespace Client

variable {client client₁ client' client₂ : Client} {id : ConnectionId} {ds : List (List UInt8)}

/-- What the stream gets of a flow is a part of the payloads `ds`. -/
def Gains (client : Client) (id : ConnectionId) (ds : List (List UInt8)) (client' : Client) : Prop :=
  ∃ blocks, client'.appended = client.appended ++ blocks ∧
    (blocks.filterMap (payloadOf id)).Sublist ds

theorem Gains.nothing (same : client'.appended = client.appended) : client.Gains id ds client' :=
  ⟨[], by rw [same, List.append_nil], List.nil_sublist _⟩

/-- Steps that send nothing, before and after. -/
theorem Gains.congr (gains : client₁.Gains id ds client₂) (before : client₁.appended = client.appended)
    (after : client'.appended = client₂.appended) : client.Gains id ds client' := by
  obtain ⟨blocks, appended, part⟩ := gains
  exact ⟨blocks, by rw [after, appended, before], part⟩

/-- A packet is offered. -/
theorem Gains.of_send {raw d : List UInt8} {selector selector' : Selector} {sent : IoResult Unit}
    (data : payloadOf id raw = some d)
    (offered : client.sendRawToClient selector raw = .ok (sent, client', selector')) :
    client.Gains id [d] client' := by
  obtain ⟨-, -, -, ⟨-, -, -, appended⟩ | ⟨-, -, kept, -⟩⟩ := sendRawToClient_ok offered
  · refine ⟨_, appended, ?_⟩
    rw [List.filterMap_cons_some data]
    exact List.Sublist.refl _
  · exact .nothing (congrArg Client.appended kept)

end Client

/-! ## UDP -/

namespace UdpContext

variable {c c₁ c' : UdpContext} {ready : Ready} {answers : SocketAnswers} {now : Instant}

/-- An event comes to read the socket. -/
def comesToRead (c : UdpContext) (ready : Ready) (answers : SocketAnswers) : Bool :=
  !c.conn.closed && ready.isReadable &&
    match c.writableHalf ready answers with
    | .ok c => !c.conn.closed
    | .error _ => false

/-- What there is room for of a datagram. -/
def fitted (c : UdpContext) (source : IoResult (List UInt8)) : List (List UInt8) :=
  (source.toOption.map fun datagram => datagram.take c.conn.networkToClient.payload.length).toList

/-- The datagram that an event receives. -/
def received (c : UdpContext) (ready : Ready) (answers : SocketAnswers) : List (List UInt8) :=
  if c.comesToRead ready answers then c.fitted answers.read else []

theorem updateInterests_appended (h : c.updateInterests = .ok c') :
    c'.client.appended = c.client.appended := by
  unfold updateInterests at h
  split at h
  · obtain ⟨_, -, rest⟩ := bind_eq_ok.mp h
    cases rest
    rfl
  · cases h
    rfl

theorem sendToNetwork_appended {packet : IpPacket} (h : c.sendToNetwork packet = .ok c') :
    c'.client.appended = c.client.appended := by
  cases packet with
  | ipv6 _ =>
      cases h
      rfl
  | ipv4 packet =>
      obtain ⟨payload, -, h⟩ := bind_eq_ok.mp h
      cases payload with
      | none => cases h
      | some payload =>
          obtain ⟨⟨stored, clientToNetwork⟩, -, h⟩ := bind_eq_ok.mp h
          cases stored with
          | ok _ => exact (updateInterests_appended (c := c.withQueue clientToNetwork) h).trans rfl
          | error _ =>
              cases h
              rfl

/-- The writable half leaves the client and the packetizer alone. -/
theorem writableHalf_same (h : c.writableHalf ready answers = .ok c') :
    c'.client.appended = c.client.appended ∧ c'.conn.id = c.conn.id ∧
      c'.conn.networkToClient = c.conn.networkToClient := by
  unfold writableHalf at h
  split at h
  · obtain ⟨⟨result, _, clientToNetwork⟩, -, h⟩ := bind_eq_ok.mp h
    cases result with
    | ok _ =>
        cases h
        exact ⟨rfl, rfl, rfl⟩
    | error err =>
        cases err with
        | wouldBlock =>
            cases h
            exact ⟨rfl, rfl, rfl⟩
        | other =>
            cases h
            exact ⟨rfl, rfl, rfl⟩
  · cases h
    exact ⟨rfl, rfl, rfl⟩

/-- **What is read is given to the client**, if it has room.  One read is one datagram, and one
packet; with no room for it the datagram is lost, and that is the only loss. -/
theorem read_gains {source : IoResult (List UInt8)} {result : IoResult Unit} (faces : c.conn.Faces)
    (h : c.read source = .ok (result, c')) : c.client.Gains c.conn.id (c.fitted source) c'.client := by
  obtain ⟨⟨packet, networkToClient⟩, packetized, h⟩ := bind_eq_ok.mp h
  cases source with
  | error _ =>
      cases packetized
      cases h
      exact .nothing rfl
  | ok datagram =>
      obtain ⟨⟨packet', p'⟩, -, rest⟩ := bind_eq_ok.mp packetized
      cases rest
      obtain ⟨⟨sent, client, selector⟩, offered, rest⟩ := bind_eq_ok.mp h
      cases rest
      exact .of_send (faces.faces.payloadOf_packetize faces.wellFormed packetized) offered

theorem processReceive_gains {source : IoResult (List UInt8)} {result : IoResult Unit}
    (faces : c.conn.Faces) (h : c.processReceive source = .ok (result, c')) :
    c.client.Gains c.conn.id (c.fitted source) c'.client := by
  obtain ⟨⟨answer, c₁⟩, wasRead, h⟩ := bind_eq_ok.mp h
  refine (read_gains faces wasRead).congr rfl ?_
  cases answer with
  | ok _ =>
      cases h
      rfl
  | error err =>
      cases err with
      | wouldBlock =>
          cases h
          rfl
      | other =>
          cases h
          rfl

/-- The halves of an event. -/
theorem processReady_gains {result : IoResult Unit} (faces : c.conn.Faces)
    (isOpen : c.conn.closed = false) (h : c.processReady ready answers = .ok (result, c')) :
    c.client.Gains c.conn.id (c.received ready answers) c'.client := by
  obtain ⟨c₁, half, h⟩ := bind_eq_ok.mp h
  have half : c.writableHalf ready answers = .ok c₁ := half
  obtain ⟨appended, id, packetizer⟩ := writableHalf_same half
  have faces₁ : c₁.conn.Faces := by
    refine ⟨packetizer ▸ faces.wellFormed, ?_⟩
    rw [packetizer, id]
    exact faces.faces
  have reads {result : IoResult Unit} {c₂ : UdpContext}
      (h : (if c₁.conn.closed = false ∧ ready.isReadable then c₁.processReceive answers.read
        else .ok (.ok (), c₁)) = .ok (result, c₂)) :
      c₁.client.Gains c.conn.id (c.received ready answers) c₂.client := by
    split at h
    · rename_i both
      have comes : c.comesToRead ready answers = true := by
        rw [comesToRead, half, isOpen, both.2]
        show (!c₁.conn.closed) = true
        rw [both.1]
        rfl
      have fits : c₁.fitted answers.read = c.fitted answers.read := by
        rw [fitted, fitted, packetizer]
      rw [received, if_pos comes, ← fits, ← id]
      exact processReceive_gains faces₁ h
    · cases h
      exact .nothing rfl
  rcases orReturn_eq_ok.mp h with ⟨c₂, read, h⟩ | ⟨err, c₂, read, rest⟩
  · obtain ⟨c₃, updated, rest⟩ := bind_eq_ok.mp h
    cases rest
    refine (reads read).congr appended ?_
    split at updated
    · cases updated
      rfl
    · exact updateInterests_appended updated
  · cases rest
    exact (reads read).congr appended rfl

/-- What is received depends on the connection alone. -/
theorem received_congr {d : UdpContext} (closed : d.conn.closed = c.conn.closed)
    (queue : d.conn.clientToNetwork = c.conn.clientToNetwork)
    (packetizer : d.conn.networkToClient = c.conn.networkToClient) :
    d.received ready answers = c.received ready answers := by
  have half : d.comesToRead ready answers = c.comesToRead ready answers := by
    unfold comesToRead writableHalf
    by_cases writable : ready.isWritable = true
    · simp only [if_pos writable, processSend, queue, closed]
      cases c.conn.clientToNetwork.writeTo answers.write with
      | error _ => rfl
      | ok written =>
          obtain ⟨result, _, clientToNetwork⟩ := written
          cases result with
          | ok _ => simp [withQueue, closed]
          | error err => cases err <;> simp [withQueue, close, closed]
    · simp only [if_neg writable, closed]
  rw [received, received, half, fitted, fitted, packetizer]

/-- **An event gives the client a part of what it receives**, and nothing else.  The writable half
sends to the host, and the readable one makes at most one packet. -/
theorem onReady_gains (faces : c.conn.Faces) (h : c.onReady ready answers now = .ok c') :
    c.client.Gains c.conn.id (c.received ready answers) c'.client := by
  have touched : UdpConnection.Faces (c.conn.touch now) := ⟨faces.wellFormed, faces.faces⟩
  have processes {result : IoResult Unit} {c₁ : UdpContext}
      (h : c.process ready answers now = .ok (result, c₁)) :
      c.client.Gains c.conn.id (c.received ready answers) c₁.client := by
    unfold process at h
    split at h
    · cases h
      exact .nothing rfl
    · rename_i isOpen
      rw [Bool.not_eq_true] at isOpen
      have body {result : IoResult Unit} {c₂ : UdpContext}
          (h : (if ready.isReadable ∨ ready.isWritable then
              processReady { c with conn := c.conn.touch now } ready answers
            else .ok (.ok (), close { c with conn := c.conn.touch now })) = .ok (result, c₂)) :
          c.client.Gains c.conn.id (c.received ready answers) c₂.client := by
        split at h
        · have gains := @processReady_gains { c with conn := c.conn.touch now } _ _ _ _ touched isOpen h
          rw [@received_congr c _ _ { c with conn := c.conn.touch now } rfl rfl rfl] at gains
          exact gains.congr rfl rfl
        · cases h
          exact .nothing rfl
      rcases orReturn_eq_ok.mp h with ⟨c₂, done, rest⟩ | ⟨err, c₂, done, rest⟩
      · cases rest
        refine (body done).congr rfl ?_
        split <;> rfl
      · cases rest
        exact body done
  obtain ⟨⟨result, c₁⟩, processed, h⟩ := bind_eq_ok.mp h
  refine (processes processed).congr rfl ?_
  cases result with
  | ok _ =>
      cases h
      rfl
  | error err =>
      cases err with
      | wouldBlock =>
          cases h
          rfl
      | other =>
          cases h
          split <;> rfl

/-- **Only an event gives the client anything.**  A packet of the client is sent on to the host and
answered by nobody here, which is what sets these flows apart from a terminated TCP connection. -/
theorem Returns.appended {call : ConnectionCall} (returns : c.Returns call c')
    (quiet : ∀ ready answers now, call ≠ .event ready answers now) :
    c'.client.appended = c.client.appended := by
  cases call with
  | packet packet answers => exact sendToNetwork_appended returns
  | event ready answers now => exact absurd rfl (quiet ready answers now)
  | close =>
      cases returns
      rfl
  | expire =>
      cases returns
      rfl
  | next => exact returns.elim

end UdpContext

/-! ## IPv6 -/

namespace Ipv6Context

variable {c c' : Ipv6Context} {ready : Ready} {source : IoResult (List UInt8)} {now : Instant}

/-- What an event receives: nothing at the end of a TCP stream. -/
def received (c : Ipv6Context) (ready : Ready) : IoResult (List UInt8) → List (List UInt8)
  | .ok available =>
      let data := c.conn.networkToClient.chunk available
      if c.conn.closed = false ∧ ready.isReadable = true ∧ ¬ (c.conn.socket = .tcp ∧ data = []) then
        [data]
      else []
  | .error _ => []

theorem close_appended (c : Ipv6Context) : c.close.client.appended = c.client.appended := by
  unfold close
  split <;> rfl

theorem onReady_gains (faces : c.conn.Faces) (h : c.onReady ready source now = .ok c') :
    c.client.Gains c.conn.id (c.received ready source) c'.client := by
  cases onReady_ok h with
  | ignored _ => exact .nothing rfl
  | ended _ _ _ => exact .nothing c.close_appended
  | @received available packet p sent client selector action isOpen readable same made offered _ =>
      subst same
      obtain ⟨-, parsed, flow, payload⟩ := faces.packetized made
      have some : ¬ (c.conn.socket = .tcp ∧ c.conn.networkToClient.chunk available = []) := by
        rintro ⟨tcp, none⟩
        cases made with
        | built nonempty _ => exact nonempty tcp none
      have data : payloadOf c.conn.id packet.raw = Option.some (c.conn.networkToClient.chunk available) := by
        rw [payloadOf_eq parsed flow, IpPacket.payload?, payload]
        rfl
      have is : c.received ready (.ok available) = [c.conn.networkToClient.chunk available] :=
        if_pos ⟨isOpen, readable, some⟩
      rw [is]
      exact .of_send data offered

theorem Returns.appended {call : ConnectionCall} (returns : c.Returns call c')
    (quiet : ∀ ready answers now, call ≠ .event ready answers now) :
    c'.client.appended = c.client.appended := by
  cases call with
  | packet packet answers =>
      cases packet with
      | ipv4 _ =>
          cases returns
          rfl
      | ipv6 packet =>
          obtain ⟨_, -, ⟨rfl, -⟩ | ⟨_, -, -, rfl⟩ | ⟨-, -, rfl⟩⟩ := sendToNetwork_ok returns
          all_goals rfl
  | event ready answers now => exact absurd rfl (quiet ready answers now)
  | close =>
      cases returns
      exact c.close_appended
  | expire =>
      cases returns
      exact c.close_appended
  | next => exact returns.elim

end Ipv6Context

/-! ## Both -/

/-- The connection does not terminate its flow: what it reads it hands on at once. -/
def Connection.Forwards : Connection → Prop
  | .tcp _ => False
  | _ => True

namespace ConnectionContext

variable {c f : ConnectionContext} {call : ConnectionCall} {ready : Ready} {answers : SocketAnswers}
  {now : Instant}

/-- What an event receives from the host. -/
def received (c : ConnectionContext) (ready : Ready) (answers : SocketAnswers) : List (List UInt8) :=
  match c.conn with
  | .tcp _ => []
  | .udp conn => UdpContext.received ⟨conn, c.client, c.selector⟩ ready answers
  | .ipv6 conn => Ipv6Context.received ⟨conn, c.client, c.selector⟩ ready answers.read

/-- A connection stays of its kind. -/
theorem Executes.forwards (executes : c.Executes call f) : f.conn.Forwards ↔ c.conn.Forwards := by
  obtain ⟨conn, client, selector⟩ := c
  have returns := executes.returns
  cases conn with
  | tcp _ =>
      obtain ⟨_, _, -, same⟩ := returns.tcp
      rw [same.conn]
      rfl
  | udp _ =>
      obtain ⟨_, _, -, same⟩ := returns.udp
      rw [same.conn]
      rfl
  | ipv6 _ =>
      obtain ⟨_, _, -, same⟩ := returns.ipv6
      rw [same.conn]
      rfl

/-- **An event gives the client a part of what it receives.**  The three kinds that forward are
taken together in `Forwards`. -/
theorem Executes.gains (executes : c.Executes (.event ready answers now) f)
    (forwards : c.conn.Forwards) (faces : c.conn.Faces) :
    c.client.Gains c.conn.id (c.received ready answers) f.client := by
  obtain ⟨conn, client, selector⟩ := c
  have returns := executes.returns
  cases conn with
  | tcp _ => exact forwards.elim
  | udp conn =>
      obtain ⟨connections, f', returns, same⟩ := returns.udp
      have faces : conn.Faces := faces
      have gains :=
        @UdpContext.onReady_gains ⟨conn, { client with connections }, selector⟩ _ _ _ _ faces returns
      rw [@UdpContext.received_congr ⟨conn, client, selector⟩ _ _
        ⟨conn, { client with connections }, selector⟩ rfl rfl rfl] at gains
      exact gains.congr rfl same.appended
  | ipv6 conn =>
      obtain ⟨connections, f', returns, same⟩ := returns.ipv6
      have faces : conn.Faces := faces
      exact (@Ipv6Context.onReady_gains ⟨conn, { client with connections }, selector⟩ _ _ _ _ faces
        returns).congr rfl same.appended

/-- Any other call gives it nothing. -/
theorem Executes.silent (executes : c.Executes call f) (forwards : c.conn.Forwards)
    (quiet : ∀ ready answers now, call ≠ .event ready answers now) :
    f.client.appended = c.client.appended := by
  obtain ⟨conn, client, selector⟩ := c
  have returns := executes.returns
  cases conn with
  | tcp _ => exact forwards.elim
  | udp conn =>
      obtain ⟨connections, f', returns, same⟩ := returns.udp
      exact same.appended.trans (UdpContext.Returns.appended returns quiet)
  | ipv6 conn =>
      obtain ⟨connections, f', returns, same⟩ := returns.ipv6
      exact same.appended.trans (Ipv6Context.Returns.appended returns quiet)

end ConnectionContext

/-! ## A client -/

namespace ClientContext

variable {c c₁ c' : ClientContext} {handle : Handle}

/-- What the stream of `c'` has of a flow that is forwarded, it had in `c`. -/
def MuteAt (handle : Handle) (c c' : ClientContext) : Prop :=
  ∀ conn, c'.created[handle]? = some conn → conn.Forwards → c'.Alone handle conn.id →
    (∀ (other : Handle) conn, c'.created[other]? = some conn → conn.Unforged) →
    c'.client.appended.filterMap (payloadOf conn.id) = [] ∨
      ∃ before, c.created[handle]? = some before ∧ before.Forwards ∧ before.id = conn.id ∧
        c.Alone handle conn.id ∧
        (∀ (other : Handle) conn, c.created[other]? = some conn → conn.Unforged) ∧
        c'.client.appended.filterMap (payloadOf conn.id) =
          c.client.appended.filterMap (payloadOf conn.id)

theorem MuteAt.congr (created : c'.created = c.created)
    (appended : c'.client.appended = c.client.appended) : MuteAt handle c c' := by
  intro conn place forwards alone unforged
  unfold Alone at alone
  rw [created] at place alone unforged
  exact .inr ⟨conn, place, forwards, rfl, alone, unforged, by rw [appended]⟩

theorem MuteAt.trans (first : MuteAt handle c c₁) (second : MuteAt handle c₁ c') :
    MuteAt handle c c' := by
  intro conn place forwards alone unforged
  rcases second conn place forwards alone unforged with
    nothing | ⟨between, place₁, forwards₁, id, alone₁, unforged₁, same⟩
  · exact .inl nothing
  · rw [← id] at alone₁ same ⊢
    rcases first between place₁ forwards₁ alone₁ unforged₁ with
      nothing | ⟨before, place₀, forwards₀, id₀, rest, rest', same₀⟩
    · exact .inl (same.trans nothing)
    · exact .inr ⟨before, place₀, forwards₀, id₀, rest, rest', same.trans same₀⟩

/-- Packets of another flow. -/
theorem filterMap_payloadOf_other {id id' : ConnectionId} {blocks : List (List UInt8)}
    (replies : ∀ raw ∈ blocks, IsReply id raw) (other : id ≠ id') :
    blocks.filterMap (payloadOf id') = [] :=
  List.filterMap_eq_nil_iff.mpr fun raw mem => (replies raw mem).payloadOf_other other

/-- A connection is called, with an event only if it is another one. -/
theorem MuteAt.acts (replies : c.Replies) (routed : c.Routed) {other : Handle} {conn : Connection}
    {call : ConnectionCall} {f : ConnectionContext} (place : c.created[other]? = some conn)
    (quiet : other = handle → ∀ ready answers now, call ≠ .event ready answers now)
    (executes : (c.enter conn).Executes call f) : MuteAt handle c (c.leave f.removeIfClosed) := by
  obtain ⟨-, ⟨blocks, grown, answers⟩, spared⟩ := executes.replies (replies.faces other conn place)
  have same : f.conn.id = conn.id := executes.toActs.id
  have created := routed.leave_created place executes.toActs
  have appended : (c.leave f.removeIfClosed).client.appended = c.client.appended ++ blocks :=
    f.removeIfClosed_appended.trans grown
  have here : (c.leave f.removeIfClosed).created[other]? = some f.conn := by
    rw [created]
    exact List.getElem?_set_self (List.getElem?_eq_some_iff.mp place).1
  intro conn' place' forwards alone unforged
  have alone₀ := alone.of_set place created same
  have unforged₀ := unforged_of_set place created spared unforged
  by_cases eq : other = handle
  · subst eq
    cases here.symm.trans place'
    have forwards₀ : conn.Forwards := executes.forwards.mp forwards
    have silent : (c.leave f.removeIfClosed).client.appended = c.client.appended :=
      f.removeIfClosed_appended.trans (executes.silent forwards₀ (quiet rfl))
    exact .inr ⟨conn, place, forwards₀, same.symm, alone₀, unforged₀, by rw [silent]⟩
  · rw [created, List.getElem?_set_ne eq] at place'
    have flow : conn.id ≠ conn'.id := fun flow => eq (alone other f.conn here (same.trans flow))
    refine .inr ⟨conn', place', forwards, rfl, alone₀, unforged₀, ?_⟩
    rw [appended, List.filterMap_append, filterMap_payloadOf_other answers flow, List.append_nil]

/-- A flow is opened: nothing of it is in the stream. -/
theorem MuteAt.insert (replies : c.Replies) {id : ConnectionId} {conn : Connection}
    {selector : Selector} : MuteAt handle c (Router.insert c id conn selector) := by
  have created : (Router.insert c id conn selector).created = c.created ++ [conn] := rfl
  have kept {handle : Handle} {conn' : Connection} (place : c.created[handle]? = some conn') :
      (Router.insert c id conn selector).created[handle]? = some conn' := by
    rw [created, List.getElem?_append_left (List.getElem?_eq_some_iff.mp place).1]
    exact place
  intro conn' place forwards alone unforged
  have earlier (other : Handle) (conn : Connection) (place : c.created[other]? = some conn) :
      conn.Unforged := unforged other conn (kept place)
  have alone₀ : c.Alone handle conn'.id := fun other conn₁ place₁ => alone other conn₁ (kept place₁)
  cases before : c.created[handle]? with
  | some conn₀ =>
      cases (kept before).symm.trans place
      exact .inr ⟨conn', rfl, forwards, rfl, alone₀, earlier, rfl⟩
  | none =>
      refine .inl (List.filterMap_eq_nil_iff.mpr fun raw mem => ?_)
      obtain ⟨other, conn₁, place₁, reply⟩ := replies.replies earlier raw mem
      refine reply.payloadOf_other fun same => ?_
      rw [alone₀ other conn₁ place₁ same, before] at place₁
      cases place₁

end ClientContext

/-- **A connection that forwards is silent but for its events.**  Other flows may append what they
like in between; by `Framed` none of it is taken for a packet of this flow. -/
theorem ClientMove.mute {may : ConnectionCall → Prop} {reads : Prop} {c c' : ClientContext}
    {handle : Handle}
    (parsed : ∀ packet answers, may (.packet packet answers) →
      ∃ raw, IpPacket.parse raw = .ok (.ok packet))
    (quiet : ∀ ready answers now, ¬ may (.event ready answers now)) (routed : c.Routed)
    (framed : c.Framed) (replies : c.Replies) (move : ClientMove may reads c c') :
    ClientContext.MuteAt handle c c' := by
  cases move with
  | acts place _ allowed executes =>
      refine .acts replies routed place (fun _ ready answers now event => ?_) executes
      rw [event] at allowed
      exact quiet ready answers now allowed
  | @opens id conn selector packet answers f allowed flow new created executes =>
      obtain ⟨raw, parsed⟩ := parsed _ _ allowed
      have faces := Router.createConnection_faces parsed flow created
      exact .trans (.insert replies) (.acts (replies.insert faces)
        (Router.insert_routed routed new created) (Router.insert_place _ _ _ _) (by simp) executes)
  | @serves client selector _ _ sends _ =>
      rcases sends with ⟨appended, -⟩ | ⟨-, appended | ⟨other, conn, packet, place, got, appended⟩⟩
      · exact .congr rfl appended
      · exact .congr rfl appended
      · intro conn' place' forwards alone unforged
        have stores : conn.Stores := framed.stores other _ place
        have spared : conn.Unforged := unforged other _ place
        have faces : conn.Faces := replies.faces other _ place
        have reply : IsReply conn.id packet.raw := by
          refine faces.deferred _ ?_
          rw [stores.order.mp spared, TcpConnection.waitingPacket, got]
          exact List.mem_append_right _ (List.mem_singleton_self _)
        -- only a TCP connection has a packet that waits
        have flow : conn.id ≠ conn'.id := by
          intro flow
          cases alone other _ place flow
          cases place.symm.trans place'
          exact forwards
        refine .inr ⟨conn', place', forwards, rfl, alone, unforged, ?_⟩
        show client.appended.filterMap _ = _
        rw [appended, List.filterMap_append, List.filterMap_cons_none (reply.payloadOf_other flow)]
        exact List.append_nil _
  | receives _ _ => exact .congr rfl rfl
  | sendsId _ _ => exact .congr rfl rfl
  | writes _ _ => exact .congr rfl rfl
  | closes => exact .congr rfl rfl

theorem ClientMoves.mute {may : ConnectionCall → Prop} {reads : Prop} {c c' : ClientContext}
    {handle : Handle}
    (parsed : ∀ packet answers, may (.packet packet answers) →
      ∃ raw, IpPacket.parse raw = .ok (.ok packet))
    (quiet : ∀ ready answers now, ¬ may (.event ready answers now)) (routed : c.Routed)
    (framed : c.Framed) (replies : c.Replies) (moves : ClientMoves may reads c c') :
    ClientContext.MuteAt handle c c' := by
  refine (ClientMoves.invariant
    (P := fun d => (d.Framed ∧ d.Replies) ∧ ClientContext.MuteAt handle c d) ?_ routed
    ⟨⟨framed, replies⟩, .congr rfl rfl⟩ moves).2
  rintro d d' routed ⟨⟨framed, replies⟩, mute⟩ move
  exact ⟨⟨move.framed parsed routed framed, move.replies parsed routed framed replies⟩,
    mute.trans (move.mute parsed quiet routed framed replies)⟩

/-! ## Every run -/

namespace Relay

variable {s s' : Relay} {label : Label} {handle : Handle} {t : List (Relay × Label)}

/-- What a step receives on the socket of a connection. -/
def receivedFrom (s : Relay) (handle : Handle) : Label → List (List UInt8)
  | .handle answers =>
      match s.batch, s.created[handle]? with
      | (source, ready) :: _, some conn =>
          if source = .connection handle then (s.enter conn).received ready answers.socket else []
      | _, _ => []
  | _ => []

/-- All that is received on it, read by read. -/
def allReceivedFrom (handle : Handle) (t : List (Relay × Label)) : List (List UInt8) :=
  t.flatMap fun p => p.1.receivedFrom handle p.2

theorem allReceivedFrom_append (s : Relay) (label : Label) :
    allReceivedFrom handle (t ++ [(s, label)]) = allReceivedFrom handle t ++ s.receivedFrom handle label := by
  simp [allReceivedFrom]

/-- What the stream has of a flow that is forwarded: the payloads of its packets are datagrams of
its host, each at most once and in their order. -/
def Hosted (handle : Handle) (ds : List (List UInt8)) (c : ClientContext) : Prop :=
  ∀ conn, c.created[handle]? = some conn → conn.Forwards → c.Alone handle conn.id →
    (∀ (other : Handle) conn, c.created[other]? = some conn → conn.Unforged) →
    (c.client.appended.filterMap (payloadOf conn.id)).Sublist ds

theorem Hosted.mute {ds ds' : List (List UInt8)} {c c' : ClientContext} (hosted : Hosted handle ds c)
    (mute : ClientContext.MuteAt handle c c') (more : ds.Sublist ds') : Hosted handle ds' c' := by
  intro conn place forwards alone unforged
  rcases mute conn place forwards alone unforged with
    nothing | ⟨before, place₀, forwards₀, id, alone₀, unforged₀, same⟩
  · rw [nothing]
    exact List.nil_sublist _
  · rw [same, ← id]
    exact (hosted before place₀ forwards₀ (id ▸ alone₀) unforged₀).trans more

/-- An event of the connection itself. -/
theorem Hosted.event {ds : List (List UInt8)} {c : ClientContext} {ready : Ready}
    {answers : SocketAnswers} {now : Instant} {conn : Connection} {f : ConnectionContext}
    (hosted : Hosted handle ds c) (replies : c.Replies) (routed : c.Routed)
    (place : c.created[handle]? = some conn)
    (executes : (c.enter conn).Executes (.event ready answers now) f) :
    Hosted handle (ds ++ (c.enter conn).received ready answers) (c.leave f.removeIfClosed) := by
  have created := routed.leave_created place executes.toActs
  have same : f.conn.id = conn.id := executes.toActs.id
  have faces := replies.faces handle conn place
  obtain ⟨-, -, spared⟩ := executes.replies faces
  intro conn' place' forwards alone unforged
  have alone₀ := alone.of_set place created same
  have unforged₀ := ClientContext.unforged_of_set place created spared unforged
  rw [created, List.getElem?_set_self (List.getElem?_eq_some_iff.mp place).1] at place'
  cases place'
  have forwards₀ : conn.Forwards := executes.forwards.mp forwards
  rw [same] at alone₀ ⊢
  obtain ⟨blocks, appended, part⟩ := executes.gains forwards₀ faces
  have grown : (c.leave f.removeIfClosed).client.appended = c.client.appended ++ blocks :=
    f.removeIfClosed_appended.trans appended
  rw [grown, List.filterMap_append]
  exact (hosted conn place forwards₀ alone₀ unforged₀).append part

theorem Step.hosted (routed : s.Routed) (framed : s.Framed) (replies : s.Replies)
    (hosted : Hosted handle (allReceivedFrom handle t) s.toClientContext) (step : Step s label s') :
    Hosted handle (allReceivedFrom handle (t ++ [(s, label)])) s'.toClientContext := by
  have more : (allReceivedFrom handle t).Sublist (allReceivedFrom handle (t ++ [(s, label)])) := by
    rw [allReceivedFrom_append]
    exact List.sublist_append_left _ _
  have mute (quiet : ∀ ready answers now, ¬ s.Causes label (.event ready answers now)) :
      Hosted handle (allReceivedFrom handle (t ++ [(s, label)])) s'.toClientContext := by
    refine hosted.mute ?_ more
    rcases Step.moves routed step with ⟨moves, -⟩ | rfl | ⟨connections, -, rfl⟩
    · exact moves.mute (fun _ _ => Causes.parsed) quiet routed framed replies
    · exact .congr rfl rfl
    · exact .congr rfl rfl
  cases step with
  | @handle source ready batch answers c next handled =>
      cases source with
      | client =>
          refine mute fun ready' answers' now caused => ?_
          cases caused with
          | client _ caused => cases caused
          | connection next' =>
              rw [next] at next'
              cases next'
      | connection other =>
          cases place : s.created[other]? with
          | none =>
              simp only [ClientContext.dispatch, place] at handled
              cases handled
          | some conn =>
              rcases ClientContext.dispatch_connection routed place handled with
                ⟨-, rfl⟩ | ⟨-, f, executes, rfl, -⟩
              · exact hosted.mute (.congr rfl rfl) more
              · by_cases own : other = handle
                · subst own
                  have heard : s.receivedFrom other (.handle answers) =
                      (s.enter conn).received ready answers.socket := by
                    simp only [receivedFrom, next, place, if_true]
                  rw [allReceivedFrom_append, heard]
                  exact hosted.event replies routed place executes
                · exact hosted.mute (.acts replies routed place (fun same => absurd same own) executes)
                    more
  | _ => exact mute fun ready answers now caused => by cases caused

theorem run_hosted (run : machine.Run t s) :
    Hosted handle (allReceivedFrom handle t) s.toClientContext := by
  induction run with
  | start starts =>
      obtain ⟨id, rfl⟩ := starts
      exact fun conn place => absurd place (by simp [create, ClientContext.create])
  | step run step ih =>
      exact Step.hosted (run_routed run) (run_framed run) (run_facing run) ih step

/-- **What is forwarded comes back**: of a flow whose one connection does not terminate it, the
stream to the client has a part of what the socket of this connection received, each read whole and
at most once, in the order in which they were received. -/
theorem run_forwardedReplies (run : machine.Run t s) (unforged : s.Unforged) {conn : Connection}
    (forwards : conn.Forwards) (place : s.created[handle]? = some conn)
    (alone : s.Alone handle conn.id) :
    (s.client.appended.filterMap (payloadOf conn.id)).Sublist (allReceivedFrom handle t) :=
  run_hosted run conn place forwards alone unforged.all

/-- The two flows of the exchange have one connection each. -/
theorem alone_of_exchanged {udp : UdpConnection} {tcp : TcpConnection}
    (exchanged : s.toClientContext.Exchanged udp tcp) : s.Alone 0 udp.id ∧ s.Alone 1 tcp.id := by
  constructor
  · intro handle conn place flow
    rw [exchanged.created] at place
    rcases handle with _ | _ | handle
    · rfl
    · cases place
      exact absurd flow.symm exchanged.other
    · cases place
  · intro handle conn place flow
    rw [exchanged.created] at place
    rcases handle with _ | _ | handle
    · cases place
      exact absurd flow exchanged.other
    · rfl
    · cases place

/-- Next to a TCP flow a reply is read, and it is sent to the client. -/
theorem run_forwardedReplies_exchange : ∃ t s udp, machine.Run t s ∧ s.created[0]? = some (.udp udp) ∧
    [0x61] ∈ s.client.appended.filterMap (payloadOf udp.id) ∧
      (s.client.appended.filterMap (payloadOf udp.id)).Sublist (allReceivedFrom 0 t) := by
  obtain ⟨t, s, udp, tcp, run, exchanged, -⟩ := run_exchange
  have replied := exchanged.replied
  rw [← exchanged.udpId] at replied
  exact ⟨t, s, udp, run, exchanged.place_udp, replied,
    @run_forwardedReplies _ _ _ run (unforged_of_exchanged exchanged) (.udp udp) trivial
      exchanged.place_udp (alone_of_exchanged exchanged).1⟩

end Relay

end ReverseTether
