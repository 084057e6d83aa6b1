import ReverseTether.Download
import ReverseTether.FlowLives
import ReverseTether.Replies

/-!
# Downloads of a client

A client shares one stream with all its flows.  What is in it of one flow is what the connection
of that flow handed over (`run_told`): replies of other flows go elsewhere, and a segment that
was forged has no payload.  Together with the packet that waits it is what was read from the host
socket, byte by byte, as long as no segment was forged while a packet waited (`Carries`).

The two parts of a packet that is pulled, its way into the stream and the record of it, belong to
two steps of the client.  So `process_pending` is looked at by itself, and all other work as the
moves it is made of.

One more condition is that the flow has one connection.  A flow that was closed and opened
again has two, whose segments cannot be told apart by their endpoints, and the account of the
stream would be that of both.
-/

namespace ReverseTether

open Library Relation

/-- The data segment of a flow that a packet to the client is, if it is one. -/
def segmentOf (id : ConnectionId) (raw : List UInt8) : Option Segment :=
  match IpPacket.parse raw with
  | .ok (.ok packet) =>
      if ConnectionId.fromPacket packet = some id.reverse ∧ (Segment.ofRaw raw).payload ≠ [] then
        some (Segment.ofRaw raw)
      else none
  | _ => none

/-- Segments that arrive in order tile the sequence space so far. -/
theorem Tiles.of_prefix {isn : UInt32} {read : List UInt8} {segments segments' : List Segment}
    (tiles : Tiles isn read segments') (front : segments <+: segments') : Tiles isn read segments :=
  ⟨tiles.placed.of_prefix front, (front.flatMap _).trans tiles.carried⟩

theorem ConnectionId.eq_of_reverse {id id' : ConnectionId} (same : id.reverse = id'.reverse) :
    id = id' := by
  cases id
  cases id'
  cases same
  rfl

namespace IsReply

variable {id id' : ConnectionId} {raw : List UInt8}

theorem segmentOf_data (reply : IsReply id raw) (data : (Segment.ofRaw raw).payload ≠ []) :
    segmentOf id raw = some (Segment.ofRaw raw) := by
  obtain ⟨packet, parsed, -, flow⟩ := reply
  rw [segmentOf, parsed]
  exact if_pos ⟨flow, data⟩

theorem segmentOf_empty (reply : IsReply id raw) (empty : (Segment.ofRaw raw).payload = []) :
    segmentOf id raw = none := by
  obtain ⟨packet, parsed, -, -⟩ := reply
  rw [segmentOf, parsed]
  exact if_neg fun both => both.2 empty

/-- A packet of another flow. -/
theorem segmentOf_other (reply : IsReply id raw) (other : id ≠ id') : segmentOf id' raw = none := by
  obtain ⟨packet, parsed, -, flow⟩ := reply
  rw [segmentOf, parsed]
  exact if_neg fun both => other (ConnectionId.eq_of_reverse (Option.some.inj (flow.symm.trans both.1)))

end IsReply

/-! ## What a connection keeps -/

namespace TcpConnection

/-- What the client got and what it has to wait for is what was read from the host. -/
structure Carries (conn : TcpConnection) : Prop where
  faces : conn.Faces
  /-- What was deferred has a payload. -/
  data : ∀ raw ∈ conn.deferredPackets, (Segment.ofRaw raw).payload ≠ []
  carried : conn.Unforged →
    carriedBytes (dataSegments conn.trace) ++ carriedBytes (conn.waitingPacket.map Segment.ofRaw) =
      hostRead conn.trace

variable {conn conn' : TcpConnection}

/-- A connection that forged nothing in front of a waiting packet never did before. -/
theorem Unforged.of_prefix (unforged : conn'.Unforged) (before : conn.trace <+: conn'.trace) :
    conn.Unforged :=
  fun raw mem => unforged raw (before.subset mem)

theorem dataSegments_append_list (trace actions : List TcpAction) :
    dataSegments (trace ++ actions) = dataSegments trace ++ dataSegments actions :=
  List.filterMap_append

theorem hostRead_append_list (trace actions : List TcpAction) :
    hostRead (trace ++ actions) = hostRead trace ++ hostRead actions :=
  List.flatMap_append

end TcpConnection

namespace TcpContext

open TcpConnection

variable {may : TcpWork → Prop} {c c₁ c' : TcpContext}

/-- What a step appends of its flow is what it records of it. -/
def Tells (c c' : TcpContext) : Prop :=
  c.conn.Carries → c'.conn.Carries ∧ c'.conn.id = c.conn.id ∧ ∃ blocks actions,
    c'.client.appended = c.client.appended ++ blocks ∧ c'.conn.trace = c.conn.trace ++ actions ∧
      blocks.filterMap (segmentOf c.conn.id) = dataSegments actions

theorem Tells.trans (first : c.Tells c₁) (second : c₁.Tells c') : c.Tells c' := by
  intro carries
  obtain ⟨carries₁, same₁, blocks, actions, appended, trace, told⟩ := first carries
  obtain ⟨carries', same', blocks', actions', appended', trace', told'⟩ := second carries₁
  refine ⟨carries', same'.trans same₁, blocks ++ blocks', actions ++ actions', ?_, ?_, ?_⟩
  · rw [appended', appended, List.append_assoc]
  · rw [trace', trace, List.append_assoc]
  · rw [same₁] at told'
    rw [List.filterMap_append, told, told', dataSegments_append_list]

/-- What is recorded concerns neither the data nor what waits. -/
theorem Tells.of_same {actions : List TcpAction}
    (packetizer : c'.conn.networkToClient = c.conn.networkToClient)
    (waiting : c'.conn.packetForClientLength = c.conn.packetForClientLength)
    (id : c'.conn.id = c.conn.id) (trace : c'.conn.trace = c.conn.trace ++ actions)
    (quiet : ∀ action ∈ actions, action.segment = none ∧ action.received = [] ∧ action.deferred? = none)
    (appended : c'.client.appended = c.client.appended) : c.Tells c' := by
  intro carries
  have undeferred : actions.filterMap TcpAction.deferred? = [] :=
    List.filterMap_eq_nil_iff.mpr fun action mem => (quiet action mem).2.2
  have segments : dataSegments actions = [] :=
    List.filterMap_eq_nil_iff.mpr fun action mem => (quiet action mem).1
  have read : hostRead actions = [] :=
    List.flatMap_eq_nil_iff.mpr fun action mem => (quiet action mem).2.1
  have deferred : c'.conn.deferredPackets = c.conn.deferredPackets := by
    rw [deferredPackets, trace, List.filterMap_append, undeferred, List.append_nil]
    rfl
  have waits : c'.conn.waitingPacket = c.conn.waitingPacket := by
    rw [waitingPacket, waitingPacket, TcpConnection.get, TcpConnection.get, packetizer, waiting]
  obtain ⟨faces, -, -⟩ := Replies.of_same packetizer id trace undeferred appended carries.faces
  refine ⟨⟨faces, deferred ▸ carries.data, fun unforged => ?_⟩, id, [], actions, ?_, trace,
    segments.symm⟩
  · rw [waits, trace, dataSegments_append_list, hostRead_append_list, segments, read, List.append_nil,
      List.append_nil]
    exact carries.carried (unforged.of_prefix (trace ▸ List.prefix_append _ _))
  · rw [appended, List.append_nil]

/-- A forged segment has no payload. -/
theorem reply_tells {flags : UInt16} (mem : flags ∈ relayFlags)
    (h : c.replyEmptyPacketToClient flags = .ok c') : c.Tells c' := by
  intro carries
  obtain ⟨faces, id, -⟩ := reply_replies mem h carries.faces
  obtain ⟨packet, packetizer, sent, created, offered, same⟩ := replyEmptyPacketToClient_ok h
  obtain ⟨-, -, reply⟩ :=
    createEmptyResponsePacket_faces carries.faces.forTcp carries.faces.faces mem created
  obtain ⟨packet', packetizer', created', -, -, -, -, segment⟩ :=
    carries.faces.forTcp.createEmptyResponsePacket c.conn.tcb mem
  cases created.symm.trans created'
  have trace : c'.conn.trace = c.conn.trace ++ [.forged packet.raw c.conn.waiting] := by
    rw [same]
    rfl
  have deferred : c'.conn.deferredPackets = c.conn.deferredPackets := by
    rw [deferredPackets, trace]
    exact List.filterMap_append.trans (List.append_nil _)
  have unheard : segmentOf c.conn.id packet.raw = none := reply.segmentOf_empty (by rw [segment])
  refine ⟨⟨faces, deferred ▸ carries.data, fun unforged => ?_⟩, id, ?_⟩
  · have alone : c.conn.waiting = false := by
      cases waits : c.conn.waiting with
      | false => rfl
      | true =>
          refine absurd ?_ (unforged packet.raw)
          rw [trace, waits]
          exact List.mem_append_right _ (List.mem_singleton_self _)
    have idle : c.conn.packetForClientLength = none := by
      rwa [TcpConnection.waiting, Option.isSome_eq_false_iff, Option.isNone_iff_eq_none] at alone
    have idle' : c'.conn.packetForClientLength = none := by
      rw [same]
      exact idle
    have carried := carries.carried (unforged.of_prefix (trace ▸ List.prefix_append _ _))
    rw [waitingPacket_of_idle idle] at carried
    rw [waitingPacket_of_idle idle', trace, dataSegments_append, hostRead_append]
    simpa [TcpAction.segment, TcpAction.received] using carried
  · obtain ⟨-, -, -, ⟨-, -, -, appended⟩ | ⟨-, -, kept, -⟩⟩ := Client.sendRawToClient_ok offered
    · refine ⟨[packet.raw], _, appended, trace, ?_⟩
      rw [List.filterMap_cons_none unheard]
      rfl
    · exact ⟨[], _, by rw [kept, List.append_nil], trace, rfl⟩

/-- Bytes of the host are handed over, or wait. -/
theorem receive_tells {primed packetizer : Packetizer} {available : List UInt8} {packet : Ipv4Packet}
    (idle : c.conn.packetForClientLength = none)
    (updated : updateHeaders c.conn.networkToClient c.conn.tcb (flagAck ||| flagPsh) = .ok primed)
    (packetized : primed.packetizeRead (.ok available) c.receivable =
      .ok (.ok (some packet), packetizer))
    (sent : ({ c with conn := { c.conn with networkToClient := packetizer } }.record
      (.read (primed.chunk available c.receivable))).sendDataToClient packet = .ok c') :
    c.Tells c' := by
  intro carries
  have received : Output (fun _ => False) c c' := .received idle updated packetized sent
  obtain ⟨faces, id, -⟩ := received.replies carries.faces
  obtain ⟨forTcp, built, inflated, segment⟩ :=
    packetizeRead_segment carries.faces.forTcp updated packetized
  have data : (Segment.ofRaw packet.raw).payload ≠ [] := by
    rw [segment]
    exact Packetizer.packetizeRead_nonempty packetized
  set chunk := primed.chunk available c.receivable
  have carried (unforged : c.conn.Unforged) : carriedBytes (dataSegments c.conn.trace) =
      hostRead c.conn.trace := by
    have carried := carries.carried unforged
    rw [waitingPacket_of_idle idle] at carried
    exact (List.append_nil _).symm.trans carried
  obtain ⟨-, -, reply⟩ := packetizeRead_faces carries.faces updated packetized
  obtain ⟨result, client, selector, offered, kind⟩ := sendDataToClient_ok sent
  obtain ⟨-, -, -, accepted⟩ := Client.sendRawToClient_ok offered
  rcases kind with ⟨payload, ok, -, conn, client', -⟩ | ⟨⟨err, failed⟩, conn, client', -⟩
  · -- it fits
    have trace : c'.conn.trace = c.conn.trace ++ [.read chunk, .handed packet.raw] := by
      rw [conn]
      exact List.append_assoc _ _ _
    have deferred : c'.conn.deferredPackets = c.conn.deferredPackets := by
      rw [deferredPackets, trace]
      exact List.filterMap_append.trans (List.append_nil _)
    have idle' : c'.conn.packetForClientLength = none := by
      rw [conn]
      exact idle
    have segments : dataSegments [.read chunk, .handed packet.raw] = [Segment.ofRaw packet.raw] := rfl
    have read : hostRead [.read chunk, .handed packet.raw] = chunk := List.append_nil _
    refine ⟨⟨faces, deferred ▸ carries.data, fun unforged => ?_⟩, id, [packet.raw], _, ?_, trace, ?_⟩
    · rw [waitingPacket_of_idle idle', trace, dataSegments_append_list, hostRead_append_list, segments,
        read, carriedBytes_append, carried (unforged.of_prefix (trace ▸ List.prefix_append _ _)),
        segment]
      exact List.append_nil _
    · obtain ⟨-, -, -, appended⟩ | ⟨failed, -⟩ := accepted
      · rw [client', appended]
        rfl
      · rw [ok] at failed
        cases failed
    · rw [List.filterMap_cons_some (reply.segmentOf_data data)]
      rfl
  · -- it waits
    have trace : c'.conn.trace = c.conn.trace ++ [.read chunk, .deferred packet.raw] := by
      rw [conn]
      exact List.append_assoc _ _ _
    have deferred : c'.conn.deferredPackets = c.conn.deferredPackets ++ [packet.raw] := by
      rw [deferredPackets, trace]
      exact List.filterMap_append
    have waits : c'.conn.waitingPacket = [packet.raw] := by
      rw [conn]
      exact congrArg (fun raw => [raw]) inflated
    have segments : dataSegments [.read chunk, .deferred packet.raw] = [] := rfl
    have read : hostRead [.read chunk, .deferred packet.raw] = chunk := List.append_nil _
    refine ⟨⟨faces, ?_, fun unforged => ?_⟩, id, [], _, ?_, trace, rfl⟩
    · intro raw mem
      rw [deferred, List.mem_append, List.mem_singleton] at mem
      rcases mem with mem | rfl
      · exact carries.data raw mem
      · exact data
    · rw [waits, trace, dataSegments_append_list, hostRead_append_list, segments, read, List.append_nil,
        carried (unforged.of_prefix (trace ▸ List.prefix_append _ _)), List.map_singleton, segment]
      exact congrArg (_ ++ ·) (List.append_nil _)
    · obtain ⟨ok, -⟩ | ⟨-, -, kept, -⟩ := accepted
      · rw [failed] at ok
        cases ok
      · rw [client', kept, List.append_nil]
        rfl

/-- The headers of a data packet that is not built after all. -/
theorem prime_tells {packetizer : Packetizer} (idle : c.conn.packetForClientLength = none)
    (primed : updateHeaders c.conn.networkToClient c.conn.tcb (flagAck ||| flagPsh) = .ok packetizer) :
    c.Tells { c with conn := { c.conn with networkToClient := packetizer } } := by
  intro carries
  obtain ⟨header, primed', forTcp, -⟩ :=
    carries.faces.forTcp.updateHeaders c.conn.tcb (show flagAck ||| flagPsh ∈ relayFlags by decide)
  have faces := updateHeaders_faces carries.faces.faces primed
  have same : { c.conn with networkToClient := packetizer }.waitingPacket = c.conn.waitingPacket := by
    rw [waitingPacket_of_idle idle]
    exact waitingPacket_of_idle idle
  cases primed.symm.trans primed'
  refine ⟨⟨⟨forTcp, faces, carries.faces.deferred⟩, carries.data, fun unforged => ?_⟩, rfl, [], [],
    (List.append_nil _).symm, (List.append_nil _).symm, rfl⟩
  rw [same]
  exact carries.carried unforged

/-- What waits is recorded as it is given to the client. -/
theorem next_tells {packet : Ipv4Packet} (got : c.conn.get = some packet) (h : c.next = .ok c') :
    c'.conn.id = c.conn.id ∧ c'.client.appended = c.client.appended ∧
      c'.conn.trace = c.conn.trace ++ [.delivered packet.raw] ∧
      (c.conn.Carries → c'.conn.Carries) := by
  unfold next at h
  split at h
  · cases h
  · rename_i length waits
    obtain ⟨-, conn, client, -⟩ := updateInterests_ok h
    have same : (c.conn.networkToClient.inflate length) = packet := by
      rw [TcpConnection.get, waits] at got
      exact Option.some.inj got
    have trace : c'.conn.trace = c.conn.trace ++ [.delivered packet.raw] := by
      rw [conn, ← same]
      rfl
    refine ⟨by rw [conn]; rfl, by rw [client]; rfl, trace, fun carries => ?_⟩
    have deferred : c'.conn.deferredPackets = c.conn.deferredPackets := by
      rw [deferredPackets, trace]
      exact List.filterMap_append.trans (List.append_nil _)
    have waiting : c.conn.waitingPacket = [packet.raw] := by
      rw [waitingPacket_of_waits waits, same]
    have idle : c'.conn.packetForClientLength = none := by
      rw [conn]
      rfl
    refine ⟨⟨?_, ?_, ?_⟩, deferred ▸ carries.data, fun unforged => ?_⟩
    · rw [conn]
      exact carries.faces.forTcp
    · rw [conn]
      exact carries.faces.faces
    · rw [deferred, conn]
      exact carries.faces.deferred
    · have carried := carries.carried (unforged.of_prefix (trace ▸ List.prefix_append _ _))
      rw [waiting] at carried
      rw [waitingPacket_of_idle idle, trace, dataSegments_append, hostRead_append]
      simpa [TcpAction.segment, TcpAction.received, carriedBytes] using carried

/-- **What is appended of the flow is recorded.**  Only the record of a packet that was pulled is
by itself.  A packet that is built while another one waits is not appended, and its record comes
when it is delivered. -/
theorem Output.tells (pulls : ¬ may .deliver) (output : Output may c c') : c.Tells c' := by
  cases output with
  | quiet packetizer waiting id trace quiet appended =>
      refine .of_same packetizer waiting id trace (fun action mem => ?_) appended
      have plain := quiet action mem
      cases action <;> first | exact plain.elim | exact ⟨rfl, rfl, rfl⟩
  | primed idle primed same =>
      subst same
      exact prime_tells idle primed
  | forged mem forged => exact reply_tells mem forged
  | received idle updated packetized sent => exact receive_tells idle updated packetized sent
  | delivered allowed _ _ => exact absurd allowed pulls

theorem Outputs.tells (pulls : ¬ may .deliver) (outputs : Outputs may c c') : c.Tells c' := by
  induction outputs with
  | refl => exact .of_same rfl rfl rfl (List.append_nil _).symm (by simp) rfl
  | tail _ output ih => exact ih.trans (output.tells pulls)

theorem Returns.tells {call : ConnectionCall} (quiet : call ≠ .next) (returns : c.Returns call c') :
    c.Tells c' := by
  refine returns.outputs.tells ?_
  cases call with
  | next => exact absurd rfl quiet
  | _ => exact id

end TcpContext

/-! ## Every kind of connection -/

/-- A call of a TCP connection. -/
theorem ConnectionContext.Executes.tells {conn : TcpConnection} {client : Client} {selector : Selector}
    {call : ConnectionCall} {f : ConnectionContext} (quiet : call ≠ .next)
    (executes : (⟨.tcp conn, client, selector⟩ : ConnectionContext).Executes call f)
    (carries : conn.Carries) :
    ∃ conn', f.conn = .tcp conn' ∧ conn'.Carries ∧ ∃ blocks actions,
      f.client.appended = client.appended ++ blocks ∧ conn'.trace = conn.trace ++ actions ∧
        blocks.filterMap (segmentOf conn.id) = dataSegments actions := by
  obtain ⟨connections, c', returns, same⟩ := executes.returns.tcp
  obtain ⟨carries', -, blocks, actions, appended, trace, told⟩ := returns.tells quiet carries
  exact ⟨c'.conn, same.conn, carries', blocks, actions, same.appended.trans appended, trace, told⟩

/-- A connection stays of its kind. -/
theorem ConnectionContext.Executes.tcp_of_tcp {c f : ConnectionContext} {call : ConnectionCall}
    (executes : c.Executes call f) {conn' : TcpConnection} (tcp : f.conn = .tcp conn') :
    ∃ conn, c.conn = .tcp conn := by
  obtain ⟨conn, client, selector⟩ := c
  have returns := executes.returns
  cases conn with
  | tcp conn => exact ⟨conn, rfl⟩
  | udp _ =>
      obtain ⟨_, _, -, same⟩ := returns.udp
      cases same.conn.symm.trans tcp
  | ipv6 _ =>
      obtain ⟨_, _, -, same⟩ := returns.ipv6
      cases same.conn.symm.trans tcp

/-- A new connection has done nothing. -/
theorem Router.createConnection_carries {c : ClientContext} {id : ConnectionId} {packet : IpPacket}
    {answers : PacketAnswers} {conn : TcpConnection} {selector : Selector} (faces : conn.Faces)
    (created : createConnection c id packet answers = .ok (.ok (.tcp conn, selector))) :
    conn.Carries ∧ conn.trace = [] := by
  cases createConnection_creates created with
  | tcp _ _ made =>
      obtain ⟨_, _, _, packetizer, -, -, -, -, same, -⟩ := TcpConnection.create_ok made
      subst same
      exact ⟨⟨faces, fun raw mem => absurd mem List.not_mem_nil, fun _ => rfl⟩, rfl⟩

/-! ## Every move -/

namespace ClientContext

/-- No other connection of the client has this flow, and none had it before: a packet of the flow
is one of this connection. -/
def Alone (c : ClientContext) (handle : Handle) (id : ConnectionId) : Prop :=
  ∀ (other : Handle) conn, c.created[other]? = some conn → conn.id = id → other = handle

section Set

variable {c c' : ClientContext} {handle : Handle} {before after : Connection}

/-- A connection that takes the place of another of its flow. -/
theorem Alone.of_set (place : c.created[handle]? = some before)
    (created : c'.created = c.created.set handle after) (same : after.id = before.id)
    {other : Handle} {id : ConnectionId} (alone : c'.Alone other id) : c.Alone other id := by
  intro third conn place' flow
  by_cases eq : handle = third
  · subst eq
    cases place.symm.trans place'
    refine alone handle after ?_ (same.trans flow)
    rw [created]
    exact List.getElem?_set_self (List.getElem?_eq_some_iff.mp place).1
  · refine alone third conn ?_ flow
    rw [created, List.getElem?_set_ne eq]
    exact place'

theorem unforged_of_set (place : c.created[handle]? = some before)
    (created : c'.created = c.created.set handle after) (spared : after.Unforged → before.Unforged)
    (unforged : ∀ (other : Handle) conn, c'.created[other]? = some conn → conn.Unforged)
    (other : Handle) (conn : Connection) (place' : c.created[other]? = some conn) : conn.Unforged := by
  by_cases eq : handle = other
  · subst eq
    cases place.symm.trans place'
    refine spared (unforged handle after ?_)
    rw [created]
    exact List.getElem?_set_self (List.getElem?_eq_some_iff.mp place).1
  · refine unforged other conn ?_
    rw [created, List.getElem?_set_ne eq]
    exact place'

end Set

/-- What the stream of the client has of a flow is what the connection of the flow recorded. -/
structure Accounts (c : ClientContext) : Prop where
  carries : ∀ (handle : Handle) conn, c.created[handle]? = some (.tcp conn) → conn.Carries
  told : (∀ (handle : Handle) conn, c.created[handle]? = some conn → conn.Unforged) →
    ∀ (handle : Handle) conn, c.created[handle]? = some (.tcp conn) → c.Alone handle conn.id →
      c.client.appended.filterMap (segmentOf conn.id) = dataSegments conn.trace

namespace Accounts

variable {c c' : ClientContext}

theorem congr (accounts : c.Accounts) (created : c'.created = c.created)
    (appended : c'.client.appended = c.client.appended) : c'.Accounts where
  carries := created ▸ accounts.carries
  told := by
    unfold Alone
    rw [created, appended]
    exact accounts.told

/-- Blocks of another flow. -/
theorem filterMap_other {id id' : ConnectionId} {blocks : List (List UInt8)}
    (replies : ∀ raw ∈ blocks, IsReply id raw) (other : id ≠ id') :
    blocks.filterMap (segmentOf id') = [] :=
  List.filterMap_eq_nil_iff.mpr fun raw mem => (replies raw mem).segmentOf_other other

/-- The connection at a place of the client is another one than before, of the same flow, and what
was appended are packets of that flow. -/
theorem update (accounts : c.Accounts) {handle : Handle} {before after : Connection}
    {blocks : List (List UInt8)} (place : c.created[handle]? = some before)
    (created : c'.created = c.created.set handle after)
    (appended : c'.client.appended = c.client.appended ++ blocks) (same : after.id = before.id)
    (spared : after.Unforged → before.Unforged)
    (replies : after.Unforged → ∀ raw ∈ blocks, IsReply before.id raw)
    (tells : ∀ conn', after = .tcp conn' → ∃ conn actions, before = .tcp conn ∧ conn'.Carries ∧
      conn'.trace = conn.trace ++ actions ∧
        (after.Unforged → blocks.filterMap (segmentOf conn.id) = dataSegments actions)) :
    c'.Accounts := by
  have inside := (List.getElem?_eq_some_iff.mp place).1
  have here : c'.created[handle]? = some after := by
    rw [created]
    exact List.getElem?_set_self inside
  have there {other : Handle} (ne : handle ≠ other) : c'.created[other]? = c.created[other]? := by
    rw [created, List.getElem?_set_ne ne]
  refine ⟨fun other conn' place' => ?_, fun unforged other conn' place' alone => ?_⟩
  · by_cases eq : handle = other
    · subst eq
      obtain ⟨_, _, -, carries, -⟩ := tells conn' (Option.some.inj (here.symm.trans place'))
      exact carries
    · exact accounts.carries other conn' ((there eq).symm.trans place')
  · have unforged' : after.Unforged := unforged handle after here
    have earlier := unforged_of_set place created spared unforged
    have alone' := alone.of_set place created same
    by_cases eq : handle = other
    · subst eq
      cases here.symm.trans place'
      obtain ⟨conn, actions, rfl, -, trace, told⟩ := tells conn' rfl
      have flow : conn'.id = conn.id := same
      have told₀ := accounts.told earlier handle conn place (flow ▸ alone')
      rw [appended, List.filterMap_append, flow, told₀, told unforged', trace,
        TcpConnection.dataSegments_append_list]
    · have other_flow : before.id ≠ conn'.id := fun flow =>
        eq (alone handle after here (same.trans flow))
      rw [appended, List.filterMap_append, filterMap_other (replies unforged') other_flow,
        List.append_nil]
      exact accounts.told earlier other conn' ((there eq).symm.trans place') alone'

/-- A connection of the client is called. -/
theorem acts (accounts : c.Accounts) (replies : c.Replies) (routed : c.Routed) {handle : Handle}
    {conn : Connection} {call : ConnectionCall} {f : ConnectionContext}
    (place : c.created[handle]? = some conn) (quiet : call ≠ .next)
    (executes : (c.enter conn).Executes call f) : (c.leave f.removeIfClosed).Accounts := by
  obtain ⟨-, ⟨blocks, grown, answers⟩, spared⟩ := executes.replies (replies.faces handle conn place)
  have appended : (c.leave f.removeIfClosed).client.appended = c.client.appended ++ blocks :=
    f.removeIfClosed_appended.trans grown
  refine accounts.update place (routed.leave_created place executes.toActs) appended
    executes.toActs.id spared (fun _ => answers) fun conn' tcp => ?_
  obtain ⟨conn₁, kind⟩ := executes.tcp_of_tcp tcp
  have kind : conn = .tcp conn₁ := kind
  subst kind
  obtain ⟨_, tcp', carries, blocks', actions, grown', trace, told⟩ :=
    executes.tells quiet (accounts.carries handle conn₁ place)
  cases tcp.symm.trans tcp'
  cases List.append_cancel_left (grown.symm.trans grown')
  exact ⟨conn₁, actions, rfl, carries, trace, fun _ => told⟩

/-- A flow is opened: nothing of it is in the stream. -/
theorem insert (accounts : c.Accounts) (replies : c.Replies) {id : ConnectionId} {conn : Connection}
    {selector : Selector}
    (fresh : ∀ conn', conn = .tcp conn' → conn'.Carries ∧ conn'.trace = []) :
    (Router.insert c id conn selector).Accounts := by
  have created : (Router.insert c id conn selector).created = c.created ++ [conn] := rfl
  have kept {handle : Handle} {conn' : Connection} (place : c.created[handle]? = some conn') :
      (Router.insert c id conn selector).created[handle]? = some conn' := by
    rw [created, List.getElem?_append_left (List.getElem?_eq_some_iff.mp place).1]
    exact place
  refine ⟨fun handle conn' place => ?_, fun unforged handle conn' place alone => ?_⟩
  · rw [created, List.getElem?_append] at place
    split at place
    · exact accounts.carries handle conn' place
    · rw [List.getElem?_singleton] at place
      split at place
      · exact (fresh conn' (Option.some.inj place)).1
      · cases place
  · have earlier (handle : Handle) (conn : Connection) (place : c.created[handle]? = some conn) :
        conn.Unforged := unforged handle conn (kept place)
    rw [created, List.getElem?_append] at place
    split at place
    · exact accounts.told earlier handle conn' place fun other conn₁ place₁ =>
        alone other conn₁ (kept place₁)
    · rename_i new
      rw [List.getElem?_singleton] at place
      split at place
      · rw [(fresh conn' (Option.some.inj place)).2]
        refine List.filterMap_eq_nil_iff.mpr fun raw mem => ?_
        obtain ⟨other, conn₁, place₁, reply⟩ := replies.replies earlier raw mem
        refine reply.segmentOf_other fun same => new ?_
        rw [← alone other conn₁ (kept place₁) same]
        exact (List.getElem?_eq_some_iff.mp place₁).1
      · cases place

end Accounts

end ClientContext

/-- **Every move but a pull keeps the account.**  What a pull appends was built earlier, and the
record of it is made then; it is looked at apart. -/
theorem ClientMove.accounts {may : ConnectionCall → Prop} {reads : Prop} {c c' : ClientContext}
    (parsed : ∀ packet answers, may (.packet packet answers) →
      ∃ raw, IpPacket.parse raw = .ok (.ok packet)) (quiet : ¬ may .next)
    (routed : c.Routed) (replies : c.Replies) (accounts : c.Accounts)
    (move : ClientMove may reads c c') : c'.Accounts := by
  have other {call : ConnectionCall} (allowed : may call) : call ≠ .next := by
    rintro rfl
    exact quiet allowed
  cases move with
  | acts place _ allowed executes => exact accounts.acts replies routed place (other allowed) executes
  | @opens id conn selector packet answers f allowed flow new created executes =>
      obtain ⟨raw, parsed⟩ := parsed _ _ allowed
      have faces := Router.createConnection_faces parsed flow created
      have inserted : (Router.insert c id conn selector).Accounts := by
        refine accounts.insert replies fun conn' kind => ?_
        subst kind
        exact Router.createConnection_carries faces created
      exact inserted.acts (replies.insert faces) (Router.insert_routed routed new created)
        (Router.insert_place _ _ _ _) (by simp) executes
  | serves _ _ sends _ =>
      rcases sends with ⟨appended, -⟩ | ⟨pulls, -⟩
      · exact accounts.congr rfl appended
      · exact absurd pulls quiet
  | receives _ _ => exact accounts.congr rfl rfl
  | sendsId _ _ => exact accounts.congr rfl rfl
  | writes _ _ => exact accounts.congr rfl rfl
  | closes => exact accounts.congr rfl rfl

/-- What holds of a client between the moves, and between the pulls.  The accounts of each
connection are about what was appended for it, and they need the stream to be made of whole
packets. -/
structure ClientContext.Books (c : ClientContext) : Prop where
  routed : c.Routed
  framed : c.Framed
  replies : c.Replies
  accounts : c.Accounts

theorem ClientMoves.books {may : ConnectionCall → Prop} {reads : Prop} {c c' : ClientContext}
    (parsed : ∀ packet answers, may (.packet packet answers) →
      ∃ raw, IpPacket.parse raw = .ok (.ok packet)) (quiet : ¬ may .next)
    (books : c.Books) (moves : ClientMoves may reads c c') : c'.Books := by
  refine ClientMoves.invariant (P := ClientContext.Books) (fun d d' routed books move => ?_)
    books.routed books moves
  exact ⟨move.routed routed, move.framed parsed routed books.framed,
    move.replies parsed routed books.framed books.replies,
    move.accounts parsed quiet routed books.replies books.accounts⟩

/-! ## What waits is pulled -/

namespace ClientContext

variable {c c' : ClientContext}

/-- Nothing keeps a packet of a TCP connection back but the room in the stream. -/
theorem pull_accounts {source : Handle} (routed : c.Routed) (framed : c.Framed)
    (accounts : c.Accounts) (h : c.pull source = .ok c') : c'.Accounts := by
  unfold pull at h
  split at h
  · rename_i conn place
    split at h
    · cases h
    · rename_i packet got
      obtain ⟨⟨sent, client, selector⟩, offered, h⟩ := bind_eq_ok.mp h
      obtain ⟨-, -, -, kind⟩ := Client.sendRawToClient_ok offered
      have carries : conn.Carries := accounts.carries source conn place
      -- the packet goes into the stream, and this is recorded
      have delivers {f : TcpContext} (appended : client.appended = c.client.appended ++ [packet.raw])
          (next : TcpContext.next ⟨conn, client, selector⟩ = .ok f) :
          (c.leave f.asConnection).Accounts := by
        obtain ⟨isOpen, stays, proceeds⟩ := TcpContext.next_proceeds next
        obtain ⟨id, kept, trace, carries'⟩ := TcpContext.next_tells got next
        have executes : (⟨.tcp conn, client, selector⟩ : ConnectionContext).Executes .next
            f.asConnection := proceeds.executes ⟨conn, f, rfl, next, rfl⟩
        have created : (c.leave f.asConnection).created = c.created.set source (.tcp f.conn) := by
          have handle : f.conn.handle = source :=
            executes.toActs.handle.trans (routed.places _ _ place)
          show c.created.set f.conn.handle _ = _
          rw [handle]
          rfl
        have before : f.conn.Unforged → conn.Unforged := fun unforged =>
          unforged.of_prefix (trace ▸ List.prefix_append _ _)
        -- it is the one that was deferred
        have deferred (unforged : f.conn.Unforged) : packet.raw ∈ conn.deferredPackets := by
          have stores : conn.Stores := framed.stores source _ place
          rw [stores.order.mp (before unforged), TcpConnection.waitingPacket, got]
          exact List.mem_append_right _ (List.mem_singleton_self _)
        refine accounts.update place created (kept.trans appended) id before ?_ ?_
        · intro unforged raw mem
          rw [List.mem_singleton.mp mem]
          exact carries.faces.deferred _ (deferred unforged)
        · rintro _ ⟨⟩
          refine ⟨conn, _, rfl, carries' carries, trace, fun unforged => ?_⟩
          have mem := deferred unforged
          rw [List.filterMap_cons_some ((carries.faces.deferred _ mem).segmentOf_data
            (carries.data _ mem))]
          rfl
      rcases kind with ⟨rfl, -, -, appended⟩ | ⟨rfl, -, rfl, -⟩
      · obtain ⟨f, next, rest⟩ := bind_eq_ok.mp h
        cases rest
        exact delivers appended next
      · cases h
        exact accounts.congr rfl rfl
  · cases h

theorem Books.pull {source : Handle} (books : c.Books) (h : c.pull source = .ok c') : c'.Books := by
  have moves : ClientMoves (fun call => call = .next) False c c' := pull_moves rfl h
  obtain ⟨framed, replies⟩ := moves.facing (by simp) books.routed books.framed books.replies
  exact ⟨moves.routed books.routed, framed, replies,
    pull_accounts books.routed books.framed books.accounts h⟩

theorem Books.congr (books : c.Books) (created : c'.created = c.created)
    (connections : c'.client.connections = c.client.connections)
    (appended : c'.client.appended = c.client.appended) : c'.Books :=
  ⟨books.routed.congr created connections, books.framed.congr created appended,
    books.replies.congr created appended, books.accounts.congr created appended⟩

theorem Books.processPending (books : c.Books) (h : c.processPending = .ok c') : c'.Books := by
  have pulls (sources : List Handle) (c₁ : ClientContext) (books : c₁.Books)
      (h : sources.foldlM ClientContext.pull c₁ = .ok c') : c'.Books := by
    induction sources generalizing c₁ with
    | nil =>
        cases h
        exact books
    | cons source sources ih =>
        rw [List.foldlM_cons] at h
        obtain ⟨c₂, pulled, rest⟩ := bind_eq_ok.mp h
        exact ih c₂ (books.pull pulled) rest
  have emptied : ({ c with client := { c.client with pendingPacketSources := [] } } :
      ClientContext).Books := books.congr rfl rfl rfl
  exact pulls c.client.pendingPacketSources _ emptied h

/-- The writable half of an event of the client. -/
theorem Books.processSend {write : IoResult ℕ} {result : IoResult Unit} (books : c.Books)
    (h : c.processSend write = .ok (result, c')) : c'.Books := by
  have closes {c : ClientContext} (books : c.Books) (h : c.close = .ok c') : c'.Books := by
    have moves : ClientMoves (fun call => call = .close) False c c' := close_moves rfl books.routed h
    exact moves.books (by simp) (by simp) books
  unfold ClientContext.processSend at h
  split at h
  · obtain ⟨⟨answer, c₁⟩, sent, h⟩ := bind_eq_ok.mp h
    have moves : ClientMoves (fun _ => False) False c c₁ := sendId_moves sent
    have books₁ : c₁.Books := moves.books (by simp) id books
    cases answer with
    | ok _ =>
        cases h
        exact books₁
    | error err =>
        cases err with
        | wouldBlock =>
            cases h
            exact books₁
        | other =>
            obtain ⟨c₂, closed, rest⟩ := bind_eq_ok.mp h
            cases rest
            exact closes books₁ closed
  · rename_i done
    have moves : ClientMoves (fun _ => False) False c (c.write write).2 :=
      write_moves (by rwa [Bool.not_eq_true] at done)
    have books₁ : (c.write write).2.Books := moves.books (by simp) id books
    split at h
    · rename_i c₁ wrote
      rw [wrote] at books₁
      obtain ⟨c₂, pulled, rest⟩ := bind_eq_ok.mp h
      cases rest
      exact books₁.processPending pulled
    · rename_i c₁ wrote
      rw [wrote] at books₁
      obtain ⟨c₂, closed, rest⟩ := bind_eq_ok.mp h
      cases rest
      exact closes books₁ closed

end ClientContext

/-! ## Every run -/

namespace TcpLife

/-- The invariant of the segments that a connection hands over. -/
theorem downloads_of_run {t : List (TcpLife × Label)} {s : TcpLife} (run : machine.Run t s)
    (undisturbed : Each Undisturbed s.conn.trace) : Downloads s.conn := by
  refine run_invariant (fun conn => Each Undisturbed conn.trace → Downloads conn)
    (fun conn fresh _ => .of_fresh fresh) ?_ ?_ run (Machine.meets_true t) undisturbed
  · intro s packet random overflowChecks now header c c₁ _ _ same inv arrived undisturbed
    have earlier := undisturbed.of_prefix arrived.trace_prefix
    have touched : Downloads c.conn := by
      rw [same] at earlier ⊢
      have inv := inv earlier
      exact inv.congr inv.forTcp rfl (.inl rfl) rfl (.inl ⟨rfl, rfl⟩)
    exact touched.arrival arrived
  · intro may c c' connected inv move undisturbed
    exact (inv (undisturbed.of_prefix move.trace_prefix)).move connected undisturbed move

end TcpLife

namespace Relay

variable {s s' : Relay} {label : Label} {t : List (Relay × Label)}

/-- **Every step keeps the account.**  The step lemma behind `run_downloads`: the segments of the
flow in the client's stream are those that its connection has recorded, in each state that is
reached. -/
theorem Step.books (books : s.Books) (step : Step s label s') : s'.Books := by
  have parsed (packet : IpPacket) (answers : PacketAnswers)
      (allowed : s.Causes label (.packet packet answers) ∧ ConnectionCall.packet packet answers ≠ .next) :
      ∃ raw, IpPacket.parse raw = .ok (.ok packet) := Causes.parsed allowed.1
  have kept {reads : Prop} {c c' : ClientContext} (books : c.Books)
      (moves : ClientMoves (fun call => s.Causes label call ∧ call ≠ .next) reads c c') : c'.Books :=
    moves.books parsed (fun both => both.2 rfl) books
  cases step with
  | poll _ _ => exact books
  | @reap clock _ cleaned =>
      have moves : ClientMoves (fun call => s.Causes (.reap clock) call ∧ call ≠ .next) False
          s.toClientContext _ :=
        Router.cleanExpiredConnections_moves ⟨.reap, by simp⟩ books.routed cleaned
      exact kept books moves
  | @handle source ready batch answers c next handled =>
      cases source with
      | client =>
          obtain ⟨c₁, wrote, moves⟩ : ∃ c₁, (c₁ = s.toClientContext ∨
              ∃ sent, s.processSend answers.socket.write = .ok (sent, c₁)) ∧
              ClientMoves (fun call => s.Causes (.handle answers) call ∧ call ≠ .next) True c₁ c :=
            ClientContext.onReady_moves ⟨.client next .close, by simp⟩
              (fun k packet brings => ⟨.client next (.packet brings), by simp⟩) books.routed handled
          rcases wrote with rfl | ⟨sent, wrote⟩
          · exact kept books moves
          · exact kept (books.processSend wrote) moves
      | connection handle =>
          exact kept books (ClientContext.dispatch_moves (fun _ => ⟨.connection next, by simp⟩)
            (fun is => by cases is) books.routed handled)
  | release _ => exact books.congr rfl rfl rfl
  | rehash perm =>
      exact ⟨Step.routed books.routed (.rehash perm), books.framed.congr rfl rfl,
        books.replies.congr rfl rfl, books.accounts.congr rfl rfl⟩

theorem run_books (run : machine.Run t s) : s.Books := by
  refine run.invariant (fun s => s.Books) ?_ (fun s label s' books _ step => Step.books books step)
    (Machine.meets_true t)
  rintro _ ⟨id, rfl⟩
  have start : machine.Run [] (create id) := .start ⟨id, rfl⟩
  refine ⟨run_routed start, run_framed start, run_facing start, fun handle conn place => ?_,
    fun _ handle conn place => ?_⟩
  · cases place
  · cases place

/-- The segments of a connection tile the sequence space also among those of others. -/
theorem run_tiles (run : machine.Run t s) {handle : Handle} {conn : TcpConnection}
    (place : s.created[handle]? = some (.tcp conn)) (undisturbed : Each Undisturbed conn.trace)
    {isn : UInt32} (opened : .opened isn ∈ conn.trace) :
    Tiles isn (hostRead conn.trace) (dataSegments conn.trace) := by
  obtain ⟨life, armed, lives⟩ := run_life run place
  exact (TcpLife.downloads_of_run lives undisturbed).tiles isn opened

/-- What the stream has of a flow is what its one connection has handed over. -/
theorem run_told (run : machine.Run t s) (unforged : s.Unforged) {handle : Handle}
    {conn : TcpConnection} (place : s.created[handle]? = some (.tcp conn))
    (alone : s.Alone handle conn.id) :
    s.client.appended.filterMap (segmentOf conn.id) = dataSegments conn.trace :=
  (run_books run).accounts.told unforged.all handle conn place alone

/-- Together with what waits it is what the host sent. -/
theorem run_carried (run : machine.Run t s) (unforged : s.Unforged) {handle : Handle}
    {conn : TcpConnection} (place : s.created[handle]? = some (.tcp conn)) :
    carriedBytes (dataSegments conn.trace) ++ carriedBytes (conn.waitingPacket.map Segment.ofRaw) =
      hostRead conn.trace :=
  ((run_books run).accounts.carries handle conn place).carried (unforged handle conn place)

/-- **A download comes through the relay.**  Of a flow that has one connection, the client's stream
has the data segments that this connection handed over, in their order and whatever other flows have
put between them; and their bytes, with those of the packet that waits, are what the host sent.  If
nothing has disturbed the connection, each byte has its own sequence number. -/
theorem run_downloads (run : machine.Run t s) (unforged : s.Unforged) {handle : Handle}
    {conn : TcpConnection} (place : s.created[handle]? = some (.tcp conn))
    (alone : s.Alone handle conn.id) :
    carriedBytes (s.client.appended.filterMap (segmentOf conn.id)) ++
        carriedBytes (conn.waitingPacket.map Segment.ofRaw) = hostRead conn.trace ∧
      (Each Undisturbed conn.trace → ∀ isn, .opened isn ∈ conn.trace →
        Tiles isn (hostRead conn.trace) (s.client.appended.filterMap (segmentOf conn.id))) := by
  rw [run_told run unforged place alone]
  exact ⟨run_carried run unforged place,
    fun undisturbed isn opened => run_tiles run place undisturbed opened⟩

/-- A byte of the host is read. -/
theorem run_downloads_byte : ∃ t s conn, machine.Run t s ∧ s.created[0]? = some (.tcp conn) ∧
    carriedBytes (s.client.appended.filterMap (segmentOf conn.id)) ++
        carriedBytes (conn.waitingPacket.map Segment.ofRaw) = [0x61] ∧
      (Each Undisturbed conn.trace →
        Tiles 0 [0x61] (s.client.appended.filterMap (segmentOf conn.id))) := by
  obtain ⟨t₀, s₀, run₀, idle₀, rest₀, same₀⟩ := run_identified 0
  have unknown : s₀.connectionOf segmentId = none := by
    rw [same₀]
    rfl
  have first : s₀.created = [] := by rw [same₀]; rfl
  obtain ⟨t₁, s₁, conn₁, run₁, idle₁, rest₁, -, created₁, forTcp, p, synAck, -, same₁⟩ :=
    run_established run₀ idle₀ rest₀ unknown
  rw [first, List.nil_append] at created₁
  have place₁ : s₁.created[0]? = some (.tcp conn₁) := by
    rw [created₁]
    rfl
  let answers : EventAnswers :=
    ⟨⟨.ok none, .ok 0, .ok [0x61]⟩, 0, fun _ => ⟨0, false, 0, .ok (), .ok 0⟩⟩
  have isOpen : conn₁.closed = false := by
    rw [same₁]
    rfl
  have tcb : conn₁.tcb = { Tcb.new with
      state := .established
      acknowledgementNumber := 1
      sequenceNumber := 1
      theirAcknowledgementNumber := 1
      clientWindow := 65535 } := by rw [same₁]
  obtain ⟨c, packetizer, raw, happened, -, -, -, -, -, kind⟩ :=
    @TcpContext.Usable.read ⟨conn₁, s₁.client, s₁.selector⟩ 0 answers.socket [0x61]
      (usable run₁ rest₁ place₁ isOpen forTcp s₁.client) (by rw [same₁]; rfl) (by rw [tcb]; decide)
      (List.cons_ne_nil _ _) (by rw [TcpContext.receivable, tcb]; decide) rfl
  -- handed over or not
  obtain ⟨last, trace, plain, handle⟩ : ∃ last, c.conn.trace =
      conn₁.trace ++ [TcpAction.read [0x61], last] ∧ (last = .handed raw ∨ last = .deferred raw) ∧
        c.conn.handle = conn₁.handle := by
    rcases kind with ⟨-, -, same⟩ | ⟨-, -, -, same⟩
    · exact ⟨.handed raw, by rw [same]; rfl, .inl rfl, by rw [same]; rfl⟩
    · exact ⟨.deferred raw, by rw [same]; rfl, .inr rfl, by rw [same]; rfl⟩
  have within : Ready.readable.Within conn₁.interests := by
    rw [same₁]
    exact Ready.within_refl _
  obtain ⟨t₂, s₂, run₂, -, -, -, created₂, -⟩ :=
    run_tcp run₁ idle₁ rest₁ place₁ isOpen within (by decide) happened handle
  have created₂ : s₂.created = [.tcp c.conn] := by
    rw [created₂, created₁]
    rfl
  have place₂ : s₂.created[0]? = some (.tcp c.conn) := by
    rw [created₂]
    rfl
  have whole : c.conn.trace =
      [.opened 0, .forged synAck false, .read [0x61], last] := by
    rw [trace, same₁]
    rfl
  have unforged : s₂.Unforged := by
    intro other conn place forged mem
    cases (place_of_only created₂ place).2
    rw [whole] at mem
    rcases plain with rfl | rfl <;> simp at mem
  have read : hostRead c.conn.trace = [0x61] := by
    rw [whole]
    rcases plain with rfl | rfl <;> rfl
  obtain ⟨bytes, tiles⟩ := run_downloads run₂.run unforged place₂ fun _ _ place _ =>
    (place_of_only created₂ place).1
  rw [read] at bytes tiles
  exact ⟨t₂, s₂, c.conn, run₂.run, place₂, bytes,
    fun undisturbed => tiles undisturbed 0 (by rw [whole]; simp)⟩

end Relay

end ReverseTether
