import ReverseTether.Ipv6RoundTrip
import ReverseTether.RelayFlows
import ReverseTether.TcpOutputs

/-!
# Every packet to the client is a reply

A block in the stream to a client is one whole packet, and it goes back to where a packet of the
client came from: `run_replies` says so of every run and of all flows together, over IPv4 and
IPv6.  So nothing that a host sends reaches an endpoint of the client that did not ask for it.

The headers of a packetizer face the client from the first packet of the flow on
(`Packetizer.Faces`), because only numbers, flags, lengths and checksums are rewritten.  A TCP
packet that waits is the exception that `OutgoingPackets` is about, so the connections must not
have forged a segment meanwhile.

`IsReply` is about the bytes: the packet parses, nothing follows it, and its endpoints are
those of the flow the other way round.  `Router.createConnection_faces` is where a reply gets
its address, once for each flow, and no method of a connection can change it later.
-/

namespace ReverseTether

open Library Relation

/-- `raw` is one whole packet, which goes back to the source of the flow. -/
def IsReply (id : ConnectionId) (raw : List UInt8) : Prop :=
  ∃ packet, IpPacket.parse raw = .ok (.ok packet) ∧ packet.raw = raw ∧
    ConnectionId.fromPacket packet = some id.reverse

/-- The payload of a packet. -/
def IpPacket.payload? : IpPacket → Option (List UInt8)
  | .ipv4 packet => packet.payload.toOption.join
  | .ipv6 packet => packet.payload.toOption.join

/-- The payload of a packet to the client, if it is one of the flow. -/
def payloadOf (id : ConnectionId) (raw : List UInt8) : Option (List UInt8) :=
  match IpPacket.parse raw with
  | .ok (.ok packet) =>
      if ConnectionId.fromPacket packet = some id.reverse then packet.payload? else none
  | _ => none

/-- The payload that is counted for a flow is that of its packets. -/
theorem payloadOf_eq {id : ConnectionId} {raw : List UInt8} {packet : IpPacket}
    (parsed : IpPacket.parse raw = .ok (.ok packet))
    (flow : ConnectionId.fromPacket packet = some id.reverse) : payloadOf id raw = packet.payload? := by
  rw [payloadOf, parsed]
  exact if_pos flow

/-! ## Packetizers that face the client -/

namespace Packetizer

variable {p p' : Packetizer} {id : ConnectionId} {data : List UInt8} {packet : Ipv4Packet}

/-- What is built goes back to the source of the flow.  The flow of a built packet is the reverse
of the connection's, and it is no fragment. -/
structure Faces (p : Packetizer) (id : ConnectionId) : Prop where
  whole : ¬ IsFragment p.ipv4Header.raw
  flow : ConnectionId.fromHeaders p.ipv4Header.data p.transportHeader.data = id.reverse

/-- The headers that a build rewrites name the same endpoints. -/
theorem Faces.serves (faces : p.Faces id) (wf : p.WellFormed) (serves : p.Serves p') : p'.Faces id := by
  refine ⟨serves.whole faces.whole, ?_⟩
  obtain ⟨protocol, source, destination⟩ := serves.endpoints wf
  rw [← faces.flow, serves.alike.data]
  simp only [ConnectionId.fromHeaders, protocol, source, destination]

/-- **What a packetizer builds for a client is a reply**, if its reference headers face the client.
It goes from the destination of the flow to its source, whatever the payload and the flags are,
since a packetizer rewrites neither an address nor a port. -/
theorem Faces.reply (faces : p'.Faces id) (built : p.Built p' data packet) : IsReply id packet.raw := by
  refine ⟨.ipv4 packet, IpPacket.parse_ipv4_iff.mpr (built.readFrom faces.whole), rfl, ?_⟩
  rw [← faces.flow, ConnectionId.fromPacket, built.inflated]
  rfl

/-- A built packet has its payload. -/
theorem Built.payloadOf (faces : p'.Faces id) (built : p.Built p' data packet) :
    ReverseTether.payloadOf id packet.raw = some data := by
  obtain ⟨packet', parsed, -, flow⟩ := faces.reply built
  have same : packet' = .ipv4 packet := by
    have parsed' := IpPacket.parse_ipv4_iff.mpr (built.readFrom faces.whole)
    cases parsed.symm.trans parsed'
    rfl
  rw [same] at parsed flow
  rw [payloadOf_eq parsed flow, IpPacket.payload?, built.payload]
  rfl

/-- What is made of a datagram carries what there is room for of it. -/
theorem Faces.payloadOf_packetize (faces : p.Faces id) (wf : p.WellFormed)
    (packetized : p.packetize (.ok data) = .ok (.ok packet, p')) :
    ReverseTether.payloadOf id packet.raw = some (data.take p.payload.length) := by
  obtain ⟨⟨packet', q⟩, made, rest⟩ := bind_eq_ok.mp packetized
  cases rest
  have serves : p.Serves p := ⟨wf, .refl p⟩
  have short := List.length_take_le p.payload.length data
  obtain ⟨packet', q, made', serves', built⟩ := serves.build short (serves.fits short made)
  cases made.symm.trans made'
  exact built.payloadOf (faces.serves wf serves')

/-- **What any call builds is a reply**, and it leaves the packetizer facing the client.  A call
that fails has built nothing. -/
theorem Faces.call (faces : p.Faces id) (wf : p.WellFormed) {c : Call}
    {result : IoResult (Option Ipv4Packet)} (called : p.call c = .ok (result, p')) :
    p'.WellFormed ∧ p'.Faces id ∧ ∀ packet, result = .ok (some packet) → IsReply id packet.raw := by
  have serves : p.Serves p := ⟨wf, .refl p⟩
  cases payload : p.payloadOf c with
  | none =>
      obtain ⟨result', same, none⟩ := call_of_none payload
      cases called.symm.trans same
      exact ⟨wf, faces, fun packet built => absurd built (none packet)⟩
  | some data =>
      obtain ⟨received, same⟩ := call_eq_build payload
      rw [same] at called
      obtain ⟨⟨packet, q⟩, built, rest⟩ := bind_eq_ok.mp called
      cases rest
      obtain ⟨packet', q', built', serves', made⟩ := serves.build received (serves.fits received built)
      cases built.symm.trans built'
      have faces' := faces.serves wf serves'
      refine ⟨serves'.wellFormed, faces', fun packet' same => ?_⟩
      cases same
      exact faces'.reply made

/-- **A new packetizer faces the sender of the headers.**  The addresses and ports are swapped when
it is made, and never again. -/
theorem new_faces {ipv4 : Ipv4Header} {transport : TransportHeader} (wfIpv4 : ipv4.WellFormed)
    (wfTransport : transport.WellFormed) (whole : ¬ IsFragment ipv4.raw)
    (created : Packetizer.new ipv4 transport = .ok p) :
    p.Faces (.fromHeaders ipv4.data transport.data) := by
  obtain ⟨ipv4Swapped, transportSwapped⟩ := new_eq_ok created
  obtain ⟨h, eq, -, keeps, dataIpv4⟩ := wfIpv4.swapSourceAndDestination
  cases ipv4Swapped.symm.trans eq
  obtain ⟨t, eq, -, -, dataTransport⟩ := wfTransport.swapSourceAndDestination
  cases transportSwapped.symm.trans eq
  obtain ⟨sourcePort, destinationPort⟩ := swapped_ports dataTransport
  refine ⟨?_, ?_⟩
  · rw [IsFragment, keeps.2 6 (by omega), keeps.2 7 (by omega)]
    exact whole
  · simp only [ConnectionId.fromHeaders, ConnectionId.reverse, dataIpv4, sourcePort, destinationPort]

end Packetizer

/-- A header that has the endpoints of the packetizer's reference. -/
theorem Packetizer.Reverses.faces {fresh : Packetizer} {reference : Ipv4Packet} {id : ConnectionId}
    (reverses : fresh.Reverses reference)
    (flow : ConnectionId.fromPacket (.ipv4 reference) = some id) : fresh.Faces id := by
  obtain ⟨d, some, sourcePort, destinationPort⟩ := reverses.ports
  rw [ConnectionId.fromPacket, some] at flow
  refine ⟨reverses.whole, ?_⟩
  rw [← Option.some.inj flow]
  simp only [ConnectionId.fromHeaders, ConnectionId.reverse, reverses.protocol, reverses.source,
    reverses.destination, sourcePort, destinationPort]

/-- The options of TCP are cut off, and the ports stay. -/
theorem TcpHeader.WellFormed.shrinks {h shrinked : TcpHeader} {shrinkedRaw : List UInt8}
    (wf : h.WellFormed) (cut : readSlice h.raw 0 20 = .ok shrinkedRaw)
    (shrunk : shrinkOptions ⟨shrinkedRaw, h.data⟩ = .ok shrinked) :
    shrinked.WellFormed ∧ shrinked.data = { h.data with headerLength := 20 } := by
  have long := wf.long
  obtain ⟨-, -, rfl⟩ := readSlice_eq_ok cut
  have front : (h.raw.take 20).length = 20 := List.length_take_of_le long
  have mirrors : h.data = .ofRaw (h.raw.take 20) := by
    rw [wf.mirrors]
    conv_lhs => rw [← List.take_append_drop 20 h.raw]
    exact TcpHeaderData.ofRaw_append (by omega) _
  rw [slice_zero] at shrunk
  obtain ⟨shrinked', shrunk', wf', -, data⟩ :=
    TcpHeader.shrinkOptions_ok (h := ⟨h.raw.take 20, h.data⟩) front mirrors
  cases shrunk.symm.trans shrunk'
  exact ⟨wf', data⟩

/-- **The packetizer of a new TCP connection** faces the sender of the SYN. Its header is that of
the SYN without the options, which the addresses and ports do not depend on. -/
theorem Ipv4Packet.ReadFrom.shrinked_faces {raw : List UInt8} {packet : Ipv4Packet}
    (read : packet.ReadFrom raw) (tcp : packet.ipv4HeaderData.protocol = .tcp) {id : ConnectionId}
    (flow : ConnectionId.fromPacket (.ipv4 packet) = some id) {ipv4Header : Ipv4Header}
    {header shrinked : TcpHeader} {shrinkedRaw : List UInt8} {p : Packetizer}
    (headers : packet.headers = .ok (ipv4Header, some (.tcp header)))
    (cut : readSlice header.raw 0 20 = .ok shrinkedRaw)
    (shrunk : TcpHeader.shrinkOptions ⟨shrinkedRaw, header.data⟩ = .ok shrinked)
    (created : Packetizer.new ipv4Header (.tcp shrinked) = .ok p) : p.Faces id := by
  have least := read.long
  obtain ⟨transport, headers', wf, wfTransport, some, -⟩ := read.headers (by rw [tcp]; simp)
  cases headers.symm.trans headers'
  obtain ⟨wfShrinked, data⟩ := TcpHeader.WellFormed.shrinks wfTransport cut shrunk
  rw [ConnectionId.fromPacket, some, read.header] at flow
  have kept {k : ℕ} (inside : k < 20) :
      getByte (raw.take (ipv4HeaderLength raw)) k = getByte raw k := getByte_take (by omega)
  have faces := Packetizer.new_faces wf (show TransportHeader.WellFormed (.tcp shrinked) from wfShrinked)
    (by
      rw [IsFragment, kept (by omega), kept (by omega)]
      exact read.whole) created
  refine ⟨faces.whole, faces.flow.trans ?_⟩
  rw [← Option.some.inj flow]
  show ConnectionId.reverse (.fromHeaders _ (.tcp shrinked.data)) = _
  rw [data]
  rfl

/-- The numbers and the flags of a segment are no part of its flow. -/
theorem TcpConnection.updateHeaders_faces {p p' : Packetizer} {id : ConnectionId} {tcb : Tcb}
    {flags : UInt16} (faces : p.Faces id) (updated : updateHeaders p tcb flags = .ok p') :
    p'.Faces id := by
  obtain ⟨header, isTcp, updated⟩ := bind_eq_ok.mp updated
  obtain ⟨h₁, first, updated⟩ := bind_eq_ok.mp updated
  obtain ⟨h₂, second, updated⟩ := bind_eq_ok.mp updated
  obtain ⟨h₃, third, rest⟩ := bind_eq_ok.mp updated
  obtain ⟨_, -, rest₁⟩ := bind_eq_ok.mp first
  obtain ⟨_, -, rest₂⟩ := bind_eq_ok.mp second
  obtain ⟨_, -, third⟩ := bind_eq_ok.mp third
  obtain ⟨_, -, rest₃⟩ := bind_eq_ok.mp third
  cases rest₁
  cases rest₂
  cases rest₃
  cases rest
  have is : p.transportHeader = .tcp header := by
    cases same : p.transportHeader with
    | tcp _ =>
        rw [same] at isTcp
        cases isTcp
        rfl
    | udp _ =>
        rw [same] at isTcp
        cases isTcp
  refine ⟨faces.whole, ?_⟩
  rw [← faces.flow, is]
  rfl

/-- An empty segment is a reply, too, and leaves the packetizer as it faced. -/
theorem TcpConnection.createEmptyResponsePacket_faces {p p' : Packetizer} {id : ConnectionId}
    {tcb : Tcb} {flags : UInt16} {packet : Ipv4Packet} (forTcp : p.ForTcp) (faces : p.Faces id)
    (mem : flags ∈ relayFlags)
    (created : createEmptyResponsePacket p tcb flags = .ok (packet, p')) :
    p'.ForTcp ∧ p'.Faces id ∧ IsReply id packet.raw := by
  obtain ⟨packet', q, created', forTcp', -⟩ := forTcp.createEmptyResponsePacket tcb mem
  cases created.symm.trans created'
  obtain ⟨primed, updated, built⟩ := bind_eq_ok.mp created
  obtain ⟨header, updated', primed', -⟩ := forTcp.updateHeaders tcb mem
  cases updated.symm.trans updated'
  have called : Packetizer.call { p with transportHeader := .tcp header } .packetizeEmptyPayload =
      .ok (.ok (some packet), p') := bind_eq_ok.mpr ⟨_, built, rfl⟩
  obtain ⟨-, faces', reply⟩ := (updateHeaders_faces faces updated).call primed'.wellFormed called
  exact ⟨forTcp', faces', reply packet rfl⟩

/-! ## What a connection sends -/

/-- Replies of one flow were appended to the stream, and nothing else.  The other flows of the
client append theirs in other steps. -/
def Client.AppendsReplies (id : ConnectionId) (client client' : Client) : Prop :=
  ∃ blocks, client'.appended = client.appended ++ blocks ∧ ∀ raw ∈ blocks, IsReply id raw

namespace Client.AppendsReplies

variable {id : ConnectionId} {client client₁ client' : Client}

/-- A client whose stream did not grow was appended no reply. -/
theorem of_same (same : client'.appended = client.appended) : client.AppendsReplies id client' :=
  ⟨[], by rw [same, List.append_nil], by simp⟩

theorem trans (first : client.AppendsReplies id client₁) (second : client₁.AppendsReplies id client') :
    client.AppendsReplies id client' := by
  obtain ⟨blocks, appended, replies⟩ := first
  obtain ⟨blocks', appended', replies'⟩ := second
  refine ⟨blocks ++ blocks', by rw [appended', appended, List.append_assoc], fun raw mem => ?_⟩
  exact (List.mem_append.mp mem).elim (replies raw) (replies' raw)

/-- A reply is appended whole, or not at all. -/
theorem of_send {selector selector' : Selector} {raw : List UInt8} {sent : IoResult Unit}
    (reply : IsReply id raw)
    (offered : client.sendRawToClient selector raw = .ok (sent, client', selector')) :
    client.AppendsReplies id client' := by
  obtain ⟨-, -, -, ⟨-, -, -, appended⟩ | ⟨-, -, rfl, -⟩⟩ := Client.sendRawToClient_ok offered
  · refine ⟨[raw], appended, fun raw' mem => ?_⟩
    rw [List.mem_singleton.mp mem]
    exact reply
  · exact of_same rfl

end Client.AppendsReplies

/-! ### TCP -/

/-- A TCP connection that faces the client, and whatever it deferred does too. -/
structure TcpConnection.Faces (conn : TcpConnection) : Prop where
  forTcp : conn.networkToClient.ForTcp
  faces : conn.networkToClient.Faces conn.id
  deferred : ∀ raw ∈ conn.deferredPackets, IsReply conn.id raw

/-- What a step appends are replies.  The packetizer goes on facing the client, so that the steps
can be put one behind the other. -/
def TcpContext.Replies (c c' : TcpContext) : Prop :=
  c.conn.Faces → c'.conn.Faces ∧ c'.conn.id = c.conn.id ∧
    c.client.AppendsReplies c.conn.id c'.client

namespace TcpContext

variable {c c₁ c' : TcpContext}

theorem Replies.trans (first : c.Replies c₁) (second : c₁.Replies c') : c.Replies c' := by
  intro faces
  obtain ⟨faces₁, same₁, appends₁⟩ := first faces
  obtain ⟨faces', same', appends'⟩ := second faces₁
  rw [same₁] at same' appends'
  exact ⟨faces', same', appends₁.trans appends'⟩

/-- What is recorded is no packet that was deferred. -/
theorem Replies.of_same {actions : List TcpAction}
    (packetizer : c'.conn.networkToClient = c.conn.networkToClient) (id : c'.conn.id = c.conn.id)
    (trace : c'.conn.trace = c.conn.trace ++ actions)
    (plain : actions.filterMap TcpAction.deferred? = [])
    (appended : c'.client.appended = c.client.appended) : c.Replies c' := by
  intro faces
  have deferred : c'.conn.deferredPackets = c.conn.deferredPackets := by
    rw [TcpConnection.deferredPackets, trace, List.filterMap_append, plain, List.append_nil]
    rfl
  refine ⟨⟨packetizer ▸ faces.forTcp, ?_, ?_⟩, id, .of_same appended⟩
  · rw [packetizer, id]
    exact faces.faces
  · rw [deferred, id]
    exact faces.deferred

/-- A forged segment is a reply. -/
theorem reply_replies {flags : UInt16} (mem : flags ∈ relayFlags)
    (h : c.replyEmptyPacketToClient flags = .ok c') : c.Replies c' := by
  intro faces
  obtain ⟨packet, packetizer, sent, created, offered, same⟩ := replyEmptyPacketToClient_ok h
  obtain ⟨forTcp, faces', reply⟩ :=
    TcpConnection.createEmptyResponsePacket_faces faces.forTcp faces.faces mem created
  refine ⟨?_, by rw [same]; rfl, .of_send reply offered⟩
  have deferred : c'.conn.deferredPackets = c.conn.deferredPackets := by
    rw [same]
    exact List.filterMap_append.trans (List.append_nil _)
  rw [same] at deferred ⊢
  exact ⟨forTcp, faces', deferred ▸ faces.deferred⟩

/-- Bytes of the host become a reply. -/
theorem packetizeRead_faces {primed packetizer : Packetizer} {available : List UInt8}
    {packet : Ipv4Packet} (faces : c.conn.Faces)
    (updated : TcpConnection.updateHeaders c.conn.networkToClient c.conn.tcb (flagAck ||| flagPsh) =
      .ok primed)
    (packetized : primed.packetizeRead (.ok available) c.receivable =
      .ok (.ok (some packet), packetizer)) :
    packetizer.ForTcp ∧ packetizer.Faces c.conn.id ∧ IsReply c.conn.id packet.raw := by
  have primed' : primed.WellFormed := by
    obtain ⟨header, updated', forTcp, -⟩ :=
      faces.forTcp.updateHeaders c.conn.tcb (show flagAck ||| flagPsh ∈ relayFlags by decide)
    cases updated.symm.trans updated'
    exact forTcp.wellFormed
  have called : primed.call (.packetizeRead (.ok available) c.receivable) =
      .ok (.ok (some packet), packetizer) := packetized
  obtain ⟨-, faces', replies⟩ :=
    (TcpConnection.updateHeaders_faces faces.faces updated).call primed' called
  exact ⟨(packetizeRead_segment faces.forTcp updated packetized).1, faces', replies packet rfl⟩

/-- A reply that does not fit is recorded as it was built. -/
theorem sendDataToClient_replies {packet : Ipv4Packet} (reply : IsReply c.conn.id packet.raw)
    (h : c.sendDataToClient packet = .ok c') : c.Replies c' := by
  intro faces
  obtain ⟨sent, client, selector, offered, kind⟩ := sendDataToClient_ok h
  have appends : c.client.AppendsReplies c.conn.id client := .of_send reply offered
  rcases kind with ⟨payload, -, -, conn, client', -⟩ | ⟨-, conn, client', -⟩
  · have deferred : c'.conn.deferredPackets = c.conn.deferredPackets := by
      rw [conn]
      exact List.filterMap_append.trans (List.append_nil _)
    refine ⟨?_, by rw [conn]; rfl, by rw [client']; exact appends⟩
    rw [conn] at deferred ⊢
    exact ⟨faces.forTcp, faces.faces, deferred ▸ faces.deferred⟩
  · have deferred : c'.conn.deferredPackets = c.conn.deferredPackets ++ [packet.raw] := by
      rw [conn]
      exact List.filterMap_append
    refine ⟨?_, by rw [conn]; rfl, by rw [client']; exact appends⟩
    rw [conn] at deferred ⊢
    refine ⟨faces.forTcp, faces.faces, fun raw mem => ?_⟩
    rw [deferred, List.mem_append, List.mem_singleton] at mem
    rcases mem with mem | rfl
    · exact faces.deferred raw mem
    · exact reply

/-- **What is sent to the client are replies.**  A packet that waits is a reply when it is built,
and still one when it is delivered if nothing was forged in between. -/
theorem Output.replies {may : TcpWork → Prop} (output : Output may c c') : c.Replies c' := by
  cases output with
  | quiet packetizer waiting id trace quiet appended =>
      refine .of_same packetizer id trace ?_ appended
      refine List.filterMap_eq_nil_iff.mpr fun action mem => ?_
      have plain := quiet action mem
      cases action with
      | deferred _ => exact plain.elim
      | _ => rfl
  | primed idle primed same =>
      subst same
      intro faces
      obtain ⟨header, primed', forTcp, -⟩ :=
        faces.forTcp.updateHeaders c.conn.tcb (show flagAck ||| flagPsh ∈ relayFlags by decide)
      have faces' := TcpConnection.updateHeaders_faces faces.faces primed
      cases primed.symm.trans primed'
      exact ⟨⟨forTcp, faces', faces.deferred⟩, rfl, .of_same rfl⟩
  | forged mem forged => exact reply_replies mem forged
  | @received primed packetizer available packet idle updated packetized sent =>
      intro faces
      obtain ⟨forTcp, faces', reply⟩ := packetizeRead_faces faces updated packetized
      let built : TcpContext := { c with conn := { c.conn with networkToClient := packetizer } }
      have facing : built.conn.Faces := ⟨forTcp, faces', faces.deferred⟩
      have read : built.Replies (built.record (.read (primed.chunk available c.receivable))) :=
        .of_same rfl rfl rfl rfl rfl
      exact read.trans (sendDataToClient_replies reply sent) facing
  | delivered _ _ same =>
      subst same
      exact .of_same rfl rfl rfl rfl rfl

/-- A sequence of outputs appends replies. -/
theorem Outputs.replies {may : TcpWork → Prop} (outputs : Outputs may c c') : c.Replies c' := by
  induction outputs with
  | refl => exact .of_same rfl rfl (List.append_nil _).symm rfl rfl
  | tail _ output ih => exact ih.trans output.replies

/-- **What a method of a TCP connection appends are replies.**  It comes down to the outputs of the
method, each of which is a packet of the connection's own packetizer. -/
theorem Returns.replies {call : ConnectionCall} (returns : c.Returns call c') : c.Replies c' :=
  returns.outputs.replies

end TcpContext

/-! ### UDP -/

/-- The packetizer of a UDP connection faces the client: it writes the addresses and ports of the
flow in the other order. -/
structure UdpConnection.Faces (conn : UdpConnection) : Prop where
  wellFormed : conn.networkToClient.WellFormed
  faces : conn.networkToClient.Faces conn.id

/-- A UDP connection appends a datagram as a reply. -/
theorem UdpMove.replies {c c' : UdpContext} (move : UdpMove c c') (faces : c.conn.Faces) :
    c'.conn.Faces ∧ c'.conn.id = c.conn.id ∧ c.client.AppendsReplies c.conn.id c'.client := by
  cases move with
  | interests updated =>
      unfold UdpContext.updateInterests at updated
      split at updated
      · obtain ⟨_, -, rest⟩ := bind_eq_ok.mp updated
        cases rest
        exact ⟨⟨faces.wellFormed, faces.faces⟩, rfl, .of_same rfl⟩
      · cases updated
        exact ⟨faces, rfl, .of_same rfl⟩
  | @read source result c' wasRead =>
      obtain ⟨⟨packet, networkToClient⟩, packetized, h⟩ := bind_eq_ok.mp wasRead
      have called : c.conn.networkToClient.call (.packetize source) =
          .ok (packet.map some, networkToClient) := bind_eq_ok.mpr ⟨_, packetized, rfl⟩
      obtain ⟨wellFormed, faces', replies⟩ := faces.faces.call faces.wellFormed called
      cases packet with
      | error _ =>
          cases h
          exact ⟨⟨wellFormed, faces'⟩, rfl, .of_same rfl⟩
      | ok packet =>
          obtain ⟨⟨sent, client, selector⟩, offered, rest⟩ := bind_eq_ok.mp h
          cases rest
          exact ⟨⟨wellFormed, faces'⟩, rfl, .of_send (replies packet rfl) offered⟩
  | _ => exact ⟨⟨faces.wellFormed, faces.faces⟩, rfl, .of_same rfl⟩

/-- The same for a sequence of moves. -/
theorem UdpMoves.replies {c c' : UdpContext} (moves : UdpMoves c c') (faces : c.conn.Faces) :
    c'.conn.Faces ∧ c'.conn.id = c.conn.id ∧ c.client.AppendsReplies c.conn.id c'.client := by
  induction moves with
  | refl => exact ⟨faces, rfl, .of_same rfl⟩
  | tail _ move ih =>
      obtain ⟨faces₁, same₁, appends₁⟩ := ih
      obtain ⟨faces', same', appends'⟩ := move.replies faces₁
      rw [same₁] at same' appends'
      exact ⟨faces', same', appends₁.trans appends'⟩

/-! ### IPv6 -/

/-- The packetizer of an IPv6 connection has the headers of a packet of the flow, swapped. -/
def Ipv6Connection.Faces (conn : Ipv6Connection) : Prop :=
  ∃ (fresh : Ipv6Packetizer) (reference : Ipv6Packet), fresh.Reverses reference ∧
    fresh.Serves conn.networkToClient ∧ ConnectionId.fromPacket (.ipv6 reference) = some conn.id

/-- What an event makes of the bytes it reads. -/
theorem Ipv6Connection.Faces.packetized {conn : Ipv6Connection} (faces : conn.Faces)
    {available : List UInt8} {packet : Ipv6Packet} {p : Ipv6Packetizer}
    (made : Packetized conn.networkToClient conn.socket (.ok available) (.ok (some packet)) p) :
    { conn with networkToClient := p }.Faces ∧
      IpPacket.parse packet.raw = .ok (.ok (.ipv6 packet)) ∧
      ConnectionId.fromPacket (.ipv6 packet) = some conn.id.reverse ∧
      packet.payload = .ok (some (conn.networkToClient.chunk available)) := by
  cases made with
  | built _ built =>
      obtain ⟨fresh, reference, reverses, serves, flow⟩ := faces
      have received : (conn.networkToClient.chunk available).length ≤
          conn.networkToClient.payload.length := List.length_take_le _ _
      obtain ⟨packet', p', built', answers⟩ := reverses.answers serves received
      obtain ⟨_, _, built'', serves', -⟩ := serves.build received
      cases built.symm.trans built'
      cases built.symm.trans built''
      refine ⟨⟨fresh, reference, reverses, serves', flow⟩, answers.parses, ?_, answers.payload⟩
      rw [answers.flow, flow]
      rfl

/-- **What a method of an IPv6 connection appends are replies.** -/
theorem Ipv6Context.Returns.replies {c c' : Ipv6Context} {call : ConnectionCall}
    (returns : c.Returns call c') (faces : c.conn.Faces) :
    c'.conn.Faces ∧ c'.conn.id = c.conn.id ∧ c.client.AppendsReplies c.conn.id c'.client := by
  have closes : c.close.conn.Faces ∧ c.close.conn.id = c.conn.id ∧
      c.client.AppendsReplies c.conn.id c.close.client := by
    unfold Ipv6Context.close
    split
    · exact ⟨faces, rfl, .of_same rfl⟩
    · exact ⟨faces, rfl, .of_same rfl⟩
  cases call with
  | packet packet answers =>
      cases packet with
      | ipv4 _ =>
          cases returns
          exact ⟨faces, rfl, .of_same rfl⟩
      | ipv6 packet =>
          obtain ⟨_, -, ⟨rfl, -⟩ | ⟨_, -, -, rfl⟩ | ⟨-, -, rfl⟩⟩ :=
            Ipv6Context.sendToNetwork_ok returns
          all_goals exact ⟨faces, rfl, .of_same rfl⟩
  | event ready answers now =>
      cases Ipv6Context.onReady_ok returns with
      | ignored _ => exact ⟨faces, rfl, .of_same rfl⟩
      | ended _ _ _ => exact closes
      | @received available packet p _ _ _ _ _ _ source made offered _ =>
          rw [source] at made
          obtain ⟨faces', parses, flow, -⟩ := faces.packetized made
          have reply : IsReply c.conn.id packet.raw := ⟨.ipv6 packet, parses, rfl, flow⟩
          exact ⟨faces', rfl, .of_send reply offered⟩
  | close =>
      cases returns
      exact closes
  | expire =>
      cases returns
      exact closes
  | next => exact returns.elim

/-! ## Every kind -/

/-- What a connection keeps for the client goes back to its source. -/
def Connection.Faces : Connection → Prop
  | .tcp conn => conn.Faces
  | .udp conn => conn.Faces
  | .ipv6 conn => conn.Faces

/-- A TCP connection forged no segment while a packet waited. -/
def Connection.Unforged : Connection → Prop
  | .tcp conn => conn.Unforged
  | _ => True

/-- **What a call sends are replies**, and no packet that was spoilt is restored.  The three kinds
of connections are taken together, with the flow that each of them faces. -/
theorem ConnectionContext.Executes.replies {c f : ConnectionContext} {call : ConnectionCall}
    (executes : c.Executes call f) (faces : c.conn.Faces) :
    f.conn.Faces ∧ c.client.AppendsReplies c.conn.id f.client ∧ (f.conn.Unforged → c.conn.Unforged) := by
  obtain ⟨conn, client, selector⟩ := c
  have returns := executes.returns
  cases conn with
  | tcp conn =>
      obtain ⟨connections, c', returns, same⟩ := returns.tcp
      obtain ⟨faces', -, blocks, appended, replies⟩ := returns.replies faces
      rw [same.conn]
      refine ⟨faces', ⟨blocks, same.appended.trans appended, replies⟩, fun unforged raw mem => ?_⟩
      exact unforged raw (returns.trace_prefix.subset mem)
  | udp conn =>
      obtain ⟨connections, c', returns, same⟩ := returns.udp
      obtain ⟨faces', -, blocks, appended, replies⟩ := (UdpContext.Returns.moves returns).replies faces
      rw [same.conn]
      exact ⟨faces', ⟨blocks, same.appended.trans appended, replies⟩, fun _ => trivial⟩
  | ipv6 conn =>
      obtain ⟨connections, c', returns, same⟩ := returns.ipv6
      obtain ⟨faces', -, blocks, appended, replies⟩ := Ipv6Context.Returns.replies returns faces
      rw [same.conn]
      exact ⟨faces', ⟨blocks, same.appended.trans appended, replies⟩, fun _ => trivial⟩

/-- A new IPv6 connection has the id and the packetizer it was made with. -/
theorem Ipv6Connection.create_kept {selector selector' : Selector} {handle : Handle}
    {id : ConnectionId} {packetizer : Ipv6Packetizer} {now : Instant} {opened : IoResult Unit}
    {conn : Ipv6Connection}
    (h : create selector handle id packetizer now opened = .ok (conn, selector')) :
    conn.id = id ∧ conn.networkToClient = packetizer ∧ conn.trace = [] := by
  unfold create at h
  cases opened <;> cases protocol : id.protocol <;> rw [protocol] at h <;> cases h <;>
    exact ⟨rfl, rfl, rfl⟩

/-- **A new connection faces the sender of its first packet.**  The packetizer is made of the
headers of that packet, and the id of the connection is read from the same headers. -/
theorem Router.createConnection_faces {c : ClientContext} {id : ConnectionId} {packet : IpPacket}
    {answers : PacketAnswers} {conn : Connection} {selector : Selector} {raw : List UInt8}
    (parsed : IpPacket.parse raw = .ok (.ok packet)) (flow : ConnectionId.fromPacket packet = some id)
    (created : createConnection c id packet answers = .ok (.ok (conn, selector))) : conn.Faces := by
  cases packet with
  | ipv4 packet =>
      obtain ⟨transport, known, same⟩ := Option.map_eq_some_iff.mp flow
      cases createConnection_creates created with
      | tcp protocol headers made =>
          have tcp : packet.ipv4HeaderData.protocol = .tcp := by
            rw [← protocol, ← same]
            rfl
          have fresh : TcpConnection.Fresh _ := ⟨_, _, _, _, _, _, _, _, _, parsed, flow, headers, made⟩
          have forTcp := fresh.forTcp
          obtain ⟨header, shrinkedRaw, shrinked, packetizer, rfl, cut, shrunk, new, rfl, -⟩ :=
            TcpConnection.create_ok made
          refine ⟨forTcp, ?_, fun raw mem => absurd mem List.not_mem_nil⟩
          exact (IpPacket.parse_ipv4_iff.mp parsed).shrinked_faces tcp flow headers cut shrunk new
      | udp protocol headers made =>
          have udp : packet.ipv4HeaderData.protocol = .udp := by
            rw [← protocol, ← same]
            rfl
          obtain ⟨_, _, fresh, headers', new, reverses, -⟩ := Packetizer.new_reverses_udp parsed udp
          cases headers.symm.trans headers'
          obtain ⟨packetizer, new', rest⟩ := bind_eq_ok.mp made
          cases new.symm.trans new'
          cases rest
          exact ⟨reverses.wellFormed, reverses.faces flow⟩
  | ipv6 packet =>
      obtain ⟨header, transport, fresh, ipv6, behind, new, -, reverses⟩ :=
        Ipv6Packetizer.new_reverses (IpPacket.parse_ipv6 parsed)
      obtain ⟨_, ipv6', created⟩ := bind_eq_ok.mp created
      cases ipv6.symm.trans ipv6'
      obtain ⟨_, behind', created⟩ := bind_eq_ok.mp created
      cases behind.symm.trans behind'
      obtain ⟨_, new', created⟩ := bind_eq_ok.mp created
      cases new.symm.trans new'
      cases made : Ipv6Connection.create c.selector c.created.length id fresh answers.now
          answers.opened with
      | error _ =>
          rw [made] at created
          cases created
      | ok made' =>
          obtain ⟨ipv6, selector'⟩ := made'
          rw [made] at created
          cases created
          obtain ⟨same, packetizer, -⟩ := Ipv6Connection.create_kept made
          have serves : fresh.Serves ipv6.networkToClient := by
            rw [packetizer]
            exact ⟨reverses.wellFormed, .refl fresh⟩
          exact ⟨fresh, packet, reverses, serves, by rw [same]; exact flow⟩

/-! ## Every move -/

/-- Every connection faces the client, and as long as no TCP connection forged a segment while a
packet waited, each block of the stream is a reply of one of them. -/
structure ClientContext.Replies (c : ClientContext) : Prop where
  faces : ∀ (handle : Handle) conn, c.created[handle]? = some conn → conn.Faces
  replies : (∀ (handle : Handle) conn, c.created[handle]? = some conn → conn.Unforged) →
    ∀ raw ∈ c.client.appended, ∃ (handle : Handle) (conn : Connection),
      c.created[handle]? = some conn ∧ IsReply conn.id raw

namespace ClientContext.Replies

variable {c c' : ClientContext}

theorem congr (replies : c.Replies) (created : c'.created = c.created)
    (appended : c'.client.appended = c.client.appended) : c'.Replies :=
  ⟨created ▸ replies.faces, by rw [created, appended]; exact replies.replies⟩

/-- A connection of the client is called. -/
theorem acts (replies : c.Replies) (routed : c.Routed) {handle : Handle} {conn : Connection}
    {call : ConnectionCall} {f : ConnectionContext} (place : c.created[handle]? = some conn)
    (executes : (c.enter conn).Executes call f) : (c.leave f.removeIfClosed).Replies := by
  obtain ⟨faces, ⟨blocks, grown, answers⟩, before⟩ :=
    executes.replies (replies.faces handle conn place)
  have inside := (List.getElem?_eq_some_iff.mp place).1
  have created : (c.leave f.removeIfClosed).created = c.created.set handle f.conn :=
    routed.leave_created place executes.toActs
  have here : (c.leave f.removeIfClosed).created[handle]? = some f.conn := by
    rw [created]
    exact List.getElem?_set_self inside
  have there {other : Handle} (ne : handle ≠ other) :
      (c.leave f.removeIfClosed).created[other]? = c.created[other]? := by
    rw [created, List.getElem?_set_ne ne]
  have appended : (c.leave f.removeIfClosed).client.appended = c.client.appended ++ blocks :=
    f.removeIfClosed_appended.trans grown
  have same : f.conn.id = conn.id := executes.toActs.id
  refine ⟨fun other conn' place' => ?_, fun unforged raw mem => ?_⟩
  · by_cases eq : handle = other
    · subst eq
      cases place'.symm.trans here
      exact faces
    · exact replies.faces other conn' ((there eq).symm.trans place')
  · rw [appended, List.mem_append] at mem
    rcases mem with earlier | new
    · obtain ⟨other, conn', place', reply⟩ := replies.replies (fun other conn' place' => by
        by_cases eq : handle = other
        · subst eq
          cases place.symm.trans place'
          exact before (unforged handle f.conn here)
        · exact unforged other conn' ((there eq).trans place')) raw earlier
      by_cases eq : handle = other
      · subst eq
        cases place.symm.trans place'
        exact ⟨handle, f.conn, here, by rw [same]; exact reply⟩
      · exact ⟨other, conn', (there eq).trans place', reply⟩
    · exact ⟨handle, f.conn, here, by rw [same]; exact answers raw new⟩

/-- A flow is opened. -/
theorem insert (replies : c.Replies) {id : ConnectionId} {conn : Connection} {selector : Selector}
    (faces : conn.Faces) : (Router.insert c id conn selector).Replies := by
  have created : (Router.insert c id conn selector).created = c.created ++ [conn] := rfl
  have kept {handle : Handle} {conn' : Connection} (place : c.created[handle]? = some conn') :
      (Router.insert c id conn selector).created[handle]? = some conn' := by
    rw [created, List.getElem?_append_left (List.getElem?_eq_some_iff.mp place).1]
    exact place
  refine ⟨fun handle conn' place => ?_, fun unforged raw mem => ?_⟩
  · rw [created, List.getElem?_append] at place
    split at place
    · exact replies.faces handle conn' place
    · rw [List.getElem?_singleton] at place
      split at place
      · cases place
        exact faces
      · cases place
  · obtain ⟨handle, conn', place, reply⟩ :=
      replies.replies (fun handle conn' place => unforged handle conn' (kept place)) raw mem
    exact ⟨handle, conn', kept place, reply⟩

end ClientContext.Replies

/-- **What every move sends are replies**, also what is pulled.  What is pulled was built by the
connection that it is pulled from, so it is a reply of that flow and of no other. -/
theorem ClientMove.replies {may : ConnectionCall → Prop} {reads : Prop} {c c' : ClientContext}
    (parsed : ∀ packet answers, may (.packet packet answers) →
      ∃ raw, IpPacket.parse raw = .ok (.ok packet))
    (routed : c.Routed) (framed : c.Framed) (replies : c.Replies)
    (move : ClientMove may reads c c') : c'.Replies := by
  cases move with
  | acts place _ _ executes => exact replies.acts routed place executes
  | @opens id conn selector packet answers f allowed flow new created executes =>
      obtain ⟨raw, parsed⟩ := parsed _ _ allowed
      have inserted : (Router.insert c id conn selector).Replies :=
        replies.insert (Router.createConnection_faces parsed flow created)
      exact inserted.acts (Router.insert_routed routed new created) (Router.insert_place _ _ _ _)
        executes
  | @serves client selector _ _ sends _ =>
      rcases sends with ⟨appended, -⟩ | ⟨-, appended | ⟨handle, conn, packet, place, got, appended⟩⟩
      · exact replies.congr rfl appended
      · exact replies.congr rfl appended
      · refine ⟨replies.faces, fun unforged raw mem => ?_⟩
        have mem : raw ∈ client.appended := mem
        rw [appended, List.mem_append, List.mem_singleton] at mem
        rcases mem with mem | rfl
        · exact replies.replies unforged raw mem
        · -- what waits was deferred
          have stores : conn.Stores := framed.stores handle _ place
          have waits : conn.Unforged := unforged handle _ place
          have faces : conn.Faces := replies.faces handle _ place
          refine ⟨handle, .tcp conn, place, faces.deferred _ ?_⟩
          rw [stores.order.mp waits, TcpConnection.waitingPacket, got]
          exact List.mem_append_right _ (List.mem_singleton_self _)
  | receives _ _ => exact replies.congr rfl rfl
  | sendsId _ _ => exact replies.congr rfl rfl
  | writes _ _ => exact replies.congr rfl rfl
  | closes => exact replies.congr rfl rfl

/-- The same for a sequence of moves. -/
theorem ClientMoves.facing {may : ConnectionCall → Prop} {reads : Prop} {c c' : ClientContext}
    (parsed : ∀ packet answers, may (.packet packet answers) →
      ∃ raw, IpPacket.parse raw = .ok (.ok packet))
    (routed : c.Routed) (framed : c.Framed) (replies : c.Replies)
    (moves : ClientMoves may reads c c') : c'.Framed ∧ c'.Replies :=
  ClientMoves.invariant (P := fun d => d.Framed ∧ d.Replies)
    (fun _ _ routed holds move => ⟨move.framed parsed routed holds.1,
      move.replies parsed routed holds.1 holds.2⟩) routed ⟨framed, replies⟩ moves

/-! ## What was asked for -/

/-- A connection is opened by a packet of its flow, and keeps its id. -/
theorem ClientMoves.asked {may : ConnectionCall → Prop} {reads : Prop} {c c' : ClientContext}
    {asked : IpPacket → Prop}
    (routes : ∀ packet answers, may (.packet packet answers) → asked packet) (routed : c.Routed)
    (moves : ClientMoves may reads c c')
    (before : ∀ (handle : Handle) conn, c.created[handle]? = some conn →
      ∃ packet, asked packet ∧ ConnectionId.fromPacket packet = some conn.id) :
    ∀ (handle : Handle) conn, c'.created[handle]? = some conn →
      ∃ packet, asked packet ∧ ConnectionId.fromPacket packet = some conn.id := by
  -- a call of a connection that is there
  have acts {d : ClientContext} (routed : d.Routed)
      (before : ∀ (handle : Handle) conn, d.created[handle]? = some conn →
        ∃ packet, asked packet ∧ ConnectionId.fromPacket packet = some conn.id)
      {handle : Handle} {conn : Connection} {call : ConnectionCall} {f : ConnectionContext}
      (place : d.created[handle]? = some conn) (executes : (d.enter conn).Executes call f) :
      ∀ (other : Handle) conn', (d.leave f.removeIfClosed).created[other]? = some conn' →
        ∃ packet, asked packet ∧ ConnectionId.fromPacket packet = some conn'.id := by
    intro other conn' place'
    rw [routed.leave_created place executes.toActs] at place'
    by_cases eq : handle = other
    · subst eq
      rw [List.getElem?_set_self (List.getElem?_eq_some_iff.mp place).1] at place'
      rw [← Option.some.inj place', executes.toActs.id]
      exact before handle conn place
    · rw [List.getElem?_set_ne eq] at place'
      exact before other conn' place'
  refine ClientMoves.invariant (P := fun d => ∀ (handle : Handle) conn, d.created[handle]? = some conn →
    ∃ packet, asked packet ∧ ConnectionId.fromPacket packet = some conn.id) ?_ routed before moves
  intro d d' routed before move
  cases move with
  | acts place _ _ executes => exact acts routed before place executes
  | @opens id conn selector packet answers f allowed flow new created executes =>
      refine acts (Router.insert_routed routed new created) (fun handle conn' place => ?_)
        (Router.insert_place _ _ _ _) executes
      have there : (d.created ++ [conn])[handle]? = some conn' := place
      rw [List.getElem?_append] at there
      split at there
      · exact before handle conn' there
      · rw [List.getElem?_singleton] at there
        split at there
        · cases there
          rw [(Router.createConnection_ok created).2.1]
          exact ⟨packet, routes _ _ allowed, flow⟩
        · cases there
  | _ => exact before

namespace Relay

variable {s s' : Relay} {label : Label} {t : List (Relay × Label)}

/-- The client sent a packet of this flow, and it was routed.  A packet that was dropped, or that
closed the client, asks for nothing. -/
def Asked (t : List (Relay × Label)) (id : ConnectionId) : Prop :=
  ∃ packet, .routed packet ∈ allVerdicts t ∧ ConnectionId.fromPacket packet = some id

/-- **There is no connection that the client did not ask for.**  A connection is created for a
packet that no open connection has, and the packet is among those that the client has sent. -/
theorem run_asked (run : machine.Run t s) :
    ∀ (handle : Handle) conn, s.created[handle]? = some conn → Asked t conn.id := by
  induction run with
  | start starts =>
      obtain ⟨id, rfl⟩ := starts
      exact fun handle conn place => absurd place (by simp [create, ClientContext.create])
  | @step t s s' label run step ih =>
      have routed := run_routed run
      have earlier (handle : Handle) (conn : Connection) (place : s.created[handle]? = some conn) :
          Asked (t ++ [(s, label)]) conn.id := by
        obtain ⟨packet, mem, flow⟩ := ih handle conn place
        refine ⟨packet, ?_, flow⟩
        rw [allVerdicts_append]
        exact List.mem_append_left _ mem
      -- steps that route nothing
      have quiet (none : ∀ packet answers, ¬ s.Causes label (.packet packet answers)) :
          ∀ (handle : Handle) conn, s'.created[handle]? = some conn →
            Asked (t ++ [(s, label)]) conn.id := by
        rcases Step.moves routed step with ⟨moves, -⟩ | rfl | ⟨connections, -, rfl⟩
        · exact moves.asked (fun packet answers caused => absurd caused (none packet answers)) routed
            earlier
        · exact earlier
        · exact earlier
      cases step with
      | @handle source ready batch answers c next handled =>
          cases source with
          | connection _ =>
              refine quiet fun packet answers' caused => ?_
              cases caused with
              | client next' _ =>
                  rw [next] at next'
                  cases next'
          | client =>
              have said : s.verdicts (.handle answers) = s.toClientContext.verdicts ready answers := by
                simp only [verdicts, next]
              let may (call : ConnectionCall) : Prop := call = .close ∨ call = .next ∨
                ∃ packet answers', call = .packet packet answers' ∧
                  .routed packet ∈ s.verdicts (.handle answers)
              obtain ⟨c₁, c₂, first, ⟨n, folded⟩, last, -⟩ :=
                @ClientContext.onReady_decides _ _ _ _ may (.inl rfl) (.inr (.inl rfl)) routed handled
              have decided : ClientMoves may True c₁ c₂ := by
                refine ClientContext.applyVerdicts_moves (.inl rfl) (fun k packet mem => .inr (.inr ?_))
                  (first.routed routed) folded
                obtain ⟨verdict, listed, is⟩ := List.mem_filterMap.mp (List.mem_of_getElem? mem)
                refine ⟨packet, _, rfl, ?_⟩
                rw [said]
                cases verdict with
                | routed _ =>
                    cases is
                    exact listed
                | _ => cases is
              have moves : ClientMoves may True s.toClientContext c :=
                (first.trans decided).trans last
              have routes (packet : IpPacket) (answers' : PacketAnswers)
                  (allowed : may (.packet packet answers')) :
                  .routed packet ∈ allVerdicts (t ++ [(s, .handle answers)]) := by
                rcases allowed with is | is | ⟨_, _, is, mem⟩
                · cases is
                · cases is
                · cases is
                  rw [allVerdicts_append]
                  exact List.mem_append_right _ mem
              exact moves.asked routes routed earlier
      | _ => exact quiet fun packet answers caused => by cases caused

/-- In every run of a client its connections face it. -/
theorem run_facing (run : machine.Run t s) : s.Replies := by
  refine (run.invariant (fun s => s.Routed ∧ s.Framed ∧ s.Replies) ?_ ?_ (Machine.meets_true t)).2.2
  · rintro _ ⟨id, rfl⟩
    refine ⟨create_routed id, run_framed (.start ⟨id, rfl⟩), ⟨fun handle conn place => ?_,
      fun _ raw mem => ?_⟩⟩
    · cases place
    · cases mem
  · rintro s label s' ⟨routed, framed, replies⟩ - step
    have routed' := Step.routed routed step
    rcases Step.moves routed step with ⟨moves, -⟩ | rfl | ⟨connections, -, rfl⟩
    · exact ⟨routed', moves.facing (fun _ _ => Causes.parsed) routed framed replies⟩
    · exact ⟨routed', framed.congr rfl rfl, replies.congr rfl rfl⟩
    · exact ⟨routed', framed.congr rfl rfl, replies.congr rfl rfl⟩

/-- No connection of another kind can. -/
theorem Unforged.all (unforged : s.Unforged) (handle : Handle) (conn : Connection)
    (place : s.created[handle]? = some conn) : conn.Unforged := by
  cases conn with
  | tcp conn => exact unforged handle conn place
  | _ => trivial

/-- A block of the stream is a reply of one of the connections. -/
theorem run_reply (run : machine.Run t s) (unforged : s.Unforged) {raw : List UInt8}
    (mem : raw ∈ s.client.appended) :
    ∃ (handle : Handle) (conn : Connection), s.created[handle]? = some conn ∧ IsReply conn.id raw :=
  (run_facing run).replies unforged.all raw mem

/-- **Every packet to the client is a reply**, in every run and over every kind of connection: one
whole packet, which goes from the destination of a packet that the client sent before to its
source.  Only a TCP packet that waited while a segment was forged could be another. -/
theorem run_replies (run : machine.Run t s) (unforged : s.Unforged) :
    ∀ raw ∈ s.client.appended, ∃ id, Asked t id ∧ IsReply id raw := by
  intro raw mem
  obtain ⟨handle, conn, place, reply⟩ := run_reply run unforged mem
  exact ⟨conn.id, run_asked run handle conn place, reply⟩

/-- Also while a packet waits behind a stream that is full. -/
theorem run_replies_waits : ∃ t s conn raw, machine.Run t s ∧ s.HoldsBack conn raw ∧
    ∀ raw ∈ s.client.appended, ∃ id, Asked t id ∧ IsReply id raw := by
  obtain ⟨t, s, conn, raw, run, -, -, holds⟩ := run_waits
  obtain ⟨udp, created⟩ := holds.created
  obtain ⟨synAck, trace⟩ := holds.trace
  refine ⟨t, s, conn, raw, run.run, holds, run_replies run.run fun handle conn' place forged mem => ?_⟩
  obtain ⟨-, rfl⟩ := place_of_created created place
  rw [trace] at mem
  simp at mem

end Relay

end ReverseTether
