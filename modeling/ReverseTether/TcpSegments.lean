import ReverseTether.TcpLife

/-!
# The segments a TCP connection makes

The packetizer of a connection holds an IPv4 header and a bare TCP header for as
long as the connection lives (`Packetizer.ForTcp`).  Setting the numbers and the
flags always succeeds, and a packet built from it is valid and says what the
control block says.

A packet that waits is not stored: it is the front of the buffer, built again from
the headers that are there when it is asked for.

A `Segment` is a packet as its receiver reads it: the numbers, the flags and the payload,
taken from the bytes.  What is proved of a packet that the connection builds is said of its
segment, and not of the record of the connection, so that the reader of the stream could check
it.

`inflate` is how a packet that waits is built again.  It reads the length that was noted and
the headers as they are by then, hence it is the packet that was refused only if nothing was
forged in the meantime; the history records whether a packet was waiting when something was.
-/

namespace ReverseTether

open Library Relation

open TcpConnection (updateHeaders createEmptyResponsePacket)

/-- The packetizer of a TCP connection: it has a TCP header, and the payload begins within 80
bytes, whatever options the headers carry. -/
structure Packetizer.ForTcp (p : Packetizer) : Prop where
  wellFormed : p.WellFormed
  isTcp : ∃ header, p.transportHeader = .tcp header
  short : p.payloadIndex ≤ 80

/-- The flags the relay sends. -/
def relayFlags : List UInt16 :=
  [flagAck, flagRst, flagSyn ||| flagAck, flagFin ||| flagAck, flagAck ||| flagPsh]

theorem relayFlags_nine {flags : UInt16} (mem : flags ∈ relayFlags) : flags &&& 0x1FF = flags := by
  revert mem
  simp only [relayFlags, List.mem_cons, List.not_mem_nil, or_false]
  rintro (rfl | rfl | rfl | rfl | rfl) <;> decide

namespace Packetizer.ForTcp

variable {p p' : Packetizer}

theorem built {data : List UInt8} {packet : Ipv4Packet} (tcp : p.ForTcp)
    (built : p.Built p' data packet) : p'.ForTcp := by
  refine ⟨built.wellFormed, ?_, built.payloadIndex ▸ tcp.short⟩
  obtain ⟨header, isTcp⟩ := tcp.isTcp
  have data := built.transportData
  rw [isTcp] at data
  cases h : p'.transportHeader with
  | tcp header' => exact ⟨header', rfl⟩
  | udp _ => rw [h] at data; cases data

/-- **Setting the header of the next segment.**  The numbers and the flags are set, and the
addresses, the ports and the window stay those of the reference header. -/
theorem updateHeaders (tcp : p.ForTcp) (tcb : Tcb) {flags : UInt16} (mem : flags ∈ relayFlags) :
    ∃ header, TcpConnection.updateHeaders p tcb flags =
        .ok { p with transportHeader := .tcp header } ∧
      ForTcp { p with transportHeader := .tcp header } ∧
      header.data.sequenceNumber = tcb.sequenceNumber ∧
      header.data.acknowledgementNumber = tcb.acknowledgementNumber ∧
      header.data.flags = flags ∧
      payloadIndex { p with transportHeader := .tcp header } = p.payloadIndex := by
  obtain ⟨wf, ⟨header, isTcp⟩, short⟩ := tcp
  have wfHeader : header.WellFormed := by
    have := wf.transport
    rwa [isTcp] at this
  obtain ⟨h₁, eq₁, wf₁, keeps₁, data₁⟩ := wfHeader.setSequenceNumber tcb.sequenceNumber
  obtain ⟨h₂, eq₂, wf₂, keeps₂, data₂⟩ := wf₁.setAcknowledgementNumber tcb.acknowledgementNumber
  obtain ⟨h₃, eq₃, wf₃, keeps₃, data₃⟩ := wf₂.setFlags (relayFlags_nine mem)
  have length : h₃.raw.length = p.transportHeader.raw.length := by
    rw [((keeps₁.trans keeps₂).trans keeps₃).1, isTcp]
    rfl
  have index : payloadIndex { p with transportHeader := .tcp h₃ } = p.payloadIndex := by
    show p.transportIndex + h₃.raw.length = _
    rw [length]
    rfl
  refine ⟨h₃, ?_, ⟨⟨wf.ipv4, wf₃, wf.version, ?_, ?_⟩, ⟨h₃, rfl⟩, index ▸ short⟩, ?_, ?_, ?_, index⟩
  · rw [TcpConnection.updateHeaders, isTcp]
    simp only [TcpConnection.tcpHeaderOfTransport, ok_bind, eq₁, eq₂, eq₃, pure_eq_ok]
  · have protocol := wf.protocol
    rw [isTcp] at protocol
    exact protocol
  · have whole := wf.length
    rw [buffer, List.length_append, List.length_append] at whole ⊢
    show p.ipv4Header.raw.length + h₃.raw.length + p.payload.length = _
    rw [length]
    exact whole
  · rw [data₃, data₂, data₁]
  · rw [data₃, data₂]
  · rw [data₃]

theorem payloadIndex_lt (tcp : p.ForTcp) : p.payloadIndex < 65536 :=
  tcp.short.trans_lt (by decide)

/-- **A forged segment** says what the control block says.  The packetizer is good for the next
one, whatever flags this one had. -/
theorem createEmptyResponsePacket (tcp : p.ForTcp) (tcb : Tcb) {flags : UInt16}
    (mem : flags ∈ relayFlags) :
    ∃ packet p', TcpConnection.createEmptyResponsePacket p tcb flags = .ok (packet, p') ∧
      p'.ForTcp ∧ p'.payloadIndex = p.payloadIndex ∧ packet.raw.length = p.payloadIndex ∧
      ValidPacket packet.raw ∧
      Segment.ofRaw packet.raw =
        ⟨tcb.sequenceNumber, tcb.acknowledgementNumber, flags, []⟩ := by
  obtain ⟨header, updated, tcp', sequenceNumber, acknowledgementNumber, flags', index⟩ :=
    tcp.updateHeaders tcb mem
  obtain ⟨packet, p', empty, built⟩ :=
    tcp'.wellFormed.packetizeEmptyPayload tcp'.payloadIndex_lt
  refine ⟨packet, p', ?_, tcp'.built built, built.payloadIndex.trans index,
    built.length_raw.trans index, built.valid, ?_⟩
  · rw [TcpConnection.createEmptyResponsePacket, updated, ok_bind, empty]
  · rw [built.segment rfl, sequenceNumber, acknowledgementNumber, flags']

end Packetizer.ForTcp

/-- A new connection has the packetizer of a TCP connection. -/
theorem TcpConnection.Fresh.forTcp {conn : TcpConnection} (fresh : conn.Fresh) :
    conn.networkToClient.ForTcp := by
  obtain ⟨raw, packet, id, ipv4Header, transportHeader, selector, selector', handle, now, parsed, -,
    headers, created⟩ := fresh
  obtain ⟨wf, version, read⟩ := Ipv4Packet.headers_of_parse parsed headers
  obtain ⟨header, shrinkedRaw, shrinked, packetizer, rfl, cut, shrunk, made, rfl, -⟩ :=
    TcpConnection.create_ok created
  obtain ⟨protocol, -, mirrors⟩ := read
  obtain ⟨-, long, rfl⟩ := readSlice_eq_ok cut
  have front : (slice header.raw 0 20).length = 20 := by
    rw [length_slice]
    omega
  have mirrors' : header.data = .ofRaw (slice header.raw 0 20) := by
    rw [mirrors (by omega), slice_zero]
    rw [slice_zero] at front
    conv_lhs => rw [← List.take_append_drop 20 header.raw]
    exact TcpHeaderData.ofRaw_append (by omega) _
  obtain ⟨shrinked', shrunk', wfShrinked, length, -⟩ :=
    TcpHeader.shrinkOptions_ok (h := ⟨slice header.raw 0 20, header.data⟩) front mirrors'
  rw [shrunk] at shrunk'
  cases shrunk'
  obtain ⟨p, made', wfPacketizer, ipv4Length, transportLength, isTcp⟩ :=
    @Packetizer.new_ok _ (.tcp shrinked) wf wfShrinked version protocol
  rw [made] at made'
  cases made'
  refine ⟨wfPacketizer, isTcp shrinked rfl, ?_⟩
  · have short : ipv4Header.raw.length ≤ 60 := by
      rw [wf.length_raw, wf.mirrors, Ipv4HeaderData.toNat_headerLength]
      have nibble : (getByte ipv4Header.raw 0 &&& 15).toNat ≤ 15 := by
        rw [UInt8.toNat_and]
        exact Nat.and_le_right
      omega
    show packetizer.ipv4Header.raw.length + packetizer.transportHeader.raw.length ≤ 80
    rw [ipv4Length, transportLength]
    show ipv4Header.raw.length + shrinked.raw.length ≤ 80
    omega

namespace TcpContext

variable {c c' : TcpContext}

/-- What a forged segment is, for a connection with its packetizer. -/
theorem replyEmptyPacketToClient_segment {flags : UInt16} (tcp : c.conn.networkToClient.ForTcp)
    (mem : flags ∈ relayFlags) (h : c.replyEmptyPacketToClient flags = .ok c') :
    ∃ packetizer raw, packetizer.ForTcp ∧ packetizer.payloadIndex = c.conn.networkToClient.payloadIndex ∧
      ValidPacket raw ∧
      Segment.ofRaw raw =
        ⟨c.conn.tcb.sequenceNumber, c.conn.tcb.acknowledgementNumber, flags, []⟩ ∧
      c'.conn = { c.conn with networkToClient := packetizer }.record (.forged raw c.conn.waiting) := by
  obtain ⟨packet, packetizer, sent, created, -, same⟩ := replyEmptyPacketToClient_ok h
  obtain ⟨packet', packetizer', created', tcp', index, -, valid, segment⟩ :=
    tcp.createEmptyResponsePacket c.conn.tcb mem
  rw [created] at created'
  cases created'
  exact ⟨packetizer, packet.raw, tcp', index, valid, segment, same⟩

theorem receivable_le (c : TcpContext) : c.receivable ≤ 16344 := by
  have most : TcpConnection.maxPayloadLength.toNat = 16344 := by decide
  exact (min_le_right _ _).trans_eq most

/-- What a data packet is, for a connection with its packetizer. -/
theorem packetizeRead_segment {primed packetizer : Packetizer} {available : List UInt8}
    {packet : Ipv4Packet} (tcp : c.conn.networkToClient.ForTcp)
    (updated : updateHeaders c.conn.networkToClient c.conn.tcb (flagAck ||| flagPsh) = .ok primed)
    (packetized : primed.packetizeRead (.ok available) c.receivable =
      .ok (.ok (some packet), packetizer)) :
    packetizer.ForTcp ∧ primed.Built packetizer (primed.chunk available c.receivable) packet ∧
      (packetizer.inflate packet.length).raw = packet.raw ∧
      Segment.ofRaw packet.raw =
        ⟨c.conn.tcb.sequenceNumber, c.conn.tcb.acknowledgementNumber, flagAck ||| flagPsh,
          primed.chunk available c.receivable⟩ := by
  obtain ⟨header, updated', tcp', sequenceNumber, acknowledgementNumber, flags, -⟩ :=
    tcp.updateHeaders c.conn.tcb (show flagAck ||| flagPsh ∈ relayFlags by decide)
  rw [updated] at updated'
  cases updated'
  have bound : Packetizer.payloadIndex _ + c.receivable < 65536 :=
    (Nat.add_le_add tcp'.short c.receivable_le).trans_lt (by decide)
  rcases tcp'.wellFormed.packetizeRead bound with ⟨-, eof⟩ | ⟨-, packet', p', read, built⟩
  · rw [packetized] at eof
    cases eof
  · rw [packetized] at read
    cases read
    refine ⟨tcp'.built built, built, ?_, ?_⟩
    · rw [built.length, ← built.inflated]
    · rw [built.segment rfl, sequenceNumber, acknowledgementNumber, flags]

end TcpContext

end ReverseTether
