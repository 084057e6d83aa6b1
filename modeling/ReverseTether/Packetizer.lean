import ReverseTether.IpPacket

/-!
# `Packetizer`: from payloads back to IP packets

A packetizer keeps one buffer of 65536 bytes for the whole life of a flow: an
IPv4 header, a transport header and whatever payload was read last.  The model
keeps the buffer as the three regions the code cuts it into; `buffer` is their
concatenation.  Every packet the flow ever sends, data or not, is a front of
that one buffer.

`ValidPacket` is what a receiver may expect of a block of bytes: one complete
IPv4 packet with the right length and checksums.  `build` of a well-formed
packetizer makes one (`WellFormed.build`).

`build` writes the two length fields and the two checksums, for the payload that is in the
buffer by then, and returns the front of the buffer.  The headers are set beforehand by the
owner of the packetizer, who knows the numbers and the flags.  The packet it returns borrows
the buffer, so there is one at a time; `inflate` makes the last one again from its length.

`WellFormed` has the lengths of the three regions, and what the template says of itself.  Each
operation keeps it, and the lengths of the headers never change.
-/

namespace ReverseTether

open Library

/-- Convert from level 5 to level 3 by appending correct IP and transport
headers. -/
structure Packetizer where
  /-- `buffer[..transport_index]`. -/
  ipv4Header : Ipv4Header
  /-- `buffer[transport_index..payload_index]`. -/
  transportHeader : TransportHeader
  /-- `buffer[payload_index..]`. -/
  payload : List UInt8
  deriving DecidableEq, Repr

namespace Packetizer

/-- `transport_index`: the transport header begins where the IPv4 header ends, behind its options.
-/
def transportIndex (p : Packetizer) : ℕ := p.ipv4Header.raw.length

/-- `payload_index`: the payload begins where the transport header ends. -/
def payloadIndex (p : Packetizer) : ℕ := p.transportIndex + p.transportHeader.raw.length

/-- `buffer`: the two headers and the space for the payload, as one array. -/
def buffer (p : Packetizer) : List UInt8 :=
  p.ipv4Header.raw ++ p.transportHeader.raw ++ p.payload

/-- `copy_from_slice` panics when a header does not have the length it
announces. -/
def new (referenceIpv4Header : Ipv4Header) (referenceTransportHeader : TransportHeader) :
    Outcome Packetizer :=
  if referenceIpv4Header.raw.length ≠ referenceIpv4Header.data.headerLength.toNat ∨
      referenceTransportHeader.raw.length ≠ referenceTransportHeader.headerLength.toNat then
    .error .outOfBounds
  else do
    let ipv4Header ← referenceIpv4Header.swapSourceAndDestination
    let transportHeader ← referenceTransportHeader.swapSourceAndDestination
    return {
      ipv4Header
      transportHeader
      payload := List.replicate
        (maxPacketLength - (ipv4Header.raw.length + transportHeader.raw.length)) 0 }

/-- The packet of the given length that is in the buffer. -/
def inflate (p : Packetizer) (packetLength : UInt16) : Ipv4Packet where
  raw := p.buffer.take packetLength.toNat
  ipv4HeaderData := p.ipv4Header.data
  transportHeaderData := some p.transportHeader.data

/-- Complete the headers for the payload in the buffer. -/
def build (p : Packetizer) (payloadLength : UInt16) : Outcome (Ipv4Packet × Packetizer) :=
  if 65536 ≤ p.payloadIndex + payloadLength.toNat then .error .overflow
  else do
    let totalLength := UInt16.ofNat p.payloadIndex + payloadLength
    let ipv4Header ← p.ipv4Header.setTotalLength totalLength
    let transportHeader ← p.transportHeader.setPayloadLength payloadLength
    -- compute_checksums()
    let ipv4Header ← ipv4Header.updateChecksum
    let payload ← readSlice p.payload 0 payloadLength.toNat
    let transportHeader ← transportHeader.updateChecksum ipv4Header.data payload
    let p := { p with ipv4Header, transportHeader }
    return (p.inflate totalLength, p)

/-- `packetize_empty_payload`: the headers alone, with the lengths and the checksums of such a
packet. -/
def packetizeEmptyPayload (p : Packetizer) : Outcome (Ipv4Packet × Packetizer) := p.build 0

/-- The payload region once `data` has been received into it. -/
def receive (p : Packetizer) (data : List UInt8) : Packetizer :=
  { p with payload := splice p.payload 0 data }

/-- A datagram longer than the slice is truncated to it. -/
def packetize (p : Packetizer) (source : IoResult (List UInt8)) :
    Outcome (IoResult Ipv4Packet × Packetizer) :=
  match source with
  | .error err => .ok (.error err, p)
  | .ok datagram => do
      let data := datagram.take p.payload.length
      let (packet, p) ← (p.receive data).build (UInt16.ofNat data.length)
      return (.ok packet, p)

/-- What `read` takes of the bytes a stream source has. -/
def chunk (p : Packetizer) (available : List UInt8) (maxChunkSize : ℕ) : List UInt8 :=
  available.take (min maxChunkSize p.payload.length)

/-- Packetize from a stream source, which hands over at most `maxChunkSize` of
the bytes it has; `Ok(None)` on EOF (read 0 byte). -/
def packetizeRead (p : Packetizer) (source : IoResult (List UInt8)) (maxChunkSize : ℕ) :
    Outcome (IoResult (Option Ipv4Packet) × Packetizer) :=
  match source with
  | .error err => .ok (.error err, p)
  | .ok available =>
      let data := p.chunk available maxChunkSize
      if 0 < data.length then do
        let (packet, p) ← (p.receive data).build (UInt16.ofNat data.length)
        return (.ok (some packet), p)
      else .ok (.ok none, p)

end Packetizer

/-! ## What a block of bytes should be -/

/-- The length of the IPv4 header at the front of `raw`. -/
def ipv4HeaderLength (raw : List UInt8) : ℕ := (getByte raw 0 &&& 15).toNat * 4

/-- One complete IPv4 packet, TCP or UDP, whose total length is the number of
bytes and whose checksums are valid for them.  A UDP checksum of `0` is one that
is not used. -/
structure ValidPacket (raw : List UInt8) : Prop where
  version : getByte raw 0 >>> 4 = 4
  long : 20 ≤ ipv4HeaderLength raw
  totalLength : (getU16 raw 2).toNat = raw.length
  headerSum : fold16 (wordSum (raw.take (ipv4HeaderLength raw))) = 65535
  transport :
    (getByte raw 9 = 6 ∧ ipv4HeaderLength raw + 20 ≤ raw.length ∧
      fold16 (TcpHeader.pseudoHeaderSum (getU32 raw 12) (getU32 raw 16)
        (raw.length - ipv4HeaderLength raw) + wordSum (raw.drop (ipv4HeaderLength raw))) = 65535) ∨
    (getByte raw 9 = 17 ∧ ipv4HeaderLength raw + 8 ≤ raw.length ∧
      (getU16 raw (ipv4HeaderLength raw + 4)).toNat = raw.length - ipv4HeaderLength raw ∧
      getU16 raw (ipv4HeaderLength raw + 6) = 0)

/-- Offsets that are near each other are told apart by their sequence numbers. -/
theorem offset_unique {base : UInt32} {a b : ℕ} (same : base + UInt32.ofNat a = base + UInt32.ofNat b)
    (notAhead : a ≤ b + 2 ^ 31) (notBehind : b ≤ a + 2 ^ 31) : a = b := by
  have low : a % 2 ^ 32 = b % 2 ^ 32 := by
    have := congrArg UInt32.toNat ((UInt32.add_right_inj base).mp same)
    rwa [UInt32.toNat_ofNat', UInt32.toNat_ofNat'] at this
  omega

/-- What a TCP packet says to its receiver: its two numbers, its flags and its payload. -/
structure Segment where
  sequenceNumber : UInt32
  acknowledgementNumber : UInt32
  flags : UInt16
  payload : List UInt8
  deriving DecidableEq, Repr

/-- The segment a receiver finds in the bytes of a packet: the payload ends where
the packet says that it ends. -/
def Segment.ofRaw (raw : List UInt8) : Segment :=
  let tcp := TcpHeaderData.ofRaw (raw.drop (ipv4HeaderLength raw))
  { sequenceNumber := tcp.sequenceNumber
    acknowledgementNumber := tcp.acknowledgementNumber
    flags := tcp.flags
    payload := slice raw (ipv4HeaderLength raw + tcp.headerLength.toNat) (getU16 raw 2).toNat }

namespace Packetizer

/-- The headers are those of an IPv4 packet with the transport it announces, and
the regions make up the whole buffer. -/
structure WellFormed (p : Packetizer) : Prop where
  ipv4 : p.ipv4Header.WellFormed
  transport : p.transportHeader.WellFormed
  version : getByte p.ipv4Header.raw 0 >>> 4 = 4
  protocol : p.ipv4Header.data.protocol =
    match p.transportHeader with
    | .tcp _ => .tcp
    | .udp _ => .udp
  length : p.buffer.length = maxPacketLength

theorem take_buffer (p : Packetizer) (n : ℕ) :
    p.buffer.take (p.payloadIndex + n) =
      p.ipv4Header.raw ++ p.transportHeader.raw ++ p.payload.take n := by
  rw [buffer, List.take_append, List.length_append, payloadIndex, transportIndex,
    Nat.add_sub_cancel_left, List.take_of_length_le]
  rw [List.length_append]
  omega

theorem length_payload {p : Packetizer} (wf : p.WellFormed) :
    p.payloadIndex + p.payload.length = 65536 := by
  have length := wf.length
  rw [buffer, List.length_append, List.length_append] at length
  exact length

end Packetizer

theorem Ipv4Header.WellFormed.ipv4HeaderLength_append {h : Ipv4Header} (wf : h.WellFormed)
    (rest : List UInt8) : ipv4HeaderLength (h.raw ++ rest) = h.raw.length := by
  have long := wf.long
  rw [ipv4HeaderLength, getByte_append_left (by omega), wf.length_raw, wf.mirrors,
    Ipv4HeaderData.toNat_headerLength]

namespace Packetizer.WellFormed

variable {p : Packetizer}

/-- The segment a packet of the buffer carries: numbers and flags of the header,
and the payload. -/
theorem segment (wf : p.WellFormed) {header : TcpHeader} (tcp : p.transportHeader = .tcp header)
    {n : ℕ} (total : p.ipv4Header.data.totalLength.toNat = p.payloadIndex + n) :
    Segment.ofRaw (p.buffer.take (p.payloadIndex + n)) =
      ⟨header.data.sequenceNumber, header.data.acknowledgementNumber, header.data.flags,
        p.payload.take n⟩ := by
  have transport : header.WellFormed := by
    have := wf.transport
    rwa [tcp] at this
  have long := transport.long
  have index : ipv4HeaderLength (p.ipv4Header.raw ++ header.raw ++ p.payload.take n) =
      p.ipv4Header.raw.length := by
    rw [List.append_assoc]
    exact wf.ipv4.ipv4HeaderLength_append _
  have data : TcpHeaderData.ofRaw (header.raw ++ p.payload.take n) = header.data := by
    rw [TcpHeaderData.ofRaw_append (by omega), transport.mirrors]
  have ipv4Long := wf.ipv4.long
  have field : getU16 (p.ipv4Header.raw ++ header.raw ++ p.payload.take n) 2 =
      p.ipv4Header.data.totalLength := by
    rw [List.append_assoc, getU16_append_left (by omega), wf.ipv4.mirrors]
    rfl
  have whole : (p.ipv4Header.raw ++ header.raw ++ p.payload.take n).length ≤ p.payloadIndex + n := by
    simp only [List.length_append, List.length_take, payloadIndex, transportIndex, tcp,
      TransportHeader.raw]
    omega
  rw [take_buffer, tcp]
  show Segment.ofRaw (p.ipv4Header.raw ++ header.raw ++ p.payload.take n) = _
  rw [Segment.ofRaw, index, field, total, slice_full whole, List.append_assoc, List.drop_left,
    data, ← transport.length_raw, ← List.append_assoc, ← List.length_append, List.drop_left]

/-- The front of a buffer whose headers are complete for it. -/
theorem validPacket (wf : p.WellFormed) {n : ℕ} (enough : n ≤ p.payload.length)
    (total : p.ipv4Header.data.totalLength.toNat = p.payloadIndex + n)
    (headerSum : fold16 (wordSum p.ipv4Header.raw) = 65535)
    (completes : p.transportHeader.Completes p.ipv4Header.data (p.payload.take n)) :
    ValidPacket (p.buffer.take (p.payloadIndex + n)) := by
  obtain ⟨⟨ipv4Raw, ipv4Data⟩, transportHeader, payload⟩ := p
  have long : 20 ≤ ipv4Raw.length := wf.ipv4.long
  have mirrors : ipv4Data = .ofRaw ipv4Raw := wf.ipv4.mirrors
  have lengthTransport := wf.transport.length_bounds
  have length : (payload.take n).length = n := List.length_take_of_le enough
  rw [take_buffer]
  simp only [payloadIndex, transportIndex] at total ⊢
  set raw := ipv4Raw ++ transportHeader.raw ++ payload.take n with hraw
  have split : raw = ipv4Raw ++ (transportHeader.raw ++ payload.take n) := List.append_assoc _ _ _
  have lengthRaw : raw.length = ipv4Raw.length + transportHeader.raw.length + n := by
    rw [hraw, List.length_append, List.length_append, length]
  have index : ipv4HeaderLength raw = ipv4Raw.length :=
    split ▸ wf.ipv4.ipv4HeaderLength_append _
  have behind : raw.drop ipv4Raw.length = transportHeader.raw ++ payload.take n := by
    rw [split, List.drop_left]
  have front : Ipv4HeaderData.ofRaw raw = ipv4Data := by
    rw [split, Ipv4HeaderData.ofRaw_append long, mirrors]
  have version : getByte ipv4Raw 0 >>> 4 = 4 := wf.version
  have protocol : Protocol.ofByte (getByte raw 9) = ipv4Data.protocol :=
    congrArg Ipv4HeaderData.protocol front
  have source : getU32 raw 12 = ipv4Data.source := congrArg Ipv4HeaderData.source front
  have destination : getU32 raw 16 = ipv4Data.destination :=
    congrArg Ipv4HeaderData.destination front
  have totalRaw : getU16 raw 2 = ipv4Data.totalLength := congrArg Ipv4HeaderData.totalLength front
  refine ⟨?_, by rw [index]; exact long, by rw [totalRaw, total, lengthRaw], ?_, ?_⟩
  · rw [split, getByte_append_left (by omega), version]
  · rw [index, split, List.take_left]
    exact headerSum
  · have kind := wf.protocol
    cases transportHeader with
    | tcp header =>
        have tcp : header.WellFormed := wf.transport
        have tcpLong := tcp.long
        have transportLength : raw.length - ipv4Raw.length = header.raw.length + n := by
          rw [lengthRaw]
          show ipv4Raw.length + header.raw.length + n - _ = _
          omega
        refine .inl ⟨Protocol.eq_tcp_of_ofByte (protocol.trans kind), ?_, ?_⟩
        · omega
        · rw [index, transportLength, behind, source, destination]
          rw [TransportHeader.Completes, length] at completes
          exact completes
    | udp header =>
        have udp : header.raw.length = 8 := UdpHeader.WellFormed.length_raw wf.transport
        obtain ⟨field, zero⟩ := completes
        have transportLength : raw.length - ipv4Raw.length = header.raw.length + n := by
          rw [lengthRaw]
          show ipv4Raw.length + header.raw.length + n - _ = _
          omega
        have at4 : getU16 raw (ipv4Raw.length + 4) = getU16 header.raw 4 := by
          rw [← getU16_drop, behind]
          exact getU16_append_left (by omega)
        have at6 : getU16 raw (ipv4Raw.length + 6) = getU16 header.raw 6 := by
          rw [← getU16_drop, behind]
          exact getU16_append_left (by omega)
        refine .inr ⟨Protocol.eq_udp_of_ofByte (protocol.trans kind), ?_, ?_, ?_⟩
        · omega
        · rw [index, transportLength, at4, field, length]
        · rw [index, at6, zero]

/-- **A built packet is valid.**  Its bytes are a front of the buffer, its payload
is the one received, and nothing of the flow has changed. -/
theorem build (wf : p.WellFormed) {n : ℕ} (fits : p.payloadIndex + n < 65536) :
    ∃ p', p.build (UInt16.ofNat n) =
        .ok (p'.inflate (UInt16.ofNat (p.payloadIndex + n)), p') ∧
      p'.WellFormed ∧ p.ipv4Header.Keeps p'.ipv4Header ∧
      p'.ipv4Header.data =
        { p.ipv4Header.data with totalLength := UInt16.ofNat (p.payloadIndex + n) } ∧
      p'.transportHeader.data = p.transportHeader.data ∧ p'.payloadIndex = p.payloadIndex ∧
      p'.payload = p.payload ∧ ValidPacket (p'.buffer.take (p.payloadIndex + n)) := by
  have all := length_payload wf
  have small : (UInt16.ofNat n).toNat = n := by
    rw [UInt16.toNat_ofNat', Nat.mod_eq_of_lt (by omega)]
  have smallTotal : (UInt16.ofNat (p.payloadIndex + n)).toNat = p.payloadIndex + n := by
    rw [UInt16.toNat_ofNat', Nat.mod_eq_of_lt (by omega)]
  have total : UInt16.ofNat p.payloadIndex + UInt16.ofNat n = UInt16.ofNat (p.payloadIndex + n) :=
    (UInt16.ofNat_add _ _).symm
  have length : (p.payload.take n).length = n := List.length_take_of_le (by omega)
  obtain ⟨h₁, eq₁, wf₁, keeps₁, data₁⟩ :=
    wf.ipv4.setTotalLength (UInt16.ofNat (p.payloadIndex + n))
  obtain ⟨h₂, eq₂, wf₂, keeps₂, data₂, sum⟩ := wf₁.updateChecksum
  have keeps := keeps₁.trans keeps₂
  have data := data₂.trans data₁
  have lengths : h₂.data.totalLength.toNat = h₂.data.headerLength.toNat +
      p.transportHeader.raw.length + (p.payload.take n).length := by
    have raw : h₂.data.headerLength.toNat = p.ipv4Header.raw.length := by
      rw [← wf₂.length_raw, keeps.1]
    rw [raw, length, data]
    show (UInt16.ofNat (p.payloadIndex + n)).toNat = _
    rw [smallTotal]
    rfl
  obtain ⟨t₁, t₂, eq₃, eq₄, wf₃, lengthTransport, dataTransport, completes⟩ :=
    wf.transport.complete lengths
  rw [length] at eq₃
  have index : p.payloadIndex = h₂.raw.length + t₂.raw.length := by
    rw [payloadIndex, transportIndex, keeps.1, lengthTransport]
  have wf' : Packetizer.WellFormed ⟨h₂, t₂, p.payload⟩ := by
    refine ⟨wf₂, wf₃, ?_, ?_, ?_⟩
    · rw [keeps.2 0 (by omega)]
      exact wf.version
    · have kind := wf.protocol
      rw [data]
      cases t₂ with
      | tcp header =>
          cases hp : p.transportHeader with
          | tcp _ => rw [hp] at kind; exact kind
          | udp _ => rw [hp] at dataTransport; cases dataTransport
      | udp header =>
          cases hp : p.transportHeader with
          | tcp _ => rw [hp] at dataTransport; cases dataTransport
          | udp _ => rw [hp] at kind; exact kind
    · show (h₂.raw ++ t₂.raw ++ p.payload).length = maxPacketLength
      rw [List.length_append, List.length_append, ← index, all]
      rfl
  refine ⟨⟨h₂, t₂, p.payload⟩, ?_, wf', keeps, data, dataTransport, index.symm, rfl, ?_⟩
  · rw [Packetizer.build, small, if_neg (by omega), total]
    simp only [eq₁, eq₂, eq₃, ok_bind, readSlice_eq (Nat.zero_le n) (show n ≤ p.payload.length by omega),
      slice_zero, eq₄, pure_eq_ok]
  · rw [index]
    exact wf'.validPacket (show n ≤ p.payload.length by omega)
      (by rw [data]; show (UInt16.ofNat (p.payloadIndex + n)).toNat = _; rw [smallTotal, index]; rfl)
      sum completes

theorem receive (wf : p.WellFormed) {data : List UInt8} (fits : data.length ≤ p.payload.length) :
    (p.receive data).WellFormed ∧ (p.receive data).payload.take data.length = data := by
  have inside : 0 + data.length ≤ p.payload.length := by omega
  refine ⟨⟨wf.ipv4, wf.transport, wf.version, wf.protocol, ?_⟩, ?_⟩
  · have length := wf.length
    rw [buffer, List.length_append] at length ⊢
    rw [Packetizer.receive, length_splice inside]
    exact length
  · have front := take_splice inside
    rwa [Nat.zero_add, List.take_zero, List.nil_append] at front

end Packetizer.WellFormed

/-- `packet` is the packet of `p'`, which has the headers of `p` completed for the
payload `data`. -/
structure Packetizer.Built (p p' : Packetizer) (data : List UInt8) (packet : Ipv4Packet) :
    Prop where
  wellFormed : p'.WellFormed
  transportData : p'.transportHeader.data = p.transportHeader.data
  payloadIndex : p'.payloadIndex = p.payloadIndex
  inflated : packet = p'.inflate (UInt16.ofNat (p.payloadIndex + data.length))
  length : packet.length = UInt16.ofNat (p.payloadIndex + data.length)
  fits : p.payloadIndex + data.length < 65536
  raw : packet.raw = p'.ipv4Header.raw ++ p'.transportHeader.raw ++ data
  valid : ValidPacket packet.raw

namespace Packetizer.Built

variable {p p' : Packetizer} {data : List UInt8} {packet : Ipv4Packet}

theorem length_raw (built : p.Built p' data packet) :
    packet.raw.length = p.payloadIndex + data.length := by
  rw [built.raw, List.length_append, List.length_append, ← built.payloadIndex]
  rfl

theorem payload (built : p.Built p' data packet) : packet.payload = .ok (some data) := by
  have ipv4 := built.wellFormed.ipv4.length_raw
  have transport := built.wellFormed.transport.length_raw
  have headers : packet.ipv4HeaderData.headerLength.toNat + p'.transportHeader.data.headerLength.toNat =
      (p'.ipv4Header.raw ++ p'.transportHeader.raw).length := by
    have same : p'.transportHeader.data.headerLength = p'.transportHeader.headerLength := by
      cases p'.transportHeader <;> rfl
    rw [built.inflated, List.length_append, ipv4, transport, same]
    rfl
  have some : packet.transportHeaderData = some p'.transportHeader.data := by
    rw [built.inflated]
    rfl
  have whole : (p'.ipv4Header.raw ++ p'.transportHeader.raw).length ≤ packet.raw.length := by
    rw [built.raw]
    exact (List.prefix_append _ data).length_le
  rw [Ipv4Packet.payload, some]
  show (readSlice packet.raw (_ + _) packet.raw.length >>= fun payload => _) = _
  rw [headers, readSlice_eq whole le_rfl, slice_full le_rfl, built.raw, List.drop_left]
  rfl

/-- The numbers and flags of the packet are those set in the header before. -/
theorem segment (built : p.Built p' data packet) {header : TcpHeader}
    (tcp : p.transportHeader = .tcp header) :
    Segment.ofRaw packet.raw =
      ⟨header.data.sequenceNumber, header.data.acknowledgementNumber, header.data.flags, data⟩ := by
  have wf := built.wellFormed
  obtain ⟨header', tcp', same⟩ : ∃ header', p'.transportHeader = .tcp header' ∧
      header'.data = header.data := by
    have data := built.transportData
    rw [tcp] at data
    cases h : p'.transportHeader with
    | tcp header' =>
        rw [h] at data
        exact ⟨header', rfl, TransportHeaderData.tcp.inj data⟩
    | udp _ => rw [h] at data; cases data
  have index := built.payloadIndex
  have raw : packet.raw = p'.buffer.take (p'.payloadIndex + data.length) := by
    rw [built.inflated, inflate, UInt16.toNat_ofNat', Nat.mod_eq_of_lt built.fits, index]
  have total : p'.ipv4Header.data.totalLength.toNat = p'.payloadIndex + data.length := by
    have length := built.length
    rw [built.inflated] at length
    change p'.ipv4Header.data.totalLength = _ at length
    rw [length, UInt16.toNat_ofNat', Nat.mod_eq_of_lt built.fits, index]
  have carried : p'.payload.take data.length = data := by
    have front := built.raw
    rw [raw, take_buffer] at front
    exact List.append_cancel_left front
  rw [raw, wf.segment tcp' total, same, carried]

end Packetizer.Built

namespace Packetizer.WellFormed

variable {p : Packetizer}

theorem build_take (wf : p.WellFormed) {data : List UInt8}
    (fits : p.payloadIndex + data.length < 65536) (front : p.payload.take data.length = data) :
    ∃ packet p', p.build (UInt16.ofNat data.length) = .ok (packet, p') ∧
      p.Built p' data packet := by
  obtain ⟨p', eq, wf', -, ipv4Data, transportData, index, payload, valid⟩ := wf.build fits
  have small : (UInt16.ofNat (p.payloadIndex + data.length)).toNat =
      p.payloadIndex + data.length := by
    rw [UInt16.toNat_ofNat', Nat.mod_eq_of_lt fits]
  refine ⟨_, p', eq, wf', transportData, index, rfl, ?_, fits, ?_, ?_⟩
  · show p'.ipv4Header.data.totalLength = _
    rw [ipv4Data]
  · show p'.buffer.take _ = _
    rw [small, ← index, take_buffer, payload, front]
  · show ValidPacket (p'.buffer.take _)
    rw [small]
    exact valid

/-- What a read of a stream source that has bytes makes of them. -/
theorem packetizeRead (wf : p.WellFormed) {available : List UInt8} {maxChunkSize : ℕ}
    (bound : p.payloadIndex + maxChunkSize < 65536) :
    (p.chunk available maxChunkSize = [] ∧
      p.packetizeRead (.ok available) maxChunkSize = .ok (.ok none, p)) ∨
    (p.chunk available maxChunkSize ≠ [] ∧ ∃ packet p',
      p.packetizeRead (.ok available) maxChunkSize = .ok (.ok (some packet), p') ∧
      p.Built p' (p.chunk available maxChunkSize) packet) := by
  rw [Packetizer.packetizeRead]
  by_cases nonempty : p.chunk available maxChunkSize = []
  · refine .inl ⟨nonempty, ?_⟩
    simp [nonempty]
  · refine .inr ⟨nonempty, ?_⟩
    have length : (p.chunk available maxChunkSize).length ≤ min maxChunkSize p.payload.length := by
      rw [chunk, List.length_take]
      omega
    have short : (p.chunk available maxChunkSize).length ≤ p.payload.length := by omega
    have taken := wf.receive short
    obtain ⟨packet, p', eq, built⟩ := @build_take _ taken.1 (p.chunk available maxChunkSize)
      (show p.payloadIndex + _ < _ by omega) taken.2
    refine ⟨packet, p', ?_, ?_⟩
    · simp only [List.length_pos_iff.mpr nonempty, if_true, eq, ok_bind, pure_eq_ok]
    · exact ⟨built.wellFormed, built.transportData, built.payloadIndex, built.inflated,
        built.length, built.fits, built.raw, built.valid⟩

/-- **An empty packet** of the current headers.  It is the control segment of a TCP connection, and
its total length is that of the headers alone. -/
theorem packetizeEmptyPayload (wf : p.WellFormed) (fits : p.payloadIndex < 65536) :
    ∃ packet p', p.packetizeEmptyPayload = .ok (packet, p') ∧ p.Built p' [] packet :=
  @build_take _ wf [] fits rfl

end Packetizer.WellFormed

/-- A packetizer made from well-formed headers is well-formed. -/
theorem Packetizer.new_ok {ipv4 : Ipv4Header} {transport : TransportHeader}
    (wfIpv4 : ipv4.WellFormed) (wfTransport : transport.WellFormed)
    (version : getByte ipv4.raw 0 >>> 4 = 4)
    (protocol : ipv4.data.protocol =
      match transport with
      | .tcp _ => .tcp
      | .udp _ => .udp) :
    ∃ p, Packetizer.new ipv4 transport = .ok p ∧ p.WellFormed ∧
      p.ipv4Header.raw.length = ipv4.raw.length ∧
      p.transportHeader.raw.length = transport.raw.length ∧
      (∀ header, transport = .tcp header → ∃ header', p.transportHeader = .tcp header') := by
  obtain ⟨h, eq, wf, keeps, data⟩ := wfIpv4.swapSourceAndDestination
  have bounds := wfTransport.length_bounds
  have short : ipv4.raw.length ≤ 60 := by
    rw [wfIpv4.length_raw, wfIpv4.mirrors, Ipv4HeaderData.toNat_headerLength]
    have nibble : (getByte ipv4.raw 0 &&& 15).toNat ≤ 15 := by
      rw [UInt8.toNat_and]
      exact Nat.and_le_right
    omega
  have first : getByte h.raw 0 >>> 4 = 4 := by rw [keeps.2 0 (by omega), version]
  have whole (t : TransportHeader) (same : t.raw.length = transport.raw.length) :
      (h.raw ++ t.raw ++ List.replicate (maxPacketLength - (h.raw.length + t.raw.length)) 0).length
        = maxPacketLength := by
    have most : maxPacketLength = 65536 := rfl
    rw [List.length_append, List.length_append, List.length_replicate, same, keeps.1]
    omega
  have lengths : ¬ (ipv4.raw.length ≠ ipv4.data.headerLength.toNat ∨
      transport.raw.length ≠ transport.headerLength.toNat) := by
    rw [not_or, not_not, not_not]
    exact ⟨wfIpv4.length_raw, wfTransport.length_raw⟩
  cases transport with
  | tcp header =>
      obtain ⟨t, eqT, wfT, length, -, dataT⟩ :=
        TcpHeader.WellFormed.swapSourceAndDestination (h := header) wfTransport
      refine ⟨⟨h, .tcp t, List.replicate
          (maxPacketLength - (h.raw.length + (TransportHeader.tcp t).raw.length)) 0⟩,
        ?_, ⟨wf, wfT, first, ?_, whole (.tcp t) length⟩, keeps.1, length, fun _ _ => ⟨t, rfl⟩⟩
      · rw [new, if_neg lengths, eq, TransportHeader.swapSourceAndDestination, eqT]
        rfl
      · show h.data.protocol = .tcp
        rw [data]
        exact protocol
  | udp header =>
      obtain ⟨t, eqT, wfT, dataT⟩ :=
        UdpHeader.WellFormed.swapSourceAndDestination (h := header) wfTransport
      have length : t.raw.length = header.raw.length :=
        wfT.length_raw.trans (UdpHeader.WellFormed.length_raw wfTransport).symm
      refine ⟨⟨h, .udp t, List.replicate
          (maxPacketLength - (h.raw.length + (TransportHeader.udp t).raw.length)) 0⟩,
        ?_, ⟨wf, wfT, first, ?_, whole (.udp t) length⟩, keeps.1, length, nofun⟩
      · rw [new, if_neg lengths, eq, TransportHeader.swapSourceAndDestination, eqT]
        rfl
      · show h.data.protocol = .udp
        rw [data]
        exact protocol

end ReverseTether
