import ReverseTether.Packetizer

/-!
# `Ipv6Packetizer`: from payloads back to IPv6 packets

The IPv6 counterpart of `Packetizer`, with the buffer cut into its regions in the
same way.  The headers are copied from one packet of the client, with its
endpoints swapped; for every packet that is built, the two length fields and the
checksum are written again, and nothing else.  In particular the sequence number,
the acknowledgement number, the flags and the options of a TCP header stay those
of the packet that was copied (`WellFormed.segment`).

The checksum covers the 40-byte pseudo header of RFC 8200.  The sums of the source
are `u32`; the model adds natural numbers.

There is no option in an IPv6 header as the relay sees it, so the transport header always
begins at the same place, and an extension header makes the packet one that the relay does not
route.  The payload of a packet is the chunk that was read; a datagram that is longer than the
buffer is cut, which is looked at elsewhere.

`Ipv6Packet.parse_eq_ok_iff` says which bytes are accepted, without the parser.  It is what a
packet that was built is compared with.
-/

namespace ReverseTether

open Library

/-! ## Accepted packets -/

/-- Header bytes with the data read from them, which the packetizer changes together. -/
structure Ipv6Header where
  raw : List UInt8
  data : Ipv6HeaderData
  deriving DecidableEq, Repr

/-- `ipv6_header`: a view of the first bytes of the packet, with the data that were read from them.
-/
def Ipv6Packet.ipv6Header (p : Ipv6Packet) : Outcome Ipv6Header := do
  return ⟨← readSlice p.raw 0 ipv6HeaderLength, p.ipv6HeaderData⟩

/-- What is behind the fixed header of `raw`, as far as its length field says. -/
def ipv6Body (raw : List UInt8) : List UInt8 := slice raw 40 (40 + (getU16 raw 4).toNat)

/-- The transport header in `raw` is of the protocol it announces, and fits. -/
inductive Ipv6Transport (raw : List UInt8) : TransportHeaderData → Prop
  | tcp : getByte raw 6 = 6 →
      20 ≤ (TcpHeaderData.ofRaw (ipv6Body raw)).headerLength.toNat →
      (TcpHeaderData.ofRaw (ipv6Body raw)).headerLength.toNat ≤ (getU16 raw 4).toNat →
      Ipv6Transport raw (.tcp (.ofRaw (ipv6Body raw)))
  | udp : getByte raw 6 = 17 → 8 ≤ (getU16 raw 4).toNat →
      getU16 (ipv6Body raw) 4 = getU16 raw 4 → Ipv6Transport raw (.udp (.ofRaw (ipv6Body raw)))

/-- `raw` begins with the IPv6 packet `packet`: its version and length are those of the header, and
its bytes are the ones that length takes. -/
structure Ipv6Packet.ReadFrom (raw : List UInt8) (packet : Ipv6Packet) : Prop where
  version : getByte raw 0 >>> 4 = 6
  complete : 40 + (getU16 raw 4).toNat ≤ raw.length
  bytes : packet.raw = raw.take (40 + (getU16 raw 4).toNat)
  header : packet.ipv6HeaderData = .ofRaw raw
  transport : Ipv6Transport raw packet.transportHeaderData

section Validation

variable {payload : List UInt8}

/-- The header length the validation computes is the one that is read. -/
theorem toNat_headerLength_eq_shift (payload : List UInt8) :
    (TcpHeaderData.ofRaw payload).headerLength.toNat = (getByte payload 12 >>> 4).toNat * 4 := by
  rw [TcpHeaderData.toNat_headerLength, UInt8.toNat_shiftRight, Nat.shiftRight_eq_div_pow]
  rfl

theorem validateTcp_eq_ok_iff :
    validateTcp payload payload.length = .ok (.ok ()) ↔
      20 ≤ (TcpHeaderData.ofRaw payload).headerLength.toNat ∧
        (TcpHeaderData.ofRaw payload).headerLength.toNat ≤ payload.length := by
  rw [toNat_headerLength_eq_shift, validateTcp]
  split
  · rename_i short
    exact ⟨nofun, fun fits => by omega⟩
  · rename_i long
    rw [readByte_eq (by omega), ok_bind]
    simp only
    split
    · rename_i bad
      exact ⟨nofun, fun fits => by omega⟩
    · rename_i good
      exact ⟨fun _ => by omega, fun _ => rfl⟩

theorem validateUdp_eq_ok_iff :
    validateUdp payload payload.length = .ok (.ok ()) ↔
      8 ≤ payload.length ∧ (getU16 payload 4).toNat = payload.length := by
  rw [validateUdp]
  split
  · rename_i short
    exact ⟨nofun, fun fits => by omega⟩
  · rename_i long
    rw [readU16_eq (by omega), ok_bind]
    simp only
    split
    · rename_i bad
      exact ⟨nofun, fun fits => absurd fits.2 bad⟩
    · rename_i good
      exact ⟨fun _ => ⟨by omega, not_not.mp good⟩, fun _ => rfl⟩

theorem Ipv6HeaderData.parse_eq_ok_iff {raw : List UInt8} {data : Ipv6HeaderData} :
    Ipv6HeaderData.parse raw = .ok data ↔
      getByte raw 0 >>> 4 = 6 ∧ 40 + (getU16 raw 4).toNat ≤ raw.length ∧ data = .ofRaw raw := by
  rw [Ipv6HeaderData.parse, ipv6HeaderLength]
  constructor
  · intro parsed
    split at parsed
    · cases parsed
    · split at parsed
      · cases parsed
      · split at parsed
        · cases parsed
        · rename_i version complete
          cases parsed
          exact ⟨not_not.mp version, by omega, rfl⟩
  · rintro ⟨version, complete, rfl⟩
    rw [if_neg (by omega), if_neg (not_not.mpr version), if_neg (by omega)]

end Validation

theorem length_ipv6Body {raw : List UInt8} (complete : 40 + (getU16 raw 4).toNat ≤ raw.length) :
    (ipv6Body raw).length = (getU16 raw 4).toNat := by
  rw [ipv6Body, length_slice]
  omega

/-- The transport part is accepted exactly when its header fits. -/
theorem Ipv6Packet.transport_parse_iff {raw : List UInt8} {protocol : Protocol}
    {data : TransportHeaderData} (known : Ipv6Packet.protocolOf (getByte raw 6) = .ok protocol)
    (complete : 40 + (getU16 raw 4).toNat ≤ raw.length) :
    ((protocol = .tcp → validateTcp (ipv6Body raw) (ipv6Body raw).length = .ok (.ok ())) ∧
        (protocol = .udp → validateUdp (ipv6Body raw) (ipv6Body raw).length = .ok (.ok ())) ∧
        TransportHeaderData.parse protocol (ipv6Body raw) = .ok (some data)) ↔
      Ipv6Transport raw data := by
  have length := length_ipv6Body complete
  rw [Ipv6Packet.protocolOf] at known
  constructor
  · rintro ⟨tcp, udp, parsed⟩
    split at known
    · rename_i isTcp
      cases known
      obtain ⟨long, fits⟩ := validateTcp_eq_ok_iff.mp (tcp rfl)
      rw [TransportHeaderData.parse, TcpHeaderData.parse_eq (by omega)] at parsed
      cases parsed
      exact .tcp isTcp long (length ▸ fits)
    · split at known
      · rename_i isUdp
        cases known
        obtain ⟨long, fits⟩ := validateUdp_eq_ok_iff.mp (udp rfl)
        rw [TransportHeaderData.parse, UdpHeaderData.parse_eq (by omega)] at parsed
        cases parsed
        exact .udp isUdp (length ▸ long) (UInt16.toNat_inj.mp (fits.trans length))
      · split at known
        · cases known
        · split at known <;> cases known
  · intro transport
    cases transport with
    | tcp isTcp long fits =>
        rw [if_pos isTcp] at known
        cases known
        refine ⟨fun _ => validateTcp_eq_ok_iff.mpr ⟨long, length.symm ▸ fits⟩, by simp, ?_⟩
        rw [TransportHeaderData.parse, TcpHeaderData.parse_eq (by omega)]
        rfl
    | udp isUdp long fits =>
        rw [isUdp, if_neg (by decide), if_pos rfl] at known
        cases known
        refine ⟨by simp, fun _ => validateUdp_eq_ok_iff.mpr ⟨length.symm ▸ long, ?_⟩, ?_⟩
        · rw [fits, length]
        · rw [TransportHeaderData.parse, UdpHeaderData.parse_eq (by omega)]
          rfl

theorem Ipv6Transport.known {raw : List UInt8} {data : TransportHeaderData}
    (transport : Ipv6Transport raw data) :
    Ipv6Packet.protocolOf (getByte raw 6) = .ok .tcp ∨
      Ipv6Packet.protocolOf (getByte raw 6) = .ok .udp := by
  cases transport with
  | tcp isTcp _ _ => exact .inl (by rw [isTcp]; rfl)
  | udp isUdp _ _ => exact .inr (by rw [isUdp]; rfl)

/-- The end of the parse, once the transport header is validated. -/
theorem Ipv6Packet.parse_validated {raw : List UInt8} {packet : Ipv6Packet} {protocol : Protocol}
    {validated : ParseResult Unit} (complete : 40 + (getU16 raw 4).toNat ≤ raw.length) :
    (match validated with
      | .error err => (pure (.error err) : Outcome (ParseResult Ipv6Packet))
      | .ok () => do
          match ← TransportHeaderData.parse protocol (ipv6Body raw) with
          | none => return .error (.malformed "unsupported transport header")
          | some transportHeaderData =>
              let front ← readSlice raw 0 (Ipv6HeaderData.ofRaw raw).totalLength
              return .ok ⟨front, .ofRaw raw, transportHeaderData⟩) = .ok (.ok packet) ↔
      validated = .ok () ∧ ∃ data,
        TransportHeaderData.parse protocol (ipv6Body raw) = .ok (some data) ∧
        packet = ⟨raw.take (40 + (getU16 raw 4).toNat), .ofRaw raw, data⟩ := by
  have front : readSlice raw 0 (Ipv6HeaderData.ofRaw raw).totalLength =
      .ok (raw.take (40 + (getU16 raw 4).toNat)) := readSlice_eq (Nat.zero_le _) complete
  constructor
  · intro parsed
    cases validated with
    | error err => cases parsed
    | ok _ =>
        obtain ⟨data, transport, parsed⟩ := bind_eq_ok.mp parsed
        cases data with
        | none => cases parsed
        | some data =>
            simp only [front, ok_bind] at parsed
            cases parsed
            exact ⟨rfl, data, transport, rfl⟩
  · rintro ⟨rfl, data, transport, rfl⟩
    simp only [transport, front, ok_bind]
    rfl

/-- **What is accepted as an IPv6 packet.**  The specification lists what was read and where from,
and is free of the order in which the parser checks. -/
theorem Ipv6Packet.parse_eq_ok_iff {raw : List UInt8} {packet : Ipv6Packet} :
    Ipv6Packet.parse raw = .ok (.ok packet) ↔ packet.ReadFrom raw := by
  have body (complete : 40 + (getU16 raw 4).toNat ≤ raw.length) :
      readSlice raw ipv6HeaderLength (Ipv6HeaderData.ofRaw raw).totalLength =
        .ok (ipv6Body raw) := readSlice_eq (Nat.le_add_right 40 _) complete
  have field : (Ipv6HeaderData.ofRaw raw).payloadLength = getU16 raw 4 := rfl
  constructor
  · intro parsed
    unfold Ipv6Packet.parse at parsed
    split at parsed
    · cases parsed
    · rename_i header fixed
      obtain ⟨version, complete, rfl⟩ := Ipv6HeaderData.parse_eq_ok_iff.mp fixed
      have length := length_ipv6Body complete
      split at parsed
      · cases parsed
      · rename_i protocol known
        rw [body complete, ok_bind, field, ← length] at parsed
        cases protocol with
        | tcp =>
            obtain ⟨validated, valid, parsed⟩ := bind_eq_ok.mp parsed
            obtain ⟨rfl, data, transport, rfl⟩ := (Ipv6Packet.parse_validated complete).mp parsed
            exact ⟨version, complete, rfl, rfl,
              (Ipv6Packet.transport_parse_iff known complete).mp ⟨fun _ => valid, nofun, transport⟩⟩
        | udp =>
            obtain ⟨validated, valid, parsed⟩ := bind_eq_ok.mp parsed
            obtain ⟨rfl, data, transport, rfl⟩ := (Ipv6Packet.parse_validated complete).mp parsed
            exact ⟨version, complete, rfl, rfl,
              (Ipv6Packet.transport_parse_iff known complete).mp ⟨nofun, fun _ => valid, transport⟩⟩
        | other =>
            obtain ⟨validated, -, parsed⟩ := bind_eq_ok.mp parsed
            obtain ⟨-, data, transport, -⟩ := (Ipv6Packet.parse_validated complete).mp parsed
            cases transport
  · rintro ⟨version, complete, bytes, header, transport⟩
    have length := length_ipv6Body complete
    have fixed : Ipv6HeaderData.parse raw = .ok (.ofRaw raw) :=
      Ipv6HeaderData.parse_eq_ok_iff.mpr ⟨version, complete, rfl⟩
    have whole : packet = ⟨raw.take (40 + (getU16 raw 4).toNat), .ofRaw raw,
        packet.transportHeaderData⟩ := by
      rw [← bytes, ← header]
    rw [Ipv6Packet.parse, fixed]
    simp only
    rw [show (Ipv6HeaderData.ofRaw raw).nextHeader = getByte raw 6 from rfl]
    rcases transport.known with known | known
    · obtain ⟨valid, -, parsed⟩ := (Ipv6Packet.transport_parse_iff known complete).mpr transport
      rw [known]
      simp only
      rw [body complete, ok_bind, field, ← length, valid rfl, ok_bind]
      exact (Ipv6Packet.parse_validated complete).mpr ⟨rfl, _, parsed, whole⟩
    · obtain ⟨-, valid, parsed⟩ := (Ipv6Packet.transport_parse_iff known complete).mpr transport
      rw [known]
      simp only
      rw [body complete, ok_bind, field, ← length, valid rfl, ok_bind]
      exact (Ipv6Packet.parse_validated complete).mpr ⟨rfl, _, parsed, whole⟩

theorem IpPacket.parse_ipv6 {raw : List UInt8} {packet : Ipv6Packet}
    (parsed : IpPacket.parse raw = .ok (.ok (.ipv6 packet))) : packet.ReadFrom raw := by
  refine Ipv6Packet.parse_eq_ok_iff.mp ?_
  unfold IpPacket.parse at parsed
  split at parsed
  · cases parsed
  · split at parsed
    · obtain ⟨result, -, rest⟩ := bind_eq_ok.mp parsed
      cases result with
      | error err => cases rest
      | ok _ =>
          obtain ⟨ipv4, -, last⟩ := bind_eq_ok.mp rest
          cases last
    · split at parsed
      · obtain ⟨result, eq, rest⟩ := bind_eq_ok.mp parsed
        cases result with
        | error err => cases rest
        | ok _ =>
            cases rest
            exact eq
      · cases parsed

/-! ## The packetizer -/

/-- Convert from level 5 to level 3 by appending correct IPv6 and transport
headers. -/
structure Ipv6Packetizer where
  /-- `buffer[..IPV6_HEADER_LENGTH]`. -/
  ipv6Header : List UInt8
  /-- `buffer[IPV6_HEADER_LENGTH..payload_index]`, with `transport_header_data`. -/
  transportHeader : TransportHeader
  /-- `buffer[payload_index..]`. -/
  payload : List UInt8
  ipv6HeaderData : Ipv6HeaderData
  protocol : Protocol
  deriving DecidableEq, Repr

namespace Ipv6Packetizer

/-- `payload_index`: the payload begins behind the two headers, whose lengths never change. -/
def payloadIndex (p : Ipv6Packetizer) : ℕ := ipv6HeaderLength + p.transportHeader.raw.length

/-- `buffer`: the two headers and the space for the payload, as one array. -/
def buffer (p : Ipv6Packetizer) : List UInt8 :=
  p.ipv6Header ++ p.transportHeader.raw ++ p.payload

/-- `copy_from_slice` panics when a header does not have the length it
announces. -/
def new (referenceIpv6Header : Ipv6Header) (referenceTransportHeader : TransportHeader) :
    Outcome Ipv6Packetizer :=
  if referenceIpv6Header.raw.length ≠ ipv6HeaderLength ∨
      referenceTransportHeader.raw.length ≠ referenceTransportHeader.headerLength.toNat then
    .error .outOfBounds
  else do
    -- swap the endpoints so the synthesized packet travels back towards the client
    let ipv6Header := splice (splice referenceIpv6Header.raw 8 referenceIpv6Header.data.destination)
      24 referenceIpv6Header.data.source
    let transportHeader ← referenceTransportHeader.swapSourceAndDestination
    match Ipv6HeaderData.parseHeaderOnly ipv6Header with
    | .error _ => .error .malformedReference
    | .ok ipv6HeaderData =>
        return {
          ipv6Header
          transportHeader
          payload := List.replicate
            (maxPacketLength - (ipv6HeaderLength + transportHeader.raw.length)) 0
          ipv6HeaderData
          protocol := if referenceIpv6Header.data.nextHeader = 6 then .tcp else .udp }

/-- Offset of the checksum field inside the transport header. -/
def checksumOffset (p : Ipv6Packetizer) : ℕ :=
  match p.protocol with
  | .tcp => 16
  | _ => 6

/-- Other bytes for the transport header. -/
def withTransport (p : Ipv6Packetizer) (raw : List UInt8) : Ipv6Packetizer :=
  { p with transportHeader := p.transportHeader.data.bind raw }

/-- The checksum is written into the transport header; the rest of the buffer stays as it is. -/
def putChecksum (p : Ipv6Packetizer) (checksum : UInt16) : Outcome Ipv6Packetizer := do
  return p.withTransport (← writeU16 p.transportHeader.raw p.checksumOffset checksum)

/-- 16-byte source, 16-byte destination, 32-bit upper-layer length, 24 zero bits
and the 8-bit next header. -/
def pseudoHeaderSum (p : Ipv6Packetizer) (transportLength : ℕ) : ℕ :=
  wordSum (slice p.ipv6Header 8 40) + transportLength / 65536 + transportLength % 65536 +
    p.ipv6HeaderData.nextHeader.toNat

/-- A computed UDP checksum of zero is transmitted as all ones. -/
def checksumOf (p : Ipv6Packetizer) (sum : ℕ) : UInt16 :=
  let checksum := UInt16.ofNat (65535 - fold16 sum)
  if checksum = 0 ∧ p.protocol = .udp then 0xffff else checksum

/-- Compute the transport checksum over the pseudo header, the transport header and
the payload. -/
def updateChecksum (p : Ipv6Packetizer) (totalLength : ℕ) : Outcome Ipv6Packetizer := do
  -- zero the field before folding, otherwise the stale value pollutes the sum
  let p ← p.putChecksum 0
  let transportLength := totalLength - ipv6HeaderLength
  let transport ← readSlice (p.transportHeader.raw ++ p.payload) 0 transportLength
  p.putChecksum (p.checksumOf (p.pseudoHeaderSum transportLength + wordSum transport))

/-- Complete the headers for the payload in the buffer. -/
def build (p : Ipv6Packetizer) (payloadLength : UInt16) : Outcome (Ipv6Packet × Ipv6Packetizer) :=
  if 65536 ≤ p.payloadIndex - ipv6HeaderLength + payloadLength.toNat then .error .overflow
  else do
    let transportLength := UInt16.ofNat (p.payloadIndex - ipv6HeaderLength) + payloadLength
    let totalLength := ipv6HeaderLength + transportLength.toNat
    -- the IPv6 payload length counts every byte after the fixed header
    let ipv6Header ← writeU16 p.ipv6Header 4 transportLength
    let transportHeader ← p.transportHeader.setPayloadLength payloadLength
    let p ← { p with ipv6Header, transportHeader }.updateChecksum totalLength
    match ← Ipv6Packet.parse (← readSlice p.buffer 0 totalLength) with
    | .error _ => .error .unparsablePacket
    | .ok packet => return (packet, p)

/-- The payload region once `data` has been received into it. -/
def receive (p : Ipv6Packetizer) (data : List UInt8) : Ipv6Packetizer :=
  { p with payload := splice p.payload 0 data }

/-- A datagram longer than the slice is truncated to it. -/
def packetize (p : Ipv6Packetizer) (source : IoResult (List UInt8)) :
    Outcome (IoResult Ipv6Packet × Ipv6Packetizer) :=
  match source with
  | .error err => .ok (.error err, p)
  | .ok datagram => do
      let data := datagram.take p.payload.length
      let (packet, p) ← (p.receive data).build (UInt16.ofNat data.length)
      return (.ok packet, p)

/-- What `read` takes of the bytes a stream source has. -/
def chunk (p : Ipv6Packetizer) (available : List UInt8) : List UInt8 :=
  available.take p.payload.length

/-- Packetize from a stream source, without a limit on the chunk; `Ok(None)` on EOF
(read 0 byte). -/
def packetizeRead (p : Ipv6Packetizer) (source : IoResult (List UInt8)) :
    Outcome (IoResult (Option Ipv6Packet) × Ipv6Packetizer) :=
  match source with
  | .error err => .ok (.error err, p)
  | .ok available =>
      let data := p.chunk available
      if 0 < data.length then do
        let (packet, p) ← (p.receive data).build (UInt16.ofNat data.length)
        return (.ok (some packet), p)
      else .ok (.ok none, p)

/-! ## Packets that are built -/

/-- The headers are those of an IPv6 packet with the transport it announces, and the
regions make up the whole buffer. -/
structure WellFormed (p : Ipv6Packetizer) : Prop where
  length_header : p.ipv6Header.length = 40
  version : getByte p.ipv6Header 0 >>> 4 = 6
  transport : p.transportHeader.WellFormed
  kind :
    match p.transportHeader with
    | .tcp _ => getByte p.ipv6Header 6 = 6 ∧ p.protocol = .tcp
    | .udp _ => getByte p.ipv6Header 6 = 17 ∧ p.protocol = .udp
  nextHeader : p.ipv6HeaderData.nextHeader = getByte p.ipv6Header 6
  length : p.buffer.length = maxPacketLength

end Ipv6Packetizer

/-- One complete IPv6 packet, which the parser of the relay accepts and whose
checksum is valid for its bytes. -/
structure ValidIpv6Packet (raw : List UInt8) : Prop where
  accepted : ∃ data, (⟨raw, .ofRaw raw, data⟩ : Ipv6Packet).ReadFrom raw
  checksum : fold16 (wordSum (slice raw 8 40) + (getU16 raw 4).toNat + (getByte raw 6).toNat +
    wordSum (ipv6Body raw)) = 65535

/-- The segment a receiver finds in the bytes of an IPv6 packet. -/
def Segment.ofIpv6 (raw : List UInt8) : Segment :=
  let tcp := TcpHeaderData.ofRaw (ipv6Body raw)
  { sequenceNumber := tcp.sequenceNumber
    acknowledgementNumber := tcp.acknowledgementNumber
    flags := tcp.flags
    payload := (ipv6Body raw).drop tcp.headerLength.toNat }

theorem ipv6Body_append {header body : List UInt8} (length : header.length = 40)
    (field : (getU16 header 4).toNat = body.length) : ipv6Body (header ++ body) = body := by
  have whole : (header ++ body).length ≤ 40 + (getU16 (header ++ body) 4).toNat := by
    rw [List.length_append, getU16_append_left (by omega)]
    omega
  rw [ipv6Body, slice_full whole, ← length, List.drop_left]

theorem TransportHeader.raw_bind (data : TransportHeaderData) (raw : List UInt8) :
    (data.bind raw).raw = raw := by
  cases data <;> rfl

theorem TransportHeader.data_bind (data : TransportHeaderData) (raw : List UInt8) :
    (data.bind raw).data = data := by
  cases data <;> rfl

namespace Ipv6Packetizer

theorem take_buffer {p : Ipv6Packetizer} (header : p.ipv6Header.length = 40) (n : ℕ) :
    p.buffer.take (p.payloadIndex + n) =
      p.ipv6Header ++ (p.transportHeader.raw ++ p.payload.take n) := by
  have index : p.payloadIndex = (p.ipv6Header ++ p.transportHeader.raw).length := by
    rw [List.length_append, header]
    rfl
  rw [buffer, index, List.take_length_add_append, List.append_assoc]

namespace WellFormed

variable {p : Ipv6Packetizer}

theorem payload_index (wf : p.WellFormed) : p.payloadIndex + p.payload.length = 65536 := by
  have length := wf.length
  rw [buffer, List.length_append, List.length_append, wf.length_header] at length
  exact length

/-- The buffer after its headers have been rewritten in place. -/
theorem rewrite (wf : p.WellFormed) {ipv6Header : List UInt8} {transportHeader : TransportHeader}
    (header : ipv6Header.length = 40)
    (kept : ∀ k, k < 4 ∨ 6 ≤ k → getByte ipv6Header k = getByte p.ipv6Header k)
    (transport : transportHeader.WellFormed)
    (length : transportHeader.raw.length = p.transportHeader.raw.length)
    (data : transportHeader.data = p.transportHeader.data) :
    WellFormed { p with ipv6Header, transportHeader } where
  length_header := header
  version := by
    rw [kept 0 (by omega)]
    exact wf.version
  transport := transport
  kind := by
    have kind := wf.kind
    have same := kept 6 (by omega)
    cases is : p.transportHeader with
    | tcp _ =>
        rw [is] at kind data
        cases transportHeader with
        | tcp _ => exact ⟨same.trans kind.1, kind.2⟩
        | udp _ => cases data
    | udp _ =>
        rw [is] at kind data
        cases transportHeader with
        | tcp _ => cases data
        | udp _ => exact ⟨same.trans kind.1, kind.2⟩
  nextHeader := by
    rw [kept 6 (by omega)]
    exact wf.nextHeader
  length := by
    have whole := wf.length
    rw [buffer, List.length_append, List.length_append, wf.length_header] at whole
    rw [buffer, List.length_append, List.length_append, header, length]
    exact whole

/-- The checksum field is inside the transport header. -/
theorem checksumOffset_fits (wf : p.WellFormed) :
    p.checksumOffset + 2 ≤ p.transportHeader.raw.length ∧ p.checksumOffset % 2 = 0 := by
  have transport := wf.transport
  have kind := wf.kind
  cases is : p.transportHeader with
  | tcp header =>
      rw [is] at transport kind
      have long := TcpHeader.WellFormed.long transport
      rw [checksumOffset, kind.2]
      exact ⟨show 18 ≤ header.raw.length by omega, rfl⟩
  | udp header =>
      rw [is] at transport kind
      have length := UdpHeader.WellFormed.length_raw transport
      rw [checksumOffset, kind.2]
      exact ⟨show 8 ≤ header.raw.length by omega, rfl⟩

theorem putChecksum (wf : p.WellFormed) (checksum : UInt16) :
    p.putChecksum checksum =
        .ok (p.withTransport (putU16 p.transportHeader.raw p.checksumOffset checksum)) ∧
      (p.withTransport (putU16 p.transportHeader.raw p.checksumOffset checksum)).WellFormed := by
  obtain ⟨inside, -⟩ := wf.checksumOffset_fits
  constructor
  · rw [Ipv6Packetizer.putChecksum, writeU16_eq inside]
    rfl
  · have length : (putU16 p.transportHeader.raw p.checksumOffset checksum).length =
        p.transportHeader.raw.length := length_putU16 inside checksum
    refine wf.rewrite wf.length_header (fun _ _ => rfl) ?_ ?_ (TransportHeader.data_bind _ _)
    · have transport := wf.transport
      have kind := wf.kind
      cases is : p.transportHeader with
      | tcp header =>
          rw [is] at transport kind
          obtain ⟨h, -, wf', -, data, raw⟩ := TcpHeader.WellFormed.setChecksum transport checksum
          have offset : p.checksumOffset = 16 := by rw [checksumOffset, kind.2]
          rw [offset]
          show TcpHeader.WellFormed ⟨putU16 header.raw 16 checksum, header.data⟩
          rw [← raw, ← data]
          exact wf'
      | udp header =>
          rw [is] at transport kind
          have eight := UdpHeader.WellFormed.length_raw transport
          have offset : p.checksumOffset = 6 := by rw [checksumOffset, kind.2]
          rw [offset]
          exact UdpHeader.WellFormed.splice transport (by decide) (by rw [length_u16Bytes]; omega)
    · rw [TransportHeader.raw_bind]
      exact length

end WellFormed

end Ipv6Packetizer

/-- A sum that folds to `65535` still does with all ones added. -/
theorem fold16_add_ones {sum : ℕ} (folds : fold16 sum = 65535) : fold16 (sum + 65535) = 65535 := by
  have before := fold16_mod sum
  have after := fold16_mod (sum + 65535)
  have small := fold16_lt (sum + 65535)
  have pos : 0 < fold16 (sum + 65535) := fold16_pos (by omega)
  omega

namespace Ipv6Packetizer

/-- **The checksum completes its sum**, also when zero is sent as all ones.  UDP over IPv6 has no
packets without a checksum, and `0` would say so; all ones is the same sum. -/
theorem fold16_add_checksumOf (p : Ipv6Packetizer) (sum : ℕ) :
    fold16 (sum + (p.checksumOf sum).toNat) = 65535 := by
  have small := fold16_lt sum
  have value : (UInt16.ofNat (65535 - fold16 sum)).toNat = 65535 - fold16 sum := by
    rw [UInt16.toNat_ofNat', Nat.mod_eq_of_lt (by omega)]
  unfold checksumOf
  simp only
  split
  · rename_i zero
    have none := congrArg UInt16.toNat zero.1
    rw [value, UInt16.toNat_zero] at none
    exact fold16_add_ones (by omega)
  · rw [value]
    exact fold16_add_complement sum

namespace WellFormed

variable {p : Ipv6Packetizer}

theorem even (wf : p.WellFormed) : p.transportHeader.raw.length % 2 = 0 := by
  have transport := wf.transport
  cases is : p.transportHeader with
  | tcp header =>
      rw [is] at transport
      exact TcpHeader.WellFormed.even transport
  | udp header =>
      rw [is] at transport
      show header.raw.length % 2 = 0
      rw [UdpHeader.WellFormed.length_raw transport]

/-- **Pseudo header, header and payload sum to `65535` once the checksum is
updated.**  Nothing but the checksum changes. -/
theorem updateChecksum (wf : p.WellFormed) {n : ℕ} (enough : n ≤ p.payload.length) :
    ∃ raw, p.updateChecksum (p.payloadIndex + n) = .ok (p.withTransport raw) ∧
      (p.withTransport raw).WellFormed ∧ raw.length = p.transportHeader.raw.length ∧
      (∀ k, k + 2 ≤ p.checksumOffset → getU16 raw k = getU16 p.transportHeader.raw k) ∧
      fold16 (p.pseudoHeaderSum (raw.length + n) + wordSum (raw ++ p.payload.take n)) = 65535 := by
  obtain ⟨inside, even⟩ := wf.checksumOffset_fits
  set zeroed := putU16 p.transportHeader.raw p.checksumOffset 0 with hzeroed
  obtain ⟨eq₀, wf₀⟩ := wf.putChecksum 0
  rw [← hzeroed] at eq₀ wf₀
  have length₀ : zeroed.length = p.transportHeader.raw.length := length_putU16 inside 0
  have raw₀ : (p.withTransport zeroed).transportHeader.raw = zeroed := TransportHeader.raw_bind _ _
  set sum := p.pseudoHeaderSum (zeroed.length + n) + wordSum (zeroed ++ p.payload.take n) with hsum
  obtain ⟨eq, wf'⟩ := wf₀.putChecksum (p.checksumOf sum)
  have twice (raw : List UInt8) : (p.withTransport zeroed).withTransport raw = p.withTransport raw := by
    rw [withTransport, withTransport, TransportHeader.data_bind]
    rfl
  rw [twice, raw₀] at eq wf'
  have offset : (p.withTransport zeroed).checksumOffset = p.checksumOffset := rfl
  rw [offset] at eq wf'
  have inside₀ : p.checksumOffset + 2 ≤ zeroed.length := by rw [length₀]; exact inside
  have length : (putU16 zeroed p.checksumOffset (p.checksumOf sum)).length =
      p.transportHeader.raw.length := (length_putU16 inside₀ _).trans length₀
  refine ⟨_, ?_, wf', length, ?_, ?_⟩
  · have total : p.payloadIndex + n - ipv6HeaderLength = zeroed.length + n := by
      rw [length₀, payloadIndex]
      omega
    have cut : readSlice ((p.withTransport zeroed).transportHeader.raw ++
        (p.withTransport zeroed).payload) 0 (zeroed.length + n) =
        .ok (zeroed ++ p.payload.take n) := by
      rw [raw₀, readSlice_eq (Nat.zero_le _), slice_zero, List.take_length_add_append]
      · rfl
      · rw [List.length_append]
        exact Nat.add_le_add_left enough _
    rw [Ipv6Packetizer.updateChecksum, eq₀, ok_bind]
    simp only
    rw [total, cut, ok_bind]
    exact eq
  · intro k before
    rw [putU16, getU16_splice_of_disjoint (by rw [length_u16Bytes]; exact inside₀) (by omega),
      hzeroed, putU16, getU16_splice_of_disjoint (by rw [length_u16Bytes]; exact inside) (by omega)]
  · -- the header sums to what it did with a zero checksum, and the checksum
    have header : wordSum (putU16 zeroed p.checksumOffset (p.checksumOf sum)) =
        wordSum zeroed + (p.checksumOf sum).toNat := by
      have zero : getU16 zeroed p.checksumOffset = 0 := getU16_putU16 inside 0
      have same : zeroed = putU16 zeroed p.checksumOffset 0 := by rw [← zero, putU16_getU16 inside₀]
      have before := congrArg wordSum same
      rw [wordSum_putU16 inside₀ even] at before
      rw [wordSum_putU16 inside₀ even, before]
      simp only [UInt16.toNat_zero]
      omega
    have evenRaw : (putU16 zeroed p.checksumOffset (p.checksumOf sum)).length % 2 = 0 := by
      rw [length]
      exact wf.even
    have total : p.pseudoHeaderSum ((putU16 zeroed p.checksumOffset (p.checksumOf sum)).length + n) +
        wordSum (putU16 zeroed p.checksumOffset (p.checksumOf sum) ++ p.payload.take n) =
        sum + (p.checksumOf sum).toNat := by
      rw [wordSum_append evenRaw, header, length, hsum, wordSum_append (length₀ ▸ wf.even), length₀]
      omega
    rw [total]
    exact p.fold16_add_checksumOf sum

end WellFormed

end Ipv6Packetizer

namespace Ipv6Packetizer.WellFormed

variable {p : Ipv6Packetizer}

/-- The transport part of a packet of the buffer whose length field is right. -/
theorem ipv6Body_take (wf : p.WellFormed) {n : ℕ} (enough : n ≤ p.payload.length)
    (field : (getU16 p.ipv6Header 4).toNat = p.transportHeader.raw.length + n) :
    ipv6Body (p.buffer.take (p.payloadIndex + n)) =
      p.transportHeader.raw ++ p.payload.take n := by
  rw [take_buffer wf.length_header]
  refine ipv6Body_append wf.length_header ?_
  rw [field, List.length_append, List.length_take_of_le enough]

/-- The segment a packet of the buffer carries: numbers and flags of the header, and
the payload. -/
theorem segment (wf : p.WellFormed) {header : TcpHeader} (tcp : p.transportHeader = .tcp header)
    {n : ℕ} (enough : n ≤ p.payload.length)
    (field : (getU16 p.ipv6Header 4).toNat = header.raw.length + n) :
    Segment.ofIpv6 (p.buffer.take (p.payloadIndex + n)) =
      ⟨header.data.sequenceNumber, header.data.acknowledgementNumber, header.data.flags,
        p.payload.take n⟩ := by
  have transport : header.WellFormed := by
    have := wf.transport
    rwa [tcp] at this
  have long := transport.long
  have body := wf.ipv6Body_take enough (by rw [tcp]; exact field)
  rw [tcp] at body
  change _ = header.raw ++ _ at body
  have data : TcpHeaderData.ofRaw (header.raw ++ p.payload.take n) = header.data := by
    rw [TcpHeaderData.ofRaw_append (by omega), transport.mirrors]
  rw [Segment.ofIpv6, body, data, ← transport.length_raw, List.drop_left]

/-- A packet of a buffer whose length fields are right is accepted. -/
theorem readFrom (wf : p.WellFormed) {n : ℕ} (enough : n ≤ p.payload.length)
    (field : (getU16 p.ipv6Header 4).toNat = p.transportHeader.raw.length + n)
    (udp : ∀ header, p.transportHeader = .udp header →
      (getU16 header.raw 4).toNat = p.transportHeader.raw.length + n) :
    (⟨p.buffer.take (p.payloadIndex + n), .ofRaw (p.buffer.take (p.payloadIndex + n)),
      p.transportHeader.data⟩ : Ipv6Packet).ReadFrom (p.buffer.take (p.payloadIndex + n)) := by
  have body := wf.ipv6Body_take enough field
  have split := take_buffer wf.length_header n
  have header := wf.length_header
  set raw := p.buffer.take (p.payloadIndex + n)
  have lengthRaw : raw.length = 40 + (p.transportHeader.raw.length + n) := by
    rw [split, List.length_append, List.length_append, List.length_take_of_le enough, header]
  have fieldRaw : getU16 raw 4 = getU16 p.ipv6Header 4 := by
    rw [split, getU16_append_left (by omega)]
  have next : getByte raw 6 = getByte p.ipv6Header 6 := by
    rw [split, getByte_append_left (by omega)]
  refine ⟨?_, ?_, ?_, rfl, ?_⟩
  · rw [split, getByte_append_left (by omega)]
    exact wf.version
  · rw [fieldRaw, field, lengthRaw]
  · rw [fieldRaw, field, ← lengthRaw, List.take_length]
  · have transport := wf.transport
    have kind := wf.kind
    cases is : p.transportHeader with
    | tcp tcpHeader =>
        rw [is] at transport kind body field
        have wfTcp : tcpHeader.WellFormed := transport
        have long := wfTcp.long
        have data : TcpHeaderData.ofRaw (ipv6Body raw) = tcpHeader.data := by
          rw [body]
          show TcpHeaderData.ofRaw (tcpHeader.raw ++ _) = _
          rw [TcpHeaderData.ofRaw_append (by omega), wfTcp.mirrors]
        show Ipv6Transport raw (.tcp tcpHeader.data)
        rw [← data]
        refine .tcp (next.trans kind.1) ?_ ?_
        · rw [data, ← wfTcp.length_raw]
          exact long
        · rw [data, ← wfTcp.length_raw, fieldRaw, field]
          exact Nat.le_add_right _ _
    | udp udpHeader =>
        have datagram := udp udpHeader is
        rw [is] at transport kind body field datagram
        have wfUdp : udpHeader.WellFormed := transport
        have eight := wfUdp.length_raw
        have data : UdpHeaderData.ofRaw (ipv6Body raw) = udpHeader.data := by
          rw [body]
          show UdpHeaderData.ofRaw (udpHeader.raw ++ _) = _
          rw [UdpHeaderData.ofRaw_append (by omega), wfUdp.mirrors]
        show Ipv6Transport raw (.udp udpHeader.data)
        rw [← data]
        refine .udp (next.trans kind.1) ?_ ?_
        · rw [fieldRaw, field]
          show 8 ≤ udpHeader.raw.length + n
          omega
        · rw [body, fieldRaw]
          show getU16 (udpHeader.raw ++ _) 4 = _
          rw [getU16_append_left (by omega)]
          exact UInt16.toNat_inj.mp (datagram.trans field.symm)

/-- `set_payload_length`, in what it leaves. -/
theorem setPayloadLength {h : TransportHeader} (wf : h.WellFormed) {n : ℕ}
    (fits : h.raw.length + n < 65536) :
    ∃ h', h.setPayloadLength (UInt16.ofNat n) = .ok h' ∧ h'.WellFormed ∧
      h'.raw.length = h.raw.length ∧ h'.data = h.data ∧
      ∀ header, h' = .udp header → (getU16 header.raw 4).toNat = h.raw.length + n := by
  cases h with
  | tcp header => exact ⟨.tcp header, rfl, wf, rfl, rfl, nofun⟩
  | udp header =>
      have eight : header.raw.length = 8 := UdpHeader.WellFormed.length_raw wf
      change header.raw.length + n < 65536 at fits
      have small : (UInt16.ofNat n).toNat = n := by
        rw [UInt16.toNat_ofNat', Nat.mod_eq_of_lt (by omega)]
      obtain ⟨h', eq, wf', data, field⟩ := UdpHeader.WellFormed.setPayloadLength (h := header) wf
        (show 8 + (UInt16.ofNat n).toNat < 65536 by omega)
      refine ⟨.udp h', ?_, wf', wf'.length_raw.trans eight.symm,
        congrArg TransportHeaderData.udp data, ?_⟩
      · rw [TransportHeader.setPayloadLength, eq]
        rfl
      · intro header' same
        cases same
        rw [field, UInt16.toNat_add, small]
        show (8 + n) % 65536 = header.raw.length + n
        omega

/-- **A built packet is valid.**  Its payload is the one received, and nothing else of
the flow has changed: the numbers and the flags of a TCP header are those it had. -/
theorem build (wf : p.WellFormed) {n : ℕ} (enough : n ≤ p.payload.length) :
    ∃ packet p', p.build (UInt16.ofNat n) = .ok (packet, p') ∧ p'.WellFormed ∧
      p'.payload = p.payload ∧ p'.transportHeader.data = p.transportHeader.data ∧
      p'.transportHeader.raw.length = p.transportHeader.raw.length ∧
      (getU16 p'.ipv6Header 4).toNat = p'.transportHeader.raw.length + n ∧
      packet.raw = p'.buffer.take (p'.payloadIndex + n) ∧ ValidIpv6Packet packet.raw := by
  have all := wf.payload_index
  have bounds := wf.transport.length_bounds
  have index : p.payloadIndex - ipv6HeaderLength = p.transportHeader.raw.length := by
    rw [payloadIndex, Nat.add_sub_cancel_left]
  have fits : p.transportHeader.raw.length + n < 65536 := by
    rw [payloadIndex, ipv6HeaderLength] at all
    omega
  have small : (UInt16.ofNat n).toNat = n := by
    rw [UInt16.toNat_ofNat', Nat.mod_eq_of_lt (by omega)]
  set length := UInt16.ofNat p.transportHeader.raw.length + UInt16.ofNat n with hlength
  have smallLength : length.toNat = p.transportHeader.raw.length + n := by
    rw [hlength, ← UInt16.ofNat_add, UInt16.toNat_ofNat', Nat.mod_eq_of_lt fits]
  have header := wf.length_header
  set ipv6Header := putU16 p.ipv6Header 4 length with hheader
  have lengthHeader : ipv6Header.length = 40 := (length_putU16 (by omega) _).trans header
  have place : 4 + (u16Bytes length).length ≤ p.ipv6Header.length := by
    rw [length_u16Bytes]
    omega
  obtain ⟨t₁, eq₁, wf₁, lengthTransport, data₁, udp₁⟩ := setPayloadLength wf.transport fits
  have kept (k : ℕ) (apart : k < 4 ∨ 6 ≤ k) : getByte ipv6Header k = getByte p.ipv6Header k :=
    getByte_splice_of_disjoint place (by rw [length_u16Bytes]; omega)
  have wfHeaders := wf.rewrite lengthHeader kept wf₁ lengthTransport data₁
  set q : Ipv6Packetizer := { p with ipv6Header, transportHeader := t₁ } with hq
  have payload : q.payload = p.payload := rfl
  obtain ⟨raw, eq₂, wf', lengthRaw, before, sum⟩ := wfHeaders.updateChecksum (payload ▸ enough)
  change raw.length = t₁.raw.length at lengthRaw
  set p' := q.withTransport raw with hp'
  have rawTransport : p'.transportHeader.raw = raw := TransportHeader.raw_bind _ _
  have field : (getU16 p'.ipv6Header 4).toNat = p'.transportHeader.raw.length + n := by
    rw [rawTransport, lengthRaw, lengthTransport, ← smallLength]
    exact congrArg UInt16.toNat (getU16_putU16 (by omega) _)
  have udp (h : UdpHeader) (is : p'.transportHeader = .udp h) :
      (getU16 h.raw 4).toNat = p'.transportHeader.raw.length + n := by
    have kind := wf'.kind
    rw [is] at kind
    have offset : q.checksumOffset = 6 := by
      rw [checksumOffset, show q.protocol = .udp from kind.2]
    have same : h.raw = raw := by rw [← rawTransport, is]; rfl
    rw [same, before 4 (by rw [offset]), rawTransport, lengthRaw, lengthTransport]
    show (getU16 t₁.raw 4).toNat = _
    cases t₁ with
    | tcp header => cases is
    | udp header => exact udp₁ header rfl
  have accepted := wf'.readFrom enough field udp
  have indexed : p'.payloadIndex + n = ipv6HeaderLength + length.toNat := by
    rw [payloadIndex, rawTransport, lengthRaw, lengthTransport, smallLength, Nat.add_assoc]
  have cut : readSlice p'.buffer 0 (ipv6HeaderLength + length.toNat) =
      .ok (p'.buffer.take (p'.payloadIndex + n)) := by
    rw [← indexed]
    refine readSlice_eq (Nat.zero_le _) ?_
    rw [wf'.length, maxPacketLength, ← wf'.payload_index]
    exact Nat.add_le_add_left enough _
  refine ⟨⟨_, .ofRaw (p'.buffer.take (p'.payloadIndex + n)), p'.transportHeader.data⟩, p', ?_, wf',
    rfl, (TransportHeader.data_bind _ _).trans data₁, ?_, field, rfl,
    ⟨_, accepted⟩, ?_⟩
  · rw [Ipv6Packetizer.build, index, small, if_neg (by omega), ← hlength]
    simp only
    rw [writeU16_eq (by omega), ok_bind, eq₁, ok_bind]
    show (q.updateChecksum _ >>= fun p => _) = _
    have total : ipv6HeaderLength + length.toNat = q.payloadIndex + n := by
      rw [smallLength, payloadIndex]
      show _ = ipv6HeaderLength + t₁.raw.length + n
      rw [lengthTransport, Nat.add_assoc]
    rw [total, eq₂, ok_bind, ← total, cut, ok_bind, Ipv6Packet.parse_eq_ok_iff.mpr accepted]
    rfl
  · rw [rawTransport, lengthRaw, lengthTransport]
  · have body := wf'.ipv6Body_take enough field
    have split := take_buffer wf'.length_header n
    have addresses : slice (p'.buffer.take (p'.payloadIndex + n)) 8 40 = slice ipv6Header 8 40 := by
      rw [split, slice, slice, ← lengthHeader]
      show ((ipv6Header ++ _).take ipv6Header.length).drop 8 = _
      rw [List.take_left, List.take_length]
    have fieldRaw : getU16 (p'.buffer.take (p'.payloadIndex + n)) 4 = getU16 p'.ipv6Header 4 := by
      rw [split, getU16_append_left]
      exact lengthHeader.symm ▸ (by decide)
    have next : getByte (p'.buffer.take (p'.payloadIndex + n)) 6 = q.ipv6HeaderData.nextHeader := by
      rw [split, getByte_append_left]
      · exact wf'.nextHeader.symm
      · exact lengthHeader.symm ▸ (by decide)
    have short : raw.length + n < 65536 := by
      rw [lengthRaw, lengthTransport]
      exact fits
    rw [pseudoHeaderSum, Nat.div_eq_of_lt short, Nat.mod_eq_of_lt short, Nat.add_zero] at sum
    rw [addresses, fieldRaw, field, next, body, rawTransport]
    exact sum

end Ipv6Packetizer.WellFormed

/-! ## A whole flow -/

namespace Ipv6Packetizer.WellFormed

variable {p : Ipv6Packetizer}

theorem receive (wf : p.WellFormed) {data : List UInt8} (fits : data.length ≤ p.payload.length) :
    (p.receive data).WellFormed where
  length_header := wf.length_header
  version := wf.version
  transport := wf.transport
  kind := wf.kind
  nextHeader := wf.nextHeader
  length := by
    have length := wf.length
    rw [buffer, List.length_append] at length ⊢
    show _ + (splice p.payload 0 data).length = _
    rw [length_splice (by omega)]
    exact length

/-- **What is built from `data`.**  The packet is valid, the flow keeps its header
data, and a TCP segment has the numbers and the flags of that header. -/
theorem build_received (wf : p.WellFormed) {data : List UInt8}
    (fits : data.length ≤ p.payload.length) :
    ∃ packet p', (p.receive data).build (UInt16.ofNat data.length) = .ok (packet, p') ∧
      p'.WellFormed ∧ p'.transportHeader.data = p.transportHeader.data ∧
      ValidIpv6Packet packet.raw ∧
      ∀ header, p.transportHeader.data = .tcp header → Segment.ofIpv6 packet.raw =
        ⟨header.sequenceNumber, header.acknowledgementNumber, header.flags, data⟩ := by
  have length : (splice p.payload 0 data).length = p.payload.length := length_splice (by omega)
  have enough : data.length ≤ (p.receive data).payload.length := length ▸ fits
  obtain ⟨packet, p', eq, wf', payload, kept, -, field, raw, valid⟩ :=
    (wf.receive fits).build enough
  change p'.payload = splice p.payload 0 data at payload
  change p'.transportHeader.data = p.transportHeader.data at kept
  refine ⟨packet, p', eq, wf', kept, valid, fun header tcp => ?_⟩
  have front : (splice p.payload 0 data).take data.length = data := by
    have whole := slice_splice_self (show 0 + data.length ≤ p.payload.length by omega)
    rwa [Nat.zero_add, slice_zero] at whole
  rw [tcp] at kept
  cases is : p'.transportHeader with
  | tcp header' =>
      rw [is] at kept field
      cases kept
      rw [raw, wf'.segment is (by rw [payload]; exact enough) field, payload, front]
  | udp header' =>
      rw [is] at kept
      cases kept

/-- Reading from a stream that has bytes builds a packet of the first of them. -/
theorem packetizeRead (wf : p.WellFormed) {available : List UInt8} (some : available ≠ []) :
    ∃ packet p', p.packetizeRead (.ok available) = .ok (.ok (.some packet), p') ∧
      p'.WellFormed ∧ p'.transportHeader.data = p.transportHeader.data ∧
      ValidIpv6Packet packet.raw ∧ p.chunk available ≠ [] ∧
      ∀ header, p.transportHeader.data = .tcp header → Segment.ofIpv6 packet.raw =
        ⟨header.sequenceNumber, header.acknowledgementNumber, header.flags, p.chunk available⟩ := by
  have room : 0 < p.payload.length := by
    have all := wf.payload_index
    have bounds := wf.transport.length_bounds
    rw [payloadIndex, ipv6HeaderLength] at all
    omega
  have fits : (p.chunk available).length ≤ p.payload.length := List.length_take_le _ _
  have pos : 0 < (p.chunk available).length := by
    have := List.length_pos_of_ne_nil some
    rw [chunk, List.length_take]
    omega
  obtain ⟨packet, p', eq, wf', kept, valid, segment⟩ := wf.build_received fits
  refine ⟨packet, p', ?_, wf', kept, valid, List.ne_nil_of_length_pos pos, segment⟩
  rw [Ipv6Packetizer.packetizeRead]
  simp only
  rw [if_pos pos, eq]
  rfl

end Ipv6Packetizer.WellFormed

/-- The headers of an accepted packet, and the transport header well-formed. -/
theorem Ipv6Packet.ReadFrom.headers {raw : List UInt8} {packet : Ipv6Packet}
    (read : packet.ReadFrom raw) :
    ∃ transport, packet.ipv6Header = .ok ⟨raw.take 40, .ofRaw raw⟩ ∧
      packet.transportHeader = .ok transport ∧ transport.WellFormed ∧
      transport.data = packet.transportHeaderData ∧
      (match transport with
        | .tcp _ => getByte raw 6 = 6
        | .udp _ => getByte raw 6 = 17) := by
  obtain ⟨version, complete, bytes, header, transport⟩ := read
  have long : packet.raw.length = 40 + (getU16 raw 4).toNat := by
    rw [bytes, List.length_take_of_le complete]
  have lengthBody := length_ipv6Body complete
  have body : packet.raw.drop 40 = ipv6Body raw := by
    rw [bytes]
    rfl
  have ipv6Header : packet.ipv6Header = .ok ⟨raw.take 40, .ofRaw raw⟩ := by
    rw [Ipv6Packet.ipv6Header, ipv6HeaderLength, readSlice_eq (Nat.zero_le _) (by omega), slice_zero,
      bytes, List.take_take, min_eq_left (by omega), header]
    rfl
  have cut {n : ℕ} (inside : n ≤ (getU16 raw 4).toNat) :
      readSlice packet.raw 40 (40 + n) = .ok ((ipv6Body raw).take n) := by
    rw [readSlice_eq (by omega) (by omega), slice, List.drop_take, Nat.add_sub_cancel_left, body]
  cases data : packet.transportHeaderData with
  | tcp tcpData =>
      rw [data] at transport
      cases transport with
      | tcp isTcp least fits =>
          refine ⟨.tcp ⟨_, .ofRaw (ipv6Body raw)⟩, ipv6Header, ?_,
            TcpHeader.wellFormed_take least (by omega), rfl, isTcp⟩
          rw [Ipv6Packet.transportHeader, data]
          exact congrArg (· >>= _) (cut fits)
  | udp udpData =>
      rw [data] at transport
      cases transport with
      | udp isUdp least _ =>
          refine ⟨.udp ⟨_, .ofRaw (ipv6Body raw)⟩, ipv6Header, ?_,
            UdpHeader.wellFormed_take (by omega), rfl, isUdp⟩
          rw [Ipv6Packet.transportHeader, data]
          exact congrArg (· >>= _) (cut least)

theorem TransportHeader.WellFormed.swapSourceAndDestination {h : TransportHeader}
    (wf : h.WellFormed) :
    ∃ h', h.swapSourceAndDestination = .ok h' ∧ h'.WellFormed ∧
      h'.raw.length = h.raw.length ∧
      h'.data = (match h.data with
        | .tcp data => .tcp { data with
            sourcePort := data.destinationPort, destinationPort := data.sourcePort }
        | .udp data => .udp ⟨data.destinationPort, data.sourcePort⟩) := by
  cases h with
  | tcp header =>
      obtain ⟨h', eq, wf', length, -, data⟩ := TcpHeader.WellFormed.swapSourceAndDestination wf
      refine ⟨.tcp h', ?_, wf', length, congrArg TransportHeaderData.tcp data⟩
      rw [TransportHeader.swapSourceAndDestination, eq]
      rfl
  | udp header =>
      obtain ⟨h', eq, wf', data⟩ := UdpHeader.WellFormed.swapSourceAndDestination wf
      refine ⟨.udp h', ?_, wf', ?_, congrArg TransportHeaderData.udp data⟩
      · rw [TransportHeader.swapSourceAndDestination, eq]
        rfl
      · exact wf'.length_raw.trans (UdpHeader.WellFormed.length_raw wf).symm

/-- **A packetizer is made of every accepted packet**, and has its numbers.  Nothing about the
payload is asked for: that of the reference packet is not kept. -/
theorem Ipv6Packetizer.new_ok {raw : List UInt8} {packet : Ipv6Packet} (read : packet.ReadFrom raw) :
    ∃ ipv6Header transportHeader p, packet.ipv6Header = .ok ipv6Header ∧
      packet.transportHeader = .ok transportHeader ∧
      Ipv6Packetizer.new ipv6Header transportHeader = .ok p ∧ p.WellFormed ∧
      p.transportHeader.data = (match packet.transportHeaderData with
        | .tcp data => .tcp { data with
            sourcePort := data.destinationPort, destinationPort := data.sourcePort }
        | .udp data => .udp ⟨data.destinationPort, data.sourcePort⟩) := by
  obtain ⟨transport, header, behind, wf, data, protocol⟩ := read.headers
  obtain ⟨swapped, eq, wf', length, data'⟩ := wf.swapSourceAndDestination
  have complete := read.complete
  set front := raw.take 40
  have lengthFront : front.length = 40 := List.length_take_of_le (by omega)
  have lengthAddress (i : ℕ) (fits : i + 16 ≤ 40) : (slice raw i (i + 16)).length = 16 := by
    rw [length_slice]
    omega
  set mirrored := splice (splice front 8 (slice raw 24 40)) 24 (slice raw 8 24) with hmirrored
  have inner : 8 + (slice raw 24 40).length ≤ front.length := by
    rw [lengthAddress 24 (by omega), lengthFront]
    omega
  have lengthInner : (splice front 8 (slice raw 24 40)).length = 40 :=
    (length_splice inner).trans lengthFront
  have outer : 24 + (slice raw 8 24).length ≤ (splice front 8 (slice raw 24 40)).length := by
    rw [lengthAddress 8 (by omega), lengthInner]
  have lengthMirrored : mirrored.length = 40 := (length_splice outer).trans lengthInner
  have kept (k : ℕ) (before : k < 8) : getByte mirrored k = getByte raw k := by
    rw [hmirrored, getByte_splice_of_disjoint outer (by omega),
      getByte_splice_of_disjoint inner (by omega), getByte_take (by omega)]
  have parsed : Ipv6HeaderData.parseHeaderOnly mirrored = .ok (.ofRaw mirrored) := by
    rw [Ipv6HeaderData.parseHeaderOnly, lengthMirrored, if_neg (by decide), kept 0 (by omega),
      if_neg (not_not.mpr read.version)]
  have bounds := wf.length_bounds
  refine ⟨_, transport, ⟨mirrored, swapped, List.replicate
    (maxPacketLength - (ipv6HeaderLength + swapped.raw.length)) 0, .ofRaw mirrored,
    if getByte raw 6 = 6 then .tcp else .udp⟩, header, behind, ?_, ?_, ?_⟩
  · have lengths : ¬ (front.length ≠ ipv6HeaderLength ∨
        transport.raw.length ≠ transport.headerLength.toNat) := by
      rw [wf.length_raw, lengthFront]
      simp [ipv6HeaderLength]
    rw [Ipv6Packetizer.new, if_neg lengths, eq, ok_bind]
    simp only
    rw [show splice (splice front 8 (Ipv6HeaderData.ofRaw raw).destination) 24
      (Ipv6HeaderData.ofRaw raw).source = mirrored from rfl, parsed]
    rfl
  · refine ⟨lengthMirrored, ?_, wf', ?_, rfl, ?_⟩
    · rw [kept 0 (by omega)]
      exact read.version
    · simp only
      rw [kept 6 (by omega)]
      cases transport with
      | tcp _ =>
          cases swapped with
          | tcp _ => exact ⟨protocol, if_pos protocol⟩
          | udp _ => cases data'
      | udp _ =>
          cases swapped with
          | tcp _ => cases data'
          | udp _ => exact ⟨protocol, if_neg (by rw [protocol]; decide)⟩
    · rw [buffer, List.length_append, List.length_append, List.length_replicate, lengthMirrored,
        ipv6HeaderLength, maxPacketLength, length]
      omega
  · rw [← data]
    exact data'

end ReverseTether
