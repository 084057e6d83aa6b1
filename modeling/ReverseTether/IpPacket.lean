import ReverseTether.TransportHeader

/-!
# IP packets and how they are validated

A packet is parsed in two moves.  `frontPacketLength` reads how long the packet
at the front of a buffer is, or that it cannot be a packet; `IpPacket.parse`
then validates the packet itself.  The first answers `Ok(None)` as long as the
length field or the packet is incomplete.

The indices of `frontPacketLength` are guarded by the length tests just before
them, so it is a total function here.  `IpPacket.parse` keeps its panics, and
`IpPacket.parse_returns` shows that validation leaves none.

The order of the tests is that of the source, since it decides which error is reported: the
lengths, then fragments, then the transport header.  What is malformed closes the client and
what is unsupported is skipped, so two orders of the same tests can have different effects.

The sections go from the two versions to what they have in common: the validation of a
transport header inside its payload, which the source has twice in the same words, is one
definition here, and both callers use it.
-/

namespace ReverseTether

open Library

/-- `1 << 16`. -/
def maxPacketLength : ℕ := 65536

/-- `IPV6_HEADER_LENGTH`: the fixed header, which the relay takes for the whole header of a packet.
-/
def ipv6HeaderLength : ℕ := 40

/-- `MAX_IP_PACKET_LENGTH`: the fixed header of IPv6 and the longest payload that its length field
can state. -/
def maxIpPacketLength : ℕ := ipv6HeaderLength + 65535

/-- `UnsupportedPacket`: a packet that is well-formed but that the relay does not route; the client
stays open. -/
inductive UnsupportedPacket
  | ipv4Fragment
  | ipv6ExtensionHeader (nextHeader : UInt8)
  | ipv6FragmentHeader
  | ipv6NextHeader (nextHeader : UInt8)
  deriving DecidableEq, Repr

/-- `PacketParseError`: the stream is broken at a malformed packet, and goes on behind an
unsupported one. -/
inductive PacketParseError
  | malformed (reason : String)
  | unsupported (reason : UnsupportedPacket)
  deriving DecidableEq, Repr

/-- What a parser of the source returns, when it returns. -/
abbrev ParseResult (α : Type) := Except PacketParseError α

/-! ## IPv4 -/

/-- `Ipv4Packet`: the bytes of the packet, and the headers that were read from them. -/
structure Ipv4Packet where
  raw : List UInt8
  ipv4HeaderData : Ipv4HeaderData
  transportHeaderData : Option TransportHeaderData
  deriving DecidableEq, Repr

namespace Ipv4Packet

/-- `Ipv4Packet::parse`: the transport header is read from all that follows the IPv4 header, and
the bytes behind the total length are cut off afterwards. -/
def parse (raw : List UInt8) : Outcome Ipv4Packet := do
  let ipv4HeaderData ← Ipv4HeaderData.parse raw
  let payload ← readSlice raw ipv4HeaderData.headerLength.toNat raw.length
  let transportHeaderData ← TransportHeaderData.parse ipv4HeaderData.protocol payload
  let raw ← readSlice raw 0 ipv4HeaderData.totalLength.toNat
  return { raw, ipv4HeaderData, transportHeaderData }

/-- The IPv4 header and the transport header, if any. -/
def headers (p : Ipv4Packet) : Outcome (Ipv4Header × Option TransportHeader) := do
  let transportIndex := p.ipv4HeaderData.headerLength.toNat
  let ipv4Slice ← readSlice p.raw 0 transportIndex
  match p.transportHeaderData with
  | some data =>
      let transportSlice ←
        readSlice p.raw transportIndex (transportIndex + data.headerLength.toNat)
      return (⟨ipv4Slice, p.ipv4HeaderData⟩, some (data.bind transportSlice))
  | none => return (⟨ipv4Slice, p.ipv4HeaderData⟩, none)

/-- `transport_header`: a view of the bytes behind the IPv4 header, as long as the header data
says. -/
def transportHeader (p : Ipv4Packet) : Outcome (Option TransportHeader) :=
  match p.transportHeaderData with
  | some data => do
      let start := p.ipv4HeaderData.headerLength.toNat
      let slice ← readSlice p.raw start (start + data.headerLength.toNat)
      return some (data.bind slice)
  | none => .ok none

/-- `is_valid`: the relay knows the transport protocol of the packet. -/
def isValid (p : Ipv4Packet) : Bool := p.transportHeaderData.isSome

/-- `length`: the total length of the header, as it was read when the packet was parsed. -/
def length (p : Ipv4Packet) : UInt16 := p.ipv4HeaderData.totalLength

/-- `payload`: everything behind the transport header, up to the end of the packet. -/
def payload (p : Ipv4Packet) : Outcome (Option (List UInt8)) :=
  match p.transportHeaderData with
  | some data => do
      let start := p.ipv4HeaderData.headerLength.toNat + data.headerLength.toNat
      return some (← readSlice p.raw start p.raw.length)
  | none => .ok none

end Ipv4Packet

/-! ## IPv6 -/

/-- `Ipv6HeaderData`: the fields of the fixed header that the relay uses. -/
structure Ipv6HeaderData where
  payloadLength : UInt16
  nextHeader : UInt8
  source : List UInt8
  destination : List UInt8
  deriving DecidableEq, Repr

/-- `Ipv6HeaderError`: why the fixed header, or the payload that it announces, cannot be read. -/
inductive Ipv6HeaderError
  | truncatedHeader
  | invalidVersion
  | truncatedPayload
  deriving DecidableEq, Repr

/-- `PacketParseError::from`. -/
def Ipv6HeaderError.toParseError : Ipv6HeaderError → PacketParseError
  | .truncatedHeader | .truncatedPayload => .malformed "truncated IPv6 packet"
  | .invalidVersion => .malformed "invalid IPv6 version"

namespace Ipv6HeaderData

/-- The fields at their places in `raw`. -/
def ofRaw (raw : List UInt8) : Ipv6HeaderData where
  payloadLength := getU16 raw 4
  nextHeader := getByte raw 6
  source := slice raw 8 24
  destination := slice raw 24 40

/-- The 40 bytes of the fixed header are there, so every index is inside. -/
def parse (raw : List UInt8) : Except Ipv6HeaderError Ipv6HeaderData :=
  if raw.length < ipv6HeaderLength then .error .truncatedHeader
  else if getByte raw 0 >>> 4 ≠ 6 then .error .invalidVersion
  else if raw.length < ipv6HeaderLength + (getU16 raw 4).toNat then .error .truncatedPayload
  else .ok (ofRaw raw)

/-- Parse the 40-byte fixed header without requiring the payload to be
present. -/
def parseHeaderOnly (raw : List UInt8) : Except Ipv6HeaderError Ipv6HeaderData :=
  if raw.length < ipv6HeaderLength then .error .truncatedHeader
  else if getByte raw 0 >>> 4 ≠ 6 then .error .invalidVersion
  else .ok (ofRaw raw)

/-- The length of the whole packet: the field of the header counts the payload alone. -/
def totalLength (d : Ipv6HeaderData) : ℕ := ipv6HeaderLength + d.payloadLength.toNat

end Ipv6HeaderData

/-- `Ipv6Packet`: the bytes of the packet and the headers read from them; a transport header is
always there. -/
structure Ipv6Packet where
  raw : List UInt8
  ipv6HeaderData : Ipv6HeaderData
  transportHeaderData : TransportHeaderData
  deriving DecidableEq, Repr

/-! ## The transport part, checked alike in both versions -/

/-- The payload holds a TCP header of the length it announces. -/
def validateTcp (payload : List UInt8) (payloadLength : ℕ) : Outcome (ParseResult Unit) :=
  if payloadLength < 20 then .ok (.error (.malformed "truncated TCP header"))
  else do
    let tcpHeaderLength := ((← readByte payload 12) >>> 4).toNat * 4
    if tcpHeaderLength < 20 ∨ payloadLength < tcpHeaderLength then
      return .error (.malformed "invalid TCP header length")
    else return .ok ()

/-- The payload is a UDP datagram of the length it announces. -/
def validateUdp (payload : List UInt8) (payloadLength : ℕ) : Outcome (ParseResult Unit) :=
  if payloadLength < 8 then .ok (.error (.malformed "truncated UDP header"))
  else do
    let udpLength := (← readU16 payload 4).toNat
    if udpLength ≠ payloadLength then return .error (.malformed "invalid UDP length")
    else return .ok ()

/-- A fragment of an IPv4 packet.  More fragments are to come, or its offset is not zero; neither
the app nor the relay puts fragments together. -/
def IsFragment (raw : List UInt8) : Prop :=
  getByte raw 6 &&& 0x20 ≠ 0 ∨ getByte raw 6 &&& 0x1f ≠ 0 ∨ getByte raw 7 ≠ 0

/-- `validate_ipv4`: the lengths of the header, then fragments, then what the transport protocol
asks of its own header. -/
def validateIpv4 (raw : List UInt8) : Outcome (ParseResult Unit) :=
  if raw.length < 4 then .ok (.error (.malformed "truncated IPv4 packet"))
  else
    let headerLength := (getByte raw 0 &&& 15).toNat * 4
    let totalLength := (getU16 raw 2).toNat
    if raw.length < totalLength ∨ headerLength < 20 ∨ totalLength < headerLength then
      .ok (.error (.malformed "invalid IPv4 packet length"))
    else do
      let flagsAndOffset ← readByte raw 6
      let offsetLow ← readByte raw 7
      let moreFragments := flagsAndOffset &&& 0x20 ≠ 0
      let fragmentOffset := flagsAndOffset &&& 0x1f ≠ 0 ∨ offsetLow ≠ 0
      if moreFragments ∨ fragmentOffset then return .error (.unsupported .ipv4Fragment)
      else
        let payloadLength := totalLength - headerLength
        let payload ← readSlice raw headerLength totalLength
        let protocol ← readByte raw 9
        if protocol = 6 then validateTcp payload payloadLength
        else if protocol = 17 then validateUdp payload payloadLength
        else return .ok ()

namespace Ipv6Packet

/-- The protocol behind the fixed header, if the relay takes it. -/
def protocolOf (nextHeader : UInt8) : ParseResult Protocol :=
  if nextHeader = 6 then .ok .tcp
  else if nextHeader = 17 then .ok .udp
  else if nextHeader = 44 then .error (.unsupported .ipv6FragmentHeader)
  else if nextHeader ∈ [0, 43, 50, 51, 60, 135] then
    .error (.unsupported (.ipv6ExtensionHeader nextHeader))
  else .error (.unsupported (.ipv6NextHeader nextHeader))

/-- `Ipv6Packet::parse`: the fixed header, the protocol behind it, and the transport header, which
has to fit into the payload. -/
def parse (raw : List UInt8) : Outcome (ParseResult Ipv6Packet) :=
  match Ipv6HeaderData.parse raw with
  | .error err => .ok (.error err.toParseError)
  | .ok ipv6HeaderData =>
      match protocolOf ipv6HeaderData.nextHeader with
      | .error err => .ok (.error err)
      | .ok protocol => do
          let payloadLength := ipv6HeaderData.payloadLength.toNat
          let payload ← readSlice raw ipv6HeaderLength ipv6HeaderData.totalLength
          let validated ←
            match protocol with
            | .tcp => validateTcp payload payloadLength
            | .udp => validateUdp payload payloadLength
            | .other => pure (.ok ())
          match validated with
          | .error err => return .error err
          | .ok () =>
              match ← TransportHeaderData.parse protocol payload with
              | none => return .error (.malformed "unsupported transport header")
              | some transportHeaderData =>
                  let raw ← readSlice raw 0 ipv6HeaderData.totalLength
                  return .ok { raw, ipv6HeaderData, transportHeaderData }

/-- `transport_header`: a view of the bytes behind the fixed header, as long as the header data
says. -/
def transportHeader (p : Ipv6Packet) : Outcome TransportHeader := do
  let stop := ipv6HeaderLength + p.transportHeaderData.headerLength.toNat
  return p.transportHeaderData.bind (← readSlice p.raw ipv6HeaderLength stop)

/-- `payload`: everything behind the transport header, up to the end of the packet. -/
def payload (p : Ipv6Packet) : Outcome (Option (List UInt8)) := do
  let start := ipv6HeaderLength + p.transportHeaderData.headerLength.toNat
  return some (← readSlice p.raw start p.raw.length)

end Ipv6Packet

/-! ## Either version -/

/-- `IpPacket`: a packet of either version, with what was read from its headers. -/
inductive IpPacket
  | ipv4 (packet : Ipv4Packet)
  | ipv6 (packet : Ipv6Packet)
  deriving DecidableEq, Repr

namespace IpPacket

/-- `IpPacket::parse`: the version is in the first four bits, and any other than 4 and 6 is
malformed. -/
def parse (raw : List UInt8) : Outcome (ParseResult IpPacket) :=
  match raw with
  | [] => .ok (.error (.malformed "truncated IP packet"))
  | first :: _ =>
      if first >>> 4 = 4 then do
        match ← validateIpv4 raw with
        | .error err => return .error err
        | .ok () => return .ok (.ipv4 (← Ipv4Packet.parse raw))
      else if first >>> 4 = 6 then do
        match ← Ipv6Packet.parse raw with
        | .error err => return .error err
        | .ok packet => return .ok (.ipv6 packet)
      else .ok (.error (.malformed "unsupported IP version"))

/-- `raw`: the bytes of the packet, without what followed it in the buffer. -/
def raw : IpPacket → List UInt8
  | .ipv4 packet => packet.raw
  | .ipv6 packet => packet.raw

end IpPacket

/-! ## Parsing does not panic -/

theorem validateTcp_returns {payload : List UInt8} {n : ℕ} (length : payload.length = n) :
    ∃ r, validateTcp payload n = .ok r ∧ (r = .ok () → 20 ≤ n) := by
  unfold validateTcp
  split
  · exact ⟨_, rfl, nofun⟩
  · simp only [readByte_eq (show 12 < payload.length by omega), ok_bind]
    split
    · exact ⟨_, rfl, nofun⟩
    · exact ⟨_, rfl, fun _ => by omega⟩

theorem validateUdp_returns {payload : List UInt8} {n : ℕ} (length : payload.length = n) :
    ∃ r, validateUdp payload n = .ok r ∧ (r = .ok () → 8 ≤ n) := by
  unfold validateUdp
  split
  · exact ⟨_, rfl, nofun⟩
  · simp only [readU16_eq (show 4 + 2 ≤ payload.length by omega), ok_bind]
    split
    · exact ⟨_, rfl, nofun⟩
    · exact ⟨_, rfl, fun _ => by omega⟩

/-- A valid IPv4 packet has the lengths its headers announce. -/
theorem validateIpv4_returns (raw : List UInt8) :
    ∃ r, validateIpv4 raw = .ok r ∧
      (r = .ok () →
        20 ≤ (getByte raw 0 &&& 15).toNat * 4 ∧
        (getByte raw 0 &&& 15).toNat * 4 ≤ (getU16 raw 2).toNat ∧
        (getU16 raw 2).toNat ≤ raw.length ∧
        (getByte raw 9 = 6 →
          (getByte raw 0 &&& 15).toNat * 4 + 20 ≤ (getU16 raw 2).toNat) ∧
        (getByte raw 9 = 17 →
          (getByte raw 0 &&& 15).toNat * 4 + 8 ≤ (getU16 raw 2).toNat)) := by
  rw [validateIpv4]
  split
  · exact ⟨_, rfl, nofun⟩
  · simp only
    set headerLength := (getByte raw 0 &&& 15).toNat * 4
    set totalLength := (getU16 raw 2).toNat
    split
    · exact ⟨_, rfl, nofun⟩
    · rw [readByte_eq (by omega), readByte_eq (by omega), ok_bind, ok_bind]
      split
      · exact ⟨_, rfl, nofun⟩
      · rw [readSlice_eq (by omega) (by omega), readByte_eq (by omega), ok_bind, ok_bind]
        have length : (slice raw headerLength totalLength).length = totalLength - headerLength := by
          rw [length_slice]
          omega
        split
        · rename_i tcp
          obtain ⟨r, eq, valid⟩ := validateTcp_returns length
          refine ⟨r, eq, fun ok => ⟨by omega, by omega, by omega, fun _ => ?_, fun udp => ?_⟩⟩
          · have := valid ok
            omega
          · rw [tcp] at udp
            cases udp
        · split
          · obtain ⟨r, eq, valid⟩ := validateUdp_returns length
            refine ⟨r, eq, fun ok => ⟨by omega, by omega, by omega, fun tcp => absurd tcp ‹_›,
              fun _ => ?_⟩⟩
            have := valid ok
            omega
          · exact ⟨_, rfl, fun _ => ⟨by omega, by omega, by omega, fun tcp => absurd tcp ‹_›,
              fun udp => absurd udp ‹_›⟩⟩

theorem TransportHeaderData.parse_returns {protocol : Protocol} {raw : List UInt8}
    (tcp : protocol = .tcp → 20 ≤ raw.length) (udp : protocol = .udp → 8 ≤ raw.length) :
    ∃ d, TransportHeaderData.parse protocol raw = .ok d ∧ (protocol ≠ .other → d.isSome) := by
  cases protocol with
  | tcp =>
      have long := tcp rfl
      refine ⟨some (.tcp (.ofRaw raw)), ?_, fun _ => rfl⟩
      rw [TransportHeaderData.parse, TcpHeaderData.parse_eq (by omega)]
      rfl
  | udp =>
      have long := udp rfl
      refine ⟨some (.udp (.ofRaw raw)), ?_, fun _ => rfl⟩
      rw [TransportHeaderData.parse, UdpHeaderData.parse_eq (by omega)]
      rfl
  | other => exact ⟨none, rfl, fun other => absurd rfl other⟩

theorem Protocol.eq_tcp_of_ofByte {b : UInt8} (h : Protocol.ofByte b = .tcp) : b = 6 := by
  unfold Protocol.ofByte at h
  split at h
  · assumption
  · split at h <;> cases h

theorem Protocol.eq_udp_of_ofByte {b : UInt8} (h : Protocol.ofByte b = .udp) : b = 17 := by
  unfold Protocol.ofByte at h
  split at h
  · cases h
  · split at h
    · assumption
    · cases h

/-- A valid IPv4 packet parses. -/
theorem Ipv4Packet.parse_returns {raw : List UInt8} (valid : validateIpv4 raw = .ok (.ok ())) :
    ∃ d, Ipv4Packet.parse raw =
      .ok ⟨slice raw 0 (getU16 raw 2).toNat, .ofRaw raw, d⟩ := by
  obtain ⟨r, eq, lengths⟩ := validateIpv4_returns raw
  rw [eq, Except.ok.injEq] at valid
  obtain ⟨long, order, total, tcp, udp⟩ := lengths valid
  have headerLength := Ipv4HeaderData.toNat_headerLength raw
  have totalLength : (Ipv4HeaderData.ofRaw raw).totalLength = getU16 raw 2 := rfl
  have payload : (slice raw (Ipv4HeaderData.ofRaw raw).headerLength.toNat raw.length).length =
      raw.length - (getByte raw 0 &&& 15).toNat * 4 := by
    rw [length_slice, headerLength, min_self]
  obtain ⟨d, parsed, -⟩ := @TransportHeaderData.parse_returns
    (Ipv4HeaderData.ofRaw raw).protocol
    (slice raw (Ipv4HeaderData.ofRaw raw).headerLength.toNat raw.length)
    (fun h => by
      have := tcp (Protocol.eq_tcp_of_ofByte h)
      rw [payload]
      omega)
    (fun h => by
      have := udp (Protocol.eq_udp_of_ofByte h)
      rw [payload]
      omega)
  refine ⟨d, ?_⟩
  rw [Ipv4Packet.parse, Ipv4HeaderData.parse_eq (by omega), ok_bind,
    readSlice_eq (by omega) le_rfl, ok_bind, parsed, ok_bind, totalLength,
    readSlice_eq (Nat.zero_le _) total]
  rfl

/-! ### The headers of a parsed packet -/

/-- What a parsed IPv4 packet is made of. -/
theorem Ipv4Packet.of_parse {raw : List UInt8} {packet : Ipv4Packet}
    (parsed : IpPacket.parse raw = .ok (.ok (.ipv4 packet))) :
    getByte raw 0 >>> 4 = 4 ∧ 20 ≤ (Ipv4HeaderData.ofRaw raw).headerLength.toNat ∧
      (Ipv4HeaderData.ofRaw raw).headerLength.toNat ≤ (getU16 raw 2).toNat ∧
      (getU16 raw 2).toNat ≤ raw.length ∧ ∃ data,
        packet = ⟨raw.take (getU16 raw 2).toNat, .ofRaw raw, data⟩ ∧
        TransportHeaderData.parse (Ipv4HeaderData.ofRaw raw).protocol
          (raw.drop (Ipv4HeaderData.ofRaw raw).headerLength.toNat) = .ok data := by
  obtain ⟨version, valid, parsed⟩ : getByte raw 0 >>> 4 = 4 ∧ validateIpv4 raw = .ok (.ok ()) ∧
      Ipv4Packet.parse raw = .ok packet := by
    unfold IpPacket.parse at parsed
    split at parsed
    · cases parsed
    · split at parsed
      · obtain ⟨result, valid, rest⟩ := bind_eq_ok.mp parsed
        cases result with
        | error err => cases rest
        | ok _ =>
            obtain ⟨packet', eq, rest⟩ := bind_eq_ok.mp rest
            cases rest
            exact ⟨‹_›, valid, eq⟩
      · split at parsed
        · obtain ⟨result, -, rest⟩ := bind_eq_ok.mp parsed
          cases result <;> cases rest
        · cases parsed
  obtain ⟨r, eq, lengths⟩ := validateIpv4_returns raw
  rw [eq, Except.ok.injEq] at valid
  obtain ⟨long, order, total, -, -⟩ := lengths valid
  have headerLength := Ipv4HeaderData.toNat_headerLength raw
  rw [Ipv4Packet.parse, Ipv4HeaderData.parse_eq (by omega), ok_bind] at parsed
  obtain ⟨behind, payload, parsed⟩ := bind_eq_ok.mp parsed
  obtain ⟨data, transportData, parsed⟩ := bind_eq_ok.mp parsed
  obtain ⟨front, cut, parsed⟩ := bind_eq_ok.mp parsed
  cases parsed
  obtain ⟨-, -, rfl⟩ := readSlice_eq_ok payload
  obtain ⟨-, -, rfl⟩ := readSlice_eq_ok cut
  refine ⟨version, by omega, by omega, total, data, rfl, ?_⟩
  rwa [slice_full le_rfl] at transportData

/-- A transport header of a packet with this protocol, with the data of its bytes. -/
def TransportHeader.ReadFor (protocol : Protocol) : TransportHeader → Prop
  | .tcp header => protocol = .tcp ∧ header.raw.length = header.data.headerLength.toNat ∧
      (16 ≤ header.raw.length → header.data = .ofRaw header.raw)
  | .udp header => protocol = .udp ∧ header.WellFormed

/-- The data of a transport header, with the bytes they were read from. -/
theorem TransportHeaderData.of_parse {protocol : Protocol} {raw : List UInt8}
    {data : TransportHeaderData} (parsed : TransportHeaderData.parse protocol raw = .ok (some data))
    (enough : data.headerLength.toNat ≤ raw.length) :
    (data.bind (raw.take data.headerLength.toNat)).ReadFor protocol := by
  have length : (raw.take data.headerLength.toNat).length = data.headerLength.toNat :=
    List.length_take_of_le enough
  unfold TransportHeaderData.parse at parsed
  cases protocol with
  | tcp =>
      obtain ⟨header, fields, rest⟩ := bind_eq_ok.mp parsed
      cases rest
      refine ⟨rfl, length, fun long => ?_⟩
      change 16 ≤ (raw.take header.headerLength.toNat).length at long
      have mirrors : TcpHeaderData.ofRaw raw = header := by
        rw [TcpHeaderData.parse_eq (long.trans (List.length_take_le' _ _))] at fields
        exact Except.ok.inj fields
      show header = TcpHeaderData.ofRaw (raw.take header.headerLength.toNat)
      rw [← TcpHeaderData.ofRaw_append long (raw.drop header.headerLength.toNat),
        List.take_append_drop, mirrors]
  | udp =>
      obtain ⟨header, fields, rest⟩ := bind_eq_ok.mp parsed
      cases rest
      refine ⟨rfl, length, ?_⟩
      change (raw.take 8).length = 8 at length
      have mirrors : UdpHeaderData.ofRaw raw = header := by
        rw [UdpHeaderData.parse_eq (by rw [List.length_take] at length; omega)] at fields
        exact Except.ok.inj fields
      show header = UdpHeaderData.ofRaw (raw.take 8)
      rw [← UdpHeaderData.ofRaw_append (by omega) (raw.drop 8), List.take_append_drop, mirrors]
  | other => cases parsed

/-- What `headers` gives for a parsed packet: an IPv4 header with the data of its
bytes, and the transport header it announces. -/
theorem Ipv4Packet.headers_of_parse {raw : List UInt8} {packet : Ipv4Packet} {ipv4 : Ipv4Header}
    {transport : TransportHeader} (parsed : IpPacket.parse raw = .ok (.ok (.ipv4 packet)))
    (headers : packet.headers = .ok (ipv4, some transport)) :
    ipv4.WellFormed ∧ getByte ipv4.raw 0 >>> 4 = 4 ∧ transport.ReadFor ipv4.data.protocol := by
  obtain ⟨version, long, order, total, data, rfl, transportData⟩ := Ipv4Packet.of_parse parsed
  obtain ⟨ipv4Slice, sliced, headers⟩ := bind_eq_ok.mp headers
  obtain ⟨-, -, rfl⟩ := readSlice_eq_ok sliced
  set start := (Ipv4HeaderData.ofRaw raw).headerLength.toNat with hstart
  have ipv4Raw : slice (raw.take (getU16 raw 2).toNat) 0 start = raw.take start := by
    rw [slice_zero, List.take_take, min_eq_left order]
  have ipv4Length : (raw.take start).length = start := List.length_take_of_le (by omega)
  have mirrors : Ipv4HeaderData.ofRaw raw = .ofRaw (raw.take start) := by
    conv_lhs => rw [← List.take_append_drop start raw]
    exact Ipv4HeaderData.ofRaw_append (by omega) _
  cases data with
  | none => cases headers
  | some data =>
      obtain ⟨transportSlice, sliced, headers⟩ := bind_eq_ok.mp headers
      cases headers
      obtain ⟨-, inside, rfl⟩ := readSlice_eq_ok sliced
      change start + data.headerLength.toNat ≤ (raw.take (getU16 raw 2).toNat).length at inside
      rw [List.length_take] at inside
      refine ⟨⟨?_, ?_, ?_⟩, ?_, ?_⟩
      · show 20 ≤ (slice (raw.take (getU16 raw 2).toNat) 0 start).length
        rw [ipv4Raw, ipv4Length]
        exact long
      · show (slice (raw.take (getU16 raw 2).toNat) 0 start).length = start
        rw [ipv4Raw, ipv4Length]
      · show _ = Ipv4HeaderData.ofRaw (slice (raw.take (getU16 raw 2).toNat) 0 start)
        rw [ipv4Raw]
        exact mirrors
      · show getByte (slice (raw.take (getU16 raw 2).toNat) 0 start) 0 >>> 4 = 4
        rw [ipv4Raw, getByte_take (by omega), version]
      · have within : slice (raw.take (getU16 raw 2).toNat) start
            (start + data.headerLength.toNat) =
            (raw.drop start).take data.headerLength.toNat := by
          rw [slice, List.take_take, min_eq_left (by omega), List.drop_take, Nat.add_sub_cancel_left]
        show (data.bind (slice (raw.take (getU16 raw 2).toNat) start
          (start + data.headerLength.toNat))).ReadFor (Ipv4HeaderData.ofRaw raw).protocol
        rw [within]
        exact TransportHeaderData.of_parse transportData (by rw [List.length_drop]; omega)

theorem Ipv6Packet.parse_returns (raw : List UInt8) : ∃ r, Ipv6Packet.parse raw = .ok r := by
  unfold Ipv6Packet.parse
  split
  · exact ⟨_, rfl⟩
  · rename_i d header
    have data : d = .ofRaw raw ∧ d.totalLength ≤ raw.length := by
      unfold Ipv6HeaderData.parse at header
      split at header
      · cases header
      · split at header
        · cases header
        · split at header
          · cases header
          · cases header
            exact ⟨rfl, Nat.le_of_not_lt
              ‹¬ raw.length < ipv6HeaderLength + (getU16 raw 4).toNat›⟩
    have order : ipv6HeaderLength ≤ d.totalLength := by
      rw [Ipv6HeaderData.totalLength]
      omega
    have length : (slice raw ipv6HeaderLength d.totalLength).length = d.payloadLength.toNat := by
      have total : d.totalLength = ipv6HeaderLength + d.payloadLength.toNat := rfl
      rw [length_slice]
      omega
    split
    · exact ⟨_, rfl⟩
    · rename_i protocol known
      rw [readSlice_eq order data.2, ok_bind]
      have parsed (tcp : protocol = .tcp → 20 ≤ d.payloadLength.toNat)
          (udp : protocol = .udp → 8 ≤ d.payloadLength.toNat) :
          ∃ r, (TransportHeaderData.parse protocol (slice raw ipv6HeaderLength d.totalLength) >>=
            fun t => match t with
              | none => (pure (.error (.malformed "unsupported transport header")) :
                  Outcome (ParseResult Ipv6Packet))
              | some transportHeaderData => do
                  let raw ← readSlice raw 0 d.totalLength
                  return .ok { raw, ipv6HeaderData := d, transportHeaderData }) = .ok r := by
        obtain ⟨t, eq, -⟩ := TransportHeaderData.parse_returns (by rwa [length]) (by rwa [length])
        rw [eq, ok_bind]
        cases t with
        | none => exact ⟨_, rfl⟩
        | some t =>
            rw [readSlice_eq (Nat.zero_le _) data.2]
            exact ⟨_, rfl⟩
      cases protocol with
      | tcp =>
          obtain ⟨r, eq, valid⟩ := validateTcp_returns length
          simp only [eq, ok_bind]
          cases r with
          | error err => exact ⟨_, rfl⟩
          | ok _ => exact parsed (fun _ => valid rfl) nofun
      | udp =>
          obtain ⟨r, eq, valid⟩ := validateUdp_returns length
          simp only [eq, ok_bind]
          cases r with
          | error err => exact ⟨_, rfl⟩
          | ok _ => exact parsed nofun (fun _ => valid rfl)
      | other => exact parsed nofun nofun

/-- **Parsing never panics.**  Every byte is read behind a check of the length, in both versions
and for every transport protocol, so that what a client sends can end in an error and not in a
panic. -/
theorem IpPacket.parse_returns (raw : List UInt8) : ∃ r, IpPacket.parse raw = .ok r := by
  unfold IpPacket.parse
  split
  · exact ⟨_, rfl⟩
  · rename_i first rest
    split
    · obtain ⟨r, eq, -⟩ := validateIpv4_returns (first :: rest)
      rw [eq, ok_bind]
      cases r with
      | error err => exact ⟨_, rfl⟩
      | ok _ =>
          obtain ⟨p, parsed⟩ := Ipv4Packet.parse_returns eq
          rw [parsed]
          exact ⟨_, rfl⟩
    · split
      · obtain ⟨r, eq⟩ := Ipv6Packet.parse_returns (first :: rest)
        rw [eq, ok_bind]
        cases r with
        | error err => exact ⟨_, rfl⟩
        | ok p => exact ⟨_, rfl⟩
      · exact ⟨_, rfl⟩

/-- The length of the packet at the front of `raw`, once all of it is there. -/
def frontPacketLength (raw : List UInt8) : ParseResult (Option ℕ) :=
  if raw.isEmpty then .ok none
  else if getByte raw 0 >>> 4 = 4 then
    if raw.length < 4 then .ok none
    else
      let headerLength := (getByte raw 0 &&& 15).toNat * 4
      let totalLength := (getU16 raw 2).toNat
      if headerLength < 20 ∨ totalLength < headerLength then
        .error (.malformed "invalid IPv4 packet length")
      else if raw.length < totalLength then .ok none
      else .ok (some totalLength)
  else if getByte raw 0 >>> 4 = 6 then
    if raw.length < 6 then .ok none
    else
      let totalLength := 40 + (getU16 raw 4).toNat
      if raw.length < totalLength then .ok none
      else .ok (some totalLength)
  else .error (.malformed "unsupported IP version")

end ReverseTether
