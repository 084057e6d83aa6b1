import ReverseTether.RoundTrip

/-!
# The parts of a parsed packet

The accessors of a packet cut its bytes by the lengths in its headers and do not check
them.  What `IpPacket.parse` accepts, they can cut: the bytes are the IP header, the
transport header and the payload, each of the length that is declared for it, and a
packetizer can be made of the headers (`IpPacket.parse_parts`).

`split_mut`, `ipv4_header_mut` and `transport_header_mut` cut like their namesakes.

The accessors slice without looking, and a slice outside of the array panics.  So the question
for each of them is whether the numbers it slices by are within the bytes that are there, for
a packet that the parser has let through; the parser, in turn, has tested lengths against one
another and not against what the accessors will do.

`ReadFrom` is what the parser leaves behind, for each of the two versions: the lengths it has
read and the inequalities between them.  The parts are then computed from it once, and every
accessor is one of the parts or two of them together.
-/

namespace ReverseTether

open Library

/-! ## The other accessors -/

/-- `raw.split_at(i)`. -/
def splitAt (raw : List UInt8) (i : ℕ) : Outcome (List UInt8 × List UInt8) :=
  if i ≤ raw.length then .ok (raw.take i, raw.drop i) else .error .outOfBounds

namespace Ipv4Packet

/-- `ipv4_header`: a view of the header with its options, and the data that were read from it. -/
def ipv4Header (p : Ipv4Packet) : Outcome Ipv4Header := do
  return ⟨← readSlice p.raw 0 p.ipv4HeaderData.headerLength.toNat, p.ipv4HeaderData⟩

/-- The IPv4 header, the transport header (if any), and the payload (if there is a
transport at all). -/
def split (p : Ipv4Packet) : Outcome (Ipv4Header × Option (TransportHeader × List UInt8)) :=
  let transportIndex := p.ipv4HeaderData.headerLength.toNat
  match p.transportHeaderData with
  | some data => do
      let (ipv4Slice, transportSlice) ← splitAt p.raw transportIndex
      let (transportHeaderSlice, payloadSlice) ← splitAt transportSlice data.headerLength.toNat
      return (⟨ipv4Slice, p.ipv4HeaderData⟩, some (data.bind transportHeaderSlice, payloadSlice))
  | none => do
      let ipv4Slice ← readSlice p.raw 0 transportIndex
      return (⟨ipv4Slice, p.ipv4HeaderData⟩, none)

end Ipv4Packet

/-! ## What the accessors give -/

/-- The bytes are IP header, transport header and payload, of the lengths that are
declared. -/
structure LaidOut (raw ipHeader : List UInt8) (transport : TransportHeader) (payload : List UInt8) :
    Prop where
  bytes : raw = ipHeader ++ transport.raw ++ payload
  wellFormed : transport.WellFormed
  udpLength : ∀ header, transport = .udp header →
    (getU16 header.raw 4).toNat = header.raw.length + payload.length

/-- The accessors of an IPv4 packet stay in bounds, and give these parts. -/
structure Ipv4Packet.Parts (packet : Ipv4Packet) (ipv4 : Ipv4Header)
    (behind : Option (TransportHeader × List UInt8)) : Prop where
  cutsHeader : packet.ipv4Header = .ok ipv4
  cutsHeaders : packet.headers = .ok (ipv4, behind.map Prod.fst)
  splits : packet.split = .ok (ipv4, behind)
  cutsTransport : packet.transportHeader = .ok (behind.map Prod.fst)
  cutsPayload : packet.payload = .ok (behind.map Prod.snd)
  wellFormed : ipv4.WellFormed
  total : packet.raw.length = ipv4.data.totalLength.toNat
  front : ipv4.raw <+: packet.raw
  absent : behind = none ↔ ipv4.data.protocol = .other
  laidOut : ∀ transport payload, behind = some (transport, payload) →
    LaidOut packet.raw ipv4.raw transport payload ∧ ∃ p, Packetizer.new ipv4 transport = .ok p

/-- The accessors of an IPv6 packet stay in bounds, and give these parts. -/
structure Ipv6Packet.Parts (packet : Ipv6Packet) (ipv6 : Ipv6Header) (transport : TransportHeader)
    (payload : List UInt8) : Prop where
  cutsHeader : packet.ipv6Header = .ok ipv6
  cutsTransport : packet.transportHeader = .ok transport
  cutsPayload : packet.payload = .ok (some payload)
  fixed : ipv6.raw.length = ipv6HeaderLength
  mirrors : ipv6.data = .ofRaw ipv6.raw
  total : packet.raw.length = ipv6.data.totalLength
  laidOut : LaidOut packet.raw ipv6.raw transport payload
  packetizer : ∃ p, Ipv6Packetizer.new ipv6 transport = .ok p

/-- Every accessor of the packet stays in bounds. -/
def IpPacket.HasParts : IpPacket → Prop
  | .ipv4 packet => ∃ ipv4 behind, packet.Parts ipv4 behind
  | .ipv6 packet => ∃ ipv6 transport payload, packet.Parts ipv6 transport payload

/-! ## IPv4 -/

section Ipv4

variable {packet : Ipv4Packet}

/-- The accessors of a packet with a transport header that fits. -/
theorem Ipv4Packet.cut_transport {data : TransportHeaderData} {i : ℕ}
    (index : packet.ipv4HeaderData.headerLength.toNat = i) (known : packet.transportHeaderData = some data)
    (inside : i + data.headerLength.toNat ≤ packet.raw.length) :
    let ipv4 : Ipv4Header := ⟨packet.raw.take i, packet.ipv4HeaderData⟩
    let transport := data.bind ((packet.raw.drop i).take data.headerLength.toNat)
    let payload := (packet.raw.drop i).drop data.headerLength.toNat
    packet.ipv4Header = .ok ipv4 ∧ packet.headers = .ok (ipv4, some transport) ∧
      packet.split = .ok (ipv4, some (transport, payload)) ∧
      packet.transportHeader = .ok (some transport) ∧ packet.payload = .ok (some payload) := by
  intro ipv4 transport payload
  have front : readSlice packet.raw 0 i = .ok (packet.raw.take i) := by
    rw [readSlice_eq (Nat.zero_le _) (by omega), slice_zero]
  have middle : readSlice packet.raw i (i + data.headerLength.toNat) =
      .ok ((packet.raw.drop i).take data.headerLength.toNat) := by
    rw [readSlice_eq (by omega) inside, slice, List.drop_take, Nat.add_sub_cancel_left]
  have fits : data.headerLength.toNat ≤ (packet.raw.drop i).length := by
    rw [List.length_drop]
    omega
  refine ⟨?_, ?_, ?_, ?_, ?_⟩
  · rw [Ipv4Packet.ipv4Header, index, front]
    rfl
  · rw [Ipv4Packet.headers, known, index, front, ok_bind]
    simp only
    rw [middle]
    rfl
  · rw [Ipv4Packet.split, known, index]
    simp only
    rw [splitAt, if_pos (show i ≤ packet.raw.length by omega), ok_bind]
    simp only
    rw [splitAt, if_pos fits]
    rfl
  · rw [Ipv4Packet.transportHeader, known]
    simp only
    rw [index, middle]
    rfl
  · rw [Ipv4Packet.payload, known]
    simp only
    rw [index, readSlice_eq inside le_rfl, slice_full le_rfl, ← List.drop_drop]
    rfl

/-- The accessors of a packet without one. -/
theorem Ipv4Packet.cut_header (known : packet.transportHeaderData = none)
    (inside : packet.ipv4HeaderData.headerLength.toNat ≤ packet.raw.length) :
    let ipv4 : Ipv4Header :=
      ⟨packet.raw.take packet.ipv4HeaderData.headerLength.toNat, packet.ipv4HeaderData⟩
    packet.ipv4Header = .ok ipv4 ∧ packet.headers = .ok (ipv4, none) ∧
      packet.split = .ok (ipv4, none) ∧ packet.transportHeader = .ok none ∧
      packet.payload = .ok none := by
  intro ipv4
  have front : readSlice packet.raw 0 packet.ipv4HeaderData.headerLength.toNat =
      .ok (packet.raw.take packet.ipv4HeaderData.headerLength.toNat) := by
    rw [readSlice_eq (Nat.zero_le _) inside, slice_zero]
  refine ⟨?_, ?_, ?_, ?_, ?_⟩
  · rw [Ipv4Packet.ipv4Header, front]
    rfl
  · rw [Ipv4Packet.headers, known, front]
    rfl
  · rw [Ipv4Packet.split, known]
    simp only
    rw [front]
    rfl
  · rw [Ipv4Packet.transportHeader, known]
  · rw [Ipv4Packet.payload, known]

/-- The header of an accepted packet, and the data are those of its bytes. -/
theorem Ipv4Packet.ReadFrom.wellFormed {raw : List UInt8} (read : packet.ReadFrom raw) :
    Ipv4Header.WellFormed ⟨packet.raw.take (ipv4HeaderLength raw), packet.ipv4HeaderData⟩ := by
  have order := read.order
  have complete := read.complete
  have front : packet.raw.take (ipv4HeaderLength raw) = raw.take (ipv4HeaderLength raw) := by
    rw [read.bytes, List.take_take, min_eq_left order]
  have length : (raw.take (ipv4HeaderLength raw)).length = ipv4HeaderLength raw :=
    List.length_take_of_le (by omega)
  have long := read.long
  rw [front, read.header]
  refine ⟨length.symm ▸ long, length.trans (Ipv4HeaderData.toNat_headerLength raw).symm, ?_⟩
  show Ipv4HeaderData.ofRaw raw = .ofRaw (raw.take (ipv4HeaderLength raw))
  conv_lhs => rw [← List.take_append_drop (ipv4HeaderLength raw) raw]
  exact Ipv4HeaderData.ofRaw_append (by omega) _

/-- **The parts of an accepted IPv4 packet.**  The header, the transport header and the payload lie
one behind the other in `raw`, and each of them has at least the length that its accessor asks for.
-/
theorem Ipv4Packet.ReadFrom.parts {raw : List UInt8} (read : packet.ReadFrom raw) :
    ∃ ipv4 behind, packet.Parts ipv4 behind := by
  have wellFormed := read.wellFormed
  obtain ⟨version, long, order, complete, whole, bytes, header, transport⟩ := read
  have index : packet.ipv4HeaderData.headerLength.toNat = ipv4HeaderLength raw := by
    rw [header, Ipv4HeaderData.toNat_headerLength]
    rfl
  have lengthRaw : packet.raw.length = (getU16 raw 2).toNat := by
    rw [bytes, List.length_take_of_le complete]
  have total : packet.raw.length = packet.ipv4HeaderData.totalLength.toNat := by
    rw [lengthRaw, header]
    rfl
  have protocol : packet.ipv4HeaderData.protocol = .ofByte (getByte raw 9) := by
    rw [header]
    rfl
  have body : packet.raw.drop (ipv4HeaderLength raw) = ipv4Body raw := by
    rw [bytes]
    rfl
  have lengthBody : (ipv4Body raw).length = packet.raw.length - ipv4HeaderLength raw := by
    rw [← body, List.length_drop]
  have present {data : TransportHeaderData} (known : packet.transportHeaderData = some data)
      (fits : data.headerLength.toNat ≤ (ipv4Body raw).length)
      (wf : (data.bind ((ipv4Body raw).take data.headerLength.toNat)).WellFormed)
      (kind : (∃ h, data = .tcp h ∧ packet.ipv4HeaderData.protocol = .tcp) ∨
        ∃ h, data = .udp h ∧ packet.ipv4HeaderData.protocol = .udp)
      (udpLength : ∀ h, data.bind ((ipv4Body raw).take data.headerLength.toNat) = .udp h →
        (getU16 h.raw 4).toNat = (ipv4Body raw).length) :
      ∃ ipv4 behind, packet.Parts ipv4 behind := by
    obtain ⟨header, headers, split, transport, payload⟩ :=
      Ipv4Packet.cut_transport index known (by omega)
    rw [body] at headers split transport payload
    obtain ⟨p, created, -⟩ := Packetizer.new_ok wellFormed wf
      (by rw [getByte_take (by omega), bytes, getByte_take (by omega)]; exact version)
      (by rcases kind with ⟨_, rfl, same⟩ | ⟨_, rfl, same⟩ <;> exact same)
    refine ⟨_, some (_, _), header, headers, split, transport, payload, wellFormed, total,
      List.take_prefix _ _, ⟨by simp, fun other => ?_⟩, ?_⟩
    · rw [show packet.ipv4HeaderData.protocol = .other from other] at kind
      simp at kind
    · rintro _ _ ⟨⟩
      refine ⟨⟨?_, wf, fun h udp => ?_⟩, p, created⟩
      · show packet.raw = packet.raw.take (ipv4HeaderLength raw) ++
          (data.bind ((ipv4Body raw).take data.headerLength.toNat)).raw ++
            (ipv4Body raw).drop data.headerLength.toNat
        rw [TransportHeader.raw_bind, List.append_assoc, List.take_append_drop, ← body,
          List.take_append_drop]
      · change data.bind ((ipv4Body raw).take data.headerLength.toNat) = .udp h at udp
        have same : (ipv4Body raw).take data.headerLength.toNat = h.raw := by
          rw [← TransportHeader.raw_bind data ((ipv4Body raw).take data.headerLength.toNat), udp]
          rfl
        rw [udpLength h udp, ← same, List.length_take_of_le fits, List.length_drop]
        omega
  generalize known : packet.transportHeaderData = data at transport
  cases transport with
  | tcp isTcp least fits =>
      refine present known fits (TcpHeader.wellFormed_take least fits) (.inl ⟨_, rfl, ?_⟩) ?_
      · rw [protocol, isTcp]
        rfl
      · rintro _ ⟨⟩
  | udp isUdp least declared =>
      refine present known least (UdpHeader.wellFormed_take least) (.inr ⟨_, rfl, ?_⟩) ?_
      · rw [protocol, isUdp]
        rfl
      · rintro _ ⟨⟩
        rw [← declared]
        exact congrArg UInt16.toNat (getU16_take (show 4 + 2 ≤ 8 by omega))
  | other notTcp notUdp =>
      obtain ⟨header, headers, split, transport, payload⟩ :=
        Ipv4Packet.cut_header known (by rw [index]; omega)
      rw [index] at header headers split
      refine ⟨_, none, header, headers, split, transport, payload, wellFormed, total,
        List.take_prefix _ _, ⟨fun _ => ?_, fun _ => rfl⟩, by simp⟩
      show packet.ipv4HeaderData.protocol = .other
      rw [protocol, Protocol.ofByte, if_neg notTcp, if_neg notUdp]

end Ipv4

/-! ## IPv6 -/

theorem Ipv6HeaderData.ofRaw_take (raw : List UInt8) : ofRaw (raw.take 40) = ofRaw raw := by
  have address {i : ℕ} (fits : i + 16 ≤ 40) :
      slice (raw.take 40) i (i + 16) = slice raw i (i + 16) := by
    rw [slice, slice, List.take_take, min_eq_left fits]
  rw [ofRaw, ofRaw, getU16_take (by omega), getByte_take (by omega), address (i := 8) (by omega),
    address (i := 24) (by omega)]

/-- **The parts of an accepted IPv6 packet.**  There is no header of variable length in front of
the transport header, so that its offset is `40`. -/
theorem Ipv6Packet.ReadFrom.parts {raw : List UInt8} {packet : Ipv6Packet}
    (read : packet.ReadFrom raw) :
    ∃ ipv6 transport payload, packet.Parts ipv6 transport payload := by
  obtain ⟨transport, cutsHeader, cutsTransport, wf, data, kind⟩ := read.headers
  obtain ⟨_, _, p, header, behind, created, -⟩ := Ipv6Packetizer.new_ok read
  rw [cutsHeader] at header
  rw [cutsTransport] at behind
  cases header
  cases behind
  obtain ⟨version, complete, bytes, header, fields⟩ := read
  have lengthRaw : packet.raw.length = 40 + (getU16 raw 4).toNat := by
    rw [bytes, List.length_take_of_le complete]
  have body : packet.raw.drop 40 = ipv6Body raw := by
    rw [bytes]
    rfl
  have lengthBody := length_ipv6Body complete
  obtain ⟨cut, sliced, bound⟩ := bind_eq_ok.mp cutsTransport
  obtain ⟨-, inside, rfl⟩ := readSlice_eq_ok sliced
  cases bound
  set n := packet.transportHeaderData.headerLength.toNat with hn
  have within : slice packet.raw ipv6HeaderLength (ipv6HeaderLength + n) = (ipv6Body raw).take n := by
    rw [slice, List.drop_take, Nat.add_sub_cancel_left, ipv6HeaderLength, body]
  have cutsPayload : packet.payload = .ok (some ((ipv6Body raw).drop n)) := by
    rw [Ipv6Packet.payload, readSlice_eq inside le_rfl, slice_full le_rfl, ← List.drop_drop,
      ipv6HeaderLength, body]
    rfl
  refine ⟨_, _, _, cutsHeader, cutsTransport, cutsPayload, List.length_take_of_le (by omega),
    (Ipv6HeaderData.ofRaw_take raw).symm, ?_, ⟨?_, wf, fun h udp => ?_⟩, p, created⟩
  · exact lengthRaw
  · show packet.raw = raw.take 40 ++ (packet.transportHeaderData.bind _).raw ++ (ipv6Body raw).drop n
    have front : raw.take 40 = packet.raw.take 40 := by
      rw [bytes, List.take_take, min_eq_left (by omega)]
    rw [TransportHeader.raw_bind, within, List.append_assoc, List.take_append_drop, front, ← body,
      List.take_append_drop]
  · have same : (ipv6Body raw).take n = h.raw := by
      rw [← within, ← TransportHeader.raw_bind packet.transportHeaderData (slice packet.raw _ _), udp]
      rfl
    have fits : n ≤ (ipv6Body raw).length := by
      change 40 + n ≤ packet.raw.length at inside
      omega
    have declared : (getU16 h.raw 4).toNat = (ipv6Body raw).length := by
      generalize known : packet.transportHeaderData = d at fields udp hn
      cases fields with
      | tcp _ _ _ => cases udp
      | udp _ _ declared =>
          have eight : n = 8 := hn
          rw [← same, eight, getU16_take (by omega), declared, lengthBody]
    rw [declared, ← same, List.length_take_of_le fits, List.length_drop]
    omega

/-! ## Either version -/

/-- **No accessor of an accepted packet leaves its bounds.**  Accessors slice without asking, and
would panic if they did; here each of them is shown to return, with where in `raw` its bytes are.
-/
theorem IpPacket.parse_parts (raw : List UInt8) :
    ∃ result, IpPacket.parse raw = .ok result ∧
      ∀ packet, result = .ok packet → packet.raw <+: raw ∧ packet.HasParts := by
  obtain ⟨result, parsed⟩ := IpPacket.parse_returns raw
  refine ⟨result, parsed, ?_⟩
  rintro (packet | packet) rfl
  · have read := IpPacket.parse_ipv4_iff.mp parsed
    refine ⟨?_, read.parts⟩
    show packet.raw <+: raw
    rw [read.bytes]
    exact List.take_prefix _ _
  · have read := IpPacket.parse_ipv6 parsed
    refine ⟨?_, read.parts⟩
    show packet.raw <+: raw
    rw [read.bytes]
    exact List.take_prefix _ _

end ReverseTether
