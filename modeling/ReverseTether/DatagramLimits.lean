import ReverseTether.Ipv6RoundTrip

/-!
# The largest datagrams a host sends

A UDP socket of the host delivers up to 65507 bytes over IPv4 and up to 65527 over
IPv6, and `recv` cuts a datagram off at the slice it is given, the rest of the buffer
of 65536 bytes behind the headers.  Neither packetizer looks at whether it did.

Over IPv4 a datagram that fills the slice makes the total length 65536, which does not
fit a `u16`; with a header of 20 bytes no datagram is that long, with options some are.
Over IPv6 the headers and the datagram fit their fields, and the packet carries the
front of the datagram.  `packetize_whole_iff` says exactly which datagrams are
delivered whole.

The limits are those of the protocols, and the answer of the socket is whatever `recv` may
give for a slice of that length.  An IPv4 header with options is the unusual case: the client
chooses it, in the first packet of the flow, and every reply carries it as well.
-/

namespace ReverseTether

open Library

/-- `packetize` returns an error, or a packet that carries exactly the datagram.  An error is no
packet, and so nothing is cut off. -/
def Packetizer.Whole (p : Packetizer) (datagram : List UInt8) : Prop :=
  ∃ result p', p.packetize (.ok datagram) = .ok (result, p') ∧
    ∀ packet, result = .ok packet → packet.payload = .ok (some datagram)

/-- The same for IPv6.  Here a datagram that is too long is the one that is cut. -/
def Ipv6Packetizer.Whole (p : Ipv6Packetizer) (datagram : List UInt8) : Prop :=
  ∃ result p', p.packetize (.ok datagram) = .ok (result, p') ∧
    ∀ packet, result = .ok packet → packet.payload = .ok (some datagram)

namespace Packetizer.Serves

variable {fresh p : Packetizer}

/-- A datagram that reaches the end of the buffer overflows the total length. -/
theorem packetize_overflow (serves : fresh.Serves p) {datagram : List UInt8}
    (long : 65535 < p.payloadIndex + datagram.length) :
    p.packetize (.ok datagram) = .error .overflow := by
  have room := length_payload serves.wellFormed
  have bounds := serves.wellFormed.transport.length_bounds
  have length : (datagram.take p.payload.length).length = p.payload.length :=
    List.length_take_of_le (by omega)
  have small : (UInt16.ofNat p.payload.length).toNat = p.payload.length := by
    rw [payloadIndex] at room
    rw [UInt16.toNat_ofNat', Nat.mod_eq_of_lt (by omega)]
  have full : 65536 ≤ (p.receive (datagram.take p.payload.length)).payloadIndex +
      p.payload.length := room.ge
  rw [packetize]
  simp only
  rw [length, Packetizer.build, small, if_pos full]
  rfl

/-- **Over IPv4, what fits the total length is delivered whole**, and nothing else.  The buffer is
one byte longer than the largest total length, and a datagram that fills it overflows the addition.
-/
theorem whole_iff {reference : Ipv4Packet} (serves : fresh.Serves p)
    (reverses : fresh.Reverses reference) (datagram : List UInt8) :
    p.Whole datagram ↔ fresh.payloadIndex + datagram.length ≤ 65535 := by
  have room := length_payload serves.wellFormed
  rw [← serves.index]
  constructor
  · rintro ⟨result, p', eq, -⟩
    by_contra long
    rw [serves.packetize_overflow (by omega)] at eq
    cases eq
  · intro fits
    have whole : datagram.take p.payload.length = datagram := List.take_of_length_le (by omega)
    obtain ⟨packet, p', built, answers⟩ := reverses.answers serves (by omega) fits
    refine ⟨.ok packet, p', ?_, ?_⟩
    · rw [packetize]
      simp only
      rw [whole, built]
      rfl
    · rintro _ ⟨⟩
      exact answers.payload

end Packetizer.Serves

namespace Ipv6Packetizer.Serves

variable {fresh p : Ipv6Packetizer}

/-- **Over IPv6, what fits the buffer is delivered whole**, and the rest is cut off.  The payload
length of IPv6 does not count the fixed header, but the buffer that the datagram is read into does.
-/
theorem whole_iff {reference : Ipv6Packet} (serves : fresh.Serves p)
    (reverses : fresh.Reverses reference) (datagram : List UInt8) :
    p.Whole datagram ↔ fresh.payloadIndex + datagram.length ≤ 65536 := by
  have room := serves.wellFormed.payload_index
  have index : p.payloadIndex = fresh.payloadIndex := by
    rw [payloadIndex, payloadIndex, serves.alike.transport.1]
  obtain ⟨packet, p', built, answers⟩ :=
    reverses.answers serves (List.length_take_le p.payload.length datagram)
  have eq : p.packetize (.ok datagram) = .ok (.ok packet, p') := by
    rw [packetize]
    simp only
    rw [built]
    rfl
  rw [← index]
  constructor
  · rintro ⟨result, p'', eq', carries⟩
    rw [eq] at eq'
    cases eq'
    have carried := carries packet rfl
    rw [answers.payload] at carried
    have same : datagram.take p.payload.length = datagram :=
      Option.some.inj (Except.ok.inj carried)
    have length := List.length_take_le p.payload.length datagram
    rw [same] at length
    omega
  · intro fits
    have same : datagram.take p.payload.length = datagram := List.take_of_length_le (by omega)
    refine ⟨.ok packet, p', eq, ?_⟩
    rintro _ ⟨⟩
    rw [answers.payload, same]

end Ipv6Packetizer.Serves

/-- The index of the payload of an IPv4 flow is the header length of its first packet
and 8 bytes. -/
theorem Packetizer.new_reverses_udp {raw : List UInt8} {reference : Ipv4Packet}
    (parsed : IpPacket.parse raw = .ok (.ok (.ipv4 reference)))
    (udp : reference.ipv4HeaderData.protocol = .udp) :
    ∃ ipv4 transport fresh, reference.headers = .ok (ipv4, some transport) ∧
      Packetizer.new ipv4 transport = .ok fresh ∧ fresh.Reverses reference ∧
      fresh.payloadIndex = reference.ipv4HeaderData.headerLength.toNat + 8 := by
  have read := IpPacket.parse_ipv4_iff.mp parsed
  have known : reference.ipv4HeaderData.protocol ≠ .other := by rw [udp]; decide
  obtain ⟨ipv4, transport, fresh, headers, created, index, reverses⟩ :=
    Packetizer.new_reverses read known
  obtain ⟨transport', headers', wf, wfTransport, -⟩ := read.headers known
  rw [headers] at headers'
  cases headers'
  refine ⟨_, transport, fresh, headers, created, reverses, ?_⟩
  obtain ⟨-, swapped⟩ := Packetizer.new_eq_ok created
  obtain ⟨t, eq, -, length, -⟩ := wfTransport.swapSourceAndDestination
  rw [swapped] at eq
  cases eq
  rw [index, ← length, reverses.wellFormed.length_udp (reverses.protocol.trans udp), wf.length_raw,
    read.header]

/-- The index of the payload of an IPv6 flow. -/
theorem Ipv6Packetizer.new_reverses_udp {raw : List UInt8} {reference : Ipv6Packet}
    (parsed : IpPacket.parse raw = .ok (.ok (.ipv6 reference)))
    (udp : reference.ipv6HeaderData.nextHeader = 17) :
    ∃ header transport fresh, reference.ipv6Header = .ok header ∧
      reference.transportHeader = .ok transport ∧
      Ipv6Packetizer.new header transport = .ok fresh ∧ fresh.Reverses reference ∧
      fresh.payloadIndex = 48 := by
  obtain ⟨header, transport, fresh, ipv6, behind, created, -, reverses⟩ :=
    Ipv6Packetizer.new_reverses (IpPacket.parse_ipv6 parsed)
  refine ⟨header, transport, fresh, ipv6, behind, created, reverses, ?_⟩
  obtain ⟨-, eight⟩ := reverses.wellFormed.isUdp (reverses.nextHeader.trans udp)
  rw [Ipv6Packetizer.payloadIndex, eight]
  rfl

/-- **Which datagrams are delivered whole.**  Over IPv4 those that fit a packet with the
header of the reference packet, over IPv6 those that fit the buffer; whatever the
packetizer has built before. -/
theorem packetize_whole_iff (raw datagram : List UInt8) :
    (∀ {reference : Ipv4Packet}, IpPacket.parse raw = .ok (.ok (.ipv4 reference)) →
      reference.ipv4HeaderData.protocol = .udp →
      ∃ ipv4 transport fresh, reference.headers = .ok (ipv4, some transport) ∧
        Packetizer.new ipv4 transport = .ok fresh ∧
        ∀ {t p}, (Packetizer.machine fresh).Run t p → (p.Whole datagram ↔
          reference.ipv4HeaderData.headerLength.toNat + 8 + datagram.length ≤ 65535)) ∧
    ∀ {reference : Ipv6Packet}, IpPacket.parse raw = .ok (.ok (.ipv6 reference)) →
      reference.ipv6HeaderData.nextHeader = 17 →
      ∃ header transport fresh, reference.ipv6Header = .ok header ∧
        reference.transportHeader = .ok transport ∧
        Ipv6Packetizer.new header transport = .ok fresh ∧
        ∀ {t p}, (Ipv6Packetizer.machine fresh).Run t p → (p.Whole datagram ↔
          40 + 8 + datagram.length ≤ 65536) := by
  constructor
  · intro reference parsed udp
    obtain ⟨ipv4, transport, fresh, headers, created, reverses, index⟩ :=
      Packetizer.new_reverses_udp parsed udp
    refine ⟨ipv4, transport, fresh, headers, created, ?_⟩
    intro t p run
    rw [← index]
    exact (Packetizer.run_serves reverses.wellFormed run).whole_iff reverses datagram
  · intro reference parsed udp
    obtain ⟨header, transport, fresh, ipv6, behind, created, reverses, index⟩ :=
      Ipv6Packetizer.new_reverses_udp parsed udp
    refine ⟨header, transport, fresh, ipv6, behind, created, ?_⟩
    intro t p run
    have iff := (Ipv6Packetizer.run_serves reverses.wellFormed run).whole_iff reverses datagram
    rw [index] at iff
    exact iff

/-- A UDP datagram whose IPv4 header has four bytes of options, from 10.0.0.1 port 1234
to 10.0.0.2 port 5678. -/
def optionsReference : List UInt8 :=
  [0x46, 0, 0, 32, 0, 0, 0, 0, 64, 17, 0, 0, 10, 0, 0, 1, 10, 0, 0, 2, 1, 1, 1, 1,
    4, 210, 22, 46, 0, 8, 0, 0]

theorem parse_optionsReference : IpPacket.parse optionsReference =
    .ok (.ok (.ipv4 ⟨optionsReference, .ofRaw optionsReference,
      some (.udp (.ofRaw (optionsReference.drop 24)))⟩)) := by decide

theorem parse_udpReference : IpPacket.parse Ipv6Packetizer.udpReference =
    .ok (.ok (.ipv6 ⟨Ipv6Packetizer.udpReference, .ofRaw Ipv6Packetizer.udpReference,
      .udp (.ofRaw (Ipv6Packetizer.udpReference.drop 40))⟩)) := by decide

/-- One byte fits in either version. -/
theorem packetize_whole_iff_one_byte :
    (∃ fresh : Packetizer, fresh.Whole [7]) ∧ ∃ fresh : Ipv6Packetizer, fresh.Whole [7] := by
  obtain ⟨-, -, fresh, -, -, iff⟩ :=
    (packetize_whole_iff optionsReference [7]).1 parse_optionsReference (by decide)
  obtain ⟨-, -, fresh', -, -, -, iff'⟩ :=
    (packetize_whole_iff Ipv6Packetizer.udpReference [7]).2 parse_udpReference (by decide)
  exact ⟨⟨fresh, (@iff [] fresh (.start rfl)).mpr (by decide)⟩,
    ⟨fresh', (@iff' [] fresh' (.start rfl)).mpr (by decide)⟩⟩

/-- The largest datagrams are not delivered whole: over IPv4 behind a header of 24 bytes,
where the total length overflows, and over IPv6, where their end is cut off. -/
theorem not_packetize_whole :
    (¬ ∀ raw reference ipv4 transport fresh,
      IpPacket.parse raw = .ok (.ok (.ipv4 reference)) →
      reference.ipv4HeaderData.protocol = .udp → reference.headers = .ok (ipv4, some transport) →
      Packetizer.new ipv4 transport = .ok fresh →
      ∀ datagram : List UInt8, datagram.length ≤ 65507 → fresh.Whole datagram) ∧
    ¬ ∀ raw reference header transport fresh,
      IpPacket.parse raw = .ok (.ok (.ipv6 reference)) →
      reference.ipv6HeaderData.nextHeader = 17 → reference.ipv6Header = .ok header →
      reference.transportHeader = .ok transport → Ipv6Packetizer.new header transport = .ok fresh →
      ∀ datagram : List UInt8, datagram.length ≤ 65527 → fresh.Whole datagram := by
  constructor
  · intro claim
    obtain ⟨ipv4, transport, fresh, headers, created, reverses, index⟩ :=
      Packetizer.new_reverses_udp parse_optionsReference (by decide)
    have whole := claim _ _ _ _ _ parse_optionsReference (by decide) headers created
      (List.replicate 65507 0) (by rw [List.length_replicate])
    rw [Packetizer.Serves.whole_iff ⟨reverses.wellFormed, .refl fresh⟩ reverses, index,
      List.length_replicate] at whole
    have header : (Ipv4HeaderData.ofRaw optionsReference).headerLength.toNat = 24 := by decide
    rw [header] at whole
    omega
  · intro claim
    obtain ⟨header, transport, fresh, ipv6, behind, created, reverses, index⟩ :=
      Ipv6Packetizer.new_reverses_udp parse_udpReference (by decide)
    have whole := claim _ _ _ _ _ parse_udpReference (by decide) ipv6 behind created
      (List.replicate 65527 0) (by rw [List.length_replicate])
    rw [Ipv6Packetizer.Serves.whole_iff ⟨reverses.wellFormed, .refl fresh⟩ reverses, index,
      List.length_replicate] at whole
    omega

end ReverseTether
