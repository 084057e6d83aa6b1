import ReverseTether.AppFraming
import ReverseTether.Library.OnesComplement

/-!
# The refusal of an IPv6 packet

In blackhole mode the app answers an IPv6 packet itself, with an ICMPv6 Destination
Unreachable that quotes the packet, instead of forwarding it.

`buildIcmpv6Unreachable` is the function of the source, line by line: it decides whether the
packet deserves an answer, cuts the quote so that the answer stays within the minimum MTU of
IPv6, and fills in the headers and the checksum.  `assembleUnreachable` is the part between,
in which the fields are written one after the other into a buffer of zeros.

The checksum is added up in 32 bits, where the order of the words does not matter, and is then
folded to 16.  What the answers are like is proved elsewhere; here are only the definitions
that the tunnel needs.
-/

namespace ReverseTether

open Library

/-- The type, the code, the checksum and four bytes that are unused, in front of the quoted packet.
-/
def kIcmpv6HeaderLength : ℕ := 8

/-- RFC 4443 3.1: an ICMPv6 error must not exceed the IPv6 minimum MTU. -/
def kMaxIcmpv6Packet : ℕ := 1280

/-- The protocol number of ICMPv6, which is also part of its pseudo-header. -/
def kNextHeaderIcmpv6 : UInt8 := 58

/-- The words are added in a `uint32_t`, so modulo `2 ^ 32`, in which their order does not
matter. -/
def ipv6Checksum (source destination : List UInt8) (nextHeader : UInt8) (payload : List UInt8) :
    UInt16 :=
  let length := payload.length
  let sum := (wordSum source + wordSum destination + length / 65536 + length % 65536 +
    nextHeader.toNat + wordSum payload) % 4294967296
  UInt16.ofNat (65535 - fold16 sum)

/-- The reply that quotes the first `quote` bytes of `packet`, before its checksum is
written. -/
def assembleUnreachable (packet : List UInt8) (quote : ℕ) : List UInt8 :=
  let icmpLength := kIcmpv6HeaderLength + quote
  let raw := List.replicate (kIpv6HeaderLength + icmpLength) 0
  let raw := raw.set 0 0x60
  let raw := splice raw 4 (u16Bytes (UInt16.ofNat icmpLength))
  let raw := raw.set 6 kNextHeaderIcmpv6
  -- hop limit
  let raw := raw.set 7 64
  -- the answer travels back to the sender
  let raw := splice raw 8 (slice packet 24 40)
  let raw := splice raw 24 (slice packet 8 24)
  -- Destination Unreachable: communication administratively prohibited
  let raw := raw.set kIpv6HeaderLength 1
  let raw := raw.set (kIpv6HeaderLength + 1) 1
  splice raw (kIpv6HeaderLength + kIcmpv6HeaderLength) (packet.take quote)

/-- The reply to `packet`, if it may be answered. -/
def buildIcmpv6Unreachable (packet : List UInt8) : Option (List UInt8) :=
  if packet.length < kIpv6HeaderLength ∨ getByte packet 0 >>> 4 ≠ 6 then none
  -- never answer an existing ICMPv6 error report (type < 128)
  else if getByte packet 6 = kNextHeaderIcmpv6 ∧ kIpv6HeaderLength < packet.length ∧
      getByte packet kIpv6HeaderLength < 128 then none
  -- never answer traffic addressed to a multicast group
  else if getByte packet 24 = 0xff then none
  else
    let quote := min packet.length (kMaxIcmpv6Packet - kIpv6HeaderLength - kIcmpv6HeaderLength)
    let raw := assembleUnreachable packet quote
    let checksum := ipv6Checksum (slice raw 8 24) (slice raw 24 40) kNextHeaderIcmpv6
      (raw.drop kIpv6HeaderLength)
    some (splice raw (kIpv6HeaderLength + 2) (u16Bytes checksum))

theorem length_assembleUnreachable {packet : List UInt8} {quote : ℕ} (long : 40 ≤ packet.length)
    (inside : quote ≤ packet.length) : (assembleUnreachable packet quote).length = 48 + quote := by
  have addresses (i : ℕ) (fits : i + 16 ≤ 40) : (slice packet i (i + 16)).length = 16 := by
    rw [length_slice]
    omega
  have quoted : (packet.take quote).length = quote := List.length_take_of_le inside
  have total : kIpv6HeaderLength + (kIcmpv6HeaderLength + quote) = 48 + quote := by
    rw [kIpv6HeaderLength, kIcmpv6HeaderLength]
    omega
  have room : kIpv6HeaderLength + kIcmpv6HeaderLength + quote = 48 + quote := by
    rw [kIpv6HeaderLength, kIcmpv6HeaderLength]
  have written (raw : List UInt8) (i : ℕ) (xs : List UInt8) (length : raw.length = 48 + quote)
      (fits : i + xs.length ≤ 48 + quote) : (splice raw i xs).length = 48 + quote := by
    rw [length_splice (by omega), length]
  refine written _ _ _ ?_ (by rw [quoted, room])
  rw [List.length_set, List.length_set]
  refine written _ _ _ ?_ (by rw [addresses 8 (by omega)]; omega)
  refine written _ _ _ ?_ (by rw [addresses 24 (by omega)]; omega)
  rw [List.length_set, List.length_set]
  refine written _ _ _ ?_ (by rw [length_u16Bytes]; omega)
  rw [List.length_set, List.length_replicate, total]

/-- A reply quotes as much of the packet as fits into the minimum MTU. -/
theorem length_buildIcmpv6Unreachable {packet reply : List UInt8}
    (built : buildIcmpv6Unreachable packet = some reply) :
    reply.length = 48 + min packet.length 1232 := by
  unfold buildIcmpv6Unreachable at built
  split at built
  · cases built
  · rename_i long
    rw [not_or, kIpv6HeaderLength] at long
    split at built
    · cases built
    · split at built
      · cases built
      · have long : 40 ≤ packet.length := by omega
        have length := length_assembleUnreachable long (min_le_left packet.length 1232)
        have most : kMaxIcmpv6Packet - kIpv6HeaderLength - kIcmpv6HeaderLength = 1232 := rfl
        rw [most, Option.some.injEq] at built
        rw [← built, length_splice, length]
        rw [length, length_u16Bytes, kIpv6HeaderLength]
        omega

end ReverseTether
