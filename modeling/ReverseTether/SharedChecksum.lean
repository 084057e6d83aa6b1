import ReverseTether.Icmpv6
import ReverseTether.Ipv6RoundTrip

/-!
# One checksum in two programs

The app and the relay both compute the checksum over the IPv6 pseudo header, and neither can
call the other.  The app takes the words of the two addresses in turns and is given the parts;
the relay reads both addresses from its buffer, one behind the other.

`ipv6ChecksumTerms` lists what the app adds, in its order.  Its sum is that of the relay's
`checksumTerms`, because the addresses have an even length, and both stay far below `2 ^ 32`;
from there on the two programs do the same, but for the zero that UDP does not allow.

Both programs complement the folded sum.  Only the relay replaces a zero by all ones where the
protocol is UDP, the one case in which the two values of zero are told apart; the app sums up
ICMPv6 alone.  The theorem holds for whatever is in the packetizer, addresses and payload
included, as long as the length fits.
-/

namespace ReverseTether

open Library

/-! ## The app -/

/-- What `Ipv6Checksum` adds up, in its order. -/
def ipv6ChecksumTerms (source destination : List UInt8) (nextHeader : UInt8)
    (payload : List UInt8) : List ℕ :=
  (List.range 8).flatMap
      (fun k => [(getU16 source (2 * k)).toNat, (getU16 destination (2 * k)).toNat]) ++
    [payload.length / 65536, payload.length % 65536, nextHeader.toNat] ++ words payload

/-- `Ipv6Checksum` with its additions checked. -/
def ipv6ChecksumU32 (source destination : List UInt8) (nextHeader : UInt8) (payload : List UInt8) :
    Outcome UInt16 := do
  let sum ← sumU32 (ipv6ChecksumTerms source destination nextHeader payload)
  return UInt16.ofNat (65535 - fold16 sum)

/-- The words of a byte string, read by their indices. -/
theorem wordSum_eq_getU16 {xs : List UInt8} (even : xs.length % 2 = 0) :
    wordSum xs = ((List.range (xs.length / 2)).map fun k => (getU16 xs (2 * k)).toNat).sum := by
  induction xs using wordSum.induct with
  | case1 => rfl
  | case2 a => simp at even
  | case3 a b rest ih =>
      have evenRest : rest.length % 2 = 0 := by
        simp only [List.length_cons] at even
        omega
      have half : (a :: b :: rest).length / 2 = rest.length / 2 + 1 := by
        simp only [List.length_cons]
        omega
      have first : (getU16 (a :: b :: rest) (2 * 0)).toNat = a.toNat * 256 + b.toNat := by
        have high := a.toNat_lt
        have low := b.toNat_lt
        simp [getU16, getByte]
        omega
      have later (k : ℕ) : getU16 (a :: b :: rest) (2 * (k + 1)) = getU16 rest (2 * k) := rfl
      rw [half, List.range_succ_eq_map, List.map_cons, List.map_map, List.sum_cons, first, wordSum,
        ih evenRest]
      congr 1

/-- The two addresses are added word by word in turns. -/
theorem sum_turns (source destination : ℕ → ℕ) (n : ℕ) :
    ((List.range n).flatMap fun k => [source k, destination k]).sum =
      ((List.range n).map source).sum + ((List.range n).map destination).sum := by
  induction n with
  | zero => rfl
  | succ n ih =>
      rw [List.range_succ, List.flatMap_append, List.map_append, List.map_append]
      simp only [List.sum_append, ih, List.flatMap_singleton, List.map_singleton,
        List.sum_cons, List.sum_nil]
      omega

section

variable {source destination payload : List UInt8} {nextHeader : UInt8}

/-- The terms of the app add up to the words of the addresses and of the payload, its length, and
the next header. -/
theorem sum_ipv6ChecksumTerms (sixteen : source.length = 16) (sixteen' : destination.length = 16) :
    (ipv6ChecksumTerms source destination nextHeader payload).sum =
      wordSum source + wordSum destination + payload.length / 65536 + payload.length % 65536 +
        nextHeader.toNat + wordSum payload := by
  have words_source := @wordSum_eq_getU16 source (by omega)
  have words_destination := @wordSum_eq_getU16 destination (by omega)
  rw [sixteen, show 16 / 2 = 8 by rfl] at words_source
  rw [sixteen', show 16 / 2 = 8 by rfl] at words_destination
  rw [ipv6ChecksumTerms, List.sum_append, List.sum_append, sum_turns, sum_words, words_source,
    words_destination]
  simp only [List.sum_cons, List.sum_nil]
  omega

/-- The sum of a transport part that fits a length field. -/
theorem ipv6ChecksumTerms_small (sixteen : source.length = 16)
    (sixteen' : destination.length = 16) (short : payload.length < 65536) :
    (ipv6ChecksumTerms source destination nextHeader payload).sum < 2 ^ 32 := by
  have source_le := wordSum_le source
  have destination_le := wordSum_le destination
  have body_le := wordSum_le payload
  have next := nextHeader.toNat_lt
  rw [sum_ipv6ChecksumTerms sixteen sixteen']
  omega

end

/-! ## The relay -/

namespace Ipv6Packetizer

variable {p : Ipv6Packetizer}

/-- The source address, where the IPv6 header has it. -/
def source (p : Ipv6Packetizer) : List UInt8 := slice p.ipv6Header 8 24

/-- The destination address, where the IPv6 header has it. -/
def destination (p : Ipv6Packetizer) : List UInt8 := slice p.ipv6Header 24 40

/-- The first `n` bytes behind the IPv6 header, with a zero in the checksum field. -/
def zeroedTransport (p : Ipv6Packetizer) (n : ℕ) : List UInt8 :=
  (putU16 p.transportHeader.raw p.checksumOffset 0 ++ p.payload).take n

/-- The source address has its 16 bytes. -/
theorem length_source (forty : p.ipv6Header.length = 40) : p.source.length = 16 := by
  rw [source, length_slice, forty]
  rfl

/-- So has the destination address. -/
theorem length_destination (forty : p.ipv6Header.length = 40) : p.destination.length = 16 := by
  rw [destination, length_slice, forty]
  rfl

/-- The relay reads both addresses in one go. -/
theorem wordSum_addresses (forty : p.ipv6Header.length = 40) :
    wordSum (slice p.ipv6Header 8 40) = wordSum p.source + wordSum p.destination := by
  have parts : slice p.ipv6Header 8 40 = p.source ++ p.destination := by
    rw [source, destination, slice_append_slice _ (by decide) (by decide)]
  have even : p.source.length % 2 = 0 := by
    rw [length_source forty]
  rw [parts, wordSum_append even]

/-- The transport bytes are the ones that were put in. -/
theorem raw_withTransport (raw : List UInt8) : (p.withTransport raw).transportHeader.raw = raw := by
  unfold withTransport
  cases p.transportHeader <;> rfl

/-- The relay's sum is the app's, of the same parts. -/
theorem sum_checksumTerms_eq (forty : p.ipv6Header.length = 40) (transport : List UInt8) :
    (p.checksumTerms transport.length transport).sum =
      (ipv6ChecksumTerms p.source p.destination p.ipv6HeaderData.nextHeader transport).sum := by
  rw [sum_checksumTerms, pseudoHeaderSum, wordSum_addresses forty,
    sum_ipv6ChecksumTerms (length_source forty) (length_destination forty)]

/-- The checksum is written into its field. -/
theorem putChecksum_eq {checksum : UInt16}
    (field : p.checksumOffset + 2 ≤ p.transportHeader.raw.length) :
    p.putChecksum checksum =
      .ok (p.withTransport (putU16 p.transportHeader.raw p.checksumOffset checksum)) := by
  rw [putChecksum, writeU16_eq field]
  rfl

/-- The buffer with a zero in the checksum field. -/
def zeroed (p : Ipv6Packetizer) : Ipv6Packetizer :=
  p.withTransport (putU16 p.transportHeader.raw p.checksumOffset 0)

/-- What `update_checksum` writes, from the sum of the parts. -/
theorem updateChecksumU32_zeroed {n sum : ℕ}
    (field : p.checksumOffset + 2 ≤ p.transportHeader.raw.length)
    (inside : n ≤ p.transportHeader.raw.length + p.payload.length)
    (added : sumU32 (p.zeroed.checksumTerms n (p.zeroedTransport n)) = .ok sum) :
    ∃ p', p.updateChecksumU32 (ipv6HeaderLength + n) = .ok p' ∧
      getU16 p'.transportHeader.raw p.checksumOffset = p.checksumOf sum := by
  have raw : p.zeroed.transportHeader.raw = putU16 p.transportHeader.raw p.checksumOffset 0 :=
    raw_withTransport _
  have length : p.zeroed.transportHeader.raw.length = p.transportHeader.raw.length := by
    rw [raw, length_putU16 field]
  have field' : p.zeroed.checksumOffset + 2 ≤ p.zeroed.transportHeader.raw.length := by
    rw [length]
    exact field
  have transport : readSlice (p.zeroed.transportHeader.raw ++ p.zeroed.payload) 0 n =
      .ok (p.zeroedTransport n) := by
    have inside' : n ≤ (p.zeroed.transportHeader.raw ++ p.zeroed.payload).length := by
      rw [List.length_append, length]
      exact inside
    rw [readSlice_eq (Nat.zero_le n) inside', slice_zero, raw]
    rfl
  refine ⟨p.zeroed.withTransport
    (putU16 p.zeroed.transportHeader.raw p.zeroed.checksumOffset (p.zeroed.checksumOf sum)), ?_, ?_⟩
  · have zero : p.putChecksum 0 = .ok p.zeroed := putChecksum_eq field
    rw [updateChecksumU32, zero, ok_bind]
    simp only [Nat.add_sub_cancel_left]
    rw [transport, ok_bind, added, ok_bind, putChecksum_eq field']
  · rw [raw_withTransport]
    exact getU16_putU16 field' _

/-- **The two programs agree.**  For the addresses and the transport part that are in the buffer,
`Ipv6Checksum` returns a checksum, and `update_checksum` writes it, all ones for a UDP checksum
of zero.  No addition of either overflows. -/
theorem updateChecksum_eq_ipv6Checksum (p : Ipv6Packetizer) {n : ℕ}
    (forty : p.ipv6Header.length = 40)
    (field : p.checksumOffset + 2 ≤ p.transportHeader.raw.length)
    (inside : n ≤ p.transportHeader.raw.length + p.payload.length) (short : n ≤ 65496) :
    ∃ checksum p', ipv6ChecksumU32 p.source p.destination p.ipv6HeaderData.nextHeader
        (p.zeroedTransport n) = .ok checksum ∧
      p.updateChecksumU32 (ipv6HeaderLength + n) = .ok p' ∧
      getU16 p'.transportHeader.raw p.checksumOffset =
        if checksum = 0 ∧ p.protocol = .udp then 0xffff else checksum := by
  have length : (p.zeroedTransport n).length = n := by
    rw [zeroedTransport, List.length_take_of_le]
    rw [List.length_append, length_putU16 field]
    exact inside
  have small : (ipv6ChecksumTerms p.source p.destination p.ipv6HeaderData.nextHeader
      (p.zeroedTransport n)).sum < 2 ^ 32 :=
    ipv6ChecksumTerms_small (length_source forty) (length_destination forty) (by omega)
  have same : (p.zeroed.checksumTerms n (p.zeroedTransport n)).sum =
      (ipv6ChecksumTerms p.source p.destination p.ipv6HeaderData.nextHeader
        (p.zeroedTransport n)).sum := by
    have sums := sum_checksumTerms_eq (p := p.zeroed) forty (p.zeroedTransport n)
    rw [length] at sums
    exact sums
  have added := sumU32_eq small
  generalize (ipv6ChecksumTerms p.source p.destination p.ipv6HeaderData.nextHeader
    (p.zeroedTransport n)).sum = sum at same small added
  have relay : sumU32 (p.zeroed.checksumTerms n (p.zeroedTransport n)) = .ok sum := by
    rw [← same] at small
    rw [sumU32_eq small, same]
  obtain ⟨p', updated, written⟩ := updateChecksumU32_zeroed field inside relay
  refine ⟨UInt16.ofNat (65535 - fold16 sum), p', ?_, updated, written⟩
  rw [ipv6ChecksumU32, added]
  rfl

/-- A UDP datagram of three bytes, from 2001:db8::1 port 4660 to 2001:db8::2 port 53. -/
def oddDatagram : Ipv6Packetizer where
  ipv6Header := [0x60, 0, 0, 0, 0, 11, 17, 64, 0x20, 1, 0xd, 0xb8, 0, 0, 0, 0, 0, 0, 0, 0, 0, 0, 0, 1,
    0x20, 1, 0xd, 0xb8, 0, 0, 0, 0, 0, 0, 0, 0, 0, 0, 0, 2]
  transportHeader := .udp ⟨[0x12, 0x34, 0, 53, 0, 11, 0, 0], ⟨4660, 53⟩⟩
  payload := [0x61, 0x62, 0x63]
  ipv6HeaderData := .ofRaw ([0x60, 0, 0, 0, 0, 11, 17, 64, 0x20, 1, 0xd, 0xb8, 0, 0, 0, 0, 0, 0, 0, 0, 0, 0, 0, 1,
    0x20, 1, 0xd, 0xb8, 0, 0, 0, 0, 0, 0, 0, 0, 0, 0, 0, 2])
  protocol := .udp

/-- The two programs agree on the checksum of a datagram of an odd length. -/
theorem updateChecksum_oddDatagram :
    ∃ checksum p', ipv6ChecksumU32 oddDatagram.source oddDatagram.destination
        oddDatagram.ipv6HeaderData.nextHeader (oddDatagram.zeroedTransport 11) = .ok checksum ∧
      oddDatagram.updateChecksumU32 (ipv6HeaderLength + 11) = .ok p' ∧
      getU16 p'.transportHeader.raw oddDatagram.checksumOffset =
        if checksum = 0 ∧ oddDatagram.protocol = .udp then 0xffff else checksum :=
  updateChecksum_eq_ipv6Checksum oddDatagram (by decide) (by decide) (by decide) (by decide)

end Ipv6Packetizer

end ReverseTether
