import ReverseTether.Icmpv6

/-!
# What a Destination Unreachable says, and to whom

A reply is laid out once, as `replyBytes`, and everything else is read off: it is a packet of
its own, a receiver's sum over it is `0xffff`, and it quotes the longest front of the packet
that fits (`buildIcmpv6Unreachable_answers`).

RFC 4443 2.4 (e) names the packets that must not be answered.  The code looks at the byte
behind the fixed header and at the first byte of the destination, and at no extension header
and no source, so it obeys for some packets only (`obeysRfc4443_iff`).

The packet that is quoted is cut, never changed, and the header in front of it is filled in
for the length that is left.  So a reply is determined by the packet and by its length, which
is what makes the layout a function.

The rule is there against storms: an error about an error, or one to many receivers, or one to
a sender that is none.  The application on the device is the sender of what is refused here,
which is why such packets are rare; the statement says which of them are answered all the
same.
-/

namespace ReverseTether

open Library

/-! ## The layout of a reply -/

/-- Overwriting a middle part. -/
theorem splice_append {α : Type} {front old new : List α} {i : ℕ} (place : front.length = i)
    (length : old.length = new.length) (rest : List α) :
    splice (front ++ old ++ rest) i new = front ++ new ++ rest := by
  rw [splice, List.append_assoc front, ← place, List.take_left, ← length, ← List.length_append,
    ← List.append_assoc front, List.drop_left]

/-- Reading a middle part. -/
theorem slice_append {α : Type} {front middle : List α} {i j : ℕ} (start : front.length = i)
    (stop : i + middle.length = j) (rest : List α) :
    slice (front ++ middle ++ rest) i j = middle := by
  have taken : (front ++ middle).length = j := by rw [List.length_append, start, stop]
  rw [slice, ← taken, List.take_left, ← start, List.drop_left]

/-- The fixed header of a reply, up to its addresses. -/
def replyHeader (quote : ℕ) : List UInt8 :=
  [0x60, 0, 0, 0] ++ u16Bytes (UInt16.ofNat (kIcmpv6HeaderLength + quote)) ++ [58, 64]

/-- The ICMPv6 message of a reply. -/
def replyMessage (quoted : List UInt8) (checksum : UInt16) : List UInt8 :=
  [1, 1] ++ u16Bytes checksum ++ [0, 0, 0, 0] ++ quoted

/-- The bytes of a reply from `source` to `destination`. -/
def replyBytes (source destination quoted : List UInt8) (checksum : UInt16) : List UInt8 :=
  replyHeader quoted.length ++ source ++ destination ++ replyMessage quoted checksum

/-- What is quoted of a packet. -/
def quotedOf (packet : List UInt8) : List UInt8 := packet.take (min packet.length 1232)

/-- The checksum of a reply to `packet`. -/
def replyChecksum (packet : List UInt8) : UInt16 :=
  ipv6Checksum (slice packet 24 40) (slice packet 8 24) kNextHeaderIcmpv6
    (replyMessage (quotedOf packet) 0)

/-- **The assembled bytes are laid out as a reply**, its two addresses those of the packet in the
other order.  The checksum is zero in it, and is computed over exactly these bytes. -/
theorem assembleUnreachable_eq {packet : List UInt8} {quote : ℕ} (long : 40 ≤ packet.length)
    (inside : quote ≤ packet.length) :
    assembleUnreachable packet quote =
      replyBytes (slice packet 24 40) (slice packet 8 24) (packet.take quote) 0 := by
  have quoted : (packet.take quote).length = quote := List.length_take_of_le inside
  have zeros : List.replicate (kIpv6HeaderLength + (kIcmpv6HeaderLength + quote)) (0 : UInt8) =
      List.replicate 48 0 ++ List.replicate quote 0 := by
    rw [List.replicate_append_replicate, kIpv6HeaderLength, kIcmpv6HeaderLength, ← Nat.add_assoc]
  rw [assembleUnreachable, zeros, replyBytes, replyHeader, replyMessage, quoted]
  set rest := List.replicate quote (0 : UInt8) with hrest
  set field := u16Bytes (UInt16.ofNat (kIcmpv6HeaderLength + quote))
  set front := [0x60, 0, 0, 0] ++ field ++ [58, 64]
  have source : (slice packet 24 40).length = 16 := by rw [length_slice]; omega
  have destination : (slice packet 8 24).length = 16 := by rw [length_slice]; omega
  set back := slice packet 24 40
  have fixed : ((splice ((List.replicate 48 0 ++ rest).set 0 0x60) 4 field).set 6
      kNextHeaderIcmpv6).set 7 64 =
        front ++ List.replicate 16 0 ++ (List.replicate 24 0 ++ rest) := by
    have lengths : splice ((List.replicate 48 0 ++ rest).set 0 0x60) 4 field =
        [0x60, 0, 0, 0] ++ field ++ (List.replicate 42 0 ++ rest) :=
      @splice_append _ [0x60, 0, 0, 0] [0, 0] field 4 rfl rfl (List.replicate 42 0 ++ rest)
    rw [lengths]
    rfl
  have addressed : splice (splice (front ++ List.replicate 16 0 ++ (List.replicate 24 0 ++ rest)) 8
      back) 24 (slice packet 8 24) =
        front ++ back ++ slice packet 8 24 ++ (List.replicate 8 0 ++ rest) := by
    have swapped : splice (front ++ List.replicate 16 0 ++ (List.replicate 24 0 ++ rest)) 8 back =
        front ++ back ++ (List.replicate 16 0 ++ (List.replicate 8 0 ++ rest)) :=
      splice_append rfl (by rw [source]; rfl) _
    rw [swapped, ← List.append_assoc]
    exact splice_append (by rw [List.length_append, source]; rfl) (by rw [destination]; rfl) _
  have header : (front ++ back ++ slice packet 8 24).length = kIpv6HeaderLength := by
    rw [List.length_append, List.length_append, source, destination]
    rfl
  have typed : (((front ++ back ++ slice packet 8 24 ++ (List.replicate 8 0 ++ rest)).set
      kIpv6HeaderLength 1).set (kIpv6HeaderLength + 1) 1) =
        front ++ back ++ slice packet 8 24 ++ ([1, 1] ++ u16Bytes 0 ++ [0, 0, 0, 0] ++ rest) := by
    rw [List.set_append_right _ _ header.le, header, List.set_append_right _ _ (by omega), header]
    rfl
  rw [fixed, addressed, typed]
  have before : (front ++ back ++ slice packet 8 24 ++ ([1, 1] ++ u16Bytes 0 ++ [0, 0, 0, 0])).length =
      kIpv6HeaderLength + kIcmpv6HeaderLength := by
    rw [List.length_append, header]
    rfl
  have written := @splice_append _ _ rest (packet.take quote) _ before
    (by rw [quoted, hrest, List.length_replicate]) []
  simpa only [List.append_assoc, List.append_nil] using written

/-- The parts of a reply, when the addresses have their 16 bytes.  They are slices of a packet that
is long enough, and lengths are all that the layout asks of them. -/
structure Addressed (source destination : List UInt8) : Prop where
  source : source.length = 16
  destination : destination.length = 16

/-- The addresses of a packet with a whole fixed header have their 16 bytes. -/
theorem addressed_slices {packet : List UInt8} (long : 40 ≤ packet.length) :
    Addressed (slice packet 24 40) (slice packet 8 24) where
  source := by
    rw [length_slice]
    omega
  destination := by
    rw [length_slice]
    omega

namespace Addressed

variable {source destination : List UInt8}

/-- A reply is 48 bytes longer than what it quotes. -/
theorem length (addressed : Addressed source destination) (quoted : List UInt8) (checksum : UInt16) :
    (replyBytes source destination quoted checksum).length = 48 + quoted.length := by
  have s := addressed.source
  have d := addressed.destination
  simp only [replyBytes, replyHeader, replyMessage, List.length_append, length_u16Bytes, s, d,
    List.length_cons, List.length_nil]
  omega

/-- The source address, in its place. -/
theorem slice_source (addressed : Addressed source destination) (quoted : List UInt8)
    (checksum : UInt16) :
    slice (replyBytes source destination quoted checksum) 8 24 = source := by
  have header : (replyHeader quoted.length).length = 8 := rfl
  rw [replyBytes, List.append_assoc]
  exact slice_append header (by rw [addressed.source]) _

/-- The destination address, in its place. -/
theorem slice_destination (addressed : Addressed source destination) (quoted : List UInt8)
    (checksum : UInt16) :
    slice (replyBytes source destination quoted checksum) 24 40 = destination := by
  refine slice_append ?_ (by rw [addressed.destination]) _
  rw [List.length_append, addressed.source]
  rfl

/-- Behind the fixed header is the message. -/
theorem drop_header (addressed : Addressed source destination) (quoted : List UInt8)
    (checksum : UInt16) :
    (replyBytes source destination quoted checksum).drop 40 = replyMessage quoted checksum := by
  have header : (replyHeader quoted.length ++ source ++ destination).length = 40 := by
    rw [List.length_append, List.length_append, addressed.source, addressed.destination]
    rfl
  rw [replyBytes, ← header, List.drop_left]

/-- Behind the header of the message is what is quoted. -/
theorem drop_message (addressed : Addressed source destination) (quoted : List UInt8)
    (checksum : UInt16) :
    (replyBytes source destination quoted checksum).drop 48 = quoted := by
  have split : (replyBytes source destination quoted checksum).drop 48 =
      ((replyBytes source destination quoted checksum).drop 40).drop 8 := by
    rw [List.drop_drop]
  rw [split, addressed.drop_header]
  rfl

/-- The checksum is written where there was none. -/
theorem putChecksum (addressed : Addressed source destination) (quoted : List UInt8)
    (checksum : UInt16) :
    splice (replyBytes source destination quoted 0) (kIpv6HeaderLength + 2)
    (u16Bytes checksum) = replyBytes source destination quoted checksum := by
  have front : (replyHeader quoted.length ++ source ++ destination ++ [1, 1]).length =
      kIpv6HeaderLength + 2 := by
    rw [List.length_append, List.length_append, List.length_append, addressed.source,
      addressed.destination]
    rfl
  have written := @splice_append _ _ (u16Bytes 0) (u16Bytes checksum) _ front rfl
    ([0, 0, 0, 0] ++ quoted)
  simpa only [replyBytes, replyMessage, List.append_assoc] using written

end Addressed

/-! ## Which packets are answered -/

/-- An ICMPv6 error report (type < 128) directly behind the fixed header.  It is what the builder
looks for, and it looks no further. -/
def PlainErrorReport (packet : List UInt8) : Prop :=
  getByte packet 6 = kNextHeaderIcmpv6 ∧ kIpv6HeaderLength < packet.length ∧
    getByte packet kIpv6HeaderLength < 128

/-- **A reply is laid out like this**, and these packets get one.  No others do: what is too short,
of another version, an error report in plain sight, or sent to a group. -/
theorem buildIcmpv6Unreachable_eq_some {packet reply : List UInt8} :
    buildIcmpv6Unreachable packet = some reply ↔
      (40 ≤ packet.length ∧ getByte packet 0 >>> 4 = 6 ∧ ¬ PlainErrorReport packet ∧
        getByte packet 24 ≠ 0xff) ∧
      reply = replyBytes (slice packet 24 40) (slice packet 8 24) (quotedOf packet)
        (replyChecksum packet) := by
  have built (long : 40 ≤ packet.length) :
      splice (assembleUnreachable packet (min packet.length 1232)) (kIpv6HeaderLength + 2)
        (u16Bytes (ipv6Checksum (slice (assembleUnreachable packet (min packet.length 1232)) 8 24)
          (slice (assembleUnreachable packet (min packet.length 1232)) 24 40) kNextHeaderIcmpv6
          ((assembleUnreachable packet (min packet.length 1232)).drop kIpv6HeaderLength))) =
      replyBytes (slice packet 24 40) (slice packet 8 24) (quotedOf packet)
        (replyChecksum packet) := by
    have addressed := addressed_slices long
    rw [assembleUnreachable_eq long (min_le_left _ _), addressed.slice_source,
      addressed.slice_destination, kIpv6HeaderLength, addressed.drop_header]
    exact addressed.putChecksum _ _
  unfold buildIcmpv6Unreachable
  split
  · rename_i malformed
    constructor
    · simp
    · rintro ⟨⟨long, version, -⟩, -⟩
      rcases malformed with short | other
      · exact absurd short (not_lt.mpr long)
      · exact absurd version other
  · rename_i wellFormed
    rw [not_or, not_lt, not_not] at wellFormed
    split
    · rename_i report
      exact ⟨by simp, fun h => absurd report h.1.2.2.1⟩
    · rename_i noReport
      split
      · rename_i multicast
        exact ⟨by simp, fun h => absurd multicast h.1.2.2.2⟩
      · rename_i unicast
        have most : kMaxIcmpv6Packet - kIpv6HeaderLength - kIcmpv6HeaderLength = 1232 := rfl
        rw [most, Option.some.injEq, built wellFormed.1]
        exact ⟨fun eq => ⟨⟨wellFormed.1, wellFormed.2, noReport, unicast⟩, eq.symm⟩,
          fun h => h.2.symm⟩

/-! ## What a reply is -/

/-- The sum a receiver takes over an ICMPv6 message and its pseudo header. -/
def receiverSum (raw : List UInt8) : ℕ :=
  let length := raw.length - kIpv6HeaderLength
  wordSum (slice raw 8 24) + wordSum (slice raw 24 40) + length / 65536 + length % 65536 +
    kNextHeaderIcmpv6.toNat + wordSum (raw.drop kIpv6HeaderLength)

/-- The checksum adds one word to the sum. -/
theorem wordSum_replyMessage (quoted : List UInt8) (checksum : UInt16) :
    wordSum (replyMessage quoted checksum) = wordSum (replyMessage quoted 0) + checksum.toNat := by
  have field (v : UInt16) : wordSum (replyMessage quoted v) =
      wordSum [1, 1] + v.toNat + wordSum ([0, 0, 0, 0] ++ quoted) := by
    have value : wordSum (u16Bytes v) = v.toNat := by
      have small := v.toNat_lt
      simp only [u16Bytes, wordSum, UInt8.toNat_ofNat']
      omega
    have even : ([1, 1] ++ u16Bytes v).length % 2 = 0 := by simp
    have two : [(1 : UInt8), 1].length % 2 = 0 := rfl
    rw [replyMessage, List.append_assoc, wordSum_append even, wordSum_append two, value]
  rw [field checksum, field 0]
  show _ = wordSum [1, 1] + 0 + _ + _
  omega

/-- **A receiver's sum over a reply is `0xffff`.**  The receiver adds up the pseudo header and the
message with its checksum; the message has an even number of bytes or is padded. -/
theorem fold16_receiverSum {source destination quoted : List UInt8}
    (addressed : Addressed source destination) (short : quoted.length ≤ 1232) :
    fold16 (receiverSum (replyBytes source destination quoted
      (ipv6Checksum source destination kNextHeaderIcmpv6 (replyMessage quoted 0)))) = 65535 := by
  have message (checksum : UInt16) : (replyMessage quoted checksum).length = 8 + quoted.length := by
    simp only [replyMessage, List.length_append, length_u16Bytes, List.length_cons, List.length_nil]
  have total (checksum : UInt16) :
      (replyBytes source destination quoted checksum).length - kIpv6HeaderLength =
        (replyMessage quoted 0).length := by
    rw [addressed.length, message, kIpv6HeaderLength]
    omega
  set sum := wordSum source + wordSum destination + (replyMessage quoted 0).length / 65536 +
    (replyMessage quoted 0).length % 65536 + kNextHeaderIcmpv6.toNat +
      wordSum (replyMessage quoted 0) with hsum
  have bounds : sum < 4294967296 := by
    have s := wordSum_le source
    have d := wordSum_le destination
    have m := wordSum_le (replyMessage quoted 0)
    have next : kNextHeaderIcmpv6.toNat = 58 := rfl
    rw [addressed.source] at s
    rw [addressed.destination] at d
    rw [message] at m
    rw [hsum, message, next]
    omega
  have folded := fold16_lt sum
  have checksum : (ipv6Checksum source destination kNextHeaderIcmpv6
      (replyMessage quoted 0)).toNat = 65535 - fold16 sum := by
    have small : (UInt16.ofNat (65535 - fold16 (sum % 4294967296))).toNat =
        65535 - fold16 (sum % 4294967296) := by
      rw [UInt16.toNat_ofNat', Nat.mod_eq_of_lt (by omega)]
    rw [Nat.mod_eq_of_lt bounds] at small
    rw [← small, hsum]
    rw [ipv6Checksum, Nat.mod_eq_of_lt (hsum ▸ bounds)]
  rw [receiverSum, total, addressed.slice_source, addressed.slice_destination, kIpv6HeaderLength,
    addressed.drop_header, wordSum_replyMessage, checksum, ← Nat.add_assoc]
  exact fold16_add_complement sum

/-- **What is answered gets a reply that is a packet of its own**: back to the sender, within
the minimum MTU, with a valid checksum and as much of the packet as fits; and such a reply is
not answered. -/
theorem buildIcmpv6Unreachable_answers {packet reply : List UInt8}
    (built : buildIcmpv6Unreachable packet = some reply) :
    isWellFormedIpPacket reply = true ∧ isIpv6 reply = true ∧ reply.length ≤ kMaxIcmpv6Packet ∧
      slice reply 8 24 = slice packet 24 40 ∧ slice reply 24 40 = slice packet 8 24 ∧
      getByte reply 6 = kNextHeaderIcmpv6 ∧ fold16 (receiverSum reply) = 0xffff ∧
      (reply.drop 48 <+: packet ∧ ∀ quoted, quoted <+: packet →
        kIpv6HeaderLength + kIcmpv6HeaderLength + quoted.length ≤ kMaxIcmpv6Packet →
        quoted <+: reply.drop 48) ∧
      buildIcmpv6Unreachable reply = none := by
  obtain ⟨⟨long, -⟩, rfl⟩ := buildIcmpv6Unreachable_eq_some.mp built
  have addressed := addressed_slices long
  have quoted : (quotedOf packet).length = min packet.length 1232 :=
    List.length_take_of_le (min_le_left _ _)
  set reply := replyBytes (slice packet 24 40) (slice packet 8 24) (quotedOf packet)
    (replyChecksum packet) with hreply
  have length : reply.length = 48 + (quotedOf packet).length := addressed.length _ _
  have byte (k : ℕ) (front : k < 8) :
      getByte reply k = getByte (replyHeader (quotedOf packet).length) k := by
    rw [hreply, replyBytes, List.append_assoc, List.append_assoc]
    exact getByte_append_left front
  have version : getByte reply 0 >>> 4 = 6 := by
    have first : getByte (replyHeader (quotedOf packet).length) 0 = 0x60 := rfl
    rw [byte 0 (by omega), first]
    decide
  have payload : (getU16 reply 4).toNat = 8 + (quotedOf packet).length := by
    rw [toNat_getU16, byte 4 (by omega), byte 5 (by omega), ← toNat_getU16]
    show (getU16 (u16Bytes (UInt16.ofNat (kIcmpv6HeaderLength + (quotedOf packet).length))) 0).toNat
      = _
    rw [getU16_u16Bytes, UInt16.toNat_ofNat', kIcmpv6HeaderLength]
    omega
  have next : getByte reply 6 = kNextHeaderIcmpv6 := byte 6 (by omega)
  have type : getByte reply kIpv6HeaderLength = 1 := by
    have message : getByte (reply.drop 40) 0 = 1 := by
      rw [hreply, addressed.drop_header]
      rfl
    rwa [getByte_drop] at message
  refine ⟨?_, ?_, ?_, addressed.slice_source _ _, addressed.slice_destination _ _, next,
    fold16_receiverSum addressed (by omega), ⟨?_, ?_⟩, ?_⟩
  · exact isWellFormedIpPacket_iff.mpr (.inr ⟨version, by omega⟩)
  · exact decide_eq_true ⟨by omega, version⟩
  · rw [kMaxIcmpv6Packet]
    omega
  · rw [hreply, addressed.drop_message]
    exact List.take_prefix _ _
  · intro part front fits
    rw [kIpv6HeaderLength, kIcmpv6HeaderLength, kMaxIcmpv6Packet] at fits
    rw [hreply, addressed.drop_message, quotedOf, List.prefix_take_iff]
    exact ⟨front, by have := front.length_le; omega⟩
  · rw [Option.eq_none_iff_forall_ne_some]
    intro reply' answered
    refine (buildIcmpv6Unreachable_eq_some.mp answered).1.2.2.1 ⟨next, ?_, ?_⟩
    · rw [kIpv6HeaderLength]
      omega
    · rw [type]
      decide

/-- A packet without a payload, from 2001:db8::1 to 2001:db8::2. -/
def barePacket : List UInt8 :=
  [0x60, 0, 0, 0, 0, 0, 59, 64, 0x20, 1, 0xd, 0xb8, 0, 0, 0, 0, 0, 0, 0, 0, 0, 0, 0, 1,
    0x20, 1, 0xd, 0xb8, 0, 0, 0, 0, 0, 0, 0, 0, 0, 0, 0, 2]

/-- A packet without a payload is answered, and the receiver finds the checksum correct. -/
theorem buildIcmpv6Unreachable_answers_bare :
    ∃ reply, buildIcmpv6Unreachable barePacket = some reply ∧ isWellFormedIpPacket reply = true ∧
      fold16 (receiverSum reply) = 0xffff := by
  have built := buildIcmpv6Unreachable_eq_some.mpr
    ⟨⟨show 40 ≤ barePacket.length by decide, by decide,
      fun report => absurd report.1 (by decide), by decide⟩, rfl⟩
  obtain ⟨wellFormed, -, -, -, -, -, sum, -⟩ := buildIcmpv6Unreachable_answers built
  exact ⟨_, built, wellFormed, sum⟩

/-! ## Which packets must not be answered -/

/-- **The chain of headers of a packet**: one of type `next` is at `offset`.  What is in an
encapsulated payload, or behind a fragment that is not the first, is not in the chain. -/
inductive HeaderAt (packet : List UInt8) : UInt8 → ℕ → Prop
  | first : HeaderAt packet (getByte packet 6) kIpv6HeaderLength
  /-- Hop-by-hop options, routing, destination options, mobility, HIP and Shim6. -/
  | options {next : UInt8} {offset : ℕ} : HeaderAt packet next offset →
      next ∈ [0, 43, 60, 135, 139, 140] → offset + 1 < packet.length →
      HeaderAt packet (getByte packet offset)
        (offset + 8 + (getByte packet (offset + 1)).toNat * 8)
  | authentication {offset : ℕ} : HeaderAt packet 51 offset → offset + 1 < packet.length →
      HeaderAt packet (getByte packet offset)
        (offset + 8 + (getByte packet (offset + 1)).toNat * 4)
  | fragment {offset : ℕ} : HeaderAt packet 44 offset → offset + 8 ≤ packet.length →
      getU16 packet (offset + 2) >>> 3 = 0 → HeaderAt packet (getByte packet offset) (offset + 8)

/-- The message of the packet, behind all extension headers, is an ICMPv6 error. -/
def ErrorReport (packet : List UInt8) : Prop :=
  ∃ offset, HeaderAt packet kNextHeaderIcmpv6 offset ∧ offset < packet.length ∧
    getByte packet offset < 128

/-- An IPv6 address of `ff00::/8`. -/
def IsMulticast (address : List UInt8) : Prop := getByte address 0 = 0xff

/-- The IPv6 address `::`.  A packet from there has no sender that a report could go to. -/
def IsUnspecified (address : List UInt8) : Prop := address = List.replicate 16 0

instance (address : List UInt8) : Decidable (IsMulticast address) := inferInstanceAs (Decidable (_ = _))

instance (address : List UInt8) : Decidable (IsUnspecified address) :=
  inferInstanceAs (Decidable (_ = _))

/-- RFC 4443 2.4 (e): an error, or a packet to a multicast address, or one whose source does
not identify a single node. -/
def MustNotAnswer (packet : List UInt8) : Prop :=
  ErrorReport packet ∨ IsMulticast (slice packet 24 40) ∨
    IsUnspecified (slice packet 8 24) ∨ IsMulticast (slice packet 8 24)

/-- The packet is not answered if it must not be, and a reply has one receiver. -/
def ObeysRfc4443 (packet : List UInt8) : Prop :=
  (MustNotAnswer packet → buildIcmpv6Unreachable packet = none) ∧
    ∀ reply, buildIcmpv6Unreachable packet = some reply →
      ¬ IsMulticast (slice reply 24 40) ∧ ¬ IsUnspecified (slice reply 24 40)

/-- **When the rule is obeyed.**  The code refuses an error report directly behind the fixed
header and a multicast destination; of the other packets it answers all. -/
theorem obeysRfc4443_iff {packet : List UInt8} (wellFormed : isWellFormedIpPacket packet = true)
    (version : isIpv6 packet = true) :
    ObeysRfc4443 packet ↔ PlainErrorReport packet ∨ IsMulticast (slice packet 24 40) ∨
      ¬ ErrorReport packet ∧ ¬ IsUnspecified (slice packet 8 24) ∧
        ¬ IsMulticast (slice packet 8 24) := by
  have six : getByte packet 0 >>> 4 = 6 := (of_decide_eq_true version).2
  have long : 40 ≤ packet.length := by
    rcases isWellFormedIpPacket_iff.mp wellFormed with ⟨four, -⟩ | ⟨-, length⟩
    · rw [six] at four
      exact absurd four (by decide)
    · omega
  have destination : IsMulticast (slice packet 24 40) ↔ getByte packet 24 = 0xff := by
    rw [IsMulticast, getByte_slice (by omega)]
  constructor
  · intro obeys
    by_cases refused : PlainErrorReport packet ∨ IsMulticast (slice packet 24 40)
    · exact refused.elim .inl fun multicast => .inr (.inl multicast)
    · rw [not_or, destination] at refused
      have answered := buildIcmpv6Unreachable_eq_some.mpr ⟨⟨long, six, refused.1, refused.2⟩, rfl⟩
      have must : ¬ MustNotAnswer packet := by
        intro must
        rw [obeys.1 must] at answered
        cases answered
      rw [MustNotAnswer, not_or, not_or, not_or] at must
      exact .inr (.inr ⟨must.1, must.2.2.1, must.2.2.2⟩)
  · intro condition
    -- whatever is answered has a single source, and is no error report
    have sound (reply : List UInt8) (built : buildIcmpv6Unreachable packet = some reply) :
        ¬ MustNotAnswer packet := by
      obtain ⟨⟨-, -, noReport, unicast⟩, -⟩ := buildIcmpv6Unreachable_eq_some.mp built
      rcases condition with report | multicast | ⟨noError, specified, single⟩
      · exact absurd report noReport
      · exact absurd (destination.mp multicast) unicast
      · rintro (error | multicast | unspecified | multicast)
        · exact noError error
        · exact unicast (destination.mp multicast)
        · exact specified unspecified
        · exact single multicast
    refine ⟨fun must => ?_, fun reply built => ?_⟩
    · rw [Option.eq_none_iff_forall_ne_some]
      exact fun reply built => sound reply built must
    · obtain ⟨-, -, -, -, receiver, -⟩ := buildIcmpv6Unreachable_answers built
      have must := sound reply built
      rw [MustNotAnswer, not_or, not_or, not_or] at must
      rw [receiver]
      exact ⟨must.2.2.2, must.2.2.1⟩

/-- A report to all MLDv2 routers is not answered. -/
theorem obeysRfc4443_iff_multicast :
    ObeysRfc4443 [0x60, 0, 0, 0, 0, 0, 59, 1, 0xfe, 0x80, 0, 0, 0, 0, 0, 0, 0, 0, 0, 0, 0, 0, 0, 1,
      0xff, 2, 0, 0, 0, 0, 0, 0, 0, 0, 0, 0, 0, 0, 0, 0x16] :=
  (obeysRfc4443_iff (by decide) (by decide)).mpr (.inr (.inl (by decide)))

/-- An ICMPv6 Destination Unreachable behind an empty hop-by-hop options header. -/
def hiddenErrorReport : List UInt8 :=
  [0x60, 0, 0, 0, 0, 16, 0, 64, 0x20, 1, 0xd, 0xb8, 0, 0, 0, 0, 0, 0, 0, 0, 0, 0, 0, 1,
    0x20, 1, 0xd, 0xb8, 0, 0, 0, 0, 0, 0, 0, 0, 0, 0, 0, 2, 58, 0, 1, 4, 0, 0, 0, 0,
    1, 0, 0, 0, 0, 0, 0, 0]

/-- A packet without a payload from the unspecified address. -/
def unspecifiedSource : List UInt8 :=
  [0x60, 0, 0, 0, 0, 0, 59, 64, 0, 0, 0, 0, 0, 0, 0, 0, 0, 0, 0, 0, 0, 0, 0, 0,
    0x20, 1, 0xd, 0xb8, 0, 0, 0, 0, 0, 0, 0, 0, 0, 0, 0, 2]

/-- **An error report behind an extension header is answered**, and so is a packet without a
sender.  The first has a header in front of the report that the builder does not look through; the
second comes from the unspecified address. -/
theorem not_obeysRfc4443 :
    (isWellFormedIpPacket hiddenErrorReport = true ∧ isIpv6 hiddenErrorReport = true ∧
        ¬ ObeysRfc4443 hiddenErrorReport) ∧
      isWellFormedIpPacket unspecifiedSource = true ∧ isIpv6 unspecifiedSource = true ∧
        ¬ ObeysRfc4443 unspecifiedSource := by
  refine ⟨⟨by decide, by decide, fun obeys => ?_⟩, by decide, by decide, fun obeys => ?_⟩
  · have hidden : HeaderAt hiddenErrorReport kNextHeaderIcmpv6 48 :=
      .options .first (by decide) (by decide)
    have refused := obeys.1 (.inl ⟨48, hidden, by decide, by decide⟩)
    have answered := buildIcmpv6Unreachable_eq_some.mpr ⟨⟨show 40 ≤ hiddenErrorReport.length by decide,
      by decide, fun report => absurd report.1 (by decide), by decide⟩, rfl⟩
    rw [refused] at answered
    cases answered
  · have refused := obeys.1 (.inr (.inr (.inl (by decide))))
    have answered := buildIcmpv6Unreachable_eq_some.mpr ⟨⟨show 40 ≤ unspecifiedSource.length by decide,
      by decide, fun report => absurd report.1 (by decide), by decide⟩, rfl⟩
    rw [refused] at answered
    cases answered

end ReverseTether
