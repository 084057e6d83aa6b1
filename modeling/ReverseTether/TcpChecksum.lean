import ReverseTether.TcpHeader

/-!
# The optimised TCP checksum

`TcpHeaderMut::update_checksum` walks the header and the payload with raw pointers, adds
the high bytes and the low bytes up apart in two `u32`, and stops one byte before the end
of the payload.  `checksumLoop` is that walk, with every read and every addition checked,
and `updateChecksumU32` the function around it.

What it writes is the checksum as RFC 793 has it (`plainChecksum`): the words of pseudo
header, header and zero-padded payload, added with end-around carry and complemented.

The last byte of an odd payload is the one that the walk leaves out: the function adds it
afterwards, as the high byte of a word.  Which bytes are high and which are low depends on
where the payload begins, and the header has an even number of bytes, so the two walks fit
together.

`checksumLoop` fails on a read outside of the slice and on an addition beyond 32 bits.  That
it never does is a statement about the lengths that a packet can have, and the only one here
that needs them; the arithmetic of the folding is that of the ones' complement library.
-/

namespace ReverseTether

open Library

/-! ## The function of the source -/

/-- `a + b` for two `u32`. -/
def addU32 (a b : ℕ) : Outcome ℕ := if a + b < 2 ^ 32 then .ok (a + b) else .error .overflow

/-- `while p < end`: the sums of the high bytes and of the low bytes so far. -/
def checksumLoop (bytes : List UInt8) (stop : ℤ) (p hsum sum : ℕ) : Outcome (ℕ × ℕ) :=
  if _h : (p : ℤ) < stop then do
    let high ← readByte bytes p
    let hsum ← addU32 hsum high.toNat
    let low ← readByte bytes (p + 1)
    let sum ← addU32 sum low.toNat
    checksumLoop bytes stop (p + 2) hsum sum
  else .ok (hsum, sum)
termination_by (stop - p).toNat

/-- `while (sum & !0xFFFF) != 0`, for at most `rounds` rounds. -/
def foldU32 : ℕ → ℕ → Outcome ℕ
  | 0, sum => .ok sum
  | rounds + 1, sum =>
      if sum < 65536 then .ok sum
      else do
        let sum ← addU32 (sum % 65536) (sum / 65536)
        foldU32 rounds sum

/-- If payload length is odd, the last byte is considered high-order. -/
def addLast (payload : List UInt8) (payloadLength hsum : ℕ) : Outcome ℕ :=
  if payloadLength % 2 ≠ 0 then do
    let last ← readByte payload (payloadLength - 1)
    addU32 hsum last.toNat
  else .ok hsum

namespace TcpHeader

/-- `update_checksum` with every read and every addition checked. -/
def updateChecksumU32 (h : TcpHeader) (ipv4 : Ipv4HeaderData) (payload : List UInt8) :
    Outcome TcpHeader :=
  let headerLength := h.data.headerLength.toNat
  if ipv4.totalLength.toNat < ipv4.headerLength.toNat + headerLength then .error .overflow
  else do
    let transportLength := ipv4.totalLength.toNat - ipv4.headerLength.toNat
    let payloadLength := transportLength - headerLength
    let sum ← addU32 6 (ipv4.source.toNat / 65536)
    let sum ← addU32 sum (ipv4.source.toNat % 65536)
    let sum ← addU32 sum (ipv4.destination.toNat / 65536)
    let sum ← addU32 sum (ipv4.destination.toNat % 65536)
    let sum ← addU32 sum transportLength
    -- reset checksum field, so that it can be added with other bytes
    let h ← h.setChecksum 0
    let (hsum, sum) ← checksumLoop h.raw headerLength 0 0 sum
    -- -1 to ignore the last if payload_length is odd
    let (hsum, sum) ← checksumLoop payload (payloadLength - 1 : ℤ) 0 hsum sum
    let hsum ← addLast payload payloadLength hsum
    -- add high-order bytes sum to the global sum
    let sum ← addU32 sum (hsum * 256 % 2 ^ 32)
    let sum ← foldU32 sum sum
    h.setChecksum (UInt16.ofNat (65535 - sum))

end TcpHeader

/-! ## The checksum of RFC 793 -/

/-- Addresses, a zero byte, the protocol and the length of the segment. -/
def pseudoHeader (source destination : UInt32) (transportLength : UInt16) : List UInt8 :=
  u32Bytes source ++ u32Bytes destination ++ [0, 6] ++ u16Bytes transportLength

/-- Padded on the right with zeros to form a 16-bit word. -/
def zeroPadded (bytes : List UInt8) : List UInt8 :=
  if bytes.length % 2 = 0 then bytes else bytes ++ [0]

/-- What the checksum of a segment is taken over. -/
def checkedBytes (source destination : UInt32) (header payload : List UInt8) : List UInt8 :=
  pseudoHeader source destination (UInt16.ofNat (header.length + payload.length)) ++ header ++
    zeroPadded payload

/-- The complement of the ones' complement sum of the words, the checksum field
counting as zero. -/
def plainChecksum (source destination : UInt32) (header payload : List UInt8) : UInt16 :=
  UInt16.ofNat
    (65535 - fold16 (wordSum (checkedBytes source destination (putU16 header 16 0) payload)))

/-! ## The loop -/

/-- An addition that stays small is one of natural numbers. -/
theorem addU32_eq {a b : ℕ} (small : a + b < 2 ^ 32) : addU32 a b = .ok (a + b) := if_pos small

/-- The word at `p` and the sums behind it. -/
theorem pairSums_drop {bytes : List UInt8} {p : ℕ} (inside : p + 2 ≤ bytes.length) :
    pairSums (bytes.drop p) =
      ((getByte bytes p).toNat + (pairSums (bytes.drop (p + 2))).1,
        (getByte bytes (p + 1)).toNat + (pairSums (bytes.drop (p + 2))).2) := by
  have byte (i : ℕ) (h : i < bytes.length) : getByte bytes i = bytes[i] := by
    rw [getByte, List.getD_eq_getElem?_getD, List.getElem?_eq_getElem h]
    rfl
  rw [List.drop_eq_getElem_cons (by omega), List.drop_eq_getElem_cons (by omega), pairSums,
    byte p (by omega), byte (p + 1) (by omega)]

/-- Each byte adds at most 255. -/
theorem pairSums_le (bytes : List UInt8) :
    (pairSums bytes).1 ≤ 255 * (bytes.length / 2) ∧ (pairSums bytes).2 ≤ 255 * (bytes.length / 2) := by
  induction bytes using pairSums.induct with
  | case1 a b rest ih =>
      have ha := a.toNat_lt
      have hb := b.toNat_lt
      obtain ⟨high, low⟩ := ih
      simp only [pairSums, List.length_cons]
      omega
  | case2 bytes none =>
      rw [pairSums]
      · exact ⟨Nat.zero_le _, Nat.zero_le _⟩
      · exact none

/-- The pointer stops behind the last complete word: `stop` is the end of an even number of
bytes, or one byte before the end. -/
structure StopsAt (bytes : List UInt8) (stop : ℤ) : Prop where
  reaches : (2 * (bytes.length / 2) : ℕ) ≤ stop + 1
  inside : stop ≤ (2 * (bytes.length / 2) : ℕ)

/-- **The walk adds up the complete words** of `bytes`, highs and lows apart; it does not look at
what is behind them.  The two sums are kept apart for as long as the walk lasts, and neither
overflows for the lengths that a segment can have. -/
theorem checksumLoop_eq {bytes : List UInt8} {stop : ℤ} (stops : StopsAt bytes stop)
    (behind : List UInt8) {p hsum sum : ℕ} (even : p % 2 = 0)
    (highs : hsum + (pairSums (bytes.drop p)).1 < 2 ^ 32)
    (lows : sum + (pairSums (bytes.drop p)).2 < 2 ^ 32) :
    checksumLoop (bytes ++ behind) stop p hsum sum =
      .ok (hsum + (pairSums (bytes.drop p)).1, sum + (pairSums (bytes.drop p)).2) := by
  have reaches := stops.reaches
  have inside := stops.inside
  induction h : (stop - p).toNat using Nat.strong_induction_on generalizing p hsum sum with
  | _ left ih =>
      rw [checksumLoop]
      by_cases more : (p : ℤ) < stop
      · have word : p + 2 ≤ bytes.length := by omega
        have longer : (bytes ++ behind).length = bytes.length + behind.length := List.length_append
        rw [pairSums_drop word] at highs lows ⊢
        simp only at highs lows ⊢
        rw [dif_pos more, readByte_eq (by omega), ok_bind, getByte_append_left (by omega),
          addU32_eq (by omega), ok_bind, readByte_eq (by omega), ok_bind,
          getByte_append_left (by omega), addU32_eq (by omega), ok_bind]
        rw [ih (stop - (p + 2 : ℕ)).toNat (by omega) (by omega) (by omega) (by omega) rfl,
          Nat.add_assoc, Nat.add_assoc]
      · have done : (bytes.drop p).length < 2 := by
          rw [List.length_drop]
          omega
        have none : pairSums (bytes.drop p) = (0, 0) := by
          have bound := pairSums_le (bytes.drop p)
          rw [Nat.div_eq_of_lt done] at bound
          exact Prod.ext (by omega) (by omega)
        rw [dif_neg more, none]
        rfl

/-- A sum that fits is folded without an overflow. -/
theorem foldU32_eq (rounds : ℕ) {sum : ℕ} (small : sum < 2 ^ 32) :
    foldU32 rounds sum = .ok (foldRounds rounds sum) := by
  induction rounds generalizing sum with
  | zero => rfl
  | succ rounds ih =>
      rw [foldU32, foldRounds]
      split
      · rfl
      · have next : sum % 65536 + sum / 65536 < 2 ^ 32 := by omega
        rw [addU32_eq next, ok_bind, ih next]

/-! ## The whole function -/

/-- Overwriting a place inside the front overwrites it in the front. -/
theorem take_splice_of_le {buf xs : List UInt8} {i n : ℕ} (fits : i + xs.length ≤ n)
    (inside : n ≤ buf.length) : (splice buf i xs).take n = splice (buf.take n) i xs := by
  have length : (buf.take i ++ xs).length = i + xs.length := by
    rw [List.length_append, List.length_take]
    omega
  rw [splice, splice, List.take_append, List.take_of_length_le (by omega), length, List.take_take,
    min_eq_left (by omega), List.drop_take]

/-- The second write hides the first. -/
theorem putU16_putU16 {raw : List UInt8} {i : ℕ} (fits : i + 2 ≤ raw.length) (v w : UInt16) :
    putU16 (putU16 raw i v) i w = putU16 raw i w := by
  have fits' : i + 2 ≤ (putU16 raw i v).length := by rwa [length_putU16 fits]
  apply List.ext_getElem?
  intro k
  rw [putU16, getElem?_splice fits', putU16, getElem?_splice fits, putU16, getElem?_splice fits]
  split
  · rfl
  · rw [length_u16Bytes, length_u16Bytes]
    split <;> rfl

/-- Two bytes are one word. -/
theorem wordSum_u16Bytes (v : UInt16) : wordSum (u16Bytes v) = v.toNat := by
  have small := v.toNat_lt
  simp only [u16Bytes, wordSum, UInt8.toNat_ofNat']
  omega

/-- Four bytes are two words. -/
theorem wordSum_u32Bytes (v : UInt32) :
    wordSum (u32Bytes v) = v.toNat / 65536 + v.toNat % 65536 := by
  have small := v.toNat_lt
  rw [u32Bytes, wordSum_append (by simp), wordSum_u16Bytes, wordSum_u16Bytes, UInt16.toNat_ofNat',
    UInt16.toNat_ofNat']
  omega

/-- The padding adds nothing. -/
theorem wordSum_zeroPadded (bytes : List UInt8) : wordSum (zeroPadded bytes) = wordSum bytes := by
  unfold zeroPadded
  split
  · rfl
  · rename_i odd
    induction bytes using wordSum.induct with
    | case1 => exact absurd rfl odd
    | case2 a => simp [wordSum]
    | case3 a b rest ih =>
        have oddRest : ¬ rest.length % 2 = 0 := by
          simp only [List.length_cons] at odd
          omega
        rw [List.cons_append, List.cons_append, wordSum, wordSum, ih oddRest]

/-- The last byte the walk leaves out. -/
def lastByte (payload : List UInt8) : ℕ :=
  if payload.length % 2 ≠ 0 then (getByte payload (payload.length - 1)).toNat else 0

/-- The last byte of an odd payload is added to the sum of the high bytes. -/
theorem addLast_eq (payload : List UInt8) {hsum : ℕ} (small : hsum + 255 < 2 ^ 32) :
    addLast payload payload.length hsum = .ok (hsum + lastByte payload) := by
  unfold addLast lastByte
  split
  · rename_i odd
    have last := (getByte payload (payload.length - 1)).toNat_lt
    have inside : payload.length - 1 < payload.length := by omega
    rw [readByte_eq inside, ok_bind, addU32_eq (by omega)]
  · rfl

/-- It is a byte. -/
theorem lastByte_le (payload : List UInt8) : lastByte payload ≤ 255 := by
  unfold lastByte
  split
  · have last := (getByte payload (payload.length - 1)).toNat_lt
    omega
  · exact Nat.zero_le _

namespace TcpHeader

/-- **The sum of RFC 793** in the three parts the code adds up: the pseudo header, the header and
the payload.  A header has a multiple of four bytes, so that the words of the payload begin where
those of the header end; an odd payload has a zero behind it. -/
theorem wordSum_checkedBytes (source destination : UInt32) {header payload : List UInt8}
    (even : header.length % 2 = 0) (short : header.length + payload.length < 65536) :
    wordSum (checkedBytes source destination header payload) =
      pseudoHeaderSum source destination (header.length + payload.length) +
        wordSum (header ++ payload) := by
  have lead : (u32Bytes source ++ u32Bytes destination ++ [0, 6] ++
      u16Bytes (UInt16.ofNat (header.length + payload.length))).length % 2 = 0 := by simp
  rw [checkedBytes, pseudoHeader, List.append_assoc, wordSum_append lead, wordSum_append (by simp),
    wordSum_append (by simp), wordSum_append (by simp), wordSum_u32Bytes, wordSum_u32Bytes,
    wordSum_u16Bytes, UInt16.toNat_ofNat', Nat.mod_eq_of_lt short, wordSum_append even,
    wordSum_append even, wordSum_zeroPadded, pseudoHeaderSum]
  show _ + (0 * 256 + 6 + 0) + _ + _ = _
  omega

/-- The lengths the code asserts: those of the headers are those of the slices. -/
structure Declared (h : TcpHeader) (ipv4 : Ipv4HeaderData) (payload : List UInt8) : Prop where
  even : h.data.headerLength.toNat % 2 = 0
  least : 20 ≤ h.data.headerLength.toNat
  inside : h.data.headerLength.toNat ≤ h.raw.length
  total : ipv4.totalLength.toNat =
    ipv4.headerLength.toNat + h.data.headerLength.toNat + payload.length

variable {h : TcpHeader} {ipv4 : Ipv4HeaderData} {payload : List UInt8}

/-- The header bytes. -/
def header (h : TcpHeader) : List UInt8 := h.raw.take h.data.headerLength.toNat

/-- The header is as long as it says. -/
theorem Declared.length_header (declared : h.Declared ipv4 payload) :
    h.header.length = h.data.headerLength.toNat := List.length_take_of_le declared.inside

/-- The header with another checksum. -/
def withChecksum (h : TcpHeader) (checksum : UInt16) : TcpHeader :=
  { h with raw := putU16 h.raw 16 checksum }

/-- The checksum is written inside the header, which stays as long as it says. -/
theorem Declared.setChecksum (declared : h.Declared ipv4 payload) (checksum : UInt16) :
    h.setChecksum checksum = .ok (h.withChecksum checksum) ∧
      (h.withChecksum checksum).Declared ipv4 payload ∧
      (h.withChecksum checksum).header = putU16 h.header 16 checksum := by
  obtain ⟨even, least, inside, total⟩ := declared
  have fits : 16 + 2 ≤ h.raw.length := by omega
  refine ⟨?_, ⟨even, least, ?_, total⟩, ?_⟩
  · rw [TcpHeader.setChecksum, writeU16_eq fits]
    rfl
  · show h.data.headerLength.toNat ≤ (putU16 h.raw 16 checksum).length
    rwa [length_putU16 fits]
  · refine take_splice_of_le ?_ inside
    show 16 + 2 ≤ h.data.headerLength.toNat
    omega

/-- The second checksum hides the first. -/
theorem withChecksum_withChecksum (declared : h.Declared ipv4 payload) (c c' : UInt16) :
    (h.withChecksum c).withChecksum c' = h.withChecksum c' := by
  obtain ⟨-, least, inside, -⟩ := declared
  rw [withChecksum, withChecksum, withChecksum, putU16_putU16 (by omega)]

/-- Where the walks stop. -/
theorem Declared.stops (declared : h.Declared ipv4 payload) :
    StopsAt h.header h.data.headerLength.toNat ∧ StopsAt payload ((payload.length : ℤ) - 1) := by
  have length := declared.length_header
  have even := declared.even
  refine ⟨⟨?_, ?_⟩, ⟨?_, ?_⟩⟩
  · rw [length]
    omega
  · rw [length]
    omega
  · omega
  · omega

/-- **No `u32` overflows**, and the sum is the one over pseudo header, header and payload.  Every
read and every addition is checked in it, and the bounds come from the lengths that a segment can
have. -/
theorem updateChecksumU32_eq (declared : h.Declared ipv4 payload) :
    h.updateChecksumU32 ipv4 payload =
      .ok (h.withChecksum (UInt16.ofNat (65535 - fold16
        (segmentSum ipv4.source ipv4.destination (h.withChecksum 0).header payload)))) := by
  obtain ⟨reset, declared₀, header₀⟩ := declared.setChecksum 0
  obtain ⟨stopsHeader, stopsPayload⟩ := declared₀.stops
  have length := declared₀.length_header
  obtain ⟨even, least, inside, total⟩ := declared
  set header := (h.withChecksum 0).header
  have whole : (h.withChecksum 0).raw = header ++ (h.withChecksum 0).raw.drop header.length := by
    rw [length]
    exact (List.take_append_drop _ _).symm
  have same : header.length = h.data.headerLength.toNat := length
  -- what the additions come to
  have source := ipv4.source.toNat_lt
  have destination := ipv4.destination.toNat_lt
  have most := ipv4.totalLength.toNat_lt
  have pairsHeader := pairSums_le header
  have pairsPayload := pairSums_le payload
  have addresses : pseudoHeaderSum ipv4.source ipv4.destination (header.length + payload.length) =
      6 + ipv4.source.toNat / 65536 + ipv4.source.toNat % 65536 + ipv4.destination.toNat / 65536 +
        ipv4.destination.toNat % 65536 + (header.length + payload.length) := rfl
  set pseudo := pseudoHeaderSum ipv4.source ipv4.destination (header.length + payload.length)
  have walkHeader : checksumLoop (h.withChecksum 0).raw h.data.headerLength.toNat 0 0 pseudo =
      .ok (0 + (pairSums header).1, pseudo + (pairSums header).2) := by
    rw [whole]
    exact checksumLoop_eq stopsHeader _ rfl (by rw [List.drop_zero]; omega)
      (by rw [List.drop_zero]; omega)
  have walkPayload : checksumLoop payload ((payload.length : ℤ) - 1) 0 (0 + (pairSums header).1)
      (pseudo + (pairSums header).2) =
      .ok (0 + (pairSums header).1 + (pairSums payload).1,
        pseudo + (pairSums header).2 + (pairSums payload).2) := by
    have walk := checksumLoop_eq stopsPayload [] (p := 0) rfl
      (by rw [List.drop_zero]; omega : 0 + (pairSums header).1 + (pairSums (payload.drop 0)).1 < 2 ^ 32)
      (by rw [List.drop_zero]; omega :
        pseudo + (pairSums header).2 + (pairSums (payload.drop 0)).2 < 2 ^ 32)
    rwa [List.append_nil, List.drop_zero] at walk
  have transport : ipv4.totalLength.toNat - ipv4.headerLength.toNat =
      header.length + payload.length := by omega
  have body : header.length + payload.length - h.data.headerLength.toNat = payload.length := by omega
  have finish : (h.withChecksum 0).setChecksum (UInt16.ofNat (65535 - fold16
      (segmentSum ipv4.source ipv4.destination header payload))) =
      .ok (h.withChecksum (UInt16.ofNat (65535 - fold16
        (segmentSum ipv4.source ipv4.destination header payload)))) := by
    rw [(declared₀.setChecksum _).1, withChecksum_withChecksum ⟨even, least, inside, total⟩]
  rw [updateChecksumU32, if_neg (by omega)]
  simp only
  rw [transport, body, addU32_eq (by omega), ok_bind, addU32_eq (by omega), ok_bind,
    addU32_eq (by omega), ok_bind, addU32_eq (by omega), ok_bind, addU32_eq (by omega), ok_bind,
    ← addresses, reset, ok_bind, walkHeader, ok_bind]
  simp only
  rw [walkPayload, ok_bind]
  simp only
  have last := lastByte_le payload
  rw [addLast_eq payload (by omega), ok_bind]
  have shifted : (0 + (pairSums header).1 + (pairSums payload).1 + lastByte payload) * 256 % 2 ^ 32 =
      ((pairSums header).1 + (pairSums payload).1 + lastByte payload) * 256 := by
    rw [Nat.zero_add]
    exact Nat.mod_eq_of_lt (by omega)
  have all : segmentSum ipv4.source ipv4.destination header payload =
      pseudo + (pairSums header).2 + (pairSums payload).2 +
        ((pairSums header).1 + (pairSums payload).1 + lastByte payload) * 256 := rfl
  have small : segmentSum ipv4.source ipv4.destination header payload < 2 ^ 32 := by omega
  rw [shifted, addU32_eq (all ▸ small), ok_bind, ← all, foldU32_eq _ small, ok_bind]
  exact finish

/-- **What the optimised code computes**, in closed form.  It is the version that the packetizers
of the model call, with the sums of the walk and no check of the additions; for the declared
lengths the two are the same. -/
theorem updateChecksum_eq (declared : h.Declared ipv4 payload) :
    h.updateChecksum ipv4 payload =
      .ok (h.withChecksum (UInt16.ofNat (65535 - fold16
        (segmentSum ipv4.source ipv4.destination (h.withChecksum 0).header payload)))) := by
  obtain ⟨reset, declared₀, -⟩ := declared.setChecksum 0
  have inside := declared₀.inside
  have body : ipv4.totalLength.toNat - ipv4.headerLength.toNat - h.data.headerLength.toNat =
      payload.length := by
    have total := declared.total
    omega
  have total := declared.total
  rw [updateChecksum, if_neg (by omega), body, reset, ok_bind, if_neg ?_, List.take_length]
  · exact (declared₀.setChecksum _).1.trans
      (congrArg _ (withChecksum_withChecksum declared 0 _))
  · rw [not_or, not_lt]
    exact ⟨inside, lt_irrefl _⟩

/-- **The optimised checksum is the plain one**, for whatever was in its field, and the segment it
completes sums to `0xffff`.  Plain is the definition of RFC 793, for the declared lengths; an odd
payload is padded with a zero that is not sent. -/
theorem updateChecksum_isPlain (declared : h.Declared ipv4 payload) :
    let result := h.withChecksum (plainChecksum ipv4.source ipv4.destination h.header payload)
    h.updateChecksumU32 ipv4 payload = .ok result ∧ h.updateChecksum ipv4 payload = .ok result ∧
      fold16 (wordSum (checkedBytes ipv4.source ipv4.destination result.header payload)) =
        0xffff := by
  intro result
  obtain ⟨-, declared₀, header₀⟩ := declared.setChecksum 0
  have length := declared.length_header
  have even := declared.even
  have least := declared.least
  have total := declared.total
  have most := ipv4.totalLength.toNat_lt
  have inside : 16 + 2 ≤ h.header.length := by omega
  -- the sum the code takes is the one over the plain bytes
  have plain (checksum : UInt16) :
      wordSum (checkedBytes ipv4.source ipv4.destination (putU16 h.header 16 checksum) payload) =
        pseudoHeaderSum ipv4.source ipv4.destination (h.header.length + payload.length) +
          wordSum (putU16 h.header 16 checksum ++ payload) := by
    have same : (putU16 h.header 16 checksum).length = h.header.length :=
      length_putU16 inside checksum
    rw [wordSum_checkedBytes _ _ (by omega) (by omega), same]
  have sum : segmentSum ipv4.source ipv4.destination (h.withChecksum 0).header payload =
      wordSum (checkedBytes ipv4.source ipv4.destination (putU16 h.header 16 0) payload) := by
    have same : (putU16 h.header 16 0).length = h.header.length := length_putU16 inside 0
    rw [header₀, segmentSum_eq _ _ (by omega), plain, same]
  have written : result = h.withChecksum (UInt16.ofNat (65535 - fold16
      (segmentSum ipv4.source ipv4.destination (h.withChecksum 0).header payload))) := by
    rw [sum]
    rfl
  refine ⟨(updateChecksumU32_eq declared).trans (by rw [written]),
    (updateChecksum_eq declared).trans (by rw [written]), ?_⟩
  -- writing the checksum adds it to the sum
  set checksum := plainChecksum ipv4.source ipv4.destination h.header payload with hchecksum
  have value : checksum.toNat = 65535 - fold16
      (wordSum (checkedBytes ipv4.source ipv4.destination (putU16 h.header 16 0) payload)) := by
    rw [hchecksum, plainChecksum, UInt16.toNat_ofNat', Nat.mod_eq_of_lt (by omega)]
  have header : result.header = putU16 h.header 16 checksum := (declared.setChecksum checksum).2.2
  have added : wordSum (checkedBytes ipv4.source ipv4.destination result.header payload) =
      wordSum (checkedBytes ipv4.source ipv4.destination (putU16 h.header 16 0) payload) +
        checksum.toNat := by
    have evenHeader (c : UInt16) : (putU16 h.header 16 c).length % 2 = 0 := by
      rw [length_putU16 inside]
      omega
    rw [header, plain, plain, wordSum_append (evenHeader _), wordSum_append (evenHeader _),
      wordSum_putU16 inside rfl, wordSum_putU16 inside rfl, UInt16.toNat_zero]
    omega
  rw [added, value]
  exact fold16_add_complement _

/-- A header without options in front of three bytes. -/
def bareHeader : TcpHeader where
  raw := [0x12, 0x34, 0x00, 0x50, 0, 0, 0, 1, 0, 0, 0, 2, 0x50, 0x10, 0, 100, 0xde, 0xad, 0, 0]
  data := {
    sourcePort := 0x1234
    destinationPort := 80
    sequenceNumber := 1
    acknowledgementNumber := 2
    headerLength := 20
    flags := flagAck
    window := 100 }

/-- The IPv4 header of the 43 bytes. -/
def bareIpv4 : Ipv4HeaderData where
  headerLength := 20
  totalLength := 43
  protocol := .tcp
  source := 0x0A000002
  destination := 0x0A000001

/-- Three bytes behind a bare header: the last one is padded, and a receiver finds the sum correct.
-/
theorem updateChecksum_isPlain_bare :
    ∃ result, bareHeader.updateChecksumU32 bareIpv4 [1, 2, 3] = .ok result ∧
      fold16 (wordSum (checkedBytes bareIpv4.source bareIpv4.destination result.header [1, 2, 3])) =
        0xffff := by
  have declared : bareHeader.Declared bareIpv4 [1, 2, 3] :=
    ⟨by decide, by decide, by decide, by decide⟩
  obtain ⟨optimised, -, sum⟩ := updateChecksum_isPlain declared
  exact ⟨_, optimised, sum⟩

end TcpHeader

end ReverseTether
