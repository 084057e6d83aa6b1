import ReverseTether.Library.Slices
import ReverseTether.Outcome

/-!
# Big-endian access to bytes

`readByte`, `readU16` and `readU32` are the indexed reads of the source: they
panic outside the slice.  `getByte`, `getU16` and `getU32` are the values they
return, total so that a lemma about them needs no bound; `readU16_eq` connects
the two.  In the same way `writeU16` and `writeU32` are `BigEndian::write_u16` and
`write_u32` on a slice, and `putU16` and `putU32` the bytes they leave behind.

The lemmas are about a field that was written and about the fields beside it: reading back
gives the value, and a field that does not overlap is as it was.  With them a packet that is
built by a series of writes is read field by field, without its bytes being written out.

Slices, prefixes and suffixes of a packet have their own lemmas, since a header that is a
slice of a packet is read at shifted positions.  `swapRanges` is the exchange of two adjacent
fields, the addresses or the ports, which the source does byte by byte.
-/

namespace ReverseTether

open Library

/-- The byte at position `i`. -/
def getByte (raw : List UInt8) (i : ℕ) : UInt8 := raw.getD i 0

/-- The big-endian 16-bit number at position `i`. -/
def getU16 (raw : List UInt8) (i : ℕ) : UInt16 :=
  UInt16.ofNat ((getByte raw i).toNat * 256 + (getByte raw (i + 1)).toNat)

/-- The big-endian 32-bit number at position `i`. -/
def getU32 (raw : List UInt8) (i : ℕ) : UInt32 :=
  UInt32.ofNat ((getU16 raw i).toNat * 65536 + (getU16 raw (i + 2)).toNat)

/-- `raw[i]`: an index behind the end panics. -/
def readByte (raw : List UInt8) (i : ℕ) : Outcome UInt8 :=
  if i < raw.length then .ok (getByte raw i) else .error .outOfBounds

/-- `BigEndian::read_u16(&raw[i..i + 2])`: the slice is taken first, and panics behind the end. -/
def readU16 (raw : List UInt8) (i : ℕ) : Outcome UInt16 :=
  if i + 2 ≤ raw.length then .ok (getU16 raw i) else .error .outOfBounds

/-- `BigEndian::read_u32(&raw[i..i + 4])`: the slice is taken first, and panics behind the end. -/
def readU32 (raw : List UInt8) (i : ℕ) : Outcome UInt32 :=
  if i + 4 ≤ raw.length then .ok (getU32 raw i) else .error .outOfBounds

/-- `&raw[i..j]`. -/
def readSlice (raw : List UInt8) (i j : ℕ) : Outcome (List UInt8) :=
  if i ≤ j ∧ j ≤ raw.length then .ok (slice raw i j) else .error .outOfBounds

/-- The two bytes of a 16-bit number, high byte first. -/
def u16Bytes (v : UInt16) : List UInt8 := [UInt8.ofNat (v.toNat / 256), UInt8.ofNat v.toNat]

/-- The four bytes of a 32-bit number, high byte first. -/
def u32Bytes (v : UInt32) : List UInt8 :=
  u16Bytes (UInt16.ofNat (v.toNat / 65536)) ++ u16Bytes (UInt16.ofNat v.toNat)

/-- The 16-bit number `v` at position `i`, high byte first, in place of the two bytes there. -/
def putU16 (raw : List UInt8) (i : ℕ) (v : UInt16) : List UInt8 := splice raw i (u16Bytes v)

/-- The 32-bit number `v` at position `i`, high byte first, in place of the four bytes there. -/
def putU32 (raw : List UInt8) (i : ℕ) (v : UInt32) : List UInt8 := splice raw i (u32Bytes v)

/-- `BigEndian::write_u16(&mut raw[i..i + 2], v)`. -/
def writeU16 (raw : List UInt8) (i : ℕ) (v : UInt16) : Outcome (List UInt8) :=
  if i + 2 ≤ raw.length then .ok (putU16 raw i v) else .error .outOfBounds

/-- `BigEndian::write_u32(&mut raw[i..i + 4], v)`. -/
def writeU32 (raw : List UInt8) (i : ℕ) (v : UInt32) : Outcome (List UInt8) :=
  if i + 4 ≤ raw.length then .ok (putU32 raw i v) else .error .outOfBounds

/-- `for k in i..i + n { raw.swap(k, k + n) }`. -/
def swapRanges (raw : List UInt8) (i n : ℕ) : Outcome (List UInt8) :=
  if i + 2 * n ≤ raw.length then
    .ok (splice (splice raw i (slice raw (i + n) (i + 2 * n))) (i + n) (slice raw i (i + n)))
  else .error .outOfBounds

@[simp] theorem length_u16Bytes (v : UInt16) : (u16Bytes v).length = 2 := rfl

@[simp] theorem length_u32Bytes (v : UInt32) : (u32Bytes v).length = 4 := rfl

theorem getByte_splice {buf xs : List UInt8} {i : ℕ} (fits : i + xs.length ≤ buf.length)
    (k : ℕ) :
    getByte (splice buf i xs) k =
      if k < i then getByte buf k
      else if k < i + xs.length then getByte xs (k - i) else getByte buf k := by
  simp only [getByte, List.getD_eq_getElem?_getD, getElem?_splice fits]
  split
  · rfl
  · split <;> rfl

theorem getByte_take {raw : List UInt8} {n k : ℕ} (inside : k < n) :
    getByte (raw.take n) k = getByte raw k := by
  simp only [getByte, List.getD_eq_getElem?_getD, List.getElem?_take_of_lt inside]

theorem getByte_drop (raw : List UInt8) (n k : ℕ) :
    getByte (raw.drop n) k = getByte raw (n + k) := by
  simp only [getByte, List.getD_eq_getElem?_getD, List.getElem?_drop]

theorem getByte_append_left {xs ys : List UInt8} {k : ℕ} (inside : k < xs.length) :
    getByte (xs ++ ys) k = getByte xs k := by
  simp only [getByte, List.getD_eq_getElem?_getD, List.getElem?_append_left inside]

theorem toNat_getU16 (raw : List UInt8) (i : ℕ) :
    (getU16 raw i).toNat = (getByte raw i).toNat * 256 + (getByte raw (i + 1)).toNat := by
  have h₁ := (getByte raw i).toNat_lt
  have h₂ := (getByte raw (i + 1)).toNat_lt
  rw [getU16, UInt16.toNat_ofNat', Nat.mod_eq_of_lt (by omega)]

theorem toNat_getU32 (raw : List UInt8) (i : ℕ) :
    (getU32 raw i).toNat = (getU16 raw i).toNat * 65536 + (getU16 raw (i + 2)).toNat := by
  have h₁ := (getU16 raw i).toNat_lt
  have h₂ := (getU16 raw (i + 2)).toNat_lt
  rw [getU32, UInt32.toNat_ofNat', Nat.mod_eq_of_lt (by omega)]

/-- Reading a 16-bit number back from its bytes. -/
@[simp] theorem getU16_u16Bytes (v : UInt16) : getU16 (u16Bytes v) 0 = v := by
  have h := v.toNat_lt
  apply UInt16.toNat_inj.mp
  rw [toNat_getU16]
  simp only [getByte, u16Bytes, List.getD_cons_zero, List.getD_cons_succ, UInt8.toNat_ofNat']
  omega

theorem getU16_append_left {xs ys : List UInt8} {i : ℕ} (inside : i + 2 ≤ xs.length) :
    getU16 (xs ++ ys) i = getU16 xs i := by
  rw [getU16, getU16, getByte_append_left (by omega), getByte_append_left (by omega)]

theorem getU32_append_left {xs ys : List UInt8} {i : ℕ} (inside : i + 4 ≤ xs.length) :
    getU32 (xs ++ ys) i = getU32 xs i := by
  rw [getU32, getU32, getU16_append_left (by omega), getU16_append_left (by omega)]

theorem getU16_take {raw : List UInt8} {n i : ℕ} (inside : i + 2 ≤ n) :
    getU16 (raw.take n) i = getU16 raw i := by
  rw [getU16, getU16, getByte_take (by omega), getByte_take (by omega)]

theorem getU16_drop (raw : List UInt8) (n i : ℕ) :
    getU16 (raw.drop n) i = getU16 raw (n + i) := by
  rw [getU16, getU16, getByte_drop, getByte_drop, Nat.add_assoc]

/-- Reading a 32-bit number back from its bytes. -/
@[simp] theorem getU32_u32Bytes (v : UInt32) : getU32 (u32Bytes v) 0 = v := by
  have h := v.toNat_lt
  have low : getU16 (u32Bytes v) 2 = UInt16.ofNat v.toNat := by
    have := getU16_drop (u32Bytes v) 2 0
    rw [Nat.add_zero] at this
    rw [← this]
    exact getU16_u16Bytes _
  apply UInt32.toNat_inj.mp
  rw [toNat_getU32, Nat.zero_add, low, u32Bytes, getU16_append_left (by simp), getU16_u16Bytes,
    UInt16.toNat_ofNat', UInt16.toNat_ofNat']
  omega

theorem getByte_slice {raw : List UInt8} {i j k : ℕ} (inside : i + k < j) :
    getByte (slice raw i j) k = getByte raw (i + k) := by
  simp only [getByte, List.getD_eq_getElem?_getD, getElem?_slice, if_pos inside]

theorem getU16_slice {raw : List UInt8} {i j k : ℕ} (inside : i + k + 2 ≤ j) :
    getU16 (slice raw i j) k = getU16 raw (i + k) := by
  rw [getU16, getU16, getByte_slice (by omega), getByte_slice (by omega), Nat.add_assoc]

/-! ### A field that was written, and the fields beside it -/

theorem getByte_splice_of_disjoint {raw xs : List UInt8} {i k : ℕ}
    (fits : i + xs.length ≤ raw.length) (apart : k < i ∨ i + xs.length ≤ k) :
    getByte (splice raw i xs) k = getByte raw k := by
  rw [getByte_splice fits]
  split
  · rfl
  · rw [if_neg (by omega)]

theorem getU16_splice_of_disjoint {raw xs : List UInt8} {i k : ℕ}
    (fits : i + xs.length ≤ raw.length) (apart : k + 2 ≤ i ∨ i + xs.length ≤ k) :
    getU16 (splice raw i xs) k = getU16 raw k := by
  rw [getU16, getU16, getByte_splice_of_disjoint fits (by omega),
    getByte_splice_of_disjoint fits (by omega)]

theorem getU32_splice_of_disjoint {raw xs : List UInt8} {i k : ℕ}
    (fits : i + xs.length ≤ raw.length) (apart : k + 4 ≤ i ∨ i + xs.length ≤ k) :
    getU32 (splice raw i xs) k = getU32 raw k := by
  rw [getU32, getU32, getU16_splice_of_disjoint fits (by omega),
    getU16_splice_of_disjoint fits (by omega)]

theorem getByte_splice_of_inside {raw xs : List UInt8} {i k : ℕ}
    (fits : i + xs.length ≤ raw.length) (inside : k < xs.length) :
    getByte (splice raw i xs) (i + k) = getByte xs k := by
  rw [getByte_splice fits, if_neg (by omega), if_pos (by omega), Nat.add_sub_cancel_left]

theorem getU16_splice_of_inside {raw xs : List UInt8} {i k : ℕ}
    (fits : i + xs.length ≤ raw.length) (inside : k + 2 ≤ xs.length) :
    getU16 (splice raw i xs) (i + k) = getU16 xs k := by
  rw [getU16, getU16, Nat.add_assoc, getByte_splice_of_inside fits (by omega),
    getByte_splice_of_inside fits (by omega)]

theorem getU32_splice_of_inside {raw xs : List UInt8} {i k : ℕ}
    (fits : i + xs.length ≤ raw.length) (inside : k + 4 ≤ xs.length) :
    getU32 (splice raw i xs) (i + k) = getU32 xs k := by
  rw [getU32, getU32, Nat.add_assoc, getU16_splice_of_inside fits (by omega),
    getU16_splice_of_inside fits (by omega)]

theorem getU16_putU16 {raw : List UInt8} {i : ℕ} (fits : i + 2 ≤ raw.length) (v : UInt16) :
    getU16 (putU16 raw i v) i = v := by
  have written : getU16 (splice raw i (u16Bytes v)) (i + 0) = getU16 (u16Bytes v) 0 :=
    getU16_splice_of_inside (by simpa using fits) le_rfl
  rwa [Nat.add_zero, getU16_u16Bytes] at written

theorem getU32_putU32 {raw : List UInt8} {i : ℕ} (fits : i + 4 ≤ raw.length) (v : UInt32) :
    getU32 (putU32 raw i v) i = v := by
  have written : getU32 (splice raw i (u32Bytes v)) (i + 0) = getU32 (u32Bytes v) 0 :=
    getU32_splice_of_inside (by simpa using fits) le_rfl
  rwa [Nat.add_zero, getU32_u32Bytes] at written

theorem u16Bytes_getU16 (raw : List UInt8) (i : ℕ) :
    u16Bytes (getU16 raw i) = [getByte raw i, getByte raw (i + 1)] := by
  have low := (getByte raw (i + 1)).toNat_lt
  rw [u16Bytes, toNat_getU16, List.cons.injEq, List.cons.injEq]
  refine ⟨?_, ?_, rfl⟩
  · apply UInt8.toNat_inj.mp
    rw [UInt8.toNat_ofNat']
    have high := (getByte raw i).toNat_lt
    omega
  · apply UInt8.toNat_inj.mp
    rw [UInt8.toNat_ofNat']
    omega

/-- Writing a field back changes nothing. -/
theorem putU16_getU16 {raw : List UInt8} {i : ℕ} (fits : i + 2 ≤ raw.length) :
    putU16 raw i (getU16 raw i) = raw := by
  apply List.ext_getElem?
  intro k
  rw [putU16, getElem?_splice (by simpa using fits), u16Bytes_getU16]
  split
  · rfl
  · split
    · rename_i after before
      have inside : k < raw.length := by
        simp only [List.length_cons, List.length_nil] at before
        omega
      have cases : k = i ∨ k = i + 1 := by
        simp only [List.length_cons, List.length_nil] at before
        omega
      rcases cases with rfl | rfl
      · simp [getByte, inside]
      · simp [getByte, inside]
    · rfl

theorem length_putU16 {raw : List UInt8} {i : ℕ} (fits : i + 2 ≤ raw.length) (v : UInt16) :
    (putU16 raw i v).length = raw.length := length_splice fits

/-- The two ranges have changed places and nothing else has moved. -/
theorem swapRanges_ok {raw : List UInt8} {i n : ℕ} (fits : i + 2 * n ≤ raw.length) :
    ∃ raw', swapRanges raw i n = .ok raw' ∧ raw'.length = raw.length ∧
      (∀ k, k < i ∨ i + 2 * n ≤ k → getByte raw' k = getByte raw k) ∧
      (∀ k, k < n → getByte raw' (i + k) = getByte raw (i + n + k)) ∧
      (∀ k, k < n → getByte raw' (i + n + k) = getByte raw (i + k)) := by
  have first : i + (slice raw (i + n) (i + 2 * n)).length ≤ raw.length := by
    rw [length_slice]
    omega
  have between := length_splice first
  have second : i + n + (slice raw i (i + n)).length ≤
      (splice raw i (slice raw (i + n) (i + 2 * n))).length := by
    rw [between, length_slice]
    omega
  refine ⟨_, if_pos fits, ?_, ?_, ?_, ?_⟩
  · rw [length_splice second, between]
  · intro k out
    rw [getByte_splice_of_disjoint second (by rw [length_slice]; omega),
      getByte_splice_of_disjoint first (by rw [length_slice]; omega)]
  · intro k inside
    rw [getByte_splice_of_disjoint second (by omega),
      getByte_splice_of_inside first (by rw [length_slice]; omega), getByte_slice (by omega)]
  · intro k inside
    rw [getByte_splice_of_inside second (by rw [length_slice]; omega), getByte_slice (by omega)]

/-! ### The checked accesses inside their bounds -/

theorem readByte_eq {raw : List UInt8} {i : ℕ} (inside : i < raw.length) :
    readByte raw i = .ok (getByte raw i) := if_pos inside

theorem readU16_eq {raw : List UInt8} {i : ℕ} (inside : i + 2 ≤ raw.length) :
    readU16 raw i = .ok (getU16 raw i) := if_pos inside

theorem readU32_eq {raw : List UInt8} {i : ℕ} (inside : i + 4 ≤ raw.length) :
    readU32 raw i = .ok (getU32 raw i) := if_pos inside

theorem readSlice_eq {raw : List UInt8} {i j : ℕ} (order : i ≤ j) (inside : j ≤ raw.length) :
    readSlice raw i j = .ok (slice raw i j) := if_pos ⟨order, inside⟩

theorem readSlice_eq_ok {raw xs : List UInt8} {i j : ℕ} (h : readSlice raw i j = .ok xs) :
    i ≤ j ∧ j ≤ raw.length ∧ xs = slice raw i j := by
  unfold readSlice at h
  split at h
  · rename_i inside
    cases h
    exact ⟨inside.1, inside.2, rfl⟩
  · cases h

theorem writeU16_eq {raw : List UInt8} {i : ℕ} (inside : i + 2 ≤ raw.length) (v : UInt16) :
    writeU16 raw i v = .ok (putU16 raw i v) := if_pos inside

theorem writeU32_eq {raw : List UInt8} {i : ℕ} (inside : i + 4 ≤ raw.length) (v : UInt32) :
    writeU32 raw i v = .ok (putU32 raw i v) := if_pos inside

end ReverseTether
