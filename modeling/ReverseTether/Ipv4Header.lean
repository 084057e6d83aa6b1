import ReverseTether.Binary
import ReverseTether.Library.OnesComplement

/-!
# The IPv4 header

`Ipv4HeaderData` is what the relay keeps of a header beside its bytes, and
`Ipv4Header` the two together; the source has a shared and a mutable binding of
the same pair.  A setter writes the field in both.

`WellFormed` says that the two agree: the data are what `parse` reads off the
bytes, and the header length is the number of bytes.  Every setter keeps it.

The checksum is the sum of the words of the header in ones' complement arithmetic, with the
field itself taken as zero.  `updateChecksum` computes it over the whole header, options
included; a well-formed header then sums to `65535`, which is what a receiver checks.

The lengths in the header are in two units: the header is counted in words of four bytes and
the packet in bytes.  `Ipv4HeaderData.headerLength` is in bytes, as the rest of the relay
takes it; a header shorter than 20 bytes is rejected by the validation in front of the parser,
and not here.
-/

namespace ReverseTether

open Library

/-- `Protocol`: the transport protocols that the relay knows, and one value for all the others. -/
inductive Protocol
  | tcp
  | udp
  | other
  deriving DecidableEq, Repr

/-- `Ipv4HeaderData`: the fields of the IPv4 header that the relay uses. -/
structure Ipv4HeaderData where
  /-- In bytes. -/
  headerLength : UInt8
  totalLength : UInt16
  protocol : Protocol
  source : UInt32
  destination : UInt32
  deriving DecidableEq, Repr

/-- The protocol field: 6 is TCP and 17 is UDP. -/
def Protocol.ofByte (b : UInt8) : Protocol :=
  if b = 6 then .tcp else if b = 17 then .udp else .other

namespace Ipv4HeaderData

/-- The fields at their places in `raw`. -/
def ofRaw (raw : List UInt8) : Ipv4HeaderData where
  headerLength := (getByte raw 0 &&& 0xf) <<< 2
  totalLength := getU16 raw 2
  protocol := .ofByte (getByte raw 9)
  source := getU32 raw 12
  destination := getU32 raw 16

/-- `Ipv4HeaderData::parse`: the fields are read where they are, and the length of the header is
given in words of four bytes. -/
def parse (raw : List UInt8) : Outcome Ipv4HeaderData := do
  let versionAndLength ← readByte raw 0
  let totalLength ← readU16 raw 2
  let protocol ← readByte raw 9
  let source ← readU32 raw 12
  let destination ← readU32 raw 16
  return {
    headerLength := (versionAndLength &&& 0xf) <<< 2
    totalLength
    protocol := .ofByte protocol
    source
    destination }

theorem parse_eq {raw : List UInt8} (long : 20 ≤ raw.length) : parse raw = .ok (ofRaw raw) := by
  rw [parse, readByte_eq (by omega), readU16_eq (by omega), readByte_eq (by omega),
    readU32_eq (by omega), readU32_eq (by omega)]
  rfl

/-- Only the first 20 bytes matter. -/
theorem ofRaw_append {xs : List UInt8} (long : 20 ≤ xs.length) (ys : List UInt8) :
    ofRaw (xs ++ ys) = ofRaw xs := by
  rw [ofRaw, ofRaw, getByte_append_left (by omega), getByte_append_left (by omega),
    getU16_append_left (by omega), getU32_append_left (by omega), getU32_append_left (by omega)]

theorem toNat_headerLength (raw : List UInt8) :
    (ofRaw raw).headerLength.toNat = (getByte raw 0 &&& 15).toNat * 4 := by
  have nibble : (getByte raw 0 &&& 15).toNat ≤ 15 := by
    rw [UInt8.toNat_and]
    exact Nat.and_le_right
  have shift : (ofRaw raw).headerLength = (getByte raw 0 &&& 15) <<< 2 := rfl
  rw [shift, UInt8.toNat_shiftLeft]
  generalize (getByte raw 0 &&& 15).toNat = words at nibble ⊢
  simp only [UInt8.reduceToNat, Nat.reduceMod, Nat.shiftLeft_eq, Nat.reducePow]
  omega

end Ipv4HeaderData

/-! ### Words of a byte string -/

/-- Words added up one by one. -/
theorem wordSum_eq_sum {raw : List UInt8} (even : raw.length % 2 = 0) :
    wordSum raw = ((List.range (raw.length / 2)).map fun i => (getU16 raw (2 * i)).toNat).sum := by
  induction raw using wordSum.induct with
  | case1 => rfl
  | case2 a => simp at even
  | case3 a b rest ih =>
      have evenRest : rest.length % 2 = 0 := by
        simp only [List.length_cons] at even
        omega
      have half : (a :: b :: rest).length / 2 = rest.length / 2 + 1 := by
        simp only [List.length_cons]
        omega
      have front : (getU16 (a :: b :: rest) (2 * 0)).toNat = a.toNat * 256 + b.toNat := by
        rw [toNat_getU16]
        rfl
      rw [wordSum, ih evenRest, half, List.range_succ_eq_map, List.map_cons, List.sum_cons, front,
        List.map_map]
      rfl

/-- A field at an even place contributes its value. -/
theorem wordSum_putU16 {raw : List UInt8} {i : ℕ} (fits : i + 2 ≤ raw.length) (even : i % 2 = 0)
    (v : UInt16) :
    wordSum (putU16 raw i v) = wordSum (raw.take i) + v.toNat + wordSum (raw.drop (i + 2)) := by
  have length : (raw.take i).length = i := by
    rw [List.length_take]
    omega
  have field : wordSum (u16Bytes v) = v.toNat := by
    have := v.toNat_lt
    simp only [u16Bytes, wordSum, UInt8.toNat_ofNat']
    omega
  rw [putU16, splice, List.append_assoc, wordSum_append (by rw [length]; exact even),
    wordSum_append (by simp), length_u16Bytes, field]
  omega

/-- All words are the words without the checksum, and the checksum. -/
theorem sum_range_eq {j : ℕ} (long : 6 ≤ j) (word : ℕ → ℕ) :
    ((List.range j).map word).sum =
      ((List.range 5 ++ List.range' 6 (j - 6)).map word).sum + word 5 := by
  have whole : List.range j = List.range 5 ++ 5 :: List.range' 6 (j - 6) := by
    have front : (5 :: List.range' 6 (j - 6)) = List.range' 5 (j - 6 + 1) := rfl
    have five : List.range 5 = List.range' 0 5 := List.range_eq_range'
    rw [front, five, List.range_eq_range', show j = 5 + (j - 6 + 1) by omega,
      ← List.range'_append_1]
    congr 2
    omega
  rw [whole, List.map_append, List.map_append, List.map_cons, List.sum_append, List.sum_append,
    List.sum_cons]
  omega

/-- A loop whose every step returns. -/
theorem mapM_eq_ok {α β : Type} {f : α → Outcome β} {g : α → β} {l : List α}
    (returns : ∀ a ∈ l, f a = .ok (g a)) : l.mapM f = .ok (l.map g) := by
  induction l with
  | nil => rfl
  | cons a l ih =>
      rw [List.mapM_cons, returns a List.mem_cons_self,
        ih fun b member => returns b (List.mem_cons_of_mem a member)]
      rfl

/-- `Ipv4HeaderMut`: header bytes with the data read from them, which every setter changes
together. -/
structure Ipv4Header where
  raw : List UInt8
  data : Ipv4HeaderData
  deriving DecidableEq, Repr

namespace Ipv4Header

/-- `set_total_length`: the field is written to the bytes and to the data that were read from them.
-/
def setTotalLength (h : Ipv4Header) (totalLength : UInt16) : Outcome Ipv4Header := do
  let raw ← writeU16 h.raw 2 totalLength
  return { raw, data := { h.data with totalLength } }

/-- `swap_source_and_destination`: the addresses change places in the bytes and in the data. -/
def swapSourceAndDestination (h : Ipv4Header) : Outcome Ipv4Header := do
  let raw ← swapRanges h.raw 12 4
  return { raw, data := { h.data with source := h.data.destination, destination := h.data.source } }

/-- `set_checksum`: the field is only in the bytes, since the relay never reads it. -/
def setChecksum (h : Ipv4Header) (checksum : UInt16) : Outcome Ipv4Header := do
  let raw ← writeU16 h.raw 10 checksum
  return { h with raw }

/-- Adds up the 16-bit words of the header, leaving out the checksum field. -/
def updateChecksum (h : Ipv4Header) : Outcome Ipv4Header := do
  let j := h.data.headerLength.toNat / 2
  -- skip checksum field at 10..12
  let words ← (List.range 5 ++ List.range' 6 (j - 6)).mapM fun i => readU16 h.raw (2 * i)
  let sum := (words.map UInt16.toNat).sum
  h.setChecksum (UInt16.ofNat (65535 - fold16 sum))

/-- The data are those of the bytes, and the bytes are a whole header. -/
structure WellFormed (h : Ipv4Header) : Prop where
  long : 20 ≤ h.raw.length
  length_raw : h.raw.length = h.data.headerLength.toNat
  mirrors : h.data = .ofRaw h.raw

/-- `h'` has the bytes of `h` outside total length, checksum and addresses.  These are the fields
that the relay rewrites, and everything else is the reference header. -/
def Keeps (h h' : Ipv4Header) : Prop :=
  h'.raw.length = h.raw.length ∧
    ∀ k, k < 2 ∨ 4 ≤ k ∧ k < 10 ∨ 20 ≤ k → getByte h'.raw k = getByte h.raw k

theorem Keeps.trans {h₁ h₂ h₃ : Ipv4Header} (first : h₁.Keeps h₂) (second : h₂.Keeps h₃) :
    h₁.Keeps h₃ :=
  ⟨second.1.trans first.1, fun k hk => (second.2 k hk).trans (first.2 k hk)⟩

/-- Bytes written between `i` and `i + xs.length`, where a setter may write. -/
theorem keeps_splice {h : Ipv4Header} {i : ℕ} {xs : List UInt8} {data : Ipv4HeaderData}
    (fits : i + xs.length ≤ h.raw.length)
    (place : 2 ≤ i ∧ i + xs.length ≤ 4 ∨ 10 ≤ i ∧ i + xs.length ≤ 20) :
    h.Keeps ⟨splice h.raw i xs, data⟩ :=
  ⟨length_splice fits, fun _ _ => getByte_splice_of_disjoint fits (by omega)⟩

namespace WellFormed

variable {h : Ipv4Header}

theorem splice {i : ℕ} {xs : List UInt8} {data : Ipv4HeaderData} (wf : h.WellFormed)
    (fits : i + xs.length ≤ h.raw.length) (mirrors : data = .ofRaw (splice h.raw i xs))
    (same : data.headerLength = h.data.headerLength) :
    WellFormed ⟨Library.splice h.raw i xs, data⟩ where
  long := (length_splice fits).symm ▸ wf.long
  length_raw := by rw [length_splice fits, wf.length_raw, same]
  mirrors := mirrors

theorem setTotalLength (wf : h.WellFormed) (totalLength : UInt16) :
    ∃ h', h.setTotalLength totalLength = .ok h' ∧ h'.WellFormed ∧ h.Keeps h' ∧
      h'.data = { h.data with totalLength } := by
  have long := wf.long
  have fits : 2 + (u16Bytes totalLength).length ≤ h.raw.length := by
    rw [length_u16Bytes]
    omega
  refine ⟨⟨putU16 h.raw 2 totalLength, { h.data with totalLength }⟩, ?_, wf.splice fits ?_ rfl,
    keeps_splice fits (by simp), rfl⟩
  · rw [Ipv4Header.setTotalLength, writeU16_eq (by omega)]
    rfl
  · have written : getU16 (Library.splice h.raw 2 (u16Bytes totalLength)) 2 = totalLength :=
      getU16_putU16 (by omega) _
    rw [wf.mirrors, Ipv4HeaderData.ofRaw, Ipv4HeaderData.ofRaw, written,
      getByte_splice_of_disjoint fits (by omega), getByte_splice_of_disjoint fits (by simp),
      getU32_splice_of_disjoint fits (by simp), getU32_splice_of_disjoint fits (by simp)]

theorem swapSourceAndDestination (wf : h.WellFormed) :
    ∃ h', h.swapSourceAndDestination = .ok h' ∧ h'.WellFormed ∧ h.Keeps h' ∧
      h'.data =
        { h.data with source := h.data.destination, destination := h.data.source } := by
  have long := wf.long
  obtain ⟨raw, eq, length, apart, low, high⟩ :=
    swapRanges_ok (show 12 + 2 * 4 ≤ h.raw.length by omega)
  refine ⟨⟨raw, { h.data with source := h.data.destination, destination := h.data.source }⟩,
    ?_, ⟨?_, ?_, ?_⟩, ⟨length, fun k hk => apart k (by omega)⟩, rfl⟩
  · rw [Ipv4Header.swapSourceAndDestination, eq]
    rfl
  · exact length ▸ long
  · exact length.trans wf.length_raw
  · have source : getU32 raw 12 = getU32 h.raw 16 := by
      rw [getU32, getU32, getU16, getU16, getU16, getU16]
      rw [low 0 (by omega), low 1 (by omega), low 2 (by omega), low 3 (by omega)]
    have destination : getU32 raw 16 = getU32 h.raw 12 := by
      rw [getU32, getU32, getU16, getU16, getU16, getU16]
      rw [high 0 (by omega), high 1 (by omega), high 2 (by omega), high 3 (by omega)]
    rw [wf.mirrors, Ipv4HeaderData.ofRaw, Ipv4HeaderData.ofRaw, source, destination, getU16,
      getU16, apart 0 (by omega), apart 2 (by omega), apart 3 (by omega), apart 9 (by omega)]

theorem setChecksum (wf : h.WellFormed) (checksum : UInt16) :
    ∃ h', h.setChecksum checksum = .ok h' ∧ h'.WellFormed ∧ h.Keeps h' ∧ h'.data = h.data ∧
      h'.raw = putU16 h.raw 10 checksum := by
  have long := wf.long
  have fits : 10 + (u16Bytes checksum).length ≤ h.raw.length := by
    rw [length_u16Bytes]
    omega
  refine ⟨⟨putU16 h.raw 10 checksum, h.data⟩, ?_, wf.splice fits ?_ rfl,
    keeps_splice fits (by simp), rfl, rfl⟩
  · rw [Ipv4Header.setChecksum, writeU16_eq (by omega)]
    rfl
  · rw [wf.mirrors, Ipv4HeaderData.ofRaw, Ipv4HeaderData.ofRaw,
      getByte_splice_of_disjoint fits (by omega), getU16_splice_of_disjoint fits (by omega),
      getByte_splice_of_disjoint fits (by omega), getU32_splice_of_disjoint fits (by simp),
      getU32_splice_of_disjoint fits (by simp)]

/-- **The header sums to `65535` once its checksum is updated.**  This is the check that a receiver
makes.  The length, the addresses and the other fields are kept. -/
theorem updateChecksum (wf : h.WellFormed) :
    ∃ h', h.updateChecksum = .ok h' ∧ h'.WellFormed ∧ h.Keeps h' ∧ h'.data = h.data ∧
      fold16 (wordSum h'.raw) = 65535 := by
  have long := wf.long
  have length : h.raw.length = 2 * (h.data.headerLength.toNat / 2) := by
    rw [wf.length_raw, wf.mirrors, Ipv4HeaderData.toNat_headerLength]
    omega
  set j := h.data.headerLength.toNat / 2 with hj
  set others := List.range 5 ++ List.range' 6 (j - 6) with hothers
  have words : others.mapM (fun i => readU16 h.raw (2 * i)) =
      .ok (others.map fun i => getU16 h.raw (2 * i)) := by
    apply mapM_eq_ok
    intro i member
    rw [hothers, List.mem_append, List.mem_range, List.mem_range'_1] at member
    exact readU16_eq (by omega)
  set rest := ((others.map fun i => getU16 h.raw (2 * i)).map UInt16.toNat).sum with hrest
  obtain ⟨h', eq, wf', keeps, data, raw⟩ :=
    wf.setChecksum (UInt16.ofNat (65535 - fold16 rest))
  refine ⟨h', ?_, wf', keeps, data, ?_⟩
  · rw [Ipv4Header.updateChecksum, ← hj, ← hothers, words]
    exact eq
  · have fits : 10 + (u16Bytes (UInt16.ofNat (65535 - fold16 rest))).length ≤ h.raw.length := by
      rw [length_u16Bytes]
      omega
    have same : others.map (fun i => (getU16 h'.raw (2 * i)).toNat) =
        (others.map fun i => getU16 h.raw (2 * i)).map UInt16.toNat := by
      rw [List.map_map]
      apply List.map_congr_left
      intro i member
      rw [hothers, List.mem_append, List.mem_range, List.mem_range'_1] at member
      rw [raw, putU16, getU16_splice_of_disjoint fits (by rw [length_u16Bytes]; omega)]
      rfl
    have field : (getU16 h'.raw (2 * 5)).toNat = 65535 - fold16 rest := by
      have := fold16_lt rest
      rw [raw, getU16_putU16 (by omega), UInt16.toNat_ofNat', Nat.mod_eq_of_lt (by omega)]
    rw [wordSum_eq_sum (by rw [keeps.1, length]; omega), keeps.1, length,
      Nat.mul_div_cancel_left j (by omega), sum_range_eq (by omega), ← hothers, same, field,
      ← hrest]
    exact fold16_add_complement rest

end WellFormed

end Ipv4Header

end ReverseTether
