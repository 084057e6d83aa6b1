import ReverseTether.Binary
import ReverseTether.StreamBuffer

/-!
# `DatagramBuffer`: the circular queue of datagrams

Every datagram is stored as one block, a 16-bit length followed by its bytes.
A block starts below `circularBufferLength` and may reach into the extra space
behind it; a position that has reached `circularBufferLength` goes back to `0`.
Equal positions mean empty.

The file also defines the layout of blocks in `buf` (`Blocks`) and proves that
`readFrom` lays one more block behind `head` and `writeTo` reads the block at
`tail` off.  Both are stated for the positions the code really uses, extra space
included.

One more block is always accepted when the writer is not behind the reader, wherever it is:
that is what the extra space is for.  It is also where the ring can lose everything, when the
block ends exactly where the position is reset and the reader stands at the beginning;
`readFrom` is translated as it is, with this case in it.

`Blocks` leaves open whether the blocks fit into the ring.  It says where each block begins
and ends, going around at most once, so that the reader's position and the writer's are
connected by a path of blocks.
-/

namespace ReverseTether

open Library

/-- `1 << 16`. -/
def maxDatagramLength : ℕ := 65536

namespace DatagramBuffer

/-- `HEADER_LENGTH`: the length of a datagram is stored in front of it, in two bytes. -/
def headerLength : ℕ := 2

/-- `MAX_BLOCK_LENGTH`: the longest datagram behind its header, which always fits behind `head`. -/
def maxBlockLength : ℕ := headerLength + maxDatagramLength

end DatagramBuffer

/-- Circular buffer to store datagrams (preserving their boundaries).  Behind the capacity it has
room for one more block, so that a block that begins inside never has to be split. -/
structure DatagramBuffer (capacity : ℕ) where
  buf : List UInt8
  head : ℕ
  tail : ℕ
  length_buf : buf.length = capacity + DatagramBuffer.maxBlockLength

namespace DatagramBuffer

variable {capacity : ℕ}

/-- `circular_buffer_length`: one byte more than the capacity, where `head` goes back to the
beginning. -/
def circularBufferLength (_ : DatagramBuffer capacity) : ℕ := capacity + 1

/-- `DatagramBuffer::new`: the space behind the ring is for a block that begins in it and ends
outside. -/
def new (capacity : ℕ) : DatagramBuffer capacity where
  buf := List.replicate (capacity + maxBlockLength) 0
  head := 0
  tail := 0
  length_buf := List.length_replicate

/-- `is_empty`: nothing is between the position of the reader and that of the writer. -/
def isEmpty (b : DatagramBuffer capacity) : Bool := b.head = b.tail

/-- `has_enough_space_for`: unless the reader is in front of the writer, the extra space takes any
block; then the block has to end before the reader, with one byte left. -/
def hasEnoughSpaceFor (b : DatagramBuffer capacity) (datagramLength : ℕ) : Bool :=
  if b.tail ≤ b.head then
    -- there is at least the extra space for storing 1 packet
    true
  else
    -- 1 extra byte to distinguish empty vs full
    headerLength + datagramLength ≤ b.tail - b.head - 1

/-- The length in the block header at `tail`; `tail` moves past the header. -/
def readLength (b : DatagramBuffer capacity) : Outcome (UInt16 × DatagramBuffer capacity) := do
  let length ← readU16 b.buf b.tail
  return (length, { b with tail := b.tail + 2 })

/-- Write a block header at `head`; `head` moves past it. -/
def writeLength (b : DatagramBuffer capacity) (length : UInt16) :
    Outcome (DatagramBuffer capacity) :=
  if fits : b.head + 2 ≤ b.buf.length then
    .ok
      { b with
        buf := putU16 b.buf b.head length
        head := b.head + 2
        length_buf := by rw [putU16, length_splice (by simpa using fits), b.length_buf] }
  else .error .outOfBounds

/-- Send the datagram at `tail`.  The datagram is dropped from the buffer before
the destination is asked, which takes `w` of its bytes or fails.  The middle
component is the slice the destination is offered. -/
def writeTo (b : DatagramBuffer capacity) (w : IoResult ℕ) :
    Outcome (IoResult Unit × List UInt8 × DatagramBuffer capacity) :=
  if b.isEmpty then .error .datagramBufferEmpty
  else do
    let (length, b₁) ← b.readLength
    let source ← readSlice b₁.buf b₁.tail (b₁.tail + length.toNat)
    let tail := b₁.tail + length.toNat
    let b₂ := { b₁ with tail := if b.circularBufferLength ≤ tail then 0 else tail }
    match w with
    | .error err => return (.error err, source, b₂)
    | .ok n =>
        if min n length.toNat ≠ length.toNat then
          -- cannot write the whole datagram
          return (.error .other, source, b₂)
        else return (.ok (), source, b₂)

/-- Store one datagram, or report that the buffer is full. -/
def readFrom (b : DatagramBuffer capacity) (source : List UInt8) :
    Outcome (IoResult Unit × DatagramBuffer capacity) :=
  if maxDatagramLength < source.length then .error .datagramTooLong
  else if ¬ b.hasEnoughSpaceFor source.length then .ok (.error .other, b)
  else do
    let b₁ ← b.writeLength (UInt16.ofNat source.length)
    if fits : b₁.head + source.length ≤ b₁.buf.length then
      let head := b₁.head + source.length
      return (.ok (),
        { b₁ with
          buf := splice b₁.buf b₁.head source
          head := if b.circularBufferLength ≤ head then 0 else head
          length_buf := by rw [length_splice fits, b₁.length_buf] })
    else .error .outOfBounds

/-! ## Blocks laid out in the buffer -/

/-- `Blocks limit buf i ds j`: the datagrams `ds` are stored as consecutive
blocks from position `i` to position `j`, and every block starts below
`limit`. -/
inductive Blocks (limit : ℕ) (buf : List UInt8) : ℕ → List (List UInt8) → ℕ → Prop
  | nil (i : ℕ) : Blocks limit buf i [] i
  | cons {i j : ℕ} {d : List UInt8} {ds : List (List UInt8)} :
      i < limit → d.length < 65536 → i + 2 + d.length ≤ buf.length →
      getU16 buf i = UInt16.ofNat d.length →
      slice buf (i + 2) (i + 2 + d.length) = d →
      Blocks limit buf (i + 2 + d.length) ds j →
      Blocks limit buf i (d :: ds) j

namespace Blocks

variable {limit i j k : ℕ} {buf buf' : List UInt8} {d : List UInt8} {ds : List (List UInt8)}

theorem le (h : Blocks limit buf i ds j) : i ≤ j := by
  induction h with
  | nil i => exact le_rfl
  | cons _ _ _ _ _ _ ih => omega

theorem eq_of_nil (h : Blocks limit buf i [] j) : i = j := by
  cases h with
  | nil _ => rfl

theorem lt_of_ne_nil (h : Blocks limit buf i ds j) (nonempty : ds ≠ []) : i < j := by
  cases h with
  | nil i => exact absurd rfl nonempty
  | cons _ _ _ _ _ rest =>
      have := rest.le
      omega

theorem eq_nil_of_eq (h : Blocks limit buf i ds i) : ds = [] := by
  by_contra nonempty
  exact lt_irrefl i (h.lt_of_ne_nil nonempty)

/-- The layout only reads the cells between its ends. -/
theorem congr (h : Blocks limit buf i ds j) (len : buf'.length = buf.length)
    (same : ∀ k, i ≤ k → k < j → buf'[k]? = buf[k]?) : Blocks limit buf' i ds j := by
  induction h with
  | nil i => exact .nil i
  | @cons i j d ds lo short inside header payload rest ih =>
      have past := rest.le
      refine .cons lo short (by omega) ?_ ?_ (ih fun k hk hkj => same k (by omega) hkj)
      · rw [← header]
        simp only [getU16, getByte, List.getD_eq_getElem?_getD]
        rw [same i le_rfl (by omega), same (i + 1) (by omega) (by omega)]
      · refine Eq.trans (List.ext_getElem? fun n => ?_) payload
        rw [getElem?_slice, getElem?_slice]
        by_cases inRange : i + 2 + n < i + 2 + d.length
        · rw [if_pos inRange, if_pos inRange, same _ (by omega) (by omega)]
        · rw [if_neg inRange, if_neg inRange]

/-- Writing outside the ends of a layout keeps it. -/
theorem splice_outside {xs : List UInt8} {at' : ℕ} (h : Blocks limit buf i ds j)
    (fits : at' + xs.length ≤ buf.length) (outside : j ≤ at' ∨ at' + xs.length ≤ i) :
    Blocks limit (splice buf at' xs) i ds j := by
  refine h.congr (length_splice fits) fun k hik hkj => ?_
  rw [getElem?_splice fits]
  rcases outside with before | after
  · rw [if_pos (by omega)]
  · rw [if_neg (by omega), if_neg (by omega)]

theorem append {ds' : List (List UInt8)} (h : Blocks limit buf i ds j)
    (h' : Blocks limit buf j ds' k) : Blocks limit buf i (ds ++ ds') k := by
  induction h with
  | nil i => exact h'
  | cons lo short inside header payload _ ih =>
      exact .cons lo short inside header payload (ih h')

end Blocks

/-! ## One call on the laid-out buffer -/

/-- `read_from` with space available: one block appears at `head`, no other
cell changes, and `head` moves behind it or back to `0`. -/
theorem readFrom_ok {b : DatagramBuffer capacity} {d : List UInt8}
    (admitted : d.length ≤ maxDatagramLength) (below : b.head < capacity + 1)
    (space : b.hasEnoughSpaceFor d.length = true) :
    ∃ b', b.readFrom d = .ok (.ok (), b') ∧
      b'.buf = splice b.buf b.head (u16Bytes (UInt16.ofNat d.length) ++ d) ∧
      b'.tail = b.tail ∧
      b'.head = if capacity + 1 ≤ b.head + 2 + d.length then 0 else b.head + 2 + d.length := by
  have len := b.length_buf
  simp only [maxBlockLength, headerLength] at len
  have fits : b.head + 2 ≤ b.buf.length := by omega
  have fits' : b.head + 2 + d.length ≤ (putU16 b.buf b.head (UInt16.ofNat d.length)).length := by
    rw [putU16, length_splice (by simpa using fits)]
    omega
  unfold readFrom
  rw [if_neg (not_lt.mpr admitted), if_neg (by simp [space])]
  simp only [writeLength, dif_pos fits, bind, Except.bind, dif_pos fits', pure, Except.pure]
  refine ⟨_, rfl, ?_, rfl, rfl⟩
  have joined : splice (splice b.buf b.head (u16Bytes (UInt16.ofNat d.length)))
      (b.head + (u16Bytes (UInt16.ofNat d.length)).length) d =
      splice b.buf b.head (u16Bytes (UInt16.ofNat d.length) ++ d) :=
    splice_splice_adjacent (by rw [length_u16Bytes]; omega)
  exact joined

/-- `read_from` on a full buffer changes nothing. -/
theorem readFrom_full {b : DatagramBuffer capacity} {d : List UInt8}
    (admitted : d.length ≤ maxDatagramLength) (full : b.hasEnoughSpaceFor d.length = false) :
    b.readFrom d = .ok (.error .other, b) := by
  unfold readFrom
  rw [if_neg (not_lt.mpr admitted), if_pos (by simp [full])]

/-- The header `read_from` writes is the one found there. -/
theorem getU16_block {i : ℕ} {buf d : List UInt8} {length : UInt16}
    (fits : i + 2 + d.length ≤ buf.length) :
    getU16 (splice buf i (u16Bytes length ++ d)) i = length := by
  have whole : i + (u16Bytes length ++ d).length ≤ buf.length := by
    rw [List.length_append, length_u16Bytes]
    omega
  have first := getU16_splice_of_inside whole (k := 0) (by simp)
  rw [Nat.add_zero] at first
  rw [first, getU16_append_left (by simp), getU16_u16Bytes]

/-- The block `read_from` writes. -/
theorem blocks_splice {limit i : ℕ} {buf d : List UInt8} (short : d.length < 65536)
    (below : i < limit) (fits : i + 2 + d.length ≤ buf.length) :
    Blocks limit (splice buf i (u16Bytes (UInt16.ofNat d.length) ++ d)) i [d]
      (i + 2 + d.length) := by
  have fits' : i + (u16Bytes (UInt16.ofNat d.length) ++ d).length ≤ buf.length := by
    rw [List.length_append, length_u16Bytes]
    omega
  have whole := slice_splice_self fits'
  rw [List.length_append, length_u16Bytes, ← Nat.add_assoc] at whole
  refine .cons below short (by rw [length_splice fits']; omega) ?_ ?_ (.nil _)
  · exact getU16_block fits
  · have tl : slice (splice buf i (u16Bytes (UInt16.ofNat d.length) ++ d)) (i + 2)
          (i + 2 + d.length) =
        (slice (splice buf i (u16Bytes (UInt16.ofNat d.length) ++ d)) i
          (i + 2 + d.length)).drop 2 := by
      rw [slice, slice, List.drop_drop]
    rw [tl, whole]
    exact List.drop_left' (length_u16Bytes _)

/-- `write_to` on a buffer whose first block is `d`: the destination is offered
exactly `d`, and whatever it answers the block is gone. -/
theorem writeTo_block {b : DatagramBuffer capacity} {d : List UInt8}
    {ds : List (List UInt8)} {limit j : ℕ} (nonempty : b.isEmpty = false)
    (blocks : Blocks limit b.buf b.tail (d :: ds) j) (w : IoResult ℕ) :
    ∃ r b', b.writeTo w = .ok (r, d, b') ∧ b'.buf = b.buf ∧ b'.head = b.head ∧
      (b'.tail = if capacity + 1 ≤ b.tail + 2 + d.length then 0
        else b.tail + 2 + d.length) ∧
      (∀ n, w = .ok n → d.length ≤ n → r = .ok ()) := by
  cases blocks with
  | cons _ short inside header payload _ =>
      have value : (getU16 b.buf b.tail).toNat = d.length := by
        rw [header, UInt16.toNat_ofNat', Nat.mod_eq_of_lt (by omega)]
      unfold writeTo
      rw [if_neg (by simp [nonempty])]
      simp only [readLength, readU16_eq (by omega : b.tail + 2 ≤ b.buf.length), bind,
        Except.bind, pure, Except.pure, value,
        readSlice_eq (Nat.le_add_right (b.tail + 2) d.length) inside, payload]
      cases w with
      | error err => exact ⟨_, _, rfl, rfl, rfl, rfl, fun n h => by cases h⟩
      | ok n =>
          dsimp only
          split
          · refine ⟨_, _, rfl, rfl, rfl, rfl, fun m h hm => ?_⟩
            cases h
            omega
          · exact ⟨_, _, rfl, rfl, rfl, rfl, fun _ _ _ => rfl⟩

end DatagramBuffer

end ReverseTether
