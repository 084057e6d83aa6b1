import ReverseTether.Library.Ring
import ReverseTether.Outcome

/-!
# `StreamBuffer`: the circular byte queue

`buf` has one cell more than the capacity, so that `head = tail` means empty
and never full.  Input may be written in two pieces around the end of `buf`;
output stops at the end of `buf`, and the positions go back to `0` when the
buffer runs empty.

The bounds of `head` and `tail` are fields: a `StreamBuffer` that could index
outside `buf` cannot be built, and the facts below need no side condition
beyond the space check that `readFrom` itself asserts.

`contents` is the abstraction: the bytes held, oldest first.  `readFrom`
appends to it (`contents_readFrom`) and `writeTo` takes a front of it
(`contents_writeTo`); nothing outside this file looks at `head` and `tail`.

A write may fail or take only a part; the positions move by what was taken, and the rest is
offered again by the next write, from its first byte on.  Reading has the space check as an
assertion, and the callers ask for `remaining` first.
-/

namespace ReverseTether

open Library

/-- Circular buffer to store a stream.  Read/write boundaries are not
preserved. -/
structure StreamBuffer (capacity : ℕ) where
  buf : List UInt8
  head : ℕ
  tail : ℕ
  length_buf : buf.length = capacity + 1
  head_lt : head < capacity + 1
  tail_lt : tail < capacity + 1

namespace StreamBuffer

variable {capacity : ℕ}

/-- `StreamBuffer::new`: an empty ring, with one byte more than its capacity. -/
def new (capacity : ℕ) : StreamBuffer capacity where
  buf := List.replicate (capacity + 1) 0
  head := 0
  tail := 0
  length_buf := List.length_replicate
  head_lt := Nat.succ_pos capacity
  tail_lt := Nat.succ_pos capacity

/-- `is_empty`: the reader has come to where the writer is. -/
def isEmpty (b : StreamBuffer capacity) : Bool := b.head = b.tail

/-- `size`: how many bytes there are from `tail` to `head`, around the end of the array if need be.
-/
def size (b : StreamBuffer capacity) : ℕ :=
  if b.head < b.tail then b.head + (capacity + 1) - b.tail else b.head - b.tail

/-- `remaining`: how many bytes still fit; the one that separates full from empty is not counted.
-/
def remaining (b : StreamBuffer capacity) : ℕ := capacity - b.size

/-- Reset the positions of an empty buffer, so that the next write is less
likely to be cut at the end of `buf`. -/
def optimize (b : StreamBuffer capacity) : StreamBuffer capacity :=
  if b.head = b.tail then
    { b with head := 0, tail := 0, head_lt := Nat.succ_pos _, tail_lt := Nat.succ_pos _ }
  else b

/-- The slice `write_to` offers to its destination: up to `head`, or up to the
end of `buf` when the stored bytes wrap. -/
def offered (b : StreamBuffer capacity) : List UInt8 :=
  if b.tail < b.head then slice b.buf b.tail b.head else b.buf.drop b.tail

/-- Write to a destination that takes `w` of the bytes it is offered (as many
as there are, when `w` is larger) or fails.  The result carries the bytes
taken, whose number is what the source returns. -/
def writeTo (b : StreamBuffer capacity) (w : IoResult ℕ) :
    IoResult (List UInt8) × StreamBuffer capacity :=
  if b.head = b.tail then
    -- buffer is empty, nothing to do
    (.ok [], b)
  else
    match w with
    | .error err => (.error err, b)
    | .ok n =>
        let taken := b.offered.take n
        if ahead : b.tail < b.head then
          (.ok taken, optimize
            { b with
              tail := b.tail + taken.length
              tail_lt := by
                have := b.head_lt
                simp only [taken, offered, if_pos ahead, List.length_take, length_slice]
                omega })
        else
          (.ok taken, optimize
            { b with
              tail := (b.tail + taken.length) % (capacity + 1)
              tail_lt := Nat.mod_lt _ (Nat.succ_pos _) })

/-- Append the whole of `source`. -/
def readFrom (b : StreamBuffer capacity) (source : List UInt8) :
    Outcome (StreamBuffer capacity) :=
  if fits : source.length ≤ b.remaining then
    if contiguous : source.length ≤ capacity + 1 - b.head then
      .ok
        { b with
          buf := splice b.buf b.head source
          head := (b.head + source.length) % (capacity + 1)
          length_buf := by
            have := b.head_lt
            rw [length_splice (by rw [b.length_buf]; omega), b.length_buf]
          head_lt := Nat.mod_lt _ (Nat.succ_pos _) }
    else
      -- fill until the right end of the buffer, then the rest from the left end
      let right := source.take (capacity + 1 - b.head)
      let left := source.drop (capacity + 1 - b.head)
      .ok
        { b with
          buf := splice (splice b.buf b.head right) 0 left
          head := (b.head + source.length) % (capacity + 1)
          length_buf := by
            have := b.head_lt
            have bound : source.length ≤ capacity := fits.trans (Nat.sub_le _ _)
            have inner : (splice b.buf b.head right).length = capacity + 1 := by
              rw [length_splice (by rw [b.length_buf, List.length_take]; omega), b.length_buf]
            rw [length_splice (by rw [inner, List.length_drop]; omega), inner]
          head_lt := Nat.mod_lt _ (Nat.succ_pos _) }
  else .error .streamBufferFull

/-! ## The queue the buffer stands for -/

/-- The bytes held, oldest first. -/
def contents (b : StreamBuffer capacity) : List UInt8 := ringContents b.buf b.head b.tail

theorem size_eq_ringSize (b : StreamBuffer capacity) :
    b.size = ringSize (capacity + 1) b.head b.tail := rfl

@[simp] theorem length_contents (b : StreamBuffer capacity) : b.contents.length = b.size :=
  length_ringContents b.length_buf b.head_lt b.tail_lt

theorem size_le (b : StreamBuffer capacity) : b.size ≤ capacity :=
  Nat.le_of_lt_succ (ringSize_lt b.head_lt)

theorem isEmpty_iff (b : StreamBuffer capacity) : b.isEmpty = true ↔ b.contents = [] := by
  rw [contents, ringContents_eq_nil_iff b.length_buf b.head_lt b.tail_lt, isEmpty,
    decide_eq_true_iff]

theorem isEmpty_eq_false_iff (b : StreamBuffer capacity) :
    b.isEmpty = false ↔ b.contents ≠ [] := by
  rw [ne_eq, ← isEmpty_iff, Bool.not_eq_true]

@[simp] theorem contents_new : (new capacity).contents = [] := ringContents_self _ 0

@[simp] theorem contents_optimize (b : StreamBuffer capacity) :
    b.optimize.contents = b.contents := by
  unfold optimize
  split
  · rw [contents, contents, ‹b.head = b.tail›, ringContents_self, ringContents_self]
  · rfl

/-! ### `write_to` takes a front -/

@[simp] theorem writeTo_of_isEmpty {b : StreamBuffer capacity} (empty : b.isEmpty = true)
    (w : IoResult ℕ) : b.writeTo w = (.ok [], b) := by
  have same : b.head = b.tail := by simpa [isEmpty] using empty
  simp [writeTo, same]

/-- A failing destination gets nothing and leaves the buffer as it was. -/
theorem writeTo_error {b : StreamBuffer capacity} (nonempty : b.isEmpty = false)
    (err : IoError) : b.writeTo (.error err) = (.error err, b) := by
  have differ : b.head ≠ b.tail := by simpa [isEmpty] using nonempty
  simp [writeTo, differ]

/-- What `writeTo` does to a non-empty buffer: the destination gets a front of
the bytes offered and the rest stays. -/
theorem writeTo_ok {b : StreamBuffer capacity} (nonempty : b.isEmpty = false) (n : ℕ) :
    ∃ b', b.writeTo (.ok n) = (.ok (b.offered.take n), b') ∧
      b.contents = b.offered.take n ++ b'.contents := by
  have hh := b.head_lt
  have ht := b.tail_lt
  have hl := b.length_buf
  have differ : b.head ≠ b.tail := by simpa [isEmpty] using nonempty
  unfold writeTo
  rw [if_neg differ]
  dsimp only
  by_cases ahead : b.tail < b.head
  · rw [dif_pos ahead]
    refine ⟨_, rfl, ?_⟩
    rw [contents_optimize]
    have off : b.offered = slice b.buf b.tail b.head := if_pos ahead
    have len : (b.offered.take n).length ≤ b.head - b.tail := by
      rw [off, List.length_take, length_slice]
      omega
    have split := ringContents_advance b.buf
      (by omega : b.tail + (b.offered.take n).length ≤ b.head)
    rw [← off, take_length_take] at split
    exact split
  · rw [dif_neg ahead]
    refine ⟨_, rfl, ?_⟩
    rw [contents_optimize]
    have off : b.offered = b.buf.drop b.tail := if_neg ahead
    have len : (b.offered.take n).length ≤ capacity + 1 - b.tail := by
      rw [off, List.length_take, List.length_drop]
      omega
    have split := ringContents_advance_wrapped hl (by omega : b.head < b.tail)
      (by omega : b.tail + (b.offered.take n).length ≤ capacity + 1)
    rw [← off, take_length_take] at split
    exact split

/-- A buffer that holds a byte offers at least one. -/
theorem offered_ne_nil {b : StreamBuffer capacity} (nonempty : b.isEmpty = false) :
    b.offered ≠ [] := by
  have := b.head_lt
  have := b.tail_lt
  have := b.length_buf
  have differ : b.head ≠ b.tail := by simpa [isEmpty] using nonempty
  rw [← List.length_pos_iff, offered]
  split
  · simp only [length_slice]
    omega
  · simp only [List.length_drop]
    omega

/-- `write_to` never invents, drops or reorders a byte. -/
theorem contents_writeTo {b b' : StreamBuffer capacity} {w : IoResult ℕ}
    {taken : List UInt8} (h : b.writeTo w = (.ok taken, b')) :
    b.contents = taken ++ b'.contents := by
  cases empty : b.isEmpty with
  | true =>
      rw [writeTo_of_isEmpty empty] at h
      cases h
      rfl
  | false =>
      cases w with
      | error err =>
          rw [writeTo_error empty] at h
          cases h
      | ok n =>
          obtain ⟨b₁, eq, split⟩ := writeTo_ok empty n
          rw [eq] at h
          cases h
          exact split

theorem writeTo_error_eq {b b' : StreamBuffer capacity} {w : IoResult ℕ} {err : IoError}
    (h : b.writeTo w = (.error err, b')) : b' = b ∧ w = .error err ∧ b.isEmpty = false := by
  cases empty : b.isEmpty with
  | true =>
      rw [writeTo_of_isEmpty empty] at h
      cases h
  | false =>
      cases w with
      | error err' =>
          rw [writeTo_error empty] at h
          cases h
          exact ⟨rfl, rfl, rfl⟩
      | ok n =>
          obtain ⟨b₁, eq, -⟩ := writeTo_ok empty n
          rw [eq] at h
          cases h

/-! ### `read_from` appends -/

/-- `readFrom` of what fits appends it. -/
theorem readFrom_ok {b : StreamBuffer capacity} {source : List UInt8}
    (fits : source.length ≤ b.remaining) :
    ∃ b', b.readFrom source = .ok b' ∧ b'.contents = b.contents ++ source := by
  have room : ringSize (capacity + 1) b.head b.tail + source.length < capacity + 1 := by
    have := b.size_le
    rw [← size_eq_ringSize]
    unfold remaining at fits
    omega
  unfold readFrom
  rw [dif_pos fits]
  have := b.head_lt
  by_cases contiguous : source.length ≤ capacity + 1 - b.head
  · rw [dif_pos contiguous]
    exact ⟨_, rfl, ringContents_splice b.length_buf b.head_lt b.tail_lt room (by omega)⟩
  · rw [dif_neg contiguous]
    exact ⟨_, rfl, ringContents_splice_wrapped b.length_buf b.head_lt b.tail_lt room (by omega)⟩

theorem readFrom_full {b : StreamBuffer capacity} {source : List UInt8}
    (full : b.remaining < source.length) : b.readFrom source = .error .streamBufferFull := by
  unfold readFrom
  rw [dif_neg (by omega)]

theorem contents_readFrom {b b' : StreamBuffer capacity} {source : List UInt8}
    (h : b.readFrom source = .ok b') : b'.contents = b.contents ++ source := by
  by_cases fits : source.length ≤ b.remaining
  · obtain ⟨b₁, eq, append⟩ := readFrom_ok fits
    rw [eq] at h
    cases h
    exact append
  · rw [readFrom_full (by omega)] at h
    cases h

/-- What is left of the capacity is for what is not held. -/
theorem remaining_eq (b : StreamBuffer capacity) : b.remaining = capacity - b.contents.length := by
  rw [remaining, length_contents]

@[simp] theorem remaining_new : (new capacity).remaining = capacity := by
  rw [remaining_eq, contents_new]
  exact Nat.sub_zero capacity

/-- Any buffer can be full. -/
theorem exists_full (capacity : ℕ) : ∃ b : StreamBuffer capacity, b.remaining = 0 := by
  obtain ⟨b, -, held⟩ := @readFrom_ok capacity (new capacity) (List.replicate capacity 0)
    (by rw [List.length_replicate, remaining_new])
  refine ⟨b, ?_⟩
  rw [remaining_eq, held, contents_new, List.nil_append, List.length_replicate, Nat.sub_self]

end StreamBuffer

end ReverseTether
