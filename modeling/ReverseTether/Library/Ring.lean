import ReverseTether.Library.Slices

/-!
# The contents of a circular buffer

A circular buffer is a list of `n` cells with a write position `head` and a
read position `tail`; equal positions mean that it is empty, so it holds at most
`n - 1` elements.  `ringContents` reads the elements off the cells, oldest
first.  The laws say what the four position updates of a ring do to that list:
taking elements from its front up to the write position or up to the end of the
cells, and appending a list in one piece or in two pieces around that end.

The elements may be anything, and the positions are natural numbers below `n`, which is one
more than the capacity.  A buffer is a structure with these fields and the bounds as proofs;
the laws are stated for the fields, so that two buffers with different other fields share
them.

That one cell stays empty is what makes equal positions unambiguous.  A structure in which one
position may come around to the other has to exclude that before it can use the laws.
-/

namespace ReverseTether.Library

universe u

variable {α : Type u}

/-- The elements held, oldest first. -/
def ringContents (buf : List α) (head tail : ℕ) : List α :=
  if head < tail then buf.drop tail ++ buf.take head else slice buf tail head

/-- The number of elements held. -/
def ringSize (n head tail : ℕ) : ℕ :=
  if head < tail then head + n - tail else head - tail

theorem ringSize_lt {n head tail : ℕ} (hh : head < n) : ringSize n head tail < n := by
  unfold ringSize
  split <;> omega

theorem length_ringContents {buf : List α} {n head tail : ℕ} (hn : buf.length = n)
    (hh : head < n) (ht : tail < n) :
    (ringContents buf head tail).length = ringSize n head tail := by
  unfold ringContents ringSize
  split
  · simp only [List.length_append, List.length_drop, List.length_take]
    omega
  · simp only [length_slice]
    omega

@[simp] theorem ringContents_self (buf : List α) (i : ℕ) : ringContents buf i i = [] := by
  rw [ringContents, if_neg (lt_irrefl i), slice_self]

theorem ringContents_eq_nil_iff {buf : List α} {n head tail : ℕ} (hn : buf.length = n)
    (hh : head < n) (ht : tail < n) : ringContents buf head tail = [] ↔ head = tail := by
  rw [← List.length_eq_zero_iff, length_ringContents hn hh ht, ringSize]
  split <;> omega

/-! ### Taking from the front -/

/-- Taking `k` elements that lie before the write position. -/
theorem ringContents_advance (buf : List α) {head tail k : ℕ} (inside : tail + k ≤ head) :
    ringContents buf head tail =
      (slice buf tail head).take k ++ ringContents buf head (tail + k) := by
  rw [ringContents, ringContents, if_neg (by omega), if_neg (by omega), take_slice,
    show min head (tail + k) = tail + k by omega,
    slice_append_slice buf (by omega) inside]

/-- Taking `k` elements of a ring whose elements wrap, up to the end of the
cells at most. -/
theorem ringContents_advance_wrapped {buf : List α} {n head tail k : ℕ}
    (hn : buf.length = n) (wrapped : head < tail) (inside : tail + k ≤ n) :
    ringContents buf head tail =
      (buf.drop tail).take k ++ ringContents buf head ((tail + k) % n) := by
  rw [ringContents, if_pos wrapped]
  by_cases toEnd : tail + k = n
  · have all : (buf.drop tail).take k = buf.drop tail :=
      List.take_of_length_le (by rw [List.length_drop]; omega)
    rw [toEnd, Nat.mod_self, ringContents, if_neg (by omega), slice_zero, all]
  · rw [Nat.mod_eq_of_lt (by omega), ringContents, if_pos (by omega), ← List.append_assoc,
      ← List.drop_drop, List.take_append_drop]

/-! ### Appending -/

/-- Appending a list that ends at or before the end of the cells. -/
theorem ringContents_splice {buf xs : List α} {n head tail : ℕ} (hn : buf.length = n)
    (hh : head < n) (ht : tail < n) (room : ringSize n head tail + xs.length < n)
    (contiguous : head + xs.length ≤ n) :
    ringContents (splice buf head xs) ((head + xs.length) % n) tail =
      ringContents buf head tail ++ xs := by
  have fits : head + xs.length ≤ buf.length := by omega
  unfold ringSize at room
  by_cases wrapped : head < tail
  · rw [if_pos wrapped] at room
    rw [Nat.mod_eq_of_lt (by omega), ringContents, ringContents, if_pos (by omega),
      if_pos wrapped, List.append_assoc]
    have keep := slice_splice_of_ge (a := tail) (j := n) fits (by omega)
    rw [slice_full (by rw [length_splice fits]; omega), slice_full (by omega)] at keep
    rw [keep, ← slice_zero, ← slice_zero,
      ← slice_append_slice _ (Nat.zero_le head) (Nat.le_add_right head xs.length),
      slice_splice_self fits, slice_splice_of_le fits le_rfl]
  · rw [if_neg wrapped] at room
    have body : slice (splice buf head xs) tail (head + xs.length) =
        slice buf tail head ++ xs := by
      rw [← slice_append_slice _ (by omega : tail ≤ head) (Nat.le_add_right head xs.length),
        slice_splice_self fits, slice_splice_of_le fits le_rfl]
    rw [ringContents, ringContents, if_neg wrapped]
    by_cases toEnd : head + xs.length = n
    · -- the write position goes back to 0
      by_cases empty : xs = []
      · subst empty
        simp at toEnd
        omega
      rw [toEnd, Nat.mod_self, if_pos (by have := List.length_pos_iff.mpr empty; omega)]
      rw [List.take_zero, List.append_nil, ← body, toEnd,
        slice_full (by rw [length_splice fits]; omega)]
    · rw [Nat.mod_eq_of_lt (by omega), if_neg (by omega), body]

/-- Appending a list in two pieces: up to the end of the cells, and the rest
from their start. -/
theorem ringContents_splice_wrapped {buf xs : List α} {n head tail : ℕ}
    (hn : buf.length = n) (hh : head < n) (ht : tail < n)
    (room : ringSize n head tail + xs.length < n) (cut : n < head + xs.length) :
    ringContents
        (splice (splice buf head (xs.take (n - head))) 0 (xs.drop (n - head)))
        ((head + xs.length) % n) tail =
      ringContents buf head tail ++ xs := by
  have lenRight : (xs.take (n - head)).length = n - head := by
    rw [List.length_take]
    omega
  have lenLeft : (xs.drop (n - head)).length = xs.length - (n - head) := List.length_drop
  have fitsRight : head + (xs.take (n - head)).length ≤ buf.length := by omega
  have lenBuf : (splice buf head (xs.take (n - head))).length = n := by
    rw [length_splice fitsRight, hn]
  have fitsLeft : 0 + (xs.drop (n - head)).length ≤
      (splice buf head (xs.take (n - head))).length := by omega
  have modulus : (head + xs.length) % n = xs.length - (n - head) := by
    rw [Nat.mod_eq_sub_mod (by omega), Nat.mod_eq_of_lt (by omega)]
    omega
  unfold ringSize at room
  -- an element list that wraps cannot leave room for a list that wraps too
  have straight : ¬ head < tail := by
    intro wrapped
    rw [if_pos wrapped] at room
    omega
  rw [if_neg straight] at room
  rw [modulus, ringContents, ringContents, if_neg straight, if_pos (by omega)]
  have upper := slice_splice_of_ge (a := tail) (j := n) fitsLeft (by omega)
  rw [slice_full (by rw [length_splice fitsLeft]; omega)] at upper
  have lower := slice_splice_self fitsLeft
  rw [Nat.zero_add, slice_zero, lenLeft] at lower
  rw [upper, lower, ← slice_append_slice _ (by omega : tail ≤ head) (by omega : head ≤ n),
    slice_splice_of_le fitsRight le_rfl]
  have right := slice_splice_self fitsRight
  rw [lenRight, show head + (n - head) = n by omega] at right
  rw [right, List.append_assoc, List.take_append_drop]

end ReverseTether.Library
