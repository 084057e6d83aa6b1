import Mathlib.Tactic

/-!
# Slices of a list and overwriting a stretch of it

Two operations on a list used as a fixed-size memory: `slice` reads the
positions `i, …, j - 1` and `splice` overwrites a stretch that starts at `i`.
Everything a buffer proof needs about them is a statement of the form "a slice
that the splice covers reads the new elements, and a slice that it misses reads
the old ones", so neither definition has to be unfolded again.

The bounds are hypotheses of the lemmas and not of the definitions: both operations are total,
and a slice that reaches past the end is cut there.  A program that checks its indices first
has the bounds at hand, and one that does not is modelled by the check in front of the
operation.

A buffer that wraps around is read and written in two stretches, so the lemmas are also about
several splices one after the other, which commute when they do not overlap.
-/

namespace ReverseTether.Library

universe u

variable {α : Type u}

/-- The elements at positions `i, …, j - 1`. -/
def slice (buf : List α) (i j : ℕ) : List α := (buf.take j).drop i

/-- The list with the stretch that starts at `i` replaced by `xs`. -/
def splice (buf : List α) (i : ℕ) (xs : List α) : List α :=
  buf.take i ++ xs ++ buf.drop (i + xs.length)

@[simp] theorem length_slice (buf : List α) (i j : ℕ) :
    (slice buf i j).length = min j buf.length - i := by
  simp [slice]

@[simp] theorem length_splice {buf xs : List α} {i : ℕ}
    (fits : i + xs.length ≤ buf.length) :
    (splice buf i xs).length = buf.length := by
  simp only [splice, List.length_append, List.length_take, List.length_drop]
  omega

theorem getElem?_slice (buf : List α) (i j k : ℕ) :
    (slice buf i j)[k]? = if i + k < j then buf[i + k]? else none := by
  simp only [slice, List.getElem?_drop, List.getElem?_take]

theorem getElem?_splice {buf xs : List α} {i : ℕ}
    (fits : i + xs.length ≤ buf.length) (k : ℕ) :
    (splice buf i xs)[k]? =
      if k < i then buf[k]? else if k < i + xs.length then xs[k - i]? else buf[k]? := by
  have lenTake : (buf.take i).length = i := by
    rw [List.length_take]
    omega
  unfold splice
  rw [List.append_assoc, List.getElem?_append, lenTake]
  split
  · rw [List.getElem?_take_of_lt ‹_›]
  · rw [List.getElem?_append]
    split
    · rw [if_pos (by omega)]
    · rw [if_neg (by omega), List.getElem?_drop]
      congr 1
      omega

theorem slice_self (buf : List α) (i : ℕ) : slice buf i i = [] := by
  rw [← List.length_eq_zero_iff, length_slice]
  omega

theorem slice_zero (buf : List α) (j : ℕ) : slice buf 0 j = buf.take j := rfl

theorem slice_full {buf : List α} {i j : ℕ} (full : buf.length ≤ j) :
    slice buf i j = buf.drop i := by
  rw [slice, List.take_of_length_le full]

/-- Adjacent slices join. -/
theorem slice_append_slice (buf : List α) {i j k : ℕ} (hij : i ≤ j) (hjk : j ≤ k) :
    slice buf i j ++ slice buf j k = slice buf i k := by
  by_cases inside : j ≤ buf.length
  · apply List.ext_getElem?
    intro n
    rw [List.getElem?_append, length_slice, getElem?_slice, getElem?_slice,
      getElem?_slice]
    by_cases left : n < min j buf.length - i
    · rw [if_pos left, if_pos (by omega), if_pos (by omega)]
    · rw [if_neg left]
      have shift : j + (n - (min j buf.length - i)) = i + n := by omega
      rw [shift]
  · have done : slice buf j k = [] := by
      rw [← List.length_eq_zero_iff, length_slice]
      omega
    rw [done, List.append_nil, slice_full (by omega), slice_full (by omega)]

/-- Taking a front of a slice shortens it. -/
theorem take_slice (buf : List α) (i j n : ℕ) :
    (slice buf i j).take n = slice buf i (min j (i + n)) := by
  rw [slice, slice, List.take_drop, List.take_take, Nat.min_comm]

theorem take_length_take (xs : List α) (n : ℕ) : xs.take (xs.take n).length = xs.take n := by
  rw [List.length_take]
  rcases le_total n xs.length with le | le
  · rw [min_eq_left le]
  · rw [min_eq_right le, List.take_of_length_le le, List.take_length]

/-- A slice that the splice covers reads the new elements. -/
theorem slice_splice_self {buf xs : List α} {i : ℕ}
    (fits : i + xs.length ≤ buf.length) :
    slice (splice buf i xs) i (i + xs.length) = xs := by
  apply List.ext_getElem?
  intro n
  rw [getElem?_slice, getElem?_splice fits]
  by_cases inside : n < xs.length
  · rw [if_pos (by omega), if_neg (by omega), if_pos (by omega)]
    congr 1
    omega
  · rw [if_neg (by omega), List.getElem?_eq_none (by omega)]

/-- A slice that ends before the splice reads the old elements. -/
theorem slice_splice_of_le {buf xs : List α} {i a j : ℕ}
    (fits : i + xs.length ≤ buf.length) (before : j ≤ i) :
    slice (splice buf i xs) a j = slice buf a j := by
  apply List.ext_getElem?
  intro n
  rw [getElem?_slice, getElem?_slice, getElem?_splice fits]
  by_cases inside : a + n < j
  · rw [if_pos inside, if_pos inside, if_pos (by omega)]
  · rw [if_neg inside, if_neg inside]

/-- A slice that starts after the splice reads the old elements. -/
theorem slice_splice_of_ge {buf xs : List α} {i a j : ℕ}
    (fits : i + xs.length ≤ buf.length) (after : i + xs.length ≤ a) :
    slice (splice buf i xs) a j = slice buf a j := by
  apply List.ext_getElem?
  intro n
  rw [getElem?_slice, getElem?_slice, getElem?_splice fits]
  by_cases inside : a + n < j
  · rw [if_pos inside, if_pos inside, if_neg (by omega), if_neg (by omega)]
  · rw [if_neg inside, if_neg inside]

/-- What a list starts with, up to the end of the splice. -/
theorem take_splice {buf xs : List α} {i : ℕ} (fits : i + xs.length ≤ buf.length) :
    (splice buf i xs).take (i + xs.length) = buf.take i ++ xs := by
  have length : (buf.take i ++ xs).length = i + xs.length := by
    rw [List.length_append, List.length_take]
    omega
  rw [splice, ← length, List.take_left]

/-- Two splices side by side are one. -/
theorem splice_splice_adjacent {buf xs ys : List α} {i : ℕ}
    (fits : i + (xs.length + ys.length) ≤ buf.length) :
    splice (splice buf i xs) (i + xs.length) ys = splice buf i (xs ++ ys) := by
  have fits₁ : i + xs.length ≤ buf.length := by omega
  have fits₂ : i + xs.length + ys.length ≤ (splice buf i xs).length := by
    rw [length_splice fits₁]
    omega
  have fits₃ : i + (xs ++ ys).length ≤ buf.length := by
    rw [List.length_append]
    omega
  apply List.ext_getElem?
  intro k
  rw [getElem?_splice fits₂, getElem?_splice fits₁, getElem?_splice fits₃, List.length_append,
    List.getElem?_append]
  by_cases h₁ : k < i
  · rw [if_pos (by omega), if_pos h₁, if_pos h₁]
  · rw [if_neg h₁, if_neg h₁]
    by_cases h₂ : k < i + xs.length
    · rw [if_pos h₂, if_pos h₂, if_pos (by omega), if_pos (by omega)]
    · rw [if_neg h₂, if_neg h₂, if_neg (by omega : ¬ k - i < xs.length)]
      by_cases h₃ : k < i + xs.length + ys.length
      · rw [if_pos h₃, if_pos (by omega)]
        congr 1
        omega
      · rw [if_neg h₃, if_neg (by omega)]

/-- A front of a list and what comes next in it make a longer front. -/
theorem prefix_append_of_drop {front next whole : List α} (inside : front <+: whole)
    (behind : next <+: whole.drop front.length) : front ++ next <+: whole := by
  obtain ⟨rest, rfl⟩ := inside
  rw [List.drop_left] at behind
  exact (List.prefix_append_right_inj front).mpr behind

end ReverseTether.Library
