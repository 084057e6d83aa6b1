import ReverseTether.Library.Slices

/-!
# Memories that differ in known places only

A memory that is used again and again holds what earlier uses left in it.
`SameBut places xs ys` says that two memories of one size agree outside
`places`.  Writing the same values to both takes the places written off the list
(`SameBut.splice`); once the list is empty the memories are equal
(`SameBut.eq`), so nothing of the earlier uses is left.

The places are positions, given as a list, and the order in which they are taken off does not
matter.  Reading at a place that is not on the list gives the same from both memories, and a
memory of another size is related to none.

The use of it is a program that builds its output in a buffer it has used before: the output
must be a function of the input alone, so whatever it does not write must be equal beforehand,
and whatever it does write becomes so.
-/

namespace ReverseTether.Library

universe u

variable {α : Type u} {places places' : List ℕ} {xs ys zs : List α}

/-- Two lists of one length that agree outside `places`.  What is written at these places does not
show. -/
def SameBut (places : List ℕ) (xs ys : List α) : Prop :=
  xs.length = ys.length ∧ ∀ k, k ∉ places → xs[k]? = ys[k]?

namespace SameBut

theorem refl (places : List ℕ) (xs : List α) : SameBut places xs xs := ⟨rfl, fun _ _ => rfl⟩

theorem symm (same : SameBut places xs ys) : SameBut places ys xs :=
  ⟨same.1.symm, fun k apart => (same.2 k apart).symm⟩

theorem trans (first : SameBut places xs ys) (second : SameBut places ys zs) :
    SameBut places xs zs :=
  ⟨first.1.trans second.1, fun k apart => (first.2 k apart).trans (second.2 k apart)⟩

theorem mono (same : SameBut places xs ys) (wider : places ⊆ places') : SameBut places' xs ys :=
  ⟨same.1, fun k apart => same.2 k fun member => apart (wider member)⟩

/-- Lists that differ nowhere. -/
theorem eq (same : SameBut [] xs ys) : xs = ys := by
  apply List.ext_getElem?
  intro k
  exact same.2 k List.not_mem_nil

/-- What both are overwritten with no longer differs. -/
theorem splice {i : ℕ} {new : List α} (same : SameBut places xs ys)
    (fits : i + new.length ≤ xs.length) :
    SameBut (places.filter fun k => k < i ∨ i + new.length ≤ k)
      (Library.splice xs i new) (Library.splice ys i new) := by
  have fits' : i + new.length ≤ ys.length := same.1 ▸ fits
  refine ⟨by rw [length_splice fits, length_splice fits', same.1], ?_⟩
  intro k apart
  rw [List.mem_filter, decide_eq_true_iff, not_and] at apart
  rw [getElem?_splice fits, getElem?_splice fits']
  by_cases before : k < i
  · rw [if_pos before, if_pos before]
    exact same.2 k fun member => apart member (.inl before)
  · rw [if_neg before, if_neg before]
    by_cases inside : k < i + new.length
    · rw [if_pos inside, if_pos inside]
    · rw [if_neg inside, if_neg inside]
      exact same.2 k fun member => apart member (.inr (by omega))

/-- Overwriting changes nothing elsewhere. -/
theorem of_splice {i : ℕ} {new : List α} (fits : i + new.length ≤ xs.length) :
    SameBut (List.range' i new.length) xs (Library.splice xs i new) := by
  refine ⟨(length_splice fits).symm, ?_⟩
  intro k apart
  rw [List.mem_range'_1] at apart
  rw [getElem?_splice fits]
  by_cases before : k < i
  · rw [if_pos before]
  · rw [if_neg before, if_neg (by omega)]

/-- What is overwritten where they may differ anyway. -/
theorem splice_within {i : ℕ} {new new' : List α} (same : SameBut places xs ys)
    (length : new'.length = new.length) (fits : i + new.length ≤ xs.length)
    (within : List.range' i new.length ⊆ places) :
    SameBut places (Library.splice xs i new) (Library.splice ys i new') := by
  have fits' : i + new'.length ≤ ys.length := by
    rw [length, ← same.1]
    exact fits
  have first : SameBut places xs (Library.splice xs i new) := (of_splice fits).mono within
  have second : SameBut places ys (Library.splice ys i new') :=
    (of_splice fits').mono (length ▸ within)
  exact (first.symm.trans same).trans second

/-- The same lists before and behind. -/
theorem append (same : SameBut places xs ys) (front back : List α) :
    SameBut (places.map (front.length + ·)) (front ++ xs ++ back) (front ++ ys ++ back) := by
  constructor
  · simp only [List.length_append, same.1]
  · intro k apart
    rw [List.append_assoc, List.append_assoc]
    by_cases before : k < front.length
    · rw [List.getElem?_append_left before, List.getElem?_append_left before]
    · have behind : front.length ≤ k := not_lt.mp before
      rw [List.getElem?_append_right behind, List.getElem?_append_right behind]
      by_cases inside : k - front.length < xs.length
      · rw [List.getElem?_append_left inside, List.getElem?_append_left (same.1 ▸ inside)]
        apply same.2
        intro member
        apply apart
        rw [List.mem_map]
        exact ⟨_, member, by omega⟩
      · have last : xs.length ≤ k - front.length := not_lt.mp inside
        rw [List.getElem?_append_right last, List.getElem?_append_right (same.1 ▸ last), same.1]

theorem take (same : SameBut places xs ys) (n : ℕ) : SameBut places (xs.take n) (ys.take n) := by
  constructor
  · rw [List.length_take, List.length_take, same.1]
  · intro k apart
    rw [List.getElem?_take, List.getElem?_take, same.2 k apart]

/-- A stretch that nothing was written in. -/
theorem slice {i j : ℕ} (same : SameBut places xs ys) (apart : ∀ k ∈ places, k < i ∨ j ≤ k) :
    Library.slice xs i j = Library.slice ys i j := by
  apply List.ext_getElem?
  intro n
  rw [getElem?_slice, getElem?_slice]
  by_cases inside : i + n < j
  · rw [if_pos inside, if_pos inside]
    refine same.2 _ fun member => ?_
    have := apart _ member
    omega
  · rw [if_neg inside, if_neg inside]

end SameBut

end ReverseTether.Library
