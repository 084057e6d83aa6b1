import Mathlib.Tactic

/-!
# The parts between separators

What a list has at its two ends and inside, by what its parts have: a separator at an end is an
empty part there (`nil_mem_splitOn_cons`, `nil_mem_splitOn_append`), and any other element at an
end is at the same end of a part (`exists_head_splitOn`, `exists_getLast_splitOn`).

Of a string there are the three steps that `String.splitOn` takes, for texts that are given.

Splitting and joining are inverse to each other when the parts have no separator in them,
which Mathlib knows.  What is added here is how the ends of a list decide about its first and
its last part, so that a test on the parts, such as that none of them is empty, can be read as
a test on the list.
-/

namespace ReverseTether.Library

section Lists

universe u

variable {α : Type u} [BEq α] [LawfulBEq α] {a c : α}

theorem splitOn_cons_self (xs : List α) : (a :: xs).splitOn a = [] :: xs.splitOn a := by
  rw [List.splitOn_cons_eq_if_modifyHead, if_pos (BEq.refl a)]

theorem splitOn_cons_of_ne (other : c ≠ a) (xs : List α) :
    ∃ first rest, xs.splitOn a = first :: rest ∧ (c :: xs).splitOn a = (c :: first) :: rest := by
  obtain ⟨first, rest, split⟩ := List.exists_cons_of_ne_nil (List.splitOn_ne_nil a xs)
  refine ⟨first, rest, split, ?_⟩
  rw [List.splitOn_cons_eq_if_modifyHead, if_neg (by simpa using other), split]
  rfl

theorem mem_of_mem_splitOn {xs part : List α} (split : part ∈ xs.splitOn a) (mem : c ∈ part) :
    c ∈ xs := by
  induction xs generalizing part with
  | nil =>
      rw [List.splitOn_nil, List.mem_singleton] at split
      exact split ▸ mem
  | cons x xs ih =>
      by_cases separator : x = a
      · subst separator
        rw [splitOn_cons_self] at split
        obtain rfl | behind := List.mem_cons.mp split
        · exact absurd mem List.not_mem_nil
        · exact List.mem_cons_of_mem x (ih behind mem)
      · obtain ⟨first, rest, before, after⟩ := splitOn_cons_of_ne separator xs
        rw [before] at ih
        rw [after] at split
        obtain rfl | behind := List.mem_cons.mp split
        · obtain rfl | inside := List.mem_cons.mp mem
          · exact List.mem_cons_self
          · exact List.mem_cons_of_mem x (ih List.mem_cons_self inside)
        · exact List.mem_cons_of_mem x (ih (List.mem_cons_of_mem first behind) mem)

omit [BEq α] [LawfulBEq α] in
theorem mem_intercalate {parts : List (List α)} (mem : c ∈ [a].intercalate parts) :
    c = a ∨ ∃ part ∈ parts, c ∈ part := by
  induction parts with
  | nil => exact absurd mem List.not_mem_nil
  | cons first rest ih =>
      cases rest with
      | nil =>
          rw [List.intercalate_singleton] at mem
          exact .inr ⟨first, List.mem_cons_self, mem⟩
      | cons next rest =>
          rw [List.intercalate_cons_cons] at mem
          obtain inside | separator | behind :
              c ∈ first ∨ c = a ∨ c ∈ [a].intercalate (next :: rest) := by simpa using mem
          · exact .inr ⟨first, List.mem_cons_self, inside⟩
          · exact .inl separator
          · obtain separator | ⟨part, among, inside⟩ := ih behind
            · exact .inl separator
            · exact .inr ⟨part, List.mem_cons_of_mem first among, inside⟩

theorem nil_mem_splitOn_cons (xs : List α) : [] ∈ (a :: xs).splitOn a := by
  rw [splitOn_cons_self]
  exact List.mem_cons_self

theorem nil_mem_splitOn_append (xs : List α) : [] ∈ (xs ++ [a]).splitOn a := by
  rw [List.splitOn_append_cons_self, List.splitOn_nil]
  exact List.mem_append_right _ List.mem_cons_self

theorem exists_head_splitOn (other : c ≠ a) (xs : List α) :
    ∃ part ∈ (c :: xs).splitOn a, part.head? = some c := by
  obtain ⟨first, rest, -, split⟩ := splitOn_cons_of_ne other xs
  rw [split]
  exact ⟨c :: first, List.mem_cons_self, rfl⟩

theorem exists_getLast_splitOn (other : c ≠ a) (xs : List α) :
    ∃ part ∈ (xs ++ [c]).splitOn a, part.getLast? = some c := by
  induction xs with
  | nil =>
      obtain ⟨first, rest, before, after⟩ := splitOn_cons_of_ne other []
      obtain ⟨rfl, rfl⟩ : first = [] ∧ rest = [] := by simpa using before.symm
      exact ⟨[c], by simp [after], rfl⟩
  | cons x xs ih =>
      obtain ⟨part, mem, last⟩ := ih
      rw [List.cons_append]
      by_cases separator : x = a
      · subst separator
        rw [splitOn_cons_self]
        exact ⟨part, List.mem_cons_of_mem [] mem, last⟩
      · obtain ⟨first, rest, before, after⟩ := splitOn_cons_of_ne separator (xs ++ [c])
        rw [before] at mem
        rw [after]
        obtain rfl | behind := List.mem_cons.mp mem
        · refine ⟨x :: part, List.mem_cons_self, ?_⟩
          rw [List.getLast?_cons, last]
          rfl
        · exact ⟨part, List.mem_cons_of_mem (x :: first) behind, last⟩

end Lists

section Strings

variable {s sep : String} {b i j : String.Pos.Raw} {r : List String}

theorem splitOnAux_end (last : i.atEnd s = true) :
    String.splitOnAux s sep b i j r = (b.extract s i :: r).reverse := by
  rw [String.splitOnAux]
  exact if_pos last

theorem splitOnAux_next (more : i.atEnd s = false) (other : (i.get s == j.get sep) = false) :
    String.splitOnAux s sep b i j r =
      String.splitOnAux s sep b ((i.unoffsetBy j).next s) 0 r := by
  rw [String.splitOnAux, more, other]
  rfl

theorem splitOnAux_separator (more : i.atEnd s = false) (same : (i.get s == j.get sep) = true)
    (whole : (j.next sep).atEnd sep = true) :
    String.splitOnAux s sep b i j r =
      String.splitOnAux s sep (i.next s) (i.next s) 0
        (b.extract s ((i.next s).unoffsetBy (j.next sep)) :: r) := by
  rw [String.splitOnAux, more, same, if_neg Bool.false_ne_true, if_pos rfl]
  exact if_pos whole

end Strings

end ReverseTether.Library
