import Mathlib.Tactic

/-!
# Histories

A history is a list that only grows at its end.  A condition on an entry may look
at what was recorded before it; `Each` says that all entries meet it.  It holds of
a history that grew by one entry exactly when it held before and the new entry
meets the condition (`each_append`), which is all that an invariant about a
history needs.

The entries before the new one are part of the condition, so that a history can say of an
entry that it was the first of its kind, or that another one came before.  A property of the
whole history that does not grow entry by entry has to be turned into one of the entries
first; the lemmas here are the rule for those that do.
-/

namespace ReverseTether.Library

universe u

variable {α : Type u}

/-- Where an element of a list that grew by one is. -/
theorem append_singleton_eq {l pre post : List α} {a x : α} (h : l ++ [a] = pre ++ x :: post) :
    (post = [] ∧ pre = l ∧ x = a) ∨ ∃ post', post = post' ++ [a] ∧ l = pre ++ x :: post' := by
  rcases List.eq_nil_or_concat post with rfl | ⟨post', last, rfl⟩
  · obtain ⟨rfl, last⟩ := List.append_inj' h rfl
    exact .inl ⟨rfl, rfl, (List.cons.inj last).1.symm⟩
  · rw [List.concat_eq_append, ← List.cons_append, ← List.append_assoc] at h
    obtain ⟨rfl, last⟩ := List.append_inj' h rfl
    exact .inr ⟨post', by rw [List.concat_eq_append, (List.cons.inj last).1], rfl⟩

/-- Every entry meets a condition on what was before it.  It is the form in which a trace is judged
entry by entry. -/
def Each (cond : List α → α → Prop) (l : List α) : Prop :=
  ∀ pre a post, l = pre ++ a :: post → cond pre a

@[simp] theorem each_nil (cond : List α → α → Prop) : Each cond [] := by
  intro pre a post h
  simp at h

/-- A condition that no entry is subject to. -/
theorem each_of_forall_mem {cond : List α → α → Prop} {l : List α}
    (h : ∀ a ∈ l, ∀ pre, cond pre a) : Each cond l := by
  intro pre a post split
  exact h a (split ▸ List.mem_append_right _ List.mem_cons_self) pre

theorem each_append {cond : List α → α → Prop} {l : List α} {a : α} :
    Each cond (l ++ [a]) ↔ Each cond l ∧ cond l a := by
  constructor
  · intro h
    refine ⟨fun pre x post split => h pre x (post ++ [a]) ?_, h l a [] rfl⟩
    rw [split, List.append_assoc, List.cons_append]
  · rintro ⟨before, last⟩ pre x post split
    rcases append_singleton_eq split with ⟨-, rfl, rfl⟩ | ⟨post', -, split⟩
    · exact last
    · exact before pre x post' split

theorem each_cons {cond : List α → α → Prop} {l : List α} {a : α} :
    Each cond (a :: l) ↔ cond [] a ∧ Each (fun pre b => cond (a :: pre) b) l := by
  constructor
  · intro h
    refine ⟨h [] a l rfl, fun pre b post split => h (a :: pre) b post ?_⟩
    rw [split, List.cons_append]
  · rintro ⟨first, rest⟩ pre b post split
    cases pre with
    | nil =>
        cases split
        exact first
    | cons c pre =>
        obtain ⟨rfl, rfl⟩ := List.cons_eq_cons.mp split
        exact rest pre b post rfl

/-- A condition on the past stays met when the future is forgotten. -/
theorem Each.of_prefix {cond : List α → α → Prop} {l l' : List α} (h : Each cond l')
    (earlier : l <+: l') : Each cond l := by
  obtain ⟨rest, rfl⟩ := earlier
  intro pre a post split
  refine h pre a (post ++ rest) ?_
  rw [split, List.append_assoc, List.cons_append]

end ReverseTether.Library
