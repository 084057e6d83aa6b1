import Mathlib.Tactic

/-!
# Slabs

A slab hands out the key of a vacant entry for every value it stores, and a key may be
handed out again once its entry was removed.  `Slab` lists the operations and
`Slab.Lawful` what they promise; which vacant key an insertion takes is left open.

`Lawful.removeAll` is the rule for removing a list of keys, and `Slab.entries` is the slab
that takes the first vacant key.

The laws are those a caller relies on: an insertion returns a key that was vacant and stores
the value under it, a removal takes the value out and fails on a vacant key, and all other
entries stay.  Nothing is said about the order in which keys are reused, so what is proved
over them holds of any strategy.

`entries` keeps its values in a list of optional entries.  It is there so that the laws are
known to be satisfiable, and so that a run over a slab can be evaluated.
-/

namespace ReverseTether.Library

universe u v

variable {σ : Type u} {α : Type v}

/-- The operations of a slab.  To remove a vacant key is a panic, which is `none`. -/
structure Slab (σ : Type u) (α : Type v) where
  empty : σ
  insert : σ → α → ℕ × σ
  get : σ → ℕ → Option α
  remove : σ → ℕ → Option σ

namespace Slab

/-- What the operations promise: a key that is given out was vacant, what was inserted is found
until it is removed, and no operation touches another key. -/
structure Lawful (slab : Slab σ α) : Prop where
  get_empty : ∀ key, slab.get slab.empty key = none
  vacant : ∀ s a, slab.get s (slab.insert s a).1 = none
  get_insert : ∀ s a key, slab.get (slab.insert s a).2 key =
    if key = (slab.insert s a).1 then some a else slab.get s key
  remove_isSome : ∀ s key, (slab.remove s key).isSome = (slab.get s key).isSome
  get_remove : ∀ s s' key key', slab.remove s key = some s' →
    slab.get s' key' = if key' = key then none else slab.get s key'

namespace Lawful

variable {slab : Slab σ α}

/-- A key that is handed out is no key in use. -/
theorem insert_ne (laws : slab.Lawful) {s : σ} {a b : α} {key : ℕ} (used : slab.get s key = some b) :
    (slab.insert s a).1 ≠ key := by
  rintro rfl
  rw [laws.vacant] at used
  cases used

theorem get_insert_of_used (laws : slab.Lawful) {s : σ} {a b : α} {key : ℕ}
    (used : slab.get s key = some b) : slab.get (slab.insert s a).2 key = some b := by
  rw [laws.get_insert, if_neg (laws.insert_ne used).symm, used]

/-- **Distinct keys in use are removed**, and nothing else is.  The order of the removals does not
matter, as no key is removed twice; a key that is not in use would be a panic. -/
theorem removeAll (laws : slab.Lawful) {keys : List ℕ} {s : σ} (distinct : keys.Nodup)
    (used : ∀ key ∈ keys, slab.get s key ≠ none) :
    ∃ s', keys.foldlM slab.remove s = some s' ∧
      ∀ key, slab.get s' key = if key ∈ keys then none else slab.get s key := by
  induction keys generalizing s with
  | nil => exact ⟨s, rfl, fun key => by rw [if_neg List.not_mem_nil]⟩
  | cons key keys ih =>
      obtain ⟨fresh, distinct⟩ := List.nodup_cons.mp distinct
      have present : (slab.remove s key).isSome = true := by
        rw [laws.remove_isSome, Option.isSome_iff_ne_none]
        exact used key List.mem_cons_self
      obtain ⟨s₁, removed⟩ := Option.isSome_iff_exists.mp present
      have used₁ : ∀ key' ∈ keys, slab.get s₁ key' ≠ none := by
        intro key' mem
        have other : key' ≠ key := fun same => fresh (same ▸ mem)
        rw [laws.get_remove s s₁ key key' removed, if_neg other]
        exact used key' (List.mem_cons_of_mem _ mem)
      obtain ⟨s', rest, get⟩ := ih distinct used₁
      refine ⟨s', ?_, fun key' => ?_⟩
      · rw [List.foldlM_cons, removed]
        exact rest
      · rw [get, laws.get_remove s s₁ key key' removed]
        by_cases first : key' = key
        · have here : key' ∈ key :: keys := by
            rw [first]
            exact List.mem_cons_self
          rw [if_pos here, if_pos first, ite_self]
        · simp only [List.mem_cons, first, false_or, if_false]

end Lawful

/-- The entries in a list, the first vacant one being taken. -/
def entries : Slab (List (Option α)) α where
  empty := []
  insert s a := (s.findIdx Option.isNone,
    if s.findIdx Option.isNone < s.length then s.set (s.findIdx Option.isNone) (some a)
    else s ++ [some a])
  get s key := s[key]?.join
  remove s key := if s[key]?.join.isSome then some (s.set key none) else none

theorem entries_lawful : (entries : Slab (List (Option α)) α).Lawful where
  get_empty key := rfl
  vacant s a := by
    show s[s.findIdx Option.isNone]?.join = none
    by_cases inside : s.findIdx Option.isNone < s.length
    · rw [List.getElem?_eq_getElem inside]
      exact Option.isNone_iff_eq_none.mp (List.findIdx_getElem (w := inside))
    · rw [List.getElem?_eq_none (Nat.le_of_not_lt inside)]
      rfl
  get_insert s a key := by
    show (if s.findIdx Option.isNone < s.length then s.set (s.findIdx Option.isNone) (some a)
      else s ++ [some a])[key]?.join = if key = s.findIdx Option.isNone then some a else s[key]?.join
    by_cases inside : s.findIdx Option.isNone < s.length
    · rw [if_pos inside, List.getElem?_set]
      by_cases here : key = s.findIdx Option.isNone
      · rw [if_pos here.symm, if_pos inside, if_pos here]
        rfl
      · rw [if_neg (Ne.symm here), if_neg here]
    · have last : s.findIdx Option.isNone = s.length :=
        Nat.le_antisymm List.findIdx_le_length (Nat.le_of_not_lt inside)
      rw [if_neg inside, last]
      by_cases here : key = s.length
      · rw [if_pos here, here, List.getElem?_concat_length]
        rfl
      · rw [if_neg here, List.getElem?_append]
        split
        · rfl
        · rename_i past
          have beyond : 1 ≤ key - s.length := by omega
          rw [List.getElem?_eq_none (by simpa using beyond), List.getElem?_eq_none (by omega)]
  remove_isSome s key := by
    show (if s[key]?.join.isSome then some (s.set key none) else none).isSome = s[key]?.join.isSome
    split
    · rename_i present
      exact present.symm
    · rename_i absent
      exact (Bool.eq_false_of_not_eq_true absent).symm
  get_remove s s' key key' removed := by
    change (if s[key]?.join.isSome then some (s.set key none) else none) = some s' at removed
    show s'[key']?.join = if key' = key then none else s[key']?.join
    split at removed
    · cases removed
      rw [List.getElem?_set]
      by_cases here : key' = key
      · rw [if_pos here.symm, if_pos here]
        split <;> rfl
      · rw [if_neg (Ne.symm here), if_neg here]
    · cases removed

end Slab

end ReverseTether.Library
