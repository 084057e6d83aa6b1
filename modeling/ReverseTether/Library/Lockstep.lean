import Mathlib.Tactic

/-!
# Two computations in lockstep

`Both E R x y` relates two computations that can fail: they return values that `R` relates,
or fail with the same error, one of `E`.  The rules follow the way computations are put
together, so that two runs of one program from related states are followed side by side, one
rule for each step (`Both.bind`, `Both.ite`).

The rules are stated for one computation on each side, with the relation of the results as a
parameter.  A proof chooses that relation at every step: the two states agree on everything
but the one quantity in which the two runs differ.  Where a test looks at that quantity, the
two runs may part, and the rule for the branch asks for the proof that they do not.

Errors count as results: a run that fails where the other one returns is no lockstep, and `E`
says which failures both may have.
-/

namespace ReverseTether.Library

universe u v

variable {ε : Type u} {α β γ δ : Type v} {E : ε → Prop} {R : α → β → Prop} {S : γ → δ → Prop}

/-- The computations return related values, or the same error of `E`. -/
inductive Both (E : ε → Prop) (R : α → β → Prop) : Except ε α → Except ε β → Prop
  | ok {a : α} {b : β} : R a b → Both E R (.ok a) (.ok b)
  | error {e : ε} : E e → Both E R (.error e) (.error e)

namespace Both

variable {x : Except ε α} {y : Except ε β} {f : α → Except ε γ} {g : β → Except ε δ}

/-- More is known of what they return. -/
theorem imp_eq {R' : α → β → Prop} (both : Both E R x y)
    (known : ∀ a b, x = .ok a → y = .ok b → R a b → R' a b) : Both E R' x y := by
  cases both with
  | ok related => exact .ok (known _ _ rfl rfl related)
  | error allowed => exact .error allowed

theorem mono {R' : α → β → Prop} (both : Both E R x y) (weaker : ∀ a b, R a b → R' a b) :
    Both E R' x y := both.imp_eq fun a b _ _ related => weaker a b related

/-- Fewer errors are possible. -/
theorem errors {E' : ε → Prop} (both : Both E R x y) (allowed : ∀ e, x = .error e → E' e) :
    Both E' R x y := by
  cases both with
  | ok related => exact .ok related
  | error _ => exact .error (allowed _ rfl)

/-- When the first is known to return, so does the second. -/
theorem of_ok {a : α} (both : Both E R x y) (returns : x = .ok a) : ∃ b, y = .ok b ∧ R a b := by
  cases both with
  | ok related =>
      cases returns
      exact ⟨_, rfl, related⟩
  | error _ => cases returns

/-- One step after the other; what the first step returned may be used. -/
theorem bind_eq (both : Both E R x y)
    (rest : ∀ a b, x = .ok a → y = .ok b → R a b → Both E S (f a) (g b)) :
    Both E S (x >>= f) (y >>= g) := by
  cases both with
  | ok related => exact rest _ _ rfl rfl related
  | error allowed => exact .error allowed

theorem bind (both : Both E R x y) (rest : ∀ a b, R a b → Both E S (f a) (g b)) :
    Both E S (x >>= f) (y >>= g) :=
  both.bind_eq fun a b _ _ related => rest a b related

/-- A computation that both make. -/
theorem bind_same {z : Except ε α} {g : α → Except ε δ} (errors : ∀ e, z = .error e → E e)
    (rest : ∀ a, z = .ok a → Both E S (f a) (g a)) : Both E S (z >>= f) (z >>= g) := by
  cases z with
  | ok a => exact rest a rfl
  | error e => exact .error (errors e rfl)

/-- A branch on the same condition. -/
theorem ite {c c' : Prop} [Decidable c] [Decidable c'] {x' : Except ε α} {y' : Except ε β}
    (same : c ↔ c') (yes : c → Both E R x y) (no : ¬ c → Both E R x' y') :
    Both E R (if c then x else x') (if c' then y else y') := by
  by_cases h : c
  · rw [if_pos h, if_pos (same.mp h)]
    exact yes h
  · rw [if_neg h, if_neg (mt same.mpr h)]
    exact no h

end Both

end ReverseTether.Library
