import Mathlib.Tactic

/-!
# Labelled machines and their runs

A machine is a set of start states and a labelled step relation.  A run records
every step taken as the pair of the state it was taken in and its label, so a
condition on the steps of a run is a predicate on those pairs.

`Run.invariant` is the induction rule everything else uses: a state predicate
that holds at the start and is preserved by every step that meets a guard holds
at the end of each run whose steps all meet it.  `Run.split` reads a run at one
of its steps, which is how a statement about every state reached follows from
one about the last state; `Run.always_iff` combines the two where the guard is
also necessary.

Steps may be conditional on anything, since the relation is arbitrary; a step that panics is
modelled by its absence, which a user has to exclude by a lemma that says that steps exist.
Refinement is the plain one: each step of the one machine is a step of the other under a map
of the states and of the labels.
-/

namespace ReverseTether.Library

universe u v

/-- A labelled transition system with its start states.  The label says what the step met, so that
a run can be held to conditions on it. -/
structure Machine (σ : Type u) (ℓ : Type v) where
  start : σ → Prop
  step : σ → ℓ → σ → Prop

namespace Machine

variable {σ : Type u} {ℓ : Type v} {M : Machine σ ℓ}

/-- `M.Run t s`: the steps `t`, taken from a start state, lead to `s`. -/
inductive Run (M : Machine σ ℓ) : List (σ × ℓ) → σ → Prop
  | start {s : σ} : M.start s → Run M [] s
  | step {t : List (σ × ℓ)} {s s' : σ} {l : ℓ} :
      Run M t s → M.step s l s' → Run M (t ++ [(s, l)]) s'

/-- A state that some run reaches.  The labels of the run are forgotten, and with them its history.
-/
def Reachable (M : Machine σ ℓ) (s : σ) : Prop := ∃ t, M.Run t s

/-- Every step of `t` meets the guard.  The guard is asked of the state before the step, and of its
label. -/
def Meets (guard : σ → ℓ → Prop) (t : List (σ × ℓ)) : Prop := ∀ p ∈ t, guard p.1 p.2

@[simp] theorem meets_nil (guard : σ → ℓ → Prop) : Meets guard [] := by
  simp [Meets]

theorem meets_true (t : List (σ × ℓ)) : Meets (fun _ _ => True) t := fun _ _ => trivial

theorem meets_append {guard : σ → ℓ → Prop} {t t' : List (σ × ℓ)} :
    Meets guard (t ++ t') ↔ Meets guard t ∧ Meets guard t' := by
  simp only [Meets, List.mem_append]
  exact ⟨fun h => ⟨fun p hp => h p (.inl hp), fun p hp => h p (.inr hp)⟩,
    fun h p hp => hp.elim (h.1 p) (h.2 p)⟩

@[simp] theorem meets_singleton {guard : σ → ℓ → Prop} {s : σ} {l : ℓ} :
    Meets guard [(s, l)] ↔ guard s l := by
  simp [Meets]

namespace Run

/-- **The invariant rule.**  A predicate that holds at the start and that every
guarded step preserves holds after every run whose steps all meet the guard. -/
theorem invariant (inv : σ → Prop) {guard : σ → ℓ → Prop}
    (init : ∀ s, M.start s → inv s)
    (preserved : ∀ s l s', inv s → guard s l → M.step s l s' → inv s')
    {t : List (σ × ℓ)} {s : σ} (run : M.Run t s) (met : Meets guard t) : inv s := by
  induction run with
  | start hs => exact init _ hs
  | step _ hstep ih =>
      rw [meets_append, meets_singleton] at met
      exact preserved _ _ _ (ih met.1) met.2 hstep

/-- A run read at one of its steps. -/
theorem split {t₁ t₂ : List (σ × ℓ)} {p : σ × ℓ} {s : σ}
    (run : M.Run (t₁ ++ p :: t₂) s) : M.Run t₁ p.1 := by
  induction t₂ using List.reverseRecOn generalizing s with
  | nil =>
      generalize eq : t₁ ++ [p] = t at run
      cases run with
      | start _ => simp at eq
      | step run _ =>
          obtain ⟨rfl, last⟩ := List.append_inj' eq rfl
          cases last
          exact run
  | append_singleton front last ih =>
      generalize eq : t₁ ++ p :: (front ++ [last]) = t at run
      cases run with
      | start _ => simp at eq
      | step run _ =>
          rw [← List.cons_append, ← List.append_assoc] at eq
          obtain ⟨rfl, -⟩ := List.append_inj' eq rfl
          exact ih run

/-- The state a step was taken in is reached by the steps before it. -/
theorem of_mem {t : List (σ × ℓ)} {p : σ × ℓ} {s : σ} (run : M.Run t s) (mem : p ∈ t) :
    ∃ t₁ t₂, t = t₁ ++ p :: t₂ ∧ M.Run t₁ p.1 := by
  obtain ⟨t₁, t₂, rfl⟩ := List.append_of_mem mem
  exact ⟨t₁, t₂, rfl, run.split⟩

/-- **The exactness rule.**  Where the invariant makes a state good and a step
outside the guard makes it bad, the states of a run are all good iff its steps
all meet the guard. -/
theorem always_iff (inv good : σ → Prop) {guard : σ → ℓ → Prop}
    (init : ∀ s, M.start s → inv s)
    (preserved : ∀ s l s', inv s → guard s l → M.step s l s' → inv s')
    (kept : ∀ s, inv s → good s)
    (breaks : ∀ s l s', inv s → ¬ guard s l → M.step s l s' → ¬ good s')
    {t : List (σ × ℓ)} {s : σ} (run : M.Run t s) :
    ((∀ p ∈ t, good p.1) ∧ good s) ↔ Meets guard t := by
  constructor
  · intro h
    induction run with
    | start _ => exact meets_nil _
    | @step t s s' l run step ih =>
        have before : ∀ p ∈ t, good p.1 := fun p hp => h.1 p (List.mem_append_left _ hp)
        have met := ih ⟨before, h.1 (s, l) (by simp)⟩
        rw [meets_append, meets_singleton]
        refine ⟨met, ?_⟩
        by_contra outside
        exact breaks s l s' (run.invariant inv init preserved met) outside step h.2
  · intro met
    refine ⟨fun p hp => ?_, kept s (run.invariant inv init preserved met)⟩
    obtain ⟨t₁, t₂, rfl, before⟩ := run.of_mem hp
    exact kept _ (before.invariant inv init preserved (meets_append.mp met).1)

end Run

/-! ### Refinement -/

section Refinement

variable {τ : Type v} {κ : Type u} {N : Machine τ κ}

/-- `abs` and `read` take every start state and every step of `M` to one of `N`. -/
structure Refines (M : Machine σ ℓ) (N : Machine τ κ) (abs : σ → τ) (read : σ → ℓ → κ) :
    Prop where
  start : ∀ s, M.start s → N.start (abs s)
  step : ∀ s l s', M.step s l s' → N.step (abs s) (read s l) (abs s')

/-- A run of the refining machine is a run of the other one, step by step. -/
theorem Refines.run {abs : σ → τ} {read : σ → ℓ → κ} (refines : M.Refines N abs read)
    {t : List (σ × ℓ)} {s : σ} (run : M.Run t s) :
    N.Run (t.map fun p => (abs p.1, read p.1 p.2)) (abs s) := by
  induction run with
  | start hs => exact .start (refines.start _ hs)
  | step _ hstep ih =>
      rw [List.map_append]
      exact .step ih (refines.step _ _ _ hstep)

end Refinement

end Machine

end ReverseTether.Library
