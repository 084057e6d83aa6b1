import ReverseTether.Library.Machine

/-!
# What a machine is to one of its components

A machine may hold components that are machines themselves, and that come to be in the middle
of a run.  `Tracks` says that one of them goes by its own rules, whatever else the machine
does: whenever the machine takes a step the component takes some steps of its own, none or many.
What the component looks like from outside (`sees`) may depend on the history of both, so that
a record that the component keeps can be compared with what the machine has done.

`Tracks.run` is the induction that everything about components rests on: a component that is
there at the end of a run is at the end of a run of its own.  In most cases the two runs are
compared step by step (`Aligned`): since the component was born, each step of the machine is a
block of its steps, in the same order.
-/

namespace ReverseTether.Library.Machine

universe u v w x

variable {σ : Type u} {ℓ : Type v} {τ : Type w} {κ : Type x} {M : Machine σ ℓ} {N : Machine τ κ}

/-! ### Blocks of steps -/

/-- Steps from a state that need not be a start: what one machine does while another is looked at.
-/
inductive Path (N : Machine τ κ) (r : τ) : List (τ × κ) → τ → Prop
  | refl : Path N r [] r
  | step {t : List (τ × κ)} {r' r'' : τ} {l : κ} :
      Path N r t r' → N.step r' l r'' → Path N r (t ++ [(r', l)]) r''

namespace Path

variable {t t' : List (τ × κ)} {r r' r'' : τ}

theorem single {l : κ} (step : N.step r l r') : Path N r [(r, l)] r' := .step .refl step

theorem trans (first : Path N r t r') (second : Path N r' t' r'') : Path N r (t ++ t') r'' := by
  induction second with
  | refl =>
      rw [List.append_nil]
      exact first
  | step _ step ih =>
      rw [← List.append_assoc]
      exact .step ih step

/-- A run goes on along a path. -/
theorem run {before : List (τ × κ)} (path : Path N r t r') (run : N.Run before r) :
    N.Run (before ++ t) r' := by
  induction path with
  | refl =>
      rw [List.append_nil]
      exact run
  | step _ step ih =>
      rw [← List.append_assoc]
      exact .step ih step

/-- A path of no step. -/
theorem of_nil (path : Path N r [] r') : r' = r := by
  generalize steps : ([] : List (τ × κ)) = t at path
  cases path with
  | refl => rfl
  | step _ _ => simp at steps

/-- A path of one step. -/
theorem of_single {r₁ : τ} {l : κ} (path : Path N r [(r₁, l)] r') : r₁ = r ∧ N.step r l r' := by
  generalize steps : [(r₁, l)] = t at path
  cases path with
  | refl => cases steps
  | step first step =>
      have split := (List.nil_append _).trans steps
      obtain ⟨none, last⟩ := List.append_inj' split rfl
      cases none
      cases last
      cases first.of_nil
      exact ⟨rfl, step⟩

/-- What every step keeps. -/
theorem invariant (inv : τ → Prop) (preserved : ∀ r l r', inv r → N.step r l r' → inv r')
    (path : Path N r t r') (holds : inv r) : inv r' := by
  induction path with
  | refl => exact holds
  | step _ step ih => exact preserved _ _ _ ih step

end Path

/-! ### Components -/

/-- The component was born in the first of the steps `since`.  Before that the whole has no such
component, and its run begins there. -/
structure Born (present : σ → Prop) (before since : List (σ × ℓ)) : Prop where
  before : ∀ p ∈ before, ¬ present p.1
  since : ∃ p rest, since = p :: rest ∧ ¬ present p.1 ∧ ∀ q ∈ rest, present q.1

namespace Born

variable {present : σ → Prop} {t before since : List (σ × ℓ)} {s : σ} {l : ℓ}

theorem now (earlier : ∀ p ∈ t, ¬ present p.1) (here : ¬ present s) : Born present t [(s, l)] :=
  ⟨earlier, (s, l), [], rfl, here, fun _ mem => absurd mem List.not_mem_nil⟩

theorem later (born : Born present before since) (here : present s) :
    Born present before (since ++ [(s, l)]) := by
  obtain ⟨p, rest, rfl, first, others⟩ := born.since
  refine ⟨born.before, p, rest ++ [(s, l)], rfl, first, fun q mem => ?_⟩
  rcases List.mem_append.mp mem with earlier | last
  · exact others q earlier
  · rw [List.mem_singleton.mp last]
    exact here

end Born

/-- **A component of `M` that goes by `N`.**  It is there where `present` holds, and `sees` says
what it looks like. -/
structure Tracks (M : Machine σ ℓ) (N : Machine τ κ) (present : σ → Prop)
    (sees : List (σ × ℓ) → σ → List (τ × κ) → τ → Prop) : Prop where
  absent : ∀ {s}, M.start s → ¬ present s
  stays : ∀ {t s l s'}, M.Run t s → M.step s l s' → present s → present s'
  /-- It is born in the middle of a step, and may already go on in it. -/
  born : ∀ {t s l s'}, M.Run t s → M.step s l s' → (∀ p ∈ t, ¬ present p.1) → ¬ present s →
    present s' → ∃ own r, N.Run own r ∧ sees (t ++ [(s, l)]) s' own r
  goes : ∀ {t s l s' own r}, M.Run t s → M.step s l s' → present s → N.Run own r →
    sees t s own r → ∃ block r', Path N r block r' ∧ sees (t ++ [(s, l)]) s' (own ++ block) r'

namespace Tracks

variable {present : σ → Prop} {sees : List (σ × ℓ) → σ → List (τ × κ) → τ → Prop}

/-- Where it is not, it has not been before. -/
theorem absent_before (tracks : Tracks M N present sees) {t : List (σ × ℓ)} {s : σ}
    (run : M.Run t s) (here : ¬ present s) : ∀ p ∈ t, ¬ present p.1 := by
  induction run with
  | start _ => exact fun p mem => absurd mem List.not_mem_nil
  | @step t s s' l run step ih =>
      have there : ¬ present s := fun there => here (tracks.stays run step there)
      intro p mem
      rcases List.mem_append.mp mem with earlier | last
      · exact ih there p earlier
      · rw [List.mem_singleton.mp last]
        exact there

/-- **The run of a component.**  A run of the whole is a run of each of its parts, with stuttering
steps left out; invariants of the part hold in the whole by this lemma. -/
theorem run (tracks : Tracks M N present sees) {t : List (σ × ℓ)} {s : σ} (run : M.Run t s)
    (here : present s) : ∃ own r, N.Run own r ∧ sees t s own r := by
  induction run with
  | start starts => exact absurd here (tracks.absent starts)
  | @step t s s' l run step ih =>
      by_cases there : present s
      · obtain ⟨own, r, runs, seen⟩ := ih there
        obtain ⟨block, r', path, seen'⟩ := tracks.goes run step there runs seen
        exact ⟨own ++ block, r', path.run runs, seen'⟩
      · exact tracks.born run step (tracks.absent_before run there) there here

end Tracks

/-! ### Step by step -/

/-- Since the component was born its run falls into one block for each step of the machine. -/
def Aligned (present : σ → Prop) (shows : σ → ℓ → List (τ × κ) → Prop) (t : List (σ × ℓ))
    (own : List (τ × κ)) : Prop :=
  ∃ (before since : List (σ × ℓ)) (blocks : List (List (τ × κ))),
    t = before ++ since ∧ Born present before since ∧ own = blocks.flatten ∧
      List.Forall₂ (fun p block => shows p.1 p.2 block) since blocks

namespace Aligned

variable {present : σ → Prop} {shows : σ → ℓ → List (τ × κ) → Prop} {t : List (σ × ℓ)}
  {own block : List (τ × κ)} {s : σ} {l : ℓ}

theorem born (earlier : ∀ p ∈ t, ¬ present p.1) (here : ¬ present s) (shown : shows s l block) :
    Aligned present shows (t ++ [(s, l)]) block :=
  ⟨t, [(s, l)], [block], rfl, .now earlier here, (List.flatten_singleton).symm, .cons shown .nil⟩

theorem goes (aligned : Aligned present shows t own) (here : present s) (shown : shows s l block) :
    Aligned present shows (t ++ [(s, l)]) (own ++ block) := by
  obtain ⟨before, since, blocks, rfl, born, rfl, each⟩ := aligned
  refine ⟨before, since ++ [(s, l)], blocks ++ [block], List.append_assoc _ _ _, born.later here, ?_,
    List.rel_append each (.cons shown .nil)⟩
  rw [List.flatten_append, List.flatten_singleton]

end Aligned

end ReverseTether.Library.Machine
