import Mathlib.Tactic

/-!
# Triples for computations that throw and keep a state

`Triple P x Q` is total correctness of a computation in `ExceptT ε (StateM σ)`: from a state of
`P` it ends with a result and in a state that `Q` relates.  An exception is a result like any
other, and the state at the throw is kept, so that one postcondition says what holds behind a
call that has failed half-way.

There is one rule for each construct, and `Triple.tryCatch` and `Triple.andFinally` say of the
two constructs that go on behind an exception from where they do.

The postcondition relates the result to the state behind.  What it is to say of the state
before has to be named in the precondition, by a variable that both share.  Nothing is assumed
about the type of the states.

A proof is read along the program: `Triple.bind` takes what the first part ends with as the
precondition of the rest, and its rule for a throw is that the rest is left out.
-/

namespace ReverseTether.Library

universe u

variable {ε σ α β : Type u}

/-- From a state of `pre` the computation ends as `post` says.  An exception is one of the ends,
and `post` speaks of both. -/
def Triple (pre : σ → Prop) (x : ExceptT ε (StateM σ) α) (post : Except ε α → σ → Prop) : Prop :=
  ∀ s, pre s → post (x.run.run s).1 (x.run.run s).2

namespace Triple

variable {pre : σ → Prop} {x : ExceptT ε (StateM σ) α} {post : Except ε α → σ → Prop}

theorem weaken {pre' : σ → Prop} {post' : Except ε α → σ → Prop} (triple : Triple pre x post)
    (strong : ∀ s, pre' s → pre s) (weak : ∀ r s, post r s → post' r s) :
    Triple pre' x post' :=
  fun s holds ↦ weak _ _ (triple s (strong s holds))

theorem get {post : Except ε σ → σ → Prop} :
    Triple (fun s ↦ post (.ok s) s) (MonadState.get) post := fun _ holds ↦ holds

theorem update {f : σ → σ} {post : Except ε PUnit → σ → Prop} :
    Triple (fun s ↦ post (.ok ⟨⟩) (f s)) (modify f) post := fun _ holds ↦ holds

/-- One step after the other; behind an exception there is no second one. -/
theorem bind {f : α → ExceptT ε (StateM σ) β} {mid : Except ε α → σ → Prop}
    {post : Except ε β → σ → Prop} (first : Triple pre x mid)
    (rest : ∀ a, Triple (mid (.ok a)) (f a) post)
    (thrown : ∀ e s, mid (.error e) s → post (.error e) s) : Triple pre (x >>= f) post := by
  intro s holds
  have middle := first s holds
  rw [ExceptT.run_bind, StateT.run_bind]
  revert middle
  rcases x.run.run s with ⟨e | a, s'⟩
  · intro middle
    exact thrown e s' middle
  · intro middle
    exact rest a s' middle

theorem ite {c : Prop} [Decidable c] {y : ExceptT ε (StateM σ) α}
    (yes : c → Triple pre x post) (no : ¬c → Triple pre y post) :
    Triple pre (if c then x else y) post := by
  by_cases h : c
  · rw [if_pos h]
    exact yes h
  · rw [if_neg h]
    exact no h

theorem tryCatch {h : ε → ExceptT ε (StateM σ) α} {mid : Except ε α → σ → Prop}
    (body : Triple pre x mid) (returned : ∀ a s, mid (.ok a) s → post (.ok a) s)
    (handler : ∀ e, Triple (mid (.error e)) (h e) post) :
    Triple pre (MonadExcept.tryCatch x h) post := by
  intro s holds
  have middle := body s holds
  rw [ExceptT.run_tryCatch, StateT.run_bind]
  revert middle
  rcases x.run.run s with ⟨e | a, s'⟩
  · intro middle
    exact handler e s' middle
  · intro middle
    exact returned a s' middle

/-- The finalizer goes on from where the body has ended, however it has. -/
theorem run_tryFinally (x : ExceptT ε (StateM σ) α) (f : ExceptT ε (StateM σ) β) (s : σ) :
    ((MonadFinally.tryFinally' x fun _ ↦ f).run.run s).2 =
      (f.run.run (x.run.run s).2).2 := by
  simp only [MonadFinally.tryFinally', ExceptT.run_mk, StateT.run_bind]
  rcases body : x.run.run s with ⟨e | a, s'⟩ <;>
    rcases last : f.run.run s' with ⟨e' | b, s''⟩ <;>
    · have body' : x s = _ := body
      have last' : f s' = _ := last
      simp only [StateT.run, body', last']
      rfl

theorem andFinally {f : ExceptT ε (StateM σ) β} {mid last : σ → Prop}
    (body : Triple pre x fun _ ↦ mid) (finalizer : Triple mid f fun _ ↦ last) :
    Triple pre (tryFinally x f) fun _ ↦ last := by
  intro s holds
  have ended := finalizer _ (body s holds)
  rw [← run_tryFinally] at ended
  unfold tryFinally
  rw [ExceptT.run_map, StateT.run_map]
  exact ended

end Triple

end ReverseTether.Library
