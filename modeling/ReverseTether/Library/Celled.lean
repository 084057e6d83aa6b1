import Mathlib.Tactic

/-!
# Programs over cells that are borrowed at run time

A cell carries a flag that counts its borrows.  To borrow it mutably takes a flag of zero,
to borrow it at all takes a flag that is not negative, and a refused borrow is a panic.  A
`Celled` program borrows cells in nested scopes, shares some other state, and may panic on its
own account.

`Computes free pre x y` says what such a program comes to when its borrows are left out: from
every state that meets `pre`, with the cells `free` not borrowed, it does what `y` does, and
hands every flag back as it was.  So no borrow is refused on the way.  There is one rule for
each way to build a program; the rule for a scope takes the cell out of those that are free
inside.
-/

namespace ReverseTether.Library

variable {κ σ ε α β : Type}

/-- The flag of a cell: how many borrow it, or `-1` when it is borrowed mutably. -/
abbrev Flags (κ : Type) := κ → ℤ

/-- How a program over cells fails: a borrow is refused because the cell is borrowed already, or
the program panics by itself. -/
inductive Fault (κ ε : Type)
  /-- The borrow of a cell is refused. -/
  | borrowed (cell : κ)
  | panic (e : ε)
  deriving DecidableEq, Repr

/-- Programs over a state that is shared through cells: they read and set the flags of the cells,
and end with a fault of the program or of a borrow. -/
abbrev Celled (κ σ ε : Type) := StateT (Flags κ × σ) (Except (Fault κ ε))

namespace Celled

/-- A part that borrows no cell and leaves the shared state alone. -/
def lift (x : Except ε α) : Celled κ σ ε α := fun s =>
  match x with
  | .ok a => .ok (a, s)
  | .error e => .error (.panic e)

/-- A part that borrows no cell. -/
def shared (x : StateT σ (Except ε) α) : Celled κ σ ε α := fun (flags, s) =>
  match x.run s with
  | .ok (a, s) => .ok (a, flags, s)
  | .error e => .error (.panic e)

variable [DecidableEq κ]

/-- `cell.borrow_mut()`, for the length of `body`. -/
def borrowMut (cell : κ) (body : Celled κ σ ε α) : Celled κ σ ε α := do
  let (flags, s) ← get
  if flags cell = 0 then
    set (Function.update flags cell (-1), s)
    let a ← body
    modify fun (flags, s) => (Function.update flags cell (flags cell + 1), s)
    return a
  else throw (.borrowed cell)

/-- `cell.borrow()`, for the length of `body`. -/
def borrow (cell : κ) (body : Celled κ σ ε α) : Celled κ σ ε α := do
  let (flags, s) ← get
  if 0 ≤ flags cell then
    set (Function.update flags cell (flags cell + 1), s)
    let a ← body
    modify fun (flags, s) => (Function.update flags cell (flags cell - 1), s)
    return a
  else throw (.borrowed cell)

end Celled

/-- The end of a program that has handed its flags back. -/
def returning (flags : Flags κ) : Except ε (α × σ) → Except (Fault κ ε) (α × Flags κ × σ)
  | .ok (a, s) => .ok (a, flags, s)
  | .error e => .error (.panic e)

/-- The cells in `free` are not borrowed.  The others may be borrowed or not; a computation is only
told of those that it may borrow. -/
def Free (free : Set κ) (flags : Flags κ) : Prop := ∀ cell ∈ free, flags cell = 0

/-- **Without its borrows the program is `y`.** -/
def Computes (free : Set κ) (pre : σ → Prop) (x : Celled κ σ ε α) (y : StateT σ (Except ε) α) :
    Prop :=
  ∀ flags s, Free free flags → pre s → x.run (flags, s) = returning flags (y.run s)

theorem Free.mono {free free' : Set κ} {flags : Flags κ} (unused : Free free' flags)
    (le : free ⊆ free') : Free free flags := fun cell mem => unused cell (le mem)

/-- What is borrowed besides `cell` is free as before. -/
theorem Free.update [DecidableEq κ] {free : Set κ} {flags : Flags κ} (unused : Free free flags)
    (cell : κ) (flag : ℤ) : Free (free \ {cell}) (Function.update flags cell flag) := by
  intro other mem
  rw [Function.update_of_ne mem.2]
  exact unused other mem.1

namespace Computes

variable {free free' : Set κ} {pre pre' : σ → Prop} {x : Celled κ σ ε α} {y : StateT σ (Except ε) α}

theorem mono (computes : Computes free pre x y) (le : free ⊆ free') (weaker : ∀ s, pre' s → pre s) :
    Computes free' pre' x y :=
  fun flags s unused holds => computes flags s (unused.mono le) (weaker s holds)

/-- The programs have to agree where they are run. -/
theorem congr {y' : StateT σ (Except ε) α} (computes : Computes free pre x y)
    (same : ∀ s, pre s → y.run s = y'.run s) : Computes free pre x y' := by
  intro flags s unused holds
  rw [computes flags s unused holds, same s holds]

theorem pure (a : α) : Computes free pre (pure a : Celled κ σ ε α) (Pure.pure a) :=
  fun _ _ _ _ => rfl

theorem shared (y : StateT σ (Except ε) α) : Computes free pre (Celled.shared y) y := by
  intro flags s _ _
  show (match y.run s with
    | .ok (a, s) => .ok (a, flags, s)
    | .error e => .error (.panic e)) = returning flags (y.run s)
  cases y.run s <;> rfl

theorem lift (m : Except ε α) : Computes free pre (Celled.lift m) (StateT.lift m) := by
  intro flags s _ _
  cases m <;> rfl

/-- One part after the other. -/
theorem bind {f : α → Celled κ σ ε β} {g : α → StateT σ (Except ε) β} {post : α → σ → Prop}
    (first : Computes free pre x y)
    (reaches : ∀ s a s', pre s → y.run s = .ok (a, s') → post a s')
    (rest : ∀ a, Computes free (post a) (f a) (g a)) : Computes free pre (x >>= f) (y >>= g) := by
  intro flags s unused holds
  rw [StateT.run_bind, StateT.run_bind, first flags s unused holds]
  cases run : y.run s with
  | error e => rfl
  | ok p =>
      obtain ⟨a, s'⟩ := p
      exact rest a flags s' unused (reaches s a s' holds run)

/-- **A cell that is free can be borrowed mutably**, and is not free inside.  The body is shown to
do what it does with the cell taken away, so nesting the rule gives for each call the cells that it
may still borrow. -/
theorem borrowMut [DecidableEq κ] {cell : κ} (mem : cell ∈ free)
    (body : Computes (free \ {cell}) pre x y) : Computes free pre (Celled.borrowMut cell x) y := by
  intro flags s unused holds
  have zero : flags cell = 0 := unused cell mem
  have inner := body _ s (unused.update cell (-1)) holds
  have restored : Function.update (Function.update flags cell (-1)) cell
      (Function.update flags cell (-1) cell + 1) = flags := by
    rw [Function.update_idem, Function.update_self, neg_add_cancel, ← zero, Function.update_eq_self]
  show (if flags cell = 0 then _ else _ : Celled κ σ ε α).run (flags, s) = _
  rw [if_pos zero]
  show (x.run (Function.update flags cell (-1), s) >>= fun p => _) = _
  rw [inner]
  cases y.run s with
  | error e => rfl
  | ok p => exact congrArg (fun flags => Except.ok (p.1, flags, p.2)) restored

/-- A cell that is free can be borrowed. -/
theorem borrow [DecidableEq κ] {cell : κ} (mem : cell ∈ free)
    (body : Computes (free \ {cell}) pre x y) : Computes free pre (Celled.borrow cell x) y := by
  intro flags s unused holds
  have zero : flags cell = 0 := unused cell mem
  have inner := body _ s (unused.update cell (flags cell + 1)) holds
  have restored : Function.update (Function.update flags cell (flags cell + 1)) cell
      (Function.update flags cell (flags cell + 1) cell - 1) = flags := by
    rw [Function.update_idem, Function.update_self, add_sub_cancel_right, Function.update_eq_self]
  show (if 0 ≤ flags cell then _ else _ : Celled κ σ ε α).run (flags, s) = _
  rw [if_pos zero.ge]
  show (x.run (Function.update flags cell (flags cell + 1), s) >>= fun p => _) = _
  rw [inner]
  cases y.run s with
  | error e => rfl
  | ok p => exact congrArg (fun flags => Except.ok (p.1, flags, p.2)) restored

end Computes

end ReverseTether.Library
