import ReverseTether.Library.Machine

/-!
# First in, first out, with a bound

A `BoundedQueue` never holds more than `capacity` elements, by a field.  A
`QueueHistory` remembers beside it everything that was put in and everything
that was taken out, and `fifo` is the machine of the two operations on it.

To show that a structure is a bounded queue is to show that its machine refines
`fifo`; `fifo_conserved` then says that nothing is lost, made up or reordered.

`put` takes only what fits, and all of that; `take` removes a front of any length, which may
be empty.  An operation of a structure that refuses what it is given, or finds nothing, is no
step of the queue or an empty one, and leaves no trace in the history.

Whether an item is a byte, a datagram or a packet is left to the user, and so is the unit of
the capacity: `size` counts items.  Structures that count bytes while they store packets need
a queue of their own.
-/

namespace ReverseTether.Library

universe u

variable {α : Type u} {capacity : ℕ}

/-- A queue of at most `capacity` elements, oldest first.  The bound is part of the type, so that
every operation has to show that it keeps it. -/
structure BoundedQueue (α : Type u) (capacity : ℕ) where
  held : List α
  bounded : held.length ≤ capacity

namespace BoundedQueue

/-- How many of its places are taken. -/
def size (q : BoundedQueue α capacity) : ℕ := q.held.length

/-- How many items it still takes. -/
def remaining (q : BoundedQueue α capacity) : ℕ := capacity - q.size

/-- The queue before anything was put into it. -/
def empty (α : Type u) (capacity : ℕ) : BoundedQueue α capacity := ⟨[], Nat.zero_le _⟩

end BoundedQueue

/-- A queue with what went through it: everything that was ever put in and everything that was
taken out, each in its order. -/
structure QueueHistory (α : Type u) (capacity : ℕ) where
  queue : BoundedQueue α capacity
  put : List α
  taken : List α

/-- The two operations of a queue, with the elements they move. -/
inductive QueueCall (α : Type u)
  | put (xs : List α)
  | take (xs : List α)

namespace QueueHistory

/-- `put` appends what fits; `take` removes some front of the queue. -/
inductive Step : QueueHistory α capacity → QueueCall α → QueueHistory α capacity → Prop
  | put {h : QueueHistory α capacity} {q : BoundedQueue α capacity} {xs : List α} :
      xs.length ≤ h.queue.remaining → q.held = h.queue.held ++ xs →
      Step h (.put xs) ⟨q, h.put ++ xs, h.taken⟩
  | take {h : QueueHistory α capacity} {q : BoundedQueue α capacity} {xs : List α} :
      h.queue.held = xs ++ q.held → Step h (.take xs) ⟨q, h.put, h.taken ++ xs⟩

/-- An empty queue, to which nothing was offered yet. -/
def fresh (α : Type u) (capacity : ℕ) : QueueHistory α capacity := ⟨.empty α capacity, [], []⟩

/-- The elements taken and then those held are the elements put in.  It says at once that nothing
is lost, doubled or overtaken. -/
def Conserved (h : QueueHistory α capacity) : Prop := h.taken ++ h.queue.held = h.put

theorem Conserved.step {h h' : QueueHistory α capacity} {call : QueueCall α}
    (conserved : h.Conserved) (step : Step h call h') : h'.Conserved := by
  unfold Conserved at conserved ⊢
  cases step with
  | put _ held => rw [held, ← List.append_assoc, conserved]
  | take held => rw [List.append_assoc, ← held, conserved]

end QueueHistory

/-- The bounded queue as a machine. -/
def fifo (α : Type u) (capacity : ℕ) : Machine (QueueHistory α capacity) (QueueCall α) where
  start h := h = .fresh α capacity
  step := QueueHistory.Step

/-- **First in, first out.**  What was taken out, followed by what is inside, is what was accepted,
in every run; a queue that loses, doubles or reorders an element does not refine this one. -/
theorem fifo_conserved {t : List (QueueHistory α capacity × QueueCall α)}
    {h : QueueHistory α capacity} (run : (fifo α capacity).Run t h) : h.Conserved :=
  run.invariant QueueHistory.Conserved (fun _ start => start ▸ List.append_nil [])
    (fun _ _ _ conserved _ step => conserved.step step) (Machine.meets_true t)

end ReverseTether.Library
