import Mathlib.Tactic

/-!
# How a relay operation can end

The relay is one process.  An operation either returns, possibly with an
`io::Error` that its caller inspects, or panics and takes every flow of every
client with it.  The two are kept apart: `IoResult` is the value a system call
hands back, `Outcome` is a computation of the process that may panic.

The only thing the code ever asks of an `io::Error` is whether its kind is
`WouldBlock`, so that is all `IoError` records.

A panic has a reason, one for each assertion, `unwrap`, index and arithmetic check of the
source that the model keeps, so that a theorem which excludes a panic can say which one.
`bind_eq_ok` takes a computation that has returned apart at its first step; with it the proofs
follow the code line by line, and a panic ends the case.

A system call is no computation of the process: what it answers is an argument of the function
that makes the call, so that a theorem about a function is one about all answers.
-/

namespace ReverseTether

/-- The panics of the relay: the `assert!`s, the `expect`s and the checks the
compiler inserts. -/
inductive Panic
  /-- An index or a slice range outside the slice. -/
  | outOfBounds
  /-- An integer addition that overflows. -/
  | overflow
  /-- "StreamBuffer is full, check remaining() before calling read_from()". -/
  | streamBufferFull
  /-- "DatagramBuffer.write_to() called while empty". -/
  | datagramBufferEmpty
  /-- "Datagram length may not be greater than {} bytes". -/
  | datagramTooLong
  /-- `ByteBuffer::consume` of more bytes than are buffered. -/
  | consumeTooMuch
  /-- "A pending packet was not sent". -/
  | pendingPacketNotSent
  /-- "process_received() must not be called when window == 0". -/
  | zeroClientWindow
  /-- `process_connect` outside `SynSent`. -/
  | notConnecting
  /-- `update_interests` on a closed connection. -/
  | connectionClosed
  /-- "Unexpected pending source with no packet". -/
  | noPendingPacket
  /-- "next() called on empty packet source". -/
  | emptyPacketSource
  /-- "Cannot register on poll", and the `unwrap` of a client's deregistration. -/
  | cannotRegister
  /-- `send_id` once the id has been sent. -/
  | idAlreadySent
  /-- "Not a TCP header" and "Not a TCP packet". -/
  | notTcp
  /-- "No payload" and "No transport". -/
  | noTransport
  /-- `shrink_options` that leaves a header of another length than 20. -/
  | optionsNotShrunk
  /-- "a synthesized IPv6 packet must be parsable". -/
  | unparsablePacket
  /-- "the reference IPv6 header must stay well-formed after swapping endpoints". -/
  | malformedReference
  /-- "Token not found". -/
  | tokenNotFound
  /-- The drain loop of `push_to_network` that does not end. -/
  | divergence
  deriving DecidableEq, Repr

/-- A computation of the relay process. -/
abbrev Outcome (α : Type) := Except Panic α

/-- The kinds of `io::Error` the relay tells apart: a call that would block is tried again, and
every other error is a failure. -/
inductive IoError
  | wouldBlock
  | other
  deriving DecidableEq, Repr

/-- What a system call returns. -/
abbrev IoResult (α : Type) := Except IoError α

/-- `Instant`, in nanoseconds since the relay started. -/
abbrev Instant := ℕ

/-- `since.elapsed().as_secs()` when the clock shows `now`. -/
def elapsedSecs (now since : Instant) : ℕ := (now - since) / 1000000000

@[simp] theorem ok_bind {α β : Type} (a : α) (f : α → Outcome β) :
    ((.ok a : Outcome α) >>= f) = f a := rfl

@[simp] theorem error_bind {α β : Type} (p : Panic) (f : α → Outcome β) :
    ((.error p : Outcome α) >>= f) = .error p := rfl

@[simp] theorem pure_eq_ok {α : Type} (a : α) : (pure a : Outcome α) = .ok a := rfl

theorem bind_eq_ok {α β : Type} {x : Outcome α} {f : α → Outcome β} {b : β} :
    (x >>= f) = .ok b ↔ ∃ a, x = .ok a ∧ f a = .ok b := by
  cases x with
  | error p => simp [bind, Except.bind]
  | ok a => simp [bind, Except.bind]

theorem bind_eq_error {α β : Type} {x : Outcome α} {f : α → Outcome β} {p : Panic} :
    (x >>= f) = .error p ↔ x = .error p ∨ ∃ a, x = .ok a ∧ f a = .error p := by
  cases x with
  | error q => simp [bind, Except.bind]
  | ok a => simp [bind, Except.bind]

/-- `step?` followed by the rest of the function: an `Err` is returned at once, with
the state it leaves. -/
def orReturn {σ : Type} (step : Outcome (IoResult Unit × σ))
    (rest : σ → Outcome (IoResult Unit × σ)) : Outcome (IoResult Unit × σ) := do
  match ← step with
  | (.ok (), s) => rest s
  | (.error err, s) => return (.error err, s)

theorem orReturn_eq_ok {σ : Type} {step : Outcome (IoResult Unit × σ)}
    {rest : σ → Outcome (IoResult Unit × σ)} {result : IoResult Unit × σ} :
    orReturn step rest = .ok result ↔
      (∃ s, step = .ok (.ok (), s) ∧ rest s = .ok result) ∨
        ∃ err s, step = .ok (.error err, s) ∧ result = (.error err, s) := by
  rw [orReturn, bind_eq_ok]
  constructor
  · rintro ⟨⟨⟨⟩ | ⟨⟩, s⟩, eq, rest⟩
    · exact .inr ⟨_, s, eq, by cases rest; rfl⟩
    · exact .inl ⟨s, eq, rest⟩
  · rintro (⟨s, eq, rest⟩ | ⟨err, s, eq, rfl⟩)
    · exact ⟨_, eq, rest⟩
    · exact ⟨_, eq, rfl⟩

end ReverseTether
