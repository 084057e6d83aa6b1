import ReverseTether.Library.BoundedQueue
import ReverseTether.Binary
import ReverseTether.StreamBuffer

/-!
# `StreamBuffer` as a queue of bytes

A run is any sequence of `read_from` calls of what `remaining()` leaves room for
and of `write_to` calls, whatever their destinations do.  `StreamTrace` records
beside the buffer the bytes put in and the bytes written out.

`checkedBuf` and `checkedOffered` are the slice expressions of `read_from` and
`write_to` with the checks the compiler inserts; that they return, with the
bytes the buffer works with, is what it means that no index is out of bounds.

The ring has one byte more than its capacity, and the two positions are equal only when it is
empty.  A write that reaches the end of the array goes on at its beginning, so what is held is
one stretch or two; `machine_refines` does not say which, and nothing above this module does.

The destinations of `write_to` may take any number of the bytes they are offered, or fail.
What they take is what the history records, so that the theorem is about the bytes that have
really left the buffer.
-/

namespace ReverseTether

open Library

/-- `(&mut buf[i..j]).copy_from_slice(source)`, which wants both of one length. -/
def copyFromSlice (buf : List UInt8) (i j : ℕ) (source : List UInt8) : Outcome (List UInt8) :=
  if i ≤ j ∧ j ≤ buf.length ∧ source.length = j - i then .ok (splice buf i source)
  else .error .outOfBounds

theorem copyFromSlice_ok {buf source : List UInt8} {i j : ℕ} (order : i ≤ j)
    (inside : j ≤ buf.length) (same : source.length = j - i) :
    copyFromSlice buf i j source = .ok (splice buf i source) := if_pos ⟨order, inside, same⟩

namespace StreamBuffer

variable {capacity : ℕ}

/-- The slice `write_to` hands to its destination. -/
def checkedOffered (b : StreamBuffer capacity) : Outcome (List UInt8) :=
  if b.tail < b.head then readSlice b.buf b.tail b.head
  else readSlice b.buf b.tail b.buf.length

/-- The cells after the copies of `read_from`. -/
def checkedBuf (b : StreamBuffer capacity) (source : List UInt8) : Outcome (List UInt8) :=
  if source.length ≤ b.buf.length - b.head then
    copyFromSlice b.buf b.head (b.head + source.length) source
  else do
    let right ← readSlice source 0 (b.buf.length - b.head)
    let buf ← copyFromSlice b.buf b.head b.buf.length right
    let left ← readSlice source (b.buf.length - b.head) source.length
    copyFromSlice buf 0 (b.head + source.length - b.buf.length) left

theorem checkedOffered_eq (b : StreamBuffer capacity) : b.checkedOffered = .ok b.offered := by
  have := b.head_lt
  have := b.tail_lt
  have := b.length_buf
  unfold checkedOffered offered
  split
  · exact readSlice_eq (by omega) (by omega)
  · rw [readSlice_eq (by omega) le_rfl, slice_full le_rfl]

/-- The copies of a `read_from` that fits are in bounds and make the new cells. -/
theorem checkedBuf_eq {b b' : StreamBuffer capacity} {source : List UInt8}
    (h : b.readFrom source = .ok b') : b.checkedBuf source = .ok b'.buf := by
  have headLt := b.head_lt
  have length := b.length_buf
  unfold readFrom at h
  split at h
  case isFalse => cases h
  case isTrue fits =>
    have bound : source.length ≤ capacity := fits.trans (Nat.sub_le _ _)
    unfold checkedBuf
    split at h
    case isTrue contiguous =>
      cases h
      rw [if_pos (by omega)]
      exact copyFromSlice_ok (by omega) (by omega) (by omega)
    case isFalse cut =>
      cases h
      have lengthRight : (source.take (capacity + 1 - b.head)).length = capacity + 1 - b.head := by
        rw [List.length_take]
        omega
      have lengthBuf : (splice b.buf b.head (source.take (capacity + 1 - b.head))).length =
          capacity + 1 := by
        rw [length_splice (by omega), length]
      rw [if_neg (by omega), length, readSlice_eq (by omega) (by omega), ok_bind, slice_zero,
        copyFromSlice_ok (by omega) (by omega) lengthRight, ok_bind,
        readSlice_eq (by omega) le_rfl, ok_bind, slice_full le_rfl,
        copyFromSlice_ok (by omega) (by omega) (by rw [List.length_drop]; omega)]

/-- The bytes offered are a front of the bytes held. -/
theorem offered_prefix {b : StreamBuffer capacity} (nonempty : b.isEmpty = false) :
    b.offered <+: b.contents := by
  obtain ⟨b', -, split⟩ := writeTo_ok nonempty b.offered.length
  rw [List.take_length] at split
  exact ⟨b'.contents, split.symm⟩

/-- The queue the buffer stands for. -/
def queue (b : StreamBuffer capacity) : BoundedQueue UInt8 capacity :=
  ⟨b.contents, by rw [length_contents]; exact b.size_le⟩

/-- The bytes a `write_to` gets rid of. -/
def served (b : StreamBuffer capacity) (w : IoResult ℕ) : List UInt8 :=
  match (b.writeTo w).1 with
  | .ok taken => taken
  | .error _ => []

end StreamBuffer

/-! ## Runs of the two calls -/

/-- A buffer with the bytes put in and the bytes written out so far. -/
structure StreamTrace (capacity : ℕ) where
  buffer : StreamBuffer capacity
  put : List UInt8
  written : List UInt8

namespace StreamTrace

variable {capacity : ℕ}

/-- The calls of a run; a `write_to` comes with what its destination does. -/
inductive Call
  | readFrom (source : List UInt8)
  | writeTo (w : IoResult ℕ)

/-- One call that returns: bytes are stored, some are taken by the socket, or the socket fails and
nothing is taken. -/
inductive Step : StreamTrace capacity → Call → StreamTrace capacity → Prop
  | read {s : StreamTrace capacity} {source : List UInt8} {b' : StreamBuffer capacity} :
      source.length ≤ s.buffer.remaining → s.buffer.readFrom source = .ok b' →
      Step s (.readFrom source) ⟨b', s.put ++ source, s.written⟩
  | wrote {s : StreamTrace capacity} {w : IoResult ℕ} {taken : List UInt8}
      {b' : StreamBuffer capacity} :
      s.buffer.writeTo w = (.ok taken, b') →
      Step s (.writeTo w) ⟨b', s.put, s.written ++ taken⟩
  | failed {s : StreamTrace capacity} {w : IoResult ℕ} {err : IoError}
      {b' : StreamBuffer capacity} :
      s.buffer.writeTo w = (.error err, b') →
      Step s (.writeTo w) ⟨b', s.put, s.written⟩

/-- A ring that was just made: nothing was accepted and nothing written. -/
def fresh (capacity : ℕ) : StreamTrace capacity := ⟨.new capacity, [], []⟩

/-- The runs of one ring under the calls of its owner, in any order. -/
def machine (capacity : ℕ) : Machine (StreamTrace capacity) Call where
  start s := s = fresh capacity
  step := Step

/-- What the run has done to the queue the buffer stands for. -/
def history (s : StreamTrace capacity) : QueueHistory UInt8 capacity :=
  ⟨s.buffer.queue, s.put, s.written⟩

/-- A call as an operation on that queue. -/
def queueCall (s : StreamTrace capacity) : Call → QueueCall UInt8
  | .readFrom source => .put source
  | .writeTo w => .take (s.buffer.served w)

/-- **`StreamBuffer` refines the bounded queue.**  `StreamBuffer` is a ring with two positions, and
the queue a list with a bound; the refinement takes the bytes from `tail` to `head` for the list.
-/
theorem machine_refines (capacity : ℕ) :
    (machine capacity).Refines (fifo UInt8 capacity) history queueCall where
  start := by
    rintro s rfl
    simp only [fifo, history, fresh, StreamBuffer.queue, StreamBuffer.contents_new]
    rfl
  step := by
    intro s call s' step
    cases step with
    | read fits eq =>
        refine .put ?_ (StreamBuffer.contents_readFrom eq)
        rw [StreamBuffer.remaining_eq] at fits
        exact fits
    | @wrote w taken b' eq =>
        have served : s.buffer.served w = taken := by rw [StreamBuffer.served, eq]
        rw [queueCall, served]
        exact .take (StreamBuffer.contents_writeTo eq)
    | @failed w err b' eq =>
        have served : s.buffer.served w = [] := by rw [StreamBuffer.served, eq]
        obtain ⟨rfl, -⟩ := StreamBuffer.writeTo_error_eq eq
        have step : QueueHistory.Step s.history (.take [])
            ⟨s.buffer.queue, s.put, s.written ++ []⟩ := .take rfl
        rw [List.append_nil] at step
        rw [queueCall, served]
        exact step

/-- What the buffer shows of itself is what the queue is, its next calls return
and stay inside the cells, and a destination that fails changes nothing. -/
structure IsQueue (s : StreamTrace capacity) : Prop where
  conserved : s.written ++ s.buffer.contents = s.put
  size : s.buffer.size = s.buffer.contents.length
  bounded : s.buffer.size ≤ capacity
  remaining : s.buffer.remaining = capacity - s.buffer.size
  isEmpty : s.buffer.isEmpty = true ↔ s.buffer.size = 0
  /-- A call that puts in what fits returns. -/
  reads : ∀ source : List UInt8, source.length ≤ s.buffer.remaining →
    ∃ s', Step s (.readFrom source) s' ∧ s.buffer.checkedBuf source = .ok s'.buffer.buf
  /-- A call that writes out returns, whatever its destination does. -/
  writes : ∀ w, ∃ s', Step s (.writeTo w) s'
  offers : s.buffer.isEmpty = false → ∃ offered, s.buffer.checkedOffered = .ok offered ∧
    offered ≠ [] ∧ offered <+: s.buffer.contents ∧
    ∀ n ≤ offered.length, ∃ b', s.buffer.writeTo (.ok n) = (.ok (offered.take n), b')
  fails : ∀ err, (s.buffer.writeTo (.error err)).2 = s.buffer

theorem isQueue_of_conserved {s : StreamTrace capacity}
    (conserved : s.written ++ s.buffer.contents = s.put) : s.IsQueue where
  conserved := conserved
  size := s.buffer.length_contents.symm
  bounded := s.buffer.size_le
  remaining := rfl
  isEmpty := by
    rw [StreamBuffer.isEmpty_iff, ← List.length_eq_zero_iff, StreamBuffer.length_contents]
  reads := by
    intro source fits
    obtain ⟨b', eq, -⟩ := StreamBuffer.readFrom_ok fits
    exact ⟨_, .read fits eq, StreamBuffer.checkedBuf_eq eq⟩
  writes := by
    intro w
    match eq : s.buffer.writeTo w with
    | (.ok taken, b') => exact ⟨_, .wrote eq⟩
    | (.error err, b') => exact ⟨_, .failed eq⟩
  offers := by
    intro nonempty
    refine ⟨_, s.buffer.checkedOffered_eq, StreamBuffer.offered_ne_nil nonempty,
      StreamBuffer.offered_prefix nonempty, ?_⟩
    intro n _
    obtain ⟨b', eq, -⟩ := StreamBuffer.writeTo_ok nonempty n
    exact ⟨b', eq⟩
  fails := by
    intro err
    cases empty : s.buffer.isEmpty with
    | true => rw [StreamBuffer.writeTo_of_isEmpty empty]
    | false => rw [StreamBuffer.writeTo_error empty]

/-- **`StreamBuffer` is a bounded queue.**  Whatever calls were made, and
whatever their destinations did, the run is one of the bounded queue and the
buffer shows the state of that queue. -/
theorem run_isQueue {t : List (StreamTrace capacity × Call)} {s : StreamTrace capacity}
    (run : (machine capacity).Run t s) :
    (fifo UInt8 capacity).Run (t.map fun p => (p.1.history, p.1.queueCall p.2)) s.history ∧
      s.IsQueue := by
  have queued := (machine_refines capacity).run run
  exact ⟨queued, isQueue_of_conserved (fifo_conserved queued)⟩

/-- Six bytes put into a fresh buffer, three of them taken out. -/
theorem run_isQueue_six_bytes : ∃ t s, (machine 9).Run t s ∧
    t.map Prod.snd = [.readFrom [0, 1, 2, 3, 4, 5], .writeTo (.ok 3)] ∧ s.IsQueue := by
  have start : (machine 9).Run [] (fresh 9) := .start rfl
  obtain ⟨s₁, read, -⟩ := (run_isQueue start).2.reads [0, 1, 2, 3, 4, 5] (by decide)
  have run₁ : (machine 9).Run _ s₁ := .step start read
  obtain ⟨s₂, wrote⟩ := (run_isQueue run₁).2.writes (.ok 3)
  have run₂ : (machine 9).Run _ s₂ := .step run₁ wrote
  exact ⟨_, s₂, run₂, rfl, (run_isQueue run₂).2⟩

end StreamTrace

end ReverseTether
