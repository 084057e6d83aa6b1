import ReverseTether.Tunnel

/-!
# How the app gets its id

`Connect` opens the socket to the relay and reads the id of the client from it, four bytes that
come in any number of pieces, before `Tunnel::Run` is started on the same socket.  It must leave
the bytes behind the id alone: they are the first packet.

A round of its loop is a step of `Greeting`, with the answers of `recv` and, where it is asked, of
`Wait`.  The loop is entered when the socket is connected, at once or behind a `Wait` that finds no
error on it; otherwise `Connect` has returned before (`Greeting.connect`).

What the loop does with an error is decided by `errno`: a transient one is waited for, any
other ends the function, and so does the end of the stream, with an error of its own.  A
connection that is refused or ends early therefore never yields an id.

`run_greets` is about all answers of the system.  The bytes that were read are the front of
the stream and four of them at most, so the next `recv` on the socket, which is that of the
tunnel loop, gets what comes behind the id.
-/

namespace ReverseTether

open Library

/-- What the call of `connect` returns on the socket, which does not block. -/
inductive Connecting
  | done
  /-- `EINPROGRESS`. -/
  | inProgress
  | failed (errno : Errno)

/-- The part of `Connect` before the id: `Wait` for the socket, and the error it then has. -/
def establish (connecting : Connecting) (wait : SysResult Unit) (soError : SysResult (Option Errno)) :
    SysResult Unit :=
  match connecting with
  | .done => .ok ()
  | .failed errno => .error errno
  | .inProgress => do
      let () ← wait
      match ← soError with
      | some errno => .error errno
      | none => .ok ()

/-- The loop of `Connect` that reads the id, between two of its rounds. -/
structure Greeting where
  /-- The bytes of `id` below `offset`. -/
  id : List UInt8
  /-- What `Connect` has returned, if it has: the id of the client, or `errno`. -/
  result : Option (SysResult UInt32)

namespace Greeting

/-- `sizeof(id)`. -/
def idSize : ℕ := 4

/-- The answers of one round of the loop: what `recv` gives, and what the wait for more comes to.
-/
structure Round where
  recv : SysResult (List UInt8)
  wait : SysResult Unit

/-- No byte of the id has been read, and the function has not returned. -/
def start : Greeting := ⟨[], none⟩

/-- `Connect` returns `-1`, and leaves the error for its caller in `errno`. -/
def fail (g : Greeting) (errno : Errno) : Greeting := { g with result := some (.error errno) }

/-- `Connect` when it comes to the loop, unless it returns before. -/
def connect (connecting : Connecting) (wait : SysResult Unit) (soError : SysResult (Option Errno)) :
    Greeting :=
  match establish connecting wait soError with
  | .ok () => start
  | .error errno => start.fail errno

/-- `offset += n`, and the test of the loop. -/
def fill (g : Greeting) (got : List UInt8) : Greeting :=
  let id := g.id ++ got
  { id, result := if id.length < idSize then none else some (.ok (getU32 id 0)) }

/-- The body of the loop: `recv` is asked for what is missing. -/
def round (g : Greeting) (round : Round) : Greeting :=
  match round.recv with
  | .ok offered =>
      let got := offered.take (idSize - g.id.length)
      if 0 < got.length then g.fill got else g.fail .econnreset
  | .error .eintr => g
  | .error errno =>
      if errno ≠ .eagain ∧ errno ≠ .ewouldblock then g.fail errno
      else
        match round.wait with
        | .ok () => g
        | .error code => g.fail code

/-- It goes on until `Connect` returns. -/
def machine : Machine Greeting Round where
  start g := ∃ connecting wait soError, g = connect connecting wait soError
  step g r g' := g.result = none ∧ g' = g.round r

/-- What holds in every round: the id is not longer than its four bytes, it is incomplete until the
function returns, and the number that is returned is the one they spell. -/
structure Reads (g : Greeting) : Prop where
  waits : g.result = none → g.id.length < idSize
  most : g.id.length ≤ idSize
  whole : ∀ clientId, g.result = some (.ok clientId) →
    g.id.length = idSize ∧ getU32 g.id 0 = clientId

theorem reads_start : start.Reads :=
  ⟨fun _ => by decide, by decide, by simp [start]⟩

theorem Reads.fail {g : Greeting} (reads : g.Reads) (errno : Errno) : (g.fail errno).Reads :=
  ⟨by simp [Greeting.fail], reads.most, by simp [Greeting.fail]⟩

theorem reads_connect (connecting : Connecting) (wait : SysResult Unit)
    (soError : SysResult (Option Errno)) : (connect connecting wait soError).Reads := by
  unfold connect
  split
  · exact reads_start
  · exact reads_start.fail _

/-- The bytes that `recv` may give fill the id at most. -/
theorem Reads.fill {g : Greeting} (reads : g.Reads) {got : List UInt8}
    (fits : got.length ≤ idSize - g.id.length) : (g.fill got).Reads := by
  have most := reads.most
  have filled : (g.id ++ got).length ≤ idSize := by
    rw [List.length_append]
    omega
  by_cases more : (g.id ++ got).length < idSize
  · have waits : (g.fill got).result = none := if_pos more
    refine ⟨fun _ => more, filled, fun clientId greeted => ?_⟩
    rw [waits] at greeted
    cases greeted
  · have greets : (g.fill got).result = some (.ok (getU32 (g.id ++ got) 0)) := if_neg more
    refine ⟨fun waits => ?_, filled, fun clientId greeted => ?_⟩
    · rw [greets] at waits
      cases waits
    · rw [greets] at greeted
      cases greeted
      exact ⟨Nat.le_antisymm filled (not_lt.mp more), rfl⟩

theorem Reads.round {g : Greeting} (reads : g.Reads) (r : Round) : (g.round r).Reads := by
  unfold Greeting.round
  split
  · simp only
    split
    · exact reads.fill (List.length_take_le _ _)
    · exact reads.fail _
  · exact reads
  · split
    · exact reads.fail _
    · split
      · exact reads
      · exact reads.fail _

/-- **`Connect` reads the four bytes of the id and no more**, in whatever pieces they come, and
returns the number that they spell.  The buffer is as long as the id, and it is asked for what is
missing; so the bytes behind the id stay in the socket for the tunnel. -/
theorem run_greets {rounds : List (Greeting × Round)} {g : Greeting} (run : machine.Run rounds g) :
    g.id.length ≤ idSize ∧ ∀ clientId, g.result = some (.ok clientId) →
      g.id.length = idSize ∧ getU32 g.id 0 = clientId := by
  have reads : g.Reads := by
    refine run.invariant Reads ?_ (fun g r g' reads _ step => ?_) (Machine.meets_true rounds)
    · rintro _ ⟨connecting, wait, soError, rfl⟩
      exact reads_connect connecting wait soError
    · obtain ⟨-, rfl⟩ := step
      exact reads.round r
  exact ⟨reads.most, reads.whole⟩

end Greeting

end ReverseTether
