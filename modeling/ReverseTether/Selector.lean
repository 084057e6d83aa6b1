import ReverseTether.Outcome

/-!
# Readiness, registrations and the selector

The relay runs one poll loop over the sockets of one client and its connections.
A socket is named by its owner, `Source`; connections are named by `Handle`, the
place of their shared pointer.  What the poller knows of a socket is the interest
it was last registered with.

A handler's token is freed only after the whole batch of events has been run;
`tokensToRemove` is the list of those marked so far.

`Ready` is what a socket can be ready for, and what it can be registered for; an event that
has neither is a hang-up or an error of the socket.  `Ready.Within` says that an event reports
no more than was asked for, which is what the poller promises.

The two lists of the selector are of different kinds: `registered` is what the poller acts on
from the next poll on, and `tokensToRemove` is what the loop cleans up behind the current
batch, so that an event already polled still finds its handler.
-/

namespace ReverseTether

/-- The readiness flags the relay looks at.  Neither flag stands for an error or
a hang-up when it is a readiness, and for no interest when it is an interest. -/
@[ext] structure Ready where
  isReadable : Bool
  isWritable : Bool
  deriving DecidableEq, Repr

namespace Ready

/-- `Ready::empty`: neither readable nor writable. -/
def empty : Ready := ⟨false, false⟩

/-- `Ready::readable`. -/
def readable : Ready := ⟨true, false⟩

/-- `Ready::writable`. -/
def writable : Ready := ⟨false, true⟩

/-- `a | b`. -/
def union (a b : Ready) : Ready := ⟨a.isReadable || b.isReadable, a.isWritable || b.isWritable⟩

/-- The flags of `a` are flags of `b`.  An event that is polled has its flags within the interests
of its registration. -/
def Within (a b : Ready) : Prop :=
  (a.isReadable = true → b.isReadable = true) ∧ (a.isWritable = true → b.isWritable = true)

instance (a b : Ready) : Decidable (a.Within b) := inferInstanceAs (Decidable (_ ∧ _))

theorem within_refl (a : Ready) : a.Within a := ⟨id, id⟩

theorem empty_within (a : Ready) : Ready.empty.Within a := ⟨nofun, nofun⟩

end Ready

/-- The place of a connection. -/
abbrev Handle := ℕ

/-- The owner of a registered socket: the client, or one of its connections. -/
inductive Source
  | client
  | connection (handle : Handle)
  deriving DecidableEq, Repr

/-- `Selector`: which sockets are registered, under which interest, and which tokens are to be
freed. -/
structure Selector where
  /-- The interest a socket is registered with, if it is. -/
  registered : Source → Option Ready
  /-- Tokens to be removed after all the current poll events are executed. -/
  tokensToRemove : List Source

namespace Selector

/-- `Selector::create`: no socket is registered. -/
def create : Selector := ⟨fun _ => none, []⟩

/-- `register`: the socket is known to the poller from now on, under this interest. -/
def register (selector : Selector) (source : Source) (interest : Ready) : Selector :=
  { selector with registered := Function.update selector.registered source (some interest) }

/-- Every caller expects it to succeed; it fails on a socket that is not
registered. -/
def reregister (selector : Selector) (source : Source) (interest : Ready) : Outcome Selector :=
  if selector.registered source = none then .error .cannotRegister
  else .ok (selector.register source interest)

/-- The token is marked for removal whatever the poller answers; the flag is that
answer. -/
def deregister (selector : Selector) (source : Source) : Bool × Selector :=
  ((selector.registered source).isSome,
    { registered := Function.update selector.registered source none
      tokensToRemove := selector.tokensToRemove ++ [source] })

theorem reregister_eq_ok {selector selector' : Selector} {source : Source} {interest : Ready} :
    selector.reregister source interest = .ok selector' ↔
      selector.registered source ≠ none ∧ selector' = selector.register source interest := by
  unfold reregister
  split
  · exact ⟨nofun, fun h => absurd ‹_› h.1⟩
  · exact ⟨fun h => ⟨‹_›, by cases h; rfl⟩, fun h => by rw [h.2]⟩

theorem reregister_error {selector : Selector} {source : Source} {interest : Ready}
    {panic : Panic} (h : selector.reregister source interest = .error panic) :
    panic = .cannotRegister := by
  unfold reregister at h
  split at h
  · cases h
    rfl
  · cases h

@[simp] theorem registered_register (selector : Selector) (source other : Source)
    (interest : Ready) :
    (selector.register source interest).registered other =
      if other = source then some interest else selector.registered other :=
  Function.update_apply _ _ _ _

@[simp] theorem registered_deregister (selector : Selector) (source other : Source) :
    (selector.deregister source).2.registered other =
      if other = source then none else selector.registered other :=
  Function.update_apply _ _ _ _

end Selector

/-- What a socket was registered for may change, but no socket is forgotten. -/
def Selector.Keeps (selector selector' : Selector) : Prop :=
  ∀ source, selector.registered source ≠ none → selector'.registered source ≠ none

theorem Selector.Keeps.trans {selector selector₁ selector' : Selector}
    (first : selector.Keeps selector₁) (second : selector₁.Keeps selector') :
    selector.Keeps selector' := fun source known => second source (first source known)

theorem Selector.keeps_register (selector : Selector) (source : Source) (interest : Ready) :
    selector.Keeps (selector.register source interest) := by
  intro other known
  rw [registered_register]
  split
  · exact nofun
  · exact known

end ReverseTether
