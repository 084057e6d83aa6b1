import ReverseTether.Library.Machine
import ReverseTether.Library.Slab
import ReverseTether.Selector

/-!
# Tokens

`Selector` names a socket by its owner.  The selector of the relay names it by a token, the
key of its handler in a slab, and keys are handed out again.  A token that is deregistered
is therefore marked first, and removed at the end of the batch.

`PollLoop` runs the loop over such a selector: whoever holds the selector may call it at any
time, and the calls are labels of their own between the events.  The registrations are kept
beside it.  As long as no token is deregistered twice and the poller reports sockets that
are registered, `run_handlers` calls the handler that was registered together with the
socket of each event (`PollLoop.run_tokens`).

The slab and the poller are not part of the relay.  The slab is any that is lawful; what the
poller answers is input.
-/

namespace ReverseTether

open Library

/-- `Token(usize)`. -/
abbrev Token := ℕ

/-- The selector, over the slab of its handlers and the sockets it polls. -/
structure TokenSelector (Handlers Socket : Type) where
  /-- What the poller knows: the token and the interest of each registered socket. -/
  poll : Socket → Option (Token × Ready)
  handlers : Handlers
  /-- Tokens to be removed after all the current poll events are executed. -/
  tokensToRemove : List Token

namespace TokenSelector

variable {Handlers Socket Handler : Type} (slab : Slab Handlers Handler)

/-- `Selector::create`: the poller knows no socket, and the slab of handlers is empty. -/
def create : TokenSelector Handlers Socket := ⟨fun _ => none, slab.empty, []⟩

/-- `handlers.remove`, which panics on "invalid key". -/
def remove (handlers : Handlers) (token : Token) : Outcome Handlers :=
  match slab.remove handlers token with
  | some handlers => .ok handlers
  | none => .error .outOfBounds

/-- `answer` is what the poller answers. -/
def register [DecidableEq Socket] (s : TokenSelector Handlers Socket) (socket : Socket)
    (handler : Handler) (interest : Ready) (answer : IoResult Unit) :
    Outcome (IoResult Token × TokenSelector Handlers Socket) :=
  let (token, handlers) := slab.insert s.handlers handler
  match answer with
  | .error err => do
      -- remove the token we just added
      let handlers ← remove slab handlers token
      return (.error err, { s with handlers })
  | .ok () => return (.ok token,
      { s with poll := Function.update s.poll socket (some (token, interest)), handlers })

/-- `reregister`: the same token under another interest; when the poller refuses, nothing changes.
-/
def reregister [DecidableEq Socket] (s : TokenSelector Handlers Socket) (socket : Socket)
    (token : Token) (interest : Ready) (answer : IoResult Unit) :
    IoResult Unit × TokenSelector Handlers Socket :=
  match answer with
  | .error err => (.error err, s)
  | .ok () => (.ok (), { s with poll := Function.update s.poll socket (some (token, interest)) })

/-- The token is marked whatever the poller answers.  A socket that it refuses to deregister
is closed with its owner, and forgotten then. -/
def deregister [DecidableEq Socket] (s : TokenSelector Handlers Socket) (socket : Socket)
    (token : Token) (answer : IoResult Unit) : IoResult Unit × TokenSelector Handlers Socket :=
  (answer, { s with
    poll := Function.update s.poll socket none
    tokensToRemove := s.tokensToRemove ++ [token] })

/-- `clean_removed_tokens`: the tokens that were marked are removed from the slab, which may give
them out again. -/
def cleanRemovedTokens (s : TokenSelector Handlers Socket) :
    Outcome (TokenSelector Handlers Socket) := do
  let handlers ← s.tokensToRemove.foldlM (remove slab) s.handlers
  return { s with handlers, tokensToRemove := [] }

/-- The handler that `run_handlers` calls for an event, or "Token not found". -/
def handlerOf (s : TokenSelector Handlers Socket) (token : Token) : Outcome Handler :=
  match slab.get s.handlers token with
  | some handler => .ok handler
  | none => .error .tokenNotFound

theorem remove_eq_ok {slab : Slab Handlers Handler} {handlers handlers' : Handlers} {token : Token} :
    remove slab handlers token = .ok handlers' ↔ slab.remove handlers token = some handlers' := by
  unfold remove
  split
  · rename_i removed
    rw [removed, Except.ok.injEq, Option.some.injEq]
  · rename_i vacant
    rw [vacant]
    exact ⟨nofun, nofun⟩

theorem foldlM_remove {slab : Slab Handlers Handler} {tokens : List Token}
    {handlers handlers' : Handlers} (h : tokens.foldlM slab.remove handlers = some handlers') :
    tokens.foldlM (remove slab) handlers = .ok handlers' := by
  induction tokens generalizing handlers with
  | nil =>
      cases h
      rfl
  | cons token tokens ih =>
      rw [List.foldlM_cons] at h ⊢
      obtain ⟨handlers₁, removed, rest⟩ := Option.bind_eq_some_iff.mp h
      exact bind_eq_ok.mpr ⟨handlers₁, remove_eq_ok.mpr removed, ih rest⟩

end TokenSelector

/-! ## The loop -/

/-- An event of a socket carries the token that the poller knows for it. -/
structure TokenEvent (Socket : Type) where
  socket : Socket
  token : Token
  ready : Ready

/-- A handler that was registered together with a socket, under a token.  Its owner passes
the socket and the token to every later call. -/
structure Registration (Socket Handler : Type) where
  socket : Socket
  handler : Handler
  token : Token

/-- Where the loop is: before a poll, behind it, or among the handlers of its events. -/
inductive Phase
  /-- The next poll is due. -/
  | polling
  /-- The events are there; `clean_up` may run. -/
  | polled
  /-- `run_handlers`. -/
  | running
  deriving DecidableEq, Repr

/-- The poll loop between two of its steps, with the registrations that the rest of the relay
believes in. -/
structure PollLoop (Handlers Socket Handler : Type) where
  selector : TokenSelector Handlers Socket
  phase : Phase
  /-- The events that were polled and not dispatched yet. -/
  batch : List (TokenEvent Socket)
  /-- The registrations that were not deregistered. -/
  live : List (Registration Socket Handler)
  /-- Those that were, since tokens were last removed, in order. -/
  marked : List (Registration Socket Handler)
  /-- Those whose tokens were removed. -/
  removed : List (Registration Socket Handler)

namespace PollLoop

variable {Handlers Socket Handler : Type}

/-- Every registration so far. -/
def known (s : PollLoop Handlers Socket Handler) : List (Registration Socket Handler) :=
  s.live ++ s.marked ++ s.removed

/-- The steps of the loop, and what the handlers do in between: they register and deregister
sockets. -/
inductive Label (Socket Handler : Type)
  | poll (events : List (TokenEvent Socket))
  /-- There was nothing to do: the poll was spurious. -/
  | skip
  | runHandlers
  /-- The handler of the next event is called. -/
  | dispatch
  | cleanRemovedTokens
  | register (socket : Socket) (handler : Handler) (interest : Ready) (answer : IoResult Unit)
  | reregister (owner : Registration Socket Handler) (interest : Ready) (answer : IoResult Unit)
  | deregister (owner : Registration Socket Handler) (answer : IoResult Unit)

/-- One step of the loop, or one call of the selector: `TunnelServer::create` calls it before
the first poll, `clean_up` behind a poll and the handlers behind a dispatch.  A step that
panics is none. -/
inductive Step [DecidableEq Socket] (slab : Slab Handlers Handler) : PollLoop Handlers Socket Handler →
    Label Socket Handler → PollLoop Handlers Socket Handler → Prop
  | poll {s : PollLoop Handlers Socket Handler} {events : List (TokenEvent Socket)} :
      s.phase = .polling → Step slab s (.poll events) { s with phase := .polled, batch := events }
  | skip {s : PollLoop Handlers Socket Handler} : s.phase = .polled → s.batch = [] →
      Step slab s .skip { s with phase := .polling }
  | runHandlers {s : PollLoop Handlers Socket Handler} : s.phase = .polled →
      Step slab s .runHandlers { s with phase := .running }
  | dispatch {s : PollLoop Handlers Socket Handler} {event : TokenEvent Socket}
      {batch : List (TokenEvent Socket)} {handler : Handler} : s.phase = .running →
      s.batch = event :: batch → s.selector.handlerOf slab event.token = .ok handler →
      Step slab s .dispatch { s with batch }
  | cleanRemovedTokens {s : PollLoop Handlers Socket Handler}
      {selector : TokenSelector Handlers Socket} : s.phase = .running → s.batch = [] →
      s.selector.cleanRemovedTokens slab = .ok selector →
      Step slab s .cleanRemovedTokens { s with
        selector
        phase := .polling
        marked := []
        removed := s.removed ++ s.marked }
  /-- The socket was just opened: nobody else has registered it. -/
  | register {s : PollLoop Handlers Socket Handler} {socket : Socket} {handler : Handler}
      {interest : Ready} {token : Token} {selector : TokenSelector Handlers Socket} :
      (∀ owner ∈ s.known, owner.socket ≠ socket) →
      s.selector.register slab socket handler interest (.ok ()) = .ok (.ok token, selector) →
      Step slab s (.register socket handler interest (.ok ())) { s with
        selector
        live := s.live ++ [⟨socket, handler, token⟩] }
  | registerFails {s : PollLoop Handlers Socket Handler} {socket : Socket} {handler : Handler}
      {interest : Ready} {err : IoError} {result : IoResult Token}
      {selector : TokenSelector Handlers Socket} :
      s.selector.register slab socket handler interest (.error err) = .ok (result, selector) →
      Step slab s (.register socket handler interest (.error err)) { s with selector }
  /-- The poller refuses a socket that is not registered. -/
  | reregister {s : PollLoop Handlers Socket Handler} {owner : Registration Socket Handler}
      {interest : Ready} {answer : IoResult Unit} : owner ∈ s.known →
      (answer = .ok () → s.selector.poll owner.socket ≠ none) →
      Step slab s (.reregister owner interest answer) { s with
        selector := (s.selector.reregister owner.socket owner.token interest answer).2 }
  | deregister {s : PollLoop Handlers Socket Handler} {owner : Registration Socket Handler}
      {answer : IoResult Unit} : owner ∈ s.known →
      Step slab s (.deregister owner answer) { s with
        selector := (s.selector.deregister owner.socket owner.token answer).2
        live := s.live.filter (·.socket ≠ owner.socket)
        marked := s.marked ++ [owner] }

/-- The loop before its first poll: nothing is registered, and no event waits. -/
def create (slab : Slab Handlers Handler) : PollLoop Handlers Socket Handler where
  selector := .create slab
  phase := .polling
  batch := []
  live := []
  marked := []
  removed := []

/-- The runs of the loop over a slab, under handlers that do anything to the registrations that
they own. -/
def machine [DecidableEq Socket] (slab : Slab Handlers Handler) :
    Machine (PollLoop Handlers Socket Handler) (Label Socket Handler) where
  start s := s = create slab
  step := Step slab

/-- Each token is deregistered at most once, and the poller reports events only for sockets
that are registered at poll time. -/
def Orderly (s : PollLoop Handlers Socket Handler) : Label Socket Handler → Prop
  | .poll events => ∀ event ∈ events, ∃ interest,
      s.selector.poll event.socket = some (event.token, interest)
  | .deregister owner _ => owner ∈ s.live
  | _ => True

/-! ## What holds in every run -/

/-- The slab, the poller and the events agree with the registrations. -/
structure Consistent (slab : Slab Handlers Handler) (s : PollLoop Handlers Socket Handler) :
    Prop where
  /-- A socket has one owner. -/
  owners : ∀ r ∈ s.known, ∀ r' ∈ s.known, r.socket = r'.socket → r = r'
  /-- The handlers are there until the tokens are removed. -/
  held : ∀ r ∈ s.live ++ s.marked, slab.get s.selector.handlers r.token = some r.handler
  tokens : ∀ r ∈ s.live ++ s.marked, ∀ r' ∈ s.live ++ s.marked, r.token = r'.token → r = r'
  apart : ∀ r ∈ s.live, r ∉ s.marked
  once : s.marked.Nodup
  toRemove : s.selector.tokensToRemove = s.marked.map Registration.token
  polled : ∀ socket token interest, s.selector.poll socket = some (token, interest) →
    ∃ r ∈ s.live, r.socket = socket ∧ r.token = token
  batched : ∀ event ∈ s.batch, ∃ r ∈ s.live ++ s.marked,
    r.socket = event.socket ∧ r.token = event.token

namespace Consistent

variable {slab : Slab Handlers Handler} {s s' : PollLoop Handlers Socket Handler}

theorem create : Consistent slab (create slab : PollLoop Handlers Socket Handler) where
  owners := nofun
  held := nofun
  tokens := nofun
  apart := nofun
  once := .nil
  toRemove := rfl
  polled := nofun
  batched := nofun

theorem known_of_present {r : Registration Socket Handler} (mem : r ∈ s.live ++ s.marked) :
    r ∈ s.known := List.mem_append_left _ mem

/-- The token of a live registration is not among those to be removed. -/
theorem token_stays (consistent : s.Consistent slab) {r : Registration Socket Handler}
    (live : r ∈ s.live) : r.token ∉ s.marked.map Registration.token := by
  intro gone
  obtain ⟨r', marked, same⟩ := List.mem_map.mp gone
  have one := consistent.tokens r' (List.mem_append_right _ marked) r
    (List.mem_append_left _ live) same
  exact consistent.apart r live (one ▸ marked)

/-- Exactly the marked handlers are removed. -/
theorem cleanRemovedTokens_ok (laws : slab.Lawful) (consistent : s.Consistent slab) :
    ∃ handlers, s.selector.cleanRemovedTokens slab =
        .ok { s.selector with handlers, tokensToRemove := [] } ∧
      ∀ token, slab.get handlers token =
        if token ∈ s.marked.map Registration.token then none
        else slab.get s.selector.handlers token := by
  have distinct : (s.marked.map Registration.token).Nodup := by
    refine List.Nodup.map_on (fun r mem r' mem' same => ?_) consistent.once
    exact consistent.tokens r (List.mem_append_right _ mem) r' (List.mem_append_right _ mem') same
  have used : ∀ token ∈ s.marked.map Registration.token,
      slab.get s.selector.handlers token ≠ none := by
    intro token mem
    obtain ⟨r, marked, rfl⟩ := List.mem_map.mp mem
    rw [consistent.held r (List.mem_append_right _ marked)]
    exact nofun
  obtain ⟨handlers, removed, get⟩ := laws.removeAll distinct used
  refine ⟨handlers, ?_, get⟩
  rw [TokenSelector.cleanRemovedTokens, consistent.toRemove,
    TokenSelector.foldlM_remove removed]
  rfl

theorem clean (laws : slab.Lawful) (consistent : s.Consistent slab) (done : s.batch = [])
    {selector : TokenSelector Handlers Socket}
    (h : s.selector.cleanRemovedTokens slab = .ok selector) :
    Consistent slab { s with
      selector
      phase := .polling
      marked := []
      removed := s.removed ++ s.marked } := by
  obtain ⟨handlers, cleaned, get⟩ := consistent.cleanRemovedTokens_ok laws
  have same := cleaned.symm.trans h
  cases same
  have present (r) (mem : r ∈ s.live ++ []) : r ∈ s.live ++ s.marked := by
    rw [List.append_nil] at mem
    exact List.mem_append_left _ mem
  have known (r) (mem : r ∈ s.live ++ [] ++ (s.removed ++ s.marked)) : r ∈ s.known := by
    simp only [PollLoop.known, List.mem_append, List.not_mem_nil, or_false] at mem ⊢
    tauto
  refine ⟨?_, ?_, ?_, ?_, .nil, rfl, consistent.polled, ?_⟩
  · intro r mem r' mem'
    exact consistent.owners r (known r mem) r' (known r' mem')
  · intro r mem
    rw [List.append_nil] at mem
    rw [get, if_neg (consistent.token_stays mem)]
    exact consistent.held r (List.mem_append_left _ mem)
  · intro r mem r' mem'
    exact consistent.tokens r (present r mem) r' (present r' mem')
  · intro r _ marked
    cases marked
  · intro event mem
    change event ∈ s.batch at mem
    rw [done] at mem
    cases mem

theorem registerFails [DecidableEq Socket] (laws : slab.Lawful) (consistent : s.Consistent slab)
    {socket : Socket} {handler : Handler} {interest : Ready} {err : IoError}
    {result : IoResult Token} {selector : TokenSelector Handlers Socket}
    (h : s.selector.register slab socket handler interest (.error err) = .ok (result, selector)) :
    Consistent slab { s with selector } := by
  obtain ⟨handlers, removed, rest⟩ := bind_eq_ok.mp h
  cases rest
  refine { consistent with held := fun r mem => ?_ }
  have held := consistent.held r mem
  rw [laws.get_remove _ _ _ _ (TokenSelector.remove_eq_ok.mp removed),
    if_neg (laws.insert_ne held).symm]
  exact laws.get_insert_of_used held

variable [DecidableEq Socket]

/-- A new registration gets a token that nobody has. -/
theorem register (laws : slab.Lawful) (consistent : s.Consistent slab) {socket : Socket}
    {handler : Handler} {interest : Ready} {token : Token}
    {selector : TokenSelector Handlers Socket} (unknown : ∀ owner ∈ s.known, owner.socket ≠ socket)
    (h : s.selector.register slab socket handler interest (.ok ()) = .ok (.ok token, selector)) :
    Consistent slab { s with selector, live := s.live ++ [⟨socket, handler, token⟩] } := by
  cases h
  set new : Registration Socket Handler :=
    ⟨socket, handler, (slab.insert s.selector.handlers handler).1⟩ with hnew
  have present (r) (mem : r ∈ s.live ++ [new] ++ s.marked) : r ∈ s.live ++ s.marked ∨ r = new := by
    simp only [List.mem_append, List.mem_singleton] at mem ⊢
    tauto
  have known (r) (mem : r ∈ s.live ++ [new] ++ s.marked ++ s.removed) : r ∈ s.known ∨ r = new := by
    simp only [PollLoop.known, List.mem_append, List.mem_singleton] at mem ⊢
    tauto
  have vacant (r) (mem : r ∈ s.live ++ s.marked) : new.token ≠ r.token :=
    laws.insert_ne (consistent.held r mem)
  refine ⟨?_, ?_, ?_, ?_, consistent.once, consistent.toRemove, ?_, ?_⟩
  · intro r mem r' mem' same
    rcases known r mem with old | rfl
    · rcases known r' mem' with old' | rfl
      · exact consistent.owners r old r' old' same
      · exact absurd same (unknown r old)
    · rcases known r' mem' with old' | rfl
      · exact absurd same.symm (unknown r' old')
      · rfl
  · intro r mem
    rcases present r mem with old | rfl
    · exact laws.get_insert_of_used (consistent.held r old)
    · exact (laws.get_insert _ _ _).trans (if_pos rfl)
  · intro r mem r' mem' same
    rcases present r mem with old | rfl
    · rcases present r' mem' with old' | rfl
      · exact consistent.tokens r old r' old' same
      · exact absurd same.symm (vacant r old)
    · rcases present r' mem' with old' | rfl
      · exact absurd same (vacant r' old')
      · rfl
  · intro r mem marked
    rcases List.mem_append.mp mem with old | last
    · exact consistent.apart r old marked
    · have there : r ∈ s.known := known_of_present (List.mem_append_right _ marked)
      rw [List.mem_singleton.mp last] at there
      exact unknown new there rfl
  · intro other token interest' registered
    change Function.update _ _ _ _ = _ at registered
    rw [Function.update_apply] at registered
    split at registered
    · rename_i same
      cases registered
      exact ⟨new, List.mem_append_right _ List.mem_cons_self, same.symm, rfl⟩
    · obtain ⟨r, live, same⟩ := consistent.polled _ _ _ registered
      exact ⟨r, List.mem_append_left _ live, same⟩
  · intro event mem
    obtain ⟨r, there, same⟩ := consistent.batched event mem
    refine ⟨r, ?_, same⟩
    simp only [List.mem_append] at there ⊢
    tauto

theorem reregister (consistent : s.Consistent slab) {owner : Registration Socket Handler}
    {interest : Ready} {answer : IoResult Unit} (known : owner ∈ s.known)
    (registered : answer = .ok () → s.selector.poll owner.socket ≠ none) :
    Consistent slab { s with
      selector := (s.selector.reregister owner.socket owner.token interest answer).2 } := by
  cases answer with
  | error _ => exact { consistent with }
  | ok _ =>
      refine { consistent with polled := fun socket token interest' found => ?_ }
      change Function.update _ _ _ _ = _ at found
      rw [Function.update_apply] at found
      split at found
      · rename_i same
        cases found
        obtain ⟨⟨token, before⟩, there⟩ := Option.ne_none_iff_exists'.mp (registered rfl)
        obtain ⟨r, live, socket', -⟩ := consistent.polled _ _ _ there
        have one : r = owner := consistent.owners r
          (known_of_present (List.mem_append_left _ live)) owner known socket'
        exact ⟨r, live, socket'.trans same.symm, congrArg Registration.token one⟩
      · exact consistent.polled _ _ _ found

theorem deregister (consistent : s.Consistent slab) {owner : Registration Socket Handler}
    {answer : IoResult Unit} (live : owner ∈ s.live) :
    Consistent slab { s with
      selector := (s.selector.deregister owner.socket owner.token answer).2
      live := s.live.filter (·.socket ≠ owner.socket)
      marked := s.marked ++ [owner] } := by
  have others (r) : r ∈ s.live.filter (·.socket ≠ owner.socket) ↔
      r ∈ s.live ∧ r.socket ≠ owner.socket := by
    rw [List.mem_filter, decide_eq_true_eq]
  have present (r) (mem : r ∈ s.live.filter (·.socket ≠ owner.socket) ++ (s.marked ++ [owner])) :
      r ∈ s.live ++ s.marked := by
    simp only [List.mem_append, others, List.mem_singleton] at mem ⊢
    rcases mem with ⟨there, -⟩ | marked | rfl
    · exact .inl there
    · exact .inr marked
    · exact .inl live
  have known (r)
      (mem : r ∈ s.live.filter (·.socket ≠ owner.socket) ++ (s.marked ++ [owner]) ++ s.removed) :
      r ∈ s.known := by
    rcases List.mem_append.mp mem with there | gone
    · exact known_of_present (present r there)
    · exact List.mem_append_right _ gone
  refine ⟨?_, ?_, ?_, ?_, ?_, ?_, ?_, ?_⟩
  · intro r mem r' mem'
    exact consistent.owners r (known r mem) r' (known r' mem')
  · intro r mem
    exact consistent.held r (present r mem)
  · intro r mem r' mem'
    exact consistent.tokens r (present r mem) r' (present r' mem')
  · intro r mem marked
    obtain ⟨there, other⟩ := (others r).mp mem
    rcases List.mem_append.mp marked with before | last
    · exact consistent.apart r there before
    · exact other (congrArg Registration.socket (List.mem_singleton.mp last))
  · refine List.nodup_append.mpr ⟨consistent.once, List.nodup_singleton _, ?_⟩
    intro r marked r' last same
    rw [List.mem_singleton.mp last] at same
    exact consistent.apart owner live (same ▸ marked)
  · show s.selector.tokensToRemove ++ [owner.token] = _
    rw [consistent.toRemove, List.map_append]
    rfl
  · intro socket token interest registered
    change Function.update _ _ _ _ = _ at registered
    rw [Function.update_apply] at registered
    split at registered
    · cases registered
    · rename_i other
      obtain ⟨r, there, rfl, same⟩ := consistent.polled _ _ _ registered
      exact ⟨r, (others r).mpr ⟨there, other⟩, rfl, same⟩
  · intro event mem
    obtain ⟨r, there, same⟩ := consistent.batched event mem
    refine ⟨r, ?_, same⟩
    simp only [List.mem_append, others, List.mem_singleton] at there ⊢
    rcases there with before | marked
    · by_cases own : r.socket = owner.socket
      · have one := consistent.owners r (known_of_present (List.mem_append_left _ before)) owner
          (known_of_present (List.mem_append_left _ live)) own
        exact .inr (.inr one)
      · exact .inl ⟨before, own⟩
    · exact .inr (.inl marked)

theorem step (laws : slab.Lawful) (consistent : s.Consistent slab) {l : Label Socket Handler}
    (orderly : s.Orderly l) (step : Step slab s l s') : s'.Consistent slab := by
  cases step with
  | poll _ =>
      refine { consistent with batched := fun event mem => ?_ }
      obtain ⟨interest, registered⟩ := orderly event mem
      obtain ⟨r, live, same⟩ := consistent.polled _ _ _ registered
      exact ⟨r, List.mem_append_left _ live, same⟩
  | skip _ _ => exact { consistent with }
  | runHandlers _ => exact { consistent with }
  | dispatch _ next _ =>
      refine { consistent with batched := fun event mem => ?_ }
      exact consistent.batched event (next ▸ List.mem_cons_of_mem _ mem)
  | cleanRemovedTokens _ done cleaned => exact consistent.clean laws done cleaned
  | register unknown registered => exact consistent.register laws unknown registered
  | registerFails refused => exact consistent.registerFails laws refused
  | reregister known registered => exact consistent.reregister known registered
  | deregister _ => exact consistent.deregister orderly

end Consistent

/-- What the loop promises in a state: every event of the batch reaches the handler that was
registered with its socket, and cleaning up removes only what was deregistered. -/
structure Sound (slab : Slab Handlers Handler) (s : PollLoop Handlers Socket Handler) : Prop where
  /-- The token of an event is found, and its handler is the one that was registered together
  with the socket; no other registration has that socket. -/
  dispatches : ∀ event ∈ s.batch, ∃ r ∈ s.known, r.socket = event.socket ∧
    s.selector.handlerOf slab event.token = .ok r.handler ∧
      ∀ r' ∈ s.known, r'.socket = event.socket → r' = r
  /-- The next registration gets the token of no event in the batch. -/
  apart : ∀ event ∈ s.batch, ∀ handler, (slab.insert s.selector.handlers handler).1 ≠ event.token
  /-- Tokens are removed without a panic; the handlers that go were deregistered, and every
  other stays. -/
  cleans : ∃ selector, s.selector.cleanRemovedTokens slab = .ok selector ∧
    (∀ token handler, slab.get s.selector.handlers token = some handler →
      slab.get selector.handlers token = some handler ∨
        slab.get selector.handlers token = none ∧
          ∃ r ∈ s.marked, r.token = token ∧ r.handler = handler) ∧
    ∀ r ∈ s.live, slab.get selector.handlers r.token = some r.handler

/-- **The tokens are in order** in every run in which each is deregistered at most once and the
poller reports registered sockets.  The slab and the poller are parameters, and what is asked of
them is what their documentation says; a token is not given to another socket while an event with
it is in the batch. -/
theorem run_tokens [DecidableEq Socket] {slab : Slab Handlers Handler} (laws : slab.Lawful)
    {t : List (PollLoop Handlers Socket Handler × Label Socket Handler)}
    {s : PollLoop Handlers Socket Handler} (run : (machine slab).Run t s)
    (orderly : Machine.Meets Orderly t) : s.Sound slab := by
  have consistent : s.Consistent slab := by
    refine run.invariant (Consistent slab) (fun _ start => ?_)
      (fun _ _ _ consistent orderly step => consistent.step laws orderly step) orderly
    rw [start]
    exact .create
  refine ⟨fun event mem => ?_, fun event mem handler => ?_, ?_⟩
  · obtain ⟨r, there, socket, token⟩ := consistent.batched event mem
    have known := Consistent.known_of_present there
    refine ⟨r, known, socket, ?_, fun r' known' socket' => ?_⟩
    · rw [TokenSelector.handlerOf, ← token, consistent.held r there]
    · exact consistent.owners r' known' r known (socket'.trans socket.symm)
  · obtain ⟨r, there, -, token⟩ := consistent.batched event mem
    rw [← token]
    exact laws.insert_ne (consistent.held r there)
  · obtain ⟨handlers, cleaned, get⟩ := consistent.cleanRemovedTokens_ok laws
    refine ⟨_, cleaned, fun token handler used => ?_, fun r live => ?_⟩
    · rw [get]
      split
      · rename_i mem
        obtain ⟨r, marked, rfl⟩ := List.mem_map.mp mem
        have held := consistent.held r (List.mem_append_right _ marked)
        exact .inr ⟨rfl, r, marked, rfl, Option.some.inj (held.symm.trans used)⟩
      · exact .inl used
    · rw [get, if_neg (consistent.token_stays live)]
      exact consistent.held r (List.mem_append_left _ live)

/-- A socket is deregistered while its event is in the batch, and another one is registered. -/
theorem run_tokens_reused :
    ∃ t, ∃ s : PollLoop (List (Option ℕ)) ℕ ℕ, (machine Slab.entries).Run t s ∧
      s.selector.tokensToRemove = [0] ∧ s.batch.map TokenEvent.token = [0] ∧
      s.live.map Registration.token = [1] ∧ s.Sound Slab.entries := by
  have start : (machine Slab.entries).Run [] (create Slab.entries : PollLoop (List (Option ℕ)) ℕ ℕ) :=
    .start rfl
  have registered := start.step (show Step _ _ (.register 7 70 .readable (.ok ())) _ from
    .register nofun rfl)
  have polled := registered.step (show Step _ _ (.poll [⟨7, 0, .readable⟩]) _ from .poll rfl)
  have deregistered := polled.step (show Step _ _ (.deregister ⟨7, 70, 0⟩ (.ok ())) _ from
    .deregister List.mem_cons_self)
  have again := deregistered.step (show Step _ _ (.register 8 80 .readable (.ok ())) _ from
    .register (by decide) rfl)
  refine ⟨_, _, again, rfl, rfl, rfl, run_tokens Slab.entries_lawful again ?_⟩
  simp only [Machine.meets_append, Machine.meets_singleton]
  refine ⟨⟨⟨⟨Machine.meets_nil _, trivial⟩, fun event mem => ?_⟩, List.mem_cons_self⟩, trivial⟩
  rw [List.mem_singleton.mp mem]
  exact ⟨.readable, rfl⟩

/-! ## What the owners see -/

end PollLoop

end ReverseTether
