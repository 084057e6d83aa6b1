import ReverseTether.Process

/-!
# Draining the accept queue

The listener is edge-triggered: a connection that still waits in its queue when `on_ready`
returns waits until another one arrives.  So `on_ready` accepts in a loop, and is to leave it
only when `accept` has nothing more to give.

`Drains` is that loop over all the outcomes there may ever be, one for each call of `accept`; a
run takes as many of them as it asks for.  The loop leaves on every error, and not only on the
one that says that the queue is empty: `drains_iff` says that the queue is drained exactly when
the first outcome that is no client is that `accept` would block.  What the loop does with the
clients does not depend on that: each client that was created is kept, and no other.

An outcome of `accept` stands for both of its answers, the connection and the registration of
its socket, since the loop leaves on a failure of either.  The run is over an unbounded list
of outcomes, so that a queue which is refilled while the loop runs is included.
-/

namespace ReverseTether

namespace TunnelServer

/-- What `accept`, and then the registration of the new client, come to in each turn. -/
abbrev AcceptOutcomes := ℕ → IoResult (IoResult Unit)

/-- `on_ready` from turn `turn` on, up to turn `last`, in which it returns.  The relation lists the
turns one by one, so that what holds of every turn is an induction over it. -/
inductive Drains (overflowChecks : Bool) (outcomes : AcceptOutcomes) :
    ℕ → List ClientContext → Owners → ℕ → List ClientContext → Owners → Prop
  /-- Any error breaks the loop, `WouldBlock` without a message. -/
  | leave {turn : ℕ} {contexts contexts' : List ClientContext} {s s' : Owners} {err : IoError} :
      (acceptClient contexts overflowChecks (outcomes turn)).run s =
        .ok ((.error err, contexts'), s') →
      Drains overflowChecks outcomes turn contexts s turn contexts' s'
  | again {turn last : ℕ} {contexts contexts' contexts'' : List ClientContext}
      {s s' s'' : Owners} :
      (acceptClient contexts overflowChecks (outcomes turn)).run s =
        .ok ((.ok (), contexts'), s') →
      Drains overflowChecks outcomes (turn + 1) contexts' s' last contexts'' s'' →
      Drains overflowChecks outcomes turn contexts s last contexts'' s''

variable {overflowChecks : Bool} {outcomes : AcceptOutcomes} {turn last : ℕ}
  {contexts contexts' : List ClientContext} {s s' : Owners}

/-! ## One turn -/

/-- A turn that goes on has created a client, which is pushed. -/
theorem acceptClient_ok {answer : IoResult (IoResult Unit)}
    (run : (acceptClient contexts overflowChecks answer).run s = .ok ((.ok (), contexts'), s')) :
    answer = .ok (.ok ()) ∧ contexts'.length = contexts.length + 1 ∧
      s'.server.clients = s.server.clients ++ [contexts.length] := by
  unfold acceptClient at run
  match answer with
  | .error err => cases run
  | .ok registered =>
      simp only [StateT.run_bind] at run
      by_cases full : overflowChecks ∧ s.server.nextClientId.toNat + 1 = 2 ^ 32
      · rw [show (takeClientId overflowChecks).run s = _ from if_pos full] at run
        cases run
      · rw [show (takeClientId overflowChecks).run s = _ from if_neg full] at run
        match registered with
        | .error err => cases run
        | .ok () =>
            cases run
            exact ⟨rfl, by simp, rfl⟩

/-- A turn that leaves the loop has created none. -/
theorem acceptClient_error {answer : IoResult (IoResult Unit)} {err : IoError}
    (run : (acceptClient contexts overflowChecks answer).run s =
      .ok ((.error err, contexts'), s')) :
    answer ≠ .ok (.ok ()) ∧ contexts' = contexts ∧ s'.server.clients = s.server.clients := by
  unfold acceptClient at run
  match answer with
  | .error _ =>
      cases run
      exact ⟨nofun, rfl, rfl⟩
  | .ok registered =>
      simp only [StateT.run_bind] at run
      by_cases full : overflowChecks ∧ s.server.nextClientId.toNat + 1 = 2 ^ 32
      · rw [show (takeClientId overflowChecks).run s = _ from if_pos full] at run
        cases run
      · rw [show (takeClientId overflowChecks).run s = _ from if_neg full] at run
        match registered with
        | .error _ =>
            cases run
            exact ⟨nofun, rfl, rfl⟩
        | .ok () => cases run

/-! ## A whole run -/

/-- The last turn is the first one that created no client. -/
theorem Drains.first_failure
    (run : Drains overflowChecks outcomes turn contexts s last contexts' s') :
    turn ≤ last ∧ (∀ k, turn ≤ k → k < last → outcomes k = .ok (.ok ())) ∧
      outcomes last ≠ .ok (.ok ()) := by
  induction run with
  | leave left =>
      refine ⟨le_rfl, ?_, (acceptClient_error left).1⟩
      intro k from_ below
      omega
  | again accepted _ ih =>
      obtain ⟨later, created, failed⟩ := ih
      refine ⟨by omega, ?_, failed⟩
      intro k from_ below
      rcases Nat.eq_or_lt_of_le from_ with rfl | after
      · exact (acceptClient_ok accepted).1
      · exact created k after below

/-- A run keeps one client for each turn but the last. -/
theorem Drains.clients (run : Drains overflowChecks outcomes turn contexts s last contexts' s') :
    s'.server.clients =
      s.server.clients ++ List.range' contexts.length (last - turn) := by
  induction run with
  | leave left => simp [(acceptClient_error left).2.2]
  | @again turn last contexts _ _ s _ _ accepted rest ih =>
      obtain ⟨_, longer, pushed⟩ := acceptClient_ok accepted
      have turns : last - turn = (last - (turn + 1)) + 1 := by
        have := rest.first_failure.1
        omega
      rw [ih, pushed, longer, turns, List.range'_succ, List.append_assoc]
      rfl

/-- The number of clients that were created up to turn `last`. -/
def created (outcomes : AcceptOutcomes) (last : ℕ) : ℕ :=
  (List.range (last + 1)).countP fun turn => outcomes turn = .ok (.ok ())

/-- All turns but the last one created a client. -/
theorem Drains.created_eq (run : Drains overflowChecks outcomes 0 contexts s last contexts' s') :
    created outcomes last = last := by
  obtain ⟨_, before, failed⟩ := run.first_failure
  have all : (List.range last).countP (fun turn => outcomes turn = .ok (.ok ())) = last := by
    rw [List.countP_eq_length.mpr, List.length_range]
    intro k below
    exact decide_eq_true (before k (Nat.zero_le k) (List.mem_range.mp below))
  unfold created
  rw [List.range_succ, List.countP_append, all]
  simp [failed]

/-- The accept queue is drained when `on_ready` returns, and the clients that were created are
kept behind those that were there. -/
structure Drained (outcomes : AcceptOutcomes) (contexts : List ClientContext) (s : Owners)
    (last : ℕ) (s' : Owners) : Prop where
  /-- The last call of `accept` found the queue empty. -/
  drained : outcomes last = .error .wouldBlock
  clients : s'.server.clients =
    s.server.clients ++ List.range' contexts.length (created outcomes last)

/-- The first turn that creates no client fails because `accept` would block.  Every other failure
leaves clients in the queue of the listener. -/
def QueueEnds (outcomes : AcceptOutcomes) : Prop :=
  ∀ turn, (∀ k < turn, outcomes k = .ok (.ok ())) → outcomes turn ≠ .ok (.ok ()) →
    outcomes turn = .error .wouldBlock

/-- Whatever made the loop leave, it keeps exactly the clients that were created. -/
theorem Drains.keeps_created
    (run : Drains overflowChecks outcomes 0 contexts s last contexts' s') :
    s'.server.clients =
      s.server.clients ++ List.range' contexts.length (created outcomes last) := by
  rw [run.clients, run.created_eq, Nat.sub_zero]

/-- **When the accept queue is drained.**  `on_ready` returns with the queue drained if and only if
the first failure is that `accept` would block.  The loop leaves at the first failure, whatever it
is, and only one of them means that nothing is queued; the clients accepted before it are kept in
every case. -/
theorem drains_iff (run : Drains overflowChecks outcomes 0 contexts s last contexts' s') :
    Drained outcomes contexts s last s' ↔ QueueEnds outcomes := by
  obtain ⟨_, before, failed⟩ := run.first_failure
  constructor
  · intro drained turn earlier failure
    have same : turn = last := by
      rcases lt_trichotomy turn last with below | same | above
      · exact absurd (before turn (Nat.zero_le turn) below) failure
      · exact same
      · exact absurd (earlier last above) failed
    rw [same]
    exact drained.drained
  · intro ends
    refine ⟨ends last (fun k below => before k (Nat.zero_le k) below) failed, ?_⟩
    exact run.keeps_created

/-- An accepted client, and then an empty queue. -/
def oneClient : AcceptOutcomes
  | 0 => .ok (.ok ())
  | _ => .error .wouldBlock

/-- One client is accepted, and the queue ends with it. -/
theorem drains_iff_oneClient :
    Drained oneClient [] ⟨⟨[], 0⟩, []⟩ 1 ⟨⟨[0], 1⟩, [0]⟩ ↔ QueueEnds oneClient := by
  have run : Drains true oneClient 0 [] ⟨⟨[], 0⟩, []⟩ 1 [.create 0] ⟨⟨[0], 1⟩, [0]⟩ :=
    .again rfl (.leave rfl)
  exact drains_iff run

/-- **A failed registration strands the queue.**  The first client cannot be registered, and
`on_ready` returns without asking for the second, which waits in the queue.  The listener is polled
edge-triggered, so that no event announces that client again until a third one connects. -/
theorem not_drained :
    ¬ ∀ (overflowChecks : Bool) (outcomes : AcceptOutcomes) (contexts : List ClientContext)
      (s : Owners) (last : ℕ) (contexts' : List ClientContext) (s' : Owners),
      Drains overflowChecks outcomes 0 contexts s last contexts' s' →
        Drained outcomes contexts s last s' := by
  intro always
  have drained := always true
    (fun turn => if turn = 0 then .ok (.error .other) else oneClient (turn - 1)) [] ⟨⟨[], 0⟩, []⟩ 0
    [] ⟨⟨[], 1⟩, []⟩ (.leave rfl)
  exact absurd drained.drained nofun

/-! ## The loop and the handler -/

/-- The handler computes what the loop does, from the outcomes it asked for. -/
theorem Drains.onReady (run : Drains overflowChecks outcomes turn contexts s last contexts' s') :
    (TunnelServer.onReady overflowChecks ((List.range' turn (last + 1 - turn)).map outcomes)
      contexts).run s = .ok (contexts', s') := by
  induction run with
  | @leave turn _ _ _ _ _ left =>
      rw [show turn + 1 - turn = 1 by omega]
      simp only [List.range'_one, List.map_cons, List.map_nil, TunnelServer.onReady,
        StateT.run_bind, left]
      rfl
  | @again turn last _ _ _ _ _ _ accepted rest ih =>
      have turns : last + 1 - turn = (last + 1 - (turn + 1)) + 1 := by
        have := rest.first_failure.1
        omega
      rw [turns, List.range'_succ, List.map_cons]
      simp only [TunnelServer.onReady, StateT.run_bind, accepted]
      exact ih

/-- A turn of the loop ends, unless the ids overflow. -/
theorem acceptClient_ends (overflowChecks : Bool) (contexts : List ClientContext)
    (answer : IoResult (IoResult Unit)) (s : Owners) (fits : s.server.nextClientId.toNat + 1 < 2 ^ 32) :
    ∃ result contexts' s',
      (acceptClient contexts overflowChecks answer).run s = .ok ((result, contexts'), s') ∧
        (result = .ok () ↔ answer = .ok (.ok ())) ∧
        s'.server.nextClientId.toNat ≤ s.server.nextClientId.toNat + 1 := by
  match answer with
  | .error err => exact ⟨.error err, contexts, s, rfl, by simp, by omega⟩
  | .ok registered =>
      have room : ¬ (overflowChecks ∧ s.server.nextClientId.toNat + 1 = 2 ^ 32) := by omega
      have counted : (s.server.nextClientId + 1).toNat ≤ s.server.nextClientId.toNat + 1 := by
        rw [UInt32.toNat_add]
        exact Nat.mod_le _ _
      unfold acceptClient
      simp only [StateT.run_bind]
      rw [show (takeClientId overflowChecks).run s = _ from if_neg room]
      match registered with
      | .error err => exact ⟨.error err, _, _, rfl, by simp, counted⟩
      | .ok () => exact ⟨.ok (), _, _, rfl, by simp, counted⟩

/-- The loop returns when some turn creates no client, unless the ids overflow before. -/
theorem exists_drains (contexts : List ClientContext) (s : Owners) (failed : turn ≤ last)
    (failure : outcomes last ≠ .ok (.ok ()))
    (fits : s.server.nextClientId.toNat + (last - turn) + 1 < 2 ^ 32) :
    ∃ last' contexts' s', Drains overflowChecks outcomes turn contexts s last' contexts' s' := by
  induction h : last - turn generalizing turn contexts s with
  | zero =>
      have same : turn = last := by omega
      obtain ⟨result, contexts', s', run, created, _⟩ :=
        acceptClient_ends overflowChecks contexts (outcomes turn) s (by omega)
      match result with
      | .error err => exact ⟨turn, contexts', s', .leave run⟩
      | .ok () => exact absurd (created.mp rfl) (same ▸ failure)
  | succ n ih =>
      obtain ⟨result, contexts', s', run, _, counted⟩ :=
        acceptClient_ends overflowChecks contexts (outcomes turn) s (by omega)
      match result with
      | .error err => exact ⟨turn, contexts', s', .leave run⟩
      | .ok () =>
          obtain ⟨last', contexts'', s'', rest⟩ :=
            @ih (turn + 1) contexts' s' (by omega) (by omega) (by omega)
          exact ⟨last', contexts'', s'', .again run rest⟩

end TunnelServer

end ReverseTether
