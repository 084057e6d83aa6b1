import ReverseTether.Borrows
import ReverseTether.Library.Projection

/-!
# One client of the whole relay

`Relay` is the poll loop with a single client.  The real loop has any number of them, accepted
at any time, and it dispatches an event of one among the events of the others, or among new
clients.  Here each client of `Process` is shown to go by `Relay` all the same
(`run_client`): its context is that of a run of `Relay` with the batch restricted to its own
events (`batchOf`), and each step of that run is one of the loop.  So what holds in every run of
the relay of one client holds of each client in every run of the whole.

What a run of the loop does to a client is at most one step of the client's own: its events are
handled where they stand in the batch, and the reaper visits it once, as it is listed once.
-/

namespace ReverseTether

open Library

/-- What the cell is to a client. -/
def Cell.sourceOf (k : ClientHandle) : Cell → Option Source
  | .tunnelServer => none
  | .client k' => if k' = k then some .client else none
  | .connection k' handle => if k' = k then some (.connection handle) else none

/-- A socket of a client is the client's own. -/
theorem Cell.sourceOf_cell (k : ClientHandle) (source : Source) :
    (source.cell k).sourceOf k = some source := by
  cases source <;> exact if_pos rfl

/-- It is none of another client's. -/
theorem Cell.sourceOf_ne {k k' : ClientHandle} (other : k' ≠ k) (source : Source) :
    (source.cell k').sourceOf k = none := by
  cases source <;> exact if_neg other

/-- A cell of a client is that of a socket. -/
theorem Cell.eq_cell {k : ClientHandle} {cell : Cell} {source : Source}
    (is : cell.sourceOf k = some source) : cell = source.cell k := by
  cases cell with
  | tunnelServer => cases is
  | client k' =>
      by_cases same : k' = k
      · rw [sourceOf, if_pos same] at is
        cases is
        rw [same]
        rfl
      · rw [sourceOf, if_neg same] at is
        cases is
  | connection k' handle =>
      by_cases same : k' = k
      · rw [sourceOf, if_pos same] at is
        cases is
        rw [same]
        rfl
      · rw [sourceOf, if_neg same] at is
        cases is

namespace Process

/-- The events of a client, in their order. -/
def batchOf (k : ClientHandle) (batch : List (Cell × Ready)) : List (Source × Ready) :=
  batch.filterMap fun event => (event.1.sourceOf k).map fun source => (source, event.2)

@[simp] theorem batchOf_nil (k : ClientHandle) : batchOf k [] = [] := rfl

theorem batchOf_tunnelServer (k : ClientHandle) (ready : Ready) (batch : List (Cell × Ready)) :
    batchOf k ((.tunnelServer, ready) :: batch) = batchOf k batch := rfl

/-- An event of the client comes first. -/
theorem batchOf_self (k : ClientHandle) (source : Source) (ready : Ready)
    (batch : List (Cell × Ready)) :
    batchOf k ((source.cell k, ready) :: batch) = (source, ready) :: batchOf k batch := by
  rw [batchOf, List.filterMap_cons_some]
  · rfl
  · rw [Cell.sourceOf_cell]
    rfl

/-- An event of another client is left out. -/
theorem batchOf_other {k k' : ClientHandle} (other : k' ≠ k) (source : Source) (ready : Ready)
    (batch : List (Cell × Ready)) :
    batchOf k ((source.cell k', ready) :: batch) = batchOf k batch := by
  rw [batchOf, List.filterMap_cons_none]
  · rfl
  · rw [Cell.sourceOf_ne other]
    rfl

/-- The batch of a client has the events that wait for its sockets. -/
theorem mem_batchOf {k : ClientHandle} {batch : List (Cell × Ready)} {event : Source × Ready} :
    event ∈ batchOf k batch ↔ (event.1.cell k, event.2) ∈ batch := by
  rw [batchOf, List.mem_filterMap]
  constructor
  · rintro ⟨⟨cell, ready⟩, mem, is⟩
    obtain ⟨source, found, rfl⟩ := Option.map_eq_some_iff.mp is
    rw [← Cell.eq_cell found]
    exact mem
  · intro mem
    refine ⟨_, mem, ?_⟩
    rw [Cell.sourceOf_cell]
    rfl

/-- What the loop shows of a client: the relay of that client alone. -/
def Sees (k : ClientHandle) (s : Process) (r : Relay) : Prop :=
  s.contexts[k]? = some r.toClientContext ∧ r.batch = batchOf k s.batch

/-- Which step of a client a step of the loop may be. -/
inductive Shows (k : ClientHandle) : Label → Relay.Label → Prop
  | poll (events : List (Cell × Ready)) : Shows k (.poll events) (.poll (batchOf k events))
  | reap (clock : ClientHandle → Handle → Instant) : Shows k (.cleanUp clock) (.reap (clock k))
  | handle (answers : HandlerAnswers) : Shows k (.handle answers) (.handle answers.event)
  | release : Shows k .cleanRemovedTokens .release
  | rehash (connections : List (ConnectionId × Handle)) :
      Shows k (.rehash k connections) (.rehash connections)

/-! ## What the parts of the loop do to a client -/

section Parts

variable {flags flags' : Flags Cell} {contexts contexts' : List ClientContext} {s s' : Owners}
  {k : ClientHandle} {c : ClientContext}

/-- Clients are only added, at the end. -/
theorem acceptClient_appends {overflowChecks : Bool} {answer : IoResult (IoResult Unit)}
    {result : IoResult Unit}
    (run : (TunnelServer.acceptClient contexts overflowChecks answer).run s =
      .ok ((result, contexts'), s')) :
    ∃ ids : List UInt32, contexts' = contexts ++ ids.map ClientContext.create := by
  cases answer with
  | error err =>
      cases run
      exact ⟨[], (List.append_nil _).symm⟩
  | ok registered =>
      unfold TunnelServer.acceptClient at run
      simp only [StateT.run_bind] at run
      by_cases full : overflowChecks ∧ s.server.nextClientId.toNat + 1 = 2 ^ 32
      · rw [show (TunnelServer.takeClientId overflowChecks).run s = _ from if_pos full] at run
        cases run
      · rw [show (TunnelServer.takeClientId overflowChecks).run s = _ from if_neg full] at run
        cases registered with
        | error err =>
            cases run
            exact ⟨[], (List.append_nil _).symm⟩
        | ok _ =>
            cases run
            exact ⟨[s.server.nextClientId], rfl⟩

/-- **The accept loop appends new clients** and leaves the others alone.  A handle is a place in
the list of all clients that there ever were, so that it stays valid when another client comes or
goes. -/
theorem onReady_appends {overflowChecks : Bool} {answers : List (IoResult (IoResult Unit))}
    (run : (TunnelServer.onReady overflowChecks answers contexts).run s = .ok (contexts', s')) :
    ∃ ids : List UInt32, contexts' = contexts ++ ids.map ClientContext.create := by
  induction answers generalizing contexts s with
  | nil =>
      cases run
      exact ⟨[], (List.append_nil _).symm⟩
  | cons answer answers ih =>
      unfold TunnelServer.onReady at run
      simp only [StateT.run_bind] at run
      cases accepted : (TunnelServer.acceptClient contexts overflowChecks answer).run s with
      | error e =>
          rw [accepted] at run
          cases run
      | ok p =>
          rw [accepted] at run
          obtain ⟨⟨result, contexts₁⟩, s₁⟩ := p
          obtain ⟨ids, rfl⟩ := acceptClient_appends accepted
          cases result with
          | error err =>
              cases run
              exact ⟨ids, rfl⟩
          | ok _ =>
              obtain ⟨later, rfl⟩ := ih run
              refine ⟨ids ++ later, ?_⟩
              rw [List.map_append, List.append_assoc]

/-- The handler of the tunnel server leaves the clients there are alone. -/
theorem tunnelServer_appends (unborrowed : ∀ cell, flags cell = 0) {ready : Ready}
    {answers : HandlerAnswers}
    (run : (handler contexts .tunnelServer ready answers).run (flags, s) =
      .ok (contexts', flags', s')) :
    ∃ ids : List UInt32, contexts' = contexts ++ ids.map ClientContext.create := by
  rw [tunnelServer_computes contexts ready answers flags s (fun cell _ => unborrowed cell)
    trivial] at run
  cases accepts : (TunnelServer.onReady answers.overflowChecks answers.accepts contexts).run s with
  | error e =>
      rw [accepts] at run
      cases run
  | ok p =>
      rw [accepts] at run
      cases run
      exact onReady_appends accepts

/-- The handler of a socket is that of a client there is. -/
theorem handler_place {source : Source} {ready : Ready} {answers : HandlerAnswers}
    (run : (handler contexts (source.cell k) ready answers).run (flags, s) =
      .ok (contexts', flags', s')) : ∃ c, contexts[k]? = some c := by
  cases place : contexts[k]? with
  | some c => exact ⟨c, rfl⟩
  | none =>
      have unknown : handler contexts (source.cell k) ready answers =
          Sharing.call (.error .tokenNotFound) := by
        cases source <;> simp only [Source.cell, handler, place]
      rw [unknown] at run
      cases run

/-- The handler of a socket of a client replaces that client. -/
theorem handler_sets (unborrowed : ∀ cell, flags cell = 0) (tended : Tended contexts s)
    {source : Source} {ready : Ready} {answers : HandlerAnswers} (place : contexts[k]? = some c)
    (run : (handler contexts (source.cell k) ready answers).run (flags, s) =
      .ok (contexts', flags', s')) :
    ∃ c', c.dispatch source ready answers.event = .ok c' ∧ contexts' = contexts.set k c' ∧
      s'.server.nextClientId = s.server.nextClientId := by
  rw [handler_dispatch unborrowed tended place] at run
  cases dispatched : c.dispatch source ready answers.event with
  | error panic =>
      rw [dispatched] at run
      cases run
  | ok c' =>
      rw [dispatched] at run
      cases run
      refine ⟨c', rfl, rfl, ?_⟩
      split <;> rfl

/-- The reaper cleans the clients that are listed, one after the other. -/
theorem cleanUp_cleans (unborrowed : ∀ cell, flags cell = 0)
    {clock : ClientHandle → Handle → Instant}
    (run : (cleanUp contexts clock).run (flags, s) = .ok (contexts', flags', s')) :
    s.server.clients.foldlM (TunnelServer.cleanClient clock) contexts = .ok contexts' ∧ s' = s := by
  have cleans : Computes Set.univ (fun _ => True) (cleanUp contexts clock)
      (get >>= fun s => steady (s.server.clients.foldlM (TunnelServer.cleanClient clock) contexts)) := by
    refine .borrowMut trivial ?_
    refine .bind (.shared _) (fun _ _ _ _ _ => trivial) fun s => ?_
    exact (Returns.foldlM (TunnelServerCells.cleanClient_returns clock) _ contexts).mono
      (fun _ other => ⟨trivial, other⟩) fun _ holds => holds
  rw [cleans flags s (fun cell _ => unborrowed cell) trivial] at run
  change returning flags
    ((steady (s.server.clients.foldlM (TunnelServer.cleanClient clock) contexts)).run s) = _ at run
  cases cleaned : s.server.clients.foldlM (TunnelServer.cleanClient clock) contexts with
  | error panic =>
      rw [cleaned] at run
      cases run
  | ok _ =>
      rw [cleaned] at run
      cases run
      exact ⟨rfl, rfl⟩

variable {clock : ClientHandle → Handle → Instant}

/-- The reaper does with a client what its router does. -/
theorem cleanClient_self (place : contexts[k]? = some c)
    (h : TunnelServer.cleanClient clock contexts k = .ok contexts') :
    ∃ c', Router.cleanExpiredConnections c (clock k) = .ok c' ∧ contexts'[k]? = some c' := by
  unfold TunnelServer.cleanClient at h
  rw [place] at h
  obtain ⟨c', cleaned, rest⟩ := bind_eq_ok.mp h
  cases rest
  exact ⟨c', cleaned, List.getElem?_set_self (List.getElem?_eq_some_iff.mp place).1⟩

/-- It neither adds clients nor removes any. -/
theorem cleanClient_length {k : ClientHandle}
    (h : TunnelServer.cleanClient clock contexts k = .ok contexts') :
    contexts'.length = contexts.length := by
  unfold TunnelServer.cleanClient at h
  split at h
  · obtain ⟨c', _, rest⟩ := bind_eq_ok.mp h
    cases rest
    exact List.length_set
  · cases h
    rfl

/-- It leaves the other clients alone. -/
theorem cleanClient_other {k' : ClientHandle} (other : k' ≠ k)
    (h : TunnelServer.cleanClient clock contexts k' = .ok contexts') :
    contexts'[k]? = contexts[k]? := by
  unfold TunnelServer.cleanClient at h
  split at h
  · obtain ⟨c', _, rest⟩ := bind_eq_ok.mp h
    cases rest
    exact List.getElem?_set_ne other
  · cases h
    rfl

/-- The same for the whole list of them. -/
theorem cleanClients_length {clients : List ClientHandle}
    (h : clients.foldlM (TunnelServer.cleanClient clock) contexts = .ok contexts') :
    contexts'.length = contexts.length := by
  induction clients generalizing contexts with
  | nil =>
      cases h
      rfl
  | cons k clients ih =>
      rw [List.foldlM_cons] at h
      obtain ⟨contexts₁, cleaned, h⟩ := bind_eq_ok.mp h
      exact (ih h).trans (cleanClient_length cleaned)

/-- A client that is not listed is left alone. -/
theorem cleanClients_other {clients : List ClientHandle} (unlisted : k ∉ clients)
    (h : clients.foldlM (TunnelServer.cleanClient clock) contexts = .ok contexts') :
    contexts'[k]? = contexts[k]? := by
  induction clients generalizing contexts with
  | nil =>
      cases h
      rfl
  | cons k' clients ih =>
      rw [List.foldlM_cons] at h
      obtain ⟨contexts₁, cleaned, h⟩ := bind_eq_ok.mp h
      obtain ⟨other, rest⟩ := not_or.mp (mt List.mem_cons.mpr unlisted)
      exact (ih rest h).trans (cleanClient_other (Ne.symm other) cleaned)

/-- **The reaper visits a client at most once**: it is listed once.  What it does there is the
reaper of that client alone, by its own clock. -/
theorem cleanClients_at {clients : List ClientHandle} (once : clients.Nodup)
    (place : contexts[k]? = some c)
    (h : clients.foldlM (TunnelServer.cleanClient clock) contexts = .ok contexts') :
    ∃ c', contexts'[k]? = some c' ∧
      (c' = c ∨ Router.cleanExpiredConnections c (clock k) = .ok c') := by
  induction clients generalizing contexts with
  | nil =>
      cases h
      exact ⟨c, place, .inl rfl⟩
  | cons k' clients ih =>
      rw [List.foldlM_cons] at h
      obtain ⟨contexts₁, cleaned, h⟩ := bind_eq_ok.mp h
      obtain ⟨unlisted, once⟩ := List.nodup_cons.mp once
      by_cases same : k' = k
      · rw [same] at cleaned unlisted
        obtain ⟨c', reaped, place'⟩ := cleanClient_self place cleaned
        exact ⟨c', (cleanClients_other unlisted h).trans place', .inr reaped⟩
      · exact ih once ((cleanClient_other same cleaned).trans place) h

end Parts

/-! ## The loop, step by step -/

variable {s s' : Process} {label : Label} {k : ClientHandle}

/-- A cell is the tunnel server or that of a socket of a client. -/
theorem cell_cases (cell : Cell) :
    cell = .tunnelServer ∨ ∃ (k : ClientHandle) (source : Source), cell = source.cell k := by
  cases cell with
  | tunnelServer => exact .inl rfl
  | client k => exact .inr ⟨k, .client, rfl⟩
  | connection k handle => exact .inr ⟨k, .connection handle, rfl⟩

theorem Sees.place {r : Relay} (seen : Sees k s r) : s.contexts[k]? = some r.toClientContext := seen.1

/-- The steps of a client in a step of the loop: none, or one that it shows. -/
def Block (k : ClientHandle) (label : Label) (block : List (Relay × Relay.Label)) : Prop :=
  block = [] ∨ ∃ r l, block = [(r, l)] ∧ Shows k label l

/-- **A step of the loop is at most one of a client.**  The block is empty where the step is about
another client, and the batch that the client sees is the part of the batch that names it. -/
theorem Step.sees {r : Relay} (sound : s.Sound) (step : Step s label s') (seen : Sees k s r) :
    ∃ block r', Machine.Path Relay.machine r block r' ∧ Block k label block ∧ Sees k s' r' := by
  have rests (seen : Sees k s' r) :
      ∃ block r', Machine.Path Relay.machine r block r' ∧ Block k label block ∧ Sees k s' r' :=
    ⟨[], r, .refl, .inl rfl, seen⟩
  have takes (l : Relay.Label) (r' : Relay) (shows : Shows k label l) (own : Relay.Step r l r')
      (seen : Sees k s' r') :
      ∃ block r', Machine.Path Relay.machine r block r' ∧ Block k label block ∧ Sees k s' r' :=
    ⟨_, r', .single own, .inr ⟨r, l, rfl, shows⟩, seen⟩
  obtain ⟨c, batch, released⟩ := r
  obtain ⟨place, rfl⟩ := seen
  cases step with
  | @poll events idle known =>
      refine takes _ ⟨c, batchOf k events, released⟩ (.poll events) (.poll ?_ ?_) ⟨place, rfl⟩
      · show batchOf k s.batch = []
        rw [idle, batchOf_nil]
      · intro event mem
        obtain ⟨interest, registered, within⟩ := known _ (mem_batchOf.mp mem)
        refine ⟨interest, ?_, within⟩
        obtain ⟨source, ready⟩ := event
        cases source <;> simpa only [Process.interest, Source.cell, place, Option.bind_some]
          using registered
  | @cleanUp clock contexts _ _ ran =>
      have cleaned := (cleanUp_cleans sound.unborrowed ran).1
      obtain ⟨c', place', rfl | reaped⟩ := cleanClients_at sound.tended.once place cleaned
      · exact rests ⟨place', rfl⟩
      · exact takes _ ⟨c', batchOf k s.batch, released⟩ (.reap clock) (.reap reaped) ⟨place', rfl⟩
  | logStats ran => exact rests ⟨place, rfl⟩
  | @handle cell ready rest answers contexts _ _ waits ran =>
      rw [waits] at rests takes ⊢
      obtain rfl | ⟨k', source, rfl⟩ := cell_cases cell
      · obtain ⟨ids, rfl⟩ := tunnelServer_appends sound.unborrowed ran
        refine rests ⟨?_, rfl⟩
        exact (List.getElem?_append_left (List.getElem?_eq_some_iff.mp place).1).trans place
      · obtain ⟨d, place₀⟩ := handler_place ran
        obtain ⟨d', dispatched, rfl, -⟩ := handler_sets sound.unborrowed sound.tended place₀ ran
        by_cases same : k' = k
        · rw [same] at place₀ rests takes ⊢
          cases place₀.symm.trans place
          exact takes _ ⟨d', batchOf k rest, released⟩ (.handle answers)
            (.handle (batchOf_self k source ready rest) dispatched)
            ⟨List.getElem?_set_self (List.getElem?_eq_some_iff.mp place).1, rfl⟩
        · rw [batchOf_other same] at rests takes ⊢
          exact rests ⟨(List.getElem?_set_ne same).trans place, rfl⟩
  | cleanRemovedTokens idle =>
      refine takes _ _ .release (.release ?_) ⟨?_, rfl⟩
      · show batchOf k s.batch = []
        rw [idle, batchOf_nil]
      · show (s.contexts.map _)[k]? = _
        rw [List.getElem?_map, place]
        rfl
  | @rehash k' d connections place₀ perm =>
      by_cases same : k' = k
      · rw [same] at place₀ takes ⊢
        cases place₀.symm.trans place
        exact takes _ _ (.rehash connections) (.rehash perm)
          ⟨List.getElem?_set_self (List.getElem?_eq_some_iff.mp place).1, rfl⟩
      · exact rests ⟨(List.getElem?_set_ne same).trans place, rfl⟩

/-! ### A client is born -/

/-- The events that wait are those of clients there are.  A client that is accepted later has no
event in the batch. -/
def BatchKnown (s : Process) : Prop := ∀ k, s.contexts.length ≤ k → batchOf k s.batch = []

/-- A step keeps the clients there are, and what comes new was just created. -/
theorem Step.contexts (sound : s.Sound) (step : Step s label s') :
    s'.contexts.length = s.contexts.length ∨ ∃ ready answers rest,
      s.batch = (.tunnelServer, ready) :: rest ∧ label = .handle answers ∧ s'.batch = rest ∧
        ∃ ids : List UInt32, s'.contexts = s.contexts ++ ids.map ClientContext.create := by
  cases step with
  | poll _ _ => exact .inl rfl
  | cleanUp ran => exact .inl (cleanClients_length (cleanUp_cleans sound.unborrowed ran).1)
  | logStats _ => exact .inl rfl
  | @handle cell ready rest answers contexts _ _ waits ran =>
      obtain rfl | ⟨k', source, rfl⟩ := cell_cases cell
      · exact .inr ⟨ready, answers, rest, waits, rfl, rfl, tunnelServer_appends sound.unborrowed ran⟩
      · obtain ⟨d, place⟩ := handler_place ran
        obtain ⟨d', -, rfl, -⟩ := handler_sets sound.unborrowed sound.tended place ran
        exact .inl List.length_set
  | cleanRemovedTokens _ => exact .inl (List.length_map _)
  | rehash _ _ => exact .inl List.length_set

/-- Clients are only added. -/
theorem Step.length_le (sound : s.Sound) (step : Step s label s') :
    s.contexts.length ≤ s'.contexts.length := by
  rcases Step.contexts sound step with same | ⟨_, _, _, -, -, -, ids, grown⟩
  · exact same.ge
  · rw [grown, List.length_append]
    exact Nat.le_add_right _ _

/-- **Every step keeps the batch among the clients there are.**  An event names a client that has
been accepted, since only registered sockets are polled. -/
theorem Step.batchKnown (sound : s.Sound) (known : s.BatchKnown) (step : Step s label s') :
    s'.BatchKnown := by
  have length := Step.length_le sound step
  intro k outside
  have before := known k (length.trans outside)
  cases step with
  | @poll events _ polled =>
      refine List.eq_nil_iff_forall_not_mem.mpr fun event mem => ?_
      obtain ⟨interest, registered, -⟩ := polled _ (mem_batchOf.mp mem)
      have none : s.contexts[k]? = none := List.getElem?_eq_none outside
      obtain ⟨source, ready⟩ := event
      cases source <;>
        simp only [Process.interest, Source.cell, none, Option.bind_none, reduceCtorEq] at registered
  | @handle cell _ rest _ _ _ _ waits _ =>
      rw [waits] at before
      obtain rfl | ⟨k', source, rfl⟩ := cell_cases cell
      · exact before
      · by_cases same : k' = k
        · rw [same, batchOf_self] at before
          cases before
        · rwa [batchOf_other same] at before
  | _ => exact before

/-- The same over whole runs. -/
theorem run_batchKnown {t : List (Process × Label)} (run : machine.Run t s) : s.BatchKnown := by
  induction run with
  | start starts =>
      cases starts
      exact fun k _ => batchOf_nil k
  | step run step ih => exact Step.batchKnown (run_sound run) ih step

/-- A new client is one that was just created, with no event. -/
theorem Step.births (sound : s.Sound) (known : s.BatchKnown) (step : Step s label s')
    (before : s.contexts.length ≤ k) (after : k < s'.contexts.length) :
    ∃ id, Sees k s' (Relay.create id) := by
  rcases Step.contexts sound step with same | ⟨ready, answers, rest, waits, -, left, ids, grown⟩
  · exact absurd after (by rw [same]; exact not_lt.mpr before)
  · have none := known k before
    rw [waits, batchOf_tunnelServer] at none
    have inside : k - s.contexts.length < ids.length := by
      rw [grown, List.length_append, List.length_map] at after
      exact Nat.sub_lt_left_of_lt_add before after
    refine ⟨ids[k - s.contexts.length], ?_, ?_⟩
    · rw [grown, List.getElem?_append_right before, List.getElem?_map,
        List.getElem?_eq_getElem inside]
      rfl
    · rw [left]
      exact none.symm

/-- **Each client of the relay goes by its own rules**, whatever the others do.  It is the
projection of the library at the type of processes, and everything that is proved of one client
comes into the process by it. -/
theorem tracksClient (k : ClientHandle) :
    Machine.Tracks machine Relay.machine (fun s => k < s.contexts.length) fun t s own r =>
      Sees k s r ∧ Machine.Aligned (fun s => k < s.contexts.length)
        (fun _ label block => Block k label block) t own where
  absent := by
    rintro _ rfl
    exact Nat.not_lt_zero k
  stays run step inside := inside.trans_le (Step.length_le (run_sound run) step)
  born := by
    intro t s label s' run step earlier before after
    obtain ⟨id, seen⟩ :=
      Step.births (run_sound run) (run_batchKnown run) step (not_lt.mp before) after
    exact ⟨[], Relay.create id, .start ⟨id, rfl⟩, seen, .born earlier before (.inl rfl)⟩
  goes := by
    rintro t s label s' own r run step inside - ⟨seen, aligned⟩
    obtain ⟨block, r', path, shown, seen'⟩ := Step.sees (run_sound run) step seen
    exact ⟨block, r', path, seen', aligned.goes inside shown⟩

/-- **The relay of many clients refines the relay of one**: in every run of the loop a client is
where a run of its own leads, which takes its steps in the order the loop took them, at most one
in each since the client was accepted. -/
theorem run_client {t : List (Process × Label)} {c : ClientContext} (run : machine.Run t s)
    (place : s.contexts[k]? = some c) :
    ∃ (own : List (Relay × Relay.Label)) (released : List Source),
      Relay.machine.Run own ⟨c, batchOf k s.batch, released⟩ ∧
        Machine.Aligned (fun s => k < s.contexts.length)
          (fun _ label block => Block k label block) t own := by
  have inside : k < s.contexts.length := (List.getElem?_eq_some_iff.mp place).1
  obtain ⟨own, ⟨c', batch, released⟩, runs, ⟨seen, waiting⟩, aligned⟩ := (tracksClient k).run run inside
  cases seen.symm.trans place
  cases waiting
  exact ⟨own, released, runs, aligned⟩

/-- A client with a flow: its part of the run is one of its own. -/
theorem run_client_flow : ∃ t s c conn, machine.Run t s ∧ s.contexts[0]? = some c ∧
    c.created[0]? = some conn ∧
      ∃ t' released, Relay.machine.Run t' ⟨c, batchOf 0 s.batch, released⟩ := by
  obtain ⟨t, s, c, conn, run, place, created, -⟩ := run_flow
  obtain ⟨own, released, runs, -⟩ := run_client run place
  exact ⟨t, s, c, conn, run, place, created, own, released, runs⟩

end Process

end ReverseTether
