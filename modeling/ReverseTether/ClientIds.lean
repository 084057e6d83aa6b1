import ReverseTether.ClientOutput
import ReverseTether.ProcessClients

/-!
# The ids of the clients

`TunnelServer` counts up the id that it gives to the next client, in a `u32`, and each client
tells its id to the device before anything else.  A client whose registration fails has used its
id up.  As long as the count has not come round, the ids grow in the order of the clients
(`Numbered`), so that two clients are told apart by the first four bytes they send
(`run_toldApart`).

The bound on the count cannot be dropped: after `2 ^ 32` accepts the number is given out
again, and two clients that are open at the same time can have the same id.  In a build with
overflow checks the relay panics instead of counting on, and there is no such step.

What a device receives is exact in every run, whether the count has come round or not: the
four bytes of its own id first, and whole packets of its own client after them.  Only that the
ids of two devices are different needs the bound.
-/

namespace ReverseTether

open Library

/-- A client keeps its id. -/
theorem ClientMoves.keeps_id {may : ConnectionCall → Prop} {reads : Prop} {c c' : ClientContext}
    (routed : c.Routed) (moves : ClientMoves may reads c c') : c'.client.id = c.client.id := by
  have acts {e : ClientContext} {conn : Connection} {f : ConnectionContext}
      (acts : (e.enter conn).Acts f) : (e.leave f.removeIfClosed).client.id = e.client.id := by
    have same : f.client.id = e.client.id := acts.client.id
    show f.removeIfClosed.client.id = e.client.id
    unfold ConnectionContext.removeIfClosed
    split <;> exact same
  refine ClientMoves.invariant (P := fun d => d.client.id = c.client.id) ?_ routed rfl moves
  intro d d' _ same move
  cases move with
  | acts _ _ _ executes => exact (acts executes.toActs).trans same
  | @opens id conn selector _ _ _ _ _ _ _ executes =>
      exact (acts (e := Router.insert d id conn selector) executes.toActs).trans same
  | serves serves _ _ _ => exact serves.id.trans same
  | receives _ _ => exact same
  | sendsId _ _ => exact same
  | writes _ _ => exact same
  | closes => exact same

namespace Process

variable {s s' : Process} {label : Label} {k : ClientHandle}

/-- How many clients the listener was asked for. -/
def accepts (t : List (Process × Label)) : ℕ :=
  (t.map fun p => match p.2, p.1.batch with
    | .handle answers, (.tunnelServer, _) :: _ => answers.accepts.length
    | _, _ => 0).sum

/-- The clients have different ids, in the order they were accepted.  The counter is above all of
them, and so is the next id. -/
structure Numbered (contexts : List ClientContext) (next : UInt32) : Prop where
  increasing : (contexts.map fun c => c.client.id.toNat).Pairwise (· < ·)
  below : ∀ c ∈ contexts, c.client.id.toNat < next.toNat

theorem Numbered.congr {contexts contexts' : List ClientContext} {next : UInt32}
    (numbered : Numbered contexts next)
    (same : contexts'.map (fun c => c.client.id) = contexts.map fun c => c.client.id) :
    Numbered contexts' next := by
  have ids : contexts'.map (fun c => c.client.id.toNat) = contexts.map fun c => c.client.id.toNat := by
    have mapped := congrArg (List.map UInt32.toNat) same
    rwa [List.map_map, List.map_map] at mapped
  refine ⟨ids ▸ numbered.increasing, fun c mem => ?_⟩
  have mem' : c.client.id ∈ contexts.map fun c => c.client.id := by
    rw [← same]
    exact List.mem_map_of_mem mem
  obtain ⟨d, before, is⟩ := List.mem_map.mp mem'
  rw [← is]
  exact numbered.below d before

theorem Numbered.unique {contexts : List ClientContext} {next : UInt32}
    (numbered : Numbered contexts next) {k' : ClientHandle} {c c' : ClientContext}
    (place : contexts[k]? = some c) (place' : contexts[k']? = some c')
    (same : c.client.id = c'.client.id) : k = k' := by
  have unique : (contexts.map fun c => c.client.id.toNat).Nodup :=
    numbered.increasing.imp fun less => less.ne
  refine (List.getElem?_inj ?_ unique).mp ?_
  · rw [List.length_map]
    exact (List.getElem?_eq_some_iff.mp place).1
  · rw [List.getElem?_map, List.getElem?_map, place, place', Option.map_some, Option.map_some, same]

/-- To replace a client by one with its id changes no id. -/
theorem map_id_set {contexts : List ClientContext} {c c' : ClientContext}
    (place : contexts[k]? = some c) (same : c'.client.id = c.client.id) :
    (contexts.set k c').map (fun c => c.client.id) = contexts.map fun c => c.client.id := by
  obtain ⟨inside, rfl⟩ := List.getElem?_eq_some_iff.mp place
  rw [List.map_set, same]
  refine List.ext_getElem (by simp) fun i h h' => ?_
  rw [List.getElem_set]
  split
  · rename_i eq
    cases eq
    rw [List.getElem_map]
  · rfl

theorem cleanClients_ids {clock : ClientHandle → Handle → Instant} {clients : List ClientHandle}
    {contexts contexts' : List ClientContext} {owners : Owners} (tended : Tended contexts owners)
    (h : clients.foldlM (TunnelServer.cleanClient clock) contexts = .ok contexts') :
    contexts'.map (fun c => c.client.id) = contexts.map fun c => c.client.id := by
  induction clients generalizing contexts with
  | nil =>
      cases h
      rfl
  | cons k clients ih =>
      rw [List.foldlM_cons] at h
      obtain ⟨contexts₁, cleaned, h⟩ := bind_eq_ok.mp h
      refine (ih (TunnelServer.cleanClient_tended tended cleaned) h).trans ?_
      unfold TunnelServer.cleanClient at cleaned
      split at cleaned
      · rename_i c place
        obtain ⟨c', reaped, rest⟩ := bind_eq_ok.mp cleaned
        cases rest
        have routed := tended.routed c (List.mem_of_getElem? place)
        have moves : ClientMoves (fun _ => True) True c c' :=
          Router.cleanExpiredConnections_moves trivial routed reaped
        exact map_id_set place (ClientMoves.keeps_id routed moves)
      · cases cleaned
        rfl

/-- A new client takes the next id, which is larger than all before. -/
theorem acceptClient_numbered {contexts contexts' : List ClientContext} {owners owners' : Owners}
    {overflowChecks : Bool} {answer : IoResult (IoResult Unit)} {result : IoResult Unit}
    (numbered : Numbered contexts owners.server.nextClientId)
    (fits : owners.server.nextClientId.toNat + 1 < 2 ^ 32)
    (run : (TunnelServer.acceptClient contexts overflowChecks answer).run owners =
      .ok ((result, contexts'), owners')) :
    Numbered contexts' owners'.server.nextClientId ∧
      owners'.server.nextClientId.toNat ≤ owners.server.nextClientId.toNat + 1 := by
  cases answer with
  | error err =>
      cases run
      exact ⟨numbered, Nat.le_succ _⟩
  | ok registered =>
      have room : ¬ (overflowChecks ∧ owners.server.nextClientId.toNat + 1 = 2 ^ 32) :=
        fun full => fits.ne full.2
      have counted : (owners.server.nextClientId + 1).toNat =
          owners.server.nextClientId.toNat + 1 := by
        rw [UInt32.toNat_add]
        exact Nat.mod_eq_of_lt fits
      have later : Numbered contexts (owners.server.nextClientId + 1) :=
        ⟨numbered.increasing, fun c mem => by
          rw [counted]
          exact (numbered.below c mem).trans (Nat.lt_succ_self _)⟩
      unfold TunnelServer.acceptClient at run
      simp only [StateT.run_bind] at run
      rw [show (TunnelServer.takeClientId overflowChecks).run owners = _ from if_neg room] at run
      cases registered with
      | error err =>
          cases run
          exact ⟨later, counted.le⟩
      | ok _ =>
          cases run
          refine ⟨⟨?_, fun c mem => ?_⟩, counted.le⟩
          · rw [List.map_append, List.pairwise_append]
            refine ⟨numbered.increasing, List.pairwise_singleton _ _, fun n mem n' last => ?_⟩
            obtain ⟨c, before, rfl⟩ := List.mem_map.mp mem
            rw [List.mem_singleton.mp last]
            exact numbered.below c before
          · rcases List.mem_append.mp mem with before | last
            · exact later.below c before
            · rw [List.mem_singleton.mp last]
              show owners.server.nextClientId.toNat < (owners.server.nextClientId + 1).toNat
              rw [counted]
              exact Nat.lt_succ_self _

theorem onReady_numbered {contexts contexts' : List ClientContext} {owners owners' : Owners}
    {overflowChecks : Bool} {answers : List (IoResult (IoResult Unit))}
    (numbered : Numbered contexts owners.server.nextClientId)
    (fits : owners.server.nextClientId.toNat + answers.length < 2 ^ 32)
    (run : (TunnelServer.onReady overflowChecks answers contexts).run owners =
      .ok (contexts', owners')) :
    Numbered contexts' owners'.server.nextClientId ∧
      owners'.server.nextClientId.toNat ≤ owners.server.nextClientId.toNat + answers.length := by
  induction answers generalizing contexts owners with
  | nil =>
      cases run
      exact ⟨numbered, le_rfl⟩
  | cons answer answers ih =>
      rw [List.length_cons] at fits ⊢
      unfold TunnelServer.onReady at run
      simp only [StateT.run_bind] at run
      cases accepted : (TunnelServer.acceptClient contexts overflowChecks answer).run owners with
      | error e =>
          rw [accepted] at run
          cases run
      | ok p =>
          rw [accepted] at run
          obtain ⟨⟨result, contexts₁⟩, owners₁⟩ := p
          obtain ⟨numbered₁, bound⟩ := acceptClient_numbered numbered (by omega) accepted
          cases result with
          | error err =>
              cases run
              exact ⟨numbered₁, bound.trans (by omega)⟩
          | ok _ =>
              obtain ⟨numbered', bound'⟩ := ih numbered₁ (by omega) run
              exact ⟨numbered', by omega⟩

/-- **A step numbers new clients**, and keeps the ids there are.  The counter wraps at `2 ^ 32`,
and it goes on for every accept, whether or not the client can be registered behind it; this is why
accepts are counted and not clients. -/
theorem Step.numbered (sound : s.Sound) (numbered : Numbered s.contexts s.owners.server.nextClientId)
    (fits : s.owners.server.nextClientId.toNat + accepts [(s, label)] < 2 ^ 32)
    (step : Step s label s') :
    Numbered s'.contexts s'.owners.server.nextClientId ∧
      s'.owners.server.nextClientId.toNat ≤
        s.owners.server.nextClientId.toNat + accepts [(s, label)] := by
  cases step with
  | poll _ _ => exact ⟨numbered, Nat.le_add_right _ _⟩
  | cleanUp ran =>
      obtain ⟨cleaned, rfl⟩ := cleanUp_cleans sound.unborrowed ran
      exact ⟨numbered.congr (cleanClients_ids sound.tended cleaned), Nat.le_add_right _ _⟩
  | logStats ran =>
      have ends := logStats_ends sound.unborrowed s.owners
      rw [ran] at ends
      obtain ⟨-, rfl⟩ := ends
      exact ⟨numbered, Nat.le_add_right _ _⟩
  | @handle cell ready rest answers contexts _ owners waits ran =>
      obtain rfl | ⟨k', source, rfl⟩ := cell_cases cell
      · have asked : accepts [(s, .handle answers)] = answers.accepts.length := by
          simp only [accepts, List.map_cons, List.map_nil, List.sum_cons, List.sum_nil, waits,
            Nat.add_zero]
        rw [asked] at fits ⊢
        rw [tunnelServer_computes s.contexts ready answers s.flags s.owners
          (fun cell _ => sound.unborrowed cell) trivial] at ran
        cases accepted : (TunnelServer.onReady answers.overflowChecks answers.accepts
            s.contexts).run s.owners with
        | error e =>
            rw [accepted] at ran
            cases ran
        | ok p =>
            rw [accepted] at ran
            cases ran
            exact onReady_numbered numbered fits accepted
      · obtain ⟨c, place⟩ := handler_place ran
        obtain ⟨c', dispatched, rfl, next⟩ := handler_sets sound.unborrowed sound.tended place ran
        have routed := sound.tended.routed c (List.mem_of_getElem? place)
        have moves : ClientMoves (fun _ => True) True c c' :=
          ClientContext.dispatch_moves (fun _ => trivial) (fun _ _ _ => trivial) routed dispatched
        show Numbered (s.contexts.set k' c') owners.server.nextClientId ∧
          owners.server.nextClientId.toNat ≤ _
        rw [next]
        exact ⟨numbered.congr (map_id_set place (ClientMoves.keeps_id routed moves)),
          Nat.le_add_right _ _⟩
  | cleanRemovedTokens _ =>
      refine ⟨numbered.congr ?_, Nat.le_add_right _ _⟩
      show (s.contexts.map _).map _ = _
      rw [List.map_map]
      rfl
  | rehash place _ => exact ⟨numbered.congr (map_id_set place rfl), Nat.le_add_right _ _⟩

theorem accepts_append (t : List (Process × Label)) (p : Process × Label) :
    accepts (t ++ [p]) = accepts t + accepts [p] := by
  simp only [accepts, List.map_append, List.sum_append]

theorem run_numbered {t : List (Process × Label)} (run : machine.Run t s)
    (few : accepts t < 2 ^ 32) :
    Numbered s.contexts s.owners.server.nextClientId ∧
      s.owners.server.nextClientId.toNat ≤ accepts t := by
  induction run with
  | start starts =>
      cases starts
      exact ⟨⟨.nil, fun c mem => absurd mem List.not_mem_nil⟩, le_rfl⟩
  | @step t s s' label run step ih =>
      rw [accepts_append] at few ⊢
      obtain ⟨numbered, bound⟩ := ih (by omega)
      obtain ⟨numbered', bound'⟩ := Step.numbered (run_sound run) numbered (by omega) step
      exact ⟨numbered', by omega⟩

/-- Two clients were accepted, and each got its id. -/
def two : Process where
  flags _ := 0
  owners := ⟨⟨[0, 1], 2⟩, [0, 1]⟩
  contexts := [.identified 0, .identified 1]
  batch := []

theorem run_two : ∃ t, machine.Run t two ∧ accepts t = 2 ∧
    ∀ p ∈ t, ∀ answers, p.2 = .handle answers → answers.event.socket.read = .ok [] := by
  let answers : HandlerAnswers :=
    ⟨[.ok (.ok ()), .ok (.ok ())], false,
      ⟨⟨.ok none, .ok 4, .ok []⟩, 0, fun _ => ⟨0, false, 0, .ok (), .ok 0⟩⟩⟩
  let both : Process := { two with contexts := [.create 0, .create 1] }
  have start : machine.Run [] create := .start rfl
  have polled : Step create (.poll [(.tunnelServer, .readable)])
      { create with batch := [(.tunnelServer, .readable)] } := by
    refine .poll rfl fun event mem => ?_
    rw [List.mem_singleton.mp mem]
    exact ⟨.readable, rfl, Ready.within_refl _⟩
  have handles : (handler [] .tunnelServer .readable answers).run (create.flags, create.owners) =
      .ok (both.contexts, both.flags, both.owners) := by
    rw [tunnelServer_computes [] .readable answers create.flags create.owners (fun _ _ => rfl) trivial]
    rfl
  have ran : Step { create with batch := [(.tunnelServer, .readable)] } (.handle answers) both :=
    .handle rfl handles
  have run := (start.step polled).step ran
  have writable (id : UInt32) : (ClientContext.create id).selector.registered .client =
      some .writable := rfl
  have first := run_event (k := 0) answers run rfl rfl (writable 0) (Ready.within_refl _)
    (ClientContext.onReady_sendsId 0 answers.event rfl) rfl
  have second := run_event (k := 1) answers first rfl rfl (writable 1) (Ready.within_refl _)
    (ClientContext.onReady_sendsId 1 answers.event rfl) rfl
  refine ⟨_, second, rfl, fun p mem answers' is => ?_⟩
  simp only [List.cons_append, List.nil_append, List.mem_cons, List.not_mem_nil, or_false] at mem
  rcases mem with rfl | rfl | rfl | rfl | rfl | rfl <;> cases is <;> rfl

/-- The socket of a client takes the id of that client, then packets of its own. -/
theorem run_greeted {t : List (Process × Label)} (run : machine.Run t s) {c : ClientContext}
    (place : s.contexts[k]? = some c) :
    c.received <+: u32Bytes c.client.id ++ c.client.appended.flatten := by
  obtain ⟨own, r, runs, ⟨seen, -⟩, -⟩ := (tracksClient k).run run (List.getElem?_eq_some_iff.mp place).1
  cases seen.symm.trans place
  exact (Relay.run_streams runs).received_starts

/-- Its first bytes are the id. -/
theorem run_first {t : List (Process × Label)} (run : machine.Run t s) {c : ClientContext}
    (place : s.contexts[k]? = some c) (enough : 4 ≤ c.received.length) :
    c.received.take 4 = u32Bytes c.client.id := by
  rw [List.prefix_iff_eq_take.mp (run_greeted run place), List.take_take, min_eq_left enough]
  exact List.take_left' (length_u32Bytes _)

/-- **Clients are told apart.**  The socket of each takes its own id, then packets of its own; and
as long as the listener was asked for fewer than `2 ^ 32` clients, no two that got their ids got
the same. -/
theorem run_toldApart {t : List (Process × Label)} (run : machine.Run t s) :
    (∀ (k : ClientHandle) c, s.contexts[k]? = some c →
        c.received <+: u32Bytes c.client.id ++ c.client.appended.flatten) ∧
      (accepts t < 2 ^ 32 → ∀ (k k' : ClientHandle) c c', s.contexts[k]? = some c →
        s.contexts[k']? = some c' → k ≠ k' → 4 ≤ c.received.length → 4 ≤ c'.received.length →
          c.received.take 4 ≠ c'.received.take 4) := by
  refine ⟨fun k c place => run_greeted run place,
    fun few k k' c c' place place' other enough enough' same => ?_⟩
  rw [run_first run place enough, run_first run place' enough'] at same
  have ids : c.client.id = c'.client.id := by
    have read := congrArg (fun bytes => getU32 bytes 0) same
    simpa only [getU32_u32Bytes] using read
  exact other ((run_numbered run few).1.unique place place' ids)

/-- Two clients are accepted, and each gets its id. -/
theorem run_toldApart_two : ∃ t s c c', machine.Run t s ∧ s.contexts[0]? = some c ∧
    s.contexts[1]? = some c' ∧ c.received <+: u32Bytes c.client.id ++ c.client.appended.flatten ∧
      c.received.take 4 ≠ c'.received.take 4 := by
  obtain ⟨t, run, accepted, -⟩ := run_two
  obtain ⟨greeted, apart⟩ := run_toldApart run
  exact ⟨t, two, _, _, run, rfl, rfl, greeted 0 _ rfl,
    apart (by omega) 0 1 _ _ rfl rfl (by decide) (by decide) (by decide)⟩

end Process

end ReverseTether
