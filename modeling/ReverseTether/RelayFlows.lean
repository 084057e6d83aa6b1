import ReverseTether.Flows
import ReverseTether.OutgoingPackets

/-!
# The flows of a client, over whole runs

Every connection that was created in a run of the relay is tracked as a `Flow`.  A step of the
loop is a block of its steps: the poll, the event of its own socket, the expiry, or whatever an
event of the client calls it for.

`run_demultiplexes` puts the router in one statement.  From the packet that opened it to its end, a
connection is given the packets of its flow, all of them, each once and in the order in which the
client sent them.

The relay keeps no history of a flow.  There is the table of the routes, which changes as
connections come and go; that it leads each packet to the right connection is a statement
about all the steps between two packets of a flow, those of the reaper included.

A flow that was closed may be opened again, as a new connection with the same identifier.
Each of them is tracked by itself, and the packets between the two belong to the second.
-/

namespace ReverseTether

open Library Relation

/-- The packets that an event routes are those it brings. -/
theorem ClientContext.brings_of_verdicts {c : ClientContext} {ready : Ready} {answers : EventAnswers}
    {k : ℕ} {packet : IpPacket}
    (mem : ((c.verdicts ready answers).filterMap Verdict.packet?)[k]? = some packet) :
    c.Brings ready answers k packet := by
  unfold verdicts at mem
  split at mem
  · cases mem
  · rename_i nonempty
    have comes : c.comesToRead ready answers = true := by
      by_contra idle
      exact nonempty (if_neg idle)
    have takes : c.taken ready answers = c.client.clientToNetwork.takes answers.socket.read :=
      if_pos comes
    simp only [comesToRead, Bool.and_eq_true, Bool.not_eq_true'] at comes
    refine ⟨comes.1.2, comes.1.1, ?_⟩
    rw [arrivals, (c.client.clientToNetwork.readFrom_takes answers.socket.read).1, ← takes]
    exact mem

namespace Relay

variable {s s' : Relay} {label : Label} {t : List (Relay × Label)} {handle : Handle}
  {conn : Connection}

/-- Which step of a connection a step of the loop may be. -/
inductive Shows (s : Relay) (label : Label) : Flow.Label → Prop
  | poll {events : List (Source × Ready)} : label = .poll events → Shows s label .poll
  | call {call : ConnectionCall} : s.Causes label call → Shows s label (.call call)

/-- The packets of a flow that a step routes. -/
def flowPackets (s : Relay) (label : Label) (id : ConnectionId) : List IpPacket :=
  flowOf id ((s.verdicts label).filterMap Verdict.packet?)

/-- The packets of a flow that the steps route. -/
def allFlowPackets (t : List (Relay × Label)) (id : ConnectionId) : List IpPacket :=
  t.flatMap fun p => p.1.flowPackets p.2 id

theorem allFlowPackets_append (t : List (Relay × Label)) (s : Relay) (label : Label)
    (id : ConnectionId) :
    allFlowPackets (t ++ [(s, label)]) id = allFlowPackets t id ++ s.flowPackets label id := by
  simp [allFlowPackets]

/-- The events of an open connection that wait are within the interest it was polled for. -/
def Armed (s : Relay) (handle : Handle) (r : Flow) : Prop :=
  r.conn.isClosed = false → ∀ ready, (.connection handle, ready) ∈ s.batch → ready.Within r.armed

/-! ## One step -/

/-- What a step of the loop does to a connection: a block of its own steps, with the packets of
its flow. -/
def Goes (s : Relay) (label : Label) (s' : Relay) (handle : Handle) (r : Flow)
    (id : ConnectionId) (arrived : List IpPacket) : Prop :=
  ∃ block r' rest, Machine.Path Flow.machine r block r' ∧ s'.created[handle]? = some r'.conn ∧
    s'.Armed handle r' ∧ (∀ q ∈ block, Shows s label q.2) ∧
    flowOf id arrived = Flow.packetsOf block ++ rest ∧ (r'.conn.isClosed = false → rest = [])

/-- The calls that an event of the client can cause, beside its packets. -/
theorem Causes.of_client {ready : Ready} {batch : List (Source × Ready)} (answers : EventAnswers)
    (next : s.batch = (.client, ready) :: batch) :
    s.Causes (.handle answers) .close ∧ s.Causes (.handle answers) .next ∧
      ∀ k packet,
        ((s.toClientContext.verdicts ready answers).filterMap Verdict.packet?)[k]? = some packet →
          s.Causes (.handle answers) (.packet packet (answers.packets k)) :=
  ⟨.client next .close, .client next .next,
    fun _ _ mem => .client next (.packet (ClientContext.brings_of_verdicts mem))⟩

/-- The steps of the client before and after its verdicts are quiet. -/
theorem quiet_of_silent {call : ConnectionCall} (silent : call = .close ∨ call = .next) :
    call.Quiet := by
  rcases silent with rfl | rfl <;> trivial

theorem parsed_of_verdicts {ready : Ready} {answers : EventAnswers} {packet : IpPacket}
    (mem : packet ∈ (s.toClientContext.verdicts ready answers).filterMap Verdict.packet?) :
    ∃ raw, IpPacket.parse raw = .ok (.ok packet) := by
  obtain ⟨k, at_k⟩ := List.getElem?_of_mem mem
  exact parse_of_arrivals (List.mem_of_getElem? (ClientContext.brings_of_verdicts at_k).2.2)

/-- An event of the client. -/
theorem client_goes {ready : Ready} {batch : List (Source × Ready)} {answers : EventAnswers}
    {c : ClientContext} (routed : s.Routed) (next : s.batch = (.client, ready) :: batch)
    (handled : s.toClientContext.onReady ready answers = .ok c)
    (place : s.created[handle]? = some conn) (armed : Ready) :
    ∃ conn', c.created[handle]? = some conn' ∧ FlowsTo (s.Causes (.handle answers)) armed conn
      ((s.toClientContext.verdicts ready answers).filterMap Verdict.packet?) conn' := by
  obtain ⟨closes, pulls, sends⟩ := Causes.of_client answers next
  obtain ⟨c₁, c₂, before, ⟨n, folded⟩, after, -⟩ :=
    @ClientContext.onReady_decides _ _ _ _ (fun call => call = .close ∨ call = .next) (.inl rfl)
      (.inr rfl) routed handled
  have silent (call : ConnectionCall) (is : call = .close ∨ call = .next) :
      s.Causes (.handle answers) call := by
    rcases is with rfl | rfl
    · exact closes
    · exact pulls
  have routed₁ := before.routed routed
  obtain ⟨conn₁, place₁, first⟩ := before.flow (fun _ => quiet_of_silent) routed place armed
  obtain ⟨conn₂, place₂, second⟩ := ClientContext.folded_flow closes
    (fun k packet mem => by
      rw [Nat.zero_add]
      exact sends k packet mem)
    (fun _ => parsed_of_verdicts) routed₁ folded place₁ armed
  have routed₂ := (ClientContext.Decides.moves routed₁ ⟨n, folded⟩).routed routed₁
  obtain ⟨conn', place', third⟩ := after.flow (fun _ => quiet_of_silent) routed₂ place₂ armed
  have all := ((first.mono silent).trans second).trans (third.mono silent)
  rw [List.append_nil] at all
  exact ⟨conn', place', all⟩

/-- **A step of the loop is a block of steps of each connection there is.**  The packets of the
block are those of the flow among the packets that the step decides on, in their order. -/
theorem Step.goes {armed : Ready} (run : machine.Run t s) (step : Step s label s')
    (place : s.created[handle]? = some conn) (waits : s.Armed handle ⟨conn, armed⟩) :
    Goes s label s' handle ⟨conn, armed⟩ conn.id ((s.verdicts label).filterMap Verdict.packet?) := by
  have routed := run_routed run
  -- a step that leaves the connection alone
  have rests (place' : s'.created[handle]? = some conn) (fewer : s'.batch ⊆ s.batch)
      (none : s.verdicts label = []) :
      Goes s label s' handle ⟨conn, armed⟩ conn.id ((s.verdicts label).filterMap Verdict.packet?) := by
    refine ⟨[], ⟨conn, armed⟩, [], .refl, place', fun isOpen ready mem => waits isOpen ready (fewer mem),
      fun _ mem => absurd mem List.not_mem_nil, ?_, fun _ => rfl⟩
    rw [none]
    rfl
  have flows {conn' : Connection} (place' : s'.created[handle]? = some conn')
      (fewer : s'.batch ⊆ s.batch)
      (flows : FlowsTo (s.Causes label) armed conn ((s.verdicts label).filterMap Verdict.packet?)
        conn') :
      Goes s label s' handle ⟨conn, armed⟩ conn.id ((s.verdicts label).filterMap Verdict.packet?) := by
    obtain ⟨block, rest, path, given, all, shown⟩ := flows
    refine ⟨block, ⟨conn', armed⟩, rest, path, place', fun isOpen ready mem => ?_, fun q mem => ?_,
      given, all⟩
    · refine waits ?_ ready (fewer mem)
      rw [← Bool.not_eq_true]
      intro closed
      rw [show conn' = conn from (Flow.path_closed path closed).1] at isOpen
      exact absurd (isOpen.symm.trans closed) Bool.false_ne_true
    · obtain ⟨call, is, caused⟩ := shown q mem
      rw [is]
      exact .call caused
  cases step with
  | @poll events idle within =>
      refine ⟨_, ⟨conn, conn.interests⟩, [], .single .poll, place, fun isOpen ready mem => ?_,
        fun q mem => ?_, rfl, fun _ => rfl⟩
      · obtain ⟨interest, registered, within⟩ := within _ mem
        obtain ⟨conn', place', noted⟩ := run_registered run registered
        cases place.symm.trans place'
        rw [← noted isOpen]
        exact within
      · rw [List.mem_singleton.mp mem]
        exact .poll rfl
  | reap cleaned =>
      have moves : ClientMoves (· = .expire) False s.toClientContext _ :=
        Router.cleanExpiredConnections_moves rfl routed cleaned
      obtain ⟨conn', place', expired⟩ :=
        moves.flow (fun call is => by rw [is]; trivial) routed place armed
      exact flows place' (fun _ mem => mem) (expired.mono fun call is => is ▸ .reap)
  | @handle source ready batch answers c next handled =>
      have fewer : batch ⊆ s.batch := by
        rw [next]
        exact List.subset_cons_self _ _
      cases source with
      | client =>
          have said : s.verdicts (.handle answers) = s.toClientContext.verdicts ready answers := by
            simp only [verdicts, next]
          obtain ⟨conn', place', given⟩ := client_goes routed next handled place armed
          rw [← said] at given
          exact flows place' fewer given
      | connection other =>
          have none : s.verdicts (.handle answers) = [] := by simp only [verdicts, next]
          cases place₀ : s.created[other]? with
          | none =>
              simp only [ClientContext.dispatch, place₀] at handled
              cases handled
          | some conn₀ =>
              rcases ClientContext.dispatch_connection routed place₀ handled with
                ⟨-, rfl⟩ | ⟨isOpen, f, executes, rfl, -⟩
              · exact rests place fewer none
              · have created := routed.leave_created place₀ executes.toActs
                by_cases here : other = handle
                · rw [here] at place₀ created next
                  cases place₀.symm.trans place
                  have fits : (⟨conn, armed⟩ : Flow).Fits
                      (.event ready answers.socket answers.now) := by
                    refine waits isOpen ready ?_
                    rw [next]
                    exact List.mem_cons_self
                  refine ⟨_, ⟨f.conn, armed⟩, [],
                    .single (.call (s := ⟨conn, armed⟩) isOpen fits executes), ?_, fun _ ready mem => ?_,
                    fun q mem => ?_, ?_, fun _ => rfl⟩
                  · show (s.toClientContext.leave f.removeIfClosed).created[handle]? = some f.conn
                    rw [created]
                    exact List.getElem?_set_self (List.getElem?_eq_some_iff.mp place).1
                  · exact waits isOpen ready (fewer mem)
                  · rw [List.mem_singleton.mp mem]
                    exact .call (.connection next)
                  · rw [none]
                    rfl
                · refine rests ?_ fewer none
                  show (s.toClientContext.leave f.removeIfClosed).created[handle]? = some conn
                  rw [created]
                  exact (List.getElem?_set_ne here).trans place
  | release _ => exact rests place (fun _ mem => mem) rfl
  | rehash _ => exact rests place (fun _ mem => mem) rfl

/-! ## Births -/

/-- What is polled, and waits, is an event of a connection there is. -/
theorem run_batchCreated (run : machine.Run t s) :
    ∀ handle ready, (.connection handle, ready) ∈ s.batch → handle < s.created.length := by
  induction run with
  | start starts =>
      obtain ⟨id, rfl⟩ := starts
      exact fun _ _ mem => absurd mem List.not_mem_nil
  | @step t s s' label run step ih =>
      intro handle ready mem
      have grows (inside : handle < s.created.length) : handle < s'.created.length := by
        rcases Step.moves (run_routed run) step with ⟨moves, -⟩ | rfl | ⟨connections, -, rfl⟩
        · obtain ⟨conn, place, -⟩ := moves.relates (R := fun _ _ => True) (fun _ => trivial)
            (fun _ _ _ _ _ => trivial) (fun _ _ _ _ _ _ => trivial) (run_routed run)
            (List.getElem?_eq_getElem inside)
          exact (List.getElem?_eq_some_iff.mp place).1
        · exact inside
        · exact inside
      cases step with
      | poll idle within =>
          obtain ⟨interest, registered, -⟩ := within _ mem
          obtain ⟨conn, place, -⟩ := run_registered run registered
          exact (List.getElem?_eq_some_iff.mp place).1
      | handle next _ =>
          refine grows (ih handle ready ?_)
          rw [next]
          exact List.mem_cons_of_mem _ mem
      | _ => exact grows (ih handle ready mem)

/-- The connections there are stay. -/
theorem Step.length_created (run : machine.Run t s) (step : Step s label s') :
    s.created.length ≤ s'.created.length := by
  have routed := run_routed run
  rcases Step.moves routed step with ⟨moves, -⟩ | rfl | ⟨connections, -, rfl⟩
  · refine ClientMoves.invariant (P := fun d => s.created.length ≤ d.created.length) ?_ routed le_rfl
      moves
    intro d d' routed grown move
    cases move with
    | acts place _ _ executes =>
        rw [routed.leave_created place executes.toActs, List.length_set]
        exact grown
    | @opens id conn selector _ _ _ _ _ new created executes =>
        have routed' := Router.insert_routed routed new created
        rw [routed'.leave_created (Router.insert_place _ _ _ _) executes.toActs, List.length_set]
        refine grown.trans ?_
        show d.created.length ≤ (d.created ++ [conn]).length
        rw [List.length_append]
        exact Nat.le_add_right _ _
    | _ => exact grown
  · exact le_rfl
  · exact le_rfl

/-- **A connection is born of a packet of its flow**, in an event of the client, and may be given
later packets of the same event. -/
theorem Step.born (run : machine.Run t s) (step : Step s label s')
    (before : s.created.length ≤ handle) (after : handle < s'.created.length) :
    ∃ r skipped arrived, Flow.machine.start r ∧
      (s.verdicts label).filterMap Verdict.packet? = skipped ++ arrived ∧
        Goes s label s' handle r r.conn.id arrived := by
  have routed := run_routed run
  -- no other step opens a connection
  have same {c : ClientContext} {may : ConnectionCall → Prop} {reads : Prop}
      (quiet : ∀ call, may call → call.Quiet) (moves : ClientMoves may reads s.toClientContext c) :
      ¬ handle < c.created.length := by
    rw [moves.length_created quiet routed]
    exact not_lt.mpr before
  cases step with
  | poll _ _ => exact absurd after (not_lt.mpr before)
  | release _ => exact absurd after (not_lt.mpr before)
  | rehash _ => exact absurd after (not_lt.mpr before)
  | reap cleaned =>
      have moves : ClientMoves (· = .expire) False s.toClientContext _ :=
        Router.cleanExpiredConnections_moves rfl routed cleaned
      exact absurd after (same (fun call is => by rw [is]; trivial) moves)
  | @handle source ready batch answers c next handled =>
      cases source with
      | connection other =>
          exfalso
          have length : c.created.length = s.created.length := by
            cases place : s.created[other]? with
            | none =>
                simp only [ClientContext.dispatch, place] at handled
                cases handled
            | some conn =>
                rcases ClientContext.dispatch_connection routed place handled with
                  ⟨-, rfl⟩ | ⟨isOpen, f, executes, rfl, -⟩
                · rfl
                · rw [routed.leave_created place executes.toActs, List.length_set]
          have after : handle < c.created.length := after
          rw [length] at after
          exact absurd after (not_lt.mpr before)
      | client =>
          obtain ⟨closes, pulls, sends⟩ := Causes.of_client answers next
          have said : s.verdicts (.handle answers) = s.toClientContext.verdicts ready answers := by
            simp only [verdicts, next]
          obtain ⟨c₁, c₂, first, ⟨n, folded⟩, last, -⟩ :=
            @ClientContext.onReady_decides _ _ _ _ (fun call => call = .close ∨ call = .next)
              (.inl rfl) (.inr rfl) routed handled
          have routed₁ := first.routed routed
          have routed₂ := (ClientContext.Decides.moves routed₁ ⟨n, folded⟩).routed routed₁
          have before₁ : c₁.created.length ≤ handle := by
            rw [first.length_created (fun _ => quiet_of_silent) routed]
            exact before
          have after₂ : handle < c₂.created.length := by
            rw [← last.length_created (fun _ => quiet_of_silent) routed₂]
            exact after
          obtain ⟨conn, conn₂, skipped, arrived, opened, place₂, split, flows⟩ :=
            ClientContext.folded_born closes
              (fun k packet mem => by
                rw [Nat.zero_add]
                exact sends k packet mem)
              (fun _ => parsed_of_verdicts) routed₁ folded before₁ after₂ .empty
          obtain ⟨conn', place', quiet⟩ := last.flow (fun _ => quiet_of_silent) routed₂ place₂ .empty
          have all := flows.trans (quiet.mono fun call is => by
            rcases is with rfl | rfl
            · exact closes
            · exact pulls)
          rw [List.append_nil] at all
          obtain ⟨block, rest, path, given, complete, shown⟩ := all
          refine ⟨⟨conn, .empty⟩, skipped, arrived, ⟨opened, rfl⟩, by rw [said, split], block,
            ⟨conn', .empty⟩, rest, path, place', fun _ ready' mem => ?_, fun q mem => ?_, given,
            complete⟩
          · -- no event waits for a connection that was not there
            refine absurd (run_batchCreated run handle ready' ?_) (not_lt.mpr before)
            rw [next]
            exact List.mem_cons_of_mem _ mem
          · obtain ⟨call, is, caused⟩ := shown q mem
            rw [is]
            exact .call caused

/-! ## Every run -/

/-- What a connection was given: of all the packets of its flow since the step it was born in,
those from the one that opened it up to its end. -/
def Given (handle : Handle) (t : List (Relay × Label)) (r : Flow) (own : List (Flow × Flow.Label)) :
    Prop :=
  ∃ before since skipped rest, t = before ++ since ∧
    Machine.Born (fun s : Relay => handle < s.created.length) before since ∧
    allFlowPackets since r.conn.id = skipped ++ Flow.packetsOf own ++ rest ∧
    (r.conn.isClosed = false → rest = []) ∧
    ∃ birth later, since = birth :: later ∧ skipped <+: birth.1.flowPackets birth.2 r.conn.id

/-- They are packets that were routed, in their order and without a gap. -/
theorem Given.inside {r : Flow} {own : List (Flow × Flow.Label)} (given : Given handle t r own) :
    Flow.packetsOf own <:+: flowOf r.conn.id ((allVerdicts t).filterMap Verdict.packet?) := by
  have all (t : List (Relay × Label)) : allFlowPackets t r.conn.id =
      flowOf r.conn.id ((allVerdicts t).filterMap Verdict.packet?) := by
    induction t using List.reverseRecOn with
    | nil => rfl
    | append_singleton t p ih =>
        rw [allFlowPackets_append, ih, allVerdicts_append, List.filterMap_append, flowOf_append]
        rfl
  obtain ⟨before, since, skipped, rest, split, -, packets, -⟩ := given
  have both : allFlowPackets (before ++ since) r.conn.id =
      allFlowPackets before r.conn.id ++ allFlowPackets since r.conn.id := List.flatMap_append
  refine ⟨allFlowPackets before r.conn.id ++ skipped, rest, ?_⟩
  rw [← all, split, both, packets]
  simp only [List.append_assoc]

/-- **Each connection of a client goes by its own rules**, whatever the others do.  With it a
theorem about a life of one connection becomes one about a relay with many. -/
theorem tracksFlow (handle : Handle) :
    Machine.Tracks machine Flow.machine (fun s => handle < s.created.length) fun t s own r =>
      (s.created[handle]? = some r.conn ∧ s.Armed handle r) ∧
        Machine.Aligned (fun s : Relay => handle < s.created.length)
          (fun s label block => ∀ q ∈ block, Shows s label q.2) t own ∧ Given handle t r own where
  absent := by
    rintro _ ⟨id, rfl⟩
    exact Nat.not_lt_zero handle
  stays run step inside := inside.trans_le (Step.length_created run step)
  born := by
    intro t s label s' run step earlier here there
    obtain ⟨r, skipped, arrived, starts, split, block, r', rest, path, place, armed, shown, given,
      complete⟩ := Step.born run step (not_lt.mp here) there
    have same : r'.conn.id = r.conn.id := Flow.path_id path
    have packets : s.flowPackets label r.conn.id =
        flowOf r.conn.id skipped ++ (Flow.packetsOf block ++ rest) := by
      rw [flowPackets, split, flowOf_append, given]
    refine ⟨block, r', path.run (.start starts), ⟨place, armed⟩, .born earlier here shown, t,
      [(s, label)], flowOf r.conn.id skipped, rest, rfl, .now earlier here, ?_, complete,
      (s, label), [], rfl, ?_⟩
    · rw [same, allFlowPackets, List.flatMap_singleton, packets, List.append_assoc]
    · rw [same, packets]
      exact List.prefix_append _ _
  goes := by
    rintro t s label s' own ⟨conn, armed⟩ run step here - ⟨⟨place, waits⟩, aligned, given⟩
    obtain ⟨block, r', rest', path, place', armed', shown, packets, complete'⟩ :=
      Step.goes run step place waits
    refine ⟨block, r', path, ⟨place', armed'⟩, aligned.goes here shown, ?_⟩
    obtain ⟨before, since, skipped, rest, rfl, born, all, complete, birth, later, rfl, first⟩ := given
    have same : r'.conn.id = conn.id := Flow.path_id path
    have packets : s.flowPackets label conn.id = Flow.packetsOf block ++ rest' := packets
    have grown : allFlowPackets (birth :: later ++ [(s, label)]) conn.id =
        skipped ++ Flow.packetsOf own ++ rest ++ (Flow.packetsOf block ++ rest') := by
      rw [allFlowPackets_append, all, packets]
    rw [Given, same, Flow.packetsOf_append]
    cases closed : conn.isClosed with
    | false =>
        refine ⟨before, birth :: later ++ [(s, label)], skipped, rest', List.append_assoc _ _ _,
          born.later here, ?_, complete', birth, later ++ [(s, label)], rfl, first⟩
        rw [grown, complete closed]
        simp only [List.append_nil, List.append_assoc]
    | true =>
        obtain ⟨stays, none⟩ := Flow.path_closed path closed
        have stays : r'.conn = conn := stays
        refine ⟨before, birth :: later ++ [(s, label)], skipped, rest ++ rest',
          List.append_assoc _ _ _, born.later here, ?_, fun isOpen => ?_, birth,
          later ++ [(s, label)], rfl, first⟩
        · rw [grown, none]
          simp only [List.append_nil, List.nil_append, List.append_assoc]
        · rw [stays, closed] at isOpen
          cases isOpen

/-- **The router is a demultiplexer.**  In every run a connection is where a run of its own leads,
whose steps are those of the loop, in their order; and it was given the packets of its flow, each
once and in the order they came, from the one that opened it up to its end. -/
theorem run_demultiplexes (run : machine.Run t s) (place : s.created[handle]? = some conn) :
    ∃ own armed, Flow.machine.Run own ⟨conn, armed⟩ ∧
      Machine.Aligned (fun s : Relay => handle < s.created.length)
        (fun s label block => ∀ q ∈ block, Shows s label q.2) t own ∧
      Given handle t ⟨conn, armed⟩ own := by
  have here : handle < s.created.length := (List.getElem?_eq_some_iff.mp place).1
  obtain ⟨own, ⟨conn', armed⟩, runs, ⟨place', -⟩, aligned, given⟩ := (tracksFlow handle).run run here
  cases place'.symm.trans place
  exact ⟨own, armed, runs, aligned, given⟩

/-- Next to a flow of datagrams a handshake is done, and its connection was given packets of its
own flow. -/
theorem run_demultiplexes_established : ∃ t s conn armed own, machine.Run t s ∧
    s.created[1]? = some (.tcp conn) ∧ conn.tcb.state = .established ∧
      Flow.machine.Run own ⟨.tcp conn, armed⟩ ∧ Given 1 t ⟨.tcp conn, armed⟩ own := by
  obtain ⟨t₀, s₀, run₀, idle₀, rest₀, -, one, unknown, -⟩ := run_udpFlow
  obtain ⟨t, s, conn, run, -, -, -, created, -, p, synAck, -, rfl⟩ :=
    run_established run₀ idle₀ rest₀ unknown
  have place := (congrArg (·[1]?) created).trans (List.getElem?_append_right one.le)
  rw [one] at place
  obtain ⟨own, armed, runs, -, given⟩ := run_demultiplexes run.run place
  exact ⟨t, s, _, armed, own, run.run, place, rfl, runs, given⟩

end Relay

end ReverseTether
