import ReverseTether.ClientVerdicts
import ReverseTether.Library.Projection
import ReverseTether.PolledEvents

/-!
# One flow of a client

`Flow` is a connection of any kind on its own: it is called, with the client and the selector in
any state, and it is polled.  What the router promises of a call is that a packet is one of its
own flow; what the poller promises, that an event is within the interest of the last poll.

Inside `Relay` every connection goes by these rules (`tracksFlow`), and it is given the valid
packets of its flow in their order, each once, from the one that opened it up to its end
(`run_demultiplexes`).  The packets that other flows get, and what their sockets do, reach it through
nothing but the state of the client and the selector.

A flow is an over-approximation as well: the client and the selector may be anything, at each
call anew.  It is enough for what is said about one connection and its packets, and too little
for what depends on the room in the shared stream, which is said of the relay.
-/

namespace ReverseTether

open Library Relation

/-- A connection, and the interest it had when the poller last looked. -/
structure Flow where
  conn : Connection
  armed : Ready

namespace Flow

/-- What happens to one connection: the poller takes its interests, or a method of it is called. -/
inductive Label
  /-- The poller looks at the interests. -/
  | poll
  | call (call : ConnectionCall)

/-- The packet that a step gives to the connection. -/
def Label.packet? : Label → Option IpPacket
  | .call (.packet packet _) => some packet
  | _ => none

/-- The packets that a connection was given, in their order. -/
def packetsOf (own : List (Flow × Label)) : List IpPacket := own.filterMap fun p => p.2.packet?

@[simp] theorem packetsOf_nil : packetsOf [] = [] := rfl

@[simp] theorem packetsOf_append (own own' : List (Flow × Label)) :
    packetsOf (own ++ own') = packetsOf own ++ packetsOf own' := List.filterMap_append

/-- What the router and the poller promise of a call. -/
def Fits (s : Flow) : ConnectionCall → Prop
  | .packet packet _ => ConnectionId.fromPacket packet = some s.conn.id ∧
      Router.isValid packet = true ∧ ∃ raw, IpPacket.parse raw = .ok (.ok packet)
  | .event ready _ _ => ready.Within s.armed
  | _ => True

/-- The client and the selector are those of the moment: another connection may have used them
since the last step. -/
inductive Step : Flow → Label → Flow → Prop
  | poll {s : Flow} : Step s .poll ⟨s.conn, s.conn.interests⟩
  | call {s : Flow} {call : ConnectionCall} {client : Client} {selector : Selector}
      {f : ConnectionContext} : s.conn.isClosed = false → s.Fits call →
      ConnectionContext.Executes call ⟨s.conn, client, selector⟩ f →
      Step s (.call call) ⟨f.conn, s.armed⟩

/-- What `Router::create_connection` makes of the first packet of a flow, a packet that was parsed
and that the router takes. -/
def Opened (conn : Connection) : Prop :=
  ∃ c id packet answers selector, ConnectionId.fromPacket packet = some id ∧
    Router.isValid packet = true ∧ (∃ raw, IpPacket.parse raw = .ok (.ok packet)) ∧
    Router.createConnection c id packet answers = .ok (.ok (conn, selector))

/-- The life of one connection, from the packet that opened it, through calls that find the client
and the selector in any state. -/
def machine : Machine Flow Label where
  start s := Opened s.conn ∧ s.armed = .empty
  step := Step

variable {s s' : Flow} {block : List (Flow × Label)}

theorem Step.id {label : Label} (step : Step s label s') : s'.conn.id = s.conn.id := by
  cases step with
  | poll => rfl
  | call _ _ executes => exact executes.toActs.id

theorem path_id (path : Machine.Path machine s block s') : s'.conn.id = s.conn.id :=
  path.invariant (fun r => r.conn.id = s.conn.id) (fun _ _ _ same step => (Step.id step).trans same)
    rfl

/-- A closed connection is not called. -/
theorem path_closed (path : Machine.Path machine s block s') (closed : s.conn.isClosed = true) :
    s'.conn = s.conn ∧ packetsOf block = [] := by
  induction path with
  | refl => exact ⟨rfl, rfl⟩
  | step _ step ih =>
      obtain ⟨same, none⟩ := ih
      cases step with
      | poll => exact ⟨same, by rw [packetsOf_append, none]; rfl⟩
      | call isOpen _ _ =>
          rw [same, closed] at isOpen
          cases isOpen

end Flow

/-- The packets that belong to a flow: those of its id that the router takes as valid. -/
def flowOf (id : ConnectionId) (packets : List IpPacket) : List IpPacket :=
  packets.filter fun packet => ConnectionId.fromPacket packet = some id ∧ Router.isValid packet

@[simp] theorem flowOf_nil (id : ConnectionId) : flowOf id [] = [] := rfl

theorem flowOf_append (id : ConnectionId) (packets packets' : List IpPacket) :
    flowOf id (packets ++ packets') = flowOf id packets ++ flowOf id packets' :=
  List.filter_append ..

theorem flowOf_cons_of {id : ConnectionId} {packet : IpPacket} (packets : List IpPacket)
    (belongs : ConnectionId.fromPacket packet = some id ∧ Router.isValid packet = true) :
    flowOf id (packet :: packets) = packet :: flowOf id packets :=
  List.filter_cons_of_pos (decide_eq_true belongs)

theorem flowOf_cons_of_not {id : ConnectionId} {packet : IpPacket} (packets : List IpPacket)
    (foreign : ¬ (ConnectionId.fromPacket packet = some id ∧ Router.isValid packet = true)) :
    flowOf id (packet :: packets) = flowOf id packets :=
  List.filter_cons_of_neg (by simpa using foreign)

/-- **How a connection goes on while packets are routed**: it is given those of its flow, in
their order, and all of them unless it is closed by then. -/
def FlowsTo (may : ConnectionCall → Prop) (armed : Ready) (conn : Connection)
    (packets : List IpPacket) (conn' : Connection) : Prop :=
  ∃ block rest, Machine.Path Flow.machine ⟨conn, armed⟩ block ⟨conn', armed⟩ ∧
    flowOf conn.id packets = Flow.packetsOf block ++ rest ∧ (conn'.isClosed = false → rest = []) ∧
      ∀ q ∈ block, ∃ call, q.2 = .call call ∧ may call

namespace FlowsTo

variable {may may' : ConnectionCall → Prop} {armed : Ready} {conn conn₁ conn' : Connection}
  {packets packets' : List IpPacket}

theorem refl (may : ConnectionCall → Prop) (armed : Ready) (conn : Connection) :
    FlowsTo may armed conn [] conn :=
  ⟨[], [], .refl, rfl, fun _ => rfl, fun _ mem => absurd mem List.not_mem_nil⟩

theorem mono (flows : FlowsTo may armed conn packets conn') (weaker : ∀ call, may call → may' call) :
    FlowsTo may' armed conn packets conn' := by
  obtain ⟨block, rest, path, given, all, shown⟩ := flows
  refine ⟨block, rest, path, given, all, fun q mem => ?_⟩
  obtain ⟨call, is, allowed⟩ := shown q mem
  exact ⟨call, is, weaker call allowed⟩

/-- It is not one of the flow, or the connection is closed. -/
theorem skip {packet : IpPacket} (may : ConnectionCall → Prop) (armed : Ready)
    (foreign : conn.isClosed = false →
      ¬ (ConnectionId.fromPacket packet = some conn.id ∧ Router.isValid packet = true)) :
    FlowsTo may armed conn [packet] conn := by
  refine ⟨[], flowOf conn.id [packet], .refl, rfl, fun isOpen => ?_,
    fun _ mem => absurd mem List.not_mem_nil⟩
  rw [flowOf_cons_of_not _ (foreign isOpen), flowOf_nil]

theorem trans (first : FlowsTo may armed conn packets conn₁)
    (second : FlowsTo may armed conn₁ packets' conn') :
    FlowsTo may armed conn (packets ++ packets') conn' := by
  obtain ⟨block, rest, path, given, all, shown⟩ := first
  obtain ⟨block', rest', path', given', all', shown'⟩ := second
  have same : conn₁.id = conn.id := Flow.path_id path
  rw [same] at given'
  have each (q) (mem : q ∈ block ++ block') : ∃ call, q.2 = Flow.Label.call call ∧ may call :=
    (List.mem_append.mp mem).elim (shown q) (shown' q)
  cases closed : conn₁.isClosed with
  | false =>
      refine ⟨block ++ block', rest', path.trans path', ?_, all', each⟩
      rw [flowOf_append, given, given', all closed, Flow.packetsOf_append, List.append_nil,
        List.append_assoc]
  | true =>
      obtain ⟨stays, none⟩ := Flow.path_closed path' closed
      have stays : conn' = conn₁ := stays
      refine ⟨block ++ block', rest ++ rest', path.trans path', ?_, fun isOpen => ?_, each⟩
      · rw [flowOf_append, given, given', Flow.packetsOf_append, none, List.append_nil,
          List.nil_append, List.append_assoc]
      · rw [stays, closed] at isOpen
        cases isOpen

end FlowsTo

/-! ## Steps that bring no packet -/

section Moves

variable {may : ConnectionCall → Prop} {reads : Prop} {c c' : ClientContext} {handle : Handle}
  {conn : Connection} {armed : Ready}

/-- Calls that need no promise, and that bring no packet. -/
def ConnectionCall.Quiet : ConnectionCall → Prop
  | .close | .expire | .next => True
  | _ => False

theorem ConnectionCall.Quiet.fits {call : ConnectionCall} (quiet : call.Quiet) (s : Flow) :
    s.Fits call := by
  cases call with
  | packet _ _ => exact quiet.elim
  | event _ _ _ => exact quiet.elim
  | close => trivial
  | expire => trivial
  | next => trivial

theorem ConnectionCall.Quiet.packet? {call : ConnectionCall} (quiet : call.Quiet) :
    (Flow.Label.call call).packet? = none := by
  cases call with
  | packet _ _ => exact quiet.elim
  | _ => rfl

/-- **A connection goes on by its own rules** while its client takes steps that bring no packet.
Other flows are routed, the client writes and the reaper runs, and each of these either calls the
connection or leaves it alone. -/
theorem ClientMoves.flow (quiet : ∀ call, may call → call.Quiet) (routed : c.Routed)
    (moves : ClientMoves may reads c c') (place : c.created[handle]? = some conn) (armed : Ready) :
    ∃ conn', c'.created[handle]? = some conn' ∧ FlowsTo may armed conn [] conn' := by
  refine moves.relates (FlowsTo.refl may armed) (fun _ _ _ => FlowsTo.trans) ?_ routed place
  intro d f call allowed isOpen executes
  refine ⟨_, [], .single (.call (s := ⟨d.conn, armed⟩) isOpen ((quiet call allowed).fits _) executes),
    ?_, fun _ => rfl, fun q mem => ?_⟩
  · have none : Flow.packetsOf [(⟨d.conn, armed⟩, .call call)] = [] :=
      List.filterMap_cons_none (quiet call allowed).packet?
    rw [none]
    rfl
  · rw [List.mem_singleton.mp mem]
    exact ⟨call, rfl, allowed⟩

/-- They open no connection. -/
theorem ClientMoves.length_created (quiet : ∀ call, may call → call.Quiet) (routed : c.Routed)
    (moves : ClientMoves may reads c c') : c'.created.length = c.created.length := by
  refine ClientMoves.invariant (P := fun d => d.created.length = c.created.length) ?_ routed rfl moves
  intro d d' routed same move
  cases move with
  | acts place _ _ executes =>
      rw [routed.leave_created place executes.toActs, List.length_set]
      exact same
  | opens allowed _ _ _ _ => exact (quiet _ allowed).elim
  | serves _ _ _ _ => exact same
  | receives _ _ => exact same
  | sendsId _ _ => exact same
  | writes _ _ => exact same
  | closes => exact same

end Moves

/-! ## What the router does to a flow -/

namespace Router

variable {c c' : ClientContext} {packet : IpPacket} {answers : PacketAnswers} {handle : Handle}
  {conn : Connection}

/-- **A packet is given to the open connection of its flow, and to no other.**  The routes are
those of open connections and no two have the same id, so the router finds the one or none. -/
theorem sendToNetwork_at (routed : c.Routed) (place : c.created[handle]? = some conn)
    (h : sendToNetwork c packet answers = .ok c') :
    ((ConnectionId.fromPacket packet = some conn.id ∧ isValid packet = true) ∧
        conn.isClosed = false ∧ ∃ f, (c.enter conn).Executes (.packet packet answers) f ∧
          c'.created[handle]? = some f.conn) ∨
      (c'.created[handle]? = some conn ∧ (conn.isClosed = false →
        ¬ (ConnectionId.fromPacket packet = some conn.id ∧ isValid packet = true))) := by
  have inside : handle < c.created.length := (List.getElem?_eq_some_iff.mp place).1
  unfold sendToNetwork at h
  split at h
  · rename_i unknown
    cases h
    exact .inr ⟨place, fun _ belongs => by rw [unknown] at belongs; cases belongs.1⟩
  rename_i id known
  split at h
  · rename_i valid
    obtain ⟨found, lookup, h⟩ := bind_eq_ok.mp h
    cases found with
    | error _ =>
        cases h
        refine .inr ⟨place, fun isOpen belongs => ?_⟩
        -- the connection would have been found
        have same : id = conn.id := Option.some.inj (known.symm.trans belongs.1)
        have route : (id, handle) ∈ c.client.connections :=
          (routed.routes _ _).mpr ⟨conn, place, same.symm, isOpen⟩
        unfold connectionFor at lookup
        split at lookup
        · cases lookup
        · rename_i none
          exact routed.connectionOf_none none handle route
    | ok found =>
        obtain ⟨other, c₁⟩ := found
        rcases connectionFor_ok lookup with ⟨found, rfl⟩ | ⟨none, selector, created, rfl⟩
        · obtain ⟨there, place', same, isOpen⟩ := routed.connectionOf_some found
          obtain ⟨f, executes, rfl⟩ := deliver_ok same isOpen h
          rw [routed.leave_created place' executes.toActs]
          by_cases here : there = handle
          · rw [here] at place' ⊢
            cases place'.symm.trans place
            exact .inl ⟨⟨known.trans (congrArg some same.symm), valid⟩, isOpen, f, executes,
              List.getElem?_set_self inside⟩
          · refine .inr ⟨(List.getElem?_set_ne here).trans place, fun isOpen' belongs => here ?_⟩
            have id_eq : id = conn.id := Option.some.inj (known.symm.trans belongs.1)
            exact routed.route_unique ((routed.routes _ _).mpr ⟨other, place', same, isOpen⟩)
              ((routed.routes _ _).mpr ⟨conn, place, id_eq.symm, isOpen'⟩)
        · obtain ⟨-, same, isOpen, -⟩ := createConnection_ok created
          obtain ⟨f, executes, rfl⟩ := deliver_ok same isOpen h
          have new := routed.connectionOf_none none
          have routed' := insert_routed routed new created
          rw [routed'.leave_created (insert_place _ _ _ _) executes.toActs]
          refine .inr ⟨?_, fun isOpen' belongs => ?_⟩
          · rw [List.getElem?_set_ne (ne_of_gt inside)]
            exact (List.getElem?_append_left inside).trans place
          · have id_eq : id = conn.id := Option.some.inj (known.symm.trans belongs.1)
            exact new handle ((routed.routes _ _).mpr ⟨conn, place, id_eq.symm, isOpen'⟩)
  · rename_i invalid
    cases h
    exact .inr ⟨place, fun _ belongs => invalid belongs.2⟩

/-- A packet opens at most one connection, which takes the next place and that packet. -/
theorem sendToNetwork_born (routed : c.Routed) (before : c.created.length ≤ handle)
    (after : handle < c'.created.length) (h : sendToNetwork c packet answers = .ok c') :
    ∃ conn f, (∃ id selector, ConnectionId.fromPacket packet = some id ∧ isValid packet = true ∧
        createConnection c id packet answers = .ok (.ok (conn, selector)) ∧
        ConnectionContext.Executes (.packet packet answers)
          ((insert c id conn selector).enter conn) f) ∧
      c'.created[handle]? = some f.conn := by
  unfold sendToNetwork at h
  split at h
  · cases h
    exact absurd after (not_lt.mpr before)
  rename_i id known
  split at h
  · rename_i valid
    obtain ⟨found, lookup, h⟩ := bind_eq_ok.mp h
    cases found with
    | error _ =>
        cases h
        exact absurd after (not_lt.mpr before)
    | ok found =>
        obtain ⟨conn, c₁⟩ := found
        rcases connectionFor_ok lookup with ⟨found, rfl⟩ | ⟨none, selector, created, rfl⟩
        · obtain ⟨there, place, same, isOpen⟩ := routed.connectionOf_some found
          obtain ⟨f, executes, rfl⟩ := deliver_ok same isOpen h
          rw [routed.leave_created place executes.toActs, List.length_set] at after
          exact absurd after (not_lt.mpr before)
        · obtain ⟨-, same, isOpen, -⟩ := createConnection_ok created
          obtain ⟨f, executes, rfl⟩ := deliver_ok same isOpen h
          have routed' := insert_routed routed (routed.connectionOf_none none) created
          have place := insert_place c id conn selector
          have grown := routed'.leave_created place executes.toActs
          have length : (insert c id conn selector).created.length = c.created.length + 1 :=
            List.length_append
          rw [grown, List.length_set, length] at after
          have last : handle = c.created.length := Nat.le_antisymm (Nat.lt_succ_iff.mp after) before
          refine ⟨conn, f, ⟨id, selector, known, valid, created, executes⟩, ?_⟩
          rw [grown, last]
          refine List.getElem?_set_self ?_
          rw [length]
          exact Nat.lt_succ_self _
  · cases h
    exact absurd after (not_lt.mpr before)

end Router

/-! ## What the verdicts of an event do to a flow -/

namespace ClientContext

variable {may : ConnectionCall → Prop} {c c' : ClientContext} {handle : Handle} {conn : Connection}
  {packets : ℕ → PacketAnswers} {verdicts : List Verdict}

/-- A client that closes closes its connections, each by a call of its own. -/
theorem close_flow (closes : may .close) (routed : c.Routed) (h : c.close = .ok c')
    (place : c.created[handle]? = some conn) (armed : Ready) :
    c'.Routed ∧ c'.created.length = c.created.length ∧
      ∃ conn', c'.created[handle]? = some conn' ∧ FlowsTo may armed conn [] conn' := by
  have quiet (call : ConnectionCall) (is : call = .close) : call.Quiet := by
    rw [is]
    trivial
  have moves : ClientMoves (· = .close) True c c' := close_moves rfl routed h
  obtain ⟨conn', place', flows⟩ := moves.flow quiet routed place armed
  exact ⟨moves.routed routed, moves.length_created quiet routed, conn', place',
    flows.mono fun call is => is ▸ closes⟩

/-- **The packets of an event reach the connection of their flow.**  The verdicts of the event are
applied one after the other, and of those that are packets the flow gets its own, in the same
order. -/
theorem folded_flow (closes : may .close) {n n' : ℕ}
    (sends : ∀ k packet, (verdicts.filterMap Verdict.packet?)[k]? = some packet →
      may (.packet packet (packets (n + k))))
    (parsed : ∀ packet ∈ verdicts.filterMap Verdict.packet?,
      ∃ raw, IpPacket.parse raw = .ok (.ok packet))
    (routed : c.Routed)
    (h : verdicts.foldlM (applyVerdict (handlers packets)) (n, c) = .ok (n', c'))
    (place : c.created[handle]? = some conn) (armed : Ready) :
    ∃ conn', c'.created[handle]? = some conn' ∧
      FlowsTo may armed conn (verdicts.filterMap Verdict.packet?) conn' := by
  induction verdicts generalizing n c conn with
  | nil =>
      cases h
      exact ⟨conn, place, .refl may armed conn⟩
  | cons verdict verdicts ih =>
      rw [List.foldlM_cons] at h
      obtain ⟨⟨n₁, c₁⟩, first, h⟩ := bind_eq_ok.mp h
      cases verdict with
      | dropped _ =>
          cases first
          exact ih sends parsed routed h place
      | closed _ =>
          obtain ⟨c₂, closed, rest⟩ := bind_eq_ok.mp first
          cases rest
          obtain ⟨routed₁, -, conn₁, place₁, flows⟩ := close_flow closes routed closed place armed
          obtain ⟨conn', place', flows'⟩ := ih sends parsed routed₁ h place₁
          exact ⟨conn', place', flows.trans flows'⟩
      | routed packet =>
          obtain ⟨c₂, sent, rest⟩ := bind_eq_ok.mp first
          cases rest
          rw [List.filterMap_cons_some (show (Verdict.routed packet).packet? = some packet from rfl)]
            at sends parsed ⊢
          have moves : ClientMoves (fun _ => True) True c c₁ :=
            Router.sendToNetwork_moves trivial routed sent
          have here : ∃ conn₁, c₁.created[handle]? = some conn₁ ∧
              FlowsTo may armed conn [packet] conn₁ := by
            rcases Router.sendToNetwork_at routed place sent with
              ⟨belongs, isOpen, f, executes, place₁⟩ | ⟨place₁, foreign⟩
            · have fits : (⟨conn, armed⟩ : Flow).Fits (.packet packet (packets n)) :=
                ⟨belongs.1, belongs.2, parsed packet List.mem_cons_self⟩
              refine ⟨f.conn, place₁, _, [], .single (.call (s := ⟨conn, armed⟩) isOpen fits executes),
                ?_, fun _ => rfl, fun q mem => ?_⟩
              · rw [flowOf_cons_of _ belongs]
                rfl
              · rw [List.mem_singleton.mp mem]
                exact ⟨_, rfl, sends 0 packet rfl⟩
            · exact ⟨conn, place₁, .skip may armed foreign⟩
          obtain ⟨conn₁, place₁, flows⟩ := here
          obtain ⟨conn', place', flows'⟩ := ih
            (fun k packet mem => by
              rw [Nat.add_right_comm, Nat.add_assoc]
              exact sends (k + 1) packet mem)
            (fun packet mem => parsed packet (List.mem_cons_of_mem _ mem)) (moves.routed routed) h
            place₁
          exact ⟨conn', place', flows.trans flows'⟩

/-- **A connection that is born in an event** is opened by a packet of its flow, and given it and
the later ones. -/
theorem folded_born (closes : may .close) {n n' : ℕ}
    (sends : ∀ k packet, (verdicts.filterMap Verdict.packet?)[k]? = some packet →
      may (.packet packet (packets (n + k))))
    (parsed : ∀ packet ∈ verdicts.filterMap Verdict.packet?,
      ∃ raw, IpPacket.parse raw = .ok (.ok packet))
    (routed : c.Routed)
    (h : verdicts.foldlM (applyVerdict (handlers packets)) (n, c) = .ok (n', c'))
    (before : c.created.length ≤ handle) (after : handle < c'.created.length) (armed : Ready) :
    ∃ conn conn' skipped arrived, Flow.Opened conn ∧ c'.created[handle]? = some conn' ∧
      verdicts.filterMap Verdict.packet? = skipped ++ arrived ∧ FlowsTo may armed conn arrived conn' := by
  induction verdicts generalizing n c with
  | nil =>
      cases h
      exact absurd after (not_lt.mpr before)
  | cons verdict verdicts ih =>
      rw [List.foldlM_cons] at h
      obtain ⟨⟨n₁, c₁⟩, first, h⟩ := bind_eq_ok.mp h
      cases verdict with
      | dropped _ =>
          cases first
          exact ih sends parsed routed h before
      | closed _ =>
          obtain ⟨c₂, closed, rest⟩ := bind_eq_ok.mp first
          cases rest
          have moves : ClientMoves (· = .close) True c c₁ := close_moves rfl routed closed
          have length : c₁.created.length = c.created.length :=
            moves.length_created (fun call is => by rw [is]; trivial) routed
          exact ih sends parsed (moves.routed routed) h (length.trans_le before)
      | routed packet =>
          obtain ⟨c₂, sent, rest⟩ := bind_eq_ok.mp first
          cases rest
          rw [List.filterMap_cons_some (show (Verdict.routed packet).packet? = some packet from rfl)]
            at sends parsed ⊢
          have moves : ClientMoves (fun _ => True) True c c₁ :=
            Router.sendToNetwork_moves trivial routed sent
          have later (k : ℕ) (packet : IpPacket)
              (mem : (verdicts.filterMap Verdict.packet?)[k]? = some packet) :
              may (.packet packet (packets (n + 1 + k))) := by
            rw [Nat.add_right_comm, Nat.add_assoc]
            exact sends (k + 1) packet mem
          have parsed' (packet : IpPacket) (mem : packet ∈ verdicts.filterMap Verdict.packet?) :
              ∃ raw, IpPacket.parse raw = .ok (.ok packet) :=
            parsed packet (List.mem_cons_of_mem _ mem)
          by_cases now : c₁.created.length ≤ handle
          · obtain ⟨conn, conn', skipped, arrived, opened, place, split, flows⟩ :=
              ih later parsed' (moves.routed routed) h now
            exact ⟨conn, conn', packet :: skipped, arrived, opened, place,
              congrArg (packet :: ·) split, flows⟩
          · obtain ⟨conn, f, ⟨id, selector, known, valid, created, executes⟩, place₁⟩ :=
              Router.sendToNetwork_born routed before (not_le.mp now) sent
            obtain ⟨-, same, isOpen, -⟩ := Router.createConnection_ok created
            have opened : Flow.Opened conn :=
              ⟨c, id, packet, packets n, selector, known, valid, parsed packet List.mem_cons_self,
                created⟩
            have belongs : ConnectionId.fromPacket packet = some conn.id ∧
                Router.isValid packet = true := ⟨known.trans (congrArg some same.symm), valid⟩
            have fits : (⟨conn, armed⟩ : Flow).Fits (.packet packet (packets n)) :=
              ⟨belongs.1, belongs.2, parsed packet List.mem_cons_self⟩
            have first : FlowsTo may armed conn [packet] f.conn := by
              refine ⟨_, [], .single (.call (s := ⟨conn, armed⟩) isOpen fits executes), ?_,
                fun _ => rfl, fun q mem => ?_⟩
              · rw [flowOf_cons_of _ belongs]
                rfl
              · rw [List.mem_singleton.mp mem]
                exact ⟨_, rfl, sends 0 packet rfl⟩
            obtain ⟨conn', place', flows⟩ :=
              folded_flow closes later parsed' (moves.routed routed) h place₁ armed
            exact ⟨conn, conn', [], packet :: verdicts.filterMap Verdict.packet?, opened, place', rfl,
              first.trans flows⟩

end ClientContext

end ReverseTether
