import ReverseTether.ClientIds
import ReverseTether.LinkPackets

/-!
# Any number of devices

`Link` is one app and its client.  `Devices` is all of it: the poll loop, and for each connection
that it accepts, in the order in which it accepts them, the app at the other end.  The apps run
beside the loop and each other; an event of the loop may take bytes from the stream of one of
them, and any step of it leaves the streams of the others alone.

That is why a device never sees that it shares the relay.  Each device and its client are where a
run of their own `Link` leads (`run_link`), whatever the other devices send; so what is proved of
one link holds of each.  And no two devices are given the same id (`run_ids`).

The streams between a device and the relay carry bytes in order and lose none, as a connection
over USB does, and have no bound.  A device may be slow or silent for ever; the loop never
waits for one, and neither do the others.
-/

namespace ReverseTether

open Library

/-! ## The bytes of one client in a step of the loop -/

namespace Process

variable {s s' : Process} {label : Label} {k : ClientHandle}

/-- The bytes that a step takes from the socket of a client. -/
def takenFrom (s : Process) (k : ClientHandle) : Label → List UInt8
  | .handle answers =>
      match s.batch, s.contexts[k]? with
      | (cell, ready) :: _, some c => if cell = .client k then c.taken ready answers.event else []
      | _, _ => []
  | _ => []

/-- The bytes that the socket of a client took. -/
def givenTo (s : Process) (k : ClientHandle) : List UInt8 :=
  (s.contexts[k]?).elim [] fun c => c.received

theorem Sees.givenTo {r : Relay} (seen : Sees k s r) : s.givenTo k = r.received := by
  rw [Process.givenTo, seen.place]
  rfl

theorem givenTo_absent (absent : s.contexts.length ≤ k) : s.givenTo k = [] := by
  rw [givenTo, List.getElem?_eq_none absent]
  rfl

theorem takenFrom_absent (absent : s.contexts.length ≤ k) : s.takenFrom k label = [] := by
  cases label with
  | handle answers =>
      unfold takenFrom
      rw [List.getElem?_eq_none absent]
      cases s.batch <;> rfl
  | _ => rfl

/-- An event of the client takes what it takes there. -/
theorem takenFrom_own {r : Relay} (seen : Sees k s r) {source : Source} {ready : Ready}
    {rest : List (Cell × Ready)} (answers : HandlerAnswers)
    (waits : s.batch = (source.cell k, ready) :: rest) :
    s.takenFrom k (.handle answers) = r.taken (.handle answers.event) := by
  have own : r.batch = (source, ready) :: batchOf k rest := by rw [seen.2, waits, batchOf_self]
  unfold takenFrom Relay.taken
  rw [waits, own, seen.place]
  cases source with
  | client => exact if_pos rfl
  | connection handle => exact if_neg nofun

/-- An event of another takes nothing. -/
theorem takenFrom_other {cell : Cell} {ready : Ready} {rest : List (Cell × Ready)}
    (answers : HandlerAnswers) (waits : s.batch = (cell, ready) :: rest)
    (other : cell.sourceOf k = none) : s.takenFrom k (.handle answers) = [] := by
  have different : cell ≠ .client k := by
    rintro rfl
    exact absurd other (by rw [Cell.sourceOf, if_pos rfl]; exact Option.some_ne_none _)
  unfold takenFrom
  rw [waits]
  cases s.contexts[k]? with
  | none => rfl
  | some c => exact if_neg different

/-- A socket that has nothing to read gives nothing. -/
theorem takenFrom_idle
    (idle : ∀ answers, label = .handle answers → answers.event.socket.read = .ok []) :
    s.takenFrom k label = [] := by
  cases label with
  | handle answers =>
      have nothing (c : ClientContext) (ready : Ready) : c.taken ready answers.event = [] := by
        rw [ClientContext.taken, idle answers rfl, IpPacketBuffer.takes, List.take_nil, ite_self]
      simp only [takenFrom, nothing, ite_self]
      split <;> rfl
  | _ => rfl

/-- **A step of the loop is none of the client, or one that takes the same bytes.**  The loop
serves the clients of all devices, one source at a time, and a handler of one client leaves the
sockets of the others alone. -/
theorem Step.takes {r : Relay} (sound : s.Sound) (step : Step s label s') (seen : Sees k s r) :
    (Sees k s' r ∧ s.takenFrom k label = []) ∨
      ∃ l r', Relay.Step r l r' ∧ Shows k label l ∧ Sees k s' r' ∧
        s.takenFrom k label = r.taken l := by
  obtain ⟨block, r', path, rfl | ⟨r₁, l, rfl, shows⟩, seen'⟩ := Step.sees sound step seen
  · cases path.of_nil
    refine .inl ⟨seen', ?_⟩
    cases step with
    | @handle cell ready rest answers _ _ _ waits _ =>
        refine takenFrom_other answers waits (Option.eq_none_iff_forall_ne_some.mpr fun source is => ?_)
        -- an event of its own would be gone
        have gone : batchOf k s.batch = batchOf k rest := seen.2.symm.trans seen'.2
        rw [waits, Cell.eq_cell is, batchOf_self] at gone
        exact absurd (congrArg List.length gone) (Nat.succ_ne_self _)
    | _ => rfl
  · obtain ⟨rfl, own⟩ := path.of_single
    refine .inr ⟨l, r', own, shows, seen', ?_⟩
    cases shows with
    | handle answers =>
        cases step with
        | @handle cell ready rest _ _ _ _ waits _ =>
            cases is : cell.sourceOf k with
            | some source => exact takenFrom_own seen answers (Cell.eq_cell is ▸ waits)
            | none =>
                -- then it handles no event of its own
                cases own with
                | handle first _ =>
                    have kept : batchOf k s.batch = batchOf k rest := by
                      rw [waits, batchOf, List.filterMap_cons_none (by rw [is]; rfl)]
                      rfl
                    have same := first.symm.trans (seen.2.trans (kept.trans seen'.2.symm))
                    exact absurd (congrArg List.length same) (Nat.succ_ne_self _)
    | _ => rfl

/-- What the socket took, it took. -/
theorem Step.gives (sound : s.Sound) (step : Step s label s')
    (k : ClientHandle) : ∃ gave, s'.givenTo k = s.givenTo k ++ gave := by
  rcases Nat.lt_or_ge k s.contexts.length with there | absent
  · have place := List.getElem?_eq_getElem there
    have seen : Sees k s ⟨s.contexts[k], batchOf k s.batch, []⟩ := ⟨place, rfl⟩
    have routed := sound.tended.routed _ (List.mem_of_getElem? place)
    rw [seen.givenTo]
    rcases Step.takes sound step seen with ⟨seen', -⟩ | ⟨l, r', own, -, seen', -⟩
    · exact ⟨[], seen'.givenTo.trans (List.append_nil _).symm⟩
    · obtain ⟨gave, more⟩ := Relay.Step.received routed own
      exact ⟨gave, seen'.givenTo.trans more.symm⟩
  · exact ⟨_, by rw [givenTo_absent absent, List.nil_append]⟩

end Process

/-! ## The devices -/

/-- An app, with the bytes on their way between it and the relay.  Nothing of it is shared with
another device. -/
structure Device where
  greeting : Greeting
  tunnel : Tunnel
  /-- To the relay. -/
  up : List UInt8
  /-- To the app. -/
  down : List UInt8

namespace Device

/-- The app has just started, in the mode of its user, and nothing is on the way between it and the
relay. -/
def start (ipv6Mode : Ipv6Mode) : Device := ⟨.start, .start ipv6Mode, [], []⟩

/-- The device with its client in the relay. -/
def link (d : Device) (relay : Relay) : Link := ⟨d.greeting, d.tunnel, relay, d.up, d.down⟩

/-- What the app of a device does on its own: a round of `Connect`, or an iteration of its loop. -/
inductive Label
  | greet (round : Greeting.Round)
  | turn (turn : Turn)

/-- The same step, as the one of a link that has the relay at its other end. -/
def Label.link : Label → Link.Label
  | .greet round => .greet round
  | .turn answers => .turn answers

/-- An app takes the steps that it takes in a link, whatever is at the other end. -/
def Step (d : Device) (label : Label) (d' : Device) : Prop :=
  ∀ relay, Link.Step (d.link relay) label.link (d'.link relay)

/-- The relay took bytes of the one stream, and gave some to the other. -/
structure Exchanges (d : Device) (took gave : List UInt8) (d' : Device) : Prop where
  greeting : d'.greeting = d.greeting
  tunnel : d'.tunnel = d.tunnel
  up : d.up = took ++ d'.up
  down : d'.down = d.down ++ gave

variable {d d' : Device} {took gave : List UInt8}

theorem Exchanges.nothing (exchanges : d.Exchanges [] [] d') : d' = d := by
  obtain ⟨greeting, tunnel, up, down⟩ := d'
  obtain ⟨rfl, rfl, same, down'⟩ := exchanges
  rw [List.append_nil] at down'
  cases down'
  cases same
  rfl

/-- With the step of the client it is a step of the link. -/
theorem Exchanges.step {relay relay' : Relay} {label : Relay.Label}
    (exchanges : d.Exchanges (relay.taken label) gave d') (step : relay.Step label relay')
    (received : relay'.received = relay.received ++ gave) :
    Link.Step (d.link relay) (.relay label) (d'.link relay') := by
  obtain ⟨greeting, tunnel, up, down⟩ := d'
  obtain ⟨rfl, rfl, took, rfl⟩ := exchanges
  exact .relay step took received

end Device

/-- The relay and the devices, each at the place at which its connection is accepted. -/
structure Devices where
  process : Process
  devices : ClientHandle → Device

namespace Devices

/-- A step of one device, or one of the relay that all of them are connected to. -/
inductive Label
  | device (k : ClientHandle) (label : Device.Label)
  /-- A step of the poll loop. -/
  | relay (label : Process.Label)

/-- A device steps alone.  In a step of the poll loop every device loses the bytes that its own
client took, and gets those that its client was made to give. -/
inductive Step (s : Devices) : Label → Devices → Prop
  | device {k : ClientHandle} {label : Device.Label} {device : Device} :
      (s.devices k).Step label device →
      Step s (.device k label) { s with devices := Function.update s.devices k device }
  | relay {label : Process.Label} {process : Process} {devices : ClientHandle → Device}
      {gave : ClientHandle → List UInt8} : s.process.Step label process →
      (∀ k, process.givenTo k = s.process.givenTo k ++ gave k) →
      (∀ k, (s.devices k).Exchanges (s.process.takenFrom k label) (gave k) (devices k)) →
      Step s (.relay label) ⟨process, devices⟩

/-- The relay starts without a client, and every device starts in the mode that its user has
chosen. -/
def machine (ipv6Mode : ClientHandle → Ipv6Mode) : Machine Devices Label where
  start s := Process.machine.start s.process ∧ ∀ k, s.devices k = .start (ipv6Mode k)
  step := Step

/-- The steps of the poll loop. -/
def loop (t : List (Devices × Label)) : List (Process × Process.Label) :=
  t.filterMap fun p => match p.2 with
    | .relay label => some (p.1.process, label)
    | _ => none

/-- What a step is to the link of a device. -/
def Block (k : ClientHandle) : Label → List (Link × Link.Label) → Prop
  | .device k' label, block => if k' = k then ∃ l, block = [(l, label.link)] else block = []
  | .relay label, block => block = [] ∨
      ∃ l label', block = [(l, .relay label')] ∧ Process.Shows k label label'

theorem block_own {k : ClientHandle} {label : Device.Label} {l : Link} :
    Block k (.device k label) [(l, label.link)] := by
  rw [Block, if_pos rfl]
  exact ⟨l, rfl⟩

theorem block_other {k k' : ClientHandle} (other : k' ≠ k) {label : Device.Label} :
    Block k (.device k' label) [] := by
  rw [Block, if_neg other]

/-- The link of a device, with the steps that it took.  Each step of all devices is a block of
steps of the one, which is empty where the step is about another. -/
def Runs (ipv6Mode : Ipv6Mode) (k : ClientHandle) (t : List (Devices × Label)) (l : Link) : Prop :=
  ∃ blocks : List (List (Link × Link.Label)), (Link.machine ipv6Mode).Run blocks.flatten l ∧
    List.Forall₂ (fun p block => Block k p.2 block) t blocks

variable {ipv6Mode : ClientHandle → Ipv6Mode} {s s' : Devices} {label : Label}
  {k k' : ClientHandle} {t : List (Devices × Label)} {mode : Ipv6Mode} {l l' : Link}

theorem Runs.rests (runs : Runs mode k t l) (shown : Block k label []) :
    Runs mode k (t ++ [(s, label)]) l := by
  obtain ⟨blocks, run, each⟩ := runs
  refine ⟨blocks ++ [[]], ?_, List.rel_append each (.cons shown .nil)⟩
  rwa [List.flatten_append, List.flatten_singleton, List.append_nil]

theorem Runs.goes {label' : Link.Label} (runs : Runs mode k t l)
    (shown : Block k label [(l, label')]) (step : l.Step label' l') :
    Runs mode k (t ++ [(s, label)]) l' := by
  obtain ⟨blocks, run, each⟩ := runs
  refine ⟨blocks ++ [[(l, label')]], ?_, List.rel_append each (.cons shown .nil)⟩
  rw [List.flatten_append, List.flatten_singleton]
  exact run.step step

/-- Where the link of a device is: before its client is accepted, with one that does nothing. -/
structure Follows (mode : Ipv6Mode) (k : ClientHandle) (t : List (Devices × Label)) (s : Devices) :
    Prop where
  waits : s.process.contexts.length ≤ k → ∀ id, Runs mode k t ((s.devices k).link (.create id))
  runs : k < s.process.contexts.length →
    ∃ r, Process.Sees k s.process r ∧ Runs mode k t ((s.devices k).link r)

/-- A step of an app. -/
theorem Follows.device {label : Device.Label} {device : Device} (follows : Follows mode k t s)
    (step : (s.devices k').Step label device) :
    Follows mode k (t ++ [(s, .device k' label)])
      { s with devices := Function.update s.devices k' device } := by
  have goes {relay : Relay} (runs : Runs mode k t ((s.devices k).link relay)) :
      Runs mode k (t ++ [(s, .device k' label)])
        ((Function.update s.devices k' device k).link relay) := by
    by_cases same : k' = k
    · cases same
      rw [Function.update_self]
      exact runs.goes block_own (step relay)
    · rw [Function.update_of_ne (Ne.symm same)]
      exact runs.rests (block_other same)
  refine ⟨fun absent id => goes (follows.waits absent id), fun inside => ?_⟩
  obtain ⟨r, seen, runs⟩ := follows.runs inside
  exact ⟨r, seen, goes runs⟩

/-- A step of the loop. -/
theorem Follows.relay {label : Process.Label} {process : Process} {device : Device}
    {gave : List UInt8} (sound : s.process.Sound) (known : s.process.BatchKnown)
    (follows : Follows mode k t s) (step : s.process.Step label process)
    (given : process.givenTo k = s.process.givenTo k ++ gave)
    (exchanges : (s.devices k).Exchanges (s.process.takenFrom k label) gave device)
    {devices : ClientHandle → Device} (is : devices k = device) :
    Follows mode k (t ++ [(s, .relay label)]) ⟨process, devices⟩ := by
  have grows := Process.Step.length_le sound step
  have before (absent : s.process.contexts.length ≤ k) (nothing : process.givenTo k = [])
      (id : UInt32) : Runs mode k (t ++ [(s, .relay label)]) ((devices k).link (.create id)) := by
    rw [Process.takenFrom_absent absent] at exchanges
    rw [nothing] at given
    cases (List.append_eq_nil_iff.mp given.symm).2
    rw [is, exchanges.nothing]
    exact (follows.waits absent id).rests (.inl rfl)
  refine ⟨fun absent id => ?_, fun inside => ?_⟩
  · exact before (grows.trans absent) (Process.givenTo_absent absent) id
  · rcases Nat.lt_or_ge k s.process.contexts.length with there | absent
    · obtain ⟨r, seen, runs⟩ := follows.runs there
      rw [seen.givenTo] at given
      rcases Process.Step.takes sound step seen with ⟨seen', nothing⟩ | ⟨l, r', own, shows, seen', took⟩
      · rw [seen'.givenTo] at given
        cases List.append_cancel_left ((List.append_nil _).trans given)
        rw [nothing] at exchanges
        refine ⟨r, seen', ?_⟩
        show Runs mode k _ ((devices k).link r)
        rw [is, exchanges.nothing]
        exact runs.rests (.inl rfl)
      · rw [seen'.givenTo] at given
        rw [took] at exchanges
        refine ⟨r', seen', ?_⟩
        show Runs mode k _ ((devices k).link r')
        rw [is]
        exact runs.goes (.inr ⟨_, l, rfl, shows⟩) (exchanges.step own given)
    · obtain ⟨id, seen⟩ := Process.Step.births sound known step absent inside
      exact ⟨_, seen, before absent (seen.givenTo.trans rfl) id⟩

/-- The poll loop runs as it does alone. -/
theorem run_loop (run : (machine ipv6Mode).Run t s) : Process.machine.Run (loop t) s.process := by
  induction run with
  | start starts => exact .start starts.1
  | @step t s s' label _ step ih =>
      cases step with
      | device _ => simpa [loop] using ih
      | @relay label _ _ _ own _ _ =>
          have more : loop (t ++ [(s, .relay label)]) = loop t ++ [(s.process, label)] := by
            simp [loop]
          rw [more]
          exact ih.step own

theorem run_follows (run : (machine ipv6Mode).Run t s) (k : ClientHandle) :
    Follows (ipv6Mode k) k t s := by
  induction run with
  | start starts =>
      obtain ⟨created, start⟩ := starts
      refine ⟨fun _ id => ⟨[], .start ?_, .nil⟩, fun inside => ?_⟩
      · rw [start k]
        exact ⟨rfl, rfl, ⟨id, rfl⟩, rfl, rfl⟩
      · rw [created] at inside
        exact absurd inside (Nat.not_lt_zero k)
  | step run step ih =>
      cases step with
      | device step => exact ih.device step
      | relay step given exchanges =>
          have loops := run_loop run
          exact ih.relay (Process.run_sound loops) (Process.run_batchKnown loops) step (given k)
            (exchanges k) rfl

/-- **A device does not see that it shares the relay.**  In every run, a device and its client
are where a run of their own link leads.  It takes the steps of the app, in their order, and
between them at most one for each step of the loop. -/
theorem run_link (run : (machine ipv6Mode).Run t s) {c : ClientContext}
    (place : s.process.contexts[k]? = some c) :
    ∃ (blocks : List (List (Link × Link.Label))) (released : List Source),
      (Link.machine (ipv6Mode k)).Run blocks.flatten
        ((s.devices k).link ⟨c, Process.batchOf k s.process.batch, released⟩) ∧
        List.Forall₂ (fun p block => Block k p.2 block) t blocks := by
  obtain ⟨r, seen, blocks, runs, each⟩ :=
    (run_follows run k).runs (List.getElem?_eq_some_iff.mp place).1
  obtain ⟨c', batch, released⟩ := r
  cases seen.place.symm.trans place
  cases seen.2
  exact ⟨blocks, released, runs, each⟩

/-- **The devices have their own packets.**  What comes back to a device was asked for by that
device: each packet of the relay that is written to its tun device is whole, and goes from the
destination of a packet that was read from the same tun device, and forwarded, to its source. -/
theorem run_ownReplies (run : (machine ipv6Mode).Run t s) {c : ClientContext}
    (place : s.process.contexts[k]? = some c)
    (unforged : ∀ (handle : Handle) (conn : TcpConnection), c.created[handle]? = some (.tcp conn) →
      conn.Unforged) :
    ∀ raw ∈ (s.devices k).tunnel.written.filterMap QueuedPacket.framed?,
      ∃ asked ∈ (s.devices k).tunnel.read, Tunnel.forwards (ipv6Mode k) asked = true ∧
        ∃ packet id, IpPacket.parse asked = .ok (.ok packet) ∧
          ConnectionId.fromPacket packet = some id ∧ IsReply id raw := by
  obtain ⟨r, seen, blocks, runs, -⟩ := (run_follows run k).runs (List.getElem?_eq_some_iff.mp place).1
  cases seen.place.symm.trans place
  intro raw mem
  obtain ⟨packet, id, routed, flow, reply⟩ := Link.run_replied runs unforged mem
  obtain ⟨asked, read, forwards, parsed⟩ := Link.run_forwarded runs routed
  exact ⟨asked, read, forwards, packet, id, parsed, flow, reply⟩

/-- An app that got an id was accepted, and has that of its client. -/
theorem run_greeted (run : (machine ipv6Mode).Run t s) {clientId : UInt32}
    (greeted : (s.devices k).greeting.result = some (.ok clientId)) :
    ∃ c, s.process.contexts[k]? = some c ∧ clientId = c.client.id := by
  have follows := run_follows run k
  rcases Nat.lt_or_ge k s.process.contexts.length with there | absent
  · obtain ⟨r, seen, blocks, runs, -⟩ := follows.runs there
    exact ⟨_, seen.place, (Link.run_greeted runs greeted).2⟩
  · -- it would have heard every id there is
    have every (id : UInt32) : clientId = id := by
      obtain ⟨blocks, runs, -⟩ := follows.waits absent id
      exact (Link.run_greeted runs greeted).2
    exact absurd ((every 0).symm.trans (every 1)) (by decide)

/-- **No two devices are given the same id**, as long as the listener was asked for fewer than `2 ^
32` connections.  The id that a device is given is the one its client has in the relay, by
`run_greeted`; and those differ by the counter of the tunnel server, which has not wrapped by then.
-/
theorem run_ids (run : (machine ipv6Mode).Run t s) (few : Process.accepts (loop t) < 2 ^ 32)
    {clientId clientId' : UInt32} (greeted : (s.devices k).greeting.result = some (.ok clientId))
    (greeted' : (s.devices k').greeting.result = some (.ok clientId')) (other : k ≠ k') :
    clientId ≠ clientId' := by
  obtain ⟨c, place, rfl⟩ := run_greeted run greeted
  obtain ⟨c', place', rfl⟩ := run_greeted run greeted'
  have numbered := (Process.run_numbered (run_loop run) few).1
  exact fun same => other (numbered.unique place place' same)

/-! ### A run -/

section Lift

variable {greeting : Greeting} {tunnel b : Tunnel} {up down got sent rest : List UInt8}

/-- The loop takes a step, and the bytes of one device go with it. -/
theorem Step.serves {label : Process.Label} {process : Process} {took gave : List UInt8}
    (step : s.process.Step label process) (device : s.devices k = ⟨greeting, tunnel, took ++ rest, down⟩)
    (takes : s.process.takenFrom k label = took) (given : process.givenTo k = s.process.givenTo k ++ gave)
    (others : ∀ j, j ≠ k → s.process.takenFrom j label = [] ∧ process.givenTo j = s.process.givenTo j) :
    s.Step (.relay label) ⟨process, Function.update s.devices k ⟨greeting, tunnel, rest, down ++ gave⟩⟩ := by
  refine @Step.relay _ _ _ _ (fun j => if j = k then gave else []) step (fun j => ?_) fun j => ?_
  · split
    next same =>
      rw [same]
      exact given
    next other => rw [(others j other).2, List.append_nil]
  · split
    next same =>
      rw [same, takes, Function.update_self, device]
      exact ⟨rfl, rfl, rfl, rfl⟩
    next other =>
      rw [(others j other).1, Function.update_of_ne other]
      exact ⟨rfl, rfl, rfl, (List.append_nil _).symm⟩

/-- **An app does next to the others what it does on its own.**  What it reads and writes is its
own, and neither the relay nor another device takes part in it. -/
theorem run_turns {clientId : UInt32} (run : (machine ipv6Mode).Run t s)
    (device : s.devices k = ⟨greeting, tunnel, up, got ++ rest⟩)
    (greeted : greeting.result = some (.ok clientId)) (goes : tunnel.Goes got sent b) :
    ∃ t' s', (machine ipv6Mode).Run t' s' ∧ s'.process = s.process ∧
      s'.devices k = ⟨greeting, b, up ++ sent, rest⟩ ∧ ∀ j, j ≠ k → s'.devices j = s.devices j := by
  induction goes generalizing rest with
  | refl =>
      rw [List.nil_append] at device
      rw [List.append_nil]
      exact ⟨t, s, run, rfl, device, fun _ _ => rfl⟩
  | @turn got sent more gone b₁ turn _ running received taken ih =>
      rw [List.append_assoc] at device
      obtain ⟨t', s', run', process', device', others⟩ := ih device
      have step : Device.Step (s'.devices k) (.turn turn)
          ⟨greeting, b₁.afterTurn turn, up ++ sent ++ gone, rest⟩ := by
        rw [device']
        exact fun relay => .turn greeted running rfl received taken
      refine ⟨_, _, run'.step (.device step), process', ?_, fun j other => ?_⟩
      · rw [← List.append_assoc]
        exact Function.update_self ..
      · exact (Function.update_of_ne other _ _).trans (others j other)

/-- **So does its client**, with the bytes that the app sent.  The events of the client are polled
one by one; each takes its share of what the app has sent, and gives what is written to the socket
of that device and to no other. -/
theorem run_serves {c₀ c : ClientContext} {bytes : List UInt8} (run : (machine ipv6Mode).Run t s)
    (idle : s.process.batch = []) (place : s.process.contexts[k]? = some c₀)
    (device : s.devices k = ⟨greeting, tunnel, bytes ++ rest, down⟩) (goes : c₀.Goes bytes c) :
    ∃ t' s' gave, (machine ipv6Mode).Run t' s' ∧
      s'.process = { s.process with contexts := s.process.contexts.set k c } ∧
      s'.devices k = ⟨greeting, tunnel, rest, down ++ gave⟩ ∧ (∀ j, j ≠ k → s'.devices j = s.devices j) ∧
      c.received = c₀.received ++ gave := by
  obtain ⟨inside, here⟩ := List.getElem?_eq_some_iff.mp place
  induction goes generalizing rest with
  | refl =>
      refine ⟨t, s, [], run, ?_, device.trans (by rw [List.append_nil]; rfl), fun _ _ => rfl,
        (List.append_nil _).symm⟩
      rw [← here, List.set_getElem_self]
  | @event bytes c₁ c₂ source ready interest answers _ known within one handled isOpen ih =>
      rw [List.append_assoc] at device
      obtain ⟨t₁, s₁, gave, run₁, process₁, device₁, others₁, received⟩ := ih device
      have idle₁ : s₁.process.batch = [] := by
        rw [process₁]
        exact idle
      have place₁ : s₁.process.contexts[k]? = some c₁ := by
        rw [process₁]
        exact List.getElem?_set_self inside
      have sound : s₁.process.Sound := Process.run_sound (run_loop run₁)
      let polled : Process := { s₁.process with batch := [(source.cell k, ready)] }
      let handler : HandlerAnswers := ⟨[], false, answers⟩
      let process : Process := { s₁.process with contexts := s₁.process.contexts.set k c₂, batch := [] }
      -- the event is polled, which moves no bytes
      have polls : s₁.process.Step _ polled := Process.step_polls idle₁ place₁ known within
      have run₂ := run₁.step (@Step.relay s₁ _ polled s₁.devices (fun _ => []) polls
        (fun _ => (List.append_nil _).symm) fun _ => ⟨rfl, rfl, rfl, (List.append_nil _).symm⟩)
      -- and handled
      have handles : polled.Step (.handle handler) process :=
        Process.step_handles sound handler place₁ handled isOpen
      obtain ⟨more, given⟩ := Process.Step.gives (Process.Step.sound sound polls) handles k
      have takes : polled.takenFrom k (.handle handler) = c₁.takenBy source ready answers := by
        have seen : Process.Sees k polled ⟨c₁, Process.batchOf k polled.batch, []⟩ := ⟨place₁, rfl⟩
        rw [Process.takenFrom_own seen handler rfl, Process.batchOf_self]
        cases source <;> rfl
      have others (j : ClientHandle) (other : j ≠ k) : polled.takenFrom j (.handle handler) = [] ∧
          process.givenTo j = polled.givenTo j := by
        refine ⟨Process.takenFrom_other handler rfl (Cell.sourceOf_ne (Ne.symm other) source), ?_⟩
        show (s₁.process.contexts.set k c₂)[j]?.elim _ _ = s₁.process.contexts[j]?.elim _ _
        rw [List.getElem?_set_ne (Ne.symm other)]
      have run₃ := run₂.step (@Step.serves ⟨polled, s₁.devices⟩ _ _ _ _ _ _ _ _ _ handles device₁ takes given
        others)
      refine ⟨_, _, gave ++ more, run₃, ?_, ?_, fun j other => ?_, ?_⟩
      · show process = _
        dsimp only [process]
        rw [process₁, List.set_set, idle]
      · rw [← List.append_assoc]
        exact Function.update_self ..
      · exact (Function.update_of_ne other _ _).trans (others₁ j other)
      · have was : polled.givenTo k = c₁.received := by
          rw [Process.givenTo, place₁]
          rfl
        have becomes : process.givenTo k = c₂.received := by
          have there : process.contexts[k]? = some c₂ :=
            List.getElem?_set_self (List.getElem?_eq_some_iff.mp place₁).1
          rw [Process.givenTo, there]
          rfl
        rw [← List.append_assoc, ← received, ← was, ← becomes, given]

end Lift

/-- The loop runs, and the apps only wait. -/
theorem run_waiting {t : List (Process × Process.Label)} {s : Process}
    (run : Process.machine.Run t s)
    (idle : ∀ p ∈ t, ∀ answers, p.2 = .handle answers → answers.event.socket.read = .ok []) :
    ∃ t', (machine ipv6Mode).Run t'
        ⟨s, fun k => { Device.start (ipv6Mode k) with down := s.givenTo k }⟩ ∧ loop t' = t := by
  induction run with
  | start starts =>
      cases starts
      exact ⟨[], .start ⟨rfl, fun _ => rfl⟩, rfl⟩
  | @step t s s' label run step ih =>
      obtain ⟨t', runs, loops⟩ := ih fun p mem => idle p (List.mem_append_left _ mem)
      choose gave given using Process.Step.gives (Process.run_sound run) step
      refine ⟨_, runs.step (.relay step given fun k => ?_), ?_⟩
      · rw [Process.takenFrom_idle (idle (s, label) (by simp))]
        exact ⟨rfl, rfl, rfl, given k⟩
      · simpa [loop] using loops

/-- Two apps connect, and read their ids. -/
theorem run_two : ∃ t s, (machine fun _ => .off).Run t s ∧ Process.accepts (loop t) = 2 ∧
    s.process = .two ∧ s.devices 0 = { Device.start .off with greeting := ⟨u32Bytes 0, some (.ok 0)⟩ } ∧
      (s.devices 1).greeting.result = some (.ok 1) := by
  obtain ⟨t, run, accepted, idle⟩ := Process.run_two
  obtain ⟨t', runs, loops⟩ := @run_waiting (fun _ => .off) t .two run idle
  have reads (d : Device) (id : UInt32) (waits : d.greeting = .start) (came : d.down = u32Bytes id) :
      d.Step (.greet ⟨.ok (u32Bytes id), .ok ()⟩)
        { d with greeting := ⟨u32Bytes id, some (.ok id)⟩, down := [] } := by
    have round : Greeting.start.round ⟨.ok (u32Bytes id), .ok ()⟩ = ⟨u32Bytes id, some (.ok id)⟩ := by
      show (⟨u32Bytes id, some (.ok (getU32 (u32Bytes id) 0))⟩ : Greeting) = _
      rw [getU32_u32Bytes]
    intro relay
    have step : Link.Step (d.link relay) (.greet ⟨.ok (u32Bytes id), .ok ()⟩)
        { d.link relay with
          greeting := d.greeting.round ⟨.ok (u32Bytes id), .ok ()⟩, down := [] } := by
      refine .greet (by rw [Device.link, waits]; rfl) (came.trans (List.append_nil _).symm) ?_
      rw [Device.link, waits, round]
      rfl
    rwa [waits, round] at step
  have first := runs.step (.device (k := 0) (reads _ 0 rfl rfl))
  have second := first.step (.device (k := 1) (reads _ 1 rfl rfl))
  refine ⟨_, _, second, ?_, rfl, rfl, rfl⟩
  rw [← loops] at accepted
  simpa [loop] using accepted

theorem run_link_two : ∃ t s, (machine fun _ => .off).Run t s ∧
    s.process.contexts[1]? = some (.identified 1) ∧
      ∃ (blocks : List (List (Link × Link.Label))) (released : List Source),
        (Link.machine .off).Run blocks.flatten ((s.devices 1).link
          ⟨.identified 1, Process.batchOf 1 s.process.batch, released⟩) ∧
          List.Forall₂ (fun p block => Block 1 p.2 block) t blocks := by
  obtain ⟨t, s, run, -, process, -, -⟩ := run_two
  have place : s.process.contexts[1]? = some (.identified 1) := by rw [process]; rfl
  exact ⟨t, s, run, place, run_link run place⟩

/-- Of two devices the first has the exchange, and all that its client is sent is written to its tun
device. -/
theorem run_exchange : ∃ t s c udp tcp, (machine fun _ => .off).Run t s ∧
    s.process.contexts[0]? = some c ∧ s.process.contexts[1]? = some (.identified 1) ∧ c.Exchanged udp tcp ∧
    (s.devices 1).greeting.result = some (.ok 1) ∧
    (s.devices 0).tunnel.written = c.client.appended.map .framed := by
  obtain ⟨t₀, s₀, run₀, -, process₀, first, second⟩ := run_two
  obtain ⟨c, udp, tcp, serves, exchanged⟩ := Relay.exchange
  have one : (1 : ClientHandle) ≠ 0 := by decide
  -- the app sends its packets
  obtain ⟨b₁, goes₁, idle₁, -, -, written₁⟩ :=
    @Tunnel.Idle.forwardsAll _ exchangePackets (Tunnel.idle_start .off) (by decide)
  obtain ⟨t₁, s₁, run₁, process₁, device₁, others₁⟩ :=
    @run_turns _ _ _ _ _ _ _ _ [] _ [] _ run₀ first rfl goes₁
  rw [process₀] at process₁
  -- its client exchanges
  obtain ⟨t₂, s₂, gave, run₂, process₂, device₂, others₂, received⟩ :=
    @run_serves _ _ 0 _ _ _ _ [] (.identified 0) c _ run₁ (by rw [process₁]; rfl) (by rw [process₁]; rfl)
      device₁ serves
  have place₂ : s₂.process.contexts[0]? = some c := by
    rw [process₂, process₁]
    rfl
  obtain ⟨blocks, released, runs, -⟩ := run_link run₂ place₂
  have relays := (Link.run_linked runs).relays
  have gave : gave = c.client.appended.flatten := Relay.gave_of_exchanged relays exchanged received
  -- the app writes what it was sent
  obtain ⟨b₃, goes₃, -, -, written₃⟩ := idle₁.receivesAll (Relay.fits_of_exchanged relays exchanged)
  rw [List.nil_append, gave, ← List.append_nil c.client.appended.flatten] at device₂
  obtain ⟨t₃, s₃, run₃, process₃, device₃, others₃⟩ := run_turns run₂ device₂ rfl goes₃
  refine ⟨t₃, s₃, c, udp, tcp, run₃, ?_, ?_, exchanged, ?_, ?_⟩
  · rw [process₃]
    exact place₂
  · rw [process₃, process₂, process₁]
    rfl
  · rw [others₃ 1 one, others₂ 1 one, others₁ 1 one]
    exact second
  · rw [device₃]
    exact written₃.trans (by rw [written₁]; rfl)

/-- In it a reply reaches the tun device, next to the segments of a TCP connection. -/
theorem run_ownReplies_exchange : ∃ t s c udp tcp, (machine fun _ => .off).Run t s ∧
    s.process.contexts[0]? = some c ∧ s.process.contexts[1]? = some (.identified 1) ∧
    c.created = [.udp udp, .tcp tcp] ∧
    (∃ raw ∈ (s.devices 0).tunnel.written.filterMap QueuedPacket.framed?, payloadOf udp.id raw = some [0x61]) ∧
    ∀ raw ∈ (s.devices 0).tunnel.written.filterMap QueuedPacket.framed?,
      ∃ asked ∈ (s.devices 0).tunnel.read, Tunnel.forwards .off asked = true ∧
        ∃ packet id, IpPacket.parse asked = .ok (.ok packet) ∧
          ConnectionId.fromPacket packet = some id ∧ IsReply id raw := by
  obtain ⟨t, s, c, udp, tcp, run, place, other, exchanged, -, written⟩ := run_exchange
  have framed : (s.devices 0).tunnel.written.filterMap QueuedPacket.framed? = c.client.appended := by
    rw [written, List.filterMap_map]
    exact List.filterMap_some
  have replied := exchanged.replied
  rw [← exchanged.udpId, ← framed] at replied
  exact ⟨t, s, c, udp, tcp, run, place, other, exchanged.created, List.mem_filterMap.mp replied,
    run_ownReplies run place (@Relay.unforged_of_exchanged ⟨c, [], []⟩ _ _ exchanged)⟩

theorem run_ids_two : ∃ t s, (machine fun _ => .off).Run t s ∧
    (s.devices 0).greeting.result = some (.ok 0) ∧ (s.devices 1).greeting.result = some (.ok 1) ∧
      (0 : UInt32) ≠ 1 := by
  obtain ⟨t, s, run, accepted, -, first, greeted'⟩ := run_two
  have greeted : (s.devices 0).greeting.result = some (.ok 0) := by rw [first]
  have zero : (0 : ClientHandle) ≠ 1 := by decide
  exact ⟨t, s, run, greeted, greeted', run_ids run (by omega) greeted greeted' zero⟩

end Devices

end ReverseTether
