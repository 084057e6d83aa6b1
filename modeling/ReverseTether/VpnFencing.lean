import ReverseTether.Library.History
import ReverseTether.VpnAbility

/-!
# The descriptors of the VPN ability

The descriptors that `createSocket` and `VpnConnection.create` return are counted against
those that are closed.  Until `onDestroy` the ability is on one course at a time: idle,
connected, in one promise or waiting for one retry (`Course`).  Behind it everything that was
suspended finds that it is stale, and only closes (`Destroyed`).  Both hold in every run,
whatever settles when (`VpnAbility.run_accounted`).

A descriptor that comes too late is the hard case.  `createSocket` and `create` may settle
after the generation has moved on, when the method that awaited them is not to use the result
any more; it closes what it was given.  `Task.isEstablish` tells the methods that are under
way, of which there is one at most, and before `onDestroy` a retry is due only while there is
none.

The counts are kept as lists of calls, in the history of the ability.  A descriptor can be
returned more than once, as the system may reuse its number, so the balance is one of
multiplicities: as often as it was returned it is held or was closed.
-/

namespace ReverseTether

open Library

/-! ## What is counted -/

/-- The descriptor that a call returned. -/
def Effect.issued : Effect → Option ℤ
  | .createSocket fd => fd
  | .created fd => some fd
  | _ => none

/-- The descriptor that a call closes. -/
def Effect.closed : Effect → Option ℤ
  | .close fd => some fd
  | _ => none

/-- Nothing is started behind `onDestroy`, and no other state is published. -/
def Effect.Late : Effect → Prop
  | .start _ _ _ _ => False
  | .publish state => state = .stopped
  | _ => True

/-- An effect obeys the ones before it.  The one fence is `onDestroy`: behind it nothing is
started, and no state but `stopped` is published. -/
def Fence (before : List Effect) (effect : Effect) : Prop := .onDestroy ∈ before → effect.Late

/-- `establish` has not returned. -/
def Task.isEstablish : Task → Bool
  | .protecting _ | .connecting _ | .creating _ => true
  | .destroying after | .cleaned after =>
      match after with
      | .stale | .failed _ _ => true
      | .onDestroy | .lost => false

namespace VpnAbility

/-- The descriptors that the system has returned, in their order. -/
def issued (s : VpnAbility) : List ℤ := s.effects.filterMap Effect.issued

/-- The descriptors that the ability has closed, in their order. -/
def closed (s : VpnAbility) : List ℤ := s.effects.filterMap Effect.closed

/-- The descriptors in the fields. -/
def held (s : VpnAbility) : List ℤ := [s.socketFd, s.tunFd].filter (0 ≤ ·)

/-- The descriptors, the methods and the calls of the ability are in order. -/
structure Accounted (s : VpnAbility) : Prop where
  /-- Every descriptor is held, or was closed: as often as it was returned. -/
  descriptors : ∀ fd, s.issued.count fd = s.closed.count fd + s.held.count fd
  establishes : s.tasks.countP Task.isEstablish ≤ 1
  retries : s.timeouts.length ≤ 1
  /-- Behind `onDestroy` nothing is started, and only `stopped` is published. -/
  fenced : Each Fence s.effects
  /-- Behind `onDestroy` nothing is held once everything has settled. -/
  settled : s.lifecycle = .destroyed → s.tasks = [] → s.socketFd = -1 ∧ s.tunFd = -1

/-! ## The ledger -/

/-- The part of the invariant that is about descriptors and calls.  A descriptor is issued once and
closed once, and until then it is held in one place. -/
structure Ledger (s : VpnAbility) : Prop where
  descriptors : ∀ fd, s.issued.count fd = s.closed.count fd + s.held.count fd
  fenced : Each Fence s.effects
  /-- The mark of `onDestroy` is not there before. -/
  unmarked : s.lifecycle ≠ .destroyed → Effect.onDestroy ∉ s.effects
  socket : s.socketFd = -1 ∨ 0 ≤ s.socketFd
  tun : s.tunFd = -1 ∨ 0 ≤ s.tunFd

section Ledger

variable {s s' : VpnAbility}

/-- How often a field holds a descriptor. -/
def holds (field fd : ℤ) : ℕ := if 0 ≤ field ∧ field = fd then 1 else 0

/-- A descriptor is counted for each of the two fields that hold it. -/
theorem count_held (s : VpnAbility) (fd : ℤ) :
    s.held.count fd = holds s.socketFd fd + holds s.tunFd fd := by
  have single (field : ℤ) : ([field].filter (0 ≤ ·)).count fd = holds field fd := by
    unfold holds
    by_cases nonneg : 0 ≤ field
    · rw [List.filter_cons_of_pos (by simpa using nonneg)]
      by_cases same : field = fd
      · subst same
        simp [nonneg]
      · simp [same]
    · rw [List.filter_cons_of_neg (by simpa using nonneg)]
      simp [nonneg]
  have split : s.held = [s.socketFd].filter (0 ≤ ·) ++ [s.tunFd].filter (0 ≤ ·) := by
    rw [← List.filter_append]
    rfl
  rw [split, List.count_append, single, single]

/-- A field that is `-1` holds no descriptor. -/
theorem holds_of_neg {field fd : ℤ} (negative : field = -1) : holds field fd = 0 := by
  rw [holds, if_neg]
  rintro ⟨nonneg, -⟩
  omega

/-- A field that is not negative holds the descriptor that it is. -/
theorem holds_of_nonneg {field fd : ℤ} (nonneg : 0 ≤ field) :
    holds field fd = [field].count fd := by
  rw [holds, List.count_singleton]
  by_cases same : field = fd
  · rw [if_pos ⟨nonneg, same⟩, if_pos (by simpa using same)]
  · rw [if_neg (fun h => same h.2), if_neg (by simpa using same)]

/-- Other fields do not matter. -/
theorem Ledger.congr (ledger : s.Ledger) (effects : s'.effects = s.effects)
    (socket : s'.socketFd = s.socketFd) (tun : s'.tunFd = s.tunFd)
    (lifecycle : s'.lifecycle = s.lifecycle) : s'.Ledger := by
  refine ⟨fun fd => ?_, ?_, ?_, ?_, ?_⟩
  · rw [issued, closed, count_held, effects, socket, tun, ← count_held]
    exact ledger.descriptors fd
  · rw [effects]
    exact ledger.fenced
  · rw [effects, lifecycle]
    exact ledger.unmarked
  · rw [socket]
    exact ledger.socket
  · rw [tun]
    exact ledger.tun

/-- A call is recorded, and the fields are what it leaves. -/
theorem Ledger.record (ledger : s.Ledger) {effect : Effect} (effects : s'.effects = s.effects ++ [effect])
    (lifecycle : s'.lifecycle = s.lifecycle)
    (balance : ∀ fd, effect.issued.toList.count fd + (holds s.socketFd fd + holds s.tunFd fd) =
      effect.closed.toList.count fd + (holds s'.socketFd fd + holds s'.tunFd fd))
    (socket : s'.socketFd = -1 ∨ 0 ≤ s'.socketFd) (tun : s'.tunFd = -1 ∨ 0 ≤ s'.tunFd)
    (late : s.lifecycle = .destroyed → effect.Late) (mark : effect ≠ .onDestroy) : s'.Ledger := by
  refine ⟨fun fd => ?_, ?_, ?_, socket, tun⟩
  · have before := ledger.descriptors fd
    have moved := balance fd
    have grown (f : Effect → Option ℤ) : (s'.effects.filterMap f).count fd =
        (s.effects.filterMap f).count fd + (f effect).toList.count fd := by
      rw [effects, List.filterMap_append, List.count_append]
      cases found : f effect with
      | none => simp [found]
      | some value => simp [found]
    rw [issued, closed, grown, grown, count_held]
    rw [issued, closed, count_held] at before
    omega
  · rw [effects, each_append]
    refine ⟨ledger.fenced, fun marked => late ?_⟩
    by_contra alive
    exact ledger.unmarked alive marked
  · rw [effects, lifecycle]
    intro alive marked
    rcases List.mem_append.mp marked with before | last
    · exact ledger.unmarked alive before
    · exact mark (List.mem_singleton.mp last).symm

/-- A call that is about no descriptor. -/
theorem Ledger.call (ledger : s.Ledger) {effect : Effect} (nothing : effect.issued = none)
    (keeps : effect.closed = none) (late : s.lifecycle = .destroyed → effect.Late)
    (mark : effect ≠ .onDestroy) : (s.record effect).Ledger := by
  refine @Ledger.record s _ ledger effect rfl rfl (fun fd => ?_) ledger.socket ledger.tun late mark
  rw [nothing, keeps]
  rfl

/-- `publish` touches the state alone. -/
theorem publish_ok (s : VpnAbility) (status : Status) (message : String) :
    ∃ state effects, s.publish status message = { s with state, effects } ∧
      (state.state = status ∨ state.state = s.state.state) := by
  unfold publish
  split
  · exact ⟨s.state, s.effects, rfl, .inr rfl⟩
  · exact ⟨_, _, rfl, .inl rfl⟩

/-- A state that is published is no call about descriptors; behind `onDestroy` the only one is
`stopped`. -/
theorem Ledger.publish (ledger : s.Ledger) {status : Status} {message : String}
    (late : s.lifecycle = .destroyed → status = .stopped) : (s.publish status message).Ledger := by
  unfold VpnAbility.publish
  split
  · exact ledger
  · have named : ({ s with state := { s.state with state := status, message } } :
        VpnAbility).Ledger := ledger.congr rfl rfl rfl rfl
    exact @Ledger.call _ named (.publish status) rfl rfl late nofun

/-- The socket is closed if there is one, and its field is free again, in balance. -/
theorem Ledger.closeSocket (ledger : s.Ledger) :
    s.closeSocket.Ledger ∧ ∃ effects, s.closeSocket = { s with socketFd := -1, effects } := by
  unfold VpnAbility.closeSocket
  split
  · rename_i nonneg
    refine ⟨?_, _, rfl⟩
    refine @Ledger.record s _ ledger (.close s.socketFd) rfl rfl (fun fd => ?_) (.inl rfl) ledger.tun
      (fun _ => trivial) nofun
    show 0 + (holds s.socketFd fd + holds s.tunFd fd) =
      [s.socketFd].count fd + (holds (-1) fd + holds s.tunFd fd)
    rw [holds_of_nonneg nonneg, holds_of_neg rfl]
    omega
  · rename_i negative
    have empty : s.socketFd = -1 := ledger.socket.resolve_right negative
    refine ⟨ledger, s.effects, ?_⟩
    rw [← empty]

/-- `cleanup` leaves no tun device; the socket is closed at once, or behind `destroy`. -/
theorem Ledger.cleanup (ledger : s.Ledger) (after : AfterCleanup) :
    (s.cleanup after).Ledger ∧ ∃ socketFd effects task,
      s.cleanup after =
        { s with socketFd, tunFd := -1, effects, tasks := s.tasks ++ [task] } ∧
      (task = .destroying after ∨ task = .cleaned after ∧ socketFd = -1) := by
  have stopped : (s.record (.stop s.session)).Ledger :=
    ledger.call rfl rfl (fun _ => trivial) nofun
  unfold VpnAbility.cleanup
  simp only
  split
  · have nonneg : 0 ≤ s.tunFd := ‹_›
    have closed : ({ s.record (.stop s.session) with tunFd := -1 }.record
        (.close s.tunFd)).Ledger := by
      refine @Ledger.record _ _ stopped (.close s.tunFd) rfl rfl (fun fd => ?_) ledger.socket
        (.inl rfl) (fun _ => trivial) nofun
      show 0 + (holds s.socketFd fd + holds s.tunFd fd) =
        [s.tunFd].count fd + (holds s.socketFd fd + holds (-1) fd)
      rw [holds_of_nonneg nonneg, holds_of_neg rfl]
      omega
    have destroys := @Ledger.call _ closed .destroy rfl rfl (fun _ => trivial) nofun
    refine ⟨destroys.congr rfl rfl rfl rfl, ?_⟩
    exact ⟨s.socketFd, _, .destroying after, rfl, .inl rfl⟩
  · rename_i negative
    have empty : s.tunFd = -1 := ledger.tun.resolve_right negative
    obtain ⟨closed, effects, same⟩ := stopped.closeSocket
    refine ⟨closed.congr rfl rfl rfl rfl, -1, effects, .cleaned after, ?_, .inr ⟨rfl, rfl⟩⟩
    rw [same, suspend, ← empty]
    rfl

end Ledger

/-! ## Before `onDestroy` -/

/-- What the ability is at, while it is alive: what is suspended, which timer runs and which
descriptors are held, in each of the courses it can take. -/
inductive Course (s : VpnAbility) : Prop
  /-- It was not started, or was refused. -/
  | idle : s.tasks = [] → s.timeouts = [] → s.socketFd = -1 → s.tunFd = -1 →
      s.state.state ≠ .connected → Course s
  | connected : s.tasks = [] → s.timeouts = [] → Course s
  /-- A retry is due. -/
  | waiting {id delay : ℕ} : s.tasks = [] → s.timeouts = [(id, delay)] → s.retryTimer = id →
      s.socketFd = -1 → s.tunFd = -1 → s.state.state ≠ .connected → Course s
  /-- One method is suspended; with nothing held where `cleanup` has returned. -/
  | suspended {task : Task} : s.tasks = [task] → s.timeouts = [] → s.tunFd = -1 →
      (∀ after, task = .cleaned after → s.socketFd = -1) → s.state.state ≠ .connected → Course s

/-- What holds between `onCreate` and `onDestroy`, at every point at which a method is suspended.
-/
structure Alive (s : VpnAbility) : Prop where
  ledger : s.Ledger
  running : s.lifecycle = .running
  course : s.Course

/-- No method is suspended, and no retry is due: the ability is about to start one. -/
structure Bare (s : VpnAbility) : Prop where
  ledger : s.Ledger
  running : s.lifecycle = .running
  tasks : s.tasks = []
  timeouts : s.timeouts = []
  state : s.state.state ≠ .connected

section Alive

variable {s : VpnAbility}

/-- A bare ability may publish any state but `connected`, and stays bare. -/
theorem Bare.publish (bare : s.Bare) {status : Status} {message : String}
    (other : status ≠ .connected) : (s.publish status message).Bare := by
  have ledger : (s.publish status message).Ledger :=
    bare.ledger.publish fun destroyed => nomatch bare.running.symm.trans destroyed
  obtain ⟨state, effects, same, which⟩ := publish_ok s status message
  rw [same] at ledger ⊢
  refine ⟨ledger, bare.running, bare.tasks, bare.timeouts, ?_⟩
  rcases which with new | old
  · exact new ▸ other
  · exact old ▸ bare.state

/-- An ability with nothing suspended and no descriptor is idle. -/
theorem Bare.idle (bare : s.Bare) (socket : s.socketFd = -1) (tun : s.tunFd = -1) : s.Alive :=
  ⟨bare.ledger, bare.running, .idle bare.tasks bare.timeouts socket tun bare.state⟩

/-- The ability gives up. -/
theorem Bare.refuse (bare : s.Bare) (socket : s.socketFd = -1) (tun : s.tunFd = -1)
    (message : String) : (s.publish .error message).Alive := by
  have published := @Bare.publish s bare .error message nofun
  obtain ⟨state, effects, same, -⟩ := publish_ok s .error message
  rw [same] at published ⊢
  exact published.idle socket tun

/-- A call that neither returns nor closes a descriptor leaves the ability bare. -/
theorem Bare.call (bare : s.Bare) {effect : Effect} (nothing : effect.issued = none)
    (keeps : effect.closed = none) (mark : effect ≠ .onDestroy) : (s.record effect).Bare :=
  ⟨bare.ledger.call nothing keeps (fun destroyed => nomatch bare.running.symm.trans destroyed) mark,
    bare.running, bare.tasks, bare.timeouts, bare.state⟩

/-- A promise is awaited. -/
theorem Bare.suspend (bare : s.Bare) (tun : s.tunFd = -1) {task : Task}
    (promise : ∀ after, task = .cleaned after → s.socketFd = -1) : (s.suspend task).Alive := by
  refine ⟨bare.ledger.congr rfl rfl rfl rfl, bare.running, ?_⟩
  refine @Course.suspended _ task ?_ bare.timeouts tun promise bare.state
  show s.tasks ++ [task] = [task]
  rw [bare.tasks, List.nil_append]

/-- To clean up is to be suspended in `destroy`, with the socket still held. -/
theorem Bare.cleanup (bare : s.Bare) (after : AfterCleanup) : (s.cleanup after).Alive := by
  obtain ⟨ledger, socketFd, effects, task, same, which⟩ := bare.ledger.cleanup after
  rw [same] at ledger ⊢
  refine ⟨ledger, bare.running, @Course.suspended _ task ?_ bare.timeouts rfl ?_ bare.state⟩
  · show s.tasks ++ [task] = [task]
    rw [bare.tasks, List.nil_append]
  · intro after' cleaned
    rcases which with rfl | ⟨-, closed⟩
    · cases cleaned
    · exact closed

/-- To establish begins with a socket, and is suspended in `protect` if there is one. -/
theorem Bare.establish (bare : s.Bare) (socket : s.socketFd = -1) (tun : s.tunFd = -1)
    {generation : ℕ} {answer : Except JsError ℕ} : (s.establish generation answer).Alive := by
  unfold VpnAbility.establish
  split
  · exact bare.idle socket tun
  · have published : (s.publish .connecting "正在连接…").Bare := bare.publish nofun
    obtain ⟨state, effects, same, -⟩ := publish_ok s .connecting "正在连接…"
    simp only
    rw [same] at published ⊢
    cases answer with
    | error err =>
        exact (@Bare.call _ published (.createSocket none) rfl rfl nofun).cleanup _
    | ok fd =>
        simp only
        have made : ({ s with state, effects, socketFd := (fd : ℤ) }.record
            (.createSocket (some (fd : ℤ)))).Ledger := by
          refine @Ledger.record _ _ published.ledger (.createSocket (some (fd : ℤ))) rfl rfl
            (fun other => ?_) (.inr (Int.natCast_nonneg fd)) (.inl tun)
            (fun destroyed => nomatch bare.running.symm.trans destroyed) nofun
          show [(fd : ℤ)].count other + (holds s.socketFd other + holds s.tunFd other) =
            0 + (holds (fd : ℤ) other + holds s.tunFd other)
          rw [holds_of_neg socket, holds_of_nonneg (Int.natCast_nonneg fd)]
          omega
        have bare' : ({ s with state, effects, socketFd := (fd : ℤ) }.record
            (.createSocket (some (fd : ℤ)))).Bare :=
          ⟨made, bare.running, bare.tasks, bare.timeouts, published.state⟩
        exact (@Bare.call _ bare' (.protect fd) rfl rfl nofun).suspend tun nofun

/-- A retry is one timer, and it is due at a time at which nothing else is suspended. -/
theorem Bare.scheduleRetry (bare : s.Bare) (socket : s.socketFd = -1) (tun : s.tunFd = -1) (id : ℕ) :
    (s.scheduleRetry id).Alive := by
  unfold VpnAbility.scheduleRetry
  split
  · exact bare.idle socket tun
  · simp only
    let counted : VpnAbility := { s with
      state := { s.state with reconnects := s.state.reconnects + 1 }
      attempts := s.attempts + 1 }
    have bare' : counted.Bare :=
      ⟨bare.ledger.congr rfl rfl rfl rfl, bare.running, bare.tasks, bare.timeouts, bare.state⟩
    have published : (counted.publish .reconnecting "USB 网络已断开，正在自动重连…").Bare :=
      bare'.publish nofun
    obtain ⟨state, effects, same, -⟩ :=
      publish_ok counted .reconnecting "USB 网络已断开，正在自动重连…"
    change Alive { counted.publish .reconnecting "USB 网络已断开，正在自动重连…" with
      retryTimer := id
      timeouts := (counted.publish .reconnecting "USB 网络已断开，正在自动重连…").timeouts ++ [_] }
    rw [same] at published ⊢
    refine ⟨published.ledger.congr rfl rfl rfl rfl, bare.running, ?_⟩
    have one (timer : ℕ × ℕ) : s.timeouts ++ [timer] = [timer] := by
      rw [bare.timeouts, List.nil_append]
    exact .waiting bare.tasks (one _) rfl socket tun published.state

/-- A suspended method goes on, and nothing else does. -/
theorem Alive.take (alive : s.Alive) {before rest : List Task} {task : Task}
    (h : s.tasks = before ++ task :: rest) :
    ({ s with tasks := before ++ rest } : VpnAbility).Bare ∧ s.tunFd = -1 ∧
      ∀ after, task = .cleaned after → s.socketFd = -1 := by
  obtain ⟨ledger, running, course⟩ := alive
  have nonempty : s.tasks ≠ [] := by
    rw [h]
    exact List.append_ne_nil_of_right_ne_nil _ (List.cons_ne_nil _ _)
  cases course with
  | idle none _ _ _ _ => exact absurd none nonempty
  | connected none _ => exact absurd none nonempty
  | waiting none _ _ _ _ _ => exact absurd none nonempty
  | @suspended task' one timeouts tun promise state =>
      have single := one.symm.trans h
      obtain ⟨rfl, rfl, rfl⟩ : before = [] ∧ task' = task ∧ rest = [] := by
        cases before with
        | nil =>
            cases single
            exact ⟨rfl, rfl, rfl⟩
        | cons first others =>
            have lengths := congrArg List.length single
            simp at lengths
      exact ⟨⟨ledger.congr rfl rfl rfl rfl, running, rfl, timeouts, state⟩, tun, promise⟩

/-- The timer of a retry fires. -/
theorem Alive.fire (alive : s.Alive) {before rest : List (ℕ × ℕ)} {timer : ℕ × ℕ}
    (h : s.timeouts = before ++ timer :: rest) :
    ({ s with timeouts := before ++ rest } : VpnAbility).Bare ∧ s.socketFd = -1 ∧ s.tunFd = -1 := by
  obtain ⟨ledger, running, course⟩ := alive
  have nonempty : s.timeouts ≠ [] := by
    rw [h]
    exact List.append_ne_nil_of_right_ne_nil _ (List.cons_ne_nil _ _)
  cases course with
  | idle _ none _ _ _ => exact absurd none nonempty
  | connected _ none => exact absurd none nonempty
  | suspended _ none _ _ _ => exact absurd none nonempty
  | waiting tasks one _ socket tun state =>
      have single := one.symm.trans h
      obtain ⟨rfl, rfl⟩ : before = [] ∧ rest = [] := by
        cases before with
        | nil =>
            cases single
            exact ⟨rfl, rfl⟩
        | cons first others =>
            have lengths := congrArg List.length single
            simp at lengths
      exact ⟨⟨ledger.congr rfl rfl rfl rfl, running, tasks, rfl, state⟩, socket, tun⟩

/-- When `protect` has settled, the connect is awaited, or everything is cleaned up. -/
theorem Bare.protect (bare : s.Bare) (tun : s.tunFd = -1) {generation : ℕ}
    {answer : Except JsError Unit} : (s.protect generation answer).Alive := by
  cases answer with
  | error err => exact bare.cleanup _
  | ok _ =>
      unfold VpnAbility.protect
      simp only
      split
      · exact bare.cleanup _
      · exact (@Bare.call _ bare (.connect s.socketFd s.port) rfl rfl nofun).suspend tun nofun

/-- When the connect has settled, the interface is awaited, or everything is cleaned up. -/
theorem Bare.connect (bare : s.Bare) (tun : s.tunFd = -1) {generation : ℕ}
    {answer : Except JsError Unit} : (s.connect generation answer).Alive := by
  cases answer with
  | error err => exact bare.cleanup _
  | ok _ =>
      unfold VpnAbility.connect
      simp only
      split
      · exact bare.cleanup _
      · exact (@Bare.call _ bare (.create (vpnConfig s.ipv6Mode s.dnsAddress)) rfl rfl nofun).suspend
          tun nofun

/-- The tun device is held as soon as it is there. -/
theorem Ledger.created (ledger : s.Ledger) (tun : s.tunFd = -1) (fd : ℕ) :
    ({ s with tunFd := (fd : ℤ) }.record (.created fd)).Ledger := by
  refine @Ledger.record s _ ledger (.created fd) rfl rfl (fun other => ?_) ledger.socket
    (.inr (Int.natCast_nonneg fd)) (fun _ => trivial) nofun
  show [(fd : ℤ)].count other + (holds s.socketFd other + holds s.tunFd other) =
    0 + (holds s.socketFd other + holds (fd : ℤ) other)
  rw [holds_of_neg tun, holds_of_nonneg (Int.natCast_nonneg fd)]
  omega

/-- When the interface is there, the native tunnel is started on both descriptors, or everything is
cleaned up. -/
theorem Bare.create (bare : s.Bare) (tun : s.tunFd = -1) {generation : ℕ}
    {answer : Except JsError ℕ} {started : Except JsError Unit} :
    (s.create generation answer started).Alive := by
  cases answer with
  | error err => exact bare.cleanup _
  | ok fd =>
      have made : ({ s with tunFd := (fd : ℤ) }.record (.created fd)).Bare :=
        ⟨bare.ledger.created tun fd, bare.running, bare.tasks, bare.timeouts, bare.state⟩
      unfold VpnAbility.create
      simp only
      split
      · exact made.cleanup _
      · have starts := @Bare.call _ made (.start fd s.socketFd s.session s.ipv6Mode) rfl rfl nofun
        split
        · exact starts.cleanup _
        · cases started with
          | error err => exact starts.cleanup _
          | ok _ =>
              simp only
              set running : VpnAbility := { ({ s with tunFd := (fd : ℤ) }.record
                (.created fd)).record (.start fd s.socketFd s.session s.ipv6Mode) with
                  attempts := 0 } with hrunning
              have ledger : running.Ledger := starts.ledger.congr rfl rfl rfl rfl
              have published : (running.publish .connected "已连接 · 正在通过 USB 共享网络").Ledger :=
                ledger.publish fun destroyed => nomatch bare.running.symm.trans destroyed
              obtain ⟨state, effects, same, -⟩ :=
                publish_ok running .connected "已连接 · 正在通过 USB 共享网络"
              show Alive (running.publish .connected "已连接 · 正在通过 USB 共享网络")
              rw [same] at published ⊢
              exact ⟨published, bare.running, .connected bare.tasks bare.timeouts⟩

/-- When `destroy` has settled, the socket is closed, and the caller of `cleanup` goes on. -/
theorem Bare.destroy (bare : s.Bare) (tun : s.tunFd = -1) (after : AfterCleanup) :
    (s.destroy after).Alive := by
  obtain ⟨ledger, effects, same⟩ := bare.ledger.closeSocket
  unfold VpnAbility.destroy
  rw [same] at ledger ⊢
  have closed : ({ s with socketFd := -1, effects } : VpnAbility).Bare :=
    ⟨ledger, bare.running, bare.tasks, bare.timeouts, bare.state⟩
  exact closed.suspend tun fun _ _ => rfl

/-- Who has awaited the cleanup goes on with a retry, or not at all. -/
theorem Bare.resume (bare : s.Bare) (socket : s.socketFd = -1) (tun : s.tunFd = -1)
    (after : AfterCleanup) (id : ℕ) : (s.resume after id).Alive := by
  cases after with
  | onDestroy => exact bare.idle socket tun
  | stale => exact bare.idle socket tun
  | lost => exact bare.scheduleRetry socket tun id
  | failed generation err =>
      unfold VpnAbility.resume
      simp only
      split
      · exact bare.idle socket tun
      · split
        · exact bare.refuse socket tun _
        · exact bare.scheduleRetry socket tun id

/-- A retry that is due establishes the tunnel again, under the generation of the moment. -/
theorem Bare.retry (bare : s.Bare) (socket : s.socketFd = -1) (tun : s.tunFd = -1)
    {answer : Except JsError ℕ} : (s.retry answer).Alive := by
  have next : ({ s with retryTimer := -1, generation := s.generation + 1 } : VpnAbility).Bare :=
    ⟨bare.ledger.congr rfl rfl rfl rfl, bare.running, bare.tasks, bare.timeouts, bare.state⟩
  exact next.establish socket tun

/-- The state is published again. -/
theorem Alive.publish (alive : s.Alive) (message : String) :
    (s.publish s.state.state message).Alive := by
  have ledger : (s.publish s.state.state message).Ledger :=
    alive.ledger.publish fun destroyed => nomatch alive.running.symm.trans destroyed
  obtain ⟨state, effects, same, which⟩ := publish_ok s s.state.state message
  have kept : state.state = s.state.state := which.elim id id
  rw [same] at ledger ⊢
  refine ⟨ledger, alive.running, ?_⟩
  cases alive.course with
  | idle tasks timeouts socket tun other =>
      exact .idle tasks timeouts socket tun (kept ▸ other)
  | connected tasks timeouts => exact .connected tasks timeouts
  | waiting tasks timeouts timer socket tun other =>
      exact .waiting tasks timeouts timer socket tun (kept ▸ other)
  | suspended tasks timeouts tun promise other =>
      exact .suspended tasks timeouts tun promise (kept ▸ other)

/-- A tick that finds the tunnel lost cleans up, and any other one publishes the state. -/
theorem Alive.tick (alive : s.Alive) (stats : TunnelStats) : (s.tick stats).Alive := by
  unfold VpnAbility.tick
  split
  · exact alive
  · split
    · rename_i connected
      split
      · exact alive
      · rename_i current
        obtain ⟨tasks, timeouts⟩ : s.tasks = [] ∧ s.timeouts = [] := by
          cases alive.course with
          | idle _ _ _ _ other => exact absurd connected other
          | connected tasks timeouts => exact ⟨tasks, timeouts⟩
          | waiting _ _ _ _ _ other => exact absurd connected other
          | suspended _ _ _ _ other => exact absurd connected other
        simp only
        set counted : VpnAbility := { s with
          state := { s.state with txBytes := stats.txBytes, rxBytes := stats.rxBytes } } with hcounted
        have ledger : counted.Ledger := alive.ledger.congr rfl rfl rfl rfl
        split
        · exact Alive.publish ⟨ledger, alive.running, .connected tasks timeouts⟩ _
        · have published : (counted.publish .reconnecting "连接已中断，正在恢复…").Ledger :=
            ledger.publish fun destroyed => nomatch alive.running.symm.trans destroyed
          have said : counted.publish .reconnecting "连接已中断，正在恢复…" =
              { counted with
                state := { counted.state with
                  state := .reconnecting, message := "连接已中断，正在恢复…" } }.record
                (.publish .reconnecting) := if_neg fun stale => current stale.2
          rw [said] at published ⊢
          exact Bare.cleanup ⟨published, alive.running, tasks, timeouts, nofun⟩ _
    · exact alive.publish _

end Alive

/-! ## Behind `onDestroy` -/

/-- The ability is destroyed: what is still suspended can only close what it holds, and nothing is
started again. -/
structure Destroyed (s : VpnAbility) : Prop where
  ledger : s.Ledger
  destroyed : s.lifecycle = .destroyed
  stopped : s.stopped = true
  timeouts : s.timeouts = []
  tun : s.tunFd = -1
  /-- The socket is closed behind `destroy`. -/
  socket : s.socketFd = -1 ∨ ∃ after, .destroying after ∈ s.tasks
  establishes : s.tasks.countP Task.isEstablish ≤ 1

/-- A method that is suspended goes on after the ability was destroyed, while its task is already
out of the list. -/
structure Leaving (s : VpnAbility) (establishes : Bool) : Prop where
  ledger : s.Ledger
  destroyed : s.lifecycle = .destroyed
  stopped : s.stopped = true
  timeouts : s.timeouts = []
  count : s.tasks.countP Task.isEstablish + establishes.toNat ≤ 1

section Destroyed

variable {s : VpnAbility}

/-- One task that was suspended goes on, and the others stay suspended. -/
theorem Destroyed.take (gone : s.Destroyed) {before rest : List Task} {task : Task}
    (h : s.tasks = before ++ task :: rest) :
    ({ s with tasks := before ++ rest } : VpnAbility).Leaving task.isEstablish := by
  refine ⟨gone.ledger.congr rfl rfl rfl rfl, gone.destroyed, gone.stopped, gone.timeouts, ?_⟩
  have count := gone.establishes
  rw [h, List.countP_append, List.countP_cons] at count
  show (before ++ rest).countP Task.isEstablish + task.isEstablish.toNat ≤ 1
  rw [List.countP_append]
  cases establishes : task.isEstablish with
  | false => simpa [establishes] using count
  | true =>
      rw [establishes] at count
      simp only [if_true, Bool.toNat_true] at count ⊢
      omega

/-- Behind `onDestroy` a cleanup is one more task that only closes. -/
theorem Leaving.cleanup {establishes : Bool} (leaving : s.Leaving establishes)
    {after : AfterCleanup} (same : (Task.cleaned after).isEstablish = establishes) :
    (s.cleanup after).Destroyed := by
  obtain ⟨ledger, socketFd, effects, task, eq, which⟩ := leaving.ledger.cleanup after
  rw [eq] at ledger ⊢
  have kind : task.isEstablish = establishes := by
    rcases which with rfl | ⟨rfl, -⟩
    · exact same
    · exact same
  refine ⟨ledger, leaving.destroyed, leaving.stopped, leaving.timeouts, rfl, ?_, ?_⟩
  · rcases which with rfl | ⟨-, closed⟩
    · exact .inr ⟨after, List.mem_append_right _ List.mem_cons_self⟩
    · exact .inl closed
  · show (s.tasks ++ [task]).countP Task.isEstablish ≤ 1
    have count := leaving.count
    rw [List.countP_append, List.countP_singleton, kind]
    cases establishes with
    | false => simpa using count
    | true => simpa using count

/-- Behind `onDestroy` every generation is stale. -/
theorem Leaving.stale {establishes : Bool} (leaving : s.Leaving establishes) (generation : ℕ) :
    s.IsStale generation := .inl leaving.stopped

/-- A `protect` that settles behind `onDestroy` leads to a cleanup and to nothing else. -/
theorem Leaving.protect (leaving : s.Leaving true) (generation : ℕ) (answer : Except JsError Unit) :
    (s.protect generation answer).Destroyed := by
  cases answer with
  | error err => exact leaving.cleanup rfl
  | ok _ =>
      unfold VpnAbility.protect
      simp only [if_pos (leaving.stale generation)]
      exact leaving.cleanup rfl

/-- A connect that settles behind `onDestroy` leads to a cleanup and to nothing else. -/
theorem Leaving.connect (leaving : s.Leaving true) (generation : ℕ) (answer : Except JsError Unit) :
    (s.connect generation answer).Destroyed := by
  cases answer with
  | error err => exact leaving.cleanup rfl
  | ok _ =>
      unfold VpnAbility.connect
      simp only [if_pos (leaving.stale generation)]
      exact leaving.cleanup rfl

/-- A tun device that comes late is closed at once. -/
theorem Leaving.create (leaving : s.Leaving true) (tun : s.tunFd = -1) (generation : ℕ)
    (answer : Except JsError ℕ) (started : Except JsError Unit) :
    (s.create generation answer started).Destroyed := by
  cases answer with
  | error err => exact leaving.cleanup rfl
  | ok fd =>
      have made : ({ s with tunFd := (fd : ℤ) }.record (.created fd)).Leaving true :=
        ⟨leaving.ledger.created tun fd, leaving.destroyed, leaving.stopped, leaving.timeouts,
          leaving.count⟩
      unfold VpnAbility.create
      simp only [if_pos (made.stale generation)]
      exact made.cleanup rfl

/-- When `destroy` settles behind `onDestroy`, what is left is closed. -/
theorem Leaving.destroy {establishes : Bool} (leaving : s.Leaving establishes)
    (tun : s.tunFd = -1) {after : AfterCleanup}
    (same : (Task.destroying after).isEstablish = establishes) : (s.destroy after).Destroyed := by
  obtain ⟨ledger, effects, eq⟩ := leaving.ledger.closeSocket
  unfold VpnAbility.destroy
  rw [eq] at ledger ⊢
  refine ⟨ledger.congr rfl rfl rfl rfl, leaving.destroyed, leaving.stopped, leaving.timeouts, tun,
    .inl rfl, ?_⟩
  show (s.tasks ++ [Task.cleaned after]).countP Task.isEstablish ≤ 1
  have kind : (Task.cleaned after).isEstablish = establishes := same
  have count := leaving.count
  rw [List.countP_append, List.countP_singleton, kind]
  cases establishes with
  | false => simpa using count
  | true => simpa using count

/-- The ability is destroyed, whatever it was at. -/
theorem Alive.onDestroy (alive : s.Alive) : s.onDestroy.Destroyed := by
  have timeouts : (if 0 ≤ s.retryTimer then
      s.timeouts.filter (fun t => (t.1 : ℤ) ≠ s.retryTimer) else s.timeouts) = [] := by
    cases alive.course with
    | idle _ none _ _ _ => simp [none]
    | connected _ none => simp [none]
    | suspended _ none _ _ _ => simp [none]
    | waiting _ one timer _ _ _ => simp [one, timer]
  have tasks : s.tasks.countP Task.isEstablish ≤ 1 := by
    cases alive.course with
    | idle none _ _ _ _ => simp [none]
    | connected none _ => simp [none]
    | waiting none _ _ _ _ _ => simp [none]
    | @suspended task one _ _ _ _ =>
        rw [one, List.countP_singleton]
        split <;> omega
  unfold VpnAbility.onDestroy
  simp only
  rw [timeouts]
  set gone : VpnAbility := { s with
    stopped := true
    generation := s.generation + 1
    lifecycle := .destroyed
    intervals := if 0 ≤ s.timer then s.intervals.filter (fun id => (id : ℤ) ≠ s.timer)
      else s.intervals
    timeouts := [] } with hgone
  have ledger := alive.ledger
  have marked : (gone.record .onDestroy).Ledger := by
    refine ⟨fun fd => ?_, ?_, fun alive => absurd rfl alive, ledger.socket, ledger.tun⟩
    · have same (f : Effect → Option ℤ) (none : f .onDestroy = none) :
          (s.effects ++ [Effect.onDestroy]).filterMap f = s.effects.filterMap f := by
        rw [List.filterMap_append]
        simp [none]
      show ((s.effects ++ [Effect.onDestroy]).filterMap Effect.issued).count fd =
        ((s.effects ++ [Effect.onDestroy]).filterMap Effect.closed).count fd + s.held.count fd
      rw [same _ rfl, same _ rfl]
      exact ledger.descriptors fd
    · exact each_append.mpr ⟨ledger.fenced, fun _ => trivial⟩
  have published : ((gone.record .onDestroy).publish .stopped "已断开").Ledger :=
    marked.publish fun _ => rfl
  obtain ⟨state, effects, same, -⟩ := publish_ok (gone.record .onDestroy) .stopped "已断开"
  rw [same] at published ⊢
  exact @Leaving.cleanup _ false ⟨published, rfl, rfl, rfl, tasks⟩ .onDestroy rfl

end Destroyed

/-! ## Every run -/

/-- A launch begins with the connection to the VPN service, and establishes the tunnel if that is
granted. -/
theorem Bare.launch {s : VpnAbility} (bare : s.Bare) (socket : s.socketFd = -1)
    (tun : s.tunFd = -1) (creation : Creation) : (s.launch creation).Alive := by
  set started : VpnAbility := { s with
    stopped := false
    timer := creation.interval
    intervals := s.intervals ++ [creation.interval] } with hstarted
  have bare' : started.Bare :=
    ⟨bare.ledger.congr rfl rfl rfl rfl, bare.running, bare.tasks, bare.timeouts, bare.state⟩
  have asked := @Bare.call _ bare' .createVpnConnection rfl rfl nofun
  unfold VpnAbility.launch
  simp only
  cases creation.connection with
  | error err => exact asked.refuse socket tun _
  | ok _ =>
      simp only
      let current : VpnAbility := { started.record .createVpnConnection with
        connection := true
        session := newSession s.currentSession
        currentSession := newSession s.currentSession
        generation := s.generation + 1 }
      have bare'' : current.Bare := ⟨asked.ledger.congr rfl rfl rfl rfl, bare.running, bare.tasks,
        bare.timeouts, bare.state⟩
      exact bare''.establish socket tun

/-- An ability that was created is alive, let in or not. -/
theorem onCreate_alive (currentSession : ℕ) (creation : Creation) :
    ((new currentSession).onCreate creation).Alive := by
  have bare {s : VpnAbility} (effects : s.effects = []) (socket : s.socketFd = -1)
      (tun : s.tunFd = -1) (running : s.lifecycle = .running) (tasks : s.tasks = [])
      (timeouts : s.timeouts = []) (state : s.state.state = .stopped) : s.Bare := by
    refine ⟨⟨fun fd => ?_, ?_, fun _ => ?_, .inl socket, .inl tun⟩, running, tasks, timeouts, ?_⟩
    · rw [issued, closed, count_held, holds_of_neg socket, holds_of_neg tun, effects]
      rfl
    · rw [effects]
      exact each_nil _
    · rw [effects]
      exact List.not_mem_nil
    · rw [state]
      exact nofun
  unfold onCreate
  simp only
  split
  · exact (bare rfl rfl rfl rfl rfl rfl rfl).idle rfl rfl
  · split
    · exact (bare rfl rfl rfl rfl rfl rfl rfl).refuse rfl rfl _
    · split
      · exact (bare rfl rfl rfl rfl rfl rfl rfl).refuse rfl rfl _
      · exact (bare rfl rfl rfl rfl rfl rfl rfl).launch rfl rfl creation

/-- Where the ability is in its life: new, alive or destroyed.  It is the invariant of the runs. -/
inductive Fenced (s : VpnAbility) : Prop
  | fresh {currentSession : ℕ} : s = new currentSession → Fenced s
  | alive : s.Alive → Fenced s
  | destroyed : s.Destroyed → Fenced s

/-- Nothing is suspended in a new ability. -/
theorem not_suspended {s : VpnAbility} {currentSession : ℕ} (same : s = new currentSession)
    {before rest : List Task} {task : Task} : s.tasks ≠ before ++ task :: rest := by
  rw [same]
  exact (List.append_ne_nil_of_right_ne_nil _ (List.cons_ne_nil _ _)).symm

/-- Every step of the ability keeps its descriptors fenced, before `onDestroy` and behind it. -/
theorem Fenced.step {s s' : VpnAbility} {l : Label} (fenced : s.Fenced) (step : Step s l s') :
    s'.Fenced := by
  cases fenced with
  | @fresh currentSession same =>
      cases step with
      | onCreate _ =>
          rw [same]
          exact .alive (onCreate_alive _ _)
      | protect h => exact absurd h (not_suspended same)
      | connect h => exact absurd h (not_suspended same)
      | create h => exact absurd h (not_suspended same)
      | destroy h => exact absurd h (not_suspended same)
      | resume h => exact absurd h (not_suspended same)
      | retry h =>
          rw [same] at h
          exact absurd h (List.append_ne_nil_of_right_ne_nil _ (List.cons_ne_nil _ _)).symm
      | tick running =>
          rw [same] at running
          exact absurd rfl running
      | onDestroy running =>
          rw [same] at running
          cases running
      | newSession =>
          rw [same]
          exact .fresh rfl
  | alive alive =>
      cases step with
      | onCreate fresh => exact absurd (alive.running.symm.trans fresh) nofun
      | protect h =>
          obtain ⟨bare, tun, -⟩ := alive.take h
          exact .alive (bare.protect tun)
      | connect h =>
          obtain ⟨bare, tun, -⟩ := alive.take h
          exact .alive (bare.connect tun)
      | create h =>
          obtain ⟨bare, tun, -⟩ := alive.take h
          exact .alive (bare.create tun)
      | destroy h =>
          obtain ⟨bare, tun, -⟩ := alive.take h
          exact .alive (bare.destroy tun _)
      | resume h =>
          obtain ⟨bare, tun, socket⟩ := alive.take h
          exact .alive (bare.resume (socket _ rfl) tun _ _)
      | retry h =>
          obtain ⟨bare, socket, tun⟩ := alive.fire h
          exact .alive (bare.retry socket tun)
      | tick _ => exact .alive (alive.tick _)
      | onDestroy _ => exact .destroyed alive.onDestroy
      | newSession =>
          refine .alive ⟨alive.ledger.congr rfl rfl rfl rfl, alive.running, ?_⟩
          cases alive.course with
          | idle tasks timeouts socket tun other => exact .idle tasks timeouts socket tun other
          | connected tasks timeouts => exact .connected tasks timeouts
          | waiting tasks timeouts timer socket tun other =>
              exact .waiting tasks timeouts timer socket tun other
          | suspended tasks timeouts tun promise other =>
              exact .suspended tasks timeouts tun promise other
  | destroyed gone =>
      cases step with
      | onCreate fresh => exact absurd (gone.destroyed.symm.trans fresh) nofun
      | protect h => exact .destroyed ((gone.take h).protect _ _)
      | connect h => exact .destroyed ((gone.take h).connect _ _)
      | create h => exact .destroyed ((gone.take h).create gone.tun _ _ _)
      | destroy h => exact .destroyed ((gone.take h).destroy gone.tun rfl)
      | resume h =>
          have leaving := gone.take h
          rw [resume_stopped leaving.stopped]
          refine .destroyed ⟨leaving.ledger, gone.destroyed, gone.stopped, gone.timeouts, gone.tun,
            ?_, (Nat.le_add_right _ _).trans leaving.count⟩
          refine gone.socket.imp_right fun ⟨after, mem⟩ => ⟨after, ?_⟩
          rw [h] at mem
          rcases List.mem_append.mp mem with mem | mem
          · exact List.mem_append_left _ mem
          · exact List.mem_append_right _ ((List.mem_cons.mp mem).resolve_left nofun)
      | retry h =>
          rw [gone.timeouts] at h
          exact absurd h (List.append_ne_nil_of_right_ne_nil _ (List.cons_ne_nil _ _)).symm
      | tick _ =>
          rw [tick, if_pos gone.stopped]
          exact .destroyed gone
      | onDestroy running => exact absurd (gone.destroyed.symm.trans running) nofun
      | newSession =>
          exact .destroyed ⟨gone.ledger.congr rfl rfl rfl rfl, gone.destroyed, gone.stopped,
            gone.timeouts, gone.tun, gone.socket, gone.establishes⟩

/-- A fenced ability has accounted for its descriptors. -/
theorem Fenced.accounted {s : VpnAbility} (fenced : s.Fenced) : s.Accounted := by
  cases fenced with
  | fresh same =>
      subst same
      exact ⟨fun _ => rfl, Nat.zero_le _, Nat.zero_le _, each_nil _, nofun⟩
  | alive alive =>
      have bounds : s.tasks.countP Task.isEstablish ≤ 1 ∧ s.timeouts.length ≤ 1 := by
        cases alive.course with
        | idle tasks timeouts _ _ _ => simp [tasks, timeouts]
        | connected tasks timeouts => simp [tasks, timeouts]
        | waiting tasks timeouts _ _ _ _ => simp [tasks, timeouts]
        | @suspended task tasks timeouts _ _ _ =>
            rw [tasks, timeouts, List.countP_singleton]
            exact ⟨by split <;> omega, Nat.zero_le _⟩
      refine ⟨alive.ledger.descriptors, bounds.1, bounds.2, alive.ledger.fenced, ?_⟩
      intro destroyed
      exact absurd (alive.running.symm.trans destroyed) nofun
  | destroyed gone =>
      refine ⟨gone.ledger.descriptors, gone.establishes, ?_, gone.ledger.fenced, fun _ none => ?_⟩
      · rw [gone.timeouts]
        exact Nat.zero_le _
      · refine ⟨gone.socket.resolve_right fun ⟨after, mem⟩ => ?_, gone.tun⟩
        rw [none] at mem
        cases mem

/-- **The descriptors are accounted for in every run**, whatever settles when: each is held or
was closed, one `establish` and one retry are live at most, and behind `onDestroy` nothing is
started, nothing but `stopped` is published, and nothing is held in the end. -/
theorem run_accounted {t : List (VpnAbility × Label)} {s : VpnAbility} (run : machine.Run t s) :
    s.Accounted := by
  refine (run.invariant Fenced (fun s start => ?_)
    (fun _ _ _ fenced _ step => fenced.step step) (Machine.meets_true t)).accounted
  obtain ⟨currentSession, rfl⟩ := start
  exact .fresh rfl

/-- A start without parameters that finds the consent. -/
def consented : Creation where
  want := ⟨[]⟩
  consent := acceptPrivacy 1
  status := .unreadable
  settings := .unreadable
  number _ := .nan
  interval := 0
  connection := .ok ()
  socket := .ok 5

/-- The ability is destroyed while `create` is awaited, and the tun device comes late. -/
theorem run_accounted_late : ∃ t s, machine.Run t s ∧ s.issued = [5, 9] ∧ s.closed = [5, 9] ∧
    s.tasks = [] ∧ s.Accounted := by
  have start : machine.Run [] (new 0) := .start ⟨0, rfl⟩
  have launched := start.step (show machine.step _ (.onCreate consented) _ from .onCreate rfl)
  have protectd := launched.step (show machine.step _ (.protect 1 (.ok ())) _ from
    @Step.protect _ [] [] 1 _ rfl)
  have connected := protectd.step (show machine.step _ (.connect 1 (.ok ())) _ from
    @Step.connect _ [] [] 1 _ rfl)
  have destroyed := connected.step (show machine.step _ .onDestroy _ from .onDestroy rfl)
  have created := destroyed.step (show machine.step _ (.create 1 (.ok 9) (.ok ())) _ from
    @Step.create _ [] [.cleaned .onDestroy] 1 _ _ rfl)
  have first := created.step (show machine.step _ (.resume .onDestroy 0) _ from
    @Step.resume _ [] [.destroying .stale] _ 0 rfl)
  have second := first.step (show machine.step _ (.destroy .stale) _ from
    @Step.destroy _ [] [] _ rfl)
  have last := second.step (show machine.step _ (.resume .stale 0) _ from
    @Step.resume _ [] [] _ 0 rfl)
  exact ⟨_, _, last, rfl, rfl, rfl, run_accounted last⟩

end VpnAbility

end ReverseTether
