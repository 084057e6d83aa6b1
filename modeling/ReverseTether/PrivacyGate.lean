import ReverseTether.Abilities

/-!
# The privacy gate

Without a consent on record every way into the network ends at `hasPrivacyConsent`: the
command of the host, the start of the VPN ability, the start of a check, and the buttons of
the page, a change of the mode included.  An ability that was not let in stays as it is, with
nothing suspended that could go on (`App.Gated`), so nothing reaches the network as long as
the record stays so (`App.run_gated`).

The record is read again at each of the entries, and not once at the start: a consent that is
withdrawn, or that was given for an older policy, is none.  `hasPrivacyConsent` accepts no
value that it does not know, so a record that was damaged counts as no consent.

What the theorem excludes is listed as network actions: the start of an ability, a VPN
connection, a socket, a check and its run, the listener for the results, a request over HTTP.
The pages may still be opened and closed, the policy shown and declined, as often as the user
likes.
-/

namespace ReverseTether

open Library

/-! ## The VPN ability -/

namespace VpnAbility

/-- The ability is as stopped as before, and what it has called since starts nothing on the
network. -/
def Silent (v v' : VpnAbility) : Prop :=
  v'.stopped = v.stopped ∧
    ∃ calls, v'.effects = v.effects ++ calls ∧ ∀ effect ∈ calls, effect.network = none

section Silent

variable {v v₁ v' : VpnAbility}

theorem Silent.trans (first : Silent v v₁) (second : Silent v₁ v') : Silent v v' := by
  obtain ⟨stopped, calls, effects, quiet⟩ := first
  obtain ⟨stopped', calls', effects', quiet'⟩ := second
  refine ⟨stopped'.trans stopped, calls ++ calls', ?_, fun effect mem => ?_⟩
  · rw [effects', effects, List.append_assoc]
  · exact (List.mem_append.mp mem).elim (quiet effect) (quiet' effect)

/-- What reaches the network was started; an ability that starts nothing reaches it no more than
before. -/
theorem Silent.network (silent : Silent v v') : v'.network = v.network := by
  obtain ⟨-, calls, effects, quiet⟩ := silent
  rw [VpnAbility.network, effects, List.filterMap_append,
    List.filterMap_eq_nil_iff.mpr quiet, List.append_nil]
  rfl

/-- Other fields are not looked at. -/
theorem Silent.of_same (stopped : v'.stopped = v.stopped) (effects : v'.effects = v.effects) :
    Silent v v' := ⟨stopped, [], by rw [effects, List.append_nil], nofun⟩

/-- A status is published to the page, and starts nothing. -/
theorem silent_publish (v : VpnAbility) (status : Status) (message : String) :
    Silent v (v.publish status message) := by
  unfold publish
  split
  · exact .of_same rfl rfl
  · exact ⟨rfl, [.publish status], rfl, by simp [Effect.network]⟩

/-- Closing the socket starts nothing. -/
theorem silent_closeSocket (v : VpnAbility) : Silent v v.closeSocket := by
  unfold closeSocket
  split
  · exact ⟨rfl, [.close v.socketFd], rfl, by simp [Effect.network]⟩
  · exact .of_same rfl rfl

/-- Neither does the cleanup, whatever is to follow it. -/
theorem silent_cleanup (v : VpnAbility) (after : AfterCleanup) : Silent v (v.cleanup after) := by
  have asked : Silent v (v.record (.stop v.session)) :=
    ⟨rfl, [.stop v.session], rfl, by simp [Effect.network]⟩
  unfold cleanup
  simp only
  split
  · refine asked.trans ⟨rfl, [.close v.tunFd, .destroy], ?_, by simp [Effect.network]⟩
    exact List.append_assoc _ _ _
  · obtain ⟨stopped, calls, effects, quiet⟩ := asked.trans (silent_closeSocket _)
    exact ⟨stopped, calls, effects, quiet⟩

/-- **Behind a stop nothing is established.**  The flag is set before the first await of the stop,
so that a start which is awaiting something finds it set when it comes back. -/
theorem silent_establish (stopped : v.stopped = true) (generation : ℕ)
    (socket : Except JsError ℕ) : v.establish generation socket = v :=
  if_pos (.inl (.inl stopped))

/-- When `protect` settles behind a stop, the ability is cleaned up and does not connect. -/
theorem silent_protect (stopped : v.stopped = true) (generation : ℕ)
    (answer : Except JsError Unit) : Silent v (v.protect generation answer) := by
  cases answer with
  | error err => exact silent_cleanup _ _
  | ok _ =>
      show Silent v (if v.IsStale generation then v.cleanup .stale else _)
      rw [if_pos (.inl stopped)]
      exact silent_cleanup _ _

/-- When `connect` does, no tunnel is asked for. -/
theorem silent_connect (stopped : v.stopped = true) (generation : ℕ)
    (answer : Except JsError Unit) : Silent v (v.connect generation answer) := by
  cases answer with
  | error err => exact silent_cleanup _ _
  | ok _ =>
      show Silent v (if v.IsStale generation then v.cleanup .stale else _)
      rw [if_pos (.inl stopped)]
      exact silent_cleanup _ _

/-- A tunnel that comes behind a stop is noted and cleaned up, and not started. -/
theorem silent_create (stopped : v.stopped = true) (generation : ℕ) (answer : Except JsError ℕ)
    (started : Except JsError Unit) : Silent v (v.create generation answer started) := by
  cases answer with
  | error err => exact silent_cleanup _ _
  | ok fd =>
      let made : VpnAbility := { v with tunFd := (fd : ℤ) }.record (.created fd)
      have created : Silent v made := ⟨rfl, [.created fd], rfl, by simp [Effect.network]⟩
      show Silent v (if made.IsStale generation then made.cleanup .stale else _)
      rw [if_pos (.inl stopped)]
      exact created.trans (silent_cleanup _ _)

/-- Destroying the ability clears its timers and cleans it up. -/
theorem silent_onDestroy (stopped : v.stopped = true) : Silent v v.onDestroy := by
  let gone : VpnAbility := { v with
    stopped := true
    generation := v.generation + 1
    lifecycle := .destroyed
    intervals := if 0 ≤ v.timer then v.intervals.filter (fun id => (id : ℤ) ≠ v.timer)
      else v.intervals
    timeouts := if 0 ≤ v.retryTimer then v.timeouts.filter (fun t => (t.1 : ℤ) ≠ v.retryTimer)
      else v.timeouts }
  have marked : Silent v (gone.record .onDestroy) :=
    ⟨stopped.symm, [.onDestroy], rfl, by simp [Effect.network]⟩
  exact marked.trans ((silent_publish _ _ _).trans (silent_cleanup _ _))

end Silent

/-- **A stopped ability that may not start does nothing.**  Every way to a start asks for the
consent first, and what is still awaited ends without a start. -/
theorem Step.silent {v v' : VpnAbility} {label : Label} {consent : StoredFile}
    (step : Step v label v') (stopped : v.stopped = true) (reads : App.Reads consent label)
    (refused : hasPrivacyConsent consent = false) : Silent v v' := by
  cases step with
  | @onCreate creation _ =>
      have same : creation.consent = consent := reads
      have returned : v.onCreate creation = { v with lifecycle := .running } :=
        if_pos (by rw [same]; exact refused)
      rw [returned]
      exact .of_same rfl rfl
  | @protect before after generation answer _ =>
      exact .trans (.of_same rfl rfl) (@silent_protect { v with tasks := before ++ after } stopped _ _)
  | @connect before after generation answer _ =>
      exact .trans (.of_same rfl rfl) (@silent_connect { v with tasks := before ++ after } stopped _ _)
  | @create before after generation answer started _ =>
      exact .trans (.of_same rfl rfl)
        (@silent_create { v with tasks := before ++ after } stopped _ _ _)
  | @destroy before rest after _ =>
      have closed := silent_closeSocket { v with tasks := before ++ rest }
      exact .trans (.of_same rfl rfl) (closed.trans (.of_same rfl rfl))
  | @resume before rest after id _ =>
      rw [@VpnAbility.resume_stopped { v with tasks := before ++ rest } stopped]
      exact .of_same rfl rfl
  | @retry before after id delay socket _ =>
      have returned := @silent_establish { v with
        timeouts := before ++ after
        retryTimer := -1
        generation := v.generation + 1 } stopped (v.generation + 1) socket
      show Silent v (VpnAbility.establish _ _ _)
      rw [returned]
      exact .of_same rfl rfl
  | tick _ =>
      rw [VpnAbility.tick, if_pos stopped]
      exact .of_same rfl rfl
  | onDestroy _ => exact silent_onDestroy stopped
  | newSession => exact .of_same rfl rfl

end VpnAbility

/-! ## The app -/

namespace App

/-- Nothing was started: no VPN ability runs, and no check is suspended.  It holds of the app
before the first consent, and every step keeps it as long as there is none. -/
structure Gated (a : App) : Prop where
  vpns : ∀ v ∈ a.vpns, v.stopped = true ∧ v.network = []
  probes : ∀ p ∈ a.probes, p.tasks = []
  actions : a.actions = []

/-- The abilities and the actions are those of another state; the page may be another one. -/
structure Same (a a' : App) : Prop where
  vpns : a'.vpns = a.vpns
  probes : a'.probes = a.probes
  actions : a'.actions = a.actions

/-- The gate only looks at the abilities and at the actions. -/
theorem Gated.of_same {a a' : App} (gated : a.Gated) (same : a.Same a') : a'.Gated := by
  refine ⟨?_, ?_, ?_⟩
  · rw [same.vpns]
    exact gated.vpns
  · rw [same.probes]
    exact gated.probes
  · rw [same.actions]
    exact gated.actions

section Page

variable {a a' : App}

/-- **Without the consent the page is shown the dialog**, and nothing else happens.  The page that
was asked for comes back from this function with `false`, and each of its callers returns on it. -/
theorem requireConsent_refused (refused : hasPrivacyConsent a.consent = false) :
    ∃ index, a.requireConsent = (false, { a with index }) := by
  refine ⟨{ a.index with consent := false, dialogVisible := true }, ?_⟩
  unfold requireConsent
  simp only [refused, if_true]
  rfl

/-- The button that starts the tunnel is refused. -/
theorem start_refused (refused : hasPrivacyConsent a.consent = false) : a.Same a.start := by
  unfold start
  split
  · exact ⟨rfl, rfl, rfl⟩
  · obtain ⟨index, eq⟩ := requireConsent_refused refused
    simp only [eq]
    exact ⟨rfl, rfl, rfl⟩

/-- So is the button that starts a check. -/
theorem probe_refused (refused : hasPrivacyConsent a.consent = false) : a.Same a.probe := by
  unfold probe
  split
  · exact ⟨rfl, rfl, rfl⟩
  · obtain ⟨index, eq⟩ := requireConsent_refused refused
    simp only [eq]
    exact ⟨rfl, rfl, rfl⟩

/-- Stopping needs no consent: it asks the ability to stop, and starts nothing. -/
theorem stop_same (applies : Bool) : a.Same (a.stop applies) := by
  unfold stop
  split <;> exact ⟨rfl, rfl, rfl⟩

/-- **No button of the page reaches the network.**  Each method that would reach it goes through
`requireConsent` first, and the dialog itself only writes the file of the consent. -/
theorem PageStep.same {label : PageLabel} (step : PageStep a label a')
    (refused : hasPrivacyConsent a.consent = false) : a.Same a' := by
  cases step with
  | refresh => exact ⟨rfl, rfl, rfl⟩
  | onPageShow =>
      unfold App.onPageShow
      simp only
      split <;> exact ⟨rfl, rfl, rfl⟩
  | aboutToDisappear => exact ⟨rfl, rfl, rfl⟩
  | showPrivacy => exact ⟨rfl, rfl, rfl⟩
  | readPrivacy => exact ⟨rfl, rfl, rfl⟩
  | @agree now => cases now <;> exact ⟨rfl, rfl, rfl⟩
  | decline => exact ⟨rfl, rfl, rfl⟩
  | onClick =>
      unfold App.onClick
      split
      · exact start_refused refused
      · exact stop_same false
  | @applyIpv6Mode mode saved =>
      unfold App.applyIpv6Mode
      split
      · exact ⟨rfl, rfl, rfl⟩
      · split
        · exact ⟨rfl, rfl, rfl⟩
        · simp only
          split
          · exact ⟨rfl, rfl, rfl⟩
          · obtain ⟨vpns, probes, actions⟩ := @stop_same { a with
              index := { a.index with ipv6Mode := mode, message := "正在应用新设置…" } } true
            exact ⟨vpns, probes, actions⟩
  | probe => exact probe_refused refused
  | @started before after answer loaded _ => cases answer <;> exact ⟨rfl, rfl, rfl⟩
  | @stopped before after applies answer loaded _ =>
      cases answer <;> cases applies <;> exact ⟨rfl, rfl, rfl⟩
  | @apply before after _ =>
      obtain ⟨vpns, probes, actions⟩ := @start_refused (a.resumed before after) refused
      exact ⟨vpns, probes, actions⟩
  | @probed before after answer _ => exact ⟨rfl, rfl, rfl⟩

end Page

section Probe

variable {a a' : App} {place : ℕ} {p : ProbeAbility}

/-- The app behind a call of a check: the tunnel and the actions are the same, and the ability
has the same tasks. -/
def Spares (a : App) (place : ℕ) (p : ProbeAbility) (a' : App) : Prop :=
  a'.vpns = a.vpns ∧ a'.actions = a.actions ∧
    ∃ p' : ProbeAbility, p'.tasks = p.tasks ∧ a'.probes = a.probes.set place p'

/-- The cleanup of a check leaves the tunnel alone. -/
theorem cleanupProbe_spares : a.Spares place p (a.cleanupProbe place p) := by
  unfold cleanupProbe endProbe
  split <;> exact ⟨rfl, rfl, { p with delayId := -1 }, rfl, rfl⟩

/-- So does its end. -/
theorem finishProbe_spares : a.Spares place p (a.finishProbe place p) := by
  unfold finishProbe
  split
  · exact ⟨rfl, rfl, p, rfl, rfl⟩
  · exact @cleanupProbe_spares a place { p with finished := true }

/-- **A check that may not start ends before its first await.**  The file is read in the same turn
in which the check is asked for, and no socket has been opened by then. -/
theorem startProbe_refused (refused : hasPrivacyConsent a.consent = false) (want : Want)
    (input : ProbeStart) : a.Spares place p (a.startProbe place p want input) := by
  unfold startProbe
  rw [if_pos refused]
  exact finishProbe_spares

/-- A call that spares the rest keeps the gate, where no check is suspended. -/
theorem Gated.spares (gated : a.Gated) (idle : p.tasks = []) (spares : a.Spares place p a') :
    a'.Gated := by
  obtain ⟨vpns, actions, p', tasks, probes⟩ := spares
  refine ⟨?_, ?_, ?_⟩
  · rw [vpns]
    exact gated.vpns
  · rw [probes]
    intro q mem
    rcases List.mem_or_eq_of_mem_set mem with old | rfl
    · exact gated.probes q old
    · exact tasks.trans idle
  · rw [actions]
    exact gated.actions

/-- **No want for a check starts one.** -/
theorem ProbeStep.gated {label : ProbeLabel} (step : ProbeStep a place p label a')
    (gated : a.Gated) (here : p ∈ a.probes) (refused : hasPrivacyConsent a.consent = false) :
    a'.Gated := by
  have idle := gated.probes p here
  cases step with
  | onCreate => exact gated.spares idle (startProbe_refused refused _ _)
  | onNewWant =>
      split
      · exact gated
      · exact gated.spares idle (startProbe_refused refused _ _)
  | began h =>
      rw [idle] at h
      exact absurd h (List.append_ne_nil_of_right_ne_nil _ (List.cons_ne_nil _ _)).symm
  | ran h =>
      rw [idle] at h
      exact absurd h (List.append_ne_nil_of_right_ne_nil _ (List.cons_ne_nil _ _)).symm
  | finish => exact gated.spares idle finishProbe_spares
  | onDestroy => exact gated.spares idle cleanupProbe_spares

end Probe

/-- **A command of the computer does not get around the gate.**  It is an entry of its own, next to
the page, and it asks for the consent as the page does. -/
theorem handleCommand_refused {a : App} (refused : hasPrivacyConsent a.consent = false)
    (text : JsNumber → String) (want : Want) : a.Same (a.handleCommand text want) := by
  unfold handleCommand
  split
  · simp only [refused, if_true]
    exact ⟨rfl, rfl, rfl⟩
  · exact ⟨rfl, rfl, rfl⟩
  · exact ⟨rfl, rfl, rfl⟩

/-- **Every step keeps the gate shut.**  It is the step lemma of `run_gated`: whatever enters, a
want, a button, a command or an answer from the system, nothing is sent and nothing established. -/
theorem Gated.step {a a' : App} {label : Label} (gated : a.Gated) (step : Step a label a')
    (without : WithoutConsent a.consent) : a'.Gated := by
  have refused := hasPrivacyConsent_eq_false_iff.mpr without
  cases step with
  | command => exact gated.of_same (handleCommand_refused refused _ _)
  | page step => exact gated.of_same (step.same refused)
  | newVpn =>
      refine ⟨fun v mem => ?_, gated.probes, gated.actions⟩
      rcases List.mem_append.mp mem with old | new
      · exact gated.vpns v old
      · rw [List.mem_singleton.mp new]
        exact ⟨rfl, rfl⟩
  | @vpn place v v' label here reads step =>
      obtain ⟨stopped, network⟩ := gated.vpns v (List.mem_of_getElem? here)
      have silent := step.silent stopped reads refused
      refine ⟨fun w mem => ?_, gated.probes, gated.actions⟩
      rcases List.mem_or_eq_of_mem_set mem with old | rfl
      · exact gated.vpns w old
      · exact ⟨silent.1.trans stopped, silent.network.trans network⟩
  | newProbe =>
      refine ⟨gated.vpns, fun p mem => ?_, gated.actions⟩
      rcases List.mem_append.mp mem with old | new
      · exact gated.probes p old
      · rw [List.mem_singleton.mp new]
        rfl
  | probe here step => exact step.gated gated (List.mem_of_getElem? here) refused
  | rewrite => exact ⟨gated.vpns, gated.probes, gated.actions⟩

/-- **Nothing reaches the network without the consent.**  As long as the record is missing,
unreadable, of another version or without a positive finite time, no network action starts,
whatever is asked of the abilities and done on the page. -/
theorem run_gated {t : List (App × Label)} {a : App} (run : machine.Run t a)
    (without : Machine.Meets (fun a _ => WithoutConsent a.consent) t) : a.network = [] := by
  have gated : a.Gated := by
    refine run.invariant Gated (fun a start => ?_)
      (fun _ _ _ gated without step => gated.step step without) without
    obtain ⟨vpns, probes, actions⟩ := start
    refine ⟨fun v mem => ?_, fun p mem => ?_, actions⟩
    · rw [vpns] at mem
      exact absurd mem List.not_mem_nil
    · rw [probes] at mem
      exact absurd mem List.not_mem_nil
  rw [network, gated.actions, List.nil_append]
  exact List.flatMap_eq_nil_iff.mpr fun v mem => (gated.vpns v mem).2

/-- A page that was just made. -/
def firstPage : Index where
  status := .stopped
  message := ""
  probing := false
  acting := false
  consent := false
  ipv6Mode := .off
  promptOnShow := true
  dialogVisible := false
  request := false
  tasks := []

/-- The app before anything was read. -/
def firstStart : App where
  consent := .unreadable
  parameters := []
  index := firstPage
  vpns := []
  probes := []
  server := ⟨"", false⟩
  actions := []

/-- The host commands a start, the tunnel and a check are started, and both buttons pressed. -/
theorem run_gated_unread : ∃ t a, machine.Run t a ∧ t.length = 7 ∧ a.network = [] := by
  have start : machine.Run [] firstStart := .start ⟨rfl, rfl, rfl⟩
  have commanded := start.step (show machine.step _ (.command (fun _ => "")
    ⟨[("command", .string "start")]⟩) _ from .command)
  have vpn := commanded.step (show machine.step _ (.newVpn 0) _ from .newVpn)
  have launched := vpn.step (show machine.step _
    (.vpn 0 (.onCreate ⟨⟨[]⟩, .unreadable, .unreadable, .unreadable, fun _ => .nan, 0, .ok (),
      .ok 5⟩)) _ from .vpn rfl rfl (.onCreate rfl))
  have check := launched.step (show machine.step _ .newProbe _ from .newProbe)
  have probed := check.step (show machine.step _ (.probe 0 (.onCreate ⟨[]⟩ ⟨fun _ => none, none, 0⟩))
    _ from .probe rfl .onCreate)
  have clicked := probed.step (show machine.step _ (.page .onClick) _ from .page .onClick)
  have asked := clicked.step (show machine.step _ (.page .probe) _ from .page .probe)
  refine ⟨_, _, asked, rfl, run_gated asked ?_⟩
  simp only [Machine.meets_append, Machine.meets_singleton]
  exact ⟨⟨⟨⟨⟨⟨⟨Machine.meets_nil _, .unreadable⟩, .unreadable⟩, .unreadable⟩, .unreadable⟩,
    .unreadable⟩, .unreadable⟩, .unreadable⟩

end App

end ReverseTether
