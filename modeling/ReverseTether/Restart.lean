import ReverseTether.Abilities
import ReverseTether.Library.Splitting

/-!
# The restarts for a new IPv6 mode

A running tunnel keeps its routes until it is established again, so a new mode makes the page
stop the VPN ability and start it again.  `EntryAbility` and the page share the parameters of
the host's request, which is how the page knows the port and the DNS address; what a start does
not name, `onCreate` takes from the status file, or from the default.

`Tether` is the app behind a start that the host has asked for, with the two files that the
abilities exchange, the starts that the page has asked for since, and the abilities that the
system has made for them.

**The clause that matters** is the one of `stop`: it forgets the request when it succeeds, and
`start` comes after it.  So `Remembered` has two cases, the host's request and an empty one, and
`restarts_same_iff` says what a restart needs in the second.
-/

namespace ReverseTether

open Library

/-! ## Parameters -/

/-- `parameters[name]`. -/
def parameterOf (parameters : List (String × String)) (name : String) : Option String :=
  (parameters.find? (·.1 = name)).map Prod.snd

/-- The want with these parameters. -/
def Want.of (parameters : List (String × String)) : Want :=
  ⟨parameters.map fun parameter ↦ (parameter.1, .string parameter.2)⟩

/-- A want that is made of texts has a parameter exactly when the request has one. -/
theorem Want.of_parameter (parameters : List (String × String)) (name : String) :
    (Want.of parameters).parameter name = (parameterOf parameters name).map .string := by
  unfold Want.of Want.parameter parameterOf
  induction parameters with
  | nil => rfl
  | cons first rest ih =>
      simp only [List.map_cons, List.find?_cons]
      by_cases same : first.1 = name
      · simp [same]
      · simp only [same, decide_false]
        exact ih

/-- What was assigned last is what is found. -/
theorem parameterOf_assign_self (parameters : List (String × String)) (name value : String) :
    parameterOf (assign parameters name value) name = some value := by
  have absent : (parameters.filter (·.1 ≠ name)).find? (·.1 = name) = none := by
    simp [List.find?_eq_none]
  unfold parameterOf assign
  rw [List.find?_append, absent]
  simp

/-- An assignment leaves the parameters of other names alone. -/
theorem parameterOf_assign_of_ne {parameters : List (String × String)} {name other value : String}
    (ne : other ≠ name) :
    parameterOf (assign parameters name value) other = parameterOf parameters other := by
  have kept : (fun p : String × String ↦
      decide (decide (p.1 ≠ name) = true ∧ decide (p.1 = other) = true)) =
      fun p ↦ decide (p.1 = other) := by
    funext p
    by_cases same : p.1 = other
    · simp [same, ne]
    · simp [same]
  have last : [(name, value)].find? (·.1 = other) = none := by simp [Ne.symm ne]
  unfold parameterOf assign
  rw [List.find?_append, List.find?_filter, last, Option.or_none, kept]

/-! ## The two files -/

/-- The number of a mode. -/
def modeValue : Ipv6Mode → ℚ
  | .off => 0
  | .proxy => 1
  | .blackhole => 2

/-- The file that `saveIpv6Mode` writes. -/
def saveIpv6Mode (mode : Ipv6Mode) : StoredFile :=
  .parsed (.object [("ipv6Mode", .number (.finite (modeValue mode)))])

/-- The mode that was stored is the mode that is loaded, for each of the three. -/
theorem loadIpv6Mode_saveIpv6Mode (mode : Ipv6Mode) : loadIpv6Mode (saveIpv6Mode mode) = mode := by
  cases mode <;> rfl

/-- `Number` of the text of a mode. -/
def modeNumber (text : String) : JsNumber :=
  if isDecimal 1 text then .finite (decimal text) else .nan

/-- The mode that is passed as a text of a parameter is read back as the same mode. -/
theorem normalizeIpv6Mode_modeText (mode : Ipv6Mode) :
    normalizeIpv6Mode (modeNumber (App.modeText mode)) = mode := by
  cases mode <;> decide

/-- The text under which a status is shown, stored and read back. -/
def Status.text : Status → String
  | .stopped => "stopped"
  | .connecting => "connecting"
  | .connected => "connected"
  | .reconnecting => "reconnecting"
  | .error => "error"

/-- The file that `saveState` writes when the clock shows `now`. -/
def saveState (now : ℕ) (state : TetherState) : StoredFile :=
  .parsed (.object [("port", .number (.finite state.port)), ("state", .string state.state.text),
    ("message", .string state.message), ("updatedAt", .number (.finite now)),
    ("reconnects", .number (.finite state.reconnects)),
    ("txBytes", .number (.finite state.txBytes)), ("rxBytes", .number (.finite state.rxBytes))])

/-- The next ability reads the port of the last one that was saved. -/
theorem storedPort_saveState (now : ℕ) (state : TetherState) :
    storedPort (saveState now state) = some (state.port : ℤ) := by
  show (JsNumber.finite (state.port : ℚ)).integer? = _
  simp [JsNumber.integer?]

/-- The effect puts a state before the user, which is then also stored. -/
def Effect.isPublish : Effect → Bool
  | .publish _ => true
  | _ => false

/-- `tether-status.json` when an ability has made a step.  `saved` is the clock when the state
that it publishes is written, or `none` when that fails. -/
def statusAfter (status : StoredFile) (v v' : VpnAbility) (saved : Option ℕ) : StoredFile :=
  match saved with
  | some now =>
      if (v'.effects.drop v.effects.length).any Effect.isPublish then saveState now v'.state
      else status
  | none => status

/-! ## The machine -/

/-- The parameters of the want, when the action is a start of the tunnel. -/
def NetworkAction.parameters? : NetworkAction → Option (List (String × String))
  | .startVpnExtensionAbility parameters => some parameters
  | _ => none

/-- The parameters of the starts that were asked for. -/
def App.starts (a : App) : List (List (String × String)) :=
  a.actions.filterMap NetworkAction.parameters?

/-- A start that the page has asked for, with what the page knew of the request of the host and of
the settings. -/
structure Launch where
  /-- The request that is remembered when the start is asked for. -/
  request : List (String × String)
  /-- `tether-settings.json` at that time. -/
  settings : StoredFile
  parameters : List (String × String)

/-- An ability that the system has made for a start, with what it found stored. -/
structure Restart where
  launch : Launch
  /-- `tether-status.json` before it. -/
  status : StoredFile
  ability : VpnAbility

/-- The app with its two files, the starts that its page has asked for, and the abilities that the
system has made for them. -/
structure Tether where
  app : App
  /-- `tether-status.json`. -/
  status : StoredFile
  /-- `tether-settings.json`. -/
  settings : StoredFile
  launches : List Launch
  restarts : List Restart

namespace Tether

/-- A step of the app, with the port that is saved in it, or the making of an ability for a start.
-/
inductive Label
  | app (label : App.Label) (saved : Option ℕ)
  /-- The system makes an ability for a start. -/
  | restart (launch : Launch) (creation : VpnAbility.Creation) (currentSession : ℕ)
      (saved : Option ℕ)

/-- The user changes the mode, but neither connects nor disconnects, and nor does the host. -/
def OnlyMode : App.Label → Prop
  | .command _ _ | .page .onClick | .newVpn _ | .vpn _ (.onCreate _) => False
  | _ => True

/-- The page loads the mode that is stored. -/
def Loads (settings : StoredFile) : App.Label → Prop
  | .page (.refresh loaded) | .page (.onPageShow loaded) | .page (.started _ loaded)
  | .page (.stopped _ _ loaded) => loaded.settings = settings
  | _ => True

/-- The settings behind a step: only a mode that the page applies is written to them. -/
def settingsAfter (t : Tether) : App.Label → StoredFile
  | .page (.applyIpv6Mode mode true) => if t.app.index.acting then t.settings else saveIpv6Mode mode
  | _ => t.settings

/-- The status behind a step: of the parts of the app only an ability for the tunnel writes it. -/
def statusBehind (t : Tether) (a' : App) (saved : Option ℕ) : App.Label → StoredFile
  | .vpn place _ =>
      match t.app.vpns[place]?, a'.vpns[place]? with
      | some v, some v' => statusAfter t.status v v' saved
      | _, _ => t.status
  | _ => t.status

/-- The starts that a step has asked for. -/
def launched (t : Tether) (a' : App) : List Launch :=
  (a'.starts.drop t.app.starts.length).map (⟨t.app.parameters, t.settings, ·⟩)

/-- What the ability reads is what there is: the files of the app, and the parameters it was
started with. -/
structure Reads (t : Tether) (parameters : List (String × String))
    (creation : VpnAbility.Creation) : Prop where
  want : creation.want = .of parameters
  consent : creation.consent = t.app.consent
  status : creation.status = t.status
  settings : creation.settings = t.settings
  number : creation.number = modeNumber

/-- The steps of the app with its files.  What a part of the app loads is what was last stored. -/
inductive Step : Tether → Label → Tether → Prop
  | app {t : Tether} {a' : App} {label : App.Label} {saved : Option ℕ} :
      App.Step t.app label a' → OnlyMode label → Loads t.settings label →
      Step t (.app label saved)
        { t with
          app := a'
          status := t.statusBehind a' saved label
          settings := t.settingsAfter label
          launches := t.launches ++ t.launched a' }
  /-- Without the consent the ability would return at once. -/
  | restart {t : Tether} {launch : Launch} {creation : VpnAbility.Creation} {currentSession : ℕ}
      {saved : Option ℕ} {v : VpnAbility} :
      launch ∈ t.launches → t.Reads launch.parameters creation →
      hasPrivacyConsent t.app.consent = true →
      v = (VpnAbility.new currentSession).onCreate creation →
      Step t (.restart launch creation currentSession saved)
        { t with
          app := { t.app with vpns := t.app.vpns ++ [v] }
          status := statusAfter t.status (.new currentSession) v saved
          restarts := t.restarts ++ [⟨launch, t.status, v⟩] }

/-- What the host asks for: a port and a DNS address that are valid. -/
structure Asks (request : List (String × String)) (status : StoredFile) (port : ℕ)
    (dnsAddress : String) : Prop where
  port : requestedPort (.of request) status = some port
  dns : requestedDns (.of request) "10.0.0.3" = some dnsAddress

/-- The host has asked for a start with the consent of the user, and the ability was made.  The
page neither starts nor stops one. -/
inductive Started (port : ℕ) (dnsAddress : String) : Tether → Prop
  | intro {t : Tether} {text : JsNumber → String} {want : Want}
      {creation : VpnAbility.Creation} {currentSession : ℕ} {saved : Option ℕ}
      {v : VpnAbility} :
      want.parameter "command" = some (.string "start") →
      hasPrivacyConsent t.app.consent = true →
      (∀ task ∈ t.app.index.tasks, task = .requesting) →
      Asks (rememberTetherRequest text want) t.status port dnsAddress →
      t.Reads (rememberTetherRequest text want) creation →
      v = (VpnAbility.new currentSession).onCreate creation →
      Started port dnsAddress
        { t with
          app := { t.app.handleCommand text want with vpns := t.app.vpns ++ [v] }
          status := statusAfter t.status (.new currentSession) v saved
          launches := []
          restarts := [] }

/-- The host has asked for a start with its port and its resolver; from there on the user only
changes the mode, and the system makes abilities again. -/
def machine (port : ℕ) (dnsAddress : String) : Machine Tether Label where
  start := Started port dnsAddress
  step := Step

/-! ## What the steps do to the request -/

section Requests

variable {a a' : App}

/-- A start, or the page stopping one, is pending for a new mode. -/
def Pending (a : App) : Prop := .stopping true ∈ a.index.tasks ∨ .applying ∈ a.index.tasks

/-- What a step of the app does to the request, and what it asks the system to start. -/
inductive Requests (a a' : App) : Prop
  | kept : a'.parameters = a.parameters → a'.starts = a.starts → Requests a a'
  /-- `stop` writes the mode into the parameters. -/
  | assigned (mode : Ipv6Mode) :
      a'.parameters = assign a.parameters "ipv6Mode" (App.modeText mode) →
      a'.starts = a.starts → Requests a a'
  /-- `stop` has succeeded. -/
  | cleared : a'.parameters = [] → a'.starts = a.starts → Requests a a'
  | launched : Pending a →
      a'.parameters = assign a.parameters "ipv6Mode" (App.modeText a.index.ipv6Mode) →
      a'.starts = a.starts ++ [a'.parameters] → Requests a a'

/-- The gate only reads: it answers as the record says, and of the page it changes what is shown.
-/
theorem requireConsent_eq (a : App) :
    ∃ index, a.requireConsent = (hasPrivacyConsent a.consent, { a with index }) ∧
      index.ipv6Mode = a.index.ipv6Mode ∧ index.tasks = a.index.tasks := by
  unfold App.requireConsent
  cases hasPrivacyConsent a.consent <;> exact ⟨_, rfl, rfl, rfl⟩

/-- A start that is pending writes the mode of the page into the request, and asks for the tunnel
with that. -/
theorem Requests.start (pending : Pending a) {index : Index}
    (mode : index.ipv6Mode = a.index.ipv6Mode) : Requests a { a with index }.start := by
  unfold App.start
  split
  · exact .kept rfl rfl
  · obtain ⟨index', eq, same, -⟩ := requireConsent_eq { a with index }
    rw [eq]
    cases hasPrivacyConsent a.consent with
    | false => exact .kept rfl rfl
    | true =>
        have mode' : index'.ipv6Mode = a.index.ipv6Mode := same.trans mode
        refine .launched pending ?_ ?_
        · rw [← mode']
          rfl
        · simp [App.starts, App.act, App.suspend, App.vpnWant, NetworkAction.parameters?]

/-- What any step of the page but a click on the button to connect does to the request: it is kept,
gets another mode or is cleared, and a start is asked for only when one is pending. -/
theorem PageStep.requests {label : App.PageLabel} (step : App.PageStep a label a')
    (other : label ≠ .onClick) : Requests a a' := by
  cases step with
  | refresh => exact .kept rfl rfl
  | onPageShow =>
      unfold App.onPageShow
      simp only
      split <;> exact .kept rfl rfl
  | aboutToDisappear => exact .kept rfl rfl
  | showPrivacy => exact .kept rfl rfl
  | readPrivacy => exact .kept rfl rfl
  | @agree now => cases now <;> exact .kept rfl rfl
  | decline => exact .kept rfl rfl
  | onClick => exact absurd rfl other
  | @applyIpv6Mode mode saved =>
      unfold App.applyIpv6Mode App.stop
      split
      · exact .kept rfl rfl
      · split
        · exact .kept rfl rfl
        · simp only
          split
          · exact .kept rfl rfl
          · exact .assigned mode rfl rfl
  | probe =>
      unfold App.probe
      split
      · exact .kept rfl rfl
      · obtain ⟨index, eq, -⟩ := requireConsent_eq a
        rw [eq]
        cases hasPrivacyConsent a.consent with
        | false => exact .kept rfl rfl
        | true =>
            refine .kept rfl ?_
            simp [App.starts, App.act, App.suspend, NetworkAction.parameters?]
  | @started before after answer loaded _ => cases answer <;> exact .kept rfl rfl
  | @stopped before after applies answer loaded _ =>
      cases answer with
      | ok _ => cases applies <;> exact .cleared rfl rfl
      | error _ => cases applies <;> exact .kept rfl rfl
  | @apply before after tasks =>
      have pending : Pending a := by
        right
        rw [tasks]
        simp
      exact Requests.start pending rfl
  | probed _ => exact .kept rfl rfl

end Requests

section Aside

variable {a a' : App} {place : ℕ} {p : ProbeAbility}

/-- The request and the page are those of another state, and no start was asked for. -/
structure Aside (a a' : App) : Prop where
  parameters : a'.parameters = a.parameters
  starts : a'.starts = a.starts
  index : a'.index = a.index

theorem Aside.trans {a₁ a₂ a₃ : App} (first : Aside a₁ a₂) (second : Aside a₂ a₃) : Aside a₁ a₃ :=
  ⟨second.parameters.trans first.parameters, second.starts.trans first.starts,
    second.index.trans first.index⟩

theorem Aside.act {action : NetworkAction} (none : action.parameters? = none) :
    Aside a (a.act action) := by
  refine ⟨rfl, ?_, rfl⟩
  simp [App.starts, App.act, none]

theorem aside_server (server : ProbeResultServer) : Aside a { a with server } := ⟨rfl, rfl, rfl⟩

theorem aside_endProbe (id : String) : Aside a (a.endProbe id) := by
  unfold App.endProbe
  split <;> exact ⟨rfl, rfl, rfl⟩

theorem aside_cleanupProbe : Aside a (a.cleanupProbe place p) :=
  (show Aside a (a.setProbe place _) from ⟨rfl, rfl, rfl⟩).trans (aside_endProbe p.id)

theorem aside_finishProbe : Aside a (a.finishProbe place p) := by
  unfold App.finishProbe
  split
  · exact ⟨rfl, rfl, rfl⟩
  · exact aside_cleanupProbe

theorem aside_beginProbe {id : String} (began : a.beginProbe id = some a') : Aside a a' := by
  unfold App.beginProbe at began
  split at began
  · cases began
  · split at began
    · cases began
      exact aside_server _
    · cases began
      exact (aside_server _).trans (Aside.act rfl)

/-- A network check neither starts the tunnel nor touches the request, and the page does not see
it. -/
theorem aside_startProbe (want : Want) (input : App.ProbeStart) :
    Aside a (a.startProbe place p want input) := by
  unfold App.startProbe
  split
  · exact aside_finishProbe
  · split
    · split
      · exact aside_finishProbe
      · have ran : Aside a (a.act .probeRun) := Aside.act rfl
        apply ran.trans
        simp only
        split
        · exact aside_finishProbe
        · split
          · exact aside_finishProbe
          · split
            · exact aside_finishProbe
            · rename_i began
              exact (aside_beginProbe began).trans ⟨rfl, rfl, rfl⟩
    · exact aside_finishProbe

/-- A check for the host has nothing to do with the request. -/
theorem ProbeStep.aside {label : App.ProbeLabel} (step : App.ProbeStep a place p label a') :
    Aside a a' := by
  cases step with
  | onCreate => exact aside_startProbe _ _
  | onNewWant =>
      split
      · exact ⟨rfl, rfl, rfl⟩
      · exact aside_startProbe _ _
  | @began before after listening _ =>
      unfold App.beganProbe
      split
      · exact (@Aside.act a .probeRun rfl).trans ⟨rfl, rfl, rfl⟩
      · exact ((aside_server _).trans (aside_endProbe p.id)).trans aside_finishProbe
  | ran _ => exact ⟨rfl, rfl, rfl⟩
  | finish => exact aside_finishProbe
  | onDestroy => exact aside_cleanupProbe

end Aside

/-- **Only a new mode asks for a start.** -/
theorem Step.requests {a a' : App} {label : App.Label} (step : App.Step a label a')
    (onlyMode : OnlyMode label) : Requests a a' := by
  cases step with
  | command => exact onlyMode.elim
  | page step =>
      apply PageStep.requests step
      rintro rfl
      exact onlyMode
  | newVpn => exact onlyMode.elim
  | vpn _ _ _ => exact .kept rfl rfl
  | newProbe => exact .kept rfl rfl
  | probe _ step =>
      have aside := ProbeStep.aside step
      exact .kept aside.parameters aside.starts
  | rewrite => exact .kept rfl rfl

/-! ## The mode that a start asks for -/

/-- What is pending is for the mode that is stored: a new mode is stored before it is applied. -/
def Chosen (a : App) (settings : StoredFile) : Prop :=
  Pending a → a.index.ipv6Mode = loadIpv6Mode settings

/-- The mode of the page is the stored one as long as neither changes and no new change is begun.
-/
theorem Chosen.of_same {a a' : App} {settings : StoredFile} (chosen : Chosen a settings)
    (mode : a'.index.ipv6Mode = a.index.ipv6Mode)
    (tasks : ∀ task ∈ a'.index.tasks, task = .stopping true ∨ task = .applying →
      task ∈ a.index.tasks) : Chosen a' settings := by
  rintro (stopping | applying)
  · exact mode.trans (chosen (.inl (tasks _ stopping (.inl rfl))))
  · exact mode.trans (chosen (.inr (tasks _ applying (.inr rfl))))

/-- The page that has loaded the stored mode has it. -/
theorem chosen_refresh (a : App) (loaded : Loaded) {settings : StoredFile}
    (same : loaded.settings = settings) : Chosen (a.refresh loaded) settings :=
  fun _ ↦ congrArg loadIpv6Mode same

/-- A start takes the mode from the page, where it is the stored one. -/
theorem Chosen.start {a : App} {settings : StoredFile} (chosen : Chosen a settings) :
    Chosen a.start settings := by
  unfold App.start
  split
  · exact chosen
  · obtain ⟨index, eq, mode, tasks⟩ := requireConsent_eq a
    rw [eq]
    cases hasPrivacyConsent a.consent with
    | false => exact chosen.of_same mode fun task mem _ ↦ tasks ▸ mem
    | true =>
        apply chosen.of_same mode
        intro task mem pending
        rcases List.mem_append.mp mem with old | new
        · exact tasks ▸ old
        · cases List.mem_singleton.mp new
          simp at pending

/-- A task that was resumed is no longer listed, and the other ones are as they were. -/
theorem Chosen.resumed {a : App} {settings : StoredFile} (chosen : Chosen a settings)
    {before after : List PageTask} {task : PageTask}
    (tasks : a.index.tasks = before ++ task :: after) :
    Chosen (a.resumed before after) settings := by
  have mode : (a.resumed before after).index.ipv6Mode = a.index.ipv6Mode := rfl
  apply chosen.of_same mode
  intro task mem _
  rw [tasks]
  rcases List.mem_append.mp mem with left | right
  · exact List.mem_append_left _ left
  · exact List.mem_append_right _ (List.mem_cons_of_mem _ right)

/-- A step of the page keeps its mode and the stored one the same, or has the change of one of them
under way. -/
theorem PageStep.chosen {t : Tether} {a' : App} {label : App.PageLabel}
    (step : App.PageStep t.app label a') (other : label ≠ .onClick)
    (loads : Loads t.settings (.page label)) (chosen : Chosen t.app t.settings) :
    Chosen a' (t.settingsAfter (.page label)) := by
  cases step with
  | refresh => exact chosen_refresh t.app _ loads
  | onPageShow =>
      unfold App.onPageShow
      simp only
      split <;> exact fun _ ↦ congrArg loadIpv6Mode loads
  | aboutToDisappear => exact chosen.of_same rfl fun _ mem _ ↦ mem
  | showPrivacy => exact chosen.of_same rfl fun _ mem _ ↦ mem
  | readPrivacy => exact chosen.of_same rfl fun _ mem _ ↦ mem
  | @agree now => cases now <;> exact chosen.of_same rfl fun _ mem _ ↦ mem
  | decline => exact chosen.of_same rfl fun _ mem _ ↦ mem
  | onClick => exact absurd rfl other
  | @applyIpv6Mode mode saved =>
      cases saved with
      | false =>
          unfold App.applyIpv6Mode
          split
          · exact chosen
          · exact chosen.of_same rfl fun _ mem _ ↦ mem
      | true =>
          unfold App.applyIpv6Mode
          split
          · rename_i acting
            have kept : t.settingsAfter (.page (.applyIpv6Mode mode true)) = t.settings :=
              if_pos acting
            rw [kept]
            exact chosen
          · rename_i idle
            have stored : t.settingsAfter (.page (.applyIpv6Mode mode true)) =
                saveIpv6Mode mode := if_neg idle
            intro pending
            rw [stored, loadIpv6Mode_saveIpv6Mode]
            simp only [Bool.true_eq_false, if_false]
            split
            · rfl
            · unfold App.stop
              split <;> rfl
  | probe =>
      unfold App.probe
      split
      · exact chosen
      · obtain ⟨index, eq, mode, tasks⟩ := requireConsent_eq t.app
        rw [eq]
        cases hasPrivacyConsent t.app.consent with
        | false => exact chosen.of_same mode fun _ mem _ ↦ tasks ▸ mem
        | true =>
            apply chosen.of_same mode
            intro task mem pending
            rcases List.mem_append.mp mem with old | new
            · exact tasks ▸ old
            · cases List.mem_singleton.mp new
              simp at pending
  | @started before after answer loaded _ =>
      cases answer <;> exact fun _ ↦ congrArg loadIpv6Mode loads
  | @stopped before after applies answer loaded _ =>
      cases answer <;> cases applies <;> exact fun _ ↦ congrArg loadIpv6Mode loads
  | apply tasks => exact (chosen.resumed tasks).start
  | probed tasks =>
      have resumed := chosen.resumed tasks
      exact resumed.of_same rfl fun _ mem _ ↦ mem

/-- The mode that a start would ask for is the stored one behind every step of the app. -/
theorem Step.chosen {t : Tether} {a' : App} {label : App.Label} (step : App.Step t.app label a')
    (onlyMode : OnlyMode label) (loads : Loads t.settings label)
    (chosen : Chosen t.app t.settings) : Chosen a' (t.settingsAfter label) := by
  cases step with
  | command => exact onlyMode.elim
  | page step =>
      refine PageStep.chosen step ?_ loads chosen
      rintro rfl
      exact onlyMode
  | newVpn => exact onlyMode.elim
  | vpn _ _ _ => exact chosen
  | newProbe => exact chosen
  | probe _ step =>
      have page := (ProbeStep.aside step).index
      unfold Chosen Pending
      rw [page]
      exact chosen
  | rewrite => exact chosen

/-! ## What `onCreate` makes of a start -/

section Launching

variable {v : VpnAbility}

/-- The fields of a start are those of another state: where the ability connects to, and how. -/
structure SameStart (v v' : VpnAbility) : Prop where
  stopped : v'.stopped = v.stopped
  port : v'.port = v.port
  dns : v'.dnsAddress = v.dnsAddress
  mode : v'.ipv6Mode = v.ipv6Mode

theorem SameStart.trans {v₁ v₂ v₃ : VpnAbility} (first : SameStart v₁ v₂)
    (second : SameStart v₂ v₃) : SameStart v₁ v₃ :=
  ⟨second.stopped.trans first.stopped, second.port.trans first.port, second.dns.trans first.dns,
    second.mode.trans first.mode⟩

theorem sameStart_publish (status : Status) (message : String) :
    SameStart v (v.publish status message) := by
  unfold VpnAbility.publish
  split <;> exact ⟨rfl, rfl, rfl, rfl⟩

theorem sameStart_cleanup (after : AfterCleanup) : SameStart v (v.cleanup after) := by
  unfold VpnAbility.cleanup VpnAbility.closeSocket
  simp only
  split
  · exact ⟨rfl, rfl, rfl, rfl⟩
  · split <;> exact ⟨rfl, rfl, rfl, rfl⟩

/-- To establish the tunnel no part of the start is looked at again. -/
theorem sameStart_establish (generation : ℕ) (socket : Except JsError ℕ) :
    SameStart v (v.establish generation socket) := by
  unfold VpnAbility.establish
  split
  · exact ⟨rfl, rfl, rfl, rfl⟩
  · apply (sameStart_publish .connecting "正在连接…").trans
    cases socket with
    | ok fd => exact ⟨rfl, rfl, rfl, rfl⟩
    | error err =>
        refine SameStart.trans ?_ (sameStart_cleanup _)
        exact ⟨rfl, rfl, rfl, rfl⟩

/-- What is launched has the port, the resolver and the mode that `onCreate` has chosen. -/
theorem sameStart_launch (creation : VpnAbility.Creation) :
    SameStart { v with stopped := false } (v.launch creation) := by
  unfold VpnAbility.launch
  cases creation.connection with
  | ok _ =>
      refine SameStart.trans ?_ (sameStart_establish _ _)
      exact ⟨rfl, rfl, rfl, rfl⟩
  | error _ =>
      refine SameStart.trans ?_ (sameStart_publish _ _)
      exact ⟨rfl, rfl, rfl, rfl⟩

/-- **With the consent `onCreate` starts a tunnel exactly with the port and the address that its
parameters, the status file and the default come to.**  The parameters come before the file, and
the file before the default; the address is never in the file, so that a start without parameters
has the default one. -/
theorem onCreate_starts_iff {creation : VpnAbility.Creation} {currentSession port : ℕ}
    {dnsAddress : String} (consent : hasPrivacyConsent creation.consent = true) :
    (((VpnAbility.new currentSession).onCreate creation).stopped = false ∧
      ((VpnAbility.new currentSession).onCreate creation).port = port ∧
      ((VpnAbility.new currentSession).onCreate creation).dnsAddress = dnsAddress) ↔
    requestedPort creation.want creation.status = some port ∧
      requestedDns creation.want "10.0.0.3" = some dnsAddress := by
  have address : (VpnAbility.new currentSession).dnsAddress = "10.0.0.3" := rfl
  have off : (VpnAbility.new currentSession).stopped = true := rfl
  unfold VpnAbility.onCreate
  rw [if_neg (ne_false_of_eq_true consent)]
  cases requestedPort creation.want creation.status with
  | none => simp [(sameStart_publish _ _).stopped, off]
  | some port' =>
      simp only [address]
      cases requestedDns creation.want "10.0.0.3" with
      | none => simp [(sameStart_publish _ _).stopped, off]
      | some dns =>
          simp [(sameStart_launch creation).stopped, (sameStart_launch creation).port,
            (sameStart_launch creation).dns]

/-- The mode of an ability that was let in is the one that its want or the settings say. -/
theorem onCreate_mode {creation : VpnAbility.Creation} {currentSession port : ℕ}
    {dnsAddress : String} (consent : hasPrivacyConsent creation.consent = true)
    (asked : requestedPort creation.want creation.status = some port)
    (listed : requestedDns creation.want "10.0.0.3" = some dnsAddress) :
    ((VpnAbility.new currentSession).onCreate creation).ipv6Mode =
      requestedMode creation.number creation.want creation.settings := by
  have address : (VpnAbility.new currentSession).dnsAddress = "10.0.0.3" := rfl
  unfold VpnAbility.onCreate
  rw [if_neg (ne_false_of_eq_true consent), asked]
  simp only [address, listed]
  exact (sameStart_launch creation).mode

end Launching

/-! ## What a request comes to -/

section Remembering

variable {request parameters : List (String × String)} {status : StoredFile} {port : ℕ}
  {dnsAddress : String}

/-- Apart from the mode the parameters are those of the host's request, or there are none. -/
def Remembered (request parameters : List (String × String)) : Prop :=
  (∀ name ≠ "ipv6Mode", parameterOf parameters name = parameterOf request name) ∨
    ∀ name ≠ "ipv6Mode", parameterOf parameters name = none

/-- The mode is left out of the comparison, so a request stays remembered when one is written to
it. -/
theorem Remembered.assign (remembered : Remembered request parameters) (value : String) :
    Remembered request (ReverseTether.assign parameters "ipv6Mode" value) := by
  have other {name : String} (ne : name ≠ "ipv6Mode") := @parameterOf_assign_of_ne parameters
    "ipv6Mode" name value ne
  rcases remembered with kept | cleared
  · exact .inl fun name ne ↦ (other ne).trans (kept name ne)
  · exact .inr fun name ne ↦ (other ne).trans (cleared name ne)

/-- The port that a request of texts asks for, or else the stored one, if it is one that may be
used. -/
theorem requestedPort_of (parameters : List (String × String)) (status : StoredFile) :
    requestedPort (.of parameters) status =
      (((parameterOf parameters "port").elim (storedPort status) fun port ↦
        (WantValue.string port).port).filter fun port ↦ 1024 ≤ port ∧ port ≤ 65535).map
          Int.toNat := by
  unfold requestedPort
  rw [Want.of_parameter]
  cases parameterOf parameters "port" <;> rfl

/-- The resolver that a request of texts asks for, or else the virtual one. -/
theorem requestedDns_of (parameters : List (String × String)) :
    requestedDns (.of parameters) "10.0.0.3" =
      (parameterOf parameters "dns").elim (some "10.0.0.3") fun dns ↦
        if dns ≠ "" then if isDnsAddress dns then some dns else none else some "10.0.0.3" := by
  unfold requestedDns
  rw [Want.of_parameter]
  cases parameterOf parameters "dns" <;> rfl

/-- A parameter that is not named comes from the file, and then has to be the port. -/
theorem requestedPort_unnamed (absent : parameterOf parameters "port" = none)
    (range : 1024 ≤ port ∧ port ≤ 65535) :
    requestedPort (.of parameters) status = some port ↔ storedPort status = some (port : ℤ) := by
  rw [requestedPort_of, absent]
  simp only [Option.elim_none, Option.map_eq_some_iff, Option.filter_eq_some_iff,
    decide_eq_true_eq]
  constructor
  · rintro ⟨stored, ⟨eq, low, -⟩, rfl⟩
    rw [eq, Int.toNat_of_nonneg (by omega)]
  · intro eq
    exact ⟨port, ⟨eq, by omega⟩, Int.toNat_natCast port⟩

/-- A port that is accepted is no system port, and fits in 16 bits. -/
theorem requestedPort_range (asked : requestedPort (.of parameters) status = some port) :
    1024 ≤ port ∧ port ≤ 65535 := by
  rw [requestedPort_of] at asked
  simp only [Option.map_eq_some_iff, Option.filter_eq_some_iff, decide_eq_true_eq] at asked
  obtain ⟨value, ⟨-, low, high⟩, rfl⟩ := asked
  omega

/-- A parameter that is still named is the host's. -/
theorem Remembered.named (remembered : Remembered request parameters) {name value : String}
    (ne : name ≠ "ipv6Mode") (named : parameterOf parameters name = some value) :
    parameterOf request name = some value := by
  rcases remembered with kept | cleared
  · exact (kept name ne).symm.trans named
  · exact absurd ((cleared name ne).symm.trans named) nofun

/-- **The port of a start behind a request that may be forgotten.**  Either the request is still
there and names it, or the status file does, which the start before has written. -/
theorem requestedPort_iff (asks : Asks request status port dnsAddress)
    (remembered : Remembered request parameters) (file : StoredFile) :
    requestedPort (.of parameters) file = some port ↔
      parameterOf parameters "port" ≠ none ∨ storedPort file = some (port : ℤ) := by
  cases named : parameterOf parameters "port" with
  | none => simp [requestedPort_unnamed named (requestedPort_range asks.port)]
  | some text =>
      have asked := asks.port
      rw [requestedPort_of, remembered.named (by decide) named] at asked
      simp only [ne_eq, reduceCtorEq, not_false_eq_true, true_or, iff_true]
      rw [requestedPort_of, named]
      exact asked

/-- **The address of a start behind a request that may be forgotten.**  There is no second place
that it is kept in, so it comes back only if it is the default. -/
theorem requestedDns_iff (asks : Asks request status port dnsAddress)
    (remembered : Remembered request parameters) :
    requestedDns (.of parameters) "10.0.0.3" = some dnsAddress ↔
      parameterOf parameters "dns" ≠ none ∨ dnsAddress = "10.0.0.3" := by
  cases named : parameterOf parameters "dns" with
  | none =>
      rw [requestedDns_of, named]
      simp only [Option.elim_none, Option.some.injEq, ne_eq, not_true_eq_false, false_or]
      exact eq_comm
  | some text =>
      have asked := asks.dns
      rw [requestedDns_of, remembered.named (by decide) named] at asked
      simp only [ne_eq, reduceCtorEq, not_false_eq_true, true_or, iff_true]
      rw [requestedDns_of, named]
      exact asked

end Remembering

/-! ## The restarts -/

/-- The tunnel of the restart has the port, the address and the stored mode. -/
structure Same (port : ℕ) (dnsAddress : String) (r : Restart) : Prop where
  started : r.ability.stopped = false
  port : r.ability.port = port
  dns : r.ability.dnsAddress = dnsAddress
  mode : r.ability.ipv6Mode = loadIpv6Mode r.launch.settings

/-- What the request that is remembered no longer names is the default, or in the status file. -/
structure Keeps (port : ℕ) (dnsAddress : String) (r : Restart) : Prop where
  port : parameterOf r.launch.request "port" ≠ none ∨ storedPort r.status = some (port : ℤ)
  dns : parameterOf r.launch.request "dns" ≠ none ∨ dnsAddress = "10.0.0.3"

/-- A start for the stored mode, behind the host's request: the parameters are those that were
remembered, with the mode put in. -/
structure Launch.Behind (request : List (String × String)) (l : Launch) : Prop where
  remembered : Remembered request l.request
  parameters : l.parameters =
    assign l.request "ipv6Mode" (App.modeText (loadIpv6Mode l.settings))

/-- The ability was made for its start: it was given the parameters of the launch, and has read the
status and the mode that were stored. -/
structure Made (request : List (String × String)) (r : Restart) : Prop where
  launch : Launch.Behind request r.launch
  ability : ∃ creation currentSession,
    r.ability = (VpnAbility.new currentSession).onCreate creation ∧
      creation.want = .of r.launch.parameters ∧ creation.status = r.status ∧
      creation.number = modeNumber ∧ hasPrivacyConsent creation.consent = true

/-- A restart has the port, the resolver and the mode exactly when what was forgotten of the
request is in the status file or a default. -/
theorem Made.same_iff {request : List (String × String)} {r : Restart} {status : StoredFile}
    {port : ℕ} {dnsAddress : String} (made : Made request r)
    (asks : Asks request status port dnsAddress) :
    Same port dnsAddress r ↔ Keeps port dnsAddress r := by
  obtain ⟨⟨remembered, parameters⟩, creation, currentSession, ability, want, file, number,
    consent⟩ := made
  have starts := @onCreate_starts_iff creation currentSession port dnsAddress consent
  rw [← ability, want, file, requestedPort_iff asks (parameters ▸ remembered.assign _),
    requestedDns_iff asks (parameters ▸ remembered.assign _), parameters,
    parameterOf_assign_of_ne (by decide), parameterOf_assign_of_ne (by decide)] at starts
  constructor
  · intro same
    obtain ⟨port, dns⟩ := starts.mp ⟨same.started, same.port, same.dns⟩
    exact ⟨port, dns⟩
  · intro keeps
    obtain ⟨started, port, dns⟩ := starts.mpr ⟨keeps.port, keeps.dns⟩
    refine ⟨started, port, dns, ?_⟩
    have asked := (onCreate_starts_iff consent).mp ⟨ability ▸ started, rfl, rfl⟩
    rw [ability, onCreate_mode consent asked.1 asked.2, number, want, parameters]
    unfold requestedMode
    rw [Want.of_parameter, parameterOf_assign_self]
    exact normalizeIpv6Mode_modeText _

/-! ## The runs -/

/-- What holds of every state behind a start with the host's `request`.  The restarts are the part
that the statement is about, and the others are what they are proved from. -/
structure Behind (request : List (String × String)) (t : Tether) : Prop where
  remembered : Remembered request t.app.parameters
  chosen : Chosen t.app t.settings
  launches : ∀ l ∈ t.launches, Launch.Behind request l
  restarts : ∀ r ∈ t.restarts, Made request r

theorem launched_nil {t : Tether} {a' : App} (same : a'.starts = t.app.starts) :
    t.launched a' = [] := by
  unfold launched
  rw [same, List.drop_length, List.map_nil]

/-- A step of the app leaves a request that is remembered, and the starts that it asks for carry
it. -/
theorem Behind.app {request : List (String × String)} {t : Tether} {a' : App}
    {label : App.Label} {status : StoredFile} (behind : Behind request t)
    (step : App.Step t.app label a') (onlyMode : OnlyMode label)
    (loads : Loads t.settings label) :
    Behind request { t with
      app := a', status, settings := t.settingsAfter label
      launches := t.launches ++ t.launched a' } := by
  have chosen := Step.chosen step onlyMode loads behind.chosen
  have kept {l : Launch} (same : a'.starts = t.app.starts)
      (mem : l ∈ t.launches ++ t.launched a') : Launch.Behind request l := by
    rw [launched_nil same, List.append_nil] at mem
    exact behind.launches l mem
  cases Step.requests step onlyMode with
  | kept parameters starts =>
      refine ⟨?_, chosen, fun _ ↦ kept starts, behind.restarts⟩
      rw [show a'.parameters = _ from parameters]
      exact behind.remembered
  | assigned mode parameters starts =>
      refine ⟨?_, chosen, fun _ ↦ kept starts, behind.restarts⟩
      rw [show a'.parameters = _ from parameters]
      exact behind.remembered.assign _
  | cleared parameters starts =>
      refine ⟨.inr fun name _ ↦ ?_, chosen, fun _ ↦ kept starts, behind.restarts⟩
      rw [show a'.parameters = _ from parameters]
      rfl
  | launched pending parameters starts =>
      refine ⟨?_, chosen, fun l mem ↦ ?_, behind.restarts⟩
      · rw [show a'.parameters = _ from parameters]
        exact behind.remembered.assign _
      · rcases List.mem_append.mp mem with old | new
        · exact behind.launches l old
        · unfold Tether.launched at new
          rw [starts, List.drop_left, List.map_singleton, List.mem_singleton] at new
          subst new
          refine ⟨behind.remembered, ?_⟩
          rw [parameters, behind.chosen pending]

/-- Every step of the tether keeps what is behind the starts: the request, the mode and the
abilities made of them. -/
theorem Behind.step {request : List (String × String)} {t t' : Tether} {label : Label}
    (behind : Behind request t) (step : Step t label t') : Behind request t' := by
  cases step with
  | app step onlyMode loads => exact behind.app step onlyMode loads
  | @restart launch creation currentSession saved v mem reads consent made =>
      refine ⟨behind.remembered, behind.chosen, behind.launches, fun r new ↦ ?_⟩
      rcases List.mem_append.mp new with old | new
      · exact behind.restarts r old
      · cases List.mem_singleton.mp new
        exact ⟨behind.launches launch mem, creation, currentSession, made, reads.want,
          reads.status, reads.number, reads.consent ▸ consent⟩

/-- A start command of the host is remembered, and the ability is asked for with it at once. -/
theorem handleCommand_start {a : App} {text : JsNumber → String} {want : Want}
    (commanded : want.parameter "command" = some (.string "start"))
    (consent : hasPrivacyConsent a.consent = true) :
    a.handleCommand text want = { a with parameters := rememberTetherRequest text want }.act
      (.startVpnExtensionAbility (rememberTetherRequest text want)) := by
  unfold App.handleCommand
  rw [commanded]
  simp only [consent, Bool.true_eq_false, if_false]

/-- Where a run begins, the request of the host is remembered and its ability was made of it. -/
theorem Started.behind {port : ℕ} {dnsAddress : String} {t : Tether}
    (started : Started port dnsAddress t) :
    ∃ request status, Asks request status port dnsAddress ∧ Behind request t := by
  cases started with
  | @intro t text want creation currentSession saved v commanded consent idle asks _ _ =>
      refine ⟨_, _, asks, ?_⟩
      rw [handleCommand_start commanded consent]
      refine ⟨.inl fun name _ ↦ rfl, ?_, fun _ mem ↦ absurd mem List.not_mem_nil,
        fun _ mem ↦ absurd mem List.not_mem_nil⟩
      rintro (stopping | applying)
      · exact absurd (idle _ stopping) nofun
      · exact absurd (idle _ applying) nofun

/-- In every reachable state the starts are behind the one request of the host. -/
theorem reachable_behind {port : ℕ} {dnsAddress : String} {t : Tether}
    (reachable : (machine port dnsAddress).Reachable t) :
    ∃ request status, Asks request status port dnsAddress ∧ Behind request t := by
  obtain ⟨steps, run⟩ := reachable
  exact run.invariant (fun t ↦ ∃ request status, Asks request status port dnsAddress ∧
      Behind request t)
    (fun _ started ↦ Started.behind started)
    (fun _ _ _ ⟨request, status, asks, behind⟩ _ step ↦
      ⟨request, status, asks, behind.step step⟩) (Machine.meets_true steps)

/-- **A restart has the port and the address of the host's start exactly as far as they are
still remembered, or are what `onCreate` falls back to.**  The mode is the stored one. -/
theorem restarts_same_iff {port : ℕ} {dnsAddress : String} {t : Tether}
    (reachable : (machine port dnsAddress).Reachable t) :
    ∀ r ∈ t.restarts, Same port dnsAddress r ↔ Keeps port dnsAddress r := by
  obtain ⟨request, status, asks, behind⟩ := reachable_behind reachable
  intro r mem
  exact (behind.restarts r mem).same_iff asks

/-! ### A run in which the address is lost -/

/-- The page of a tunnel that is connected. -/
def connectedPage : Index where
  status := .connected
  message := ""
  probing := false
  acting := false
  consent := true
  ipv6Mode := .off
  promptOnShow := false
  dialogVisible := false
  request := false
  tasks := []

/-- The app when the host asks for a start. -/
def askedApp : App where
  consent := acceptPrivacy 1
  parameters := []
  index := connectedPage
  vpns := []
  probes := []
  server := ⟨"", false⟩
  actions := []

/-- A fresh app, with the ability that the host has asked it for and without any file. -/
def asked : Tether := ⟨askedApp, .unreadable, .unreadable, [], []⟩

/-- What the script of the host sends along: its port, and a resolver of its own. -/
def hostRequest : List (String × String) := [("dns", "1.1.1.1"), ("port", "31000")]

/-- The want that the system makes of it. -/
def hostWant : Want :=
  ⟨[("command", .string "start"), ("dns", .string "1.1.1.1"), ("port", .string "31000")]⟩

/-- The system answers every call. -/
def answered (parameters : List (String × String)) (status settings : StoredFile) :
    VpnAbility.Creation :=
  ⟨.of parameters, acceptPrivacy 1, status, settings, modeNumber, 7, .ok (), .ok 5⟩

theorem isDnsAddress_hostRequest : isDnsAddress "1.1.1.1" = true := by
  have parts : "1.1.1.1".splitOn "." = ["1", "1", "1", "1"] := by
    unfold String.splitOn
    rw [if_neg (by decide)]
    iterate 3
      rw [splitOnAux_next (by decide) (by decide),
        splitOnAux_separator (by decide) (by decide) (by decide)]
    rw [splitOnAux_next (by decide) (by decide), splitOnAux_end (by decide)]
    rfl
  unfold isDnsAddress
  rw [parts]
  decide

theorem asks_hostRequest : Asks hostRequest .unreadable 31000 "1.1.1.1" := by
  refine ⟨by decide, ?_⟩
  rw [requestedDns_of]
  exact if_pos isDnsAddress_hostRequest

/-- A want that leaves the DNS address to the app. -/
def portWant : Want := ⟨[("command", .string "start"), ("port", .string "31000")]⟩

theorem asks_portWant :
    Asks (rememberTetherRequest (fun _ ↦ "") portWant) .unreadable 31000 "10.0.0.3" :=
  ⟨by decide, by decide⟩

/-- The user changes the mode once, and the page stops the tunnel and starts it.  The host's
request is forgotten, and the ability of it has left its status. -/
theorem reachable_restarted {want : Want} {dnsAddress : String}
    (commanded : want.parameter "command" = some (.string "start"))
    (asks : Asks (rememberTetherRequest (fun _ ↦ "") want) .unreadable 31000 dnsAddress) :
    ∃ t, (machine 31000 dnsAddress).Reachable t ∧ ∃ r ∈ t.restarts, r.launch.request = [] ∧
      r.status = statusAfter .unreadable (.new 0) ((VpnAbility.new 0).onCreate
        (answered (rememberTetherRequest (fun _ ↦ "") want) .unreadable .unreadable)) (some 1) := by
  have started := Machine.Run.start (show (machine 31000 dnsAddress).start _ from
    @Started.intro _ _ asked (fun _ ↦ "") want
      (answered (rememberTetherRequest (fun _ ↦ "") want) .unreadable .unreadable) 0 (some 1) _ commanded
      (hasPrivacyConsent_acceptPrivacy Nat.one_pos) nofun asks ⟨rfl, rfl, rfl, rfl, rfl⟩ rfl)
  rw [handleCommand_start commanded (hasPrivacyConsent_acceptPrivacy Nat.one_pos)] at started
  have changed := started.step (show (machine 31000 dnsAddress).step _
    (.app (.page (.applyIpv6Mode .proxy true)) none) _ from
      .app (.page .applyIpv6Mode) trivial trivial)
  have stopped := changed.step (show (machine 31000 dnsAddress).step _
    (.app (.page (.stopped true (.ok ()) ⟨.stopped, saveIpv6Mode .proxy⟩)) none) _ from
      .app (.page (@App.PageStep.stopped _ [] [] _ _ _ rfl)) trivial rfl)
  have applied := stopped.step (show (machine 31000 dnsAddress).step _
    (.app (.page .apply) none) _ from
      .app (.page (@App.PageStep.apply _ [] [] rfl)) trivial trivial)
  have restarted := applied.step (show (machine 31000 dnsAddress).step _
    (.restart ⟨[], saveIpv6Mode .proxy, assign [] "ipv6Mode" "1"⟩
      (answered (assign [] "ipv6Mode" "1") _ _) 1 (some 2)) _ from
      .restart (List.mem_singleton.mpr rfl) ⟨rfl, rfl, rfl, rfl, rfl⟩
        (hasPrivacyConsent_acceptPrivacy Nat.one_pos) rfl)
  exact ⟨_, ⟨_, restarted⟩, _, List.mem_singleton.mpr rfl, rfl, rfl⟩

/-- Behind a request that names the port alone, both are what `onCreate` falls back to; behind one
that names a DNS address, that one is lost. -/
theorem restarts_same_iff_restarted :
    (∃ r : Restart, r.launch.request = [] ∧ Same 31000 "10.0.0.3" r) ∧
      ∃ r : Restart, r.launch.request = [] ∧ ¬Same 31000 "1.1.1.1" r := by
  constructor
  · obtain ⟨t, reachable, r, mem, forgotten, status⟩ := @reachable_restarted portWant "10.0.0.3" rfl asks_portWant
    refine ⟨r, forgotten, (restarts_same_iff reachable r mem).mpr ⟨.inr ?_, .inr rfl⟩⟩
    rw [status, statusAfter, if_pos (by decide), storedPort_saveState]
    rfl
  · obtain ⟨t, reachable, r, mem, forgotten, -⟩ := @reachable_restarted hostWant "1.1.1.1" rfl asks_hostRequest
    refine ⟨r, forgotten, fun same ↦ ?_⟩
    rcases ((restarts_same_iff reachable r mem).mp same).dns with named | default
    · rw [forgotten] at named
      exact named rfl
    · exact absurd default (by decide)

/-- The new tunnel has another DNS address. -/
theorem restarts_not_same : ¬∀ port dnsAddress t, (machine port dnsAddress).Reachable t →
    ∀ r ∈ t.restarts, Same port dnsAddress r := by
  intro always
  obtain ⟨t, reachable, r, mem, forgotten, -⟩ := @reachable_restarted hostWant "1.1.1.1" rfl asks_hostRequest
  obtain ⟨request, status, asks, behind⟩ := reachable_behind reachable
  have keeps := ((behind.restarts r mem).same_iff asks).mp (always _ _ t reachable r mem)
  rcases keeps.dns with named | default
  · rw [forgotten] at named
    exact named rfl
  · exact absurd default (by decide)

end Tether

end ReverseTether
