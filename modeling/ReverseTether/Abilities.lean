import ReverseTether.VpnAbility

/-!
# The abilities of the app together

`EntryAbility` takes commands of the host, `Index` is the page of the app, `ProbeAbility`
runs a network check for the host, and `TetherVpnAbility` is the tunnel.  They share the
record of the consent, and the page and `EntryAbility` the parameters of the host's request.

`App` is all of them, with the network actions that were started.  What the other files hold
and what a call answers is input, and a method that awaits is a task, as in the VPN ability.

The parts run in one process and are called in any order.  `Step` lets the host send a
command, the system call an ability, the user press a button and any awaited promise settle,
and each of these finds the other parts as they are.  What a part stores is read by another
one only where the source does so: the consent and the request are shared, the rest is not.

A method is cut at its awaits, and the pieces are named after what they wait for.  A promise
that settles late finds its task still listed, whatever has happened since, which is where the
flags of the page (`acting`) come in.
-/

namespace ReverseTether

open Library

/-- What the privacy promise is about: everything by which the app makes use of the network or asks
the system for a VPN, down to the check that is sent over HTTP. -/
inductive NetworkAction
  | startVpnExtensionAbility (parameters : List (String × String))
  | createVpnConnection
  | createSocket
  /-- A `ProbeRun` is made, or run. -/
  | probeRun
  | resultListener
  | httpCheck
  deriving DecidableEq, Repr

/-! ## The request of the host -/

/-- `parameters[name] = value`. -/
def assign (parameters : List (String × String)) (name value : String) : List (String × String) :=
  parameters.filter (·.1 ≠ name) ++ [(name, value)]

/-- The parameters that are kept while the user reads the policy; `text` is the conversion of a
number. -/
def rememberTetherRequest (text : JsNumber → String) (want : Want) : List (String × String) :=
  let dns := match want.parameter "dns" with
    | some (.string dns) => if dns ≠ "" then [("dns", dns)] else []
    | _ => []
  let port := match want.parameter "port" with
    | some (.string port) => [("port", port)]
    | some (.number port) => [("port", text port)]
    | _ => []
  dns ++ port

/-! ## The network check for the host -/

/-- The listener that hands out the result of a check.  It is made with the first check and serves
the ones behind it, too. -/
structure ProbeResultServer where
  /-- Empty when no check is active. -/
  requestId : String
  /-- There is a listener, or it is being made. -/
  starting : Bool

/-- A method of the ability for checks that awaits a promise: the listener is made, and then the
check runs. -/
inductive ProbeTask
  /-- `probeResultServer.begin`. -/
  | beginning
  /-- `run.run`. -/
  | running
  deriving DecidableEq, Repr

/-- `ProbeAbility`: the identifiers of its suspend delay and its timer, `-1` when there is none,
and what it still awaits. -/
structure ProbeAbility where
  /-- There is a `ProbeRun`. -/
  run : Bool
  id : String
  delayId : ℤ
  timer : ℤ
  finished : Bool
  tasks : List ProbeTask

/-- The ability as the system makes it, before a want has reached it. -/
def ProbeAbility.new : ProbeAbility := ⟨false, "", -1, -1, false, []⟩

/-! ## The page -/

/-- A method of the page that awaits a promise.  The page goes on meanwhile, so that more than one
of them can be open. -/
inductive PageTask
  /-- `start`, in `startVpnExtensionAbility`. -/
  | starting
  /-- `stop`, in `stopVpnExtensionAbility`; a new mode is applied behind it, or not. -/
  | stopping (applies : Bool)
  /-- `applyIpv6Mode`, behind `stop`. -/
  | applying
  /-- `probe`, in `request`. -/
  | requesting
  deriving DecidableEq, Repr

/-- The page: what it shows, which of its buttons are busy, and the promises its methods still
await. -/
structure Index where
  /-- The state that was loaded. -/
  status : Status
  message : String
  probing : Bool
  acting : Bool
  consent : Bool
  ipv6Mode : Ipv6Mode
  promptOnShow : Bool
  dialogVisible : Bool
  /-- There is an `HttpRequest`. -/
  request : Bool
  tasks : List PageTask

/-- What `refresh` loads besides the consent: the status that was published and the file of the
settings. -/
structure Loaded where
  status : Status
  settings : StoredFile

/-! ## The app -/

/-- All of the app that is alive at once, over the one record of the consent that its parts share.
-/
structure App where
  /-- `privacy-consent.json`. -/
  consent : StoredFile
  /-- The request of the host. -/
  parameters : List (String × String)
  index : Index
  vpns : List VpnAbility
  probes : List ProbeAbility
  server : ProbeResultServer
  /-- The network actions of the page, of `EntryAbility` and of the checks. -/
  actions : List NetworkAction

/-- A call of the VPN ability that is a network action. -/
def Effect.network : Effect → Option NetworkAction
  | .createVpnConnection => some .createVpnConnection
  | .createSocket _ => some .createSocket
  | _ => none

/-- The network actions among the calls that an ability has made so far, in their order. -/
def VpnAbility.network (s : VpnAbility) : List NetworkAction := s.effects.filterMap Effect.network

namespace App

/-- Every network action that was started. -/
def network (a : App) : List NetworkAction := a.actions ++ a.vpns.flatMap VpnAbility.network

/-- One more network action is started, by a part of the app that is not a VPN ability. -/
def act (a : App) (action : NetworkAction) : App := { a with actions := a.actions ++ [action] }

/-! ### `EntryAbility` -/

/-- First use must pass both the app policy and the OS VPN consent dialog. -/
def handleCommand (a : App) (text : JsNumber → String) (want : Want) : App :=
  match want.parameter "command" with
  | some (.string "start") =>
      let a := { a with parameters := rememberTetherRequest text want }
      if hasPrivacyConsent a.consent = false then a
      else a.act (.startVpnExtensionAbility a.parameters)
  | some (.string "stop") => { a with parameters := [] }
  | _ => a

/-! ### `ProbeAbility` -/

/-- `end`: the check is no longer active. -/
def endProbe (a : App) (id : String) : App :=
  if id = a.server.requestId then { a with server := { a.server with requestId := "" } } else a

/-- The ability at a place, and the app when it has run. -/
def setProbe (a : App) (place : ℕ) (p : ProbeAbility) : App :=
  { a with probes := a.probes.set place p }

/-- Timers and the suspend delay are dropped. -/
def cleanupProbe (a : App) (place : ℕ) (p : ProbeAbility) : App :=
  (a.setProbe place { p with delayId := -1 }).endProbe p.id

/-- `finish`: the check is cleaned up once, by whichever of its ends comes first. -/
def finishProbe (a : App) (place : ℕ) (p : ProbeAbility) : App :=
  if p.finished then a.setProbe place p else a.cleanupProbe place { p with finished := true }

/-- What `begin` does before its promise; `none` is "probe_busy". -/
def beginProbe (a : App) (id : String) : Option App :=
  if a.server.requestId ≠ "" then none
  else if a.server.starting then
    some { a with server := { a.server with requestId := id } }
  else some ({ a with server := ⟨id, true⟩ }.act .resultListener)

/-- What a start of a check is answered: the id that `parseRequest` finds in a text, and the
delay that the system grants, if it does. -/
structure ProbeStart where
  parseRequest : String → Option String
  /-- `requestId` and `actualDelayTime`. -/
  delay : Option (ℕ × ℕ)
  timer : ℕ

/-- `start` up to its first promise. -/
def startProbe (a : App) (place : ℕ) (p : ProbeAbility) (want : Want) (input : ProbeStart) : App :=
  if hasPrivacyConsent a.consent = false then a.finishProbe place p
  else
    match want.parameter "request" with
    | some (.string encoded) =>
        match input.parseRequest encoded with
        | none => a.finishProbe place p
        | some id =>
            let a := a.act .probeRun
            let p := { p with id, run := true }
            match input.delay with
            | none => a.finishProbe place p
            | some (delayId, actualDelayTime) =>
                let p := { p with delayId := delayId }
                if actualDelayTime < 20000 then a.finishProbe place p
                else
                  let p := { p with timer := input.timer }
                  match a.beginProbe id with
                  | none => a.finishProbe place p
                  | some a => a.setProbe place { p with tasks := p.tasks ++ [.beginning] }
    | _ => a.finishProbe place p

/-- `start` when `begin` settles. -/
def beganProbe (a : App) (place : ℕ) (p : ProbeAbility) (listening : Bool) : App :=
  if listening then (a.act .probeRun).setProbe place { p with tasks := p.tasks ++ [.running] }
  else ({ a with server := { a.server with starting := false } }.endProbe p.id).finishProbe place p

/-! ### `Index` -/

/-- `refresh`: the page shows the state, the consent and the mode that are stored. -/
def refresh (a : App) (loaded : Loaded) : App :=
  { a with index := { a.index with
      status := loaded.status
      consent := hasPrivacyConsent a.consent
      ipv6Mode := loadIpv6Mode loaded.settings } }

/-- The dialog with the policy opens over the page. -/
def showPrivacy (a : App) : App := { a with index := { a.index with dialogVisible := true } }

/-- The page is shown. -/
def onPageShow (a : App) (loaded : Loaded) : App :=
  let a := a.refresh loaded
  if a.index.consent = false ∧ a.index.promptOnShow then a.showPrivacy else a

/-- The page is left: the request of its own network check, if there is one, is destroyed. -/
def aboutToDisappear (a : App) : App := { a with index := { a.index with request := false } }

/-- The user goes on to read the whole policy; the dialog comes back when the page is shown again.
-/
def readPrivacy (a : App) : App :=
  { a with index := { a.index with dialogVisible := false, promptOnShow := true } }

/-- `now` is the clock when the record is written, or `none` when that fails. -/
def agree (a : App) (now : Option ℕ) : App :=
  let a := match now with
    | some now => { a with
        consent := acceptPrivacy now
        index := { a.index with consent := true, message := "" } }
    | none => { a with
        index := { a.index with message := "无法保存隐私选择，请重试。连接和联网检查尚未启用。" } }
  { a with index := { a.index with promptOnShow := false, dialogVisible := false } }

/-- The user refuses: the dialog closes and nothing is recorded. -/
def decline (a : App) : App :=
  { a with index := { a.index with promptOnShow := false, dialogVisible := false } }

/-- The gate of every action of the page: the record is read again, and without a consent the
dialog opens. -/
def requireConsent (a : App) : Bool × App :=
  let a := { a with index := { a.index with consent := hasPrivacyConsent a.consent } }
  (a.index.consent, if a.index.consent = false then a.showPrivacy else a)

/-- A method of the page comes to a promise, and is resumed when it settles. -/
def suspend (a : App) (task : PageTask) : App :=
  { a with index := { a.index with tasks := a.index.tasks ++ [task] } }

/-- `String(mode)`. -/
def modeText : Ipv6Mode → String
  | .off => "0"
  | .proxy => "1"
  | .blackhole => "2"

/-- `vpnWant`: the mode is written into the parameters that are kept. -/
def vpnWant (a : App) : App :=
  { a with parameters := assign a.parameters "ipv6Mode" (modeText a.index.ipv6Mode) }

/-- `start` up to its promise. -/
def start (a : App) : App :=
  if a.index.acting then a
  else
    match a.requireConsent with
    | (false, a) => a
    | (true, a) =>
        let a := { a with index := { a.index with
          acting := true, message := "首次连接时，请允许系统的 VPN 请求" } }.vpnWant
        (a.act (.startVpnExtensionAbility a.parameters)).suspend .starting

/-- `start` when its promise settles. -/
def started (a : App) (answer : Except Unit Unit) (loaded : Loaded) : App :=
  let a := match answer with
    | .ok () => a
    | .error () =>
        { a with index := { a.index with message := "连接请求失败，请检查系统 VPN 授权后重试。" } }
  { a with index := { a.index with acting := false } }.refresh loaded

/-- `stop` up to its promise. -/
def stop (a : App) (applies : Bool) : App :=
  if a.index.acting then a
  else { a with index := { a.index with acting := true } }.vpnWant.suspend (.stopping applies)

/-- `stop` when its promise settles. -/
def stopped (a : App) (applies : Bool) (answer : Except Unit Unit) (loaded : Loaded) : App :=
  let a := match answer with
    | .ok () => { a with parameters := [], index := { a.index with message := "" } }
    | .error () =>
        { a with index := { a.index with message := "断开失败，请重试或在系统设置中断开 VPN。" } }
  let a := { a with index := { a.index with acting := false } }.refresh loaded
  if applies then a.suspend .applying else a

/-- `applyIpv6Mode` up to its first promise.  A running tunnel keeps its old routes until it
is re-established. -/
def applyIpv6Mode (a : App) (mode : Ipv6Mode) (saved : Bool) : App :=
  if a.index.acting then a
  else if saved = false then { a with index := { a.index with message := "保存设置失败，请重试。" } }
  else
    let a := { a with index := { a.index with ipv6Mode := mode } }
    if a.index.status = .stopped then a
    else { a with index := { a.index with message := "正在应用新设置…" } }.stop true

/-- The button of the page. -/
def onClick (a : App) : App := if a.index.status = .stopped then a.start else a.stop false

/-- `probe` up to its promise. -/
def probe (a : App) : App :=
  if a.index.probing then a
  else
    match a.requireConsent with
    | (false, a) => a
    | (true, a) =>
        ({ a with index := { a.index with probing := true, request := true } }.act
          .httpCheck).suspend .requesting

/-- `probe` when its promise settles: `answer` is the code of the response. -/
def probed (a : App) (answer : Except Unit ℕ) : App :=
  let message := match answer with
    | .ok code => "当前网络 HTTPS 已响应：HTTP " ++ toString code
    | .error () => "联网检查失败，请检查电脑的网络连接"
  { a with index := { a.index with message, request := false, probing := false } }

/-! ## The runs -/

/-- What happens to the page: the system shows and hides it, the user presses a button or answers
the dialog, and what was loaded comes back. -/
inductive PageLabel
  | refresh (loaded : Loaded)
  | onPageShow (loaded : Loaded)
  | aboutToDisappear
  | showPrivacy
  | readPrivacy
  | agree (now : Option ℕ)
  | decline
  | onClick
  | applyIpv6Mode (mode : Ipv6Mode) (saved : Bool)
  | probe
  | started (answer : Except Unit Unit) (loaded : Loaded)
  | stopped (applies : Bool) (answer : Except Unit Unit) (loaded : Loaded)
  /-- `applyIpv6Mode` goes on behind `stop`. -/
  | apply
  | probed (answer : Except Unit ℕ)

/-- What happens to an ability for checks: the system creates it, gives it another request and
destroys it, and what it awaits comes back. -/
inductive ProbeLabel
  | onCreate (want : Want) (input : ProbeStart)
  | onNewWant (want : Want) (input : ProbeStart)
  | began (listening : Bool)
  /-- `run` has returned. -/
  | ran
  /-- A timer, the suspend delay or the reader of the result ends the check. -/
  | finish
  | onDestroy

/-- What happens to the app: the host, the system, the user, and the promises, in any order. -/
inductive Label
  /-- A want for `EntryAbility`, new or not. -/
  | command (text : JsNumber → String) (want : Want)
  | page (label : PageLabel)
  /-- The system makes an ability. -/
  | newVpn (currentSession : ℕ)
  | vpn (place : ℕ) (label : VpnAbility.Label)
  | newProbe
  | probe (place : ℕ) (label : ProbeLabel)
  /-- The record of the consent is replaced. -/
  | rewrite (consent : StoredFile)

/-- A task of the page goes on. -/
def resumed (a : App) (before after : List PageTask) : App :=
  { a with index := { a.index with tasks := before ++ after } }

/-- The steps of the page.  A promise settles for a method that awaits it, wherever that stands
among the others. -/
inductive PageStep : App → PageLabel → App → Prop
  | refresh {a : App} {loaded : Loaded} : PageStep a (.refresh loaded) (a.refresh loaded)
  | onPageShow {a : App} {loaded : Loaded} : PageStep a (.onPageShow loaded) (a.onPageShow loaded)
  | aboutToDisappear {a : App} : PageStep a .aboutToDisappear a.aboutToDisappear
  | showPrivacy {a : App} : PageStep a .showPrivacy a.showPrivacy
  | readPrivacy {a : App} : PageStep a .readPrivacy a.readPrivacy
  | agree {a : App} {now : Option ℕ} : PageStep a (.agree now) (a.agree now)
  | decline {a : App} : PageStep a .decline a.decline
  | onClick {a : App} : PageStep a .onClick a.onClick
  | applyIpv6Mode {a : App} {mode : Ipv6Mode} {saved : Bool} :
      PageStep a (.applyIpv6Mode mode saved) (a.applyIpv6Mode mode saved)
  | probe {a : App} : PageStep a .probe a.probe
  | started {a : App} {before after : List PageTask} {answer : Except Unit Unit}
      {loaded : Loaded} : a.index.tasks = before ++ .starting :: after →
      PageStep a (.started answer loaded) ((a.resumed before after).started answer loaded)
  | stopped {a : App} {before after : List PageTask} {applies : Bool} {answer : Except Unit Unit}
      {loaded : Loaded} : a.index.tasks = before ++ .stopping applies :: after →
      PageStep a (.stopped applies answer loaded)
        ((a.resumed before after).stopped applies answer loaded)
  | apply {a : App} {before after : List PageTask} :
      a.index.tasks = before ++ .applying :: after →
      PageStep a .apply (a.resumed before after).start
  | probed {a : App} {before after : List PageTask} {answer : Except Unit ℕ} :
      a.index.tasks = before ++ .requesting :: after →
      PageStep a (.probed answer) ((a.resumed before after).probed answer)

/-- The steps of the ability `p` at `place`, with the app that they leave. -/
inductive ProbeStep (a : App) (place : ℕ) (p : ProbeAbility) : ProbeLabel → App → Prop
  | onCreate {want : Want} {input : ProbeStart} :
      ProbeStep a place p (.onCreate want input) (a.startProbe place p want input)
  /-- An active request is kept intact. -/
  | onNewWant {want : Want} {input : ProbeStart} : ProbeStep a place p (.onNewWant want input)
      (if p.run then a else a.startProbe place p want input)
  | began {before after : List ProbeTask} {listening : Bool} :
      p.tasks = before ++ .beginning :: after →
      ProbeStep a place p (.began listening)
        (a.beganProbe place { p with tasks := before ++ after } listening)
  | ran {before after : List ProbeTask} : p.tasks = before ++ .running :: after →
      ProbeStep a place p .ran (a.setProbe place { p with tasks := before ++ after })
  | finish : ProbeStep a place p .finish (a.finishProbe place p)
  | onDestroy : ProbeStep a place p .onDestroy (a.cleanupProbe place p)

/-- The record that `onCreate` of the VPN ability reads is the one there is. -/
def Reads (consent : StoredFile) : VpnAbility.Label → Prop
  | .onCreate creation => creation.consent = consent
  | _ => True

/-- The steps of the app.  An ability for the tunnel steps as it does alone, on the record there
is. -/
inductive Step : App → Label → App → Prop
  | command {a : App} {text : JsNumber → String} {want : Want} :
      Step a (.command text want) (a.handleCommand text want)
  | page {a a' : App} {label : PageLabel} : PageStep a label a' → Step a (.page label) a'
  | newVpn {a : App} {currentSession : ℕ} :
      Step a (.newVpn currentSession) { a with vpns := a.vpns ++ [.new currentSession] }
  | vpn {a : App} {place : ℕ} {v v' : VpnAbility} {label : VpnAbility.Label} :
      a.vpns[place]? = some v → Reads a.consent label → VpnAbility.Step v label v' →
      Step a (.vpn place label) { a with vpns := a.vpns.set place v' }
  | newProbe {a : App} : Step a .newProbe { a with probes := a.probes ++ [.new] }
  | probe {a a' : App} {place : ℕ} {p : ProbeAbility} {label : ProbeLabel} :
      a.probes[place]? = some p → ProbeStep a place p label a' → Step a (.probe place label) a'
  | rewrite {a : App} {consent : StoredFile} : Step a (.rewrite consent) { a with consent }

/-- No ability for the tunnel or for checks is alive; the record and the page are whatever
they are. -/
def machine : Machine App Label where
  start a := a.vpns = [] ∧ a.probes = [] ∧ a.actions = []
  step := Step

end App

end ReverseTether
