import ReverseTether.Consent
import ReverseTether.Tunnel

/-!
# The VPN ability of the app

`TetherVpnAbility` makes a socket to the relay and a tun device, and hands both to the
native tunnel.  Its methods are asynchronous: a method runs up to an `await` and goes on
when the awaited promise settles.  A method that waits is a `Task`, and its parts are
functions of their own, named after what they wait for (`protect`, `connect`, `create`,
`destroy`); what a caller of `cleanup` does behind it is an `AfterCleanup`.

The state holds the fields of the class, the tasks and timers that are live, the session
that the native module takes for the current one, and the calls made so far.  Promises may
settle in any order and at any time, and whatever a call answers is input.

Texts that the user sees are kept where they decide about the state that is published, with
the words of the source.  `Effect` lists every call of the system, with the descriptors that
it hands over, so that what is proved about descriptors is proved of the calls.
-/

namespace ReverseTether

open Library

/-! ## The parameters of a start -/

/-- A parameter of a `Want`, as far as the abilities tell values apart. -/
inductive WantValue
  | string (value : String)
  | number (value : JsNumber)
  /-- Anything else. -/
  | other

/-- `Want`: of the request of the system only the parameters are read. -/
structure Want where
  parameters : List (String × WantValue)

/-- `want.parameters?.name`. -/
def Want.parameter (want : Want) (name : String) : Option WantValue :=
  (want.parameters.find? (·.1 = name)).map Prod.snd

/-- `PORT`. -/
def defaultPort : ℕ := 41417

/-- `/^\d{1,most}$/.test(text)`. -/
def isDecimal (most : ℕ) (text : String) : Bool :=
  text.toList ≠ [] && text.length ≤ most && text.toList.all Char.isDigit

/-- `Number(text)` of decimal digits. -/
def decimal (text : String) : ℕ := text.toList.foldl (fun n digit => 10 * n + (digit.toNat - 48)) 0

/-- The port that a parameter asks for: up to five digits, when it is written out. -/
def WantValue.port : WantValue → Option ℤ
  | .string text => if isDecimal 5 text then some (decimal text) else none
  | .number value => value.integer?.filter fun port => 0 ≤ port ∧ port < 100000
  | .other => none

/-- `loadState(dir).port ?? PORT`, if it is an integer. -/
def storedPort (status : StoredFile) : Option ℤ :=
  match status with
  | .unreadable | .malformed => some defaultPort
  | .parsed state =>
      match state.property "port" with
      | .error () | .ok none | .ok (some .null) => some defaultPort
      | .ok (some (.number port)) => port.integer?
      | .ok (some _) => none

/-- The port to connect to, if it is one. -/
def requestedPort (want : Want) (status : StoredFile) : Option ℕ :=
  let port := match want.parameter "port" with
    | some value => value.port
    | none => storedPort status
  (port.filter fun port => 1024 ≤ port ∧ port ≤ 65535).map Int.toNat

/-- Four decimal numbers of at most three digits, none of them above 255, with dots between them.
-/
def isDnsAddress (dns : String) : Bool :=
  (dns.splitOn ".").length = 4 &&
    (dns.splitOn ".").all fun part => isDecimal 3 part && decimal part ≤ 255

/-- The DNS address that is asked for, or the one there is; `none` is an error. -/
def requestedDns (want : Want) (dnsAddress : String) : Option String :=
  match want.parameter "dns" with
  | some (.string dns) =>
      if dns ≠ "" then if isDnsAddress dns then some dns else none else some dnsAddress
  | _ => some dnsAddress

/-- An unknown or corrupt value must never enable IPv6 capture implicitly. -/
def normalizeIpv6Mode (value : JsNumber) : Ipv6Mode :=
  if value = .finite 1 then .proxy else if value = .finite 2 then .blackhole else .off

/-- `loadIpv6Mode`: anything but a known number in the file means that IPv6 is off. -/
def loadIpv6Mode (settings : StoredFile) : Ipv6Mode :=
  match settings with
  | .unreadable | .malformed => .off
  | .parsed record =>
      match record.property "ipv6Mode" with
      | .ok (some (.number value)) => normalizeIpv6Mode value
      | _ => .off

/-- The launch parameter, or the stored setting; `number` is the conversion of a text. -/
def requestedMode (number : String → JsNumber) (want : Want) (settings : StoredFile) : Ipv6Mode :=
  match want.parameter "ipv6Mode" with
  | some (.string text) => normalizeIpv6Mode (number text)
  | some (.number value) => normalizeIpv6Mode value
  | _ => loadIpv6Mode settings

/-! ## The configuration of the VPN -/

/-- `LinkAddress`: an address of the interface, with the length of its network. -/
structure LinkAddress where
  address : String
  family : ℕ
  prefixLength : ℕ
  deriving DecidableEq, Repr

/-- `RouteInfo`: what the system is told to send through the tunnel. -/
structure RouteInfo where
  interface : String
  destination : LinkAddress
  /-- The address and the family of the gateway. -/
  gateway : String × ℕ
  hasGateway : Bool
  isDefaultRoute : Bool
  deriving DecidableEq, Repr

/-- `VpnConfig`: all that the system is asked for when the interface is made. -/
structure VpnConfig where
  addresses : List LinkAddress
  routes : List RouteInfo
  dnsAddresses : List String
  mtu : ℕ
  isIPv4Accepted : Bool
  isIPv6Accepted : Bool
  isBlocking : Bool
  deriving DecidableEq, Repr

/-- The default route of a family. -/
def defaultRoute (address : String) (family : ℕ) : RouteInfo where
  interface := "vpn-tun"
  destination := ⟨address, family, 0⟩
  gateway := (address, family)
  hasGateway := false
  isDefaultRoute := true

/-- Without the IPv6 route the system keeps sending IPv6 around the tunnel. -/
def vpnConfig (ipv6Mode : Ipv6Mode) (dnsAddress : String) : VpnConfig where
  addresses := ⟨"10.0.0.2", 1, 32⟩ :: if ipv6Mode ≠ .off then [⟨"fd00::2", 2, 128⟩] else []
  routes := defaultRoute "0.0.0.0" 1 :: if ipv6Mode ≠ .off then [defaultRoute "::" 2] else []
  -- the relay resolves the virtual address through the host's DNS server
  dnsAddresses := [dnsAddress]
  mtu := 1500
  isIPv4Accepted := true
  isIPv6Accepted := ipv6Mode ≠ .off
  isBlocking := false

/-! ## The state -/

/-- The states that are published, for the page and for the computer. -/
inductive Status
  | stopped
  | connecting
  | connected
  | reconnecting
  | error
  deriving DecidableEq, Repr

/-- `TetherState`: what the page shows of the connection, and what is stored of it. -/
structure TetherState where
  port : ℕ
  state : Status
  message : String
  reconnects : ℕ
  txBytes : ℕ
  rxBytes : ℕ

/-- The state of an ability that was just made. -/
def TetherState.new : TetherState := ⟨defaultPort, .stopped, "连接 USB 后，点击连接", 0, 0, 0⟩

/-- What the ability looks at in an error: the code, by which a refusal by the system is told from
a failure. -/
structure JsError where
  code : Option ℤ

/-- A refusal of the VPN by the system. -/
def JsError.isRefusal (err : JsError) : Bool :=
  err.code = some 201 || err.code = some 2203001 || err.code = some 2203002

/-- Who awaits `cleanup`, and so what is done when it returns. -/
inductive AfterCleanup
  /-- `onDestroy` does nothing more. -/
  | onDestroy
  /-- `establish` found that it is stale, and returns. -/
  | stale
  /-- `establish` failed. -/
  | failed (generation : ℕ) (err : JsError)
  /-- The tunnel was lost, which `tick` saw. -/
  | lost

/-- A method that awaits a promise, with what it was called with.  More than one can be suspended
at a time. -/
inductive Task
  | protecting (generation : ℕ)
  | connecting (generation : ℕ)
  | creating (generation : ℕ)
  /-- `cleanup`, in `destroy`. -/
  | destroying (after : AfterCleanup)
  /-- `cleanup` has returned. -/
  | cleaned (after : AfterCleanup)

/-- The calls that the ability makes, and what happens to it. -/
inductive Effect
  | createVpnConnection
  /-- `none` when it throws. -/
  | createSocket (fd : Option ℤ)
  | protect (fd : ℤ)
  | connect (fd : ℤ) (port : ℕ)
  | create (config : VpnConfig)
  /-- `create` has returned a descriptor. -/
  | created (fd : ℤ)
  | start (tunFd socketFd : ℤ) (session : ℕ) (ipv6Mode : Ipv6Mode)
  | stop (session : ℕ)
  | close (fd : ℤ)
  | destroy
  | publish (state : Status)
  | onDestroy

/-- The callbacks of the system come in this order, each of them once. -/
inductive Lifecycle
  /-- `onCreate` was not called yet. -/
  | fresh
  | running
  /-- `onDestroy` was called. -/
  | destroyed
  deriving DecidableEq, Repr

/-- The fields of the ability, and what is suspended or due in it, with the calls that it has made.
-/
structure VpnAbility where
  /-- Whether there is one. -/
  connection : Bool
  stopped : Bool
  generation : ℕ
  session : ℕ
  socketFd : ℤ
  tunFd : ℤ
  timer : ℤ
  retryTimer : ℤ
  attempts : ℕ
  state : TetherState
  dnsAddress : String
  port : ℕ
  ipv6Mode : Ipv6Mode
  lifecycle : Lifecycle
  tasks : List Task
  /-- The timers of `setInterval` that run. -/
  intervals : List ℕ
  /-- The timers of `setTimeout` that run, and their delays. -/
  timeouts : List (ℕ × ℕ)
  /-- The session that the native module takes for the current one. -/
  currentSession : ℕ
  effects : List Effect

/-- An ability that the system has made. -/
def VpnAbility.new (currentSession : ℕ) : VpnAbility where
  connection := false
  stopped := true
  generation := 0
  session := 0
  socketFd := -1
  tunFd := -1
  timer := -1
  retryTimer := -1
  attempts := 0
  state := .new
  dnsAddress := "10.0.0.3"
  port := defaultPort
  ipv6Mode := .off
  lifecycle := .fresh
  tasks := []
  intervals := []
  timeouts := []
  currentSession
  effects := []

namespace VpnAbility

/-! ## The methods -/

/-- One more call, or one more thing that has happened, is added to the history. -/
def record (s : VpnAbility) (effect : Effect) : VpnAbility :=
  { s with effects := s.effects ++ [effect] }

/-- A method awaits. -/
def suspend (s : VpnAbility) (task : Task) : VpnAbility := { s with tasks := s.tasks ++ [task] }

/-- Nothing is published for a session that is not the current one, as `tether.status`
throws.  A failure to save the state is only logged. -/
def publish (s : VpnAbility) (state : Status) (message : String) : VpnAbility :=
  if 0 < s.session ∧ s.session ≠ s.currentSession then s
  else { s with state := { s.state with state, message } }.record (.publish state)

/-- `cleanup` from the socket on. -/
def closeSocket (s : VpnAbility) : VpnAbility :=
  if 0 ≤ s.socketFd then { s with socketFd := -1 }.record (.close s.socketFd) else s

/-- The worker owns duplicates; the originals are released only after it has stopped. -/
def cleanup (s : VpnAbility) (after : AfterCleanup) : VpnAbility :=
  let s := s.record (.stop s.session)
  if 0 ≤ s.tunFd then
    (({ s with tunFd := -1 }.record (.close s.tunFd)).record .destroy).suspend (.destroying after)
  else s.closeSocket.suspend (.cleaned after)

/-- The generation is no longer the current one, or the ability was stopped: what awaited has to
clean up. -/
def IsStale (s : VpnAbility) (generation : ℕ) : Prop := s.stopped ∨ generation ≠ s.generation

instance (s : VpnAbility) (generation : ℕ) : Decidable (s.IsStale generation) :=
  inferInstanceAs (Decidable (_ ∨ _))

/-- `establish` up to its first promise; `socket` is what `createSocket` answers. -/
def establish (s : VpnAbility) (generation : ℕ) (socket : Except JsError ℕ) : VpnAbility :=
  if s.IsStale generation ∨ s.connection = false then s
  else
    let s := s.publish .connecting "正在连接…"
    match socket with
    | .ok fd =>
        (({ s with socketFd := fd }.record (.createSocket (some fd))).record
          (.protect fd)).suspend (.protecting generation)
    | .error err => (s.record (.createSocket none)).cleanup (.failed generation err)

/-- `establish` when `protect` settles. -/
def protect (s : VpnAbility) (generation : ℕ) (answer : Except JsError Unit) : VpnAbility :=
  match answer with
  | .ok () =>
      if s.IsStale generation then s.cleanup .stale
      else (s.record (.connect s.socketFd s.port)).suspend (.connecting generation)
  | .error err => s.cleanup (.failed generation err)

/-- `establish` when `connect` settles. -/
def connect (s : VpnAbility) (generation : ℕ) (answer : Except JsError Unit) : VpnAbility :=
  match answer with
  | .ok () =>
      if s.IsStale generation then s.cleanup .stale
      else (s.record (.create (vpnConfig s.ipv6Mode s.dnsAddress))).suspend (.creating generation)
  | .error err => s.cleanup (.failed generation err)

/-- `establish` when `create` settles; `started` is what the native tunnel answers to a start
of the current session. -/
def create (s : VpnAbility) (generation : ℕ) (answer : Except JsError ℕ)
    (started : Except JsError Unit) : VpnAbility :=
  match answer with
  | .ok fd =>
      let s := { s with tunFd := fd }.record (.created fd)
      if s.IsStale generation then s.cleanup .stale
      else
        let s := s.record (.start s.tunFd s.socketFd s.session s.ipv6Mode)
        if s.session ≠ s.currentSession then
          -- "Stale VPN session"
          s.cleanup (.failed generation ⟨none⟩)
        else
          match started with
          | .ok () => { s with attempts := 0 }.publish .connected "已连接 · 正在通过 USB 共享网络"
          | .error err => s.cleanup (.failed generation err)
  | .error err => s.cleanup (.failed generation err)

/-- `cleanup` when `destroy` settles, either way. -/
def destroy (s : VpnAbility) (after : AfterCleanup) : VpnAbility :=
  s.closeSocket.suspend (.cleaned after)

/-- `id` is the timer that `setTimeout` makes. -/
def scheduleRetry (s : VpnAbility) (id : ℕ) : VpnAbility :=
  if s.stopped then s
  else
    let delay := min (1000 * 2 ^ s.attempts) 10000
    let s := { s with
      state := { s.state with reconnects := s.state.reconnects + 1 }
      attempts := s.attempts + 1 }.publish .reconnecting "USB 网络已断开，正在自动重连…"
    { s with retryTimer := id, timeouts := s.timeouts ++ [(id, delay)] }

/-- What is done behind `cleanup`. -/
def resume (s : VpnAbility) (after : AfterCleanup) (id : ℕ) : VpnAbility :=
  match after with
  | .onDestroy | .stale => s
  | .lost => s.scheduleRetry id
  | .failed generation err =>
      if s.IsStale generation then s
      else if err.isRefusal then s.publish .error "系统拒绝 VPN 连接，请检查 VPN 授权或已有连接"
      else s.scheduleRetry id

/-- Behind a stop nothing is done there. -/
theorem resume_stopped {s : VpnAbility} (stopped : s.stopped = true) (after : AfterCleanup)
    (id : ℕ) : s.resume after id = s := by
  cases after with
  | onDestroy => rfl
  | stale => rfl
  | lost => exact if_pos stopped
  | failed generation err => exact if_pos (.inl stopped)

/-- The timer of `scheduleRetry` fires. -/
def retry (s : VpnAbility) (socket : Except JsError ℕ) : VpnAbility :=
  { s with retryTimer := -1, generation := s.generation + 1 }.establish (s.generation + 1) socket

/-- What `tether.status` answers for the current session: whether its thread still runs, and its
counters. -/
structure TunnelStats where
  running : Bool
  txBytes : ℕ
  rxBytes : ℕ

/-- `tick`: the state is published again, and a tunnel that has stopped by itself is cleaned up and
retried. -/
def tick (s : VpnAbility) (stats : TunnelStats) : VpnAbility :=
  if s.stopped then s
  else if s.state.state = .connected then
    -- `tether.status` throws
    if s.session ≠ s.currentSession then s
    else
      let s := { s with
        state := { s.state with txBytes := stats.txBytes, rxBytes := stats.rxBytes } }
      if stats.running then s.publish s.state.state s.state.message
      else (s.publish .reconnecting "连接已中断，正在恢复…").cleanup .lost
  else s.publish s.state.state s.state.message

/-- `onDestroy`: the generation moves on, so that whatever is suspended finds itself stale, and
both timers are cleared. -/
def onDestroy (s : VpnAbility) : VpnAbility :=
  let s := { s with
    stopped := true
    generation := s.generation + 1
    lifecycle := .destroyed
    intervals := if 0 ≤ s.timer then s.intervals.filter (fun id => (id : ℤ) ≠ s.timer)
      else s.intervals
    timeouts := if 0 ≤ s.retryTimer then s.timeouts.filter (fun t => (t.1 : ℤ) ≠ s.retryTimer)
      else s.timeouts }
  ((s.record .onDestroy).publish .stopped "已断开").cleanup .onDestroy

/-- What `onCreate` reads and what it is answered: the request and the three files, and what the
system says to the first calls. -/
structure Creation where
  want : Want
  /-- `privacy-consent.json`. -/
  consent : StoredFile
  /-- `tether-status.json`. -/
  status : StoredFile
  /-- `tether-settings.json`. -/
  settings : StoredFile
  /-- `Number` of a text. -/
  number : String → JsNumber
  interval : ℕ
  connection : Except JsError Unit
  socket : Except JsError ℕ

/-- `NewSession`: the native tunnel of another session is stopped. -/
def newSession (currentSession : ℕ) : ℕ :=
  if currentSession = 2147483647 then 1 else currentSession + 1

/-- `onCreate` once its parameters are good. -/
def launch (s : VpnAbility) (creation : Creation) : VpnAbility :=
  let s := { s with
    stopped := false
    timer := creation.interval
    intervals := s.intervals ++ [creation.interval] }
  let s := s.record .createVpnConnection
  match creation.connection with
  | .ok () =>
      let session := newSession s.currentSession
      { s with
        connection := true
        session
        currentSession := session
        generation := s.generation + 1 }.establish (s.generation + 1) creation.socket
  | .error _ => s.publish .error "无法创建 VPN 服务，请检查系统授权"

/-- `onCreate`: the consent, the port and the resolver are checked, in this order, before anything
is asked of the system. -/
def onCreate (s : VpnAbility) (creation : Creation) : VpnAbility :=
  let s := { s with lifecycle := .running }
  if hasPrivacyConsent creation.consent = false then s
  else
    match requestedPort creation.want creation.status with
    | none => s.publish .error "连接端口格式无效"
    | some port =>
        let s := { s with port, state := { s.state with port } }
        match requestedDns creation.want s.dnsAddress with
        | none => s.publish .error "DNS 地址格式无效"
        | some dnsAddress =>
            { s with
              dnsAddress
              ipv6Mode := requestedMode creation.number creation.want creation.settings }.launch
              creation

/-! ## The runs -/

/-- What happens to an ability: the callbacks of the system, its timers, and its promises. -/
inductive Label
  | onCreate (creation : Creation)
  | protect (generation : ℕ) (answer : Except JsError Unit)
  | connect (generation : ℕ) (answer : Except JsError Unit)
  | create (generation : ℕ) (answer : Except JsError ℕ) (started : Except JsError Unit)
  | destroy (after : AfterCleanup)
  /-- `cleanup` has returned; `id` is the timer of a retry. -/
  | resume (after : AfterCleanup) (id : ℕ)
  | retry (id : ℕ) (socket : Except JsError ℕ)
  | tick (stats : TunnelStats)
  | onDestroy
  /-- Another ability of the process has begun a session. -/
  | newSession

/-- A promise of any task may settle next, in any order, and a timer that was not cleared may fire.
-/
inductive Step : VpnAbility → Label → VpnAbility → Prop
  | onCreate {s : VpnAbility} {creation : Creation} : s.lifecycle = .fresh →
      Step s (.onCreate creation) (s.onCreate creation)
  | protect {s : VpnAbility} {before after : List Task} {generation : ℕ}
      {answer : Except JsError Unit} : s.tasks = before ++ .protecting generation :: after →
      Step s (.protect generation answer)
        ({ s with tasks := before ++ after }.protect generation answer)
  | connect {s : VpnAbility} {before after : List Task} {generation : ℕ}
      {answer : Except JsError Unit} : s.tasks = before ++ .connecting generation :: after →
      Step s (.connect generation answer)
        ({ s with tasks := before ++ after }.connect generation answer)
  | create {s : VpnAbility} {before after : List Task} {generation : ℕ}
      {answer : Except JsError ℕ} {started : Except JsError Unit} :
      s.tasks = before ++ .creating generation :: after →
      Step s (.create generation answer started)
        ({ s with tasks := before ++ after }.create generation answer started)
  | destroy {s : VpnAbility} {before rest : List Task} {after : AfterCleanup} :
      s.tasks = before ++ .destroying after :: rest →
      Step s (.destroy after) ({ s with tasks := before ++ rest }.destroy after)
  | resume {s : VpnAbility} {before rest : List Task} {after : AfterCleanup} {id : ℕ} :
      s.tasks = before ++ .cleaned after :: rest →
      Step s (.resume after id) ({ s with tasks := before ++ rest }.resume after id)
  | retry {s : VpnAbility} {before after : List (ℕ × ℕ)} {id delay : ℕ}
      {socket : Except JsError ℕ} : s.timeouts = before ++ (id, delay) :: after →
      Step s (.retry id socket) ({ s with timeouts := before ++ after }.retry socket)
  | tick {s : VpnAbility} {stats : TunnelStats} : s.intervals ≠ [] →
      Step s (.tick stats) (s.tick stats)
  | onDestroy {s : VpnAbility} : s.lifecycle = .running → Step s .onDestroy s.onDestroy
  | newSession {s : VpnAbility} :
      Step s .newSession { s with currentSession := VpnAbility.newSession s.currentSession }

/-- An ability that was just made, in a process that may have had sessions before. -/
def machine : Machine VpnAbility Label where
  start s := ∃ currentSession, s = new currentSession
  step := Step

end VpnAbility

end ReverseTether
