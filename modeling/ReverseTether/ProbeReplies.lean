import ReverseTether.ProbeRequest
import ReverseTether.ResultServer

/-!
# The check of all servers and its reply

`ProbeRun.run` measures the servers of a request one after the other, each at the address that
`resolveIPv4` finds for it, and makes one reply of the results.  The check may be canceled at
any time: by its own timer, or because its ability ends.

A step of the machine is what the code does between two awaits, a step of the measurement that
runs, or a promise of a lookup that settles.  A measurement is a run of `Measure.machine`, which
is why a value in a reply was summarized from the replies of one server at one address
(`Measured`), and `judgeReply`, the check of the computer, takes every reply without an error
(`run_judged`).  The listener hands out nothing else under the id of a check
(`ResultServer.run_handsOut`).

`pendingLookups` outlives a check: a lookup that took too long is counted until its promise
settles.  So the counter is exact, and there are four lookups at most (`Sound.count`,
`Sound.bound`).
-/

namespace ReverseTether

open Library

/-! ## The device -/

/-- An entry of what `getAddressesByName` answers, of which the first of family 1 is taken. -/
structure NetAddress where
  address : String
  family : ℕ

/-- `/^\d+\.\d+\.\d+\.\d+$/.test(host)`. -/
def isDotted (host : String) : Bool :=
  let parts := host.toList.splitOn '.'
  parts.length = 4 && parts.all fun part => part ≠ [] && part.all Char.isDigit

/-- No part of a dotted host is more than 255. -/
def hasOctets (host : String) : Bool :=
  (host.toList.splitOn '.').all fun part => Nat.ofDigitChars 10 part 0 ≤ 255

/-- What `run` awaits, or how it ended: each server of the request is looked up and then measured,
one after the other. -/
inductive ProbePhase
  /-- `run` was called. -/
  | starting
  /-- A lookup of `resolveIPv4`, and which turn of its loop it is. -/
  | looking (server : ProbeServer) (attempt : ℕ)
  /-- The pause before a turn. -/
  | pausing (server : ProbeServer) (attempt : ℕ)
  /-- `resolveIPv4` has settled. -/
  | resolved (server : ProbeServer) (answer : Except String String)
  /-- The socket exists, until it is closed. -/
  | measuring (server : ProbeServer) (address : String) (m : Measure)
  /-- `measure` has settled. -/
  | measured (server : ProbeServer) (answer : Except String ProbeValue)
  | replied (reply : ProbeReply)

/-- The server that the loop of `run` has come to. -/
def ProbePhase.server? : ProbePhase → Option ProbeServer
  | .looking server _ | .pausing server _ | .resolved server _ | .measuring server _ _
  | .measured server _ => some server
  | .starting | .replied _ => none

/-- The lookups that are awaited. -/
def ProbePhase.lookups : ProbePhase → ℕ
  | .looking _ _ => 1
  | _ => 0

/-- How a measurement ended. -/
def Measure.outcome (m : Measure) : Option (Except String ProbeValue) :=
  match m.phase with
  | .returned value => some (.ok value)
  | .threw message => some (.error message)
  | _ => none

/-- A promise that was rejected leaves no value. -/
def ServerResult.of (server : ProbeServer) : Except String ProbeValue → ServerResult
  | .ok value => ⟨server.host, server.port, some value, none⟩
  | .error message => ⟨server.host, server.port, none, some message⟩

/-- The server that an entry of the reply is about. -/
def ServerResult.server (entry : ServerResult) : ProbeServer := ⟨entry.host, entry.port⟩

/-- The run of one check: the servers are measured one after the other, and the reply has an entry
for each. -/
structure ProbeRun where
  requestId : String
  canceled : Bool
  /-- The servers that the loop has not come to. -/
  servers : List ProbeServer
  results : List ServerResult
  phase : ProbePhase
  /-- All checks share it. -/
  pendingLookups : ℕ
  /-- The lookups that nobody awaits and whose `finally` has not run. -/
  behind : ℕ

namespace ProbeRun

/-- The first endpoint with replies, or else the first one that was measured. -/
def selected (results : List ServerResult) : Option ServerResult :=
  (results.find? fun entry => entry.value.any (0 < ·.received)).or
    (results.find? (·.value.isSome))

/-- The check is over, and its reply has the entries that there are by now. -/
def reply (r : ProbeRun) (value : Option ProbeValue) (error : Option String) : ProbeRun :=
  { r with phase := .replied ⟨r.requestId, value, r.results, error⟩ }

/-- A turn of the loop of `resolveIPv4`, up to its promise. -/
def lookUp (r : ProbeRun) (server : ProbeServer) (attempt : ℕ) : ProbeRun :=
  if 4 ≤ r.pendingLookups then { r with phase := .resolved server (.error "dns_busy") }
  else { r with pendingLookups := r.pendingLookups + 1, phase := .looking server attempt }

/-- A dotted address is taken as it is, or refused when an octet is too large; any other name is
looked up. -/
def resolveIPv4 (r : ProbeRun) (server : ProbeServer) : ProbeRun :=
  if isDotted server.host then
    { r with
      phase :=
        .resolved server
          (if hasOctets server.host then .ok server.host else .error "dns_failed") }
  else r.lookUp server 0

/-- The promise of a lookup settles with these addresses; `none` is a rejection, or the timer. -/
def lookedUp (r : ProbeRun) (server : ProbeServer) (attempt : ℕ)
    (addresses : Option (List NetAddress)) : ProbeRun :=
  { r with
    behind := r.behind + 1
    phase :=
      match addresses.bind (·.find? (·.family = 1)) with
      | some entry => .resolved server (.ok entry.address)
      | none =>
          if attempt = 2 then .resolved server (.error "dns_failed")
          else .pausing server (attempt + 1) }

/-- `measure` behind `resolveIPv4`. -/
def measure (r : ProbeRun) (server : ProbeServer) (answer : Except String String) (clock : ℚ) :
    ProbeRun :=
  { r with
    phase :=
      match answer with
      | .error message => .measured server (.error message)
      | .ok address =>
          if r.canceled then .measured server (.error "probe_canceled")
          else .measuring server address (.start clock) }

/-- The loop of `run` comes to the next server, or to its end. -/
def next (r : ProbeRun) : ProbeRun :=
  if r.canceled then r.reply none (some "probe_timeout")
  else
    match r.servers with
    | server :: servers => { r with servers }.resolveIPv4 server
    | [] =>
        match selected r.results with
        | some entry => r.reply entry.value none
        | none => r.reply none (some "probe_failed")

/-- The result of a server is pushed. -/
def push (r : ProbeRun) (server : ProbeServer) (answer : Except String ProbeValue) : ProbeRun :=
  { r with results := r.results ++ [ServerResult.of server answer] }.next

/-- The socket of a measurement that is not over is closed. -/
def cancel (r : ProbeRun) : ProbeRun :=
  { r with
    canceled := true
    phase :=
      match r.phase with
      | .measuring server address m =>
          .measuring server address (if m.outcome.isNone then { m with canceled := true } else m)
      | phase => phase }

/-- The check of a request, at its first statement; it may have been canceled before. -/
def start (request : ProbeRequest) (canceled : Bool) (pendingLookups : ℕ) : ProbeRun :=
  ⟨request.requestId, canceled, request.servers, [], .starting, pendingLookups, pendingLookups⟩

/-- What the check awaits, and the stop of the user, which can come at any of its awaits. -/
inductive Label
  | begun
  | lookedUp (addresses : Option (List NetAddress))
  | paused
  | resolved (clock : ℚ)
  | measuring (l : Measure.Label)
  | closed
  | measured
  | cancel
  /-- The `finally` of a lookup that nobody awaits. -/
  | dropped
  /-- Another check looks something up. -/
  | other

/-- The steps of the check.  Each of them but the stop is a promise that settles, with the code up
to the next one. -/
inductive Step : ProbeRun → Label → ProbeRun → Prop
  | begun {r : ProbeRun} : r.phase = .starting → Step r .begun r.next
  | lookedUp {r : ProbeRun} {server : ProbeServer} {attempt : ℕ}
      {addresses : Option (List NetAddress)} : r.phase = .looking server attempt →
      Step r (.lookedUp addresses) (r.lookedUp server attempt addresses)
  | paused {r : ProbeRun} {server : ProbeServer} {attempt : ℕ} :
      r.phase = .pausing server attempt → Step r .paused (r.lookUp server attempt)
  | resolved {r : ProbeRun} {server : ProbeServer} {answer : Except String String} {clock : ℚ} :
      r.phase = .resolved server answer → Step r (.resolved clock) (r.measure server answer clock)
  | measuring {r : ProbeRun} {server : ProbeServer} {address : String} {m m' : Measure}
      {l : Measure.Label} : r.phase = .measuring server address m → l ≠ .cancel →
      Measure.Step server address m l m' →
      Step r (.measuring l) { r with phase := .measuring server address m' }
  | closed {r : ProbeRun} {server : ProbeServer} {address : String} {m : Measure}
      {answer : Except String ProbeValue} : r.phase = .measuring server address m →
      m.outcome = some answer → Step r .closed { r with phase := .measured server answer }
  | measured {r : ProbeRun} {server : ProbeServer} {answer : Except String ProbeValue} :
      r.phase = .measured server answer → Step r .measured (r.push server answer)
  | cancel {r : ProbeRun} : Step r .cancel r.cancel
  | dropped {r : ProbeRun} : 0 < r.behind →
      Step r .dropped { r with pendingLookups := r.pendingLookups - 1, behind := r.behind - 1 }
  | other {r : ProbeRun} : r.pendingLookups < 4 →
      Step r .other { r with pendingLookups := r.pendingLookups + 1, behind := r.behind + 1 }

/-- The lookups of earlier checks may still be pending. -/
def machine (request : ProbeRequest) : Machine ProbeRun Label where
  start r := ∃ canceled, ∃ pendingLookups ≤ 4, r = start request canceled pendingLookups
  step := Step

end ProbeRun

/-! ## The computer -/

/-- What `main` of the computer does with the reply that it reads.  A field that is undefined is
not written, and read as `None`. -/
def judgeReply (requestId : String) (reply : ProbeReply) : Except String Unit :=
  if reply.requestId ≠ requestId then .error "Probe request ID mismatch"
  else
    match reply.error.filter (· ≠ "") with
    | some error => .error ("Device probe failed: " ++ error)
    | none => validateValue (reply.value.elim .none ProbeValue.toPy)

/-! ## The value of a measurement -/

namespace Measure

variable {server : ProbeServer} {address : String} {m m' : Measure} {l : Label}
  {t : List (Measure × Label)}

/-- What is returned is about the server that was asked: its host and its port are in the value. -/
def Reports (server : ProbeServer) (m : Measure) : Prop :=
  ∀ value, m.phase = .returned value → value.host = server.host ∧ value.port = server.port

/-- Nothing is claimed of a measurement that has not returned. -/
theorem reports_of_ne (unreturned : ∀ value, m.phase ≠ .returned value) : m.Reports server :=
  fun value returned => absurd returned (unreturned value)

/-- A turn of the sending loop returns nothing: the value comes when all requests have been sent.
-/
theorem onTurn_reports (m : Measure) (index : ℕ) (checked now : ℚ) (id : List UInt8) :
    (m.onTurn index checked id now).Reports server := by
  refine reports_of_ne fun value => ?_
  unfold onTurn
  split
  · nofun
  split
  · nofun
  · simp only
    split <;> nofun

/-- When the responses are in, or have taken too long, the value is summarized, and it is the one
that the run has earned. -/
theorem onDrained_reports (m : Measure) : (m.onDrained server).Reports server := by
  unfold onDrained
  split
  · exact reports_of_ne nofun
  · split
    · rename_i value summarized
      rintro _ ⟨⟩
      unfold ProbeValue.summarize at summarized
      split at summarized
      · cases summarized
      · cases summarized
        exact ⟨rfl, rfl⟩
    · exact reports_of_ne nofun

/-- Every step keeps it that what is returned is a summary of this run, for this server. -/
theorem Step.reports (step : Step server address m l m') (before : m.Reports server) :
    m'.Reports server := by
  cases step with
  | bound _ _ => exact reports_of_ne nofun
  | bindRejected _ => exact reports_of_ne nofun
  | sendRejected _ => exact reports_of_ne nofun
  | turn _ _ _ => exact onTurn_reports _ _ _ _ _
  | sent _ =>
      refine reports_of_ne fun value => ?_
      unfold onSent
      simp only
      split <;> nofun
  | drained _ => exact onDrained_reports m
  | message _ _ =>
      unfold onMessage
      split <;> exact before
  | error _ => exact before
  | cancel _ => exact before

/-- In every run what is returned is a summary of it, for the server that was measured. -/
theorem reports_of_run (run : (machine server address).Run t m) : m.Reports server := by
  refine run.invariant (Reports server) ?_ ?_ (Machine.meets_true t)
  · rintro _ ⟨clock, rfl⟩
    exact reports_of_ne nofun
  · intro m l m' before _ step
    exact step.reports before

end Measure

/-- A turn of the sending loop does not look at the user, but for whether he has stopped the check.
-/
theorem Measure.onTurn_canceled (m : Measure) (index : ℕ) (checked now : ℚ) (id : List UInt8) :
    (m.onTurn index checked id now).canceled = m.canceled := by
  unfold onTurn
  split
  · rfl
  split
  · rfl
  · simp only
    split <;> rfl

/-- A measurement that was not stopped was not stopped before, and no step of it was the stop. -/
theorem Measure.Step.uncanceled {server : ProbeServer} {address : String} {m m' : Measure}
    {l : Measure.Label} (step : Step server address m l m') (on : m'.canceled = false) :
    m.canceled = false ∧ l ≠ .cancel := by
  cases step with
  | bound _ _ => exact ⟨on, nofun⟩
  | bindRejected _ => exact ⟨on, nofun⟩
  | sendRejected _ => exact ⟨on, nofun⟩
  | turn _ _ _ => exact ⟨onTurn_canceled m _ _ _ _ ▸ on, nofun⟩
  | sent _ => exact ⟨on, nofun⟩
  | drained _ =>
      unfold onDrained at on
      split at on
      · exact ⟨on, nofun⟩
      · split at on <;> exact ⟨on, nofun⟩
  | message _ _ =>
      unfold onMessage at on
      split at on <;> exact ⟨on, nofun⟩
  | error _ => exact ⟨on, nofun⟩
  | cancel _ => cases on

/-- A measurement that has not ended has an open socket. -/
theorem Measure.running_of_outcome {m : Measure} (on : m.outcome = none) : m.Running := by
  unfold Measure.outcome at on
  unfold Measure.Running
  cases phase : m.phase with
  | returned value =>
      rw [phase] at on
      cases on
  | threw message =>
      rw [phase] at on
      cases on
  | _ => trivial

/-- What a measurement comes to is what it has returned. -/
theorem Measure.returned_of_outcome {m : Measure} {value : ProbeValue}
    (ended : m.outcome = some (.ok value)) : m.phase = .returned value := by
  unfold Measure.outcome at ended
  cases phase : m.phase with
  | returned found =>
      rw [phase] at ended
      cases ended
      rfl
  | _ =>
      rw [phase] at ended
      cases ended

/-- A measurement of the server, at some address, has returned the value.  So what is reported of a
server is tied to what its sockets have sent and received. -/
def Measured (server : ProbeServer) (value : ProbeValue) : Prop :=
  ∃ address t m, (Measure.machine server address).Run t m ∧ m.phase = .returned value

/-- A value that was measured is taken by the computer. -/
theorem Measured.judged {server : ProbeServer} {value : ProbeValue}
    (measured : Measured server value) : validateValue value.toPy = .ok () := by
  obtain ⟨address, t, m, run, returned⟩ := measured
  have progress := (Measure.sound_of_run run).progress
  rw [Measure.Progress, returned] at progress
  exact progress

/-- A value that was measured is about the server it was measured for. -/
theorem Measured.about {server : ProbeServer} {value : ProbeValue}
    (measured : Measured server value) : value.host = server.host ∧ value.port = server.port := by
  obtain ⟨address, t, m, run, returned⟩ := measured
  exact Measure.reports_of_run run value returned

/-- A result is what the measurement of its server came to. -/
inductive ServerResult.Fits : ServerResult → Prop
  | of {server : ProbeServer} {answer : Except String ProbeValue}
      (measured : ∀ value, answer = .ok value → Measured server value) :
      Fits (.of server answer)

@[simp] theorem ServerResult.server_of (server : ProbeServer) (answer : Except String ProbeValue) :
    (ServerResult.of server answer).server = server := by
  cases answer <;> rfl

/-- An entry of the results that has a value was measured, for the server that it names. -/
theorem ServerResult.Fits.measured {entry : ServerResult} {value : ProbeValue} (fits : entry.Fits)
    (some_value : entry.value = some value) : Measured entry.server value := by
  obtain ⟨measured⟩ := fits
  rename_i server answer
  rw [server_of]
  cases answer with
  | error message => cases some_value
  | ok found =>
      cases some_value
      exact measured value rfl

/-! ## One step -/

namespace ProbeRun

variable {request : ProbeRequest} {r r' : ProbeRun} {l : Label}

/-- How the reply came about: the check was canceled by its time-out, no server could be measured,
or the value that was selected is told. -/
inductive Verdict (r : ProbeRun) : ProbeReply → Prop
  | timeOut (canceled : r.canceled = true) :
      Verdict r ⟨r.requestId, none, r.results, some "probe_timeout"⟩
  | failed (all : r.servers = []) (unmeasured : selected r.results = none) :
      Verdict r ⟨r.requestId, none, r.results, some "probe_failed"⟩
  | found {entry : ServerResult} (all : r.servers = []) (first : selected r.results = some entry) :
      Verdict r ⟨r.requestId, entry.value, r.results, none⟩

/-- What is known of what is awaited.  The invariant of a check follows it from one await to the
next, and this is its part for the present one. -/
def PhaseFits (r : ProbeRun) : Prop :=
  match r.phase with
  | .measuring server address m => ∃ t, (Measure.machine server address).Run t m
  | .measured server answer => ∀ value, answer = .ok value → Measured server value
  | .replied reply => r.Verdict reply
  | _ => True

/-- It does not depend on the lookups, nor on a check that is canceled later. -/
theorem PhaseFits.kept (fits : r.PhaseFits) {canceled : Bool}
    (more : r.canceled = true → canceled = true) (pendingLookups behind : ℕ) :
    { r with canceled, pendingLookups, behind }.PhaseFits := by
  unfold PhaseFits at fits ⊢
  cases phase : r.phase with
  | replied reply =>
      rw [phase] at fits
      cases fits with
      | timeOut once => exact .timeOut (more once)
      | failed all unmeasured => exact .failed all unmeasured
      | found all first => exact .found all first
  | measuring server address m =>
      rw [phase] at fits
      exact fits
  | measured server answer =>
      rw [phase] at fits
      exact fits
  | _ => trivial

/-- What holds between two steps of a check: which servers are done, what is known of each, and
what is awaited. -/
structure Sound (request : ProbeRequest) (r : ProbeRun) : Prop where
  requestId : r.requestId = request.requestId
  /-- The servers are taken in their order, and none twice. -/
  order : r.results.map ServerResult.server ++ (r.phase.server?.toList ++ r.servers) =
    request.servers
  results : ∀ entry ∈ r.results, entry.Fits
  phase : r.PhaseFits
  count : r.pendingLookups = r.behind + r.phase.lookups
  bound : r.pendingLookups ≤ 4

namespace Sound

/-- Only the phase changes, and not to another server. -/
theorem moved (sound : r.Sound request) (phase : ProbePhase)
    (server : phase.server? = r.phase.server?) (lookups : phase.lookups = r.phase.lookups)
    (fits : { r with phase }.PhaseFits) : { r with phase }.Sound request :=
  { sound with
    order := by
      rw [← sound.order, ← server]
    phase := fits
    count := by
      rw [sound.count, ← lookups] }

/-- A turn does not read the phase, so it is one behind a pause. -/
theorem lookUp {server : ProbeServer} {attempt : ℕ}
    (sound : { r with phase := .pausing server attempt }.Sound request) :
    (r.lookUp server attempt).Sound request := by
  unfold ProbeRun.lookUp
  split
  · exact sound.moved (.resolved server _) rfl rfl trivial
  · rename_i room
    have count : r.pendingLookups = r.behind := sound.count
    exact { sound with
      phase := trivial
      count := congrArg (· + 1) count
      bound := show r.pendingLookups + 1 ≤ 4 by omega }

/-- Whether the host is dotted or looked up, the server stays the one that the loop is at. -/
theorem resolveIPv4 {server : ProbeServer}
    (sound : { r with phase := .pausing server 0 }.Sound request) :
    (r.resolveIPv4 server).Sound request := by
  unfold ProbeRun.resolveIPv4
  split
  · exact sound.moved (.resolved server _) rfl rfl trivial
  · exact sound.lookUp

/-- A check that has not come to a server goes on, or makes its reply. -/
theorem next (sound : { r with phase := .starting }.Sound request) : r.next.Sound request := by
  unfold ProbeRun.next
  split
  · rename_i canceled
    exact sound.moved (.replied _) rfl rfl (.timeOut canceled)
  split
  · rename_i server servers left
    have order : r.results.map ServerResult.server ++ server :: servers = request.servers :=
      left ▸ sound.order
    refine resolveIPv4 { sound with order, phase := trivial }
  · rename_i all
    split
    · rename_i entry first
      exact sound.moved (.replied _) rfl rfl (.found all first)
    · rename_i unmeasured
      exact sound.moved (.replied _) rfl rfl (.failed all unmeasured)

/-- A lookup that has settled leads to an address, to the next attempt or to an error of this
server. -/
theorem lookedUp (sound : r.Sound request) {server : ProbeServer} {attempt : ℕ}
    (looking : r.phase = .looking server attempt) (addresses : Option (List NetAddress)) :
    (r.lookedUp server attempt addresses).Sound request := by
  have order := sound.order
  have count := sound.count
  rw [looking] at order count
  unfold ProbeRun.lookedUp
  split
  · exact { sound with order, phase := trivial, count }
  split
  · exact { sound with order, phase := trivial, count }
  · exact { sound with order, phase := trivial, count }

/-- A server without an address is not measured, and its entry says why. -/
theorem measure (sound : r.Sound request) {server : ProbeServer} {answer : Except String String}
    (resolved : r.phase = .resolved server answer) (clock : ℚ) :
    (r.measure server answer clock).Sound request := by
  unfold ProbeRun.measure
  split
  · exact sound.moved _ (by rw [resolved]; rfl) (by rw [resolved]; rfl) nofun
  split
  · exact sound.moved _ (by rw [resolved]; rfl) (by rw [resolved]; rfl) nofun
  · exact sound.moved _ (by rw [resolved]; rfl) (by rw [resolved]; rfl) ⟨[], .start ⟨clock, rfl⟩⟩

/-- The result of a server goes behind those of the servers before it. -/
theorem push (sound : r.Sound request) {server : ProbeServer}
    {answer : Except String ProbeValue} (measured : r.phase = .measured server answer) :
    (r.push server answer).Sound request := by
  have order := sound.order
  have fits := sound.phase
  have count := sound.count
  rw [measured] at order count
  rw [PhaseFits, measured] at fits
  refine next { sound with order := ?_, results := ?_, phase := trivial, count }
  · simpa [ProbePhase.server?] using order
  · intro entry mem
    rcases List.mem_append.mp mem with old | new
    · exact sound.results entry old
    · cases List.mem_singleton.mp new
      exact .of fits

/-- A measurement that is over is not canceled any more. -/
theorem cancel (sound : r.Sound request) : r.cancel.Sound request := by
  have fits := sound.phase
  unfold PhaseFits at fits
  unfold ProbeRun.cancel
  split
  · rename_i server address m measuring
    rw [measuring] at fits
    obtain ⟨t, run⟩ := fits
    have order := sound.order
    have count := sound.count
    rw [measuring] at order count
    refine { sound with order, count, phase := ?_ }
    show ∃ t, (Measure.machine server address).Run t _
    split
    · rename_i on
      exact ⟨_, run.step (.cancel (Measure.running_of_outcome (Option.isNone_iff_eq_none.mp on)))⟩
    · exact ⟨t, run⟩
  · exact { sound with phase := sound.phase.kept (fun _ => rfl) _ _ }

end Sound

/-- At its first statement a check has all of its servers before it. -/
theorem sound_start (request : ProbeRequest) (canceled : Bool) {pendingLookups : ℕ}
    (bound : pendingLookups ≤ 4) : (start request canceled pendingLookups).Sound request where
  requestId := rfl
  order := rfl
  results := nofun
  phase := trivial
  count := rfl
  bound := bound

/-- Every step of the check keeps the results and the servers still to come in the order of the
request. -/
theorem Step.sound (step : Step r l r') (sound : r.Sound request) : r'.Sound request := by
  cases step with
  | begun starting =>
      obtain ⟨⟩ := r
      cases starting
      exact sound.next
  | lookedUp looking => exact sound.lookedUp looking _
  | paused pausing =>
      obtain ⟨⟩ := r
      cases pausing
      exact sound.lookUp
  | resolved resolved => exact sound.measure resolved _
  | measuring measuring _ step =>
      have fits := sound.phase
      rw [PhaseFits, measuring] at fits
      obtain ⟨t, run⟩ := fits
      exact sound.moved _ (by rw [measuring]; rfl) (by rw [measuring]; rfl) ⟨_, run.step step⟩
  | closed measuring ended =>
      have fits := sound.phase
      rw [PhaseFits, measuring] at fits
      obtain ⟨t, run⟩ := fits
      refine sound.moved _ (by rw [measuring]; rfl) (by rw [measuring]; rfl) ?_
      rintro value rfl
      exact ⟨_, t, _, run, Measure.returned_of_outcome ended⟩
  | measured measured => exact sound.push measured
  | cancel => exact sound.cancel
  | dropped some_behind =>
      have count := sound.count
      have bound := sound.bound
      exact { sound with
        count := by
          show r.pendingLookups - 1 = r.behind - 1 + r.phase.lookups
          omega
        phase := sound.phase.kept id _ _
        bound := by
          show r.pendingLookups - 1 ≤ 4
          omega }
  | other room =>
      have count := sound.count
      exact { sound with
        count := by
          show r.pendingLookups + 1 = r.behind + 1 + r.phase.lookups
          omega
        phase := sound.phase.kept id _ _
        bound := room }

/-! ## Whole runs -/

/-- In every run the results are those of the first servers of the request, each of them measured
or with its error. -/
theorem sound_of_run {t : List (ProbeRun × Label)} (run : (machine request).Run t r) :
    r.Sound request := by
  refine run.invariant (Sound request) ?_ ?_ (Machine.meets_true t)
  · rintro _ ⟨canceled, pendingLookups, bound, rfl⟩
    exact sound_start request canceled bound
  · intro r l r' sound _ step
    exact step.sound sound

/-- What is selected is the first value with a reply, or any value when no server has replied at
all. -/
theorem selected_eq_some {results : List ServerResult} {entry : ServerResult}
    (first : selected results = some entry) : entry ∈ results ∧ ∃ value,
      entry.value = some value ∧ (value.received = 0 →
        ∀ other ∈ results, ∀ another, other.value = some another → another.received = 0) := by
  rcases Option.or_eq_some_iff.mp first with replied | ⟨unreplied, measured⟩
  · refine ⟨List.mem_of_find?_eq_some replied, ?_⟩
    have received := List.find?_some replied
    cases some_value : entry.value with
    | none =>
        rw [some_value] at received
        cases received
    | some value =>
        refine ⟨value, rfl, fun none_received => ?_⟩
        rw [some_value, Option.any_some, none_received] at received
        cases received
  · have some_measured : entry.value.isSome = true :=
      List.find?_some (p := fun entry : ServerResult => entry.value.isSome) measured
    obtain ⟨value, some_value⟩ := Option.isSome_iff_exists.mp some_measured
    refine ⟨List.mem_of_find?_eq_some measured, value, some_value, ?_⟩
    intro _ other mem another some_another
    have fewer := List.find?_eq_none.mp unreplied other mem
    rw [some_another] at fewer
    simpa using fewer

/-- What a reply tells, whatever happened during the check: it answers the request, in its order,
with values that were measured. -/
structure Told (request : ProbeRequest) (reply : ProbeReply) : Prop where
  requestId : reply.requestId = request.requestId
  /-- The results are those of the first servers, in the order of the request. -/
  order : reply.results.map ServerResult.server <+: request.servers
  /-- A value was returned by a measurement of the server it stands for. -/
  measured : ∀ entry ∈ reply.results, ∀ value, entry.value = some value →
    Measured entry.server value ∧ value.host = entry.host ∧ value.port = entry.port
  /-- A result has a value or an error. -/
  settled : ∀ entry ∈ reply.results, entry.value = none ↔ entry.error ≠ none
  /-- Without an error every server was tried, and the value is that of one server, which has
  replied if any server has. -/
  value : reply.error = none → reply.results.map ServerResult.server = request.servers ∧
    ∃ entry ∈ reply.results, ∃ value, entry.value = some value ∧ reply.value = some value ∧
      (value.received = 0 →
        ∀ other ∈ reply.results, ∀ another, other.value = some another → another.received = 0)
  /-- The computer takes it then, and otherwise reports the error of the device. -/
  taken : reply.error = none → judgeReply request.requestId reply = .ok ()
  refused : ∀ error, reply.error = some error → reply.value = none ∧
    judgeReply request.requestId reply = .error ("Device probe failed: " ++ error)

namespace Verdict

variable {reply : ProbeReply}

/-- The reply carries the identifier of the check and all of its results. -/
theorem same (verdict : r.Verdict reply) :
    reply.requestId = r.requestId ∧ reply.results = r.results := by
  cases verdict <;> exact ⟨rfl, rfl⟩

/-- Without an error every server was looked at, and the value is that of the first server that has
replied, if one has. -/
theorem succeeded (verdict : r.Verdict reply) (success : reply.error = none) :
    r.servers = [] ∧ ∃ entry ∈ reply.results, ∃ value, entry.value = some value ∧
      reply.value = some value ∧ (value.received = 0 →
        ∀ other ∈ reply.results, ∀ another, other.value = some another → another.received = 0) := by
  cases verdict with
  | timeOut _ => cases success
  | failed _ _ => cases success
  | @found entry all first =>
      obtain ⟨mem, value, some_value, best⟩ := selected_eq_some first
      exact ⟨all, entry, mem, value, some_value, some_value, best⟩

/-- With an error there is no value, and the error is named. -/
theorem refused (verdict : r.Verdict reply) {error : String} (failed : reply.error = some error) :
    reply.value = none ∧ error ≠ "" := by
  cases verdict with
  | timeOut _ =>
      cases failed
      exact ⟨rfl, by decide⟩
  | failed _ _ =>
      cases failed
      exact ⟨rfl, by decide⟩
  | found _ _ => cases failed

end Verdict

/-- The computer reports an error of the device as it is. -/
theorem judgeReply_error {reply : ProbeReply} {error : String}
    (named : reply.requestId = request.requestId) (failed : reply.error = some error)
    (text : error ≠ "") :
    judgeReply request.requestId reply = .error ("Device probe failed: " ++ error) := by
  unfold judgeReply
  rw [if_neg (not_not.mpr named), failed, Option.filter_some_pos (by simpa using text)]

/-- The computer judges a reply without an error by its value alone, once the identifier is the one
it asked for. -/
theorem judgeReply_value {reply : ProbeReply} {value : ProbeValue}
    (named : reply.requestId = request.requestId) (succeeded : reply.error = none)
    (found : reply.value = some value) :
    judgeReply request.requestId reply = validateValue value.toPy := by
  unfold judgeReply
  rw [if_neg (not_not.mpr named), succeeded, found]
  rfl

/-- The reply of a check in order is one that the user is told about: a value that is accepted, or
its error. -/
theorem Sound.told {reply : ProbeReply} (sound : r.Sound request)
    (replied : r.phase = .replied reply) : Told request reply := by
  have verdict : r.Verdict reply := by
    have fits := sound.phase
    rwa [PhaseFits, replied] at fits
  obtain ⟨own, results⟩ := verdict.same
  have named : reply.requestId = request.requestId := own.trans sound.requestId
  have order : reply.results.map ServerResult.server ++ r.servers = request.servers := by
    have order := sound.order
    rwa [replied, ← results] at order
  have fits : ∀ entry ∈ reply.results, entry.Fits := results ▸ sound.results
  refine ⟨named, ⟨r.servers, order⟩, ?_, ?_, ?_, ?_, ?_⟩
  · intro entry mem value some_value
    have measured := (fits entry mem).measured some_value
    exact ⟨measured, measured.about⟩
  · intro entry mem
    obtain ⟨_⟩ := fits entry mem
    rename_i server answer _
    cases answer <;> simp [ServerResult.of]
  · intro success
    obtain ⟨all, chosen⟩ := verdict.succeeded success
    rw [all, List.append_nil] at order
    exact ⟨order, chosen⟩
  · intro success
    obtain ⟨_, entry, mem, value, some_value, found, _⟩ := verdict.succeeded success
    rw [judgeReply_value named success found]
    exact ((fits entry mem).measured some_value).judged
  · intro error failed
    obtain ⟨valueless, text⟩ := verdict.refused failed
    exact ⟨valueless, judgeReply_error named failed text⟩

/-- **Whatever happens during a check, the computer takes its reply, or reports its error.**  The
reply is built by the device and judged by the script of the computer, in two languages; what is
shown is that the one never builds what the other refuses, unless it says so in its own field for
errors. -/
theorem run_judged {t : List (ProbeRun × Label)} {reply : ProbeReply}
    (run : (machine request).Run t r) (replied : r.phase = .replied reply) :
    Told request reply :=
  (sound_of_run run).told replied

/-- A measurement that was not canceled is one that a check makes. -/
theorem run_measuring {server : ProbeServer} {address : String}
    (resolved : r.phase = .resolved server (.ok address)) (on : r.canceled = false)
    (before : ∃ t, (machine request).Run t r) {t : List (Measure × Measure.Label)} {m : Measure}
    (run : (Measure.machine server address).Run t m) (uncanceled : m.canceled = false) :
    ∃ t, (machine request).Run t { r with phase := .measuring server address m } := by
  induction run with
  | start started =>
      obtain ⟨clock, rfl⟩ := started
      obtain ⟨t, run⟩ := before
      have same : r.measure server (.ok address) clock =
          { r with phase := .measuring server address (.start clock) } := by
        unfold ProbeRun.measure
        rw [on]
        rfl
      have step : Step r (.resolved clock) _ := .resolved resolved
      exact ⟨_, same ▸ run.step step⟩
  | step _ step ih =>
      obtain ⟨earlier, other⟩ := Measure.Step.uncanceled step uncanceled
      obtain ⟨t, run⟩ := ih earlier
      exact ⟨_, run.step (Step.measuring rfl other step)⟩

/-- Behind the last server the check replies with the value that is selected, if there is one. -/
theorem next_found {entry : ServerResult} (on : r.canceled = false) (all : r.servers = [])
    (first : selected r.results = some entry) : r.next = r.reply entry.value none := by
  unfold next
  rw [on, all, first]
  rfl

/-- A server was measured. -/
theorem run_pushed {server : ProbeServer} {address : String} {value : ProbeValue}
    (run : ∃ t, (machine request).Run t r) (resolved : r.phase = .resolved server (.ok address))
    (on : r.canceled = false) {t : List (Measure × Measure.Label)} {m : Measure}
    (measured : (Measure.machine server address).Run t m) (uncanceled : m.canceled = false)
    (returned : m.phase = .returned value) :
    ∃ t, (machine request).Run t
      (ProbeRun.push { r with phase := .measured server (.ok value) } server (.ok value)) := by
  obtain ⟨_, measuring⟩ := run_measuring resolved on run measured uncanceled
  have outcome : m.outcome = some (.ok value) := by rw [Measure.outcome, returned]
  exact ⟨_, (measuring.step (Step.closed rfl outcome)).step (Step.measured rfl)⟩

/-- The loop comes to a server that is named by its address. -/
theorem next_dotted {server : ProbeServer} {servers : List ProbeServer} (on : r.canceled = false)
    (more : r.servers = server :: servers) (dotted : isDotted server.host = true)
    (octets : hasOctets server.host = true) :
    r.next = { r with servers, phase := .resolved server (.ok server.host) } := by
  have stays : r.next = ProbeRun.resolveIPv4 { r with servers } server := by
    unfold next
    rw [if_neg (by rw [on]; decide), more]
  rw [stays, ProbeRun.resolveIPv4, if_pos dotted, if_pos octets]

/-- The first server never replies, and the second does. -/
theorem run_judged_second :
    ∃ reply value, Told ⟨"a", [⟨"192.0.2.1", 3478⟩, ⟨"192.0.2.2", 3478⟩]⟩ reply ∧
      reply.error = none ∧ reply.value = some value ∧ value.host = "192.0.2.2" ∧ value.received = 1 ∧
      reply.results.map (fun entry => entry.value.map (·.received)) = [some 0, some 1] := by
  let first : ProbeServer := ⟨"192.0.2.1", 3478⟩
  let second : ProbeServer := ⟨"192.0.2.2", 3478⟩
  let request : ProbeRequest := ⟨"a", [first, second]⟩
  have begun := (Machine.Run.start (M := machine request)
    ⟨false, 0, Nat.zero_le 4, rfl⟩).step (Step.begun rfl)
  rw [@next_dotted _ first [second] rfl rfl (by decide) (by decide)] at begun
  obtain ⟨_, silent⟩ := Measure.sampled_run first "192.0.2.1"
  obtain ⟨value₁, silent, received₁⟩ := Measure.run_drained silent rfl (by decide)
  obtain ⟨_, run⟩ := run_pushed ⟨_, begun⟩ rfl rfl silent rfl rfl
  rw [ProbeRun.push, @next_dotted _ second [] rfl rfl (by decide) (by decide)] at run
  obtain ⟨_, heard⟩ := Measure.answeredThird_run second "192.0.2.2"
  obtain ⟨value₂, heard, received₂⟩ := Measure.run_drained heard rfl (by decide)
  obtain ⟨_, run⟩ := run_pushed ⟨_, run⟩ rfl rfl heard rfl rfl
  have chosen : selected [ServerResult.of first (.ok value₁), ServerResult.of second (.ok value₂)] =
      some (ServerResult.of second (.ok value₂)) := by
    replace received₁ : value₁.received = 0 := received₁
    replace received₂ : value₂.received = 1 := received₂
    simp [selected, ServerResult.of, received₁, received₂]
  rw [ProbeRun.push, next_found rfl rfl chosen] at run
  refine ⟨_, value₂, run_judged run rfl, rfl, rfl, (Measure.reports_of_run heard value₂ rfl).1, received₂, ?_⟩
  show [some value₁.received, some value₂.received] = _
  rw [received₁, received₂]
  rfl

end ProbeRun

/-! ## The listener -/

namespace ResultServer

variable {stringify : ProbeReply → String} {s s' : ResultServer} {l : Label}

/-- An ability hands over the reply of its own check, the one that a run of that check has ended
with. -/
def Handed (_ : ResultServer) (l : Label) : Prop :=
  ∀ reply, l = .finishProbe reply → ∃ request t r,
    (ProbeRun.machine request).Run t r ∧ r.phase = .replied reply

/-- Every reply that is kept, or was sent, has the property.  The server keeps at most one reply
and sends it as often as it is asked for. -/
structure Holds (P : ProbeReply → Prop) (s : ResultServer) : Prop where
  kept : ∀ reply, s.reply = some reply → P reply
  sent : ∀ a ∈ s.answers, ∀ reply, a.body = .reply reply → P reply

namespace Holds

variable {P : ProbeReply → Prop}

/-- A change of the connections alone leaves the reply and the answers as good as they were. -/
theorem same (holds : Holds P s) (reply : s'.reply = s.reply) (answers : s'.answers = s.answers) :
    Holds P s' :=
  ⟨reply ▸ holds.kept, answers ▸ holds.sent⟩

/-- A server without a reply has none that could be bad. -/
theorem dropped (holds : Holds P s) (reply : s'.reply = none) (answers : s'.answers = s.answers) :
    Holds P s' := by
  refine ⟨fun kept found => ?_, answers ▸ holds.sent⟩
  rw [reply] at found
  cases found

/-- At the end of a check its reply is forgotten. -/
theorem endProbe (holds : Holds P s) (id : String) : Holds P (s.endProbe id) := by
  unfold ResultServer.endProbe
  split
  · exact holds.dropped rfl rfl
  · exact holds

/-- The release of a connection is no business of the reply. -/
theorem release (holds : Holds P s) (place : ℕ) (client : AdmittedClient) :
    Holds P (s.release place client) := by
  unfold ResultServer.release
  split <;> exact holds.same rfl rfl

/-- The reply that a check ends with is the one that is held from then on. -/
theorem finishProbe (holds : Holds P s) {reply : ProbeReply} (good : P reply) :
    Holds P (s.finishProbe reply) := by
  unfold ResultServer.finishProbe
  split
  · refine ⟨?_, holds.sent⟩
    rintro _ ⟨⟩
    exact good
  · exact holds

/-- An answer is as good as the reply that it carries, if it carries one. -/
theorem send (holds : Holds P s) (place : ℕ) (client : AdmittedClient) (code : ℕ)
    {body : AnswerBody} (consumed : Option String) (good : ∀ reply, body = .reply reply → P reply) :
    Holds P (s.send stringify place client code body consumed) := by
  refine ⟨holds.kept, fun a mem reply of_reply => ?_⟩
  rcases List.mem_append.mp mem with old | new
  · exact holds.sent a old reply of_reply
  · rw [List.mem_singleton.mp new] at of_reply
    exact good reply of_reply

/-- Only the reply that is held is ever answered. -/
theorem answer (holds : Holds P s) (place : ℕ) (client : AdmittedClient) :
    Holds P (s.answer stringify place client) := by
  unfold ResultServer.answer
  split
  · exact holds.send place client 404 none nofun
  split
  · exact holds.send place client 202 none nofun
  · rename_i reply ready
    refine holds.send place client 200 s.consumed ?_
    rintro _ ⟨⟩
    exact holds.kept reply ready

/-- Bytes that arrive are answered at most, by what the server holds. -/
theorem onMessage (holds : Holds P s) (place : ℕ) (client : AdmittedClient)
    (bytes : List UInt8) : Holds P (s.onMessage stringify place client bytes) := by
  unfold ResultServer.onMessage
  split
  · exact holds
  split
  · exact holds.same rfl rfl
  · simp only
    split
    · exact holds.same rfl rfl
    · exact holds.answer place _

end Holds

/-- Every step keeps the replies and the answers good, if each check that ends does so with a good
one. -/
theorem Step.holds {P : ProbeReply → Prop} (step : Step stringify s l s') (holds : Holds P s)
    (good : ∀ reply, l = .finishProbe reply → P reply) : Holds P s' := by
  cases step with
  | @beginProbe id =>
      unfold ResultServer.beginProbe
      split
      · exact holds
      · simp only [Option.getD_some]
        split <;> exact holds.dropped rfl rfl
  | @began before after id listening _ =>
      unfold ResultServer.began
      split
      · exact holds.same rfl rfl
      · have resumed : Holds P { s with beginning := before ++ after, starting := false } :=
          holds.same rfl rfl
        exact resumed.endProbe id
  | finishProbe => exact holds.finishProbe (good _ rfl)
  | endProbe => exact holds.endProbe _
  | connect =>
      unfold ResultServer.accept
      split
      · exact holds
      · exact holds.same rfl rfl
  | timeout _ _ => exact holds.same rfl rfl
  | close _ => exact holds.release _ _
  | error _ => exact holds.release _ _
  | message _ => exact holds.onMessage _ _ _
  | sent _ _ => exact holds.same rfl rfl
  | @closed place client consumed sent finished _ _ =>
      unfold ResultServer.onClosed
      simp only
      split
      · split
        · exact (holds.endProbe _).release _ _
        · exact holds.release _ _
      · exact holds.release _ _

/-- **What the computer reads under its id is the reply of a check with that id**, so it takes it
or reports the error of the device. -/
theorem run_handsOut {t : List (ResultServer × Label)} (run : (machine stringify).Run t s)
    (handed : Machine.Meets Handed t) :
    ∀ a ∈ s.answers, a.code = 200 → ∃ request reply, a.body = .reply reply ∧
      a.data = responseText stringify 200 (.reply reply) ∧
      a.line = requestLine request.requestId ∧ ProbeRun.Told request reply := by
  have holds : Holds (fun reply => ∃ request, ProbeRun.Told request reply) s := by
    refine run.invariant (Holds _) ?_ ?_ handed
    · rintro _ rfl
      exact ⟨nofun, nofun⟩
    · intro s l s' holds handed step
      refine step.holds holds fun reply finished => ?_
      obtain ⟨request, t, r, checked, replied⟩ := handed reply finished
      exact ⟨request, (ProbeRun.sound_of_run checked).told replied⟩
  intro a mem success
  have known := (inv_of_run run).answers a mem
  obtain ⟨_, line, _, reply, body, active⟩ := known.secret success
  obtain ⟨request, told⟩ := holds.sent a mem reply body
  refine ⟨request, reply, body, ?_, ?_, told⟩
  · rw [known.data, success, body]
  · rw [line, ← active, told.requestId]

/-- A check that was canceled at once, and a connection that asks for its reply. -/
theorem run_handsOut_canceled : ∃ s : ResultServer, s.answers.map (·.code) = [200] ∧
    ∀ a ∈ s.answers, a.code = 200 → ∃ request reply, a.body = .reply reply ∧
      a.data = responseText (fun _ => "") 200 (.reply reply) ∧
      a.line = requestLine request.requestId ∧ ProbeRun.Told request reply := by
  have canceled := (Machine.Run.start (M := ProbeRun.machine ⟨"a", []⟩)
    ⟨true, 0, Nat.zero_le 4, rfl⟩).step (ProbeRun.Step.begun rfl)
  have begun := (Machine.Run.start (M := machine fun _ => "") rfl).step
    (show (machine fun _ => "").step _ (.beginProbe "a") _ from .beginProbe)
  have finished := begun.step (show (machine fun _ => "").step _
    (.finishProbe ⟨"a", none, [], some "probe_timeout"⟩) _ from .finishProbe)
  have connected := finished.step (show (machine fun _ => "").step _ .connect _ from .connect)
  have asked := connected.step (show (machine fun _ => "").step _
    (.message 0 ("GET /v1/probe/a HTTP/1.1\r\n\r\n".toList.map fun c => UInt8.ofNat c.toNat)) _
      from .message rfl)
  refine ⟨_, by decide, run_handsOut asked ?_⟩
  intro p mem reply handed
  simp only [List.mem_append, List.mem_singleton, List.not_mem_nil, false_or] at mem
  rcases mem with ((rfl | rfl) | rfl) | rfl
  · cases handed
  · cases handed
    exact ⟨_, _, _, canceled, rfl⟩
  · cases handed
  · cases handed

end ResultServer

end ReverseTether
