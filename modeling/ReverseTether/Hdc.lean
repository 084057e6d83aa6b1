import ReverseTether.Library.Hoare
import ReverseTether.PythonText

/-!
# The device connector

`Hdc` calls the connector of the SDK, which reaches the device over USB.  Every call is a
process of its own.  It can fail, or take too long, and still have reached the device: what the
device has applied is one thing, and what the script gets to know is another.

A call is an `Exchange`.  What answers is input, and may depend on all the exchanges before; the
state keeps them, the last one first, with the flags of the script.

The methods are programs in `HdcM`, and read like the source: each of them runs commands,
looks at the output and throws what the script throws.  The output of a listing is a text, and
is taken apart by the same methods of `str`; no structure of the connector is assumed beyond
what the code checks.

`ownedRule`, `requested` and `online` are the flags of the supervisor that outlive an
iteration, and they are all that its cleanup looks at; what is in force at the device is not
among them.
-/

namespace ReverseTether

open Library

/-! ## The calls -/

/-- A forwarding rule of the connector, with the direction it goes in and whether the script found
it there. -/
structure Rule where
  serial : Text
  /-- `tcp:` and the port at the device. -/
  device : Text
  host : Text
  reverse : Bool
  /-- It was there before the script. -/
  before : Bool
  deriving DecidableEq

/-- The words of the line that `fport ls` prints for a rule. -/
def Rule.fields (rule : Rule) : List Text :=
  [rule.serial, rule.device, rule.host,
    if rule.reverse then "[Reverse]".toList else "[Forward]".toList]

/-- The subcommands of the connector that the script uses, with the arguments that it passes. -/
inductive Command
  /-- `list targets -v`. -/
  | listTargets
  /-- `fport ls`. -/
  | fportLs
  | rport (device host : Text)
  /-- `fport rm`. -/
  | fportRm (device host : Text)
  /-- The arguments that `shlex.join` makes one text of. -/
  | shell (arguments : List Text)
  deriving DecidableEq

/-- What `subprocess.run` comes to: the connector exits with a code and what it printed, or it
takes too long. -/
inductive ProcessResult
  /-- `stdout + stderr`. -/
  | exited (returncode : ℤ) (output : Text)
  | timedOut

/-- What becomes of one call, at the device and at the script; the two need not agree. -/
structure Reply where
  /-- The rules that are in force when the call arrives. -/
  rules : List Rule
  /-- The device has applied the command. -/
  applied : Bool
  result : ProcessResult

/-- One call of the connector: the command, and what became of it. -/
structure Exchange where
  command : Command
  reply : Reply

/-- The exceptions of the script: its own `RuntimeError`, the time-out of a call, and an error of
the system, which ends the supervision. -/
inductive Failure
  | runtimeError (message : Text)
  | timeoutExpired
  | osError
  deriving DecidableEq

/-- The connector for one app: the bundle that it controls, the port at the device, and what
answers its calls. -/
structure Hdc where
  bundle : Text
  devicePort : ℕ
  /-- What a call comes to behind these exchanges. -/
  answer : List Exchange → Command → Reply

/-- The flags of the script, and the exchanges so far, the last one first. -/
structure Supervisor where
  exchanges : List Exchange
  ownedRule : Bool
  requested : Bool
  online : Bool

/-- A part of the script: it can fail with one of its exceptions, and what it did until then stays
done. -/
abbrev HdcM := ExceptT Failure (StateM Supervisor)

/-! ## `Hdc` -/

/-- A letter that `re.I` takes for another one. -/
def foldCase (c : Char) : Char :=
  if c = 'İ' ∨ c = 'ı' then 'i' else if c = 'ſ' then 's' else c.toLower

/-- HDC can return exit status 0 for device-side failure. -/
def reportsFailure (output : Text) : Bool :=
  ["[fail]", "error:", "install failed", "failed to"].any fun pattern ↦
    Text.contains (output.map foldCase) pattern.toList

/-- What `run` makes of the result of the process. -/
def ProcessResult.outcome : ProcessResult → Except Failure Text
  | .timedOut => .error .timeoutExpired
  | .exited returncode output =>
      if returncode ≠ 0 ∨ reportsFailure output then
        .error (.runtimeError (if output.strip = [] then
          "hdc exited ".toList ++ (toString returncode).toList else output.strip))
      else .ok output.strip

/-- What the script gets to know of the call: the output without its blanks, or the exception. -/
def Exchange.outcome (e : Exchange) : Except Failure Text := e.reply.result.outcome

/-- `tcp:` and a port. -/
def tcp (port : ℕ) : Text := "tcp:".toList ++ Text.ofNat port

namespace Hdc

variable (hdc : Hdc)

/-- `run`: the exchange is recorded before its result is looked at, so that a call which fails has
been made. -/
def run (command : Command) : HdcM Text := do
  let s ← get
  let e : Exchange := ⟨command, hdc.answer s.exchanges command⟩
  modify fun s ↦ { s with exchanges := e :: s.exchanges }
  match e.outcome with
  | .ok output => pure output
  | .error failure => throw failure

/-- `shell`: the arguments are quoted and joined, and run at the device. -/
def shell (arguments : List Text) : HdcM Text := hdc.run (.shell arguments)

/-- `connected`: a line of the listing says that the device with this serial number is connected
over USB. -/
def connected (serial : Text) : HdcM Bool := do
  let text ← hdc.run .listTargets
  return text.splitlines.any fun line ↦
    line.split.take 3 = [serial, "USB".toList, "Connected".toList]

/-- `rules`: the listing of all the rules of the connector, as one text. -/
def rules : HdcM Text := hdc.run .fportLs

/-- A line of the listing that shows a reverse rule for the port at the device. -/
def forwards (serial line : Text) : Bool :=
  let fields := line.split
  4 ≤ fields.length && fields[0]? = some serial && fields[1]? = some (tcp hdc.devicePort) &&
    fields.getLast? = some "[Reverse]".toList

/-- A line of the listing that contains the rule. -/
def retains (serial : Text) (port : ℕ) (line : Text) : Bool :=
  line.contains (tcp hdc.devicePort ++ ' ' :: tcp port) && line.contains serial &&
    line.contains "[Reverse]".toList

/-- Whether the rule was made: it may have been there. -/
def reverse (serial : Text) (port : ℕ) : HdcM Bool := do
  let listed ← hdc.rules
  match listed.splitlines.find? (hdc.forwards serial) with
  | some line =>
      let target := line.split[2]?.getD []
      if target ≠ tcp port then
        throw (.runtimeError ("Device port ".toList ++ Text.ofNat hdc.devicePort ++
          " already forwards to ".toList ++ target))
      else return false
  | none =>
      let _ ← hdc.run (.rport (tcp hdc.devicePort) (tcp port))
      let retained ← hdc.rules
      if !retained.splitlines.any (hdc.retains serial port) then
        throw (.runtimeError "HDC did not retain the reverse rule".toList)
      else return true

/-- The command of `control`. -/
def controlCommand (command : String) : Command :=
  .shell (["aa", "start", "-b"].map String.toList ++ [hdc.bundle] ++
    ["-a", "EntryAbility", "--ps", "command", command].map String.toList ++
    if command = "start" then
      ["--ps".toList, "port".toList, Text.ofNat hdc.devicePort]
    else [])

/-- `control`: the ability of the app is started with the command, and the start command has the
port with it. -/
def control (command : String) : HdcM Text := hdc.run (hdc.controlCommand command)

/-! ## `main` -/

/-- What the script does besides the connector before the loop: it takes the lock and starts the
relay, and either may fail. -/
structure Preparation where
  /-- The relay exists, and the lock was taken. -/
  locked : Except Failure Unit
  /-- The relay was started, and is ready. -/
  ready : Except Failure Unit

variable (serial : Text) (relayPort : ℕ)

/-- What is done when the VPN was not requested since the device is connected. -/
def requestStart : HdcM Unit := do
  -- the foreground UI is shown before the consent to the VPN is requested
  let _ ← hdc.shell (["aa", "start", "-b"].map String.toList ++ [hdc.bundle] ++
    ["-a", "EntryAbility"].map String.toList)
  let _ ← hdc.control "start"
  modify fun s ↦ { s with requested := true }

/-- The branch for a device that is connected. -/
def supervisePresent : HdcM Unit := do
  let created ← hdc.reverse serial relayPort
  modify fun s ↦ { s with ownedRule := s.ownedRule || created }
  let s ← get
  if !s.online then hdc.requestStart

/-- A turn of the loop behind the test of the relay, inside its `try`. -/
def supervise : HdcM Unit := do
  let present ← hdc.connected serial
  if present then hdc.supervisePresent serial relayPort
  modify fun s ↦ { s with online := present }

/-- `while not stop`: each element is one turn, and says whether the relay still runs. -/
def superviseLoop : List Bool → HdcM Unit
  | [] => pure ()
  | false :: _ => throw (.runtimeError
      "Relay exited; supervisor should restart this process".toList)
  | true :: turns => do
      try hdc.supervise serial relayPort
      catch failure =>
        match failure with
        | .osError => throw failure
        | _ => pure ()
      superviseLoop turns

/-- The `finally` of `main`. -/
def cleanUp : HdcM Unit := do
  let s ← get
  if s.requested then unconfirmed (hdc.control "stop")
  let s ← get
  if s.ownedRule then unconfirmed (hdc.run (.fportRm (tcp hdc.devicePort) (tcp relayPort)))
where
  /-- A failure is only reported. -/
  unconfirmed (call : HdcM Text) : HdcM Unit := do
    try let _ ← call
    catch _ => pure ()

/-- `harmony-tether.py run`. -/
def runScript (preparation : Preparation) (turns : List Bool) : HdcM Unit := do
  let present ← hdc.connected serial
  if !present then throw (.runtimeError "The specified device is not connected through USB".toList)
  else
    let dump ← hdc.shell (["bm", "dump", "-n"].map String.toList ++ [hdc.bundle])
    if !dump.contains hdc.bundle then
      throw (.runtimeError "Signed VPN HAP is not installed on this device".toList)
    else
      liftExcept preparation.locked
      try
        liftExcept preparation.ready
        hdc.superviseLoop serial relayPort turns
      finally
        hdc.cleanUp relayPort
where
  liftExcept (result : Except Failure Unit) : HdcM Unit := ExceptT.mk (pure result)

/-- The exchanges of a whole run. -/
def exchanges (preparation : Preparation) (turns : List Bool) : List Exchange :=
  ((hdc.runScript serial relayPort preparation turns).run.run ⟨[], false, false, false⟩).2.exchanges

end Hdc

end ReverseTether
