import ReverseTether.Hdc

/-!
# What the script leaves behind

When `run` ends it removes the reverse rule and stops the tunnel, each if its flag says that it
was the script that made them.  The flags are set behind the calls: `owned_rule` when the rule
was made and a listing shows it, `requested` when the start has returned.

`Accounts` is the invariant of the loop: the flags say exactly that the exchanges have such a
pair, or such an answer (`confirmed`, `started`).  So a call that reaches the device and then
fails, or whose listing does, is not accounted for, and a later turn finds a rule that it does
not take for its own.  **What is not at risk** is a rule of someone else: the script makes one
only behind a listing without any (`Clear`).

`CleansUp` is what a user may expect: what took effect is undone, and nothing else is.
`cleansUp_iff` says in which runs it holds, in terms of the answers that the script has got;
`slowHdc` is a connector that answers too late.
-/

namespace ReverseTether

open Library

namespace Hdc

/-- A call appends the command with its answer, and returns what the answer comes to. -/
theorem run_eq (hdc : Hdc) (command : Command) (s : Supervisor) :
    (hdc.run command).run.run s =
      ((⟨command, hdc.answer s.exchanges command⟩ : Exchange).outcome,
        { s with exchanges := ⟨command, hdc.answer s.exchanges command⟩ :: s.exchanges }) := by
  have read : StateT.run (ExceptT.run (get : HdcM Supervisor)) s = Pure.pure (Except.ok s, s) := rfl
  unfold run
  simp only [ExceptT.run_bind, StateT.run_bind, read, pure_bind]
  cases outcome : (⟨command, hdc.answer s.exchanges command⟩ : Exchange).outcome <;> rfl

/-- The rule for a call: the exchange is added, whatever comes of it. -/
theorem run_triple {hdc : Hdc} {command : Command} {pre : Supervisor → Prop}
    {post : Except Failure Text → Supervisor → Prop}
    (each : ∀ s e, pre s → e.command = command →
      post e.outcome { s with exchanges := e :: s.exchanges }) :
    Triple pre (hdc.run command) post := by
  intro s holds
  rw [hdc.run_eq]
  exact each s _ holds rfl

section Ownership

variable (hdc : Hdc) (serial : Text) (relayPort : ℕ)

/-! ## The commands that are counted -/

/-- The one command of the script that makes a rule. -/
def rportCommand : Command := .rport (tcp hdc.devicePort) (tcp relayPort)

/-- The one command of the script that removes a rule. -/
def removeCommand : Command := .fportRm (tcp hdc.devicePort) (tcp relayPort)

/-- An `rport` that was answered with success. -/
def made (e : Exchange) : Bool := e.command = hdc.rportCommand relayPort && e.outcome.isOk

/-- A listing that shows the rule. -/
def confirms (e : Exchange) : Bool :=
  e.command = .fportLs && (e.outcome.toOption.any fun output ↦
    output.splitlines.any (hdc.retains serial relayPort))

/-- A rule was made, and the listing right behind it shows it. -/
def confirmed : List Exchange → Bool
  | later :: earlier :: es =>
      (made hdc relayPort earlier && confirms hdc serial relayPort later) ||
        confirmed (earlier :: es)
  | _ => false

/-- A start that was answered with success. -/
def started (e : Exchange) : Bool := e.command = hdc.controlCommand "start" && e.outcome.isOk

/-- A listing without any rule for the port, at this device.  Only behind such a listing does the
script make a rule. -/
def Clear (e : Exchange) : Prop :=
  e.command = .fportLs ∧
    ∃ output, e.outcome = .ok output ∧ ∀ line ∈ output.splitlines, hdc.forwards serial line = false

/-- What the last exchange adds: a listing that shows the rule, right behind an `rport` with
success. -/
theorem confirmed_cons (e : Exchange) (es : List Exchange) :
    confirmed hdc serial relayPort (e :: es) =
      (es.head?.any (made hdc relayPort) && confirms hdc serial relayPort e ||
        confirmed hdc serial relayPort es) := by
  cases es with
  | nil => rfl
  | cons earlier es => rfl

/-- The commands that neither make nor remove anything, so that nothing has to be said about their
answers. -/
structure Plain (command : Command) : Prop where
  rport : command ≠ hdc.rportCommand relayPort
  remove : command ≠ hdc.removeCommand relayPort
  start : command ≠ hdc.controlCommand "start"
  stop : command ≠ hdc.controlCommand "stop"

/-- Starting and stopping are different commands. -/
theorem controlCommand_ne : hdc.controlCommand "start" ≠ hdc.controlCommand "stop" := by
  simp [controlCommand]

/-! ## The invariant -/

/-- The flags say what the exchanges say; nothing was removed or stopped.  A flag is set by what
was answered, and what took effect with no answer is in neither. -/
structure Accounts (s : Supervisor) : Prop where
  owned : s.ownedRule = confirmed hdc serial relayPort s.exchanges
  requested : s.requested = s.exchanges.any (started hdc)
  /-- Behind a rule that was made there is a listing. -/
  settled : s.exchanges.head?.any (made hdc relayPort) = false
  kept : ∀ e ∈ s.exchanges, e.command ≠ hdc.removeCommand relayPort
  running : ∀ e ∈ s.exchanges, e.command ≠ hdc.controlCommand "stop"
  clear : s.ownedRule = true → ∃ e ∈ s.exchanges, Clear hdc serial e

variable {hdc serial relayPort}

/-- An exchange that the flags do not depend on. -/
theorem Accounts.cons {s : Supervisor} (accounts : Accounts hdc serial relayPort s) {e : Exchange}
    (noRule : made hdc relayPort e = false) (noStart : started hdc e = false)
    (remove : e.command ≠ hdc.removeCommand relayPort)
    (stop : e.command ≠ hdc.controlCommand "stop") :
    Accounts hdc serial relayPort { s with exchanges := e :: s.exchanges } where
  owned := by
    rw [confirmed_cons, accounts.settled, Bool.false_and, Bool.false_or]
    exact accounts.owned
  requested := by
    rw [List.any_cons, noStart, Bool.false_or]
    exact accounts.requested
  settled := by
    simpa using noRule
  kept := List.forall_mem_cons.mpr ⟨remove, accounts.kept⟩
  running := List.forall_mem_cons.mpr ⟨stop, accounts.running⟩
  clear := fun owned ↦
    let ⟨clear, mem, found⟩ := accounts.clear owned
    ⟨clear, List.mem_cons_of_mem _ mem, found⟩

/-- **A plain command keeps the accounts**, whatever it is answered.  Neither flag depends on it,
and a command that adds or removes a rule is not plain. -/
theorem Accounts.call {command : Command} (plain : Plain hdc relayPort command) :
    Triple (Accounts hdc serial relayPort) (hdc.run command)
      fun _ ↦ Accounts hdc serial relayPort := by
  apply run_triple
  rintro s e accounts rfl
  apply accounts.cons
  · simp [made, plain.rport]
  · simp [started, plain.start]
  · exact plain.remove
  · exact plain.stop

/-! ## The methods -/

/-- What `reverse` has returned. -/
def created : Except Failure Bool → Bool
  | .ok created => created
  | .error _ => false

/-- A listing that the script has read.  The script knows no more of the rules than these listings
say. -/
def Read (s : Supervisor) (output : Text) : Prop :=
  ∃ e ∈ s.exchanges, e.command = .fportLs ∧ e.outcome = .ok output

/-- The rules are listed; what was returned is a listing that was read. -/
theorem Accounts.rules : Triple (Accounts hdc serial relayPort) hdc.rules
    fun r s ↦ Accounts hdc serial relayPort s ∧ ∀ output, r = .ok output → Read s output := by
  apply run_triple
  intro s e accounts listing
  refine ⟨accounts.cons ?_ ?_ ?_ ?_, ?_⟩
  · simp [made, listing, rportCommand]
  · simp [started, listing, controlCommand]
  · simp [listing, removeCommand]
  · simp [listing, controlCommand]
  · intro output outcome
    exact ⟨e, List.mem_cons_self, listing, outcome⟩

/-- The rule was made, and nothing was listed since: it is between the `rport` and the listing that
must show it. -/
structure Unlisted (hdc : Hdc) (serial : Text) (relayPort : ℕ) (s : Supervisor) : Prop where
  made : s.exchanges.head?.any (hdc.made relayPort) = true
  before : Accounts hdc serial relayPort { s with exchanges := s.exchanges.tail }
  clear : ∃ e ∈ s.exchanges, Clear hdc serial e

/-- An `rport` behind a listing without any rule. -/
theorem Accounts.rport :
    Triple (fun s ↦ Accounts hdc serial relayPort s ∧ ∃ e ∈ s.exchanges, Clear hdc serial e)
      (hdc.run (hdc.rportCommand relayPort))
      fun r s ↦ if r.isOk then Unlisted hdc serial relayPort s
        else Accounts hdc serial relayPort s := by
  apply run_triple
  rintro s e ⟨accounts, clear, mem, empty⟩ rport
  split
  · rename_i ok
    refine ⟨?_, accounts, clear, List.mem_cons_of_mem _ mem, empty⟩
    simp [made, rport, ok]
  · rename_i failed
    apply accounts.cons
    · simp [made, failed]
    · simp [started, rport, rportCommand, controlCommand]
    · simp [rport, rportCommand, removeCommand]
    · simp [rport, rportCommand, controlCommand]

/-- The listing behind an `rport`. -/
theorem Unlisted.rules : Triple (Unlisted hdc serial relayPort) hdc.rules
    fun r s ↦ Accounts hdc serial relayPort { s with
      ownedRule := s.ownedRule || r.toOption.any fun output ↦
        output.splitlines.any (hdc.retains serial relayPort) } := by
  apply run_triple
  rintro ⟨exchanges, ownedRule, requested, online⟩ e ⟨made, before, clear⟩ listing
  have shown : confirms hdc serial relayPort e = e.outcome.toOption.any fun output ↦
      output.splitlines.any (hdc.retains serial relayPort) := by
    simp [confirms, listing]
  match exchanges, made, before, clear with
  | rport :: exchanges, made, before, clear =>
      have rported : rport.command = hdc.rportCommand relayPort := by
        simp only [List.head?_cons, Option.any_some, Hdc.made, Bool.and_eq_true,
          decide_eq_true_eq] at made
        exact made.1
      constructor
      · have owned : ownedRule = confirmed hdc serial relayPort exchanges := before.owned
        have settled : exchanges.head?.any (hdc.made relayPort) = false := before.settled
        simp only [confirmed_cons, made, settled, ← shown, owned, Bool.true_and, Bool.false_and,
          Bool.false_or]
        exact Bool.or_comm _ _
      · have requested : requested = exchanges.any (started hdc) := before.requested
        simp only [List.any_cons, ← requested]
        simp [started, listing, rported, rportCommand, controlCommand]
      · simp [Hdc.made, listing, rportCommand]
      · refine List.forall_mem_cons.mpr ⟨?_, List.forall_mem_cons.mpr ⟨?_, before.kept⟩⟩
        · simp [listing, removeCommand]
        · simp [rported, rportCommand, removeCommand]
      · refine List.forall_mem_cons.mpr ⟨?_, List.forall_mem_cons.mpr ⟨?_, before.running⟩⟩
        · simp [listing, controlCommand]
        · simp [rported, rportCommand, controlCommand]
      · intro _
        obtain ⟨clear, mem, empty⟩ := clear
        exact ⟨clear, List.mem_cons_of_mem _ mem, empty⟩

/-- **`reverse` returns true exactly when it has made a rule that a listing shows.**  A rule that
the listing shows before the command is not its own, and one that it does not show behind it is not
made; an answer that was lost counts as no. -/
theorem Accounts.reverse : Triple (Accounts hdc serial relayPort) (hdc.reverse serial relayPort)
    fun r s ↦ Accounts hdc serial relayPort
      { s with ownedRule := s.ownedRule || created r } := by
  have same {s : Supervisor} (accounts : Accounts hdc serial relayPort s) :
      Accounts hdc serial relayPort { s with ownedRule := s.ownedRule || false } := by
    rw [Bool.or_false]
    exact accounts
  have listing := @Accounts.rules hdc serial relayPort
  unfold Hdc.reverse
  refine Triple.bind listing ?_ ?_
  · intro listed
    cases found : listed.splitlines.find? (hdc.forwards serial) with
    | some line =>
        apply Triple.ite
        · intro _ s ⟨accounts, _⟩
          exact same accounts
        · intro _ s ⟨accounts, _⟩
          exact same accounts
    | none =>
        have unlisted : ∀ line ∈ listed.splitlines, hdc.forwards serial line = false := by
          simpa using List.find?_eq_none.mp found
        refine Triple.bind (@Accounts.rport hdc serial relayPort |>.weaken ?_ fun _ _ ↦ id) ?_ ?_
        · rintro s ⟨accounts, read⟩
          obtain ⟨e, mem, command, outcome⟩ := read listed rfl
          exact ⟨accounts, e, mem, command, listed, outcome, unlisted⟩
        · intro _
          refine Triple.bind (@Unlisted.rules hdc serial relayPort) ?_ ?_
          · intro retained
            apply Triple.ite
            · intro missing s accounts
              have absent : retained.splitlines.any (hdc.retains serial relayPort) = false := by
                simpa using missing
              change Accounts hdc serial relayPort { s with
                ownedRule := s.ownedRule || retained.splitlines.any _ } at accounts
              rw [absent] at accounts
              exact accounts
            · intro shown s accounts
              have present : retained.splitlines.any (hdc.retains serial relayPort) = true := by
                simpa using shown
              change Accounts hdc serial relayPort { s with
                ownedRule := s.ownedRule || retained.splitlines.any _ } at accounts
              rw [present] at accounts
              exact accounts
          · intro failure s accounts
            exact accounts
        · intro failure s accounts
          exact same accounts
  · rintro e s ⟨accounts, -⟩
    exact same accounts

/-- **The flag of a start is set exactly behind one that has returned.** -/
theorem Accounts.start : Triple (Accounts hdc serial relayPort) (hdc.control "start")
    fun r s ↦ Accounts hdc serial relayPort { s with requested := s.requested || r.isOk } := by
  apply run_triple
  intro s e accounts start
  have noRule : made hdc relayPort e = false := by
    simp [made, start, rportCommand, controlCommand]
  constructor
  · show s.ownedRule = _
    rw [confirmed_cons, accounts.settled, Bool.false_and, Bool.false_or]
    exact accounts.owned
  · show (s.requested || e.outcome.isOk) = (e :: s.exchanges).any (started hdc)
    rw [List.any_cons, ← accounts.requested, Bool.or_comm]
    simp [started, start]
  · simpa using noRule
  · refine List.forall_mem_cons.mpr ⟨?_, accounts.kept⟩
    simp [start, controlCommand, removeCommand]
  · refine List.forall_mem_cons.mpr ⟨?_, accounts.running⟩
    rw [start]
    exact controlCommand_ne hdc
  · intro owned
    obtain ⟨clear, mem, empty⟩ := accounts.clear owned
    exact ⟨clear, List.mem_cons_of_mem _ mem, empty⟩

/-- A predicate that no plain command changes.  The commands that matter are few, and each has its
own triple; all others come by this one. -/
def Keeps (hdc : Hdc) (relayPort : ℕ) (inv : Supervisor → Prop) : Prop :=
  ∀ command, Plain hdc relayPort command → Triple inv (hdc.run command) fun _ ↦ inv

/-- Looking for the device runs plain commands only. -/
theorem Keeps.connected {inv : Supervisor → Prop} (keeps : Keeps hdc relayPort inv) :
    Triple inv (hdc.connected serial) fun _ ↦ inv := by
  have plain : Plain hdc relayPort .listTargets := ⟨nofun, nofun, nofun, nofun⟩
  unfold Hdc.connected
  exact Triple.bind (keeps _ plain) (fun _ _ ↦ id) fun _ _ ↦ id

/-- A command of the shell that is not one of `control`. -/
theorem Keeps.shell {inv : Supervisor → Prop} (keeps : Keeps hdc relayPort inv)
    {arguments : List Text} (short : arguments.length < 9) :
    Triple inv (hdc.shell arguments) fun _ ↦ inv := by
  apply keeps
  refine ⟨nofun, nofun, ?_, ?_⟩
  · rintro ⟨⟩
    simp at short
  · rintro ⟨⟩
    simp at short

/-- The accounts are kept by the plain commands. -/
theorem Accounts.keeps : Keeps hdc relayPort (Accounts hdc serial relayPort) :=
  fun _ plain ↦ Accounts.call plain

/-! ## The loop -/

/-- A change of what the invariant does not speak about. -/
theorem Accounts.online {s : Supervisor} (accounts : Accounts hdc serial relayPort s)
    (online : Bool) : Accounts hdc serial relayPort { s with online } :=
  ⟨accounts.owned, accounts.requested, accounts.settled, accounts.kept, accounts.running,
    accounts.clear⟩

/-- A start that returned sets its flag. -/
theorem Accounts.requestStart : Triple (Accounts hdc serial relayPort) hdc.requestStart
    fun _ ↦ Accounts hdc serial relayPort := by
  unfold Hdc.requestStart
  refine Triple.bind (Accounts.keeps.shell (Nat.lt_of_sub_eq_succ rfl)) (fun _ ↦ ?_) fun _ _ ↦ id
  refine Triple.bind Accounts.start (fun _ ↦ ?_) ?_
  · intro s accounts
    change Accounts hdc serial relayPort { s with requested := s.requested || true } at accounts
    rw [Bool.or_true] at accounts
    exact accounts
  · intro failure s accounts
    change Accounts hdc serial relayPort { s with requested := s.requested || false } at accounts
    rw [Bool.or_false] at accounts
    exact accounts

/-- One round with the device present. -/
theorem Accounts.present : Triple (Accounts hdc serial relayPort)
    (hdc.supervisePresent serial relayPort) fun _ ↦ Accounts hdc serial relayPort := by
  unfold Hdc.supervisePresent
  refine Triple.bind Accounts.reverse (fun created ↦ ?_) ?_
  · refine Triple.bind (@Triple.update _ _ _ fun _ ↦ Accounts hdc serial relayPort)
      (fun _ ↦ ?_) fun _ _ ↦ id
    refine Triple.bind (@Triple.get _ _ fun _ ↦ Accounts hdc serial relayPort)
      (fun s ↦ ?_) fun _ _ ↦ id
    apply Triple.ite
    · intro _
      exact Accounts.requestStart
    · intro _ s accounts
      exact accounts
  · intro failure s accounts
    change Accounts hdc serial relayPort { s with ownedRule := s.ownedRule || false } at accounts
    rw [Bool.or_false] at accounts
    exact accounts

/-- One round of the supervision. -/
theorem Accounts.supervise : Triple (Accounts hdc serial relayPort)
    (hdc.supervise serial relayPort) fun _ ↦ Accounts hdc serial relayPort := by
  unfold Hdc.supervise
  refine Triple.bind Accounts.keeps.connected (fun present ↦ ?_) fun _ _ ↦ id
  have last : Triple (Accounts hdc serial relayPort)
      (modify fun s ↦ { s with online := present } : HdcM Unit)
      fun _ ↦ Accounts hdc serial relayPort := fun s accounts ↦ accounts.online present
  refine Triple.ite (fun _ ↦ ?_) fun _ ↦ last
  exact Triple.bind Accounts.present (fun _ ↦ last) fun _ _ ↦ id

/-- **The loop keeps the accounts**, however often it goes round and wherever it is interrupted.  A
turn asks whether the device is connected, makes the rule if none is listed, and starts the tunnel
once; a failure ends the turn and, unless it is one of the system, not the loop. -/
theorem Accounts.loop (turns : List Bool) : Triple (Accounts hdc serial relayPort)
    (hdc.superviseLoop serial relayPort turns) fun _ ↦ Accounts hdc serial relayPort := by
  induction turns with
  | nil => exact fun _ ↦ id
  | cons alive turns ih =>
      cases alive with
      | false => exact fun _ ↦ id
      | true =>
          unfold superviseLoop
          refine Triple.bind (?_ : Triple _ _ fun _ ↦ Accounts hdc serial relayPort)
            (fun _ ↦ ih) fun _ _ ↦ id
          refine Triple.tryCatch Accounts.supervise (fun _ _ ↦ id) fun failure ↦ ?_
          cases failure <;> exact fun _ ↦ id

/-! ## The end of a run -/

/-- The exchanges of the script have such a command, whatever became of it. -/
def Issued (command : Command) (es : List Exchange) : Prop := ∃ e ∈ es, e.command = command

/-- The device has applied such a command.  Whether the script was told is another matter. -/
def TookEffect (command : Command) (es : List Exchange) : Prop :=
  ∃ e ∈ es, e.command = command ∧ e.reply.applied = true

/-- The tunnel was stopped if its flag is set, and the rule is still to be removed. -/
structure Stopped (hdc : Hdc) (serial : Text) (relayPort : ℕ) (s : Supervisor) : Prop where
  owned : s.ownedRule = confirmed hdc serial relayPort s.exchanges
  kept : ∀ e ∈ s.exchanges, e.command ≠ hdc.removeCommand relayPort
  stop : Issued (hdc.controlCommand "stop") s.exchanges ↔ s.exchanges.any (started hdc) = true
  clear : s.ownedRule = true → ∃ e ∈ s.exchanges, Clear hdc serial e

/-- What a run has done when it ends: it has removed the rule exactly if it had made one, and has
stopped the tunnel exactly if it had started it. -/
structure Ended (hdc : Hdc) (serial : Text) (relayPort : ℕ) (es : List Exchange) : Prop where
  remove : Issued (hdc.removeCommand relayPort) es ↔ confirmed hdc serial relayPort es = true
  stop : Issued (hdc.controlCommand "stop") es ↔ es.any (started hdc) = true
  /-- A removal is the last exchange, and behind a listing without any rule. -/
  clear : ∀ e ∈ es, e.command = hdc.removeCommand relayPort →
    ∃ earlier, es = e :: earlier ∧ ∃ e ∈ earlier, Clear hdc serial e

/-- A call whose failure is only reported throws nothing. -/
theorem unconfirmed_triple {pre post : Supervisor → Prop} {call : HdcM Text}
    (triple : Triple pre call fun _ ↦ post) :
    Triple pre (cleanUp.unconfirmed call) fun r s ↦ r = .ok () ∧ post s := by
  have called : Triple pre (do let _ ← call) fun _ ↦ post :=
    Triple.bind triple (fun _ _ ↦ id) fun _ _ ↦ id
  exact Triple.tryCatch called (fun _ _ holds ↦ ⟨rfl, holds⟩) fun _ _ holds ↦ ⟨rfl, holds⟩

/-- A flag that is read. -/
theorem get_triple {pre : Supervisor → Prop} :
    Triple pre (get : HdcM Supervisor) fun r s ↦ pre s ∧ r = .ok s :=
  fun _ holds ↦ ⟨holds, rfl⟩

/-- A tunnel that was not requested need not be stopped. -/
theorem Accounts.stopped {s : Supervisor} (accounts : Accounts hdc serial relayPort s)
    (idle : s.requested = false) : Stopped hdc serial relayPort s where
  owned := accounts.owned
  kept := accounts.kept
  stop := by
    rw [← accounts.requested, idle]
    constructor
    · rintro ⟨e, mem, stop⟩
      exact absurd stop (accounts.running e mem)
    · nofun
  clear := accounts.clear

/-- A rule that the run does not own need not be removed. -/
theorem Stopped.ended {s : Supervisor} (stopped : Stopped hdc serial relayPort s)
    (free : s.ownedRule = false) : Ended hdc serial relayPort s.exchanges where
  remove := by
    rw [← stopped.owned, free]
    constructor
    · rintro ⟨e, mem, remove⟩
      exact absurd remove (stopped.kept e mem)
    · nofun
  stop := stopped.stop
  clear := fun e mem remove ↦ absurd remove (stopped.kept e mem)

/-- The flag says that the tunnel was requested. -/
theorem Accounts.stop : Triple (fun s ↦ Accounts hdc serial relayPort s ∧ s.requested = true)
    (hdc.control "stop") fun _ ↦ Stopped hdc serial relayPort := by
  apply run_triple
  rintro s e ⟨accounts, requested⟩ stop
  constructor
  · show s.ownedRule = _
    rw [confirmed_cons, accounts.settled, Bool.false_and, Bool.false_or]
    exact accounts.owned
  · refine List.forall_mem_cons.mpr ⟨?_, accounts.kept⟩
    simp [stop, controlCommand, removeCommand]
  · have returned : (e :: s.exchanges).any (started hdc) = true := by
      rw [List.any_cons, ← accounts.requested, requested, Bool.or_true]
    exact iff_of_true ⟨e, List.mem_cons_self, stop⟩ returned
  · intro owned
    obtain ⟨clear, mem, empty⟩ := accounts.clear owned
    exact ⟨clear, List.mem_cons_of_mem _ mem, empty⟩

/-- The flag says that the rule was made. -/
theorem Stopped.remove : Triple (fun s ↦ Stopped hdc serial relayPort s ∧ s.ownedRule = true)
    (hdc.run (hdc.removeCommand relayPort))
    fun _ s ↦ Ended hdc serial relayPort s.exchanges := by
  apply run_triple
  rintro s e ⟨stopped, owned⟩ remove
  constructor
  · have shown : confirmed hdc serial relayPort (e :: s.exchanges) = true := by
      rw [confirmed_cons, ← stopped.owned, owned, Bool.or_true]
    exact iff_of_true ⟨e, List.mem_cons_self, remove⟩ shown
  · have other : started hdc e = false := by
      simp [started, remove, removeCommand, controlCommand]
    rw [List.any_cons, other, Bool.false_or, ← stopped.stop]
    constructor
    · rintro ⟨e', mem, stop⟩
      rcases List.mem_cons.mp mem with rfl | earlier
      · rw [remove] at stop
        exact absurd stop nofun
      · exact ⟨e', earlier, stop⟩
    · rintro ⟨e', mem, stop⟩
      exact ⟨e', List.mem_cons_of_mem _ mem, stop⟩
  · intro e' mem again
    rcases List.mem_cons.mp mem with rfl | earlier
    · exact ⟨s.exchanges, rfl, stopped.clear owned⟩
    · exact absurd again (stopped.kept e' earlier)

/-- **The cleanup ends the run**: the tunnel is stopped if its flag is set, and the rule removed if
its flag is set.  Both are tried, and an error of the first does not keep the second from being
tried. -/
theorem Accounts.cleanUp : Triple (Accounts hdc serial relayPort) (hdc.cleanUp relayPort)
    fun _ s ↦ Ended hdc serial relayPort s.exchanges := by
  have remove : Triple (Stopped hdc serial relayPort) (do
      let s ← get
      if s.ownedRule then cleanUp.unconfirmed (hdc.run (hdc.removeCommand relayPort)))
      fun _ s ↦ Ended hdc serial relayPort s.exchanges := by
    refine Triple.bind get_triple (fun s ↦ ?_) nofun
    apply Triple.ite
    · intro owned
      apply (unconfirmed_triple Stopped.remove).weaken _ fun _ _ ended ↦ ended.2
      rintro _ ⟨stopped, ⟨⟩⟩
      exact ⟨stopped, owned⟩
    · rintro free _ ⟨stopped, ⟨⟩⟩
      exact stopped.ended (by simpa using free)
  unfold Hdc.cleanUp
  refine Triple.bind get_triple (fun s ↦ ?_) nofun
  apply Triple.ite
  · intro requested
    have stop := unconfirmed_triple (@Accounts.stop hdc serial relayPort)
    refine Triple.bind (stop.weaken ?_ fun _ _ ↦ id) (fun _ ↦ ?_) ?_
    · rintro _ ⟨accounts, ⟨⟩⟩
      exact ⟨accounts, requested⟩
    · exact remove.weaken (fun _ stopped ↦ stopped.2) fun _ _ ↦ id
    · rintro _ _ ⟨⟨⟩, -⟩
  · intro idle
    apply remove.weaken _ fun _ _ ↦ id
    rintro _ ⟨accounts, ⟨⟩⟩
    exact accounts.stopped (by simpa using idle)

/-- Nothing was made or requested yet: the flags say so, and the exchanges agree with them. -/
structure Fresh (hdc : Hdc) (serial : Text) (relayPort : ℕ) (s : Supervisor) : Prop where
  accounts : Accounts hdc serial relayPort s
  owned : s.ownedRule = false
  requested : s.requested = false

/-- The same predicate for a run that has made nothing. -/
theorem Fresh.keeps : Keeps hdc relayPort (Fresh hdc serial relayPort) := by
  intro command plain
  apply run_triple
  rintro s e ⟨accounts, owned, requested⟩ rfl
  refine ⟨?_, owned, requested⟩
  apply accounts.cons
  · simp [made, plain.rport]
  · simp [started, plain.start]
  · exact plain.remove
  · exact plain.stop

/-- A run that made nothing has ended. -/
theorem Fresh.ended {s : Supervisor} (fresh : Fresh hdc serial relayPort s) :
    Ended hdc serial relayPort s.exchanges :=
  (fresh.accounts.stopped fresh.requested).ended fresh.owned

/-- **The script ends with what it has made removed as far as its flags say**, also where the
preparation fails.  The three parts, the preparation, the loop and the cleanup, are triples about
the exchanges with `hdc`, and they are put together by the rules for sequencing and `finally`. -/
theorem Fresh.runScript (preparation : Preparation) (turns : List Bool) :
    Triple (Fresh hdc serial relayPort) (hdc.runScript serial relayPort preparation turns)
      fun _ s ↦ Ended hdc serial relayPort s.exchanges := by
  have lifted (result : Except Failure Unit) {inv : Supervisor → Prop} :
      Triple inv (runScript.liftExcept result) fun _ ↦ inv := fun _ ↦ id
  unfold Hdc.runScript
  refine Triple.bind Fresh.keeps.connected (fun present ↦ ?_) fun _ _ fresh ↦ fresh.ended
  refine Triple.ite (fun _ _ fresh ↦ fresh.ended) fun _ ↦ ?_
  refine Triple.bind (Fresh.keeps.shell (Nat.lt_of_sub_eq_succ rfl)) (fun dump ↦ ?_)
    fun _ _ fresh ↦ fresh.ended
  refine Triple.ite (fun _ _ fresh ↦ fresh.ended) fun _ ↦ ?_
  refine Triple.bind (lifted _) (fun _ ↦ ?_) fun _ _ fresh ↦ fresh.ended
  refine Triple.andFinally (?_ : Triple _ _ fun _ ↦ Accounts hdc serial relayPort)
    Accounts.cleanUp
  refine Triple.bind (lifted _) (fun _ ↦ ?_) fun _ _ fresh ↦ fresh.accounts
  exact (Accounts.loop turns).weaken (fun _ fresh ↦ fresh.accounts) fun _ _ ↦ id

/-- **The same of the exchanges of a run.**  A run starts with no flag set, so the triple of the
script holds of it from the start. -/
theorem exchanges_ended (preparation : Preparation) (turns : List Bool) :
    Ended hdc serial relayPort (exchanges hdc serial relayPort preparation turns) := by
  apply Fresh.runScript preparation turns
  exact ⟨⟨rfl, rfl, rfl, nofun, nofun, nofun⟩, rfl, rfl⟩

/-! ## What is left behind -/

/-- A rule that a removal takes away.  It names no owner, so a rule of someone else with these ends
would go as well. -/
def Removes (hdc : Hdc) (serial : Text) (relayPort : ℕ) (rule : Rule) : Prop :=
  rule.serial = serial ∧ rule.device = tcp hdc.devicePort ∧ rule.host = tcp relayPort ∧
    rule.reverse = true

/-- The connector lists the rules in force, and no rule is made that was there before. -/
structure Honest (es : List Exchange) : Prop where
  lists : ∀ e ∈ es, e.command = .fportLs → ∀ output, e.outcome = .ok output →
    ∀ rule ∈ e.reply.rules, ∃ line ∈ output.splitlines, line.split = rule.fields
  old : es.Pairwise fun later earlier ↦
    ∀ rule ∈ later.reply.rules, rule.before = true → rule ∈ earlier.reply.rules

/-- A run cleans up what it has made, and nothing else.  What it has made is what took effect, not
what it was told. -/
structure CleansUp (hdc : Hdc) (serial : Text) (relayPort : ℕ) (es : List Exchange) : Prop where
  rule : TookEffect (hdc.rportCommand relayPort) es → Issued (hdc.removeCommand relayPort) es
  tunnel : TookEffect (hdc.controlCommand "start") es → Issued (hdc.controlCommand "stop") es
  spares : Honest es → ∀ e ∈ es, e.command = hdc.removeCommand relayPort →
    ∀ rule ∈ e.reply.rules, rule.before = true → ¬Removes hdc serial relayPort rule

/-- What took effect was answered: an `rport` with success, and the listing behind it with the
rule, and a start with success. -/
structure Answered (hdc : Hdc) (serial : Text) (relayPort : ℕ) (es : List Exchange) : Prop where
  rule : TookEffect (hdc.rportCommand relayPort) es → confirmed hdc serial relayPort es = true
  tunnel : TookEffect (hdc.controlCommand "start") es → es.any (started hdc) = true

/-- **A rule that was there before the run is not removed.**  It would have been in the listing
before the `rport`.  This needs a listing that tells the truth, and nothing else of the program
that answers. -/
theorem Ended.spares {es : List Exchange} (ended : Ended hdc serial relayPort es)
    (honest : Honest es) : ∀ e ∈ es, e.command = hdc.removeCommand relayPort →
      ∀ rule ∈ e.reply.rules, rule.before = true → ¬Removes hdc serial relayPort rule := by
  rintro e mem remove rule inForce before ⟨here, device, host, reverse⟩
  obtain ⟨earlier, rfl, listing, older, command, output, outcome, empty⟩ :=
    ended.clear e mem remove
  have listed := (List.pairwise_cons.mp honest.old).1 listing older rule inForce before
  obtain ⟨line, mem, fields⟩ := honest.lists listing (List.mem_cons_of_mem _ older) command output
    outcome rule listed
  have forwards : hdc.forwards serial line = true := by
    simp [forwards, fields, Rule.fields, here, device, reverse]
  rw [empty line mem] at forwards
  exact Bool.false_ne_true forwards

/-- **A run cleans up exactly when what took effect was answered.**  The program `hdc` is
arbitrary, and so are its answers; the flags record what was answered, and what was in force
without an answer is what is left behind. -/
theorem cleansUp_iff (hdc : Hdc) (serial : Text) (relayPort : ℕ) (preparation : Preparation)
    (turns : List Bool) :
    CleansUp hdc serial relayPort (exchanges hdc serial relayPort preparation turns) ↔
      Answered hdc serial relayPort (exchanges hdc serial relayPort preparation turns) := by
  have ended := @exchanges_ended hdc serial relayPort preparation turns
  constructor
  · intro cleans
    exact ⟨fun effect ↦ ended.remove.mp (cleans.rule effect),
      fun effect ↦ ended.stop.mp (cleans.tunnel effect)⟩
  · intro answered
    exact ⟨fun effect ↦ ended.remove.mpr (answered.rule effect),
      fun effect ↦ ended.stop.mpr (answered.tunnel effect), ended.spares⟩

/-! ### A rule that is left -/

/-- The device applies the `rport`, and the connector takes too long to say so. -/
def slowReplies : List ProcessResult :=
  [.exited 0 "1234 USB Connected".toList, .exited 0 "a.b".toList,
    .exited 0 "1234 USB Connected".toList, .exited 0 [], .timedOut]

/-- A connector that applies every command, while some of its answers take too long. -/
def slowHdc : Hdc where
  bundle := "a.b".toList
  devicePort := 41417
  answer es _ := ⟨[], true, slowReplies.getD es.length .timedOut⟩

/-- The rule is in force, and the run ends without removing it. -/
theorem not_cleansUp_slow : ¬CleansUp slowHdc "1234".toList 31417
    (exchanges slowHdc "1234".toList 31417 ⟨.ok (), .ok ()⟩ [true]) := by
  intro cleans
  have effect : TookEffect (slowHdc.rportCommand 31417)
      (exchanges slowHdc "1234".toList 31417 ⟨.ok (), .ok ()⟩ [true]) := by
    unfold TookEffect
    decide
  have left : ¬Issued (slowHdc.removeCommand 31417)
      (exchanges slowHdc "1234".toList 31417 ⟨.ok (), .ok ()⟩ [true]) := by
    unfold Issued
    decide
  exact left (cleans.rule effect)

end Ownership

end Hdc

end ReverseTether
