import ReverseTether.Library.Machine
import ReverseTether.ProbeValue
import ReverseTether.StunPacket

/-!
# The measurement of one server

`ProbeRun.measure` sends five requests and waits for what comes back.  Its callbacks run in
between, wherever the sending loop awaits something: a datagram may arrive twice, late, from
elsewhere, or before the `send` it answers has returned.

`measure server address` is the machine of one measurement from the moment its socket exists:
a step is what the loop does between two awaits, or a callback.  The clock is monotonic and
otherwise free, and so are the timers.  An RTT is pushed for a request whose flag was down, and
raises it; so the requests that were answered (`answered`) are listed once each, and there are
no more RTTs than requests.  The value comes from `summarize` after all five were sent, which is
why the computer takes it (`measure_accepted`).

Times are rational numbers, as the clock may give any, and the comparison of an RTT with the
timeout is exact.  What is random, the transaction ids, is input, with no assumption that two
of them differ: a datagram with the id of two requests answers the first of them.
-/

namespace ReverseTether

open Library

/-- `ProbeServer`: the host as it was given, a name or a dotted address, and the UDP port. -/
structure ProbeServer where
  host : String
  port : ℕ
  deriving DecidableEq, Repr

/-- A message of the socket with the part of `socket.SocketMessageInfo` that is read: who sent it.
-/
structure SocketMessage where
  message : List UInt8
  remoteAddress : String
  remotePort : ℕ

/-- What the loop awaits, or how it ended: with a value, or with the message of what it threw. -/
inductive MeasurePhase
  | binding
  /-- The interval before a turn. -/
  | waiting (index : ℕ)
  | sending (index : ℕ)
  /-- The rest of the time after the last turn. -/
  | draining
  | returned (value : ProbeValue)
  | threw (message : String)
  deriving DecidableEq

/-- `measure` of one server, between two of its awaits: its variables, and the messages it was
called back with. -/
structure Measure where
  phase : MeasurePhase
  /-- The last time that was read off the clock. -/
  clock : ℚ
  canceled : Bool
  ids : List (List UInt8)
  sentAt : List ℚ
  received : List Bool
  rtts : List ℚ
  failure : Bool
  sent : ℕ
  deadline : ℚ

namespace Measure

/-- The socket is made and `bind` called; nothing has been sent. -/
def start (clock : ℚ) : Measure := ⟨.binding, clock, false, [], [], [], [], false, 0, 0⟩

/-- The socket is open, and its callbacks are set: the measurement has neither returned nor thrown.
-/
def Running (m : Measure) : Prop :=
  match m.phase with
  | .returned _ | .threw _ => False
  | _ => True

/-- The `catch` of the measurement. -/
def throw (m : Measure) : Measure :=
  { m with phase := .threw (if m.canceled then "probe_canceled" else "socket_failed") }

variable (server : ProbeServer) (address : String)

/-- The request that a datagram answers and its RTT, if it counts. -/
def answers (m : Measure) (timestamp : ℚ) (message : SocketMessage) : Option (ℕ × ℚ) :=
  if m.canceled ∨ m.deadline < timestamp ∨ message.remoteAddress ≠ address ∨
      message.remotePort ≠ server.port then none
  else
    match StunPacket.matchResponse message.message m.ids with
    | .ok (.ofNat index) =>
        if m.received[index]?.getD false then none
        else m.sentAt[index]?.map fun at_ => (index, timestamp - at_)
    | _ => none

/-- `on('message')`: a response to one of the requests that is still open adds a round trip time;
the rest is ignored. -/
def onMessage (m : Measure) (timestamp : ℚ) (message : SocketMessage) : Measure :=
  match m.answers server address timestamp message with
  | some (index, rtt) =>
      { m with received := m.received.set index true, rtts := m.rtts ++ [rtt], clock := timestamp }
  | none => { m with clock := timestamp }

/-- The socket is bound. -/
def onBound (m : Measure) (first : ℚ) : Measure :=
  { m with
    phase := .waiting 0
    clock := first
    deadline := first + ((sampleCount - 1) * sampleIntervalMs + responseTimeoutMs : ℕ) }

/-- One turn, up to its `send`. -/
def onTurn (m : Measure) (index : ℕ) (checked : ℚ) (id : List UInt8) (now : ℚ) : Measure :=
  if m.canceled then m.throw
  else if m.failure ∨ m.deadline ≤ checked then m.throw
  else
    let m := { m with
      clock := now
      ids := m.ids ++ [id]
      sentAt := m.sentAt ++ [now]
      received := m.received ++ [false] }
    -- `bindingRequest` takes an id of 12 bytes
    if id.length ≠ 12 then m.throw else { m with phase := .sending index }

/-- `send` has returned. -/
def onSent (m : Measure) (index : ℕ) : Measure :=
  { m with
    sent := m.sent + 1
    phase := if index + 1 < sampleCount then .waiting (index + 1) else .draining }

/-- The time is over. -/
def onDrained (m : Measure) : Measure :=
  if m.canceled ∨ m.failure then m.throw
  else
    match ProbeValue.summarize m.sent m.rtts server.host server.port with
    | .ok value => { m with phase := .returned value }
    | .error _ => m.throw

/-- What the function awaits, and the callbacks of its socket, which come in between as they like.
-/
inductive Label
  | bound (first : ℚ)
  /-- `bind` or `send` was rejected. -/
  | rejected
  | turn (checked : ℚ) (id : List UInt8) (now : ℚ)
  | sent
  | drained
  | message (timestamp : ℚ) (message : SocketMessage)
  /-- The socket reports an error. -/
  | error
  /-- The whole probe is out of time, or is canceled. -/
  | cancel

/-- The steps of one measurement.  Time only goes on, and the callbacks of the socket come between
any two awaits. -/
inductive Step : Measure → Label → Measure → Prop
  | bound {m : Measure} {first : ℚ} : m.phase = .binding → m.clock ≤ first →
      Step m (.bound first) (m.onBound first)
  | bindRejected {m : Measure} : m.phase = .binding → Step m .rejected m.throw
  | sendRejected {m : Measure} {index : ℕ} : m.phase = .sending index → Step m .rejected m.throw
  | turn {m : Measure} {index : ℕ} {checked now : ℚ} {id : List UInt8} :
      m.phase = .waiting index → m.clock ≤ checked → checked ≤ now →
      Step m (.turn checked id now) (m.onTurn index checked id now)
  | sent {m : Measure} {index : ℕ} : m.phase = .sending index → Step m .sent (m.onSent index)
  | drained {m : Measure} : m.phase = .draining → Step m .drained (m.onDrained server)
  | message {m : Measure} {timestamp : ℚ} {message : SocketMessage} : m.Running →
      m.clock ≤ timestamp →
      Step m (.message timestamp message) (m.onMessage server address timestamp message)
  | error {m : Measure} : m.Running → Step m .error { m with failure := true }
  | cancel {m : Measure} : m.Running → Step m .cancel { m with canceled := true }

/-- The runs of one measurement, of `server` at `address`. -/
def machine : Machine Measure Label where
  start m := ∃ clock, m = start clock
  step := Step server address

/-- The request a step was the answer of, with its RTT. -/
def answered : Measure × Label → Option (ℕ × ℚ)
  | (m, .message timestamp message) => m.answers server address timestamp message
  | _ => none

/-! ## One step -/

variable {server address} {m m' : Measure} {l : Label}

/-- A request that is answered was sent, and was not answered before. -/
theorem answers_eq_some {timestamp rtt : ℚ} {message : SocketMessage} {index : ℕ}
    (eq : m.answers server address timestamp message = some (index, rtt)) :
    ∃ sentAt, m.sentAt[index]? = some sentAt ∧ rtt = timestamp - sentAt ∧
      timestamp ≤ m.deadline ∧ m.received[index]?.getD false = false := by
  unfold answers at eq
  split at eq
  · cases eq
  · rename_i accepted
    split at eq
    · split at eq
      · cases eq
      · rename_i fresh
        obtain ⟨sentAt, found, same⟩ := Option.map_eq_some_iff.mp eq
        cases same
        refine ⟨sentAt, found, rfl, ?_, Bool.eq_false_iff.mpr fresh⟩
        by_contra late
        exact accepted (.inr (.inl (not_le.mp late)))
    · cases eq

/-- How far the loop has come.  It ties the phase to the counters: a request has its id before it
is sent, and is counted after. -/
def Progress (m : Measure) : Prop :=
  match m.phase with
  | .binding => m.sent = 0 ∧ m.ids.length = 0
  | .waiting index => m.sent = index ∧ m.ids.length = index ∧ index < sampleCount
  | .sending index => m.sent = index ∧ m.ids.length = index + 1 ∧ index < sampleCount
  | .draining => m.sent = sampleCount ∧ m.ids.length = sampleCount
  | .returned value => validateValue value.toPy = .ok ()
  | .threw _ => True

/-- What holds between two steps: the lists of the requests agree, every request was sent within
the time, and every RTT that was counted is one of a request answered once. -/
structure Sound (m : Measure) : Prop where
  sentAt_length : m.sentAt.length = m.ids.length
  received_length : m.received.length = m.ids.length
  /-- Requests are sent in the 1200 ms before the deadline. -/
  times : ∀ sentAt ∈ m.sentAt, m.deadline - 1200 ≤ sentAt ∧ sentAt ≤ m.clock
  started : m.phase = .binding ∨ (∃ message, m.phase = .threw message) ∨
    m.deadline - 1200 ≤ m.clock
  counted : m.rtts.length = m.received.count true
  range : ∀ rtt ∈ m.rtts, 0 ≤ rtt ∧ rtt ≤ 1200
  progress : m.Progress

/-- Nothing was sent, and nothing answered. -/
theorem sound_start (clock : ℚ) : (start clock).Sound where
  sentAt_length := rfl
  received_length := rfl
  times := nofun
  started := .inl rfl
  counted := rfl
  range := nofun
  progress := ⟨rfl, rfl⟩

namespace Sound

/-- A measurement that ends with an error keeps what it had. -/
theorem throw (sound : m.Sound) : m.throw.Sound :=
  { sound with
    started := .inr (.inl ⟨_, rfl⟩)
    progress := trivial }

/-- Once the socket is bound the deadline is 1200 ms away at most. -/
theorem deadline_le (sound : m.Sound) (bound : m.phase ≠ .binding)
    (on : ∀ message, m.phase ≠ .threw message) : m.deadline - 1200 ≤ m.clock := by
  rcases sound.started with binding | ⟨message, threw⟩ | started
  · exact absurd binding bound
  · exact absurd threw (on message)
  · exact started

/-- There are no more RTTs than requests. -/
theorem rtts_le (sound : m.Sound) : m.rtts.length ≤ m.ids.length := by
  rw [sound.counted, ← sound.received_length]
  exact List.count_le_length

/-- The clock goes on. -/
theorem tick (sound : m.Sound) {now : ℚ} (later : m.clock ≤ now) :
    ({ m with clock := now } : Measure).Sound :=
  { sound with
    times := fun sentAt mem => ⟨(sound.times sentAt mem).1, (sound.times sentAt mem).2.trans later⟩
    started := sound.started.imp_right fun on => on.imp_right fun started => started.trans later }

/-- When the socket is bound, the loop waits for its first turn, and the deadline leaves time for
all of them. -/
theorem onBound (sound : m.Sound) (binding : m.phase = .binding) (first : ℚ) :
    (m.onBound first).Sound := by
  have progress := sound.progress
  rw [Progress, binding] at progress
  have unsent : m.sentAt = [] := by
    rw [← List.length_eq_zero_iff, sound.sentAt_length]
    exact progress.2
  exact {
    sentAt_length := sound.sentAt_length
    received_length := sound.received_length
    times := fun sentAt mem => by
      change sentAt ∈ m.sentAt at mem
      rw [unsent] at mem
      cases mem
    started := .inr (.inr (by
      show first + ((sampleCount - 1) * sampleIntervalMs + responseTimeoutMs : ℕ) - 1200 ≤ first
      norm_num [sampleCount, sampleIntervalMs, responseTimeoutMs]))
    counted := sound.counted
    range := sound.range
    progress := ⟨progress.1, progress.2, by decide⟩ }

/-- **A turn sends a request of its own id**, which is open from then on.  The ids are random, and
the soundness of what is open does not depend on their being different. -/
theorem onTurn (sound : m.Sound) {index : ℕ} (waiting : m.phase = .waiting index) {checked now : ℚ}
    (id : List UInt8) (later : m.clock ≤ checked) (order : checked ≤ now) :
    (m.onTurn index checked id now).Sound := by
  have progress := sound.progress
  rw [Progress, waiting] at progress
  obtain ⟨sent, ids, turn⟩ := progress
  unfold Measure.onTurn
  split
  · exact sound.throw
  · split
    · exact sound.throw
    · rename_i inTime
      have early : checked < m.deadline := by
        by_contra late
        exact inTime (.inr (not_lt.mp late))
      have started := sound.deadline_le (by rw [waiting]; nofun) (by rw [waiting]; nofun)
      -- the request is pushed with all that belongs to it
      have pushed (phase : MeasurePhase)
          (progress : Progress { m with
            phase, clock := now, ids := m.ids ++ [id], sentAt := m.sentAt ++ [now],
            received := m.received ++ [false] }) :
          ({ m with
            phase, clock := now, ids := m.ids ++ [id], sentAt := m.sentAt ++ [now],
            received := m.received ++ [false] } : Measure).Sound := by
        refine ⟨?_, ?_, ?_, .inr (.inr ?_), ?_, sound.range, progress⟩
        · simp [sound.sentAt_length]
        · simp [sound.received_length]
        · intro sentAt mem
          rcases List.mem_append.mp mem with old | new
          · have times := sound.times sentAt old
            exact ⟨times.1, by linarith [times.2]⟩
          · cases List.mem_singleton.mp new
            exact ⟨by linarith, le_rfl⟩
        · show m.deadline - 1200 ≤ now
          linarith
        · simp [sound.counted]
      simp only
      split
      · exact pushed _ trivial
      · refine pushed (.sending index) ⟨sent, ?_, turn⟩
        simp [ids]

/-- The loop goes on to the next turn, or waits for the replies. -/
theorem onSent (sound : m.Sound) {index : ℕ} (sending : m.phase = .sending index) :
    (m.onSent index).Sound := by
  have progress := sound.progress
  rw [Progress, sending] at progress
  obtain ⟨sent, ids, turn⟩ := progress
  have started := sound.deadline_le (by rw [sending]; nofun) (by rw [sending]; nofun)
  unfold Measure.onSent
  split
  · rename_i more
    exact { sound with
      started := .inr (.inr started)
      progress := ⟨by rw [sent], ids, more⟩ }
  · have last : index + 1 = sampleCount := by omega
    exact { sound with
      started := .inr (.inr started)
      progress := ⟨by rw [sent, last], ids.trans last⟩ }

/-- After the last turn there is a value to return, and it is taken. -/
theorem summarized (sound : m.Sound) (draining : m.phase = .draining) (host : String) (port : ℕ) :
    m.rtts.length ≤ m.sent ∧ ∃ value, ProbeValue.summarize m.sent m.rtts host port = .ok value ∧
      validateValue value.toPy = .ok () := by
  have progress := sound.progress
  rw [Progress, draining] at progress
  obtain ⟨sent, ids⟩ := progress
  have fewer := sound.rtts_le
  have five : sampleCount = 5 := rfl
  refine ⟨by omega, ?_⟩
  exact ProbeValue.summarize_accepted (by omega) (by omega) (by omega) sound.range host port

/-- The time is over, and what was counted is summarized. -/
theorem onDrained (sound : m.Sound) (draining : m.phase = .draining) :
    (m.onDrained server).Sound := by
  obtain ⟨_, value, summarized, accepted⟩ := sound.summarized draining server.host server.port
  unfold Measure.onDrained
  split
  · exact sound.throw
  · have started := sound.deadline_le (by rw [draining]; nofun) (by rw [draining]; nofun)
    rw [summarized]
    exact { sound with
      started := .inr (.inr started)
      progress := accepted }

/-- **A message counts only as the answer of an open request**, which it closes.  A second answer
with the same id finds the request closed, and one from elsewhere, or with another id, finds none.
-/
theorem onMessage (sound : m.Sound) {timestamp : ℚ} (message : SocketMessage)
    (later : m.clock ≤ timestamp) : (m.onMessage server address timestamp message).Sound := by
  unfold Measure.onMessage
  split
  · rename_i index rtt answered
    obtain ⟨sentAt, found, rfl, inTime, fresh⟩ := answers_eq_some answered
    have times := sound.times sentAt (List.mem_of_getElem? found)
    have inside : index < m.received.length := by
      rw [sound.received_length, ← sound.sentAt_length]
      exact (List.getElem?_eq_some_iff.mp found).1
    have down : m.received[index] = false := by
      rwa [List.getElem?_eq_getElem inside] at fresh
    refine ⟨sound.sentAt_length, ?_, ?_, (sound.tick later).started, ?_, ?_, sound.progress⟩
    · rw [List.length_set]
      exact sound.received_length
    · intro other mem
      have before := sound.times other mem
      exact ⟨before.1, before.2.trans later⟩
    · rw [List.length_append, List.count_set inside, down, sound.counted]
      rfl
    · intro rtt mem
      rcases List.mem_append.mp mem with old | new
      · exact sound.range rtt old
      · cases List.mem_singleton.mp new
        constructor <;> linarith
  · exact sound.tick later

end Sound

/-- Every step keeps the measurement sound. -/
theorem Step.sound (step : Step server address m l m') (sound : m.Sound) : m'.Sound := by
  cases step with
  | bound binding later => exact sound.onBound binding _
  | bindRejected _ => exact sound.throw
  | sendRejected _ => exact sound.throw
  | turn waiting later order => exact sound.onTurn waiting _ later order
  | sent sending => exact sound.onSent sending
  | drained draining => exact sound.onDrained draining
  | message _ later => exact sound.onMessage _ later
  | error _ => exact { sound with }
  | cancel _ => exact { sound with }

/-! ## Whole runs -/

/-- What a step adds to the answers: at most one RTT, of a request that was open before, and
nothing is taken back. -/
structure Adds (answer : Option (ℕ × ℚ)) (m m' : Measure) : Prop where
  rtts : m'.rtts = m.rtts ++ answer.toList.map Prod.snd
  kept : ∀ index : ℕ, m.received[index]? = some true → m'.received[index]? = some true
  fresh : ∀ index rtt, answer = some (index, rtt) →
    m.received[index]? = some false ∧ m'.received[index]? = some true

/-- A step that no answer came with only adds to the messages. -/
theorem adds_none (rtts : m'.rtts = m.rtts) (received : m.received <+: m'.received) :
    Adds none m m' where
  rtts := by
    rw [rtts]
    exact (List.append_nil _).symm
  kept index up := by
    obtain ⟨more, eq⟩ := received
    rw [← eq, List.getElem?_append_left (List.getElem?_eq_some_iff.mp up).1]
    exact up
  fresh := nofun

/-- A turn adds no answer. -/
theorem onTurn_adds (m : Measure) (index : ℕ) (checked now : ℚ) (id : List UInt8) :
    Adds none m (m.onTurn index checked id now) := by
  unfold onTurn
  split
  · exact adds_none rfl (List.prefix_refl _)
  · split
    · exact adds_none rfl (List.prefix_refl _)
    · simp only
      split
      · exact adds_none rfl (List.prefix_append _ _)
      · exact adds_none rfl (List.prefix_append _ _)

/-- Neither does the end of the time. -/
theorem onDrained_adds (m : Measure) : Adds none m (m.onDrained server) := by
  unfold onDrained
  split
  · exact adds_none rfl (List.prefix_refl _)
  · split
    · exact adds_none rfl (List.prefix_refl _)
    · exact adds_none rfl (List.prefix_refl _)

/-- **A message adds the answer it is**, if it is one.  Its RTT is the time from the request that
it closes; the list of answers that the model keeps beside the state is no field of the program. -/
theorem onMessage_adds (sound : m.Sound) (timestamp : ℚ) (message : SocketMessage) :
    Adds (m.answers server address timestamp message) m
      (m.onMessage server address timestamp message) := by
  unfold onMessage
  split
  · rename_i index rtt answered
    rw [answered]
    obtain ⟨sentAt, found, -, -, fresh⟩ := answers_eq_some answered
    have inside : index < m.received.length := by
      rw [sound.received_length, ← sound.sentAt_length]
      exact (List.getElem?_eq_some_iff.mp found).1
    have down : m.received[index]? = some false := by
      rw [List.getElem?_eq_getElem inside] at fresh ⊢
      exact congrArg some fresh
    refine ⟨rfl, fun other up => ?_, ?_⟩
    · show (m.received.set index true)[other]? = some true
      rw [List.getElem?_set]
      split
      · rfl
      · exact up
    · rintro _ _ ⟨⟩
      exact ⟨down, List.getElem?_set_self inside⟩
  · rename_i none
    rw [none]
    exact adds_none rfl (List.prefix_refl _)

/-- **A step adds at most one answer.**  Only a message of the socket can be one; a turn, a timer
and an error add none. -/
theorem Step.adds (step : Step server address m l m') (sound : m.Sound) :
    Adds (answered server address (m, l)) m m' := by
  cases step with
  | bound _ _ => exact adds_none rfl (List.prefix_refl _)
  | bindRejected _ => exact adds_none rfl (List.prefix_refl _)
  | sendRejected _ => exact adds_none rfl (List.prefix_refl _)
  | turn _ _ _ => exact onTurn_adds _ _ _ _ _
  | sent _ => exact adds_none rfl (List.prefix_refl _)
  | drained _ => exact onDrained_adds _
  | message _ _ => exact onMessage_adds sound _ _
  | error _ => exact adds_none rfl (List.prefix_refl _)
  | cancel _ => exact adds_none rfl (List.prefix_refl _)

variable {t : List (Measure × Label)}

/-- The same over whole runs. -/
theorem sound_of_run (run : (machine server address).Run t m) : m.Sound := by
  refine run.invariant Sound ?_ ?_ (Machine.meets_true t)
  · rintro _ ⟨clock, rfl⟩
    exact sound_start clock
  · intro m l m' sound _ step
    exact step.sound sound

/-- The answers of a run: each request once, and an RTT for each. -/
structure Answered (server : ProbeServer) (address : String) (t : List (Measure × Label))
    (m : Measure) : Prop where
  rtts : m.rtts = (t.filterMap (answered server address)).map Prod.snd
  received : ∀ index : ℕ, index ∈ (t.filterMap (answered server address)).map Prod.fst →
    m.received[index]? = some true
  once : ((t.filterMap (answered server address)).map Prod.fst).Nodup

/-- **Each request is answered at most once**, and the RTTs are those of the answers, in their
order.  The requests and their answers are read off the trace, so the statement compares what went
over the wire with what the program has counted. -/
theorem answered_of_run (run : (machine server address).Run t m) :
    Answered server address t m := by
  induction run with
  | start started =>
      obtain ⟨clock, rfl⟩ := started
      exact ⟨rfl, nofun, List.nodup_nil⟩
  | @step t m m' l run step ih =>
      obtain ⟨rtts, kept, fresh⟩ := step.adds (sound_of_run run)
      have more : (t ++ [(m, l)]).filterMap (answered server address) =
          t.filterMap (answered server address) ++ (answered server address (m, l)).toList := by
        rw [List.filterMap_append]
        congr 1
      refine ⟨?_, ?_, ?_⟩
      · rw [more, List.map_append, rtts, ih.rtts]
      · intro index mem
        rw [more, List.map_append] at mem
        rcases List.mem_append.mp mem with old | new
        · exact kept index (ih.received index old)
        · obtain ⟨⟨_, rtt⟩, answer, rfl⟩ := List.mem_map.mp new
          exact (fresh _ rtt (Option.mem_toList.mp answer)).2
      · rw [more, List.map_append]
        refine List.nodup_append.mpr ⟨ih.once, ?_, ?_⟩
        · cases answered server address (m, l) <;> simp
        · rintro index old _ new rfl
          obtain ⟨⟨_, rtt⟩, answer, rfl⟩ := List.mem_map.mp new
          have up := ih.received _ old
          rw [(fresh _ rtt (Option.mem_toList.mp answer)).1] at up
          cases up

/-- What a measurement is good for, in whatever order things happened.  The value is one that the
computer takes, too. -/
structure Taken (server : ProbeServer) (address : String) (t : List (Measure × Label))
    (m : Measure) : Prop where
  /-- The RTTs are those of the answers, and each request was answered once at most. -/
  rtts : m.rtts = (t.filterMap (answered server address)).map Prod.snd
  once : ((t.filterMap (answered server address)).map Prod.fst).Nodup
  /-- When `summarize` is called, the RTTs are at most as many as the requests, and in time. -/
  summarized : m.phase = .draining →
    m.rtts.length ≤ m.sent ∧ (∀ rtt ∈ m.rtts, 0 ≤ rtt ∧ rtt ≤ 1200) ∧
      ∃ value, ProbeValue.summarize m.sent m.rtts server.host server.port = .ok value ∧
        validateValue value.toPy = .ok ()
  returned : ∀ value, m.phase = .returned value → validateValue value.toPy = .ok ()

/-- **A measurement that the device reports is taken by the computer.**  The value carries counts
and times that the computer checks against each other, to the last rounding; the proof follows them
from the run to the check. -/
theorem measure_accepted (run : (machine server address).Run t m) : Taken server address t m := by
  have sound := sound_of_run run
  have answered := answered_of_run run
  refine ⟨answered.rtts, answered.once, ?_, ?_⟩
  · intro draining
    obtain ⟨fewer, summarized⟩ := sound.summarized draining server.host server.port
    exact ⟨fewer, sound.range, summarized⟩
  · intro value returned
    have progress := sound.progress
    rw [Progress, returned] at progress
    exact progress

/-! ## A measurement -/

/-- The id of a request, which is its number. -/
def sampleId (index : ℕ) : List UInt8 := UInt8.ofNat index :: List.replicate 11 0

/-- After `n` turns, one every 100 ms, none of which was answered. -/
def sampled (n : ℕ) (phase : MeasurePhase) : Measure where
  phase
  clock := 100 * (n - 1 : ℕ)
  canceled := false
  ids := (List.range n).map sampleId
  sentAt := (List.range n).map fun index : ℕ => 100 * (index : ℚ)
  received := List.replicate n false
  rtts := []
  failure := false
  sent := n
  deadline := 1200

/-- Another turn: the clock has come to it, and its request is sent. -/
theorem sampled_turn {n : ℕ} (before : n < sampleCount) (next : MeasurePhase)
    (goes : (if n + 1 < sampleCount then MeasurePhase.waiting (n + 1) else .draining) = next)
    (run : ∃ t, (machine server address).Run t (sampled n (.waiting n))) :
    ∃ t, (machine server address).Run t (sampled (n + 1) next) := by
  obtain ⟨t, run⟩ := run
  have five : sampleCount = 5 := rfl
  have later : (sampled n (.waiting n)).clock ≤ 100 * n := by
    show (100 : ℚ) * (n - 1 : ℕ) ≤ 100 * n
    have fewer : ((n - 1 : ℕ) : ℚ) ≤ n := by exact_mod_cast Nat.sub_le n 1
    linarith
  have turn : Step server address (sampled n (.waiting n)) (.turn (100 * n) (sampleId n) (100 * n))
      { sampled (n + 1) (.sending n) with sent := n } := by
    have eq : (sampled n (.waiting n)).onTurn n (100 * n) (sampleId n) (100 * n) =
        { sampled (n + 1) (.sending n) with sent := n } := by
      have inTime : ¬ (false = true ∨ (1200 : ℚ) ≤ 100 * n) := by
        have few : (n : ℚ) ≤ 4 := by exact_mod_cast (by omega : n ≤ 4)
        rintro (⟨⟨⟩⟩ | late)
        linarith
      have twelve : ¬ (sampleId n).length ≠ 12 := by
        rw [sampleId, List.length_cons, List.length_replicate]
        decide
      unfold onTurn sampled
      simp only
      rw [if_neg (by decide), if_neg inTime, if_neg twelve]
      simp only [List.range_succ, List.map_append, List.map_singleton, List.replicate_succ', Nat.add_sub_cancel]
    exact eq ▸ Step.turn rfl later le_rfl
  have sent : Step server address { sampled (n + 1) (.sending n) with sent := n } .sent
      (sampled (n + 1) next) := by
    have eq : Measure.onSent { sampled (n + 1) (.sending n) with sent := n } n =
        sampled (n + 1) next := by
      rw [← goes]
      rfl
    exact eq ▸ Step.sent rfl
  exact ⟨_, .step (.step run turn) sent⟩

/-- Five requests, and no reply until the last was sent. -/
theorem sampled_run (server : ProbeServer) (address : String) :
    ∃ t, (machine server address).Run t (sampled 5 .draining) := by
  have bound : Step server address (start 0) (.bound 0) (sampled 0 (.waiting 0)) := by
    have eq : (start 0).onBound 0 = sampled 0 (.waiting 0) := by
      unfold onBound start sampled
      norm_num [sampleCount, sampleIntervalMs, responseTimeoutMs]
    exact eq ▸ Step.bound rfl le_rfl
  exact sampled_turn (by decide) .draining rfl <| sampled_turn (by decide) _ rfl <|
    sampled_turn (by decide) _ rfl <| sampled_turn (by decide) _ rfl <| sampled_turn (by decide) _ rfl
      ⟨_, .step (.start ⟨0, rfl⟩) bound⟩

/-- The response to a request, without attributes. -/
def responseBytes (index : ℕ) : List UInt8 :=
  [1, 1, 0, 0, 0x21, 0x12, 0xa4, 0x42] ++ sampleId index

/-- The response to the third request is matched by its id, not by its place. -/
theorem matchResponse_third :
    StunPacket.matchResponse (responseBytes 2) (sampled 5 .draining).ids = .ok 2 := by
  have long : 20 ≤ (responseBytes 2).length := by decide
  have ids : (sampled 5 .draining).ids = [sampleId 0, sampleId 1, sampleId 2, sampleId 3, sampleId 4] := rfl
  have walked : StunPacket.walkAttributes (responseBytes 2) 20 = .ok true := by
    rw [StunPacket.walkAttributes, if_neg (by decide)]
  rw [StunPacket.matchResponse_fields (by decide), if_neg (by decide), if_neg (by decide), walked, ok_bind,
    if_pos rfl, ids, StunPacket.findId_cons long, if_neg (by decide), StunPacket.findId_cons long,
    if_neg (by decide), StunPacket.findId_cons long, if_pos (by decide)]
  rfl

/-- When the time is over, what was counted is returned. -/
theorem run_drained (run : (machine server address).Run t m) (draining : m.phase = .draining)
    (on : ¬ (m.canceled = true ∨ m.failure = true)) :
    ∃ value, (machine server address).Run (t ++ [(m, .drained)]) { m with phase := .returned value } ∧
      value.received = m.rtts.length := by
  obtain ⟨-, value, summarized, -⟩ := (sound_of_run run).summarized draining server.host server.port
  have drained : m.onDrained server = { m with phase := .returned value } := by
    unfold onDrained
    rw [if_neg on, summarized]
  refine ⟨value, drained ▸ run.step (Step.drained draining), ?_⟩
  unfold ProbeValue.summarize at summarized
  split at summarized
  · cases summarized
  · cases summarized
    rfl

/-- The third request was answered 210 ms after it was sent. -/
def answeredThird (clock : ℚ) : Measure :=
  { sampled 5 .draining with received := [false, false, true, false, false], rtts := [210], clock }

/-- It came 210 ms after its request. -/
theorem answers_third :
    (sampled 5 .draining).answers server address 410 ⟨responseBytes 2, address, server.port⟩ =
      some (2, 210) := by
  unfold answers
  rw [if_neg (by simp [sampled]; norm_num), matchResponse_third]
  show Option.some (2, (410 : ℚ) - 100 * (2 : ℕ)) = _
  norm_num

/-- It is up already. -/
theorem answers_again :
    (answeredThird 410).answers server address 420 ⟨responseBytes 2, address, server.port⟩ = none := by
  have matched : StunPacket.matchResponse (responseBytes 2) (answeredThird 410).ids = .ok 2 := matchResponse_third
  unfold answers
  rw [if_neg (by simp [answeredThird, sampled]; norm_num), matched]
  rfl

/-- A response behind the deadline counts for nothing. -/
theorem answers_late :
    (answeredThird 420).answers server address 1300 ⟨responseBytes 3, address, server.port⟩ = none := by
  refine if_pos (.inr (.inl ?_))
  show (1200 : ℚ) < 1300
  norm_num

/-- The response to the third request comes, then once more, and one to the fourth too late. -/
theorem answeredThird_run (server : ProbeServer) (address : String) :
    ∃ t, (machine server address).Run (t ++
      [(sampled 5 .draining, .message 410 ⟨responseBytes 2, address, server.port⟩),
        (answeredThird 410, .message 420 ⟨responseBytes 2, address, server.port⟩),
        (answeredThird 420, .message 1300 ⟨responseBytes 3, address, server.port⟩)])
      (answeredThird 1300) := by
  obtain ⟨t, run⟩ := sampled_run server address
  have heard {m m' : Measure} {timestamp : ℚ} {message : SocketMessage} (later : m.clock ≤ timestamp)
      (running : m.Running) (eq : m.onMessage server address timestamp message = m') :
      Step server address m (.message timestamp message) m' := eq ▸ .message running later
  have first : Step server address (sampled 5 .draining)
      (.message 410 ⟨responseBytes 2, address, server.port⟩) (answeredThird 410) := by
    refine heard (by norm_num [sampled]) trivial ?_
    rw [onMessage, answers_third]
    rfl
  have again : Step server address (answeredThird 410)
      (.message 420 ⟨responseBytes 2, address, server.port⟩) (answeredThird 420) := by
    refine heard (by norm_num [answeredThird]) trivial ?_
    rw [onMessage, answers_again]
    rfl
  have late : Step server address (answeredThird 420)
      (.message 1300 ⟨responseBytes 3, address, server.port⟩) (answeredThird 1300) := by
    refine heard (by norm_num [answeredThird]) trivial ?_
    rw [onMessage, answers_late]
    rfl
  have all := ((run.step first).step again).step late
  rw [List.append_assoc, List.append_assoc] at all
  exact ⟨t, all⟩

/-- What was counted and what is returned of it. -/
theorem measure_accepted_answered :
    ∃ t value, Taken ⟨"stun.example", 3478⟩ "192.0.2.1" t (answeredThird 1300) ∧
      Taken ⟨"stun.example", 3478⟩ "192.0.2.1" (t ++ [(answeredThird 1300, .drained)])
        { answeredThird 1300 with phase := .returned value } ∧ value.received = 1 := by
  obtain ⟨t, run⟩ := answeredThird_run ⟨"stun.example", 3478⟩ "192.0.2.1"
  obtain ⟨value, drained, received⟩ := run_drained run rfl (by decide)
  exact ⟨_, value, measure_accepted run, measure_accepted drained, received⟩

end Measure

end ReverseTether
