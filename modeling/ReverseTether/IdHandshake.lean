import ReverseTether.ClientOutput
import ReverseTether.SpuriousEvents

/-!
# The id handshake

The app waits for the four bytes of its id before it sends anything.  The stream of a new
client is registered for writing only, and `send_id` writes what is left of the id, however
little its socket takes.  But `process` ends with `update_interests`, which looks at the
packets to write and not at the id: the first event that gets so far takes away the
interest in writing.

`ClientContext.Silent` is a client that has not got so far.  What an event makes of it is
`ClientContext.onReady_silent`: the write fails, and the interest stays as it is, or the
stream is registered for reading only.

The condition of the theorem is on the answers of the tunnel's socket: the write that sends
the id takes all of it.  In the run that violates it the app and the relay wait for each
other, the one for the rest of its id and the other for a packet that would make it register
for writing again.

Everything else an event can do is covered, errors and closes included.  An id that has gone
out is never given back, so from then on the statement asks for nothing.
-/

namespace ReverseTether

open Library Relation

namespace ClientContext

/-- What is left of the id. -/
def idLeft (c : ClientContext) : List UInt8 :=
  (u32Bytes c.client.id).drop (4 - c.client.pendingIdBytes)

theorem length_idLeft {c : ClientContext} (pending : c.client.pendingIdBytes ≤ 4) :
    c.idLeft.length = c.client.pendingIdBytes := by
  rw [idLeft, List.length_drop, length_u32Bytes]
  omega

/-- The socket took `n` bytes of the id, or all that was left. -/
def sentId (c : ClientContext) (n : ℕ) : ClientContext :=
  { c with
    client := { c.client with pendingIdBytes := c.client.pendingIdBytes - (c.idLeft.take n).length }
    received := c.received ++ c.idLeft.take n }

theorem sentId_pending {c : ClientContext} (pending : c.client.pendingIdBytes ≤ 4) (n : ℕ) :
    (c.sentId n).client.pendingIdBytes = c.client.pendingIdBytes - n := by
  show c.client.pendingIdBytes - (c.idLeft.take n).length = _
  rw [List.length_take, length_idLeft pending]
  omega

theorem sendId_ok {c : ClientContext} (must : c.client.mustSendId = true) (n : ℕ) :
    c.sendId (.ok n) = .ok (.ok (), c.sentId n) := if_pos must

theorem sendId_error {c : ClientContext} (must : c.client.mustSendId = true) (err : IoError) :
    c.sendId (.error err) = .ok (.error err, c) := if_pos must

theorem sentId_zero (c : ClientContext) : c.sentId 0 = c := by
  simp [sentId]

/-- The client has got at most a part of its id, and has not been heard. -/
structure Silent (c : ClientContext) : Prop where
  created : c.created = []
  connections : c.client.connections = []
  queued : c.client.networkToClient.isEmpty = true
  appended : c.client.appended = []
  interests : c.client.interests = .writable
  registered : c.selector.registered .client = some .writable

namespace Silent

variable {c c' : ClientContext} {ready : Ready} {answers : EventAnswers}

theorem create (id : UInt32) : (ClientContext.create id).Silent := ⟨rfl, rfl, rfl, rfl, rfl, rfl⟩

/-- What the socket has got is the rest of the id. -/
theorem received (silent : c.Silent) (streams : c.Streams) :
    c.received ++ c.idLeft = u32Bytes c.client.id := by
  have stream := streams.stream
  have empty : c.client.networkToClient.contents = [] :=
    (StreamBuffer.isEmpty_iff _).mp silent.queued
  rw [empty, silent.appended, List.append_nil, List.flatten_nil, List.append_nil] at stream
  exact stream

/-- **`update_interests` forgets the id.**  It asks whether there is anything in the stream for the
client, and the bytes of the id are not in that stream. -/
theorem updateInterests (silent : c.Silent) (n : ℕ)
    (h : (c.sentId n).updateInterests = .ok c') :
    c'.selector.registered .client = some .readable ∧
      c'.client.pendingIdBytes = (c.sentId n).client.pendingIdBytes ∧
      c'.client.id = c.client.id ∧ c'.client.closed = c.client.closed ∧
      c'.received = (c.sentId n).received := by
  obtain ⟨⟨client, selector⟩, updated, rest⟩ := bind_eq_ok.mp h
  cases rest
  obtain ⟨same, -, -, -, interests, registered⟩ := Client.updateInterests_ok updated
  have wanted : (c.sentId n).client.wanted = .readable := if_pos silent.queued
  refine ⟨?_, same.pendingIdBytes, same.id, same.closed, rfl⟩
  have known : (c.sentId n).selector.registered .client = some (c.sentId n).client.interests :=
    silent.registered.trans (congrArg some silent.interests.symm)
  have registered' := registered known
  rw [interests, wanted] at registered'
  exact registered'

end Silent

variable {c c' : ClientContext} {ready : Ready} {answers : EventAnswers}

/-- **An event of a client that was not heard yet**: a write that fails leaves everything as
it is or closes the client; otherwise the stream is registered for reading only. -/
theorem onReady_silent (silent : c.Silent) (must : c.client.mustSendId = true)
    (isOpen : c.client.closed = false) (unreadable : ready.isReadable = false)
    (h : c.onReady ready answers = .ok c') :
    (ready.isWritable = true ∧ (∃ err, answers.socket.write = .error err) ∧
        (c' = c ∨ c'.client.closed = true)) ∨
      ∃ n, (ready.isWritable = true → answers.socket.write = .ok n) ∧
        (ready.isWritable = false → n = 0) ∧
        c'.selector.registered .client = some .readable ∧
        c'.client.pendingIdBytes = (c.sentId n).client.pendingIdBytes ∧
        c'.client.id = c.client.id ∧ c'.client.closed = false ∧
        c'.received = (c.sentId n).received := by
  obtain ⟨⟨result, c₁⟩, processed, h⟩ := bind_eq_ok.mp h
  rw [process, if_neg (by rw [isOpen]; exact Bool.false_ne_true)] at processed
  -- nothing is read
  have unread (c₂ : ClientContext) {result : IoResult Unit} {c₃ : ClientContext}
      (h : (if c₂.client.closed = false ∧ ready.isReadable then
          c₂.processReceive answers.socket.read answers.packets
        else .ok (.ok (), c₂)) = .ok (result, c₃)) : result = .ok () ∧ c₃ = c₂ := by
    rw [if_neg (by rw [unreadable]; exact fun h => absurd h.2 Bool.false_ne_true)] at h
    cases h
    exact ⟨rfl, rfl⟩
  have goesOn (n : ℕ)
      (h : orReturn (if (c.sentId n).client.closed = false ∧ ready.isReadable then
          (c.sentId n).processReceive answers.socket.read answers.packets
        else .ok (.ok (), c.sentId n)) (fun c => do
          let c ← (if c.client.closed then .ok c else c.updateInterests)
          return (.ok (), c)) = .ok (result, c₁)) :
      result = .ok () ∧ (c.sentId n).updateInterests = .ok c₁ := by
    rcases orReturn_eq_ok.mp h with ⟨c₂, kept, rest⟩ | ⟨err, c₂, kept, -⟩
    · obtain ⟨-, rfl⟩ := unread _ kept
      obtain ⟨c₃, updated, rest⟩ := bind_eq_ok.mp rest
      cases rest
      rw [if_neg (show ¬ (c.sentId n).client.closed = true by
        show ¬ c.client.closed = true
        rw [isOpen]
        exact Bool.false_ne_true)] at updated
      exact ⟨rfl, updated⟩
    · exact absurd (unread _ kept).1 (by simp)
  have settled (n : ℕ) (both : result = .ok () ∧ (c.sentId n).updateInterests = .ok c₁) :
      c'.selector.registered .client = some .readable ∧
        c'.client.pendingIdBytes = (c.sentId n).client.pendingIdBytes ∧
        c'.client.id = c.client.id ∧ c'.client.closed = false ∧
        c'.received = (c.sentId n).received := by
    obtain ⟨rfl, updated⟩ := both
    cases h
    obtain ⟨registered, pending, id, closed, received⟩ := silent.updateInterests n updated
    exact ⟨registered, pending, id, closed.trans isOpen, received⟩
  cases writable : ready.isWritable with
  | false =>
      rw [if_neg (by rw [writable]; exact Bool.false_ne_true)] at processed
      rcases orReturn_eq_ok.mp processed with ⟨c₂, same, rest⟩ | ⟨err, c₂, same, -⟩
      · cases same
        rw [← c.sentId_zero] at rest
        exact .inr ⟨0, by simp, fun _ => rfl, settled 0 (goesOn 0 rest)⟩
      · cases same
  | true =>
      rw [if_pos writable, processSend, if_pos must] at processed
      cases write : answers.socket.write with
      | ok n =>
          rw [write, sendId_ok must] at processed
          rcases orReturn_eq_ok.mp processed with ⟨c₂, sent, rest⟩ | ⟨err, c₂, sent, -⟩
          · cases sent
            exact .inr ⟨n, fun _ => rfl, by simp, settled n (goesOn n rest)⟩
          · cases sent
      | error err =>
          refine .inl ⟨rfl, ⟨err, rfl⟩, ?_⟩
          rw [write, sendId_error must] at processed
          cases err with
          | wouldBlock =>
              rcases orReturn_eq_ok.mp processed with ⟨c₂, sent, -⟩ | ⟨err, c₂, sent, rest⟩
              · cases sent
              · cases sent
                cases rest
                cases h
                exact .inl rfl
          | other =>
              rcases orReturn_eq_ok.mp processed with ⟨c₂, sent, rest⟩ | ⟨err, c₂, sent, -⟩
              · obtain ⟨c₃, ended, same⟩ := bind_eq_ok.mp (show (do
                  return (Except.ok (), ← c.close)) = _ from sent)
                cases same
                have closed := close_closed ended
                rcases orReturn_eq_ok.mp rest with ⟨c₄, kept, last⟩ | ⟨err, c₄, kept, -⟩
                · obtain ⟨-, rfl⟩ := unread _ kept
                  obtain ⟨c₅, updated, same⟩ := bind_eq_ok.mp last
                  cases same
                  rw [if_pos closed] at updated
                  cases updated
                  cases h
                  exact .inr closed
                · exact absurd (unread _ kept).1 (by simp)
              · obtain ⟨_, -, same⟩ := bind_eq_ok.mp (show (do
                  return (Except.ok (), ← c.close)) = _ from sent)
                cases same

end ClientContext

/-! ## Nothing gives the id back -/

section Moves

variable {may : ConnectionCall → Prop} {reads : Prop} {c c' : ClientContext}

/-- What is left of the id does not grow, and a closed client stays closed. -/
structure ClientContext.GoesOn (c c' : ClientContext) : Prop where
  pendingIdBytes : c'.client.pendingIdBytes ≤ c.client.pendingIdBytes
  closed : c.client.closed = true → c'.client.closed = true

theorem ClientContext.GoesOn.of_acts {conn : Connection} {f : ConnectionContext}
    (acts : (c.enter conn).Acts f) : c.GoesOn (c.leave f.removeIfClosed) := by
  have served : c.GoesOn (c.leave f) :=
    ⟨acts.client.pendingIdBytes.le, fun closed => acts.client.closed.trans closed⟩
  unfold ConnectionContext.removeIfClosed
  split
  · exact ⟨served.pendingIdBytes, served.closed⟩
  · exact served

theorem ClientMove.goesOn (move : ClientMove may reads c c') : c.GoesOn c' := by
  cases move with
  | acts _ _ _ executes => exact .of_acts executes.toActs
  | @opens id conn selector _ _ _ _ _ _ _ executes =>
      obtain ⟨pending, closed⟩ := ClientContext.GoesOn.of_acts
        (c := Router.insert c id conn selector) executes.toActs
      exact ⟨pending, closed⟩
  | serves serves _ _ _ => exact ⟨serves.pendingIdBytes.le, fun closed => serves.closed.trans closed⟩
  | receives _ _ => exact ⟨le_rfl, id⟩
  | sendsId _ _ => exact ⟨Nat.sub_le _ _, id⟩
  | writes _ _ => exact ⟨le_rfl, id⟩
  | closes => exact ⟨le_rfl, fun _ => rfl⟩

theorem ClientMoves.goesOn (moves : ClientMoves may reads c c') : c.GoesOn c' := by
  induction moves with
  | refl => exact ⟨le_rfl, id⟩
  | tail _ last ih =>
      obtain ⟨pending, closed⟩ := last.goesOn
      exact ⟨pending.trans ih.pendingIdBytes, fun h => closed (ih.closed h)⟩

end Moves

namespace Relay

variable {s s' : Relay} {label : Label} {t : List (Relay × Label)}

theorem Step.goesOn (routed : s.Routed) (step : Step s label s') :
    s.toClientContext.GoesOn s'.toClientContext := by
  rcases step.moves routed with ⟨moves, -⟩ | rfl | ⟨_, -, rfl⟩
  · exact moves.goesOn
  · exact ⟨le_rfl, id⟩
  · exact ⟨le_rfl, id⟩

/-! ## Over a run -/

/-- The client is open, and has not got its whole id.  Nothing else is written to it until it has.
-/
def Identifies (s : Relay) : Prop := 0 < s.client.pendingIdBytes ∧ s.client.closed = false

/-- The poller tells when the stream of the client can be written.  Without it the rest of the id
is never written. -/
def AwaitsWritable (s : Relay) : Prop :=
  ∃ interest, s.selector.registered .client = some interest ∧ interest.isWritable = true

/-- Until the id has gone out, an event of the client is a writable one, and the socket
takes all that is left of the id or nothing, because it would block or fails. -/
def IdAtOnce (s : Relay) : Label → Prop
  | .handle answers => ∀ ready batch, s.batch = (.client, ready) :: batch → s.Identifies →
      ready.isWritable = true ∧ ∀ n, answers.socket.write = .ok n → s.client.pendingIdBytes ≤ n
  | _ => True

/-- What holds while the id goes out: the client was sent no packet, and none of its events that
wait can read, since it is only registered for writing. -/
structure Identifying (s : Relay) : Prop where
  silent : s.Silent
  unread : ∀ ready, (Source.client, ready) ∈ s.batch → ready.isReadable = false

theorem Identifying.handles {source : Source} {ready : Ready} {batch : List (Source × Ready)}
    {answers : EventAnswers} {c : ClientContext} (identifying : s.Identifying)
    (next : s.batch = (source, ready) :: batch) (h : s.dispatch source ready answers = .ok c) :
    source = .client ∧ ready.isReadable = false ∧ s.onReady ready answers = .ok c := by
  cases source with
  | client => exact ⟨rfl, identifying.unread ready (next ▸ List.mem_cons_self), h⟩
  | connection handle =>
      -- there is no connection yet
      have none : s.created[handle]? = none := by
        rw [identifying.silent.created]
        rfl
      simp only [ClientContext.dispatch, none] at h
      cases h

/-- **One step of an event of the client**, with what it does to the id.  Either nothing of it was
written, or its next bytes were, or the client has closed; no other packet is written before the
last byte of it. -/
theorem Identifying.handle {answers : EventAnswers} (identifying : s.Identifying)
    (streams : s.Streams) (identifies : s.Identifies) (step : Step s (.handle answers) s') :
    ∃ ready batch, s.batch = (.client, ready) :: batch ∧
      ((ready.isWritable = true ∧ (∃ err, answers.socket.write = .error err) ∧
          (s'.toClientContext = s.toClientContext ∨ s'.client.closed = true) ∧ s'.batch = batch) ∨
        ∃ n, (ready.isWritable = true → answers.socket.write = .ok n) ∧
          (ready.isWritable = false → n = 0) ∧
          s'.selector.registered .client = some .readable ∧
          s'.client.pendingIdBytes = s.client.pendingIdBytes - n ∧ s'.client.closed = false ∧
          s'.client.id = s.client.id ∧ s'.received = s.received ++ s.idLeft.take n) := by
  cases step with
  | @handle source ready batch _ c next handled =>
      obtain ⟨rfl, unreadable, handled⟩ := identifying.handles next handled
      refine ⟨ready, batch, next, ?_⟩
      rcases ClientContext.onReady_silent identifying.silent (decide_eq_true identifies.1)
        identifies.2 unreadable handled with ⟨writable, failed, kept⟩ |
          ⟨n, took, idle, registered, pending, id, closed, received⟩
      · exact .inl ⟨writable, failed, kept, rfl⟩
      · exact .inr ⟨n, took, idle, registered,
          pending.trans (ClientContext.sentId_pending streams.pending n), closed, id, received⟩

theorem Step.identifying (routed : s.Routed) (streams : s.Streams) (met : s.IdAtOnce label)
    (inv : s.Identifies → s.Identifying) (step : Step s label s') :
    s'.Identifies → s'.Identifying := by
  rintro ⟨pending', isOpen'⟩
  obtain ⟨pending, closed⟩ := step.goesOn routed
  have identifies : s.Identifies := by
    refine ⟨pending'.trans_le pending, ?_⟩
    rw [← Bool.not_eq_true]
    intro wasClosed
    exact absurd ((closed wasClosed).symm.trans isOpen') nofun
  have identifying := inv identifies
  cases label with
  | poll events =>
      cases step with
      | poll _ within =>
          refine ⟨identifying.silent, fun ready mem => ?_⟩
          obtain ⟨interest, known, within⟩ := within _ mem
          rw [identifying.silent.registered] at known
          cases known
          rw [← Bool.not_eq_true]
          intro readable
          exact absurd (within.1 readable) nofun
  | reap clock =>
      cases step with
      | reap cleaned =>
          unfold Router.cleanExpiredConnections at cleaned
          rw [identifying.silent.connections] at cleaned
          cases cleaned
          exact identifying
  | handle answers =>
      obtain ⟨ready, batch, next, ⟨-, -, same | gone, rest⟩ | ⟨n, took, -, -, left, -⟩⟩ :=
        identifying.handle streams identifies step
      · refine ⟨by rw [same]; exact identifying.silent, fun ready mem => ?_⟩
        rw [rest] at mem
        exact identifying.unread ready (next ▸ List.mem_cons_of_mem _ mem)
      · exact absurd (gone.symm.trans isOpen') nofun
      · -- the id has gone out
        obtain ⟨writable, all⟩ := met ready batch next identifies
        have whole := all n (took writable)
        omega
  | release =>
      cases step with
      | release idle =>
          obtain ⟨created, connections, queued, appended, interests, registered⟩ :=
            identifying.silent
          exact ⟨⟨created, connections, queued, appended, interests, registered⟩,
            identifying.unread⟩
  | rehash connections =>
      cases step with
      | rehash perm =>
          obtain ⟨created, routes, queued, appended, interests, registered⟩ := identifying.silent
          rw [routes, List.perm_nil] at perm
          exact ⟨⟨created, perm, queued, appended, interests, registered⟩, identifying.unread⟩

theorem run_identifying (run : machine.Run t s) (met : Machine.Meets IdAtOnce t) :
    s.Identifies → s.Identifying := by
  induction run with
  | start fresh =>
      obtain ⟨id, rfl⟩ := fresh
      exact fun _ => ⟨ClientContext.Silent.create id, nofun⟩
  | step run step ih =>
      rw [Machine.meets_append, Machine.meets_singleton] at met
      exact Step.identifying (run_routed run) (run_streams run) met.2 (ih met.1) step

/-- **The id handshake**, as long as the id goes out at once.  Until it has gone out the
stream of an open client is registered for writing, and a writable event whose write takes
what is left completes it.  An event that does not meet the condition takes the interest
away while bytes of the id are left. -/
theorem run_awaitsWritable (run : machine.Run t s) (met : Machine.Meets IdAtOnce t) :
    (s.Identifies → s.AwaitsWritable) ∧
      (∀ answers s' ready batch n, Step s (.handle answers) s' → s.Identifies →
        s.batch = (.client, ready) :: batch → ready.isWritable = true →
        answers.socket.write = .ok n → s.client.pendingIdBytes ≤ n →
          s'.client.pendingIdBytes = 0 ∧ s'.received = u32Bytes s'.client.id) ∧
      ∀ answers s', Step s (.handle answers) s' → ¬ s.IdAtOnce (.handle answers) →
        s'.Identifies ∧ ¬ s'.AwaitsWritable := by
  have streams := run_streams run
  refine ⟨fun identifies => ?_, ?_, ?_⟩
  · exact ⟨.writable, (run_identifying run met identifies).silent.registered, rfl⟩
  · intro answers s' ready batch n step identifies next writable took all
    have identifying := run_identifying run met identifies
    obtain ⟨ready', batch', next', kind⟩ := identifying.handle streams identifies step
    have same := next.symm.trans next'
    cases same
    rcases kind with ⟨-, ⟨err, failed⟩, -⟩ | ⟨n', took', -, -, left, -, id, received⟩
    · exact absurd (took.symm.trans failed) nofun
    · have eq := took.symm.trans (took' writable)
      cases eq
      refine ⟨by omega, ?_⟩
      rw [received, id, List.take_of_length_le]
      · exact identifying.silent.received streams
      · exact (ClientContext.length_idLeft streams.pending).trans_le all
  · intro answers s' step unmet
    have identifies : s.Identifies := by
      by_contra settled
      exact unmet fun _ _ _ identifies => absurd identifies settled
    obtain ⟨ready, batch, next, ⟨writable, ⟨err, failed⟩, -⟩ |
      ⟨n, took, idle, registered, left, isOpen, -⟩⟩ :=
        (run_identifying run met identifies).handle streams identifies step
    · refine absurd ?_ unmet
      intro ready' batch' next' _
      have same := next.symm.trans next'
      cases same
      exact ⟨writable, fun n took => absurd (failed.symm.trans took) nofun⟩
    · have part : n < s.client.pendingIdBytes := by
        by_contra all
        refine unmet ?_
        intro ready' batch' next' _
        have same := next.symm.trans next'
        cases same
        cases writable : ready.isWritable with
        | true =>
            refine ⟨rfl, fun n' took' => ?_⟩
            have eq := took'.symm.trans (took writable)
            cases eq
            exact not_lt.mp all
        | false =>
            have none := idle writable
            have some := identifies.1
            omega
      refine ⟨⟨by omega, isOpen⟩, ?_⟩
      rintro ⟨interest, known, writable⟩
      rw [registered] at known
      cases known
      cases writable

/-- A write that would block keeps the interest. -/
theorem run_awaitsWritable_blocked :
    ∃ t s, machine.Run t s ∧ s.client.pendingIdBytes = 4 ∧ t ≠ [] ∧ s.AwaitsWritable := by
  let answers : EventAnswers :=
    ⟨⟨.ok none, .error .wouldBlock, .ok []⟩, 0, fun _ => ⟨0, false, 0, .ok (), .ok 0⟩⟩
  have start : machine.Run [] (create 0) := .start ⟨0, rfl⟩
  have writable : (create 0).selector.registered .client = some .writable := rfl
  have run := run_event start rfl writable (Ready.within_refl _)
    (show (create 0).dispatch .client .writable answers = .ok _ from rfl)
  have met : Machine.Meets IdAtOnce ([] ++ [(create 0, .poll [(.client, .writable)])] ++
      [({ create 0 with batch := [(.client, .writable)] }, .handle answers)]) := by
    rw [Machine.meets_append, Machine.meets_append]
    refine ⟨⟨Machine.meets_nil _, Machine.meets_singleton.mpr trivial⟩,
      Machine.meets_singleton.mpr ?_⟩
    intro ready batch next _
    cases next
    exact ⟨rfl, nofun⟩
  exact ⟨_, _, run, rfl, List.cons_ne_nil _ _,
    (run_awaitsWritable run met).1 ⟨by decide, rfl⟩⟩

/-- The socket takes one byte of the id: the stream is registered for reading only.  The other
three bytes wait for an event that nobody asks for. -/
theorem not_run_awaitsWritable :
    ¬ ∀ t s, machine.Run t s → 0 < s.client.pendingIdBytes → s.client.closed = false →
      ∃ interest, s.selector.registered .client = some interest ∧ interest.isWritable = true := by
  intro all
  let answers : EventAnswers :=
    ⟨⟨.ok none, .ok 1, .ok []⟩, 0, fun _ => ⟨0, false, 0, .ok (), .ok 0⟩⟩
  have start : machine.Run [] (create 0) := .start ⟨0, rfl⟩
  have writable : (create 0).selector.registered .client = some .writable := rfl
  have run := run_event start rfl writable (Ready.within_refl _)
    (show (create 0).dispatch .client .writable answers = .ok _ from rfl)
  obtain ⟨interest, known, writable'⟩ := all _ _ run (by decide) rfl
  cases known
  cases writable'

end Relay

end ReverseTether
