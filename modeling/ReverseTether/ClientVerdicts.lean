import ReverseTether.RelayProgress

/-!
# What a client decides on its input

An event of a client writes first and reads then, unless the writing has closed the client or
found the event spurious.  `taken` are the bytes that the event takes from the socket, `verdicts`
what becomes of the packets they complete.  `onReady_decides` reads the handler that way: what it
does is a sequence of steps that bring no packet, the verdicts one after the other, and again
steps that bring no packet.

Over a whole run the bytes taken are one stream, and the verdicts are those of the stream decoded
at once (`Relay.run_decides`), however the reads cut it and whatever else the loop does between
them.

What is decided is a list of verdicts, and what is done about them is a sequence of moves
between two states; the statement about a handler has both.  So a property that concerns the
packets alone is proved of the list, and one that concerns the connections of the moves, and
they are put together for the run.
-/

namespace ReverseTether

open Library Relation

theorem IpPacketBuffer.readFrom_takes (b : IpPacketBuffer) (read : IoResult (List UInt8)) :
    (b.readFrom read).2.peek = b.peek ++ b.takes read ∧
      ((b.readFrom read).1 = .ok true ↔ b.takes read ≠ []) := by
  cases read with
  | error err =>
      refine ⟨(List.append_nil _).symm, ?_⟩
      simp [readFrom, ByteBuffer.readFrom, takes]
  | ok offered =>
      obtain ⟨buf, eq, peek⟩ := b.buf.readFrom_ok offered
      refine ⟨?_, ?_⟩
      · rw [readFrom, eq]
        exact peek
      · rw [readFrom, eq]
        show Except.ok (decide (0 < (offered.take b.free).length)) = .ok true ↔
          offered.take b.free ≠ []
        rw [Except.ok.injEq, decide_eq_true_iff, List.length_pos_iff]

namespace ClientContext

variable {c c' : ClientContext} {ready : Ready} {answers : EventAnswers}
  {may : ConnectionCall → Prop}

/-- What becomes of the packets that the event completes. -/
def verdicts (c : ClientContext) (ready : Ready) (answers : EventAnswers) : List Verdict :=
  if c.taken ready answers = [] then []
  else (packets.decode (c.client.clientToNetwork.peek ++ c.taken ready answers)).items

/-- What the event leaves in the input buffer. -/
def leftover (c : ClientContext) (ready : Ready) (answers : EventAnswers) : List UInt8 :=
  if c.taken ready answers = [] then c.client.clientToNetwork.peek
  else (packets.decode (c.client.clientToNetwork.peek ++ c.taken ready answers)).rest

/-- The verdicts are carried out on `c`, and `c'` is what comes of it. -/
def Decides (c : ClientContext) (packets : ℕ → PacketAnswers) (verdicts : List Verdict)
    (c' : ClientContext) : Prop :=
  ∃ n, verdicts.foldlM (applyVerdict (handlers packets)) (0, c) = .ok (n, c')

theorem Decides.nil {packets : ℕ → PacketAnswers} : c.Decides packets [] c := ⟨0, rfl⟩

theorem Decides.moves {packets : ℕ → PacketAnswers} {verdicts : List Verdict} (routed : c.Routed)
    (decides : c.Decides packets verdicts c') : ClientMoves (fun _ => True) True c c' := by
  obtain ⟨n, folded⟩ := decides
  exact applyVerdicts_moves trivial (fun _ _ _ => trivial) routed folded

theorem writableHalf_moves {reads : Prop} {result : IoResult Unit} (closes : may .close)
    (pulls : may .next) (routed : c.Routed) (h : c.writableHalf ready answers = .ok (result, c')) :
    ClientMoves may reads c c' := by
  unfold writableHalf at h
  split at h
  · exact processSend_moves closes pulls routed h
  · cases h
    exact .refl

/-- Only the input buffer differs from `c`. -/
theorem updateInterests_input (h : c.updateInterests = .ok c') :
    c'.client.clientToNetwork = c.client.clientToNetwork := by
  obtain ⟨⟨client, selector⟩, updated, rest⟩ := bind_eq_ok.mp h
  cases rest
  exact (Client.updateInterests_ok updated).1.clientToNetwork

theorem close_input (h : c.close = .ok c') :
    c'.client.clientToNetwork = c.client.clientToNetwork := by
  unfold close at h
  simp only at h
  split at h
  · cases h
    rw [Router.clear_client]
    rfl
  · cases h

/-- The drain loop carries the verdicts out, and keeps what is incomplete. -/
theorem pushToNetwork_decides {packets' : ℕ → PacketAnswers} (h : c.pushToNetwork packets' = .ok c') :
    ∃ c₁ buffer, c.Decides packets' (packets.decode c.client.clientToNetwork.peek).items c₁ ∧
      c' = { c₁ with client := { c₁.client with clientToNetwork := buffer } } ∧
      buffer.peek = (packets.decode c.client.clientToNetwork.peek).rest := by
  obtain ⟨⟨clientToNetwork, n, c₁⟩, pushed, rest⟩ := bind_eq_ok.mp h
  obtain ⟨buffer, left, decoded⟩ := pushToNetwork_decodes (handlers packets') c.client.clientToNetwork
  rw [decoded] at pushed
  cases folded : (packets.decode c.client.clientToNetwork.peek).items.foldlM
      (applyVerdict (handlers packets')) (0, c) with
  | error _ =>
      rw [folded] at pushed
      cases pushed
  | ok s =>
      rw [folded] at pushed
      cases pushed
      cases rest
      exact ⟨c₁, clientToNetwork, ⟨n, folded⟩, rfl, left⟩

/-- The reading half: the verdicts, and before and after them what brings no packet. -/
theorem processReceive_decides {read : IoResult (List UInt8)} {packets' : ℕ → PacketAnswers}
    {result : IoResult Unit} (closes : may .close) (routed : c.Routed)
    (h : c.processReceive read packets' = .ok (result, c')) :
    ∃ c₁ c₂, ClientMoves may True c c₁ ∧ c₁.Decides packets'
        (if c.client.clientToNetwork.takes read = [] then []
          else (packets.decode (c.client.clientToNetwork.peek ++
            c.client.clientToNetwork.takes read)).items) c₂ ∧
      ClientMoves may True c₂ c' ∧
      c'.client.clientToNetwork.peek =
        if c.client.clientToNetwork.takes read = [] then c.client.clientToNetwork.peek
        else (packets.decode (c.client.clientToNetwork.peek ++
          c.client.clientToNetwork.takes read)).rest := by
  obtain ⟨peek, some⟩ := c.client.clientToNetwork.readFrom_takes read
  unfold processReceive at h
  split at h
  · rename_i clientToNetwork received
    rw [received] at peek some
    rw [if_neg (some.mp rfl), if_neg (some.mp rfl), ← peek]
    obtain ⟨c₂, pushed, rest⟩ := bind_eq_ok.mp h
    cases rest
    obtain ⟨c₁, buffer, decides, rfl, left⟩ := pushToNetwork_decides pushed
    exact ⟨_, c₁, .single (.receives clientToNetwork trivial), decides,
      .single (.receives buffer trivial), left⟩
  · rename_i clientToNetwork received
    have none : c.client.clientToNetwork.takes read = [] := by
      by_contra nonempty
      rw [received] at some
      cases some.mpr nonempty
    rw [received, none, List.append_nil] at peek
    obtain ⟨c₂, closed, rest⟩ := bind_eq_ok.mp h
    cases rest
    have routed₁ : ClientContext.Routed { c with client := { c.client with clientToNetwork } } :=
      routed.congr rfl rfl
    rw [if_pos none, if_pos none, close_input closed]
    exact ⟨_, _, .single (.receives clientToNetwork trivial), .nil, close_moves closes routed₁ closed,
      peek⟩
  · rename_i clientToNetwork received
    have none : c.client.clientToNetwork.takes read = [] := by
      by_contra nonempty
      rw [received] at some
      cases some.mpr nonempty
    cases h
    rw [if_pos none, if_pos none]
    exact ⟨_, _, .refl, .nil, .refl, rfl⟩
  · rename_i clientToNetwork received
    have none : c.client.clientToNetwork.takes read = [] := by
      by_contra nonempty
      rw [received] at some
      cases some.mpr nonempty
    obtain ⟨c₂, closed, rest⟩ := bind_eq_ok.mp h
    cases rest
    rw [if_pos none, if_pos none, close_input closed]
    exact ⟨_, _, .refl, .nil, close_moves closes routed closed, rfl⟩

/-- **What an event of an open or closed client decides.**  The bytes read and the bytes left from
before are decoded together, in between the write path and the update of the interests, neither of
which brings a packet. -/
theorem process_decides {result : IoResult Unit} (closes : may .close) (pulls : may .next)
    (routed : c.Routed) (h : c.process ready answers = .ok (result, c')) :
    ∃ c₁ c₂, ClientMoves may True c c₁ ∧ c₁.Decides answers.packets (c.verdicts ready answers) c₂ ∧
      ClientMoves may True c₂ c' ∧ c'.client.clientToNetwork.peek = c.leftover ready answers := by
  unfold process at h
  split at h
  · rename_i closed
    have none : c.taken ready answers = [] := if_neg (by simp [comesToRead, closed])
    cases h
    rw [verdicts, leftover, if_pos none, if_pos none]
    exact ⟨c, c, .refl, .nil, .refl, rfl⟩
  · rename_i isOpen
    rw [Bool.not_eq_true] at isOpen
    -- what an event that comes to no read decides
    have idle (none : c.comesToRead ready answers = false) :
        c.verdicts ready answers = [] ∧ c.leftover ready answers = c.client.clientToNetwork.peek := by
      have nothing : c.taken ready answers = [] := by
        rw [taken, none]
        rfl
      exact ⟨if_pos nothing, if_pos nothing⟩
    -- the writable half leaves the input alone
    have wrote {result : IoResult Unit} {c₁ : ClientContext}
        (sent : c.writableHalf ready answers = .ok (result, c₁)) :
        ClientMoves may True c c₁ ∧ c₁.client.clientToNetwork = c.client.clientToNetwork := by
      have moves : ClientMoves may False c c₁ := writableHalf_moves closes pulls routed sent
      exact ⟨writableHalf_moves closes pulls routed sent, moves.clientToNetwork id⟩
    rcases orReturn_eq_ok.mp h with ⟨c₁, sent, h⟩ | ⟨err, c₁, sent, rest⟩
    · have sent : c.writableHalf ready answers = .ok (.ok (), c₁) := sent
      obtain ⟨first, buffer⟩ := wrote sent
      have routed₁ := first.routed routed
      have comes : c.comesToRead ready answers =
          decide (c₁.client.closed = false ∧ ready.isReadable) := by
        rw [comesToRead, sent, isOpen]
        show (!false && ready.isReadable && !c₁.client.closed) = _
        cases ready.isReadable <;> cases c₁.client.closed <;> rfl
      have read {result : IoResult Unit} {c₂ : ClientContext}
          (h : (if c₁.client.closed = false ∧ ready.isReadable then
              c₁.processReceive answers.socket.read answers.packets
            else .ok (.ok (), c₁)) = .ok (result, c₂)) :
          ∃ d₁ d₂, ClientMoves may True c₁ d₁ ∧
            d₁.Decides answers.packets (c.verdicts ready answers) d₂ ∧ ClientMoves may True d₂ c₂ ∧
            c₂.client.clientToNetwork.peek = c.leftover ready answers := by
        split at h
        · rename_i both
          have takes : c.taken ready answers =
              c₁.client.clientToNetwork.takes answers.socket.read := by
            rw [taken, comes, decide_eq_true both, if_pos rfl, buffer]
          rw [verdicts, leftover, takes, ← buffer]
          exact processReceive_decides closes routed₁ h
        · rename_i neither
          obtain ⟨none, left⟩ := idle (comes.trans (decide_eq_false neither))
          cases h
          rw [none, left, buffer]
          exact ⟨c₁, c₁, .refl, .nil, .refl, rfl⟩
      rcases orReturn_eq_ok.mp h with ⟨c₂, received, h⟩ | ⟨err, c₂, received, rest⟩
      · obtain ⟨c₃, updated, rest⟩ := bind_eq_ok.mp h
        cases rest
        obtain ⟨d₁, d₂, before, decides, after, left⟩ := read received
        have last : ClientMoves may True c₂ c' ∧
            c'.client.clientToNetwork = c₂.client.clientToNetwork := by
          split at updated
          · cases updated
            exact ⟨.refl, rfl⟩
          · exact ⟨updateInterests_moves updated, updateInterests_input updated⟩
        exact ⟨d₁, d₂, first.trans before, decides, after.trans last.1, by rw [last.2, left]⟩
      · cases rest
        obtain ⟨d₁, d₂, before, decides, after, left⟩ := read received
        exact ⟨d₁, d₂, first.trans before, decides, after, left⟩
    · have sent : c.writableHalf ready answers = .ok (.error err, c₁) := sent
      cases rest
      obtain ⟨none, left⟩ := idle (by simp only [comesToRead, sent, Bool.and_false])
      obtain ⟨first, buffer⟩ := wrote sent
      rw [none, left, buffer]
      exact ⟨c', c', first, .nil, .refl, rfl⟩

/-- **The handler of a client**: what it decides is carried out between steps that bring no packet.
The verdicts are those of `c.verdicts`, which only looks at the state and at what the socket
answers; so what the event forwards is known before it is run. -/
theorem onReady_decides (closes : may .close) (pulls : may .next) (routed : c.Routed)
    (h : c.onReady ready answers = .ok c') :
    ∃ c₁ c₂, ClientMoves may True c c₁ ∧ c₁.Decides answers.packets (c.verdicts ready answers) c₂ ∧
      ClientMoves may True c₂ c' ∧ c'.client.clientToNetwork.peek = c.leftover ready answers := by
  obtain ⟨⟨result, c₃⟩, processed, h⟩ := bind_eq_ok.mp h
  obtain ⟨c₁, c₂, before, decides, after, left⟩ := process_decides closes pulls routed processed
  have rest : ClientMoves may True c₃ c' ∧
      c'.client.clientToNetwork = c₃.client.clientToNetwork := by
    cases result with
    | ok _ =>
        cases h
        exact ⟨.refl, rfl⟩
    | error err =>
        cases err with
        | wouldBlock =>
            cases h
            exact ⟨.refl, rfl⟩
        | other =>
            simp only at h
            split at h
            · cases h
              exact ⟨.refl, rfl⟩
            · have routed₁ := before.routed routed
              exact ⟨close_moves closes (after.routed ((decides.moves routed₁).routed routed₁)) h,
                close_input h⟩
  exact ⟨c₁, c₂, before, decides, after.trans rest.1, by rw [rest.2, left]⟩

end ClientContext

/-! ## What closes stays closed -/

/-- A client does not open again. -/
theorem ClientMove.stays_closed {may : ConnectionCall → Prop} {reads : Prop} {c c' : ClientContext}
    (move : ClientMove may reads c c') (closed : c.client.closed = true) :
    c'.client.closed = true := by
  have acts {e : ClientContext} {conn : Connection} {f : ConnectionContext}
      (acts : (e.enter conn).Acts f) (closed : e.client.closed = true) :
      (e.leave f.removeIfClosed).client.closed = true := by
    have same : f.client.closed = true := acts.client.closed.trans closed
    show f.removeIfClosed.client.closed = true
    unfold ConnectionContext.removeIfClosed
    split <;> exact same
  cases move with
  | acts _ _ _ executes => exact acts executes.toActs closed
  | @opens id conn selector _ _ _ _ _ _ _ executes =>
      exact acts (e := Router.insert c id conn selector) executes.toActs closed
  | serves serves _ _ _ => exact serves.closed.trans closed
  | receives _ _ => exact closed
  | sendsId _ _ => exact closed
  | writes _ _ => exact closed
  | closes => rfl

theorem ClientMoves.stays_closed {may : ConnectionCall → Prop} {reads : Prop} {c c' : ClientContext}
    (moves : ClientMoves may reads c c') (closed : c.client.closed = true) :
    c'.client.closed = true := by
  induction moves with
  | refl => exact closed
  | tail _ move ih => exact move.stays_closed ih

namespace ClientContext

variable {c c' : ClientContext} {ready : Ready} {answers : EventAnswers}

/-- A verdict that closes the client has closed it. -/
theorem Decides.closes {packets : ℕ → PacketAnswers} {verdicts : List Verdict} (routed : c.Routed)
    (decides : c.Decides packets verdicts c') (closing : verdicts.any Verdict.closes = true) :
    c'.client.closed = true := by
  obtain ⟨n, folded⟩ := decides
  -- the count of the packets that were routed differs from step to step
  have later (verdicts : List Verdict) : ∀ (n n' : ℕ) (c : ClientContext), c.Routed →
      verdicts.foldlM (applyVerdict (handlers packets)) (n, c) = .ok (n', c') →
      (verdicts.any Verdict.closes = true ∨ c.client.closed = true) → c'.client.closed = true := by
    induction verdicts with
    | nil =>
        rintro n n' c - h (none | closed)
        · cases none
        · cases h
          exact closed
    | cons verdict verdicts ih =>
        intro n n' c routed h closing
        rw [List.foldlM_cons] at h
        obtain ⟨⟨n₁, c₁⟩, first, h⟩ := bind_eq_ok.mp h
        have one : [verdict].foldlM (applyVerdict (handlers packets)) (n, c) = .ok (n₁, c₁) := by
          rw [List.foldlM_cons, first]
          rfl
        have moves : ClientMoves (fun _ => True) True c c₁ :=
          applyVerdicts_moves trivial (fun _ _ _ => trivial) routed one
        refine ih n₁ n' c₁ (moves.routed routed) h ?_
        rw [List.any_cons, Bool.or_eq_true, or_assoc] at closing
        rcases closing with closes | rest | closed
        · refine .inr ?_
          cases verdict with
          | routed _ => cases closes
          | dropped _ => cases closes
          | closed _ =>
              obtain ⟨c₂, closed, rest⟩ := bind_eq_ok.mp first
              cases rest
              unfold close at closed
              simp only at closed
              split at closed
              · cases closed
                rw [Router.clear_client]
                rfl
              · cases closed
        · exact .inl rest
        · exact .inr (moves.stays_closed closed)
  exact later verdicts 0 n c routed folded (.inl closing)

/-- An event of an open client decodes what it takes behind what was left. -/
theorem verdicts_eq (on : packets.front c.client.clientToNetwork.peek = .incomplete) :
    c.verdicts ready answers =
        (packets.decode (c.client.clientToNetwork.peek ++ c.taken ready answers)).items ∧
      c.leftover ready answers =
        (packets.decode (c.client.clientToNetwork.peek ++ c.taken ready answers)).rest := by
  by_cases none : c.taken ready answers = []
  · rw [verdicts, leftover, if_pos none, if_pos none, none, List.append_nil,
      Framing.decode_of_incomplete on]
    exact ⟨rfl, rfl⟩
  · rw [verdicts, leftover, if_neg none, if_neg none]
    exact ⟨rfl, rfl⟩

end ClientContext

/-! ## The whole stream -/

namespace Relay

variable {s s' : Relay} {label : Label} {t : List (Relay × Label)}

/-- The bytes that a step takes from the client's socket. -/
def taken (s : Relay) : Label → List UInt8
  | .handle answers =>
      match s.batch with
      | (.client, ready) :: _ => s.toClientContext.taken ready answers
      | _ => []
  | _ => []

/-- What a step decides on them. -/
def verdicts (s : Relay) : Label → List Verdict
  | .handle answers =>
      match s.batch with
      | (.client, ready) :: _ => s.toClientContext.verdicts ready answers
      | _ => []
  | _ => []

/-- All the bytes taken from the client's socket. -/
def allTaken (t : List (Relay × Label)) : List UInt8 := t.flatMap fun p => p.1.taken p.2

/-- Everything decided on them. -/
def allVerdicts (t : List (Relay × Label)) : List Verdict := t.flatMap fun p => p.1.verdicts p.2

@[simp] theorem allTaken_append (t : List (Relay × Label)) (s : Relay) (label : Label) :
    allTaken (t ++ [(s, label)]) = allTaken t ++ s.taken label := by
  simp [allTaken]

@[simp] theorem allVerdicts_append (t : List (Relay × Label)) (s : Relay) (label : Label) :
    allVerdicts (t ++ [(s, label)]) = allVerdicts t ++ s.verdicts label := by
  simp [allVerdicts]

/-- The verdicts so far are those of the stream so far, and an open client keeps the rest. -/
structure Decided (s : Relay) (t : List (Relay × Label)) : Prop where
  verdicts : allVerdicts t = (packets.decode (allTaken t)).items
  goesOn : s.client.closed = false → (packets.decode (allTaken t)).stopped = false
  rest : s.client.closed = false → s.client.clientToNetwork.peek = (packets.decode (allTaken t)).rest

/-- A step that reads nothing. -/
theorem Decided.still (decided : Decided s t) (none : s.taken label = [])
    (nothing : s.verdicts label = [])
    (opens : s'.client.closed = false → s.client.closed = false)
    (input : s'.client.clientToNetwork = s.client.clientToNetwork) :
    Decided s' (t ++ [(s, label)]) := by
  constructor
  · rw [allVerdicts_append, allTaken_append, none, nothing, List.append_nil, List.append_nil]
    exact decided.verdicts
  · intro isOpen
    rw [allTaken_append, none, List.append_nil]
    exact decided.goesOn (opens isOpen)
  · intro isOpen
    rw [allTaken_append, none, List.append_nil, input]
    exact decided.rest (opens isOpen)

theorem Step.decided (run : machine.Run t s) (decided : Decided s t) (step : Step s label s') :
    Decided s' (t ++ [(s, label)]) := by
  have routed := run_routed run
  -- steps of the client that leave its input alone
  have stays {may : ConnectionCall → Prop} {c : ClientContext}
      (moves : ClientMoves may False s.toClientContext c) :
      (c.client.closed = false → s.client.closed = false) ∧
        c.client.clientToNetwork = s.client.clientToNetwork := by
    refine ⟨fun isOpen => ?_, moves.clientToNetwork id⟩
    rw [← Bool.not_eq_true]
    intro closed
    rw [moves.stays_closed closed] at isOpen
    cases isOpen
  cases step with
  | poll _ _ => exact decided.still rfl rfl id rfl
  | release _ => exact decided.still rfl rfl id rfl
  | rehash _ => exact decided.still rfl rfl id rfl
  | reap cleaned =>
      have moves : ClientMoves (fun _ => True) False s.toClientContext _ :=
        Router.cleanExpiredConnections_moves trivial routed cleaned
      exact decided.still rfl rfl (stays moves).1 (stays moves).2
  | @handle source ready batch answers c next handled =>
      cases source with
      | connection handle =>
          have moves : ClientMoves (fun _ => True) False s.toClientContext c := by
            cases place : s.created[handle]? with
            | none =>
                simp only [ClientContext.dispatch, place] at handled
                cases handled
            | some conn =>
                rcases ClientContext.dispatch_connection routed place handled with
                  ⟨-, rfl⟩ | ⟨isOpen, f, executes, rfl, -⟩
                · exact .refl
                · exact .single (.acts place isOpen trivial executes)
          refine decided.still ?_ ?_ (stays moves).1 (stays moves).2
          · simp only [taken, next]
          · simp only [verdicts, next]
      | client =>
          have took : s.taken (.handle answers) = s.toClientContext.taken ready answers := by
            simp only [taken, next]
          have said : s.verdicts (.handle answers) = s.toClientContext.verdicts ready answers := by
            simp only [verdicts, next]
          obtain ⟨c₁, c₂, before, decides, after, left⟩ :=
            @ClientContext.onReady_decides _ _ _ _ (fun _ => True) trivial trivial routed handled
          cases closed : s.client.closed with
          | true =>
              have nothing : s.toClientContext.taken ready answers = [] := by
                refine if_neg ?_
                simp only [ClientContext.comesToRead, closed, Bool.not_true, Bool.false_and,
                  Bool.false_eq_true, not_false_eq_true]
              have closed' : c.client.closed = true :=
                after.stays_closed
                  ((decides.moves (before.routed routed)).stays_closed (before.stays_closed closed))
              refine ⟨?_, fun isOpen => ?_, fun isOpen => ?_⟩
              · rw [allVerdicts_append, allTaken_append, took, said, ClientContext.verdicts,
                  if_pos nothing, nothing, List.append_nil, List.append_nil]
                exact decided.verdicts
              · exact absurd (isOpen.symm.trans closed') Bool.false_ne_true
              · exact absurd (isOpen.symm.trans closed') Bool.false_ne_true
          | false =>
              have on := decided.goesOn closed
              have rest := decided.rest closed
              have incomplete : packets.front s.client.clientToNetwork.peek = .incomplete := by
                rw [rest]
                exact Framing.front_rest _ on
              obtain ⟨items, leaves⟩ :=
                @ClientContext.verdicts_eq s.toClientContext ready answers incomplete
              have decoded := Framing.decode_append (allTaken t)
                (s.toClientContext.taken ready answers) on
              rw [← rest] at decoded
              refine ⟨?_, fun isOpen => ?_, fun isOpen => ?_⟩
              · rw [allVerdicts_append, allTaken_append, took, said, decoded, items,
                  decided.verdicts]
              · rw [allTaken_append, took, decoded]
                show (packets.decode _).stopped = false
                rw [Feed.stopped_eq_any, ← items, ← Bool.not_eq_true]
                intro closing
                have closed' := after.stays_closed
                  (decides.closes (before.routed routed) closing)
                exact absurd (isOpen.symm.trans closed') Bool.false_ne_true
              · rw [allTaken_append, took, decoded]
                exact left.trans leaves

theorem run_decided (run : machine.Run t s) : Decided s t := by
  induction run with
  | start starts =>
      obtain ⟨id, rfl⟩ := starts
      have empty : packets.decode [] = ⟨[], [], false⟩ :=
        Framing.decode_of_incomplete (show packets.front [] = .incomplete from rfl)
      refine ⟨?_, fun _ => ?_, fun _ => ?_⟩
      · rw [show allTaken [] = [] from rfl, empty]
        rfl
      · rw [show allTaken [] = [] from rfl, empty]
      · rw [show allTaken [] = [] from rfl, empty]
        rfl
  | step run step ih => exact Step.decided run ih step

/-- **A client decides on its stream as a whole.**  Whatever the sizes of its reads, and
whatever else the loop does between them, what becomes of the packets is what becomes of them
when the bytes taken so far are decoded at once; and as long as the client is open nothing has
stopped the decoding. -/
theorem run_decides (run : machine.Run t s) :
    allVerdicts t = (packets.decode (allTaken t)).items ∧
      (s.client.closed = false → (packets.decode (allTaken t)).stopped = false ∧
        s.client.clientToNetwork.peek = (packets.decode (allTaken t)).rest) := by
  have decided := run_decided run
  exact ⟨decided.verdicts, fun isOpen => ⟨decided.goesOn isOpen, decided.rest isOpen⟩⟩

/-- A datagram has opened a flow, and nothing has stopped the decoding. -/
theorem run_decides_udpFlow : ∃ t s, machine.Run t s ∧ s.created.length = 1 ∧
    allVerdicts t = (packets.decode (allTaken t)).items ∧
      (packets.decode (allTaken t)).stopped = false := by
  obtain ⟨t, s, run, -, rest, -, one, -⟩ := run_udpFlow
  obtain ⟨verdicts, goesOn⟩ := run_decides run.run
  exact ⟨t, s, run.run, one, verdicts, (goesOn rest.settled.1).1⟩

end Relay

end ReverseTether
