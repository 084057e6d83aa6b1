import ReverseTether.Library.Machine
import ReverseTether.DatagramBuffer

/-!
# `DatagramBuffer` as a queue of datagrams

A run is any sequence of `read_from` calls and of `write_to` calls on a
non-empty buffer whose send takes the whole datagram.  `DatagramTrace` records
beside the buffer which datagrams were accepted and which were sent, and `Fifo`
is what a queue promises about the two lists.

The ring keeps that promise except at one point: `has_enough_space_for` answers
`true` whenever `tail ≤ head`, on the ground that the extra space takes one more
block, and does not look at where `head` lands.  With `tail` at `0` a block that
reaches `circularBufferLength` sends `head` back to `0` as well, and equal
positions mean empty: everything stored is forgotten.  `KeepsApart` says that a
call does not do this, and `fifo_iff_keepsApart` that a run is a queue exactly as
long as none does.

The step that breaks the promise depends on three numbers, the position of the writer, that of
the reader and the length of the datagram, and `KeepsApart` computes it from the state before
the call.
-/

namespace ReverseTether

open Library

namespace DatagramBuffer

variable {capacity : ℕ}

/-- The buffer stores exactly `ds`, oldest first.  Either the blocks run from
`tail` to `head`, or they run from `tail` into the extra space and go on from
`0` to `head`. -/
inductive Holds (b : DatagramBuffer capacity) : List (List UInt8) → Prop
  | straight {ds : List (List UInt8)} :
      b.tail ≤ b.head → b.head < capacity + 1 →
      Blocks (capacity + 1) b.buf b.tail ds b.head → Holds b ds
  | wrapped {ds₁ ds₂ : List (List UInt8)} {e : ℕ} :
      b.head < b.tail → b.tail < capacity + 1 → capacity + 1 ≤ e →
      Blocks (capacity + 1) b.buf b.tail ds₁ e →
      Blocks (capacity + 1) b.buf 0 ds₂ b.head → Holds b (ds₁ ++ ds₂)

/-- The call that would make `head` meet a `tail` at `0` is not this one. -/
def KeepsApart (b : DatagramBuffer capacity) (datagramLength : ℕ) : Prop :=
  ¬ (b.tail = 0 ∧ capacity + 1 ≤ b.head + headerLength + datagramLength)

instance (b : DatagramBuffer capacity) (datagramLength : ℕ) :
    Decidable (b.KeepsApart datagramLength) :=
  inferInstanceAs (Decidable (¬ _))

namespace Holds

variable {b : DatagramBuffer capacity} {ds : List (List UInt8)}

theorem head_lt (h : Holds b ds) : b.head < capacity + 1 := by
  cases h with
  | straight _ below _ => exact below
  | wrapped before below _ _ _ => omega

/-- Equal positions mean empty, and only then. -/
theorem isEmpty_iff (h : Holds b ds) : b.isEmpty = true ↔ ds = [] := by
  rw [isEmpty, decide_eq_true_iff]
  cases h with
  | straight order _ blocks =>
      constructor
      · intro same
        rw [same] at blocks
        exact blocks.eq_nil_of_eq
      · rintro rfl
        exact blocks.eq_of_nil.symm
  | @wrapped ds₁ ds₂ e before below past blocks _ =>
      have nonempty : ds₁ ≠ [] := by
        rintro rfl
        have := blocks.eq_of_nil
        omega
      exact ⟨fun same => by omega, fun none => absurd (List.append_eq_nil_iff.mp none).1 nonempty⟩

theorem new : Holds (DatagramBuffer.new capacity) [] :=
  .straight le_rfl (Nat.succ_pos _) (.nil _)

/-- `read_from` stores the datagram behind the ones held. -/
theorem readFrom {d : List UInt8} (h : Holds b ds) (short : d.length < 65536)
    (space : b.hasEnoughSpaceFor d.length = true) (apart : b.KeepsApart d.length) :
    ∃ b', b.readFrom d = .ok (.ok (), b') ∧ Holds b' (ds ++ [d]) ∧ b'.tail = b.tail ∧
      b'.head = if capacity + 1 ≤ b.head + 2 + d.length then 0 else b.head + 2 + d.length := by
  obtain ⟨b', eq, hbuf, htail, hhead⟩ := readFrom_ok short.le h.head_lt space
  refine ⟨b', eq, ?_, htail, hhead⟩
  have len := b.length_buf
  simp only [maxBlockLength, headerLength, maxDatagramLength] at len
  have below := h.head_lt
  have inside : b.head + 2 + d.length ≤ b.buf.length := by omega
  have fits : b.head + (u16Bytes (UInt16.ofNat d.length) ++ d).length ≤ b.buf.length := by
    rw [List.length_append, length_u16Bytes]
    omega
  have block := blocks_splice short below inside
  unfold KeepsApart headerLength at apart
  cases h with
  | straight order _ blocks =>
      have old := blocks.splice_outside fits (.inl le_rfl)
      have all := old.append block
      rw [← hbuf] at all
      by_cases past : capacity + 1 ≤ b.head + 2 + d.length
      · -- `head` goes back to 0; `tail` is not there
        rw [if_pos past] at hhead
        have wrapped : Holds b' ((ds ++ [d]) ++ []) :=
          .wrapped (by omega) (by omega) past (by rw [htail]; exact all)
            (by rw [hhead]; exact .nil 0)
        simpa using wrapped
      · rw [if_neg past] at hhead
        exact .straight (by omega) (by omega) (by rw [htail, hhead]; exact all)
  | @wrapped ds₁ ds₂ e before tailLt past blocks blocks₀ =>
      rw [hasEnoughSpaceFor, if_neg (by omega)] at space
      have room := of_decide_eq_true space
      unfold headerLength at room
      rw [if_neg (by omega)] at hhead
      have upper := blocks.splice_outside fits
        (.inr (by rw [List.length_append, length_u16Bytes]; omega))
      have lower := (blocks₀.splice_outside fits (.inl le_rfl)).append block
      rw [← hbuf] at upper lower
      rw [List.append_assoc]
      exact .wrapped (by omega) (by omega) past (by rw [htail]; exact upper)
        (by rw [hhead]; exact lower)

/-- `write_to` offers the oldest datagram and drops it. -/
theorem writeTo {d : List UInt8} (h : Holds b (d :: ds)) (w : IoResult ℕ) :
    ∃ r b', b.writeTo w = .ok (r, d, b') ∧ Holds b' ds ∧
      (∀ n, w = .ok n → d.length ≤ n → r = .ok ()) ∧ b'.head = b.head ∧
      b'.tail = if capacity + 1 ≤ b.tail + 2 + d.length then 0 else b.tail + 2 + d.length := by
  have nonempty : b.isEmpty = false := by
    rw [← Bool.not_eq_true, h.isEmpty_iff]
    exact List.cons_ne_nil _ _
  generalize hq : d :: ds = q at h
  cases h with
  | straight order below blocks =>
      subst hq
      obtain ⟨r, b', eq, hbuf, hhead, htail, full⟩ := writeTo_block nonempty blocks w
      refine ⟨r, b', eq, ?_, full, hhead, htail⟩
      cases blocks with
      | cons _ _ _ _ _ rest =>
          have := rest.le
          rw [if_neg (by omega)] at htail
          exact .straight (by omega) (by omega) (by rw [hbuf, hhead, htail]; exact rest)
  | @wrapped ds₁ ds₂ e before tailLt past blocks blocks₀ =>
      cases ds₁ with
      | nil =>
          have := blocks.eq_of_nil
          omega
      | cons d' ds₁ =>
          rw [List.cons_append, List.cons.injEq] at hq
          obtain ⟨rfl, rfl⟩ := hq
          obtain ⟨r, b', eq, hbuf, hhead, htail, full⟩ := writeTo_block nonempty blocks w
          refine ⟨r, b', eq, ?_, full, hhead, htail⟩
          cases blocks with
          | cons _ _ _ _ _ rest =>
              cases rest with
              | nil _ =>
                  -- that was the block in the extra space
                  rw [if_pos past] at htail
                  exact .straight (by omega) (by omega)
                    (by rw [hbuf, hhead, htail]; exact blocks₀)
              | cons lo short inside header payload rest =>
                  rw [if_neg (by omega)] at htail
                  exact .wrapped (by omega) (by omega) past
                    (by rw [hbuf, htail]; exact .cons lo short inside header payload rest)
                    (by rw [hbuf, hhead]; exact blocks₀)

end Holds

end DatagramBuffer

/-! ## Runs of the two calls -/

/-- A buffer with the datagrams accepted and the datagrams sent so far. -/
structure DatagramTrace (capacity : ℕ) where
  buffer : DatagramBuffer capacity
  accepted : List (List UInt8)
  sent : List (List UInt8)

namespace DatagramTrace

variable {capacity : ℕ}

/-- The calls of a run: a datagram is offered, or the oldest one is sent. -/
inductive Call
  | readFrom (source : List UInt8)
  | writeTo

/-- One call that returns.  `write_to` is called on a non-empty buffer and its
send succeeds fully, which is when it returns `Ok`. -/
inductive Step : DatagramTrace capacity → Call → DatagramTrace capacity → Prop
  | accepted {s : DatagramTrace capacity} {d : List UInt8} {b' : DatagramBuffer capacity} :
      d.length < 65536 → s.buffer.readFrom d = .ok (.ok (), b') →
      Step s (.readFrom d) ⟨b', s.accepted ++ [d], s.sent⟩
  | refused {s : DatagramTrace capacity} {d : List UInt8} {err : IoError}
      {b' : DatagramBuffer capacity} :
      d.length < 65536 → s.buffer.readFrom d = .ok (.error err, b') →
      Step s (.readFrom d) ⟨b', s.accepted, s.sent⟩
  | sent {s : DatagramTrace capacity} {n : ℕ} {d : List UInt8}
      {b' : DatagramBuffer capacity} :
      s.buffer.isEmpty = false → s.buffer.writeTo (.ok n) = .ok (.ok (), d, b') →
      Step s .writeTo ⟨b', s.accepted, s.sent ++ [d]⟩

/-- A buffer that was just made, before its first call: nothing is accepted and nothing offered. -/
def fresh (capacity : ℕ) : DatagramTrace capacity := ⟨.new capacity, [], []⟩

/-- The runs of one buffer under reads and writes in any order, with what a socket answers each
time. -/
def machine (capacity : ℕ) : Machine (DatagramTrace capacity) Call where
  start s := s = fresh capacity
  step := Step

/-- What a queue promises: the datagrams sent are the oldest accepted ones, in
order and intact, and the buffer is empty iff all of them have been sent. -/
def Fifo (s : DatagramTrace capacity) : Prop :=
  s.sent <+: s.accepted ∧ (s.buffer.isEmpty = true ↔ s.sent = s.accepted)

/-- The call does not send `head` back to a `tail` at `0`. -/
def KeepsApart (s : DatagramTrace capacity) : Call → Prop
  | .readFrom d => s.buffer.KeepsApart d.length
  | .writeTo => True

/-- The buffer holds the accepted datagrams that have not been sent.  It holds as long as no
datagram brings `head` on `tail`. -/
def Inv (s : DatagramTrace capacity) : Prop :=
  ∃ queued, s.buffer.Holds queued ∧ s.accepted = s.sent ++ queued

theorem Inv.fifo {s : DatagramTrace capacity} (inv : Inv s) : Fifo s := by
  obtain ⟨queued, holds, split⟩ := inv
  rw [Fifo, holds.isEmpty_iff, split]
  exact ⟨List.prefix_append _ _, by simp⟩

theorem inv_fresh : Inv (fresh capacity) := ⟨[], .new, rfl⟩

/-- A call that keeps the positions apart moves the queue by one datagram. -/
theorem Inv.step {s s' : DatagramTrace capacity} {call : Call} (inv : Inv s)
    (apart : KeepsApart s call) (step : Step s call s') : Inv s' := by
  obtain ⟨queued, holds, split⟩ := inv
  cases step with
  | @accepted d b' short eq =>
      cases space : s.buffer.hasEnoughSpaceFor d.length with
      | false =>
          rw [DatagramBuffer.readFrom_full short.le space] at eq
          cases eq
      | true =>
          obtain ⟨b₁, eq₁, holds₁, -⟩ := holds.readFrom short space apart
          rw [eq₁] at eq
          cases eq
          exact ⟨_, holds₁, by rw [split, List.append_assoc]⟩
  | @refused d err b' short eq =>
      cases space : s.buffer.hasEnoughSpaceFor d.length with
      | false =>
          rw [DatagramBuffer.readFrom_full short.le space] at eq
          cases eq
          exact ⟨queued, holds, split⟩
      | true =>
          obtain ⟨b₁, eq₁, -⟩ := holds.readFrom short space apart
          rw [eq₁] at eq
          cases eq
  | @sent n d b' nonempty eq =>
      cases queued with
      | nil => simp [holds.isEmpty_iff.mpr rfl] at nonempty
      | cons d₁ rest =>
          obtain ⟨r, b₁, eq₁, holds₁, -⟩ := holds.writeTo (.ok n)
          rw [eq₁] at eq
          cases eq
          exact ⟨rest, holds₁, by simpa using split⟩

/-- The call that is not kept apart makes a non-empty buffer read as empty. -/
theorem not_fifo_of_not_keepsApart {s s' : DatagramTrace capacity} {call : Call}
    (inv : Inv s) (together : ¬ KeepsApart s call) (step : Step s call s') : ¬ Fifo s' := by
  obtain ⟨queued, holds, split⟩ := inv
  cases call with
  | writeTo => exact absurd trivial together
  | readFrom d =>
      rw [KeepsApart, DatagramBuffer.KeepsApart, not_not] at together
      obtain ⟨tailZero, past⟩ := together
      rw [DatagramBuffer.headerLength] at past
      have space : s.buffer.hasEnoughSpaceFor d.length = true := by
        rw [DatagramBuffer.hasEnoughSpaceFor, if_pos (by omega)]
      have short : d.length < 65536 := by cases step <;> assumption
      obtain ⟨b₁, eq₁, -, htail, hhead⟩ :=
        DatagramBuffer.readFrom_ok short.le holds.head_lt space
      rw [if_pos past] at hhead
      cases step with
      | accepted _ eq =>
          rw [eq₁] at eq
          cases eq
          rintro ⟨-, empty⟩
          have all : s.sent = s.accepted ++ [d] :=
            empty.mp (by simp [DatagramBuffer.isEmpty, hhead, htail, tailZero])
          have lengths := congrArg List.length all
          simp only [split, List.length_append, List.length_singleton] at lengths
          omega
      | refused _ eq =>
          rw [eq₁] at eq
          cases eq

/-- No call panics as long as the positions are kept apart. -/
theorem call_returns {s : DatagramTrace capacity} (inv : Inv s) :
    (∀ d : List UInt8, d.length < 65536 → s.buffer.KeepsApart d.length →
      ∃ s', Step s (.readFrom d) s') ∧
    (s.buffer.isEmpty = false → ∃ s', Step s .writeTo s') := by
  obtain ⟨queued, holds, -⟩ := inv
  constructor
  · intro d short apart
    cases space : s.buffer.hasEnoughSpaceFor d.length with
    | false => exact ⟨_, .refused short (DatagramBuffer.readFrom_full short.le space)⟩
    | true =>
        obtain ⟨b', eq, -⟩ := holds.readFrom short space apart
        exact ⟨_, .accepted short eq⟩
  · intro nonempty
    cases queued with
    | nil => simp [holds.isEmpty_iff.mpr rfl] at nonempty
    | cons d rest =>
        obtain ⟨r, b', eq, -, full, -⟩ := holds.writeTo (.ok d.length)
        rw [full _ rfl le_rfl] at eq
        exact ⟨_, .sent nonempty eq⟩

/-- **A run is a queue exactly as long as it keeps the positions apart.**  The
datagrams sent are the accepted ones, in order and intact, and the buffer is
empty iff all have been sent, in every state of the run iff no `read_from` sends
`head` back to a `tail` at `0`. -/
theorem fifo_iff_keepsApart {t : List (DatagramTrace capacity × Call)}
    {s : DatagramTrace capacity} (run : (machine capacity).Run t s) :
    ((∀ p ∈ t, Fifo p.1) ∧ Fifo s) ↔ Machine.Meets KeepsApart t :=
  run.always_iff Inv Fifo (fun _ start => start ▸ inv_fresh)
    (fun _ _ _ inv apart step => inv.step apart step) (fun _ inv => inv.fifo)
    (fun _ _ _ inv together step => not_fifo_of_not_keepsApart inv together step)

/-- At capacity 9 the second datagram sends `head` back to `0`, and the third is stored in front of
it; the first two are sent. -/
theorem fifo_iff_keepsApart_wrapped :
    ∃ t s, (machine 9).Run t s ∧ t.map Prod.snd = [.readFrom [1, 2, 3], .writeTo,
        .readFrom [4, 5, 6], .readFrom [7], .writeTo] ∧ s.accepted = [[1, 2, 3], [4, 5, 6], [7]] ∧
      s.sent = [[1, 2, 3], [4, 5, 6]] ∧ (∀ p ∈ t, Fifo p.1) ∧ Fifo s := by
  have apart₁ : (DatagramBuffer.new 9).KeepsApart [(1 : UInt8), 2, 3].length := by decide
  obtain ⟨b₁, eq₁, holds₁, tail₁, head₁⟩ :=
    (@DatagramBuffer.Holds.new 9).readFrom (d := [1, 2, 3]) (by decide) (by decide) apart₁
  replace tail₁ : b₁.tail = 0 := tail₁
  replace head₁ : b₁.head = 5 := head₁
  have nonempty₁ : b₁.isEmpty = false := by
    rw [DatagramBuffer.isEmpty, tail₁, head₁]
    decide
  obtain ⟨r₂, b₂, eq₂, holds₂, full₂, head₂, tail₂⟩ := holds₁.writeTo (.ok 3)
  cases full₂ 3 rfl (by decide)
  replace head₂ : b₂.head = 5 := head₂.trans head₁
  replace tail₂ : b₂.tail = 5 := by
    rw [tail₂, tail₁]
    decide
  have apart₃ : b₂.KeepsApart [(4 : UInt8), 5, 6].length := by
    rw [DatagramBuffer.KeepsApart, tail₂, head₂]
    decide
  obtain ⟨b₃, eq₃, holds₃, tail₃, head₃⟩ := holds₂.readFrom (d := [4, 5, 6]) (by decide)
    (by rw [DatagramBuffer.hasEnoughSpaceFor, tail₂, head₂]; decide) apart₃
  replace tail₃ : b₃.tail = 5 := tail₃.trans tail₂
  replace head₃ : b₃.head = 0 := by
    rw [head₃, head₂]
    decide
  have apart₄ : b₃.KeepsApart [(7 : UInt8)].length := by
    rw [DatagramBuffer.KeepsApart, tail₃, head₃]
    decide
  obtain ⟨b₄, eq₄, holds₄, tail₄, head₄⟩ := holds₃.readFrom (d := [7]) (by decide)
    (by rw [DatagramBuffer.hasEnoughSpaceFor, tail₃, head₃]; decide) apart₄
  replace tail₄ : b₄.tail = 5 := tail₄.trans tail₃
  replace head₄ : b₄.head = 3 := by
    rw [head₄, head₃]
    decide
  have nonempty₄ : b₄.isEmpty = false := by
    rw [DatagramBuffer.isEmpty, tail₄, head₄]
    decide
  obtain ⟨r₅, b₅, eq₅, holds₅, full₅, -⟩ := holds₄.writeTo (.ok 3)
  cases full₅ 3 rfl (by decide)
  have run₁ := (Machine.Run.start (M := machine 9) rfl).step (Step.accepted (by decide) eq₁)
  have run₃ := (run₁.step (Step.sent nonempty₁ eq₂)).step (Step.accepted (by decide) eq₃)
  have run₅ := (run₃.step (Step.accepted (by decide) eq₄)).step (Step.sent nonempty₄ eq₅)
  refine ⟨_, _, run₅, rfl, rfl, rfl, (fifo_iff_keepsApart run₅).mpr ?_⟩
  simp only [Machine.meets_append, Machine.meets_singleton, Machine.meets_nil, true_and]
  exact ⟨⟨⟨⟨apart₁, trivial⟩, apart₃⟩, apart₄⟩, trivial⟩

/-- Eight bytes into a fresh buffer of capacity 9 are stored and forgotten: the block is 10 bytes
long, so `head` comes back to `0`.  With `head` on `tail` the buffer looks empty, and its reader
will never come to them. -/
theorem not_fifo_eight_bytes :
    ¬ ∀ (capacity : ℕ) (t : List (DatagramTrace capacity × Call)) (s : DatagramTrace capacity),
      (machine capacity).Run t s → Fifo s := by
  intro claim
  have short : ([1, 2, 3, 4, 5, 6, 7, 8] : List UInt8).length < 65536 := by decide
  obtain ⟨b', eq, -⟩ := DatagramBuffer.readFrom_ok (b := .new 9) short.le (by decide) (by decide)
  have step : Step (fresh 9) (.readFrom [1, 2, 3, 4, 5, 6, 7, 8])
      ⟨b', [] ++ [[1, 2, 3, 4, 5, 6, 7, 8]], []⟩ := .accepted short eq
  refine not_fifo_of_not_keepsApart inv_fresh ?_ step (claim 9 _ _ (.step (.start rfl) step))
  rw [KeepsApart]
  decide

end DatagramTrace

end ReverseTether
