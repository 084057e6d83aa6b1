import ReverseTether.DatagramQueue

/-!
# The framing of `DatagramBuffer`

The buffer keeps no index of its blocks: `write_to` takes whatever two bytes it
finds at `tail` for a length.  `DatagramFraming` runs the two calls on every
slice the assertion of `read_from` admits and on every answer of the
destination, and records beside the buffer where `read_from` has put the headers
of the datagrams still stored.  `Framed` is what the buffer rests on: following
the lengths found in `buf` from `tail` visits exactly these headers and lands on
`head`, and no slice leaves `buf`.

The assertion admits `MAX_DATAGRAM_LENGTH = 1 << 16`, one more than the header
can say: `length as u16` is `0` there, and the header promises an empty block in
front of 65536 bytes.  `KeepsFraming` says when this does not matter, and
`framed_iff_keepsFraming` that a run stays framed exactly as long as it does not.

The datagrams that are stored are those of `Holds`; a truncated block that does
no harm holds the empty datagram there.  `Placed` says where the headers of such
a list are, and is the link between the recorded positions and the layout.
-/

namespace ReverseTether

open Library

namespace DatagramBuffer

variable {capacity : ℕ}

/-! ## Following the headers -/

/-- Where the block behind one that ends at `i` starts. -/
def wrap (limit i : ℕ) : ℕ := if limit ≤ i then 0 else i

theorem wrap_of_lt {limit i : ℕ} (below : i < limit) : wrap limit i = i :=
  if_neg (not_le.mpr below)

theorem wrap_of_le {limit i : ℕ} (past : limit ≤ i) : wrap limit i = 0 := if_pos past

/-- `Headers limit buf i starts j`: following the lengths found in `buf` from the
header at `i` visits the headers at `starts` and lands on `j`.  Each header and
the payload behind it are inside `buf`. -/
inductive Headers (limit : ℕ) (buf : List UInt8) : ℕ → List ℕ → ℕ → Prop
  | nil (i : ℕ) : Headers limit buf i [] i
  | cons {i j : ℕ} {starts : List ℕ} :
      i + 2 + (getU16 buf i).toNat ≤ buf.length →
      Headers limit buf (wrap limit (i + 2 + (getU16 buf i).toNat)) starts j →
      Headers limit buf i (i :: starts) j

/-- The walk lands behind the block of its last header. -/
theorem Headers.last {limit i j k : ℕ} {buf : List UInt8} {starts : List ℕ}
    (h : Headers limit buf i (starts ++ [k]) j) :
    j = wrap limit (k + 2 + (getU16 buf k).toNat) := by
  induction starts generalizing i with
  | nil =>
      cases h with
      | cons _ rest =>
          cases rest with
          | nil _ => rfl
  | cons start starts ih =>
      cases h with
      | cons _ rest => exact ih rest

/-- `Placed limit i ds starts j`: the datagrams `ds`, put one behind the other
from position `i`, have their headers at `starts`, and the next header goes to
`j`. -/
inductive Placed (limit : ℕ) : ℕ → List (List UInt8) → List ℕ → ℕ → Prop
  | nil (i : ℕ) : Placed limit i [] [] i
  | cons {i j : ℕ} {d : List UInt8} {ds : List (List UInt8)} {starts : List ℕ} :
      Placed limit (wrap limit (i + 2 + d.length)) ds starts j →
      Placed limit i (d :: ds) (i :: starts) j

/-- One more datagram has its header where the others end. -/
theorem Placed.concat {limit i j : ℕ} {d : List UInt8} {ds : List (List UInt8)}
    {starts : List ℕ} (h : Placed limit i ds starts j) :
    Placed limit i (ds ++ [d]) (starts ++ [j]) (wrap limit (j + 2 + d.length)) := by
  induction h with
  | nil i => exact .cons (.nil _)
  | cons _ ih => exact .cons ih

theorem Placed.eq_nil_iff {limit i j : ℕ} {ds : List (List UInt8)} {starts : List ℕ}
    (h : Placed limit i ds starts j) : ds = [] ↔ starts = [] := by
  cases h <;> simp

/-- The lengths found in a layout are those of its datagrams. -/
theorem Blocks.headers {limit i e j : ℕ} {buf : List UInt8} {ds ds' : List (List UInt8)}
    {starts : List ℕ} (blocks : Blocks limit buf i ds e)
    (placed : Placed limit (wrap limit i) (ds ++ ds') starts j)
    (rest : ∀ {starts'}, Placed limit (wrap limit e) ds' starts' j →
      Headers limit buf (wrap limit e) starts' j) :
    Headers limit buf (wrap limit i) starts j := by
  induction blocks generalizing starts with
  | nil i => exact rest placed
  | @cons i e d ds below short inside header payload blocks ih =>
      have value : (getU16 buf i).toNat = d.length := by
        rw [header, UInt16.toNat_ofNat', Nat.mod_eq_of_lt (by omega)]
      rw [wrap_of_lt below] at placed ⊢
      cases placed with
      | cons placed =>
          apply Headers.cons
          · rw [value]
            exact inside
          · rw [value]
            exact ih placed rest

namespace Holds

variable {b : DatagramBuffer capacity} {ds : List (List UInt8)}

/-- The headers of the stored datagrams lead from `tail` to `head`. -/
theorem headers {starts : List ℕ} (h : Holds b ds)
    (placed : Placed (capacity + 1) b.tail ds starts b.head) :
    Headers (capacity + 1) b.buf b.tail starts b.head := by
  have landed {starts' : List ℕ} (here : Placed (capacity + 1) b.head [] starts' b.head) :
      Headers (capacity + 1) b.buf b.head starts' b.head := by
    cases here with
    | nil _ => exact .nil _
  cases h with
  | straight order below blocks =>
      have walk := @Blocks.headers _ _ _ b.head _ _ [] starts blocks
      rw [wrap_of_lt below, wrap_of_lt (by omega), List.append_nil] at walk
      exact walk placed landed
  | @wrapped ds₁ ds₂ e before below past blocks blocks₀ =>
      have walk := @Blocks.headers _ _ _ b.head _ _ ds₂ starts blocks
      rw [wrap_of_lt below, wrap_of_le past] at walk
      refine walk placed fun {starts'} placed₀ => ?_
      have walk₀ := @Blocks.headers _ _ _ b.head _ _ [] starts' blocks₀
      rw [wrap_of_lt (Nat.succ_pos _), wrap_of_lt (by omega), List.append_nil] at walk₀
      exact walk₀ placed₀ landed

/-- A stored datagram leaves the buffer empty only by sending `head` back to a
`tail` at `0`. -/
theorem isEmpty_readFrom {b' : DatagramBuffer capacity} {d : List UInt8} (h : Holds b ds)
    (space : b.hasEnoughSpaceFor d.length = true) (htail : b'.tail = b.tail)
    (hhead : b'.head = wrap (capacity + 1) (b.head + 2 + d.length)) :
    b'.isEmpty = true ↔ ¬ b.KeepsApart d.length := by
  rw [isEmpty, decide_eq_true_iff, KeepsApart, not_not, headerLength, htail, hhead]
  cases h with
  | straight order _ _ =>
      by_cases past : capacity + 1 ≤ b.head + 2 + d.length
      · rw [wrap_of_le past]
        exact ⟨fun same => ⟨same.symm, past⟩, fun together => together.1.symm⟩
      · rw [wrap_of_lt (by omega)]
        exact ⟨fun same => by omega, fun together => absurd together.2 past⟩
  | wrapped before below _ _ _ =>
      rw [hasEnoughSpaceFor, if_neg (by omega)] at space
      have room := of_decide_eq_true space
      rw [headerLength] at room
      rw [wrap_of_lt (by omega)]
      exact ⟨fun same => by omega, fun together => by omega⟩

end Holds

/-! ## The header that says `0` -/

/-- The call puts a true header in front of its datagram, or one that nobody
follows: the datagram is refused, or the two bytes of the header already end at
`circularBufferLength`, so that `head` goes to `0` as an empty block would send
it, or `head` goes back to a `tail` at `0` and the buffer is empty. -/
def KeepsFraming (b : DatagramBuffer capacity) (datagramLength : ℕ) : Prop :=
  datagramLength < 65536 ∨ b.hasEnoughSpaceFor datagramLength = false ∨
    capacity + 1 ≤ b.head + headerLength ∨ ¬ b.KeepsApart datagramLength

instance (b : DatagramBuffer capacity) (datagramLength : ℕ) :
    Decidable (b.KeepsFraming datagramLength) :=
  inferInstanceAs (Decidable (_ ∨ _))

theorem ofNat_longest {d : List UInt8} (longest : d.length = 65536) :
    UInt16.ofNat d.length = 0 := by
  rw [longest]
  decide

/-- The longest slice is laid out as the block of an empty datagram with bytes
behind it that belong to no block. -/
theorem blocks_splice_longest {limit i : ℕ} {buf d : List UInt8} (longest : d.length = 65536)
    (below : i < limit) (fits : i + 2 + d.length ≤ buf.length) :
    Blocks limit (splice buf i (u16Bytes (UInt16.ofNat d.length) ++ d)) i [[]] (i + 2) := by
  have header : Blocks limit (splice buf i (u16Bytes 0)) i [[]] (i + 2) :=
    blocks_splice (d := []) (by simp) below (by simp; omega)
  have joined : splice (splice buf i (u16Bytes 0)) (i + 2) d = splice buf i (u16Bytes 0 ++ d) :=
    splice_splice_adjacent (by rw [length_u16Bytes]; omega)
  rw [ofNat_longest longest, ← joined]
  refine header.splice_outside ?_ (.inl le_rfl)
  rw [length_splice (by rw [length_u16Bytes]; omega)]
  exact fits

namespace Holds

variable {b : DatagramBuffer capacity} {ds : List (List UInt8)}

/-- The longest slice is stored as an empty datagram where its header ends at
`circularBufferLength`. -/
theorem readFrom_longest {d : List UInt8} (h : Holds b ds) (longest : d.length = 65536)
    (space : b.hasEnoughSpaceFor d.length = true) (past : capacity + 1 ≤ b.head + 2)
    (apart : b.KeepsApart d.length) :
    ∃ b', b.readFrom d = .ok (.ok (), b') ∧ b'.tail = b.tail ∧ b'.head = 0 ∧
      Holds b' (ds ++ [[]]) := by
  obtain ⟨b', eq, hbuf, htail, hhead⟩ := readFrom_ok longest.le h.head_lt space
  rw [if_pos (by omega)] at hhead
  refine ⟨b', eq, htail, hhead, ?_⟩
  have len := b.length_buf
  simp only [maxBlockLength, headerLength, maxDatagramLength] at len
  have below := h.head_lt
  have inside : b.head + 2 + d.length ≤ b.buf.length := by omega
  have fits : b.head + (u16Bytes (UInt16.ofNat d.length) ++ d).length ≤ b.buf.length := by
    rw [List.length_append, length_u16Bytes]
    omega
  rw [KeepsApart, headerLength] at apart
  cases h with
  | straight order _ blocks =>
      have all := (blocks.splice_outside fits (.inl le_rfl)).append
        (blocks_splice_longest longest below inside)
      rw [← hbuf] at all
      have wrapped : Holds b' ((ds ++ [[]]) ++ []) :=
        .wrapped (by omega) (by omega) past (by rw [htail]; exact all)
          (by rw [hhead]; exact .nil 0)
      rwa [List.append_nil] at wrapped
  | wrapped before below _ _ _ =>
      -- there is no room between `head` and a `tail` just behind it
      rw [hasEnoughSpaceFor, if_neg (by omega)] at space
      have room := of_decide_eq_true space
      omega

/-- A datagram stored with its framing kept is one more block, whose header is
where `head` was. -/
theorem readFrom_placed {d : List UInt8} {starts : List ℕ} (h : Holds b ds)
    (placed : Placed (capacity + 1) b.tail ds starts b.head)
    (admitted : d.length ≤ maxDatagramLength) (space : b.hasEnoughSpaceFor d.length = true)
    (keeps : b.KeepsFraming d.length) (apart : b.KeepsApart d.length) :
    ∃ b' d', b.readFrom d = .ok (.ok (), b') ∧ Holds b' (ds ++ [d']) ∧
      Placed (capacity + 1) b'.tail (ds ++ [d']) (starts ++ [b.head]) b'.head := by
  rcases lt_or_eq_of_le admitted with short | longest
  · obtain ⟨b', eq, holds, -⟩ := h.readFrom short space apart
    obtain ⟨b₁, eq₁, -, htail, hhead⟩ := readFrom_ok admitted h.head_lt space
    rw [eq] at eq₁
    cases eq₁
    refine ⟨b', d, eq, holds, ?_⟩
    rw [htail, hhead]
    exact placed.concat
  · have past : capacity + 1 ≤ b.head + 2 := by
      rcases keeps with short | full | past | together
      · exact absurd longest short.ne
      · rw [full] at space
        cases space
      · exact past
      · exact absurd apart together
    obtain ⟨b', eq, htail, hhead, holds⟩ := h.readFrom_longest longest space past apart
    refine ⟨b', [], eq, holds, ?_⟩
    rw [htail, hhead, ← wrap_of_le past]
    exact placed.concat

/-- Sending `head` back to a `tail` at `0` leaves an empty buffer. -/
theorem readFrom_together {d : List UInt8} (h : Holds b ds)
    (admitted : d.length ≤ maxDatagramLength) (together : ¬ b.KeepsApart d.length) :
    ∃ b', b.readFrom d = .ok (.ok (), b') ∧ b'.tail = 0 ∧ b'.head = 0 ∧ Holds b' [] := by
  rw [KeepsApart, not_not, headerLength] at together
  obtain ⟨tailZero, past⟩ := together
  have space : b.hasEnoughSpaceFor d.length = true := by
    rw [hasEnoughSpaceFor, if_pos (by omega)]
  obtain ⟨b', eq, -, htail, hhead⟩ := readFrom_ok admitted h.head_lt space
  rw [if_pos past] at hhead
  refine ⟨b', eq, htail.trans tailZero, hhead, .straight (by omega) (by omega) ?_⟩
  rw [htail, tailZero, hhead]
  exact .nil 0

/-- The oldest datagram is laid out at `tail`. -/
theorem first {d : List UInt8} (h : Holds b (d :: ds)) :
    ∃ ds' j, Blocks (capacity + 1) b.buf b.tail (d :: ds') j := by
  generalize hq : d :: ds = q at h
  cases h with
  | straight _ _ blocks =>
      subst hq
      exact ⟨_, _, blocks⟩
  | @wrapped ds₁ _ _ before below past blocks _ =>
      cases ds₁ with
      | nil =>
          have := blocks.eq_of_nil
          omega
      | cons d' ds₁ =>
          rw [List.cons_append, List.cons.injEq] at hq
          obtain ⟨rfl, -⟩ := hq
          exact ⟨_, _, blocks⟩

/-- `write_to` takes the first header off and moves `tail` to the next one. -/
theorem writeTo_placed {d : List UInt8} {starts : List ℕ} (h : Holds b (d :: ds))
    (placed : Placed (capacity + 1) b.tail (d :: ds) starts b.head) (w : IoResult ℕ) :
    ∃ r b', b.writeTo w = .ok (r, d, b') ∧ Holds b' ds ∧
      Placed (capacity + 1) b'.tail ds starts.tail b'.head := by
  have nonempty : b.isEmpty = false := by
    rw [← Bool.not_eq_true, h.isEmpty_iff]
    exact List.cons_ne_nil _ _
  obtain ⟨ds', j, blocks⟩ := h.first
  obtain ⟨r, b', eq, -, hhead, htail, -⟩ := writeTo_block nonempty blocks w
  obtain ⟨r₁, b₁, eq₁, holds, -⟩ := h.writeTo w
  rw [eq] at eq₁
  cases eq₁
  refine ⟨r, b', eq, holds, ?_⟩
  rw [hhead, htail]
  cases placed with
  | cons placed => exact placed

end Holds

end DatagramBuffer

/-! ## Runs of the two calls -/

/-- A buffer with the positions of the headers `read_from` has put in front of
the datagrams still stored, oldest first. -/
structure DatagramFraming (capacity : ℕ) where
  buffer : DatagramBuffer capacity
  headers : List ℕ

namespace DatagramFraming

open DatagramBuffer

variable {capacity : ℕ}

/-- The calls of a run: any slice, and any answer of the destination. -/
inductive Call
  | readFrom (source : List UInt8)
  | writeTo (sent : IoResult ℕ)

/-- One call that returns.  `read_from` puts a header at `head`; if `head` then
meets `tail`, nothing is stored between them any more.  `write_to` is called on a
non-empty buffer and takes the oldest datagram out, sent or not. -/
inductive Step : DatagramFraming capacity → Call → DatagramFraming capacity → Prop
  | stored {s : DatagramFraming capacity} {d : List UInt8} {b' : DatagramBuffer capacity} :
      d.length ≤ maxDatagramLength → s.buffer.readFrom d = .ok (.ok (), b') →
      Step s (.readFrom d) ⟨b', if b'.isEmpty then [] else s.headers ++ [s.buffer.head]⟩
  | refused {s : DatagramFraming capacity} {d : List UInt8} {err : IoError}
      {b' : DatagramBuffer capacity} :
      d.length ≤ maxDatagramLength → s.buffer.readFrom d = .ok (.error err, b') →
      Step s (.readFrom d) ⟨b', s.headers⟩
  | sent {s : DatagramFraming capacity} {w : IoResult ℕ} {r : IoResult Unit} {d : List UInt8}
      {b' : DatagramBuffer capacity} :
      s.buffer.isEmpty = false → s.buffer.writeTo w = .ok (r, d, b') →
      Step s (.writeTo w) ⟨b', s.headers.tail⟩

/-- A buffer that was just made: no datagram has been accepted yet. -/
def fresh (capacity : ℕ) : DatagramFraming capacity := ⟨.new capacity, []⟩

/-- The runs of one buffer under the calls of its owner, in any order. -/
def machine (capacity : ℕ) : Machine (DatagramFraming capacity) Call where
  start s := s = fresh capacity
  step := Step

/-- The framing is intact: the headers lead from the oldest datagram to the newest, and whatever is
stored or sent next stays inside the buffer. -/
structure Framed (s : DatagramFraming capacity) : Prop where
  /-- `tail` is on the oldest header, the lengths lead from there through every
  header to `head`, and headers and payloads are inside `buf`. -/
  follows : Headers (capacity + 1) s.buffer.buf s.buffer.tail s.headers s.buffer.head
  /-- A buffer that is not empty has a header at `tail`. -/
  empty : s.buffer.isEmpty = true ↔ s.headers = []
  /-- No slice `read_from` writes leaves `buf`. -/
  stores : ∀ d : List UInt8, d.length ≤ maxDatagramLength →
    ∃ r b', s.buffer.readFrom d = .ok (r, b')
  /-- No slice `write_to` reads leaves `buf`. -/
  sends : s.buffer.isEmpty = false → ∀ w, ∃ r d b', s.buffer.writeTo w = .ok (r, d, b')

/-- The call does not put a header that says `0` in front of 65536 bytes where
it will be followed. -/
def KeepsFraming (s : DatagramFraming capacity) : Call → Prop
  | .readFrom d => s.buffer.KeepsFraming d.length
  | .writeTo _ => True

/-- The recorded headers are those of a list of datagrams the buffer holds. -/
def Inv (s : DatagramFraming capacity) : Prop :=
  ∃ ds, s.buffer.Holds ds ∧
    Placed (capacity + 1) s.buffer.tail ds s.headers s.buffer.head

theorem inv_fresh : Inv (fresh capacity) := ⟨[], .new, .nil 0⟩

theorem Inv.framed {s : DatagramFraming capacity} (inv : Inv s) : Framed s := by
  obtain ⟨ds, holds, placed⟩ := inv
  constructor
  · exact holds.headers placed
  · rw [holds.isEmpty_iff]
    exact placed.eq_nil_iff
  · intro d admitted
    cases space : s.buffer.hasEnoughSpaceFor d.length with
    | false => exact ⟨_, _, readFrom_full admitted space⟩
    | true =>
        obtain ⟨b', eq, -⟩ := readFrom_ok admitted holds.head_lt space
        exact ⟨_, _, eq⟩
  · intro nonempty w
    cases ds with
    | nil => simp [holds.isEmpty_iff.mpr rfl] at nonempty
    | cons d ds =>
        obtain ⟨r, b', eq, -⟩ := holds.writeTo_placed placed w
        exact ⟨_, _, _, eq⟩

/-- A call that keeps the framing adds one header, drops one or changes none. -/
theorem Inv.step {s s' : DatagramFraming capacity} {call : Call} (inv : Inv s)
    (keeps : KeepsFraming s call) (step : Step s call s') : Inv s' := by
  obtain ⟨ds, holds, placed⟩ := inv
  cases step with
  | @stored d b' admitted eq =>
      cases space : s.buffer.hasEnoughSpaceFor d.length with
      | false =>
          rw [readFrom_full admitted space] at eq
          cases eq
      | true =>
          by_cases apart : s.buffer.KeepsApart d.length
          · obtain ⟨b₁, d', eq₁, holds₁, placed₁⟩ :=
              holds.readFrom_placed placed admitted space keeps apart
            rw [eq₁] at eq
            cases eq
            have nonempty : ¬ b'.isEmpty = true := by
              rw [holds₁.isEmpty_iff]
              simp
            exact ⟨_, holds₁, by rw [if_neg nonempty]; exact placed₁⟩
          · obtain ⟨b₁, eq₁, htail, hhead, holds₁⟩ := holds.readFrom_together admitted apart
            rw [eq₁] at eq
            cases eq
            refine ⟨[], holds₁, ?_⟩
            rw [if_pos (holds₁.isEmpty_iff.mpr rfl), htail, hhead]
            exact .nil 0
  | @refused d err b' admitted eq =>
      cases space : s.buffer.hasEnoughSpaceFor d.length with
      | false =>
          rw [readFrom_full admitted space] at eq
          cases eq
          exact ⟨ds, holds, placed⟩
      | true =>
          obtain ⟨b₁, eq₁, -⟩ := readFrom_ok admitted holds.head_lt space
          rw [eq₁] at eq
          cases eq
  | @sent w r d b' nonempty eq =>
      cases ds with
      | nil => simp [holds.isEmpty_iff.mpr rfl] at nonempty
      | cons d₁ ds =>
          obtain ⟨r₁, b₁, eq₁, holds₁, placed₁⟩ := holds.writeTo_placed placed w
          rw [eq₁] at eq
          cases eq
          exact ⟨ds, holds₁, placed₁⟩

/-- A header that says `0` in front of 65536 bytes does not lead to `head`. -/
theorem not_framed_of_not_keepsFraming {s s' : DatagramFraming capacity} {call : Call}
    (inv : Inv s) (breaks : ¬ KeepsFraming s call) (step : Step s call s') : ¬ Framed s' := by
  obtain ⟨ds, holds, -⟩ := inv
  cases call with
  | writeTo w => exact absurd trivial breaks
  | readFrom d =>
      simp only [KeepsFraming, DatagramBuffer.KeepsFraming, not_or, not_not, not_lt, not_le,
        Bool.not_eq_false, headerLength] at breaks
      obtain ⟨long, space, inside, apart⟩ := breaks
      have admitted : d.length ≤ maxDatagramLength := by cases step <;> assumption
      have longest : d.length = 65536 := le_antisymm admitted long
      have below := holds.head_lt
      obtain ⟨b₁, eq₁, hbuf, htail, hhead⟩ := readFrom_ok admitted below space
      cases step with
      | refused _ eq =>
          rw [eq₁] at eq
          cases eq
      | stored _ eq =>
          rw [eq₁] at eq
          cases eq
          intro framed
          have nonempty : ¬ b₁.isEmpty = true := by
            rw [holds.isEmpty_readFrom space htail hhead, not_not]
            exact apart
          have walk := framed.follows
          rw [if_neg nonempty] at walk
          have len := s.buffer.length_buf
          simp only [maxBlockLength, headerLength, maxDatagramLength] at len
          have header : (getU16 b₁.buf s.buffer.head).toNat = 0 := by
            rw [hbuf, getU16_block (by omega), ofNat_longest longest]
            rfl
          -- the walk ends right behind the header, `head` does not
          have landed : b₁.head = _ := walk.last
          rw [header, Nat.add_zero, wrap_of_lt inside, hhead] at landed
          split at landed <;> omega

/-- **A run stays framed exactly as long as no header that says `0` in front of 65536 bytes is
followed.**  The header has sixteen bits, and the assertion in front of it admits one length too
many.  Until such a header is followed, the reader stands where a block begins, which is what the
invariant says. -/
theorem framed_iff_keepsFraming {t : List (DatagramFraming capacity × Call)}
    {s : DatagramFraming capacity} (run : (machine capacity).Run t s) :
    ((∀ p ∈ t, Framed p.1) ∧ Framed s) ↔ Machine.Meets KeepsFraming t :=
  run.always_iff Inv Framed (fun _ start => start ▸ inv_fresh)
    (fun _ _ _ inv keeps step => inv.step keeps step) (fun _ inv => inv.framed)
    (fun _ _ _ inv breaks step => not_framed_of_not_keepsFraming inv breaks step)

/-- Three bytes into a fresh buffer of capacity 9, sent to a destination that
fails. -/
theorem framed_iff_keepsFraming_three_bytes :
    ∃ t s, (machine 9).Run t s ∧ t.length = 2 ∧ (∀ p ∈ t, Framed p.1) ∧ Framed s := by
  have admitted : ([1, 2, 3] : List UInt8).length ≤ maxDatagramLength := by decide
  have keeps : KeepsFraming (fresh 9) (.readFrom [1, 2, 3]) := by
    rw [KeepsFraming]
    decide
  obtain ⟨b, eq, -, htail, hhead⟩ := readFrom_ok (b := .new 9) admitted (by decide) (by decide)
  have stored : Step (fresh 9) (.readFrom [1, 2, 3]) _ := .stored admitted eq
  have nonempty : b.isEmpty = false := by
    rw [isEmpty, htail, hhead]
    rfl
  obtain ⟨r, d, b', sent⟩ := (inv_fresh.step keeps stored).framed.sends nonempty (.error .other)
  have run : (machine 9).Run [(fresh 9, .readFrom [1, 2, 3]),
      (⟨b, if b.isEmpty then [] else [] ++ [0]⟩, .writeTo (.error .other))] _ :=
    Machine.Run.step (Machine.Run.step (.start rfl) stored) (.sent nonempty sent)
  refine ⟨_, _, run, rfl, (framed_iff_keepsFraming run).mpr ?_⟩
  intro p hp
  rcases List.mem_pair.mp hp with rfl | rfl
  · exact keeps
  · exact trivial

/-- The longest slice into a fresh buffer of the capacity UDP connections use is
sent as an empty datagram, and leaves `tail` two bytes behind the header that was
there, on the first byte of the slice. -/
theorem not_framed_longest_datagram :
    ¬ ∀ (capacity : ℕ) (t : List (DatagramFraming capacity × Call))
      (s : DatagramFraming capacity), (machine capacity).Run t s → Framed s := by
  intro claim
  have longest : (List.replicate 65536 (255 : UInt8)).length = 65536 := List.length_replicate
  generalize List.replicate 65536 (255 : UInt8) = d at longest
  have below : (DatagramBuffer.new 262144).head < 262144 + 1 := Nat.succ_pos _
  obtain ⟨b, eq, hbuf, htail, hhead⟩ := readFrom_ok longest.le below (if_pos le_rfl)
  have htail : b.tail = 0 := htail
  have hhead : b.head = 65538 := by
    rw [hhead, longest]
    simp [DatagramBuffer.new]
  have nonempty : b.isEmpty = false := by
    rw [isEmpty, htail, hhead]
    rfl
  have block : Blocks (262144 + 1) b.buf b.tail [[]] 2 := by
    rw [hbuf, htail]
    refine blocks_splice_longest longest below ?_
    rw [DatagramBuffer.length_buf, longest]
    simp only [DatagramBuffer.new, maxBlockLength, headerLength, maxDatagramLength]
    omega
  obtain ⟨r, b', sent, -, hhead', htail', -⟩ := writeTo_block nonempty block (.ok 0)
  rw [htail] at htail'
  have htail' : b'.tail = 2 := htail'
  have stored : Step (fresh 262144) (.readFrom d) _ := .stored longest.le eq
  have framed := claim 262144 _ _ (.step (.step (.start rfl) stored) (.sent nonempty sent))
  have walk := framed.follows
  simp only [nonempty, Bool.false_eq_true, if_false, htail', hhead', hhead] at walk
  cases walk

end DatagramFraming

end ReverseTether
