import Mathlib.Tactic

/-!
# Decoding a stream by its front

A stream is decoded by looking at its front: the front is incomplete, or it is an
item of a known length, or it stops the decoding.  A `Framing` is such a front
whose answer, once given, does not change when more arrives behind it.

`decode` repeats the front on what is left.  `decode_append` is the law that
matters to a program that receives the stream in pieces: what it decodes from
the pieces, keeping the undecoded rest in between, is what it would decode from
the whole.

The condition on a front is monotony: what is decided of a prefix stays decided when more is
appended.  It excludes formats that look at the end of the input, and it is what makes the
pieces in which a stream arrives irrelevant.

A front that stops the decoding gives a last item, and nothing behind it is looked at.  Length
rules are the special case in which the front has no item but its own length; two rules can
then be compared by the lengths alone (`cut_congr`).
-/

namespace ReverseTether.Library

/-- What the front of a stream of `α` amounts to: too little to tell, an item with its length, or
something that ends the decoding. -/
inductive Front (β : Type*)
  | incomplete
  /-- An item that takes `length` elements. -/
  | item (b : β) (length : ℕ)
  /-- Nothing behind this is decoded. -/
  | stop (b : β)

/-- A front that looks no further than it has to: what it takes for an item, or for the end, stays
one when more follows. -/
structure Framing (α β : Type*) where
  front : List α → Front β
  item_pos : ∀ {xs b n}, front xs = .item b n → 0 < n
  item_le : ∀ {xs b n}, front xs = .item b n → n ≤ xs.length
  item_append : ∀ {xs b n}, front xs = .item b n → ∀ ys, front (xs ++ ys) = .item b n
  stop_append : ∀ {xs b}, front xs = .stop b → ∀ ys, front (xs ++ ys) = .stop b

/-- The items of a stream, what is left undecoded, and whether it was stopped. -/
structure Decoded (α β : Type*) where
  items : List β
  rest : List α
  stopped : Bool

namespace Framing

variable {α β : Type*} (F : Framing α β)

/-- Take items off the front for as long as there are some. -/
def decode (xs : List α) : Decoded α β :=
  match _h : F.front xs with
  | .incomplete => ⟨[], xs, false⟩
  | .stop b => ⟨[b], xs, true⟩
  | .item b n =>
      let d := decode (xs.drop n)
      ⟨b :: d.items, d.rest, d.stopped⟩
termination_by xs.length
decreasing_by
  have pos := F.item_pos _h
  have le := F.item_le _h
  rw [List.length_drop]
  omega

variable {F} {xs : List α} {b : β} {n : ℕ}

theorem decode_of_incomplete (h : F.front xs = .incomplete) : F.decode xs = ⟨[], xs, false⟩ := by
  rw [decode]
  split <;> simp_all

theorem decode_of_stop (h : F.front xs = .stop b) : F.decode xs = ⟨[b], xs, true⟩ := by
  rw [decode]
  split <;> simp_all

theorem decode_of_item (h : F.front xs = .item b n) :
    F.decode xs = ⟨b :: (F.decode (xs.drop n)).items, (F.decode (xs.drop n)).rest,
      (F.decode (xs.drop n)).stopped⟩ := by
  rw [decode]
  split <;> simp_all

/-- The rest of a decoding that was not stopped is an incomplete front. -/
theorem front_rest (xs : List α) (on : (F.decode xs).stopped = false) :
    F.front (F.decode xs).rest = .incomplete := by
  induction xs using decode.induct F with
  | case1 xs h => rwa [decode_of_incomplete h]
  | case2 xs b h =>
      rw [decode_of_stop h] at on
      cases on
  | case3 xs b n h ih =>
      rw [decode_of_item h] at on ⊢
      exact ih on

/-- Every item that is decoded is that of a front. -/
theorem front_of_mem (mem : b ∈ (F.decode xs).items) :
    ∃ ys, F.front ys = .stop b ∨ ∃ n, F.front ys = .item b n := by
  induction xs using decode.induct F with
  | case1 xs h =>
      rw [decode_of_incomplete h] at mem
      cases mem
  | case2 xs b' h =>
      rw [decode_of_stop h, List.mem_singleton] at mem
      exact ⟨xs, .inl (mem ▸ h)⟩
  | case3 xs b' n h ih =>
      rw [decode_of_item h, List.mem_cons] at mem
      rcases mem with rfl | mem
      · exact ⟨xs, .inr ⟨n, h⟩⟩
      · exact ih mem

/-- A stopped decoding is not changed by what arrives later. -/
theorem decode_append_of_stopped (xs ys : List α) (off : (F.decode xs).stopped = true) :
    (F.decode (xs ++ ys)).items = (F.decode xs).items ∧ (F.decode (xs ++ ys)).stopped = true := by
  induction xs using decode.induct F with
  | case1 xs h =>
      rw [decode_of_incomplete h] at off
      cases off
  | case2 xs b h =>
      rw [decode_of_stop h, decode_of_stop (F.stop_append h ys)]
      exact ⟨rfl, rfl⟩
  | case3 xs b n h ih =>
      rw [decode_of_item h] at off ⊢
      rw [decode_of_item (F.item_append h ys), List.drop_append_of_le_length (F.item_le h)]
      obtain ⟨items, stopped⟩ := ih off
      exact ⟨by rw [items], stopped⟩

/-- **Decoding in pieces.**  What is decoded from `xs ++ ys` is what is decoded from `xs` and then
from its rest with `ys` behind it.  It is what makes the sizes of the reads irrelevant, and the
other lemmas about streams are inductions that use it once. -/
theorem decode_append (xs ys : List α) (on : (F.decode xs).stopped = false) :
    F.decode (xs ++ ys) =
      ⟨(F.decode xs).items ++ (F.decode ((F.decode xs).rest ++ ys)).items,
        (F.decode ((F.decode xs).rest ++ ys)).rest,
        (F.decode ((F.decode xs).rest ++ ys)).stopped⟩ := by
  induction xs using decode.induct F with
  | case1 xs h =>
      rw [decode_of_incomplete h]
      rfl
  | case2 xs b h =>
      rw [decode_of_stop h] at on
      cases on
  | case3 xs b n h ih =>
      rw [decode_of_item h] at on ⊢
      rw [decode_of_item (F.item_append h ys), List.drop_append_of_le_length (F.item_le h), ih on]
      rfl

end Framing

/-! ## Fronts that are known by their length -/

/-- A rule that judges a front by itself: it is rejected (`none`), or more is needed
(`some none`), or there is an item of a known length. -/
structure LengthRule (α : Type*) where
  judge : List α → Option (Option ℕ)
  judge_nil : judge [] = some none
  pos : ∀ {xs n}, judge xs = some (some n) → 0 < n
  le : ∀ {xs n}, judge xs = some (some n) → n ≤ xs.length
  append : ∀ {xs}, judge xs ≠ some none → ∀ ys, judge (xs ++ ys) = judge xs

namespace LengthRule

variable {α : Type*}

/-- The items are the pieces the rule cuts off; `none` marks a rejected front. -/
def framing (R : LengthRule α) : Framing α (Option (List α)) where
  front xs :=
    match R.judge xs with
    | none => .stop none
    | some none => .incomplete
    | some (some n) => .item (some (xs.take n)) n
  item_pos {xs b n} h := by
    split at h
    · cases h
    · cases h
    · rename_i known
      cases h
      exact R.pos known
  item_le {xs b n} h := by
    split at h
    · cases h
    · cases h
    · rename_i known
      cases h
      exact R.le known
  item_append {xs b n} h ys := by
    split at h
    · cases h
    · cases h
    · rename_i m known
      cases h
      rw [R.append (by rw [known]; exact nofun), known]
      show Front.item (some ((xs ++ ys).take n)) n = _
      rw [List.take_append_of_le_length (R.le known)]
  stop_append {xs b} h ys := by
    split at h
    · rename_i known
      cases h
      rw [R.append (by rw [known]; exact nofun), known]
    · cases h
    · cases h

/-- The pieces the rule cuts off a stream, for as long as it can. -/
def cut (R : LengthRule α) (xs : List α) : List (List α) :=
  (R.framing.decode xs).items.reduceOption

/-- What is left behind them. -/
def left (R : LengthRule α) (xs : List α) : List α := (R.framing.decode xs).rest

variable {R S : LengthRule α} {xs : List α} {n : ℕ}

theorem cut_of_item (h : R.judge xs = some (some n)) :
    R.cut xs = xs.take n :: R.cut (xs.drop n) ∧ R.left xs = R.left (xs.drop n) := by
  have item : R.framing.front xs = .item (some (xs.take n)) n := by
    show (match R.judge xs with | none => _ | some none => _ | some (some n) => _) = _
    rw [h]
  constructor
  · rw [cut, Framing.decode_of_item item]
    rfl
  · rw [left, Framing.decode_of_item item]
    rfl

theorem cut_of_not_item (h : ∀ n, R.judge xs ≠ some (some n)) : R.cut xs = [] ∧ R.left xs = xs := by
  cases known : R.judge xs with
  | none =>
      have stop : R.framing.front xs = .stop none := by
        show (match R.judge xs with | none => _ | some none => _ | some (some n) => _) = _
        rw [known]
      constructor
      · rw [cut, Framing.decode_of_stop stop]
        rfl
      · rw [left, Framing.decode_of_stop stop]
  | some more =>
      cases more with
      | none =>
          have incomplete : R.framing.front xs = .incomplete := by
            show (match R.judge xs with | none => _ | some none => _ | some (some n) => _) = _
            rw [known]
          constructor
          · rw [cut, Framing.decode_of_incomplete incomplete]
            rfl
          · rw [left, Framing.decode_of_incomplete incomplete]
      | some n => exact absurd known (h n)

/-- The pieces and what is left are the stream, and the rule cuts nothing more off. -/
theorem cut_left (R : LengthRule α) (xs : List α) :
    (R.cut xs).flatten ++ R.left xs = xs ∧ ∀ n, R.judge (R.left xs) ≠ some (some n) := by
  induction xs using Framing.decode.induct R.framing with
  | case1 xs h =>
      have none (n : ℕ) : R.judge xs ≠ some (some n) := by
        intro known
        change (match R.judge xs with | none => _ | some none => _ | some (some n) => _) = _ at h
        rw [known] at h
        cases h
      obtain ⟨cut, left⟩ := cut_of_not_item none
      rw [cut, left]
      exact ⟨rfl, none⟩
  | case2 xs b h =>
      have none (n : ℕ) : R.judge xs ≠ some (some n) := by
        intro known
        change (match R.judge xs with | none => _ | some none => _ | some (some n) => _) = _ at h
        rw [known] at h
        cases h
      obtain ⟨cut, left⟩ := cut_of_not_item none
      rw [cut, left]
      exact ⟨rfl, none⟩
  | case3 xs b n h ih =>
      have known : R.judge xs = some (some n) := by
        change (match R.judge xs with | none => _ | some none => _ | some (some n) => _) = _ at h
        split at h
        · cases h
        · cases h
        · rename_i known
          cases h
          exact known
      obtain ⟨cut, left⟩ := cut_of_item known
      rw [cut, left, List.flatten_cons, List.append_assoc, ih.1, List.take_append_drop]
      exact ⟨rfl, ih.2⟩

/-- The decoding is stopped exactly when the rule rejects what is left. -/
theorem stopped_iff (R : LengthRule α) (xs : List α) :
    (R.framing.decode xs).stopped = true ↔ R.judge (R.left xs) = none := by
  induction xs using Framing.decode.induct R.framing with
  | case1 xs h =>
      rw [left, Framing.decode_of_incomplete h]
      change (match R.judge xs with | none => _ | some none => _ | some (some n) => _) = _ at h
      constructor
      · nofun
      · intro known
        change R.judge xs = none at known
        rw [known] at h
        cases h
  | case2 xs b h =>
      rw [left, Framing.decode_of_stop h]
      change (match R.judge xs with | none => _ | some none => _ | some (some n) => _) = _ at h
      refine ⟨fun _ => ?_, fun _ => rfl⟩
      split at h
      · assumption
      · cases h
      · cases h
  | case3 xs b n h ih =>
      rw [left, Framing.decode_of_item h]
      exact ih

/-- **Two rules that cut off the same pieces leave the same.**  Two readers can reject different
fronts and still agree on every boundary in front of them. -/
theorem cut_congr (same : ∀ xs n, R.judge xs = some (some n) ↔ S.judge xs = some (some n))
    (xs : List α) : R.cut xs = S.cut xs ∧ R.left xs = S.left xs := by
  induction h : xs.length using Nat.strong_induction_on generalizing xs with
  | _ length ih =>
      by_cases item : ∃ n, R.judge xs = some (some n)
      · obtain ⟨n, item⟩ := item
        have pos := R.pos item
        have le := R.le item
        obtain ⟨cut, left⟩ := cut_of_item item
        obtain ⟨cut', left'⟩ := cut_of_item ((same xs n).mp item)
        obtain ⟨cuts, lefts⟩ := ih (xs.drop n).length (by rw [List.length_drop]; omega) _ rfl
        rw [cut, left, cut', left', cuts, lefts]
        exact ⟨rfl, rfl⟩
      · rw [not_exists] at item
        obtain ⟨cut, left⟩ := cut_of_not_item item
        obtain ⟨cut', left'⟩ := cut_of_not_item fun n known => item n ((same xs n).mpr known)
        rw [cut, left, cut', left']
        exact ⟨rfl, rfl⟩

/-- **Cutting a concatenation of pieces gives the pieces**, when each of them is one by itself, and
goes on behind them.  Nothing is asked of what comes behind, which may be the front of another
piece, or garbage. -/
theorem cut_flatten_append {items : List (List α)}
    (each : ∀ item ∈ items, R.judge item = some (some item.length)) (rest : List α) :
    R.cut (items.flatten ++ rest) = items ++ R.cut rest ∧
      R.left (items.flatten ++ rest) = R.left rest := by
  induction items with
  | nil => exact ⟨rfl, rfl⟩
  | cons item items ih =>
      have first := each item List.mem_cons_self
      have whole : R.judge (item ++ (items.flatten ++ rest)) = some (some item.length) := by
        rw [R.append (by rw [first]; exact nofun), first]
      obtain ⟨cut, left⟩ := cut_of_item whole
      obtain ⟨cuts, lefts⟩ := ih fun item mem => each item (List.mem_cons_of_mem _ mem)
      rw [List.flatten_cons, List.append_assoc, cut, left, List.take_left, List.drop_left, cuts,
        lefts]
      exact ⟨rfl, rfl⟩

/-- Every piece cut off is one by itself. -/
theorem judge_of_mem_cut {item : List α} (prefixes : ∀ xs n, R.judge xs = some (some n) →
    R.judge (xs.take n) = some (some n)) (xs : List α) (mem : item ∈ R.cut xs) :
    R.judge item = some (some item.length) := by
  induction h : xs.length using Nat.strong_induction_on generalizing xs with
  | _ length ih =>
      by_cases known : ∃ n, R.judge xs = some (some n)
      · obtain ⟨n, known⟩ := known
        have pos := R.pos known
        have le := R.le known
        rw [(cut_of_item known).1, List.mem_cons] at mem
        rcases mem with rfl | mem
        · rw [List.length_take_of_le le]
          exact prefixes xs n known
        · exact ih (xs.drop n).length (by rw [List.length_drop]; omega) _ mem rfl
      · rw [not_exists] at known
        rw [(cut_of_not_item known).1] at mem
        cases mem

/-- What is cut off in pieces of the stream, keeping what is left in between, is what
is cut off the whole. -/
theorem cut_append (xs ys : List α) (on : R.judge (R.left xs) ≠ none) :
    R.cut (xs ++ ys) = R.cut xs ++ R.cut (R.left xs ++ ys) ∧
      R.left (xs ++ ys) = R.left (R.left xs ++ ys) := by
  have going : (R.framing.decode xs).stopped = false := by
    rw [← Bool.not_eq_true, stopped_iff]
    exact on
  constructor
  · rw [cut, Framing.decode_append xs ys going]
    exact List.filterMap_append
  · rw [left, Framing.decode_append xs ys going]
    rfl

end LengthRule

end ReverseTether.Library
