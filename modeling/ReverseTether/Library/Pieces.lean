import ReverseTether.Library.Framing

/-!
# Streams that are made of whole pieces

One end writes pieces behind each other; the other end has got some front of the stream and
decodes it.  When each piece by itself is one item, or stops the decoding, the decoder gives the
answers to the pieces, in their order and none twice (`decode_front`).  It has not been ahead of
the stream, and a piece of which only a part has arrived is no item yet: a framing does not
change its answer when more arrives, so that the part would have been the whole.

`decode_whole` is for a stream that has arrived as a whole: then no answer is missing.

The pieces are what a writer has put behind each other, each an item by itself; the decoder
has no other knowledge of them.  The lemmas about cutting are for a reader that only asks for
the length of its front, and are used where two programs with different rules read one stream.
-/

namespace ReverseTether.Library

variable {α β : Type*}

/-- Of two lists in front of a third one is in front of the other. -/
theorem prefix_append_cases {ys xs rest : List α} (front : ys <+: xs ++ rest) :
    (∃ zs, ys = xs ++ zs ∧ zs <+: rest) ∨ (ys <+: xs ∧ ys.length < xs.length) := by
  by_cases long : xs.length ≤ ys.length
  · have within : xs <+: ys := List.prefix_of_prefix_length_le (List.prefix_append _ _) front long
    obtain ⟨zs, rfl⟩ := within
    exact .inl ⟨zs, rfl, (List.prefix_append_right_inj xs).mp front⟩
  · have short : ys.length < xs.length := not_le.mp long
    exact .inr ⟨List.prefix_of_prefix_length_le front (List.prefix_append _ _) short.le, short⟩

namespace Framing

variable {F : Framing α β} {answer : List α → β} {pieces : List (List α)} {xs ys : List α}

/-- The piece is one item, or it stops the decoding; in neither case does it ask for more. -/
def Answers (F : Framing α β) (answer : List α → β) (xs : List α) : Prop :=
  F.front xs = .item (answer xs) xs.length ∨ F.front xs = .stop (answer xs)

/-- A part of a piece has no other answer than the piece. -/
theorem decode_part (whole : F.Answers answer xs) (part : ys <+: xs) (short : ys.length < xs.length) :
    (F.decode ys).items = [] ∨ (F.decode ys).items = [answer xs] := by
  obtain ⟨more, rfl⟩ := part
  cases front : F.front ys with
  | incomplete => exact .inl (by rw [decode_of_incomplete front])
  | stop b =>
      have same := F.stop_append front more
      rw [decode_of_stop front]
      rcases whole with item | stop
      · rw [same] at item
        cases item
      · rw [same] at stop
        cases stop
        exact .inr rfl
  | item b n =>
      have same := F.item_append front more
      have inside := F.item_le front
      rcases whole with item | stop
      · rw [same] at item
        cases item
        omega
      · rw [same] at stop
        cases stop

/-- **What is decoded of a stream of whole pieces is the answers to the first of them.**  A piece
that has not come in whole is not answered yet, and the answers do not depend on where the stream
was cut. -/
theorem decode_front (nothing : F.front [] = .incomplete) (each : ∀ xs ∈ pieces, F.Answers answer xs)
    (arrived : ys <+: pieces.flatten) : (F.decode ys).items <+: pieces.map answer := by
  induction pieces generalizing ys with
  | nil =>
      rw [List.prefix_nil.mp arrived, decode_of_incomplete nothing]
      exact List.nil_prefix
  | cons xs pieces ih =>
      rw [List.flatten_cons] at arrived
      rcases prefix_append_cases arrived with ⟨zs, rfl, behind⟩ | ⟨part, short⟩
      · rcases each xs List.mem_cons_self with item | stop
        · rw [decode_of_item (F.item_append item zs), List.drop_left]
          exact (List.prefix_cons_inj _).mpr (ih (fun xs mem => each xs (List.mem_cons_of_mem _ mem)) behind)
        · rw [decode_of_stop (F.stop_append stop zs)]
          exact (List.prefix_cons_inj _).mpr List.nil_prefix
      · rcases decode_part (each xs List.mem_cons_self) part short with none | one
        · rw [none]
          exact List.nil_prefix
        · rw [one]
          exact (List.prefix_cons_inj _).mpr List.nil_prefix

/-- **A stream that has arrived as a whole** is decoded to its end, if nothing stops the decoding.
Every piece has its answer then, and nothing is left to be decoded. -/
theorem decode_whole (nothing : F.front [] = .incomplete) (each : ∀ xs ∈ pieces, F.Answers answer xs)
    (on : (F.decode pieces.flatten).stopped = false) :
    F.decode pieces.flatten = ⟨pieces.map answer, [], false⟩ := by
  induction pieces with
  | nil => exact decode_of_incomplete nothing
  | cons xs pieces ih =>
      rw [List.flatten_cons] at on ⊢
      rcases each xs List.mem_cons_self with item | stop
      · rw [decode_of_item (F.item_append item _), List.drop_left] at on ⊢
        rw [ih (fun xs mem => each xs (List.mem_cons_of_mem _ mem)) on]
        rfl
      · rw [decode_of_stop (F.stop_append stop _)] at on
        cases on

end Framing

namespace LengthRule

variable {R : LengthRule α} {items : List (List α)} {xs ys : List α}

/-- **What is cut off a front of a stream of whole items is the first of them.**  The piece that is
cut through is left over, and it is the next one to be completed. -/
theorem cut_front (each : ∀ item ∈ items, R.judge item = some (some item.length))
    (arrived : ys <+: items.flatten) : R.cut ys <+: items := by
  have nothing : R.framing.front [] = .incomplete := by
    simp only [framing, R.judge_nil]
  have answers : ∀ item ∈ items, R.framing.Answers some item := by
    intro item mem
    refine .inl ?_
    simp only [framing, each item mem, List.take_length]
  obtain ⟨rest, split⟩ := Framing.decode_front nothing answers arrived
  refine ⟨rest.filterMap id, ?_⟩
  show (R.framing.decode ys).items.filterMap id ++ rest.filterMap id = items
  rw [← List.filterMap_append, split, List.filterMap_map]
  exact List.filterMap_some

end LengthRule

end ReverseTether.Library
