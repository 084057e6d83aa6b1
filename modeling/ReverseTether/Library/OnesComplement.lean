import Mathlib.Tactic

/-!
# Ones' complement sums

The internet checksum adds the 16-bit words of a byte string with end-around
carry.  Nothing here mentions a header or a packet:

* `wordSum` adds the words, a last odd byte counting as a high byte;
* `fold16` folds the carries of a sum back into 16 bits;
* `pairSums` is the same sum taken bytewise, high and low bytes apart.

Folding does not change a sum modulo `65535` and only folds `0` to `0`, so the
complement of a folded sum completes it to `65535` (`fold16_add_complement`).
That one fact is why a checksum field set to the complement makes its header
valid.

The sums are natural numbers, so that nothing overflows and addition is the ordinary one; a
program that adds in 32 bits is compared with them under a bound on the number of words.
`foldRounds_induct` is the induction over the folding loop, whose number of rounds depends on
the sum.

Sums of pieces are sums of the whole where the pieces have an even length, which is the usual
side condition of the lemmas about concatenation.
-/

namespace ReverseTether.Library

/-- The 16-bit big-endian words of `bytes`, added up. -/
def wordSum : List UInt8 → ℕ
  | [] => 0
  | [a] => a.toNat * 256
  | a :: b :: rest => a.toNat * 256 + b.toNat + wordSum rest

/-- The sums of the high bytes and of the low bytes of the complete words; a
last odd byte is left out. -/
def pairSums : List UInt8 → ℕ × ℕ
  | a :: b :: rest => (a.toNat + (pairSums rest).1, b.toNat + (pairSums rest).2)
  | _ => (0, 0)

/-- At most `rounds` rounds of folding the carry back. -/
def foldRounds : ℕ → ℕ → ℕ
  | 0, sum => sum
  | rounds + 1, sum => if sum < 65536 then sum else foldRounds rounds (sum % 65536 + sum / 65536)

/-- `while (sum & !0xffff) != 0 { sum = (sum & 0xffff) + (sum >> 16); }`.  A round
makes the sum smaller, so `sum` rounds are more than enough (`fold16_lt`). -/
def fold16 (sum : ℕ) : ℕ := foldRounds sum sum

/-- What holds of a small sum, and of a sum when it holds of the next one, holds
of the folded sum. -/
theorem foldRounds_induct (P : ℕ → ℕ → Prop) (small : ∀ sum, sum < 65536 → P sum sum)
    (step : ∀ sum folded, 65536 ≤ sum → P (sum % 65536 + sum / 65536) folded → P sum folded)
    (sum : ℕ) : P sum (fold16 sum) := by
  have general : ∀ rounds sum, sum ≤ rounds → P sum (foldRounds rounds sum) := by
    intro rounds
    induction rounds with
    | zero =>
        intro sum enough
        exact small _ (by omega)
    | succ rounds ih =>
        intro sum enough
        rw [foldRounds]
        split
        · exact small _ ‹_›
        · exact step _ _ (by omega) (ih _ (by omega))
  exact general sum sum le_rfl

theorem fold16_of_lt {sum : ℕ} (small : sum < 65536) : fold16 sum = sum := by
  cases sum with
  | zero => rfl
  | succ n => rw [fold16, foldRounds, if_pos small]

theorem fold16_lt (sum : ℕ) : fold16 sum < 65536 :=
  foldRounds_induct (fun _ folded => folded < 65536) (fun _ small => small)
    (fun _ _ _ rest => rest) sum

/-- Folding a carry subtracts a multiple of `65535`. -/
theorem fold16_mod (sum : ℕ) : fold16 sum % 65535 = sum % 65535 :=
  foldRounds_induct (fun sum folded => folded % 65535 = sum % 65535) (fun _ _ => rfl)
    (fun _ _ _ rest => rest.trans (by omega)) sum

theorem fold16_pos {sum : ℕ} (pos : 0 < sum) : 0 < fold16 sum :=
  foldRounds_induct (fun sum folded => 0 < sum → 0 < folded) (fun _ _ pos => pos)
    (fun _ _ large rest _ => rest (by omega)) sum pos

/-- **The complement of a folded sum completes the sum to `65535`.**  Folding adds the carries back
in, so the sum with its complement is a word of ones, whatever the carries were. -/
theorem fold16_add_complement (sum : ℕ) : fold16 (sum + (65535 - fold16 sum)) = 65535 := by
  have folded := fold16_lt sum
  have residue := fold16_mod sum
  have total := fold16_mod (sum + (65535 - fold16 sum))
  have small := fold16_lt (sum + (65535 - fold16 sum))
  have pos : 0 < fold16 (sum + (65535 - fold16 sum)) := by
    apply fold16_pos
    rcases Nat.eq_zero_or_pos sum with rfl | pos
    · rw [fold16_of_lt (by omega)]
      omega
    · omega
  omega

theorem wordSum_append {xs : List UInt8} (even : xs.length % 2 = 0) (ys : List UInt8) :
    wordSum (xs ++ ys) = wordSum xs + wordSum ys := by
  induction xs using wordSum.induct with
  | case1 => simp [wordSum]
  | case2 a => simp at even
  | case3 a b rest ih =>
      have evenRest : rest.length % 2 = 0 := by
        simp only [List.length_cons] at even
        omega
      rw [List.cons_append, List.cons_append, wordSum, ih evenRest, wordSum]
      omega

/-- Over an even number of bytes the two ways of adding agree. -/
theorem wordSum_eq_pairSums {xs : List UInt8} (even : xs.length % 2 = 0) :
    wordSum xs = (pairSums xs).1 * 256 + (pairSums xs).2 := by
  induction xs using wordSum.induct with
  | case1 => rfl
  | case2 a => simp at even
  | case3 a b rest ih =>
      have evenRest : rest.length % 2 = 0 := by
        simp only [List.length_cons] at even
        omega
      rw [wordSum, pairSums, ih evenRest]
      ring

/-- Over an odd number of bytes the last one is a high byte. -/
theorem wordSum_eq_pairSums_of_odd {xs : List UInt8} (odd : xs.length % 2 = 1) :
    wordSum xs =
      ((pairSums xs).1 + (xs.getD (xs.length - 1) 0).toNat) * 256 + (pairSums xs).2 := by
  induction xs using wordSum.induct with
  | case1 => simp at odd
  | case2 a => simp [wordSum, pairSums]
  | case3 a b rest ih =>
      have oddRest : rest.length % 2 = 1 := by
        simp only [List.length_cons] at odd
        omega
      have last : (a :: b :: rest).getD ((a :: b :: rest).length - 1) 0 =
          rest.getD (rest.length - 1) 0 := by
        have index : (a :: b :: rest).length - 1 = rest.length - 1 + 2 := by
          simp only [List.length_cons]
          omega
        rw [index]
        rfl
      rw [wordSum, pairSums, ih oddRest, last]
      ring

/-- The words one by one, a last odd byte counting as a high byte. -/
def words : List UInt8 → List ℕ
  | [] => []
  | [a] => [a.toNat * 256]
  | a :: b :: rest => (a.toNat * 256 + b.toNat) :: words rest

theorem sum_words (xs : List UInt8) : (words xs).sum = wordSum xs := by
  induction xs using words.induct with
  | case1 => rfl
  | case2 a => simp [words, wordSum]
  | case3 a b rest ih => rw [words, List.sum_cons, ih, wordSum]

theorem wordSum_le (xs : List UInt8) : wordSum xs ≤ 65535 * ((xs.length + 1) / 2) := by
  induction xs using wordSum.induct with
  | case1 => simp [wordSum]
  | case2 a =>
      have := a.toNat_lt
      simp only [wordSum, List.length_singleton]
      omega
  | case3 a b rest ih =>
      have ha := a.toNat_lt
      have hb := b.toNat_lt
      simp only [wordSum, List.length_cons]
      omega

end ReverseTether.Library
