import Mathlib.Tactic
import Mathlib.Data.Int.Log

/-!
# Rounding to a double

`binary64 q` is the double next to the rational number `q`, of two that are equally near the one
with the even significand, and nothing where `q` is beyond the largest double.  The sign of a
zero is not kept.

What has a significand of at most 53 bits and an exponent in range is not changed
(`binary64_exact`), and so no integer below `2 ^ 53` is (`binary64_intCast`).

The rounding is on rational numbers, in the definition and in the proofs, so nothing is said
about bits.  What a program computes with doubles is the rational computation with `binary64`
behind each operation; where the numbers are small integers, or halves of them, the rounding
disappears by the two lemmas above.

Subnormal numbers are covered by the bound on the exponent: the last bit of the significand is
never worth less than that of the smallest number, and below it the significand has fewer
bits.
-/

namespace ReverseTether.Library

/-- The next integer; of two that are equally near, the even one. -/
def roundHalfEven (q : ℚ) : ℤ :=
  let whole := ⌊q⌋
  if q - whole < 1 / 2 then whole
  else if 1 / 2 < q - whole then whole + 1
  else if whole % 2 = 0 then whole else whole + 1

@[simp] theorem roundHalfEven_intCast (z : ℤ) : roundHalfEven z = z := by
  have below : (z : ℚ) - (⌊(z : ℚ)⌋ : ℤ) < 1 / 2 := by
    rw [Int.floor_intCast, sub_self]
    norm_num
  unfold roundHalfEven
  rw [if_pos below, Int.floor_intCast]

/-- The exponent of the last bit of the significand: 53 bits for a normal number, and never less
than that of the least subnormal one. -/
def lastBit (q : ℚ) : ℤ := max (Int.log 2 |q| - 52) (-1074)

/-- The number of the format that is nearest to `q`, and the even one of two that are; none when it
would overflow. -/
def binary64 (q : ℚ) : Option ℚ :=
  if q = 0 then some 0
  else
    let rounded := roundHalfEven (q / 2 ^ lastBit q) * (2 : ℚ) ^ lastBit q
    if 2 ^ 1024 ≤ |rounded| then none else some rounded

@[simp] theorem binary64_zero : binary64 0 = some 0 := if_pos rfl

section

variable {m e : ℤ} {q : ℚ}

theorem abs_lt_of_significand (value : q = m * (2 : ℚ) ^ e) (bits : |m| < 2 ^ 53) :
    |q| < (2 : ℚ) ^ (53 + e) := by
  have power : (0 : ℚ) < 2 ^ e := by positivity
  calc |q| = |(m : ℚ)| * 2 ^ e := by rw [value, abs_mul, abs_of_pos power]
    _ < 2 ^ 53 * 2 ^ e := mul_lt_mul_of_pos_right (by exact_mod_cast bits) power
    _ = 2 ^ (53 + e) := by
        rw [zpow_add₀ (by norm_num : (2 : ℚ) ≠ 0)]
        norm_num

theorem lastBit_le (value : q = m * (2 : ℚ) ^ e) (bits : |m| < 2 ^ 53) (nonzero : q ≠ 0)
    (least : -1074 ≤ e) : lastBit q ≤ e := by
  have log : Int.log 2 |q| < 53 + e := by
    apply (Int.lt_zpow_iff_log_lt Nat.one_lt_two (abs_pos.mpr nonzero)).mp
    simpa using abs_lt_of_significand value bits
  apply max_le _ least
  linarith

/-- A number that is a double stays what it is. -/
theorem binary64_exact (value : q = m * (2 : ℚ) ^ e) (bits : |m| < 2 ^ 53)
    (least : -1074 ≤ e) (largest : e ≤ 971) : binary64 q = some q := by
  by_cases zero : q = 0
  · rw [zero, binary64_zero]
  have power : (2 : ℚ) ^ lastBit q ≠ 0 := by positivity
  obtain ⟨k, shift⟩ := Int.eq_ofNat_of_zero_le (sub_nonneg.mpr (lastBit_le value bits zero least))
  have scaled : q / 2 ^ lastBit q = ((m * 2 ^ k : ℤ) : ℚ) := by
    have exponent : e = lastBit q + k := by omega
    rw [div_eq_iff power, value]
    nth_rewrite 1 [exponent]
    rw [zpow_add₀ (by norm_num : (2 : ℚ) ≠ 0), ← value]
    push_cast
    rw [zpow_natCast]
    ring
  have rounded : roundHalfEven (q / 2 ^ lastBit q) * (2 : ℚ) ^ lastBit q = q := by
    rw [scaled, roundHalfEven_intCast, ← scaled, div_mul_cancel₀ q power]
  have small : ¬(2 : ℚ) ^ 1024 ≤ |q| := by
    apply not_le.mpr
    apply lt_of_lt_of_le (abs_lt_of_significand value bits)
    calc (2 : ℚ) ^ (53 + e) ≤ 2 ^ (1024 : ℤ) := zpow_le_zpow_right₀ (by norm_num) (by omega)
      _ = 2 ^ 1024 := zpow_natCast 2 1024
  unfold binary64
  simp only [if_neg zero, rounded, if_neg small]

end

theorem binary64_intCast {z : ℤ} (bits : |z| < 2 ^ 53) : binary64 z = some (z : ℚ) := by
  apply binary64_exact (m := z) (e := 0) _ bits
  · norm_num
  · norm_num
  · rw [zpow_zero, mul_one]

end ReverseTether.Library
