import Mathlib.Tactic

/-!
# Serial numbers

Numbers that count bytes wrap around, and are compared by the shorter way round.  Those
that are near one of them are in the order of their distances from it (`precedes_iff`), so
a stretch of numbers that all precede a limit ends at the limit (`add_length_le`).

The comparison is not transitive on all numbers, and no lemma here pretends that it is.
Everything is said relative to one number from which the others are less than half the circle
away; there the distances are ordinary natural numbers, and the comparison is theirs.

A byte stream is such a stretch as long as a window of less than half the circle is respected,
which is what a protocol that numbers its bytes has to promise before any of its comparisons
can be trusted.
-/

namespace ReverseTether.Library

/-- `n` comes before `limit`, by the shorter way round.  The order is that of a circle, so it is no
order of all numbers; half of them precede a given one. -/
def Precedes (n limit : UInt32) : Prop := 0 < (limit - n).toNat ∧ (limit - n).toNat ≤ 2 ^ 31

instance (n limit : UInt32) : Decidable (Precedes n limit) := inferInstanceAs (Decidable (_ ∧ _))

/-- How far `x` is behind `n`. -/
def behind (n x : UInt32) : ℕ := (n - x).toNat

variable {n x y : UInt32}

@[simp] theorem behind_self (n : UInt32) : behind n n = 0 := by
  rw [behind, UInt32.sub_self, UInt32.toNat_zero]

theorem add_behind (n x : UInt32) : x + UInt32.ofNat (behind n x) = n := by
  rw [behind, UInt32.ofNat_toNat, UInt32.add_comm, UInt32.sub_add_cancel]

/-- Going on is getting away from what is behind. -/
theorem behind_add {k : ℕ} (near : behind n x + k < 2 ^ 32) :
    behind (n + UInt32.ofNat k) x = behind n x + k := by
  have far : (n + UInt32.ofNat k - x).toNat = ((n - x).toNat + k) % 2 ^ 32 := by
    have here := n.toNat_lt
    have there := x.toNat_lt
    simp only [UInt32.toNat_sub, UInt32.toNat_add, UInt32.toNat_ofNat']
    omega
  exact far.trans (Nat.mod_eq_of_lt near)

/-- Near a number, the order is that of the distances. -/
theorem precedes_iff {a b : ℕ} (nearA : a < 2 ^ 31) (nearB : b ≤ 2 ^ 31) :
    Precedes (x + UInt32.ofNat a) (x + UInt32.ofNat b) ↔ a < b := by
  have distance : (x + UInt32.ofNat b - (x + UInt32.ofNat a)).toNat = (2 ^ 32 + b - a) % 2 ^ 32 := by
    have here := x.toNat_lt
    simp only [UInt32.toNat_sub, UInt32.toNat_add, UInt32.toNat_ofNat']
    omega
  rw [Precedes, distance]
  omega

/-- What is less far behind is no predecessor. -/
theorem not_precedes (closer : behind n y ≤ behind n x) (near : behind n x < 2 ^ 31) :
    ¬ Precedes y x := by
  have back : (x - y).toNat = (2 ^ 32 + behind n y - behind n x) % 2 ^ 32 := by
    have here := n.toNat_lt
    have there := x.toNat_lt
    have also := y.toNat_lt
    simp only [behind, UInt32.toNat_sub] at closer near ⊢
    omega
  rintro ⟨ahead, short⟩
  rw [back] at ahead short
  omega

/-- **A stretch of numbers that all precede the limit** ends at the limit.  The order of serial
numbers is circular and says little about far numbers; with the bound on the limit a stretch cannot
go around. -/
theorem add_length_le {offset length limit : ℕ} (near : offset ≤ limit + 1) (small : limit < 2 ^ 30)
    (nonempty : 0 < length)
    (all : ∀ i < length, Precedes (x + UInt32.ofNat (offset + i)) (x + UInt32.ofNat limit)) :
    offset + length ≤ limit := by
  by_contra beyond
  by_cases inside : offset ≤ limit
  · -- the number at the limit is in the stretch
    have last := all (limit - offset) (by omega)
    rw [precedes_iff (by omega) (by omega)] at last
    omega
  · have first := all 0 nonempty
    rw [precedes_iff (by omega) (by omega)] at first
    omega

end ReverseTether.Library
