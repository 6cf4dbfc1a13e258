import ChildProcess.Decimal.Binary64
import Mathlib.Algebra.Order.Field.Power
import Mathlib.Algebra.Order.Field.Rat
import Mathlib.Algebra.Order.Group.Abs
import Mathlib.Data.Nat.Cast.Order.Field
import Mathlib.Tactic.FieldSimp
import Mathlib.Tactic.Linarith
import Mathlib.Tactic.NormNum
import Mathlib.Tactic.Positivity
import Mathlib.Tactic.Ring

/-!
# Rounding to the nearest whole number

`IsNearestEven value whole` is the rule by which a number is rounded to a whole
one: to the nearest, and in the middle between two to the even one. At most one
whole number meets it, and a greater value never has a smaller one. The rounding
of ratios, also of those times a power of two, follows the rule exactly. The
number that the bits of a `Binary64` stand for is `Binary64.toRat`.
-/

namespace ChildProcess

/-- A whole number is the rounded value: no other one is nearer, and in the
middle between two it is the even one. -/
structure IsNearestEven (value : ℚ) (whole : Nat) : Prop where
  /-- The value is at most half a step away. -/
  near : |value - whole| ≤ 1 / 2
  /-- In the middle between two whole numbers the even one is taken. -/
  even : |value - whole| = 1 / 2 → Even whole

namespace IsNearestEven

variable {smaller greater : ℚ} {low high : Nat}

/-- A greater value is never rounded to a smaller number. -/
theorem le_of_le
    (lowNearest : IsNearestEven smaller low)
    (highNearest : IsNearestEven greater high)
    (ordered : smaller ≤ greater) :
    low ≤ high := by
  by_contra notLe
  have aboveHigh : (high : ℚ) + 1 ≤ low := by
    exact_mod_cast Nat.lt_of_not_le notLe
  obtain ⟨lowBelow, lowAbove⟩ := abs_le.mp lowNearest.near
  obtain ⟨highBelow, highAbove⟩ := abs_le.mp highNearest.near
  -- There is room for both only if they are neighbours with the value between.
  have lowTie : smaller - low = -(1 / 2) := by linarith
  have highTie : greater - high = 1 / 2 := by linarith
  have neighbours : low = high + 1 := by
    have cast : (low : ℚ) = high + 1 := by linarith
    exact_mod_cast cast
  have lowEven : Even low := by
    apply lowNearest.even
    rw [lowTie, abs_neg, abs_of_pos (by norm_num)]
  have highEven : Even high := by
    apply highNearest.even
    rw [highTie, abs_of_pos (by norm_num)]
  rw [neighbours, Nat.even_add_one] at lowEven
  exact lowEven highEven

/-- The rule leaves no choice. -/
theorem unique
    (lowNearest : IsNearestEven smaller low)
    (highNearest : IsNearestEven smaller high) :
    low = high :=
  Nat.le_antisymm (lowNearest.le_of_le highNearest le_rfl)
    (highNearest.le_of_le lowNearest le_rfl)

/-- What lies strictly within half a step of a whole number is rounded to it. -/
theorem of_lt
    {value : ℚ} {whole : Nat}
    (near : |value - whole| < 1 / 2) :
    IsNearestEven value whole where
  near := near.le
  even tie := absurd tie near.ne

end IsNearestEven

/-- A ratio is its whole part and what remains of it. -/
theorem ratio_eq_quotient_add
    (numerator : Nat)
    {denominator : Nat}
    (positive : 0 < denominator) :
    (numerator / denominator : ℚ) =
      (numerator / denominator : Nat) +
        (numerator % denominator : Nat) / (denominator : ℚ) := by
  have positiveCast : (0 : ℚ) < denominator := by exact_mod_cast positive
  have divided : (numerator : ℚ) =
      denominator * (numerator / denominator : Nat) +
        (numerator % denominator : Nat) := by
    exact_mod_cast (Nat.div_add_mod numerator denominator).symm
  rw [div_eq_iff positiveCast.ne', add_mul,
    div_mul_cancel₀ _ positiveCast.ne', mul_comm]
  exact divided

/-- The rounding of ratios follows the rule. -/
theorem isNearestEven_roundHalfEven
    (numerator : Nat)
    {denominator : Nat}
    (positive : 0 < denominator) :
    IsNearestEven (numerator / denominator)
      (roundHalfEven numerator denominator) := by
  have positiveCast : (0 : ℚ) < denominator := by exact_mod_cast positive
  rw [ratio_eq_quotient_add numerator positive, roundHalfEven]
  have below := Nat.mod_lt numerator positive
  generalize numerator / denominator = quotient
  generalize numerator % denominator = remainder at below ⊢
  have belowCast : (remainder : ℚ) / denominator < 1 := by
    rw [div_lt_one positiveCast]
    exact_mod_cast below
  have nonnegative : 0 ≤ (remainder : ℚ) / denominator := by positivity
  split
  case isTrue less =>
    have lessCast : (remainder : ℚ) / denominator < 1 / 2 := by
      rw [div_lt_div_iff₀ positiveCast (by norm_num)]
      exact_mod_cast (by omega : remainder * 2 < 1 * denominator)
    apply IsNearestEven.of_lt
    rw [add_sub_cancel_left, abs_of_nonneg nonnegative]
    exact lessCast
  split
  case isTrue more =>
    have moreCast : 1 / 2 < (remainder : ℚ) / denominator := by
      rw [div_lt_div_iff₀ (by norm_num) positiveCast]
      exact_mod_cast (by omega : 1 * denominator < remainder * 2)
    apply IsNearestEven.of_lt
    push_cast
    rw [add_sub_add_left_eq_sub, abs_of_neg (by linarith)]
    linarith
  case isFalse notLess notMore =>
    have half : (remainder : ℚ) / denominator = 1 / 2 := by
      rw [div_eq_div_iff positiveCast.ne' (by norm_num)]
      exact_mod_cast (by omega : remainder * 2 = 1 * denominator)
    rw [half]
    rcases Nat.even_or_odd quotient with even | odd
    · rw [Nat.even_iff.mp even, add_zero]
      refine ⟨?_, fun _ => even⟩
      rw [add_sub_cancel_left, abs_of_pos (by norm_num)]
    · rw [Nat.odd_iff.mp odd]
      refine ⟨?_, fun _ => odd.add_one⟩
      push_cast
      rw [add_sub_add_left_eq_sub, abs_of_neg (by norm_num)]
      norm_num

namespace Binary64

/-- A ratio times a power of two is rounded by the rule as well. -/
theorem isNearestEven_roundScaled
    (numerator : Nat)
    {denominator : Nat}
    (positive : 0 < denominator)
    (power : Int) :
    IsNearestEven (numerator / denominator * 2 ^ power)
      (roundScaled numerator denominator power) := by
  unfold roundScaled
  split
  case isTrue upward =>
    obtain ⟨exponent, rfl⟩ := Int.eq_ofNat_of_zero_le upward
    have value : (numerator / denominator * 2 ^ (exponent : Int) : ℚ) =
        (numerator * Nat.pow 2 exponent : Nat) / denominator := by
      rw [zpow_natCast, Nat.pow_eq]
      push_cast
      ring
    rw [value, Int.toNat_natCast]
    exact isNearestEven_roundHalfEven _ positive
  case isFalse downward =>
    obtain ⟨exponent, opposite⟩ :=
      Int.eq_ofNat_of_zero_le (by omega : 0 ≤ -power)
    have value : (numerator / denominator * 2 ^ power : ℚ) =
        numerator / (denominator * Nat.pow 2 exponent : Nat) := by
      rw [show power = -(exponent : Int) by omega, zpow_neg, zpow_natCast,
        Nat.pow_eq]
      push_cast
      rw [div_mul_eq_div_div, div_eq_mul_inv _ ((2 : ℚ) ^ exponent)]
    rw [value, opposite, Int.toNat_natCast]
    exact isNearestEven_roundHalfEven _
      (Nat.mul_pos positive (Nat.pow_pos Nat.two_pos))

/-- The number that the bits of a finite number stand for. -/
def toRat (number : Binary64) : ℚ :=
  (if number.isSigned then -1 else 1) * (number.significand * 2 ^ number.scale)

/-- A number is negative if it has the sign and is not zero. -/
theorem toRat_neg_iff
    (number : Binary64) :
    number.toRat < 0 ↔ number.isSigned = true ∧ number.significand ≠ 0 := by
  have positive : (0 : ℚ) < 2 ^ number.scale := by positivity
  unfold toRat
  cases signed : number.isSigned with
  | false =>
    have nonnegative : (0 : ℚ) ≤ number.significand * 2 ^ number.scale := by
      positivity
    simp [nonnegative]
  | true =>
    simp [positive, Nat.pos_iff_ne_zero]

/-- Without being negative, a number is its significand times the power of two. -/
theorem toRat_eq_of_nonneg
    {number : Binary64}
    (nonnegative : 0 ≤ number.toRat) :
    number.toRat = number.significand * 2 ^ number.scale := by
  have notNegative := not_lt.mpr nonnegative
  rw [toRat_neg_iff] at notNegative
  unfold toRat
  cases signed : number.isSigned with
  | false => simp
  | true =>
    have zero : number.significand = 0 := by simpa [signed] using notNegative
    simp [zero]

/-- With the greatest exponent and no fraction a number is infinite. -/
theorem eq_infinity
    {number : Binary64}
    (exponent : number.exponentField = 2047)
    (fraction : number.fraction = 0) :
    number = infinity number.isSigned := by
  have bounded := number.bits.toNat_lt
  unfold exponentField Binary64.fraction at *
  have magnitude :
      (if number.isSigned = true then Nat.pow 2 63 else 0) + infinityMagnitude =
        number.bits.toNat := by
    unfold isSigned infinityMagnitude
    simp only [Nat.pow_eq, decide_eq_true_eq] at *
    split <;> omega
  rw [infinity, ofMagnitude, magnitude, UInt64.ofNat_toNat]

/-- A number that is not finite is infinite, or none at all. -/
theorem isFinite_eq_false_iff
    (number : Binary64) :
    number.isFinite = false ↔
      number.isNaN = true ∨ ∃ signed, number = infinity signed := by
  constructor
  · intro notFinite
    have exponent : number.exponentField = 2047 := by
      simpa [isFinite] using notFinite
    by_cases fraction : number.fraction = 0
    · exact .inr ⟨_, eq_infinity exponent fraction⟩
    · exact .inl (by simp [isNaN, exponent, fraction])
  · rintro (isNaN | ⟨signed, rfl⟩)
    · simp [Binary64.isNaN] at isNaN
      simp [isFinite, isNaN.1]
    · cases signed <;> decide

end Binary64
end ChildProcess
