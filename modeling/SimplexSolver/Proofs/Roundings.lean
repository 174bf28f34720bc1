import Mathlib.Tactic.FieldSimp
import SimplexSolver.Proofs.Cells

/-!
# The error of a rounded number

A quotient is rounded by looking at what its division leaves over. That decides
between the integer part and its successor, and the one that is taken is never
farther away than one half (`abs_roundHalfEven_sub_le`). Over exact scalars a number
rounded to decimal places is therefore within half a unit of its last place
(`Scalar.abs_roundTo_sub_le`), and it does not change its sign.
-/

set_option autoImplicit false

namespace SimplexSolver

/-- The nearest integer is no more than one half away, counted in units of the
denominator. -/
theorem roundHalfEven_bounds (num den : Nat) (positive : 0 < den) :
    2 * (den * roundHalfEven num den) ≤ 2 * num + den ∧
      2 * num ≤ 2 * (den * roundHalfEven num den) + den := by
  have parts := Nat.div_add_mod num den
  have rest := Nat.mod_lt num positive
  unfold roundHalfEven
  simp only
  -- The rest decides the first two cases; at exactly one half both neighbours will do.
  split
  · omega
  · split
    · rw [Nat.mul_add, Nat.mul_one]
      omega
    · split
      · omega
      · rw [Nat.mul_add, Nat.mul_one]
        omega

theorem abs_roundHalfEven_sub_le (num den : Nat) (positive : 0 < den) :
    |(roundHalfEven num den : Rat) - num / den| ≤ 1 / 2 := by
  obtain ⟨above, below⟩ := roundHalfEven_bounds num den positive
  have unit : (0 : Rat) < den := Nat.cast_pos.mpr positive
  have above' : 2 * ((den : Rat) * roundHalfEven num den) ≤ 2 * num + den := mod_cast above
  have below' : 2 * (num : Rat) ≤ 2 * (den * roundHalfEven num den) + den := mod_cast below
  have quotient : (num : Rat) = den * (num / den) := by field_simp
  rw [quotient] at above' below'
  rw [abs_le]
  constructor
  · nlinarith
  · nlinarith

/-- A quotient less than one half away from a natural number is rounded to it. -/
theorem roundHalfEven_eq_of_near {num den n : Nat} (positive : 0 < den)
    (near : |(num : Rat) / den - n| < 1 / 2) : roundHalfEven num den = n := by
  obtain ⟨below, above⟩ := abs_le.mp (abs_roundHalfEven_sub_le num den positive)
  obtain ⟨less, more⟩ := abs_lt.mp near
  have small : (roundHalfEven num den : Rat) < (n + 1 : Nat) := by
    push_cast
    linarith
  have large : (n : Rat) < (roundHalfEven num den + 1 : Nat) := by
    push_cast
    linarith
  rw [Nat.cast_lt] at small large
  omega

/-- A common factor does not change what a quotient is rounded to. -/
theorem roundHalfEven_mul_right (num den : Nat) {factor : Nat} (positive : 0 < factor) :
    roundHalfEven (num * factor) (den * factor) = roundHalfEven num den := by
  simp only [roundHalfEven, Nat.mul_div_mul_right _ _ positive, Nat.mul_mod_mul_right,
    ← Nat.mul_assoc, Nat.mul_lt_mul_right positive]

/-- What a quotient is rounded to depends on its value alone. -/
theorem roundHalfEven_congr {num den other otherDen : Nat} (positive : 0 < den)
    (otherPositive : 0 < otherDen) (same : num * otherDen = other * den) :
    roundHalfEven num den = roundHalfEven other otherDen := by
  rw [← roundHalfEven_mul_right num den otherPositive, same, Nat.mul_comm den,
    roundHalfEven_mul_right other otherDen positive]

/-- The size of a number as a quotient of natural numbers. -/
theorem abs_eq_div (value : Rat) : |value| = (value.num.natAbs : Rat) / value.den := by
  rw [Nat.cast_natAbs, Int.cast_abs, ← Nat.abs_cast value.den, ← abs_div, Rat.num_div_den]

namespace Scalar

/-- A size rounded to decimal places. -/
def roundedSize (places : Nat) (size : Rat) : Rat :=
  mkRat (roundHalfEven (size.num.natAbs * tenPower places) size.den) (tenPower places)

theorem roundTo_of_nonneg (places : Nat) {value : Rat} (nonneg : 0 ≤ value) :
    roundTo places value = roundedSize places value := by
  have reads : reading value = .finite false value := by
    change Reading.ofRat value = _
    rw [Reading.ofRat, if_neg (not_lt.mpr nonneg), decide_eq_false (not_lt.mpr nonneg)]
  simp only [roundTo, reads, Bool.false_eq_true, if_false]
  rfl

theorem roundTo_of_neg (places : Nat) {value : Rat} (negative : value < 0) :
    roundTo places value = -roundedSize places (-value) := by
  have reads : reading value = .finite true (-value) := by
    change Reading.ofRat value = _
    rw [Reading.ofRat, if_pos negative, decide_eq_true negative]
  simp only [roundTo, reads, if_true]
  rfl

theorem roundedSize_nonneg (places : Nat) (size : Rat) : 0 ≤ roundedSize places size := by
  rw [roundedSize, Rat.mkRat_eq_div]
  positivity

theorem abs_roundedSize_sub_le (places : Nat) {size : Rat} (nonneg : 0 ≤ size) :
    |roundedSize places size - size| ≤ 1 / (2 * tenPower places) := by
  have unit : (0 : Rat) < tenPower places := Nat.cast_pos.mpr (tenPower_pos places)
  have numerator : (size.num.natAbs : Rat) = size.num := by
    rw [← Int.cast_natCast, Int.natAbs_of_nonneg (Rat.num_nonneg.mpr nonneg)]
  have scaled : ((size.num.natAbs * tenPower places : Nat) : Rat) / size.den =
      size * tenPower places := by
    rw [Nat.cast_mul, numerator, mul_div_right_comm, Rat.num_div_den]
  have close := abs_roundHalfEven_sub_le (size.num.natAbs * tenPower places) size.den size.pos
  rw [scaled] at close
  have factored : roundedSize places size - size =
      ((roundHalfEven (size.num.natAbs * tenPower places) size.den : Rat) -
        size * tenPower places) / tenPower places := by
    rw [roundedSize, Rat.mkRat_eq_div, sub_div, mul_div_cancel_right₀ _ unit.ne']
    rfl
  rw [factored, abs_div, abs_of_pos unit, div_le_iff₀ unit]
  calc _ ≤ (1 : Rat) / 2 := close
    _ = 1 / (2 * tenPower places) * tenPower places := by field_simp

/-- **A number rounded to decimal places is within half a unit of the last place.** -/
theorem abs_roundTo_sub_le (places : Nat) (value : Rat) :
    |roundTo places value - value| ≤ 1 / (2 * tenPower places) := by
  rcases lt_or_ge value 0 with negative | nonneg
  · rw [roundTo_of_neg places negative, ← abs_neg, neg_sub', neg_neg]
    exact abs_roundedSize_sub_le places (neg_nonneg.mpr negative.le)
  · rw [roundTo_of_nonneg places nonneg]
    exact abs_roundedSize_sub_le places nonneg

/-- Rounding does not make a number negative. -/
theorem roundTo_nonneg (places : Nat) {value : Rat} (nonneg : 0 ≤ value) :
    0 ≤ roundTo places value := by
  rw [roundTo_of_nonneg places nonneg]
  exact roundedSize_nonneg places value

end Scalar

end SimplexSolver
