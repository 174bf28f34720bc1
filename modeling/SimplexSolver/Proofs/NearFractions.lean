import Mathlib.Tactic.Ring
import SimplexSolver.Number.NearFraction
import SimplexSolver.Proofs.Roundings

/-!
# Nearest fractions

The search for a fraction goes through the denominators in order and changes its mind only for
a fraction that is strictly nearer. What it finds is therefore as near as any fraction with a
denominator up to the bound, and strictly nearer than any with a smaller denominator than its
own (`NearFraction.isNearest_nearest`).

From these two alone it follows that a fraction in lowest terms is found again when it is looked
for (`NearFraction.IsNearest.eq_of_coprime`): it is at no distance from itself, a smaller
denominator would be farther away, and a larger one could not be its own first choice.
-/

set_option autoImplicit false

namespace SimplexSolver

/-- No integer is nearer to a quotient than the rounded one. -/
theorem abs_roundHalfEven_sub_le_abs (num den : Nat) (positive : 0 < den) (other : Int) :
    |(roundHalfEven num den : Rat) - num / den| ≤ |(other : Rat) - num / den| := by
  have close := abs_roundHalfEven_sub_le num den positive
  by_cases same : (roundHalfEven num den : Int) = other
  · rw [← same, Int.cast_natCast]
  · have apart : (1 : Rat) ≤ |(other : Rat) - roundHalfEven num den| := by
      exact_mod_cast Int.one_le_abs (sub_ne_zero.mpr (Ne.symm same))
    have triangle := abs_sub_le (other : Rat) (num / den) (roundHalfEven num den)
    rw [abs_sub_comm (num / den : Rat)] at triangle
    linarith

namespace NearFraction

/-- The exact value of a fraction. -/
def value (fraction : NearFraction) : Rat := fraction.numerator / fraction.denominator

/-- What is asked of a fraction near a value. Its denominator is positive and not above the
bound, no fraction of this kind is nearer, and none with a smaller denominator is as near. -/
structure IsNearest (target : Rat) (bound : Nat) (fraction : NearFraction) : Prop where
  positive : 1 ≤ fraction.denominator
  bounded : fraction.denominator ≤ bound
  closest (p : Int) (q : Nat) (low : 1 ≤ q) (high : q ≤ bound) :
    |fraction.value - target| ≤ |(p : Rat) / q - target|
  least (p : Int) (q : Nat) (low : 1 ≤ q) (less : q < fraction.denominator) :
    |fraction.value - target| < |(p : Rat) / q - target|

section Search

variable {num den : Nat}

/-- At a denominator no other numerator gives a nearer fraction. -/
theorem atDenominator_closest (positive : 0 < den) {q : Nat} (low : 1 ≤ q) (p : Int) :
    |(atDenominator num den q).value - num / den| ≤ |(p : Rat) / q - num / den| := by
  have unit : (0 : Rat) < q := Nat.cast_pos.mpr low
  have scale (numerator : Rat) : |numerator / q - num / den| =
      |numerator - (num * q : Nat) / den| / q := by
    rw [← abs_of_pos unit, ← abs_div, abs_of_pos unit, Nat.cast_mul]
    congr 1
    field_simp
  rw [value, atDenominator, scale, scale]
  exact div_le_div_of_nonneg_right (abs_roundHalfEven_sub_le_abs (num * q) den positive p) unit.le

/-- Every candidate keeps its distance in units of the product of the denominators. -/
def Measured (num den : Nat) (fraction : NearFraction) : Prop :=
  1 ≤ fraction.denominator ∧
    (fraction.distance : Rat) = |fraction.value - num / den| * (den * fraction.denominator)

theorem measured_atDenominator (positive : 0 < den) {q : Nat} (low : 1 ≤ q) :
    Measured num den (atDenominator num den q) := by
  have unit : (0 : Rat) < den := Nat.cast_pos.mpr positive
  have unit' : (0 : Rat) < q := Nat.cast_pos.mpr low
  refine ⟨low, ?_⟩
  rw [value, atDenominator, ← abs_of_pos (mul_pos unit unit'), ← abs_mul, Nat.cast_natAbs,
    Int.cast_abs, ← abs_neg]
  congr 1
  push_cast
  field_simp
  ring

/-- Distances are compared without dividing. -/
theorem nearer_iff (positive : 0 < den) {first second : NearFraction}
    (firstMeasured : Measured num den first) (secondMeasured : Measured num den second) :
    nearer first second = true ↔ |first.value - num / den| < |second.value - num / den| := by
  have unit : (0 : Rat) < den := Nat.cast_pos.mpr positive
  have unit₁ : (0 : Rat) < first.denominator := Nat.cast_pos.mpr firstMeasured.1
  have unit₂ : (0 : Rat) < second.denominator := Nat.cast_pos.mpr secondMeasured.1
  rw [nearer, decide_eq_true_eq, ← Nat.cast_lt (α := Rat), Nat.cast_mul, Nat.cast_mul,
    firstMeasured.2, secondMeasured.2]
  have common (distance : Rat) : distance * (den * first.denominator) * second.denominator =
      distance * (den * first.denominator * second.denominator) := by ring
  have common' (distance : Rat) : distance * (den * second.denominator) * first.denominator =
      distance * (den * first.denominator * second.denominator) := by ring
  rw [common, common']
  exact mul_lt_mul_iff_of_pos_right (by positivity)

theorem measured_nearest (positive : 0 < den) (bound : Nat) :
    Measured num den (nearest num den bound) := by
  induction bound with
  | zero => exact measured_atDenominator positive le_rfl
  | succ bound ih =>
      rw [nearest]
      split
      · exact measured_atDenominator positive (Nat.le_add_left 1 _)
      · exact ih

/-- **The search finds a nearest fraction.** -/
theorem isNearest_nearest (positive : 0 < den) (bound : Nat) :
    IsNearest (num / den) (bound + 1) (nearest num den bound) := by
  induction bound with
  | zero =>
      refine ⟨le_rfl, le_rfl, fun p q low high => ?_, fun p q low less => ?_⟩
      · obtain rfl := le_antisymm high low
        exact atDenominator_closest positive le_rfl p
      · exact absurd low (Nat.not_le.mpr less)
  | succ bound ih =>
      have candidate := @measured_atDenominator num den positive (bound + 2) (Nat.le_add_left 1 _)
      have compared := nearer_iff positive candidate (measured_nearest positive bound)
      have closest := @atDenominator_closest num den positive (bound + 2) (Nat.le_add_left 1 _)
      rw [nearest]
      split
      · rename_i nearer
        have improves := compared.mp nearer
        refine ⟨Nat.le_add_left 1 _, le_rfl, fun p q low high => ?_, fun p q low less => ?_⟩
        · rcases Nat.lt_or_eq_of_le high with earlier | rfl
          · exact improves.le.trans (ih.closest p q low (Nat.le_of_lt_succ earlier))
          · exact closest p
        · exact improves.trans_le (ih.closest p q low (Nat.le_of_lt_succ less))
      · rename_i farther
        have keeps := not_lt.mp (mt compared.mpr farther)
        refine ⟨ih.positive, ih.bounded.trans (Nat.le_succ _), fun p q low high => ?_, ih.least⟩
        rcases Nat.lt_or_eq_of_le high with earlier | rfl
        · exact ih.closest p q low (Nat.le_of_lt_succ earlier)
        · exact keeps.trans (closest p)

end Search

/-- **A fraction in lowest terms is the nearest to itself.** -/
theorem IsNearest.eq_of_coprime {p q bound : Nat} {fraction : NearFraction}
    (nearest : IsNearest ((p : Rat) / q) bound fraction) (low : 1 ≤ q) (high : q ≤ bound)
    (lowest : p.Coprime q) : fraction.numerator = p ∧ fraction.denominator = q := by
  have here : |fraction.value - (p : Rat) / q| ≤ 0 := by
    simpa using nearest.closest p q low high
  have exact : fraction.value = (p : Rat) / q := sub_eq_zero.mp (abs_nonpos_iff.mp here)
  have unit : (0 : Rat) < q := Nat.cast_pos.mpr low
  have unit' : (0 : Rat) < fraction.denominator := Nat.cast_pos.mpr nearest.positive
  have crossed : fraction.numerator * q = p * fraction.denominator := by
    rw [value, div_eq_div_iff unit'.ne' unit.ne'] at exact
    exact_mod_cast exact
  have small : fraction.denominator ≤ q := by
    by_contra larger
    have farther := nearest.least p q low (Nat.not_le.mp larger)
    simp [exact] at farther
  have divides : q ∣ fraction.denominator :=
    lowest.symm.dvd_of_dvd_mul_left (Dvd.intro_left _ crossed)
  have denominator : fraction.denominator = q :=
    le_antisymm small (Nat.le_of_dvd nearest.positive divides)
  rw [denominator] at crossed
  exact ⟨Nat.eq_of_mul_eq_mul_right low crossed, denominator⟩

end NearFraction

end SimplexSolver
