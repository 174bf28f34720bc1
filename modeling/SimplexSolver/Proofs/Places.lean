import Mathlib.Data.Int.Log
import Mathlib.Data.Rat.Floor
import SimplexSolver.Proofs.Cells
import SimplexSolver.Proofs.Characters

/-!
# Places of digits

Numbers are read and written place by place, and the place of the first digit of a number is a
logarithm. This module says so of all the functions that look for it without dividing: of the
number of digits of a numeral (`numeralLength_bounds`, `numeralLength_add_eq_log`) and of the
leading digit of a quotient (`leadingExponent_eq_log`). Between two powers of the base there is
only one candidate (`eq_log_of_bounds`), and for a quotient the powers next to its parts leave
two of them (`quotient_bounds`).
-/

set_option autoImplicit false

namespace SimplexSolver

/-! ## Powers of ten and two -/

theorem cast_tenPower (power : Nat) : ((tenPower power : Nat) : Rat) = 10 ^ (power : Int) := by
  rw [tenPower, zpow_natCast]
  exact_mod_cast rfl

theorem cast_twoPower (power : Nat) : ((twoPower power : Nat) : Rat) = 2 ^ (power : Int) := by
  rw [twoPower, zpow_natCast]
  exact_mod_cast rfl

theorem Exact.powerOfTen_eq (exponent : Int) : Exact.powerOfTen exponent = 10 ^ exponent := by
  cases exponent with
  | ofNat power =>
      rw [Exact.powerOfTen, cast_tenPower]
      rfl
  | negSucc power =>
      rw [Exact.powerOfTen, Rat.mkRat_eq_div, cast_tenPower, Int.negSucc_eq, zpow_neg,
        Int.cast_one, one_div]
      rfl

theorem Scalar.decimal_rat (digits : Nat) (exponent : Int) :
    (Scalar.decimal digits exponent : Rat) = digits * 10 ^ exponent := by
  rw [← Exact.powerOfTen_eq]
  rfl

/-! ## Between two powers -/

/-- The logarithm of a positive number is found between two powers of the base. -/
theorem eq_log_of_bounds {base : Nat} (large : 1 < base) {value : Rat} (positive : 0 < value)
    {power : Int} (least : (base : Rat) ^ power ≤ value) (most : value < base ^ (power + 1)) :
    power = Int.log base value := by
  have low := (Int.zpow_le_iff_le_log large positive).mp least
  have high := (Int.lt_zpow_iff_log_lt large positive).mp most
  omega

/-- A quotient of two numbers between powers is between the quotients of the powers, wrong by
less than a factor of the base either way. -/
theorem quotient_bounds {base num den : Rat} {above below : Int} (large : 1 < base)
    (positive : 0 < den) (numLow : base ^ above ≤ num) (numHigh : num < base ^ (above + 1))
    (denLow : base ^ below ≤ den) (denHigh : den < base ^ (below + 1)) :
    base ^ (above - below - 1) ≤ num / den ∧ num / den < base ^ (above - below + 1) := by
  have unit : 0 < base := one_pos.trans large
  have power (exponent : Int) : 0 < base ^ exponent := zpow_pos unit exponent
  constructor
  · rw [le_div_iff₀ positive]
    calc base ^ (above - below - 1) * den
        ≤ base ^ (above - below - 1) * base ^ (below + 1) :=
          mul_le_mul_of_nonneg_left denHigh.le (power _).le
      _ = base ^ above := by
          rw [← zpow_add₀ unit.ne']
          congr 1
          omega
      _ ≤ num := numLow
  · rw [div_lt_iff₀ positive]
    calc num < base ^ (above + 1) := numHigh
      _ = base ^ (above - below + 1) * base ^ below := by
          rw [← zpow_add₀ unit.ne']
          congr 1
          omega
      _ ≤ base ^ (above - below + 1) * den := mul_le_mul_of_nonneg_left denLow (power _).le

/-! ## Scaled quotients -/

/-- A scaled quotient is worth the quotient times the power of ten. -/
theorem scaleByTen_ratio (num den : Nat) (power : Int) :
    ((scaleByTen num den power).1 : Rat) / (scaleByTen num den power).2 =
      num / den * 10 ^ power := by
  cases power with
  | ofNat power =>
      rw [scaleByTen, Nat.cast_mul, cast_tenPower, mul_div_right_comm]
      rfl
  | negSucc power =>
      rw [scaleByTen, Nat.cast_mul, cast_tenPower, ← div_div, Int.negSucc_eq, zpow_neg,
        ← div_eq_mul_inv]
      rfl

theorem scaleByTen_pos {num den : Nat} (positive : 0 < den) (power : Int) :
    0 < (scaleByTen num den power).2 := by
  cases power with
  | ofNat power => exact positive
  | negSucc power => exact Nat.mul_pos positive (tenPower_pos _)

theorem scaleByTen_num_pos {num : Nat} (den : Nat) (positive : 0 < num) (power : Int) :
    0 < (scaleByTen num den power).1 := by
  cases power with
  | ofNat power => exact Nat.mul_pos positive (tenPower_pos _)
  | negSucc power => exact positive

/-! ## The first digit -/

/-- A number with so many digits lies between two powers of ten. -/
theorem numeralLength_bounds {n : Nat} (positive : 0 < n) :
    (10 : Rat) ^ ((numeralLength n : Int) - 1) ≤ n ∧ (n : Rat) < 10 ^ (numeralLength n : Int) := by
  have some : 0 < numeralLength n := List.length_pos_iff.mpr (numeral_ne_nil n)
  have high : n < tenPower (numeralLength n) := (numeralLength_le_iff some).mp le_rfl
  have low : tenPower (numeralLength n - 1) ≤ n := by
    by_contra! small
    rcases Nat.eq_zero_or_pos (numeralLength n - 1) with zero | more
    · rw [zero, tenPower_zero] at small
      omega
    · have fits := (numeralLength_le_iff more).mpr small
      omega
  rw [← Nat.cast_lt (α := Rat), cast_tenPower] at high
  rw [← Nat.cast_le (α := Rat), cast_tenPower] at low
  have place : ((numeralLength n - 1 : Nat) : Int) = (numeralLength n : Int) - 1 := by omega
  rw [place] at low
  exact ⟨low, high⟩

/-- The place of the first digit of a decimal depends on its value alone. -/
theorem numeralLength_add_eq_log {digits : Nat} (positive : 0 < digits) (exponent : Int) :
    (numeralLength digits : Int) + exponent = Int.log 10 ((digits : Rat) * 10 ^ exponent) + 1 := by
  obtain ⟨low, high⟩ := numeralLength_bounds positive
  have unit : (0 : Rat) < 10 ^ exponent := zpow_pos (by norm_num) _
  have value : (0 : Rat) < digits * 10 ^ exponent := mul_pos (Nat.cast_pos.mpr positive) unit
  have least : (10 : Rat) ^ ((numeralLength digits : Int) + exponent - 1) ≤
      digits * 10 ^ exponent := by
    rw [add_sub_right_comm, zpow_add₀ (by norm_num)]
    exact mul_le_mul_of_nonneg_right low unit.le
  have most : (digits : Rat) * 10 ^ exponent <
      10 ^ ((numeralLength digits : Int) + exponent - 1 + 1) := by
    rw [sub_add_cancel, zpow_add₀ (by norm_num)]
    exact mul_lt_mul_of_pos_right high unit
  have place := @eq_log_of_bounds 10 (by decide) _ value _ (mod_cast least) (mod_cast most)
  omega

/-- **The leading digit of a positive quotient** stands for the greatest power of ten that is not
above it. -/
theorem leadingExponent_eq_log {num den : Nat} (above : 0 < num) (below : 0 < den) :
    leadingExponent num den = Int.log 10 ((num : Rat) / den) := by
  have positive : (0 : Rat) < num / den := div_pos (Nat.cast_pos.mpr above) (Nat.cast_pos.mpr below)
  obtain ⟨numLow, numHigh⟩ := numeralLength_bounds above
  obtain ⟨denLow, denHigh⟩ := numeralLength_bounds below
  rw [← sub_add_cancel (numeralLength num : Int) 1] at numHigh
  rw [← sub_add_cancel (numeralLength den : Int) 1] at denHigh
  have bounds := quotient_bounds (by norm_num) (Nat.cast_pos.mpr below) numLow numHigh denLow
    denHigh
  rw [sub_sub_sub_cancel_right] at bounds
  obtain ⟨low, high⟩ := bounds
  have ratio := scaleByTen_ratio num den (-((numeralLength num : Int) - numeralLength den))
  have unit := @scaleByTen_pos num den below (-((numeralLength num : Int) - numeralLength den))
  rw [leadingExponent]
  generalize (numeralLength num : Int) - numeralLength den = guess at low high ratio unit
  have reached : (scaleByTen num den (-guess)).2 ≤ (scaleByTen num den (-guess)).1 ↔
      (10 : Rat) ^ guess ≤ num / den := by
    rw [← Nat.cast_le (α := Rat), ← one_le_div₀ (Nat.cast_pos.mpr unit), ratio, zpow_neg,
      ← div_eq_mul_inv, one_le_div₀ (zpow_pos (by norm_num) _)]
  simp only
  split
  · rename_i reaches
    exact eq_log_of_bounds (by decide) positive (mod_cast reached.mp reaches) (mod_cast high)
  · rename_i misses
    refine eq_log_of_bounds (by decide) positive (mod_cast low) ?_
    rw [sub_add_cancel]
    exact_mod_cast not_le.mp (mt reached.mpr misses)

/-- The leading digit is found between two powers of ten. -/
theorem leadingExponent_eq {num den : Nat} {first : Int} (below : 0 < den)
    (low : (10 : Rat) ^ first ≤ num / den) (high : (num : Rat) / den < 10 ^ (first + 1)) :
    leadingExponent num den = first := by
  have positive : (0 : Rat) < num / den := (zpow_pos (by norm_num) _).trans_le low
  have above : 0 < num := by
    refine Nat.pos_of_ne_zero ?_
    rintro rfl
    rw [Nat.cast_zero, zero_div] at positive
    exact lt_irrefl _ positive
  rw [leadingExponent_eq_log above below]
  exact (eq_log_of_bounds (by decide) positive (mod_cast low) (mod_cast high)).symm

end SimplexSolver
