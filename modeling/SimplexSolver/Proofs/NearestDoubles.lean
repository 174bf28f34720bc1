import SimplexSolver.Proofs.DoubleRange

/-!
# The double nearest to a decimal

A decimal is brought to a quotient, and the nearest double is found from the leading bit of the
quotient and its mantissa. Both depend on the value of the decimal, not on how it is written
(`Binary64.decimal_congr`).

In the normal range the mantissa has its leading bit, and a mantissa that is rounded up to the
next power of two goes over into the exponent (`Binary64.exists_fields`). So the unpacked form
of the nearest double is known as well as its reading: it is positive, and it is off by at most
half a unit of its last place (`Binary64.normal_nearest`). Decimals that are neither very small
nor very large are in this range (`Binary64.normal_decimal`).
-/

set_option autoImplicit false

namespace SimplexSolver

namespace Binary64

open Float.Model Float.Model.UnpackedFloat

/-! ## The nearest double depends on the value -/

theorem leadingBit_eq_log {num den : Nat} (above : 0 < num) (below : 0 < den) :
    leadingBit num den = Int.log 2 ((num : Rat) / den) := by
  obtain ⟨least, most⟩ := leadingBit_bounds above below
  exact eq_log_of_bounds (by decide) (div_pos (Nat.cast_pos.mpr above) (Nat.cast_pos.mpr below))
    (mod_cast least) (mod_cast most)

theorem mantissaAt_congr {num den other otherDen : Nat} (positive : 0 < den)
    (otherPositive : 0 < otherDen) (same : num * otherDen = other * den) (power : Int) :
    mantissaAt num den power = mantissaAt other otherDen power := by
  cases power with
  | ofNat power =>
      refine roundHalfEven_congr (Nat.mul_pos positive (twoPower_pos power))
        (Nat.mul_pos otherPositive (twoPower_pos power)) ?_
      rw [← Nat.mul_assoc, same, Nat.mul_assoc]
  | negSucc power =>
      refine roundHalfEven_congr positive otherPositive ?_
      rw [Nat.mul_right_comm, same, Nat.mul_right_comm]

/-- The nearest double depends on the value of a quotient alone. -/
theorem nearestBits_congr {num den other otherDen : Nat} (positive : 0 < den)
    (otherPositive : 0 < otherDen) (same : (num : Rat) / den = other / otherDen) :
    nearestBits num den = nearestBits other otherDen := by
  have crossed : num * otherDen = other * den := by
    have units : (den : Rat) ≠ 0 ∧ (otherDen : Rat) ≠ 0 := by
      constructor <;> exact_mod_cast Nat.ne_of_gt ‹_›
    rw [div_eq_div_iff units.1 units.2] at same
    exact_mod_cast same
  rcases Nat.eq_zero_or_pos num with rfl | above
  · have zero : other = 0 := by
      rw [Nat.zero_mul] at crossed
      exact (Nat.mul_eq_zero.mp crossed.symm).resolve_right positive.ne'
    rw [zero, nearestBits, nearestBits, if_pos rfl, if_pos rfl]
  · have otherAbove : 0 < other := by
      refine Nat.pos_of_ne_zero ?_
      rintro rfl
      rw [Nat.zero_mul] at crossed
      exact (Nat.mul_pos above otherPositive).ne' crossed
    rw [nearestBits_of_pos above, nearestBits_of_pos otherAbove, leadingBit_eq_log above positive,
      leadingBit_eq_log otherAbove otherPositive, same,
      mantissaAt_congr positive otherPositive crossed]

/-- **The double nearest to a decimal depends on its value alone.** -/
theorem decimal_congr {digits other : Nat} {exponent otherExponent : Int}
    (same : (digits : Rat) * 10 ^ exponent = other * 10 ^ otherExponent) :
    decimal digits exponent = decimal other otherExponent := by
  have power (exponent : Int) : (10 : Rat) ^ exponent ≠ 0 := zpow_ne_zero _ (by norm_num)
  rcases Nat.eq_zero_or_pos digits with rfl | positive
  · have zero : other = 0 := by
      rw [Nat.cast_zero, zero_mul, zero_eq_mul] at same
      exact_mod_cast same.resolve_right (power _)
    simp only [zero, decimal, decide_true, Bool.true_or, if_true]
  · have otherPositive : 0 < other := by
      refine Nat.pos_of_ne_zero ?_
      rintro rfl
      rw [Nat.cast_zero, zero_mul, mul_eq_zero] at same
      exact positive.ne' (by exact_mod_cast same.resolve_right (power _))
    have ratio : ((scaleByTen digits 1 exponent).1 : Rat) / (scaleByTen digits 1 exponent).2 =
        (scaleByTen other 1 otherExponent).1 / (scaleByTen other 1 otherExponent).2 := by
      rw [scaleByTen_ratio, scaleByTen_ratio, Nat.cast_one, div_one, div_one, same]
    simp only [decimal, numeralLength_add_eq_log positive, numeralLength_add_eq_log otherPositive,
      same, positive.ne', otherPositive.ne',
      nearestBits_congr (scaleByTen_pos one_pos _) (scaleByTen_pos one_pos _) ratio]

/-! ## Normal doubles -/

/-- The size of a finite double is its mantissa times a power of two. -/
theorem Parts.size_eq (parts : Parts) : parts.size = parts.mantissa * 2 ^ parts.exponent := by
  unfold Parts.size
  split
  · rename_i power same
    rw [same, Nat.cast_mul, cast_twoPower]
    rfl
  · rename_i power same
    rw [same, Rat.mkRat_eq_div, cast_twoPower, Int.negSucc_eq, zpow_neg, ← div_eq_mul_inv]
    rfl

/-- A normal double by its fields. The mantissa has a hidden leading bit. -/
theorem normal_of_fields {value : Float} {power fraction : Nat}
    (fielded : fields value = (false, power, fraction)) (low : 0 < power) (high : power < 2047) :
    (∃ positive, unpacked value =
      .finite .positive (twoPower fractionBits + fraction) (power - 1075) positive) ∧
    reading value = .finite false
      ((twoPower fractionBits + fraction : Nat) * 2 ^ ((power : Int) - 1075)) := by
  have exponent := toNat_unpackExponent value
  have mantissa := toNat_unpackMantissa value
  have sign := ofBitVec_unpackSign value
  rw [fielded] at exponent mantissa sign
  constructor
  · have notTop : unpackExponent (pattern value) ≠ -1#_ := by
      rw [Ne, ← BitVec.toNat_inj, exponent]
      exact high.ne
    have notLow : unpackExponent (pattern value) ≠ 0#_ := by
      rw [Ne, ← BitVec.toNat_inj, exponent]
      exact low.ne'
    have hidden : (1#1 ++ unpackMantissa (pattern value)).toNat =
        twoPower fractionBits + fraction := by
      rw [BitVec.toNat_append, ← Nat.shiftLeft_add_eq_or_of_lt (BitVec.isLt _), mantissa]
      rfl
    refine ⟨Nat.add_pos_left (twoPower_pos _) _, ?_⟩
    unfold unpacked UnpackedFloat.unpack
    simp only [if_neg notTop, if_neg notLow, hidden, exponent, sign]
    rfl
  · rw [reading, fielded]
    simp only [if_neg high.ne, Parts.size_eq, partsOfFields, if_neg low.ne']
    rw [Nat.add_comm, lowestExponent]
    congr 3

/-! ## The fields of the nearest double -/

/-- The mantissa times its power of two is within half of this power. -/
theorem abs_mantissaAt_mul_sub_le (num : Nat) {den : Nat} (positive : 0 < den) (power : Int) :
    |(mantissaAt num den power : Rat) * 2 ^ power - num / den| ≤ 2 ^ (power - 1) := by
  have unit : (0 : Rat) < 2 ^ power := zpow_pos two_pos _
  calc |(mantissaAt num den power : Rat) * 2 ^ power - num / den|
      = |(mantissaAt num den power : Rat) - num / den / 2 ^ power| * 2 ^ power := by
        rw [← abs_of_pos unit, ← abs_mul, abs_of_pos unit, sub_mul, div_mul_cancel₀ _ unit.ne']
    _ ≤ 1 / 2 * 2 ^ power := by
        gcongr
        exact abs_mantissaAt_sub_le num positive power
    _ = 2 ^ (power - 1) := by
        rw [zpow_sub_one₀ two_ne_zero]
        ring

section Normal

variable {num den : Nat} (above : 0 < num) (below : 0 < den)
include above below

/-- In units of the place that belongs to its leading bit, a quotient is rounded to a mantissa with
this bit, or up to the next power of two. -/
theorem mantissaAt_bounds : twoPower 52 ≤ mantissaAt num den (leadingBit num den - 52) ∧
    mantissaAt num den (leadingBit num den - 52) ≤ twoPower 53 := by
  obtain ⟨least, most⟩ := leadingBit_bounds above below
  have close := abs_le.mp (abs_mantissaAt_sub_le num below (leadingBit num den - 52))
  have unit : (0 : Rat) < 2 ^ (leadingBit num den - 52) := zpow_pos two_pos _
  have hidden : ((twoPower 52 : Nat) : Rat) ≤ num / den / 2 ^ (leadingBit num den - 52) := by
    rw [le_div_iff₀ unit, cast_twoPower, ← zpow_add₀ two_ne_zero]
    exact (zpow_le_zpow_right₀ one_le_two (by omega)).trans least
  have full : num / den / 2 ^ (leadingBit num den - 52) < ((twoPower 53 : Nat) : Rat) := by
    rw [div_lt_iff₀ unit, cast_twoPower, ← zpow_add₀ two_ne_zero]
    exact most.trans_le (zpow_le_zpow_right₀ one_le_two (by omega))
  constructor
  · rw [← Nat.lt_succ_iff, ← Nat.cast_lt (α := Rat), Nat.cast_succ]
    linarith
  · rw [← Nat.lt_succ_iff, ← Nat.cast_lt (α := Rat), Nat.cast_succ]
    linarith

/-- **The fields of the nearest double** of a number in the normal range. A mantissa that is
rounded up to the next power of two goes over into the exponent. -/
theorem exists_fields (low : -1022 ≤ leadingBit num den)
    (small : (num : Rat) / den < overflowBound) :
    ∃ power fraction : Nat, power < 2047 ∧ fraction < 4503599627370496 ∧
      nearestBits num den = power * 4503599627370496 + fraction ∧
      leadingBit num den ≤ (power : Int) - 1023 ∧ (power : Int) - 1023 ≤ leadingBit num den + 1 ∧
      |((4503599627370496 + fraction : Nat) : Rat) * 2 ^ ((power : Int) - 1075) - num / den| ≤
        2 ^ (leadingBit num den - 53) := by
  obtain ⟨hidden, full⟩ := mantissaAt_bounds above below
  have near := abs_mantissaAt_mul_sub_le num below (leadingBit num den - 52)
  have finite := nearestBits_lt below small
  have pattern := nearestBits_of_pos above den
  have unitBits : twoPower 52 = 4503599627370496 := rfl
  have twice : twoPower 53 = 2 * 4503599627370496 := rfl
  have stored : twoPower fractionBits = 4503599627370496 := rfl
  have places : (fractionBits : Int) = 52 := rfl
  have infinite : infinityBits = 2047 * 4503599627370496 := rfl
  rw [max_eq_left low, stored, places, infinite] at pattern
  rw [infinite] at finite
  rw [unitBits] at hidden
  rw [twice] at full
  generalize mantissaAt num den (leadingBit num den - 52) = mantissa at hidden full near pattern
  generalize leadingBit num den = leading at low near pattern ⊢
  obtain ⟨fraction, rfl⟩ := Nat.exists_eq_add_of_le hidden
  obtain ⟨power, stored⟩ := Int.eq_ofNat_of_zero_le (by omega : 0 ≤ leading + 1022)
  obtain rfl : leading = power - 1022 := by omega
  clear unitBits twice infinite
  have half : (power : Int) - 1022 - 53 = power - 1022 - 52 - 1 := by omega
  rw [half]
  rcases full.lt_or_eq with inside | carried
  · refine ⟨power + 1, fraction, by omega, by omega, by omega, by omega, by omega, ?_⟩
    have place : ((power + 1 : Nat) : Int) - 1075 = power - 1022 - 52 := by omega
    rwa [place]
  · obtain rfl : fraction = 4503599627370496 := by omega
    refine ⟨power + 2, 0, by omega, by omega, by omega, by omega, by omega, ?_⟩
    have place : ((power + 2 : Nat) : Int) - 1075 = power - 1022 - 52 + 1 := by omega
    have same (unit : Rat) : ((4503599627370496 + 0 : Nat) : Rat) * (unit * 2) =
        ((4503599627370496 + 4503599627370496 : Nat) : Rat) * unit := by
      push_cast
      ring
    rwa [place, zpow_add_one₀ two_ne_zero, same]

/-- **The double nearest to a number** in the normal range is positive, and its mantissa times the
power of two of its last place is within half a unit of this place. -/
theorem normal_nearest (low : -1022 ≤ leadingBit num den)
    (small : (num : Rat) / den < overflowBound) :
    ∃ (mantissa : Nat) (exponent : Int) (positive : 0 < mantissa),
      unpacked (Float.ofBits (UInt64.ofNat (nearestBits num den))) =
        .finite .positive mantissa exponent positive ∧
      reading (Float.ofBits (UInt64.ofNat (nearestBits num den))) =
        .finite false (mantissa * 2 ^ exponent) ∧
      leadingBit num den - 52 ≤ exponent ∧ exponent ≤ leadingBit num den - 51 ∧
      |(mantissa : Rat) * 2 ^ exponent - num / den| ≤ 2 ^ (leadingBit num den - 53) := by
  obtain ⟨power, fraction, high, inside, pattern, least, most, near⟩ :=
    exists_fields above below low small
  have stored : twoPower fractionBits = 4503599627370496 := rfl
  have fielded : fields (Float.ofBits (UInt64.ofNat (nearestBits num den))) =
      (false, power, fraction) := by
    have range : twoPower 11 = 2048 := rfl
    have signBit : twoPower 63 = 2048 * 4503599627370496 := rfl
    have whole : (UInt64.ofNat (nearestBits num den)).toNat = nearestBits num den := by
      rw [UInt64.toNat_ofNat']
      omega
    have exponent : nearestBits num den / 4503599627370496 % 2048 = power := by omega
    have rest : nearestBits num den % 4503599627370496 = fraction := by omega
    have positive : decide (2048 * 4503599627370496 ≤ nearestBits num den) = false :=
      decide_eq_false (by omega)
    rw [fields_ofBits (by rw [whole, stored, range, exponent]; exact high.ne), whole, stored,
      range, signBit, exponent, rest, positive]
  obtain ⟨⟨positive, form⟩, read⟩ := normal_of_fields fielded (by omega) high
  rw [← stored] at near
  exact ⟨_, _, positive, form, read, by omega, by omega, near⟩

end Normal

/-! ## Doubles of decimals -/

/-- **The double nearest to a decimal** that is neither very small nor very large is positive, and
its mantissa times the power of two of its last place is within half a unit of this place. -/
theorem normal_decimal {digits : Nat} {exponent : Int}
    (low : (10 : Rat) ^ (-20 : Int) ≤ digits * 10 ^ exponent)
    (high : (digits : Rat) * 10 ^ exponent < 10 ^ (20 : Int)) :
    ∃ (mantissa : Nat) (place : Int) (positive : 0 < mantissa),
      unpacked (decimal digits exponent) = .finite .positive mantissa place positive ∧
      reading (decimal digits exponent) = .finite false (mantissa * 2 ^ place) ∧
      Int.log 2 ((digits : Rat) * 10 ^ exponent) - 52 ≤ place ∧
      place ≤ Int.log 2 ((digits : Rat) * 10 ^ exponent) - 51 ∧
      |(mantissa : Rat) * 2 ^ place - digits * 10 ^ exponent| ≤
        2 ^ (Int.log 2 ((digits : Rat) * 10 ^ exponent) - 53) := by
  have some : (0 : Rat) < digits * 10 ^ exponent := (zpow_pos (by norm_num) _).trans_le low
  have above : 0 < digits := by
    refine Nat.pos_of_ne_zero ?_
    rintro rfl
    rw [Nat.cast_zero, zero_mul] at some
    exact lt_irrefl _ some
  have ratio := scaleByTen_ratio digits 1 exponent
  rw [Nat.cast_one, div_one] at ratio
  have num := scaleByTen_num_pos 1 above exponent
  have den := @scaleByTen_pos digits 1 one_pos exponent
  have leading := leadingBit_eq_log num den
  have place := numeralLength_add_eq_log above exponent
  have least : -20 ≤ Int.log 10 ((digits : Rat) * 10 ^ exponent) :=
    (Int.zpow_le_iff_le_log (by decide) some).mp (mod_cast low)
  have most : Int.log 10 ((digits : Rat) * 10 ^ exponent) < 20 :=
    (Int.lt_zpow_iff_log_lt (by decide) some).mp (mod_cast high)
  have exact : decimal digits exponent = Float.ofBits (UInt64.ofNat
      (nearestBits (scaleByTen digits 1 exponent).1 (scaleByTen digits 1 exponent).2)) := by
    simp only [decimal]
    rw [if_neg (by simp only [Bool.or_eq_true, decide_eq_true_eq]; omega), if_neg (by omega)]
  rw [ratio] at leading
  have normal := normal_nearest num den
  rw [ratio, leading, ← exact] at normal
  refine normal ?_ (high.trans ?_)
  · refine (Int.zpow_le_iff_le_log (by decide) some).mp (le_trans ?_ low)
    calc (2 : Rat) ^ (-1022 : Int) ≤ 2 ^ (-80 : Int) := zpow_le_zpow_right₀ one_le_two (by decide)
      _ ≤ 10 ^ (-20 : Int) := by norm_num
  · calc (10 : Rat) ^ (20 : Int) < ((twoPower 53 : Nat) - 1 / 2) * 2 ^ (100 : Int) := by
          norm_num [twoPower]
      _ ≤ overflowBound := by
          rw [cast_overflowBound]
          gcongr
          · norm_num [twoPower]
          · exact one_le_two
          · decide

end Binary64

end SimplexSolver
