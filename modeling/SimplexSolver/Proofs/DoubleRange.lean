import SimplexSolver.Proofs.Places
import SimplexSolver.Proofs.Roundings
import SimplexSolver.Proofs.Signs

/-!
# The range of doubles

A rational number has a finite nearest double as long as it stays below `overflowBound`, which
lies half a unit of the last place above the largest finite double (`isFinite_nearest`).

The nearest double is found through the leading bit of a quotient, which stands for the
greatest power of two that is not above it (`leadingBit_bounds`). It decides the exponent
field, and the mantissa is the quotient in units of its last place, rounded (`mantissaAt`).
Below the bound the two never add up to the pattern of infinity (`nearestBits_lt`).
-/

set_option autoImplicit false

namespace SimplexSolver.Binary64

open Float.Model Float.Model.UnpackedFloat

/-- Half a unit of the last place above the largest finite double. -/
def overflowBound : Nat := (twoPower 54 - 1) * twoPower 970

/-! ## Patterns of finite doubles -/

/-- A pattern whose exponent field is not full is kept. -/
theorem pattern_ofBits {bits : UInt64}
    (unfilled : bits.toNat / twoPower fractionBits % twoPower 11 ≠ 2047) :
    pattern (Float.ofBits bits) = bits.toBitVec := by
  have exponent : @unpackExponent Format.binary64 bits.toBitVec ≠ -1#_ := by
    rw [Ne, ← BitVec.toNat_inj, unpackExponent_def, BitVec.extractLsb'_toNat,
      Nat.shiftRight_eq_div_pow]
    exact unfilled
  change pack Format.binary64 (unpack Format.binary64 bits.toBitVec) = _
  rw [pack_unpack, if_neg]
  simp only [isNaNBits, exponent, false_and, decide_false, Bool.false_eq_true,
    not_false_eq_true]

/-- The fields of a double are those of the pattern it was made from. -/
theorem fields_ofBits {bits : UInt64}
    (unfilled : bits.toNat / twoPower fractionBits % twoPower 11 ≠ 2047) :
    fields (Float.ofBits bits) = (decide (twoPower 63 ≤ bits.toNat),
      bits.toNat / twoPower fractionBits % twoPower 11, bits.toNat % twoPower fractionBits) := by
  have same : (Float.ofBits bits).toBits.toNat = bits.toNat :=
    congrArg BitVec.toNat (pattern_ofBits unfilled)
  simp only [fields, same]

/-- A pattern whose exponent field is not full is that of a finite double. -/
theorem isFinite_ofBits {bits : UInt64}
    (unfilled : bits.toNat / twoPower fractionBits % twoPower 11 ≠ 2047) :
    Scalar.isFinite (Float.ofBits bits) = true := by
  have exponent : unpackExponent (pattern (Float.ofBits bits)) ≠ -1#_ := by
    rw [Ne, ← BitVec.toNat_inj, toNat_unpackExponent, fields_ofBits unfilled]
    exact unfilled
  rw [isFinite_double, unpacked]
  unfold UnpackedFloat.unpack
  simp only [if_neg exponent]
  split
  · split
    · rfl
    · rfl
  · rfl

/-! ## The leading bit -/

/-- Whether a power of two is reached by a quotient is decided without dividing. -/
theorem reached_iff {num den : Nat} (positive : 0 < den) (power : Int) :
    (match power with
      | .ofNat power => decide (den * twoPower power ≤ num)
      | .negSucc power => decide (den ≤ num * twoPower (power + 1))) = true ↔
      (2 : Rat) ^ power ≤ num / den := by
  have unit : (0 : Rat) < den := Nat.cast_pos.mpr positive
  cases power with
  | ofNat power =>
      rw [decide_eq_true_eq, le_div_iff₀ unit, ← Nat.cast_le (α := Rat), Nat.cast_mul,
        cast_twoPower, mul_comm]
      rfl
  | negSucc power =>
      have two : (0 : Rat) < 2 ^ ((power + 1 : Nat) : Int) := zpow_pos two_pos _
      rw [decide_eq_true_eq, le_div_iff₀ unit, ← Nat.cast_le (α := Rat), Nat.cast_mul,
        cast_twoPower, Int.negSucc_eq, zpow_neg, ← Int.natCast_succ, inv_mul_le_iff₀ two, mul_comm]

theorem log2_bounds {n : Nat} (positive : 0 < n) :
    (2 : Rat) ^ (n.log2 : Int) ≤ n ∧ (n : Rat) < 2 ^ ((n.log2 : Int) + 1) := by
  rw [← cast_twoPower, ← Nat.cast_succ, ← cast_twoPower, Nat.cast_le, Nat.cast_lt]
  exact ⟨Nat.log2_self_le positive.ne', Nat.lt_log2_self⟩

/-- **The leading bit of a positive quotient** stands for the greatest power of two that is not
above it. -/
theorem leadingBit_bounds {num den : Nat} (above : 0 < num) (below : 0 < den) :
    (2 : Rat) ^ leadingBit num den ≤ num / den ∧
      (num : Rat) / den < 2 ^ (leadingBit num den + 1) := by
  obtain ⟨numLow, numHigh⟩ := log2_bounds above
  obtain ⟨denLow, denHigh⟩ := log2_bounds below
  obtain ⟨low, high⟩ :=
    quotient_bounds one_lt_two (Nat.cast_pos.mpr below) numLow numHigh denLow denHigh
  have reached := @reached_iff num den below ((num.log2 : Int) - den.log2)
  by_cases reaches : (2 : Rat) ^ ((num.log2 : Int) - den.log2) ≤ num / den
  · have leading : leadingBit num den = (num.log2 : Int) - den.log2 := if_pos (reached.mpr reaches)
    rw [leading]
    exact ⟨reaches, high⟩
  · have leading : leadingBit num den = (num.log2 : Int) - den.log2 - 1 :=
      if_neg (mt reached.mp reaches)
    rw [leading, sub_add_cancel]
    exact ⟨low, not_le.mp reaches⟩

/-! ## The mantissa -/

/-- The quotient in units of a power of two, rounded. -/
def mantissaAt (num den : Nat) : Int → Nat
  | .ofNat power => roundHalfEven num (den * twoPower power)
  | .negSucc power => roundHalfEven (num * twoPower (power + 1)) den

/-- The mantissa is within one half of the quotient in units of the power of two. -/
theorem abs_mantissaAt_sub_le (num : Nat) {den : Nat} (positive : 0 < den) (power : Int) :
    |(mantissaAt num den power : Rat) - num / den / 2 ^ power| ≤ 1 / 2 := by
  cases power with
  | ofNat power =>
      have close := abs_roundHalfEven_sub_le num _ (Nat.mul_pos positive (twoPower_pos power))
      rwa [Nat.cast_mul, cast_twoPower, ← div_div] at close
  | negSucc power =>
      have close := abs_roundHalfEven_sub_le (num * twoPower (power + 1)) den positive
      rwa [Nat.cast_mul, cast_twoPower, mul_div_right_comm, ← div_inv_eq_mul, ← zpow_neg] at close

/-- The mantissa is below a number if the quotient is by at least one half. -/
theorem mantissaAt_lt {num den : Nat} (positive : 0 < den) {power : Int} {bound : Nat}
    (small : (num : Rat) / den < (bound - 1 / 2) * 2 ^ power) :
    mantissaAt num den power < bound := by
  have close := (abs_le.mp (abs_mantissaAt_sub_le num positive power)).2
  rw [← div_lt_iff₀ (zpow_pos two_pos _)] at small
  have cast : (mantissaAt num den power : Rat) < bound := by linarith
  exact_mod_cast cast

/-- The pattern of the nearest double is that of its exponent field and its mantissa, unless this
is beyond the pattern of infinity. -/
theorem nearestBits_of_pos {num : Nat} (above : 0 < num) (den : Nat) :
    nearestBits num den =
      min ((max (leadingBit num den) (-1022) + 1022).toNat * twoPower fractionBits +
        mantissaAt num den (max (leadingBit num den) (-1022) - fractionBits)) infinityBits := by
  rw [nearestBits, if_neg above.ne']
  rfl

/-! ## Numbers below the bound -/

/-- The bound in units of the last place of the largest doubles. -/
theorem cast_overflowBound :
    (overflowBound : Rat) = ((twoPower 53 : Nat) - 1 / 2) * 2 ^ (971 : Int) := by
  have odd : ((twoPower 54 - 1 : Nat) : Rat) = 2 * (twoPower 53 : Nat) - 1 := by
    norm_num [twoPower]
  have next : (2 : Rat) ^ (971 : Int) = 2 ^ ((970 : Nat) : Int) * 2 := zpow_add_one₀ two_ne_zero 970
  rw [overflowBound, Nat.cast_mul, odd, cast_twoPower 970, next]
  ring

/-- The leading bit of a number below the bound is not above that of the largest doubles. -/
theorem leadingBit_le {num den : Nat} (above : 0 < num) (below : 0 < den)
    (small : (num : Rat) / den < overflowBound) : leadingBit num den ≤ 1023 := by
  have power : (2 : Rat) ^ leadingBit num den < 2 ^ (1024 : Int) :=
    calc (2 : Rat) ^ leadingBit num den ≤ num / den := (leadingBit_bounds above below).1
      _ < ((twoPower 53 : Nat) - 1 / 2) * 2 ^ (971 : Int) := cast_overflowBound ▸ small
      _ ≤ (twoPower 53 : Nat) * 2 ^ (971 : Int) := by
          gcongr
          norm_num
      _ = 2 ^ (1024 : Int) := by
          rw [cast_twoPower, ← zpow_add₀ two_ne_zero]
          rfl
  have less := (zpow_lt_zpow_iff_right₀ one_lt_two).mp power
  omega

/-- **Below the bound the pattern of the nearest double is not that of infinity.** -/
theorem nearestBits_lt {num den : Nat} (positive : 0 < den)
    (small : (num : Rat) / den < overflowBound) : nearestBits num den < infinityBits := by
  have unitBits : twoPower fractionBits = 4503599627370496 := rfl
  have infinite : infinityBits = 2047 * 4503599627370496 := rfl
  have full : twoPower 53 = 9007199254740992 := rfl
  rcases Nat.eq_zero_or_pos num with rfl | above
  · exact Nat.mul_pos (by decide) (twoPower_pos _)
  · have high := (leadingBit_bounds above positive).2
    have top := leadingBit_le above positive small
    rw [nearestBits_of_pos above]
    refine lt_of_le_of_lt (min_le_left _ _) ?_
    have leading : leadingBit num den ≤ max (leadingBit num den) (-1022) := le_max_left _ _
    have range : -1022 ≤ max (leadingBit num den) (-1022) ∧
        max (leadingBit num den) (-1022) ≤ 1023 := ⟨le_max_right _ _, max_le top (by decide)⟩
    generalize max (leadingBit num den) (-1022) = exponent at leading range ⊢
    rcases lt_or_eq_of_le range.2 with inside | rfl
    · -- any mantissa will do, also one that is rounded up to the next power of two
      have scaled : (num : Rat) / den <
          ((twoPower 53 + 1 : Nat) - 1 / 2) * 2 ^ (exponent - fractionBits) := by
        calc (num : Rat) / den < 2 ^ (leadingBit num den + 1) := high
          _ ≤ 2 ^ (exponent + 1) := zpow_le_zpow_right₀ one_le_two (by omega)
          _ = (twoPower 53 : Nat) * 2 ^ (exponent - fractionBits) := by
              rw [cast_twoPower, ← zpow_add₀ two_ne_zero]
              congr 1
              simp only [fractionBits]
              omega
          _ < ((twoPower 53 + 1 : Nat) - 1 / 2) * 2 ^ (exponent - fractionBits) := by
              gcongr
              push_cast
              linarith
      have mantissa := mantissaAt_lt positive scaled
      refine lt_of_lt_of_le (Nat.add_lt_add_left mantissa _) ?_
      rw [unitBits, infinite]
      omega
    · -- the largest exponent, whose mantissa must not be rounded up that far
      have mantissa : mantissaAt num den 971 < twoPower 53 :=
        mantissaAt_lt positive (cast_overflowBound ▸ small)
      have field : ((1023 : Int) + 1022).toNat = 2045 := rfl
      refine lt_of_lt_of_le (Nat.add_lt_add_left mantissa _) ?_
      rw [field, unitBits, infinite]
      omega

/-- **The double nearest to a number below the bound is finite.** -/
theorem isFinite_nearest {value : Rat} (small : |value| < overflowBound) :
    Scalar.isFinite (nearest value) = true := by
  have less : (value.num.natAbs : Rat) / value.den < overflowBound := by
    rwa [← abs_eq_div]
  have bits := nearestBits_lt value.pos less
  have unitBits : twoPower fractionBits = 4503599627370496 := rfl
  have infinite : infinityBits = 2047 * 4503599627370496 := rfl
  have signBit : twoPower 63 = 2048 * 4503599627370496 := rfl
  have fields : twoPower 11 = 2048 := rfl
  refine isFinite_ofBits ?_
  rw [UInt64.toNat_ofNat', unitBits, fields, signBit]
  split
  · omega
  · omega

end SimplexSolver.Binary64
