import Mathlib
import SimplexSolver.Number.Binary64
import SimplexSolver.Proofs.Reached

/-!
# Signs and finiteness of scalars

Little is true of all scalars, because the operations of doubles are rounded. A change of
sign is not: it can be taken back, it keeps a number finite, and adding zero afterwards
changes nothing but the sign of a zero. `Scalar.Signed` collects the facts of this kind. None
of them is about the value of a rounded result, and they hold of exact scalars and of doubles.

A double is a bit pattern, and its operations are defined on its unpacked form: undefined,
infinite, zero, or a finite number with a mantissa and an exponent. A change of sign touches
one bit of the pattern (`unpack_resignBits`), so that the unpacked form of the result is known
without any rounding (`unpacked_neg`, `unpacked_abs`). The reading of a double is taken from
the same fields of the pattern (`denotes_reading`), so a double that is positive by its
reading is above zero when it is compared as a double (`le_zero_eq`).
-/

set_option autoImplicit false

namespace SimplexSolver

/-! ## The laws of signs -/

/-- Scalars whose signs and finiteness behave as they should. -/
class Scalar.Signed (α : Type) [Scalar α] : Prop where
  neg_neg (value : α) : - -value = value
  isFinite_neg (value : α) : isFinite (-value) = isFinite value
  isFinite_zero : isFinite (0 : α) = true
  isFinite_one : isFinite (1 : α) = true
  isFinite_add_zero {value : α} (bounded : isFinite value = true) : isFinite (value + 0) = true
  /-- Zero is its own opposite. -/
  same_neg_zero : same (0 : α) (-0) = true
  /-- A number is the opposite of its opposite, also when negative zeros are avoided. -/
  same_neg_opposite {value : α} (bounded : isFinite value = true) :
    same (value + 0) (-opposite value) = true
  /-- A finite number that is not at most a positive tolerance is not small. -/
  magnitude_of_above {value tolerance : α} (bounded : isFinite value = true)
    (positive : le tolerance 0 = false) (above : le value tolerance = false) :
      lt (magnitude value) tolerance = false
  /-- A number with a positive reading is not at most zero. -/
  le_zero_of_reading {value : α} (positive : (Quantity.real value).atMost 0 = false) :
    le value 0 = false

instance : Scalar.Signed Rat where
  neg_neg value := neg_neg value
  isFinite_neg _ := rfl
  isFinite_zero := rfl
  isFinite_one := rfl
  isFinite_add_zero _ := rfl
  same_neg_zero := by decide
  same_neg_opposite := by
    intro value _
    simp [opposite]
  magnitude_of_above := by
    intro value tolerance _ positive above
    simp only [Scalar.lt_rat, Scalar.le_rat, Scalar.magnitude_rat, decide_eq_false_iff_not,
      not_le, not_lt] at positive above ⊢
    exact above.le.trans (le_abs_self value)
  le_zero_of_reading := by
    intro value positive
    have above : ¬ value ≤ (0 : Int) := fun small => by
      rw [Quantity.atMost_iff.mpr small] at positive
      cases positive
    simpa using above

/-! ## Doubles by their unpacked form -/

namespace Binary64

open Float.Model Float.Model.UnpackedFloat

/-- The bit pattern of a double. -/
def pattern (value : Float) : BitVec Format.binary64.numBits := value.toModel.toBits.toBitVec

/-- The unpacked form of a double. -/
def unpacked (value : Float) : UnpackedFloat := unpack Format.binary64 (pattern value)

/-- The double with an unpacked form that needs no rounding. -/
def packed (form : UnpackedFloat) : Float := .ofModel (.pack form)

/-- A double is determined by its unpacked form. -/
theorem packed_unpacked (value : Float) : packed (unpacked value) = value :=
  value.ofBits_toBits

theorem unpacked_injective : Function.Injective unpacked := by
  intro first second same
  rw [← packed_unpacked first, same, packed_unpacked]

theorem pattern_packed (form : UnpackedFloat) :
    pattern (packed form) = pack Format.binary64 form := rfl

/-- The same number with another sign. -/
def resign (change : Sign → Sign) : UnpackedFloat → UnpackedFloat
  | .notANumber => .notANumber
  | .infinity sign => .infinity (change sign)
  | .zero sign => .zero (change sign)
  | .finite sign mantissa exponent positive => .finite (change sign) mantissa exponent positive

theorem neg_eq_resign (form : UnpackedFloat) : form.neg = resign (- ·) form := by
  cases form <;> rfl

theorem abs_eq_resign (form : UnpackedFloat) : form.abs = resign (fun _ => .positive) form := by
  cases form <;> rfl

/-- A bit pattern with another sign bit. -/
def resignBits (change : Sign → Sign) (bits : BitVec Format.binary64.numBits) :
    BitVec Format.binary64.numBits :=
  packComponents Format.binary64 (change (Sign.ofBitVec (unpackSign bits))) (unpackExponent bits)
    (unpackMantissa bits)

/-- Another sign bit changes the sign and nothing else. -/
theorem unpack_resignBits (change : Sign → Sign) (bits : BitVec Format.binary64.numBits) :
    unpack Format.binary64 (resignBits change bits) =
      resign change (unpack Format.binary64 bits) := by
  unfold UnpackedFloat.unpack
  simp only [resignBits, unpackExponent_packComponents, unpackMantissa_packComponents,
    unpackSign_packComponents, Sign.ofBitVec_toBitVec]
  split
  · split
    · rfl
    · rfl
  · split
    · split
      · rfl
      · rfl
    · rfl

/-- A pattern that does not stand for an undefined number stays valid with another sign. -/
theorem valid_resignBits (change : Sign → Sign) {bits : BitVec Format.binary64.numBits}
    (defined : unpack Format.binary64 bits ≠ .notANumber) :
    Format.binary64.Valid (resignBits change bits) := by
  refine ⟨fun top odd => absurd ?_ defined⟩
  rw [resignBits, unpackExponent_packComponents] at top
  rw [resignBits, unpackMantissa_packComponents] at odd
  simp only [UnpackedFloat.unpack, top, if_true, odd, if_false]

/-- Changing the sign of a double is exact. -/
theorem unpacked_packed_resign (change : Sign → Sign) (value : Float) :
    unpacked (packed (resign change (unpacked value))) = resign change (unpacked value) := by
  by_cases undefined : unpacked value = .notANumber
  · rw [undefined]
    exact unpack_packedNaN
  · have packed := pack_unpack_of_valid (valid_resignBits change undefined)
    have changed := unpack_resignBits change (pattern value)
    rw [changed] at packed
    rw [unpacked, pattern_packed, unpacked, packed, changed]

theorem unpacked_neg (value : Float) : unpacked (-value) = (unpacked value).neg := by
  rw [neg_eq_resign, ← unpacked_packed_resign, ← neg_eq_resign]
  rfl

theorem unpacked_abs (value : Float) : unpacked value.abs = (unpacked value).abs := by
  rw [abs_eq_resign, ← unpacked_packed_resign, ← abs_eq_resign]
  rfl

/-! ## Comparing doubles -/

/-- Doubles are compared by their unpacked forms. -/
theorem lt_double (first second : Float) :
    Scalar.lt first second = (unpacked first).lt (unpacked second) := by
  change decide (decide (_ = true) = true) = _
  simp only [Bool.decide_eq_true]
  rfl

theorem le_double (first second : Float) :
    Scalar.le first second = (unpacked first).le (unpacked second) := by
  change decide (decide (_ = true) = true) = _
  simp only [Bool.decide_eq_true]
  rfl

theorem same_double (first second : Float) :
    Scalar.same first second = (unpacked first).beq (unpacked second) := rfl

theorem zero_add_double (value : Float) :
    0 + value = packed ((UnpackedFloat.zero .positive).add Format.binary64 (unpacked value)) := rfl

theorem isFinite_double (value : Float) :
    Scalar.isFinite value = (unpacked value).isFinite := rfl

/-- Adding zero changes nothing but the sign of a zero. -/
theorem add_zero_cases (value : Float) :
    (∃ sign, unpacked value = .zero sign ∧ value + 0 = 0) ∨
      (∀ sign, unpacked value ≠ .zero sign) ∧ value + 0 = value := by
  have sum : value + 0 = packed ((unpacked value).add Format.binary64 (.zero .positive)) := rfl
  have stays := packed_unpacked value
  rw [sum]
  cases form : unpacked value with
  | zero sign =>
      refine .inl ⟨sign, rfl, ?_⟩
      cases sign with
      | negative => rfl
      | positive => rfl
  | notANumber =>
      rw [form] at stays
      exact .inr ⟨by simp, stays⟩
  | infinity sign =>
      rw [form] at stays
      exact .inr ⟨by simp, stays⟩
  | finite sign mantissa exponent positive =>
      rw [form] at stays
      exact .inr ⟨by simp, stays⟩

/-! ## Reading doubles -/

theorem toNat_unpackMantissa (value : Float) :
    (unpackMantissa (pattern value)).toNat = (fields value).2.2 := by
  rw [unpackMantissa_def, BitVec.extractLsb'_toNat, Nat.shiftRight_zero]
  rfl

theorem toNat_unpackExponent (value : Float) :
    (unpackExponent (pattern value)).toNat = (fields value).2.1 := by
  rw [unpackExponent_def, BitVec.extractLsb'_toNat, Nat.shiftRight_eq_div_pow]
  rfl

theorem ofBitVec_unpackSign (value : Float) : Sign.ofBitVec (unpackSign (pattern value)) =
    if (fields value).1 then .negative else .positive := by
  have bit : (unpackSign (pattern value)).toNat = (pattern value).toNat / 2 ^ 63 % 2 := by
    rw [unpackSign_def, BitVec.extractLsb'_toNat, Nat.shiftRight_eq_div_pow]
    rfl
  have small : (pattern value).toNat < 2 ^ 64 := (pattern value).isLt
  have clear : unpackSign (pattern value) = 0#1 ↔ ¬ (fields value).1 = true := by
    rw [← BitVec.toNat_inj, bit]
    change (pattern value).toNat / 2 ^ 63 % 2 = 0 ↔
      ¬ decide (2 ^ 63 ≤ (pattern value).toNat) = true
    rw [decide_eq_true_eq]
    omega
  rw [Sign.ofBitVec, if_congr clear rfl rfl, ite_not]

theorem Parts.size_of_mantissa {parts : Parts} (none : parts.mantissa = 0) : parts.size = 0 := by
  unfold Parts.size
  rw [none]
  split
  · rw [Nat.zero_mul, Nat.cast_zero]
  · exact Rat.zero_mkRat _

theorem Parts.size_pos {parts : Parts} (positive : 0 < parts.mantissa) : 0 < parts.size := by
  unfold Parts.size
  split
  · exact_mod_cast Nat.mul_pos positive (Nat.two_pow_pos _)
  · exact Rat.mkRat_pos (by exact_mod_cast positive) (Nat.two_pow_pos _).ne'

/-- What an unpacked form stands for. The size of a number that is not zero is positive. -/
inductive Denotes : UnpackedFloat → Reading → Prop where
  | undefined : Denotes .notANumber .undefined
  | infinite (sign : Sign) : Denotes (.infinity sign) (.infinite (sign == .negative))
  | zero (sign : Sign) : Denotes (.zero sign) (.finite (sign == .negative) 0)
  | finite (sign : Sign) (mantissa : Nat) (exponent : Int) (positive : 0 < mantissa) {size : Rat}
      (large : 0 < size) :
      Denotes (.finite sign mantissa exponent positive) (.finite (sign == .negative) size)

/-- **The reading of a double is what its unpacked form stands for.** -/
theorem denotes_reading (value : Float) : Denotes (unpacked value) (reading value) := by
  have top : unpackExponent (pattern value) = -1#_ ↔ (fields value).2.1 = 2047 := by
    rw [← BitVec.toNat_inj, toNat_unpackExponent]
    rfl
  have low : unpackExponent (pattern value) = 0#_ ↔ (fields value).2.1 = 0 := by
    rw [← BitVec.toNat_inj, toNat_unpackExponent]
    rfl
  have even : unpackMantissa (pattern value) = 0#_ ↔ (fields value).2.2 = 0 := by
    rw [← BitVec.toNat_inj, toNat_unpackMantissa]
    rfl
  have sign : (Sign.ofBitVec (unpackSign (pattern value)) == .negative) = (fields value).1 := by
    rw [ofBitVec_unpackSign]
    cases (fields value).1 <;> rfl
  have finite : (fields value).2.1 ≠ 2047 → reading value = .finite (fields value).1
      (partsOfFields (fields value).1 (fields value).2.1 (fields value).2.2).size := by
    intro bounded
    rw [reading]
    exact if_neg bounded
  -- the fields of the pattern decide both sides in the same order
  unfold unpacked UnpackedFloat.unpack
  by_cases high : (fields value).2.1 = 2047
  · rw [if_pos (top.mpr high), reading]
    simp only [high, if_true]
    by_cases plain : (fields value).2.2 = 0
    · rw [if_pos (even.mpr plain), if_pos plain, ← sign]
      exact .infinite _
    · rw [if_neg (mt even.mp plain), if_neg plain]
      exact .undefined
  · rw [if_neg (mt top.mp high), finite high]
    by_cases small : (fields value).2.1 = 0
    · rw [if_pos (low.mpr small)]
      by_cases plain : (fields value).2.2 = 0
      · have empty : (partsOfFields (fields value).1 (fields value).2.1
            (fields value).2.2).mantissa = 0 := by simp [partsOfFields, small, plain]
        rw [dif_pos (even.mpr plain), Parts.size_of_mantissa empty, ← sign]
        exact .zero _
      · rw [dif_neg (mt even.mp plain), ← sign]
        refine .finite _ _ _ _ (Parts.size_pos ?_)
        simpa [partsOfFields, small] using Nat.pos_of_ne_zero plain
    · rw [if_neg (mt low.mp small), ← sign]
      refine .finite _ _ _ _ (Parts.size_pos ?_)
      simp only [partsOfFields, if_neg small]
      exact Nat.add_pos_right _ (Nat.two_pow_pos _)

/-- **A double is at most zero exactly if its reading is.** -/
theorem le_zero_eq (value : Float) : Scalar.le value 0 = (Quantity.real value).atMost 0 := by
  have denotes := denotes_reading value
  have zero : unpacked 0 = .zero .positive := rfl
  have same : (Quantity.real value).reading = reading value := rfl
  rw [le_double, zero, Quantity.atMost, same]
  generalize unpacked value = form at denotes
  generalize reading value = view at denotes
  cases denotes with
  | undefined => rfl
  | infinite sign => cases sign <;> rfl
  | zero sign => cases sign <;> rfl
  | @finite sign mantissa exponent positive size large =>
      cases sign with
      | negative =>
          change true = decide (-size ≤ 0)
          exact (decide_eq_true (neg_nonpos.mpr large.le)).symm
      | positive =>
          change false = decide (size ≤ 0)
          exact (decide_eq_false (not_le.mpr large)).symm

/-! ## Doubles obey the laws of signs -/

theorem neg_neg (value : Float) : - -value = value := by
  apply unpacked_injective
  rw [unpacked_neg, unpacked_neg]
  cases unpacked value with
  | notANumber => rfl
  | infinity sign => cases sign <;> rfl
  | zero sign => cases sign <;> rfl
  | finite sign mantissa exponent positive => cases sign <;> rfl

theorem isFinite_neg (value : Float) : Scalar.isFinite (-value) = Scalar.isFinite value := by
  rw [isFinite_double, unpacked_neg, isFinite_double]
  cases unpacked value <;> rfl

theorem isFinite_add_zero {value : Float} (bounded : Scalar.isFinite value = true) :
    Scalar.isFinite (value + 0) = true := by
  obtain ⟨sign, -, sum⟩ | ⟨-, sum⟩ := add_zero_cases value
  · rw [sum]
    rfl
  · rwa [sum]

theorem same_of_isFinite {value : Float} (bounded : Scalar.isFinite value = true) :
    Scalar.same value value = true := by
  refine Float.beq_self_iff.mpr fun undefined => ?_
  rw [undefined] at bounded
  cases bounded

theorem same_neg_opposite {value : Float} (bounded : Scalar.isFinite value = true) :
    Scalar.same (value + 0) (-(-value + 0)) = true := by
  obtain ⟨sign, form, sum⟩ | ⟨large, sum⟩ := add_zero_cases value
  · obtain ⟨-, -, other⟩ | ⟨apart, -⟩ := add_zero_cases (-value)
    · rw [sum, other]
      rfl
    · exact absurd (by rw [unpacked_neg, form]; rfl) (apart (-sign))
  · obtain ⟨sign, form, -⟩ | ⟨-, other⟩ := add_zero_cases (-value)
    · refine absurd ?_ (large (-sign))
      rw [← neg_neg value, unpacked_neg, form]
      rfl
    · rw [sum, other, neg_neg]
      exact same_of_isFinite bounded

theorem lt_of_le_eq_false {first second : UnpackedFloat} (above : first.le second = false) :
    first.lt second = false := by
  unfold UnpackedFloat.le at above
  unfold UnpackedFloat.lt
  cases compared : first.compare second with
  | none => rfl
  | some order =>
      rw [compared] at above
      cases order with
      | lt => cases above
      | eq => cases above
      | gt => rfl

/-- A finite number above a positive tolerance is positive, so it is its own absolute value
and not below the tolerance. -/
theorem lt_abs_of_above {value tolerance : UnpackedFloat} (bounded : value.isFinite = true)
    (positive : tolerance.le (.zero .positive) = false) (above : value.le tolerance = false) :
    value.abs.lt tolerance = false := by
  cases tolerance with
  | notANumber => cases value <;> rfl
  | zero sign => cases positive
  | infinity sign =>
      cases sign with
      | negative => cases positive
      | positive =>
          cases value with
          | notANumber => cases bounded
          | infinity sign => cases bounded
          | zero sign => cases above
          | finite sign mantissa exponent large => cases sign <;> cases above
  | finite sign mantissa exponent large =>
      cases sign with
      | negative => cases positive
      | positive =>
          cases value with
          | notANumber => cases bounded
          | infinity sign => cases bounded
          | zero sign => cases above
          | finite sign mantissa' exponent' large' =>
              cases sign with
              | negative => cases above
              | positive => exact lt_of_le_eq_false above

theorem magnitude_of_above {value tolerance : Float} (bounded : Scalar.isFinite value = true)
    (positive : Scalar.le tolerance 0 = false) (above : Scalar.le value tolerance = false) :
    Scalar.lt (Scalar.magnitude value) tolerance = false := by
  rw [isFinite_double] at bounded
  rw [le_double] at positive above
  rw [lt_double]
  change (unpacked value.abs).lt _ = false
  rw [unpacked_abs]
  exact lt_abs_of_above bounded positive above

end Binary64

instance : Scalar.Signed Float where
  neg_neg := Binary64.neg_neg
  isFinite_neg := Binary64.isFinite_neg
  isFinite_zero := rfl
  isFinite_one := rfl
  isFinite_add_zero := Binary64.isFinite_add_zero
  same_neg_zero := rfl
  same_neg_opposite := Binary64.same_neg_opposite
  magnitude_of_above := Binary64.magnitude_of_above
  le_zero_of_reading positive := (Binary64.le_zero_eq _).trans positive

end SimplexSolver
