import SimplexSolver.Display.Scalar
import SimplexSolver.Proofs.NearFractions
import SimplexSolver.Proofs.WrittenNumbers

/-!
# Fractions that are read back

A scalar is shown as a whole number, as a short fraction, or with a fixed number of decimal
places (`Shown`). Every one of these texts is a written number, so the reader of form fields
finds a number in it: the value of the fraction (`numberOfText_signedFraction`), or the scalar
rounded to the decimal places (`numberOfText_fixed`).

How far it is from the scalar depends on the text. A short fraction is only shown within the
tolerance, and a rounded number is off by half a unit of its last place. A fraction in lowest
terms with a small denominator is shown as itself, because it is its own nearest fraction.
-/

set_option autoImplicit false

namespace SimplexSolver.Display

open Entry Text
open Scalar (roundedSize abs_roundedSize_sub_le)

/-! ## Texts with a sign -/

/-- The sign of a number, written only if it is a minus. -/
def minusMark (negative : Bool) : SignMark := if negative then .minus else .none

theorem chars_minusMark (negative : Bool) :
    (minusMark negative).chars = if negative then ['-'] else [] := by
  cases negative <;> rfl

theorem negative_minusMark (negative : Bool) : (minusMark negative).negative = negative := by
  cases negative <;> rfl

/-! ## Fixed decimal places -/

/-- A padded numeral has the asked width. -/
theorem length_paddedNumeral {width n : Nat} (positive : 0 < width) (fits : n < tenPower width) :
    (paddedNumeral width n).length = width := by
  have narrow := (numeralLength_le_iff positive).mpr fits
  rw [paddedNumeral, List.length_append, List.length_replicate]
  exact Nat.sub_add_cancel narrow

/-- The zeros in front of a padded numeral are worth nothing. -/
theorem digitsValue_paddedNumeral (width n : Nat) : digitsValue (paddedNumeral width n) = n := by
  rw [paddedNumeral, digitsValue_append, digitsValue_replicate_zero, digitsValue_numeral,
    Nat.zero_mul, Nat.zero_add]

theorem isDigit_of_mem_paddedNumeral {width n : Nat} {c : Char}
    (member : c ∈ paddedNumeral width n) : isDigit c = true := by
  rcases List.mem_append.mp member with zero | digit
  · exact isDigit_of_mem_zeros zero
  · exact isDigit_of_mem_numeral digit

section Fixed

variable (places : Nat) (negative : Bool) (size : Rat)

/-- The size in units of the last place. -/
def fixedUnits : Nat := roundHalfEven (size.num.natAbs * tenPower places) size.den

/-- A size with a fixed number of decimal places as a written number. -/
def fixedNumber : WrittenNumber where
  mark := minusMark negative
  magnitude := .decimal (numeral (fixedUnits places size / tenPower places))
    (some (paddedNumeral places (fixedUnits places size % tenPower places)))
    (List.append_ne_nil_of_left_ne_nil (numeral_ne_nil _) _)
    (List.forall_mem_append.mpr
      ⟨fun _ => isDigit_of_mem_numeral, fun _ => isDigit_of_mem_paddedNumeral⟩)

variable {places}

theorem chars_fixedNumber (some : places ≠ 0) :
    (fixedNumber places negative size).chars = Reading.fixed places (.finite negative size) := by
  simp only [WrittenNumber.chars, fixedNumber, chars_minusMark, Magnitude.chars,
    Magnitude.fractionChars, Reading.fixed, Reading.fixedSize, if_neg some, fixedUnits]

theorem value_fixedNumber (some : places ≠ 0) : (fixedNumber places negative size).value =
    if negative then -roundedSize places size else roundedSize places size := by
  have width : (paddedNumeral places (fixedUnits places size % tenPower places)).length = places :=
    length_paddedNumeral (Nat.pos_of_ne_zero some) (Nat.mod_lt _ (tenPower_pos places))
  have magnitude : (fixedNumber places negative size).magnitude.value =
      roundedSize places size := by
    rw [fixedNumber, Magnitude.value, Option.getD_some, digitsValue_append, width,
      digitsValue_numeral, digitsValue_paddedNumeral, Nat.div_add_mod', roundedSize,
      Rat.mkRat_eq_div]
    rfl
  rw [WrittenNumber.value, magnitude]
  simp only [fixedNumber, negative_minusMark]

/-- **A number with decimal places is read as the rounded number.** -/
theorem numberOfText_fixed (some : places ≠ 0) :
    numberOfText (Reading.fixed places (.finite negative size)) =
      .ok (Option.some
        (if negative then -roundedSize places size else roundedSize places size)) := by
  rw [← chars_fixedNumber negative size some, ← value_fixedNumber negative size some]
  exact WrittenNumber.numberOfText_rat trivial one_ne_zero

theorem point_mem_fixed (some : places ≠ 0) :
    '.' ∈ Reading.fixed places (.finite negative size) := by
  simp [Reading.fixed, Reading.fixedSize, some]

end Fixed

/-! ## Short fractions -/

section Fractions

variable (negative : Bool) (fraction : NearFraction)

/-- A fraction without its sign as a written number; a denominator of one is left out. -/
def fractionMagnitude : Magnitude :=
  if fraction.denominator = 1 then
    .decimal (numeral fraction.numerator) none
      (List.append_ne_nil_of_left_ne_nil (numeral_ne_nil _) _)
      (List.forall_mem_append.mpr ⟨fun _ => isDigit_of_mem_numeral, nofun⟩)
  else .quotient (.ofNat fraction.numerator) (.ofNat fraction.denominator)

/-- A fraction as a written number. -/
def fractionNumber : WrittenNumber :=
  ⟨minusMark (negative && fraction.numerator != 0), fractionMagnitude fraction⟩

theorem chars_fractionNumber :
    (fractionNumber negative fraction).chars = signedFraction negative fraction := by
  rw [WrittenNumber.chars, fractionNumber, chars_minusMark, signedFraction]
  by_cases whole : fraction.denominator = 1
  · simp only [fractionMagnitude, if_pos whole, Magnitude.chars, Magnitude.fractionChars,
      List.append_nil]
  · simp only [fractionMagnitude, if_neg whole, Magnitude.chars, DigitRun.ofNat,
      List.append_assoc]

theorem value_fractionMagnitude : (fractionMagnitude fraction).value = fraction.value := by
  rw [NearFraction.value]
  by_cases whole : fraction.denominator = 1
  · simp [fractionMagnitude, Magnitude.value, digitsValue_numeral, whole, tenPower]
  · simp only [fractionMagnitude, if_neg whole, Magnitude.value, DigitRun.value_ofNat]

theorem fractionValue_eq : fractionValue negative fraction =
    if negative then -fraction.value else fraction.value := by
  rw [fractionValue, Rat.mkRat_eq_div, NearFraction.value]
  cases negative with
  | false => simp
  | true => simp [neg_div]

theorem value_fractionNumber :
    (fractionNumber negative fraction).value = fractionValue negative fraction := by
  rw [WrittenNumber.value, fractionNumber, negative_minusMark, value_fractionMagnitude,
    fractionValue_eq]
  by_cases zero : fraction.numerator = 0
  · simp [zero, NearFraction.value]
  · simp [zero]

/-- **A short fraction is read as its value.** -/
theorem numberOfText_signedFraction (positive : 1 ≤ fraction.denominator)
    (small : fraction.denominator = 1 ∨ fraction.numerator < tenPower digitLimit ∧
      fraction.denominator < tenPower digitLimit) :
    numberOfText (signedFraction negative fraction) =
      .ok (some (fractionValue negative fraction)) := by
  rw [← chars_fractionNumber, ← value_fractionNumber]
  have unit : fraction.denominator ≠ 0 := Nat.ne_of_gt positive
  by_cases whole : fraction.denominator = 1
  · refine WrittenNumber.numberOfText_rat ?_ ?_
    · simp only [fractionNumber, fractionMagnitude, if_pos whole, Magnitude.Short]
    · simp only [fractionNumber, fractionMagnitude, if_pos whole, Magnitude.divisor, ne_eq,
        one_ne_zero, not_false_eq_true]
  · obtain ⟨above, below⟩ := small.resolve_left whole
    refine WrittenNumber.numberOfText_rat ?_ ?_
    · simp only [fractionNumber, fractionMagnitude, if_neg whole, Magnitude.Short]
      exact ⟨(numeralLength_le_iff (by decide)).mpr above,
        (numeralLength_le_iff (by decide)).mpr below⟩
    · simpa only [fractionNumber, fractionMagnitude, if_neg whole, Magnitude.divisor,
        DigitRun.value_ofNat] using unit

theorem point_notMem_signedFraction : '.' ∉ signedFraction negative fraction := by
  rw [← chars_fractionNumber, WrittenNumber.chars, List.mem_append]
  have digits {n : Nat} (member : '.' ∈ numeral n) : False :=
    ne_of_isDigit (isDigit_of_mem_numeral member) (by decide : isDigit '.' = false) rfl
  rintro (sign | size)
  · rw [fractionNumber, chars_minusMark] at sign
    split at sign
    · simp at sign
    · cases sign
  · by_cases whole : fraction.denominator = 1
    · simp only [fractionNumber, fractionMagnitude, if_pos whole, Magnitude.chars,
        Magnitude.fractionChars, List.append_nil] at size
      exact digits size
    · simp only [fractionNumber, fractionMagnitude, if_neg whole, Magnitude.chars,
        DigitRun.ofNat, List.mem_append, List.mem_cons] at size
      rcases size with inside | point | inside
      · exact digits inside
      · exact absurd point (by decide)
      · exact digits inside

end Fractions

/-! ## The text of a scalar -/

/-- What is shown for an exact scalar: a whole number, decimal places where it is very small
or very large, a short fraction where one is near, or decimal places again. -/
inductive Shown (v : Rat) : List Char → Prop
  | whole (integral : v.den = 1) :
      Shown v (signedFraction (decide (v < 0)) ⟨v.num.natAbs, 1, 0⟩)
  | extreme (broken : v.den ≠ 1) (outside : |v| < 1 / 1000 ∨ 10000 < |v|) :
      Shown v (Reading.fixed 4 (.finite (decide (v < 0)) |v|))
  | short (broken : v.den ≠ 1) (low : 1 / 1000 ≤ |v|) (high : |v| ≤ 10000)
      (fraction : NearFraction) (nearest : fraction.IsNearest |v| 100)
      (close : |fractionValue (decide (v < 0)) fraction - v| < 1 / 1000000) :
      Shown v (signedFraction (decide (v < 0)) fraction)
  | long (broken : v.den ≠ 1) (low : 1 / 1000 ≤ |v|) (high : |v| ≤ 10000)
      (fraction : NearFraction) (nearest : fraction.IsNearest |v| 100)
      (far : 1 / 1000000 ≤ |fractionValue (decide (v < 0)) fraction - v|) :
      Shown v (Reading.fixed 2 (.finite (decide (v < 0)) |v|))

theorem reading_rat (v : Rat) : Scalar.reading v = .finite (decide (v < 0)) |v| := by
  change Reading.ofRat v = _
  rw [Reading.ofRat]
  split
  · rename_i negative
    rw [abs_of_neg negative]
  · rename_i nonneg
    rw [abs_of_nonneg (not_lt.mp nonneg)]

theorem shown_fractionChars (v : Rat) : Shown v (fractionChars fractionTolerance v) := by
  have low : (Scalar.decimal 1 (-3) : Rat) = 1 / 1000 := by decide +kernel
  have high : (Scalar.decimal 10000 0 : Rat) = 10000 := by decide +kernel
  have tolerance : (Scalar.decimal 1 (-6) : Rat) = 1 / 1000000 := by decide +kernel
  have numerator : |v|.num.natAbs = v.num.natAbs := by
    rw [Rat.num_abs_eq_abs_num, Int.natAbs_abs]
  have nonzero : (|v|.num != 0) = (v.num.natAbs != 0) := by
    rw [Rat.num_abs_eq_abs_num, Bool.eq_iff_iff]
    simp
  have nearest := @NearFraction.isNearest_nearest v.num.natAbs v.den v.pos denominatorBound
  rw [← abs_eq_div] at nearest
  rw [fractionChars, reading_rat]
  simp only [numerator, nonzero, Rat.den_abs_eq_den]
  split
  · rename_i integral
    exact .whole integral
  · rename_i broken
    simp only [Scalar.lt_rat, Scalar.magnitude_rat, low, high, Bool.or_eq_true, decide_eq_true_eq]
    split
    · rename_i outside
      exact .extreme broken outside
    · rename_i inside
      obtain ⟨notSmall, notLarge⟩ := not_or.mp inside
      have asIs (value : Rat) : Scalar.ofRat value = value := rfl
      simp only [asIs, fractionTolerance, Quantity.isAbove, Scalar.lt_rat, tolerance,
        decide_eq_true_eq]
      split
      · rename_i close
        rw [abs_sub_comm] at close
        exact .short broken (not_lt.mp notSmall) (not_lt.mp notLarge) _ nearest close
      · rename_i far
        rw [abs_sub_comm] at far
        exact .long broken (not_lt.mp notSmall) (not_lt.mp notLarge) _ nearest (not_lt.mp far)

/-! ## Reading back -/

/-- A rounded size with the sign of the scalar is as near to the scalar as to its size. -/
theorem abs_signed_sub (v rounded : Rat) :
    |(if decide (v < 0) then -rounded else rounded) - v| = |(rounded - |v|)| := by
  by_cases negative : v < 0
  · rw [decide_eq_true negative, if_pos rfl, abs_of_neg negative, ← abs_neg]
    congr 1
    ring
  · rw [decide_eq_false negative, if_neg Bool.false_ne_true, abs_of_nonneg (not_lt.mp negative)]

theorem read_fixed (v : Rat) {places : Nat} (some : places ≠ 0) :
    ∃ w : Rat, numberOfText (Reading.fixed places (.finite (decide (v < 0)) |v|)) =
      .ok (Option.some w) ∧ |w - v| ≤ 1 / (2 * tenPower places) := by
  refine ⟨_, numberOfText_fixed _ _ some, ?_⟩
  rw [abs_signed_sub]
  exact abs_roundedSize_sub_le places (abs_nonneg v)

/-- A short fraction is as near to the scalar as its value to the size. -/
theorem abs_sub_fractionValue (v : Rat) (fraction : NearFraction) :
    |fractionValue (decide (v < 0)) fraction - v| = |(fraction.value - |v|)| := by
  rw [fractionValue_eq, abs_signed_sub]

theorem tenPower_mono {small large : Nat} (le : small ≤ large) : tenPower small ≤ tenPower large :=
  Nat.pow_le_pow_right (by decide) le

/-- The numerator and the denominator of a short fraction are short. -/
theorem small_of_close {v : Rat} {fraction : NearFraction} (high : |v| ≤ 10000)
    (positive : 1 ≤ fraction.denominator) (bounded : fraction.denominator ≤ 100)
    (close : |fractionValue (decide (v < 0)) fraction - v| < 1 / 1000000) :
    fraction.numerator < tenPower digitLimit ∧ fraction.denominator < tenPower digitLimit := by
  have limit : 10000000 ≤ tenPower digitLimit := @tenPower_mono 7 digitLimit (by decide)
  have unit : (0 : Rat) < fraction.denominator := Nat.cast_pos.mpr positive
  have hundred : (fraction.denominator : Rat) ≤ 100 := by exact_mod_cast bounded
  rw [abs_sub_fractionValue] at close
  have value : fraction.value ≤ 10001 := by
    have above := (abs_lt.mp close).2
    linarith
  have numerator : (fraction.numerator : Rat) ≤ 1000100 := by
    rw [NearFraction.value, div_le_iff₀ unit] at value
    linarith
  have whole : fraction.numerator ≤ 1000100 := by exact_mod_cast numerator
  exact ⟨lt_of_lt_of_le (by omega) limit, lt_of_lt_of_le (by omega) limit⟩

/-- The scalar as a fraction in lowest terms, without its sign. -/
def ownFraction (v : Rat) : NearFraction := ⟨v.num.natAbs, v.den, 0⟩

theorem fractionValue_ownFraction (v : Rat) :
    fractionValue (decide (v < 0)) (ownFraction v) = v := by
  refine sub_eq_zero.mp (abs_eq_zero.mp ?_)
  rw [abs_sub_fractionValue, abs_eq_div v, NearFraction.value, ownFraction, sub_self, abs_zero]

/-- The scalar shown as a fraction is its numerator with a sign, and its denominator unless
this is one. -/
theorem signedFraction_ownFraction (v : Rat) :
    signedFraction (decide (v < 0)) (ownFraction v) =
      integerNumeral v.num ++ if v.den = 1 then [] else '/' :: numeral v.den := by
  have sign : decide (v < 0) = decide (v.num < 0) := decide_eq_decide.mpr Rat.num_neg.symm
  have signed : (if decide (v.num < 0) && v.num.natAbs != 0 then ['-'] else []) ++
      numeral v.num.natAbs = integerNumeral v.num := by
    cases v.num with
    | ofNat n => simp [integerNumeral]
    | negSucc n => simp [integerNumeral, Int.negSucc_lt_zero]
  rw [sign, ← signed]
  by_cases whole : v.den = 1
  · rw [if_pos whole, List.append_nil]
    exact if_pos whole
  · rw [if_neg whole]
    exact if_neg whole

/-- A fraction in lowest terms with a small denominator is shown as itself. -/
theorem fractionChars_eq_ownFraction {v : Rat} (small : v.den ≤ 100) (low : 1 / 1000 ≤ |v|)
    (high : |v| ≤ 10000) :
    fractionChars fractionTolerance v = signedFraction (decide (v < 0)) (ownFraction v) := by
  have itself {fraction : NearFraction} (nearest : fraction.IsNearest |v| 100) :
      fraction.numerator = v.num.natAbs ∧ fraction.denominator = v.den := by
    rw [abs_eq_div] at nearest
    exact nearest.eq_of_coprime v.pos small v.reduced
  have shown := shown_fractionChars v
  generalize fractionChars fractionTolerance v = text at shown
  cases shown with
  | whole integral => rw [ownFraction, integral]
  | extreme _ outside => exact absurd outside (by rw [not_or, not_lt, not_lt]; exact ⟨low, high⟩)
  | short _ _ _ fraction nearest _ =>
      obtain ⟨numerator, denominator, distance⟩ := fraction
      obtain ⟨rfl, rfl⟩ := itself nearest
      rfl
  | long _ _ _ fraction nearest far =>
      obtain ⟨numerator, denominator⟩ := itself nearest
      rw [abs_sub_fractionValue, NearFraction.value, numerator, denominator, ← abs_eq_div,
        sub_self, abs_zero] at far
      norm_num at far

theorem numberOfText_ownFraction {v : Rat}
    (small : v.den = 1 ∨ v.den ≤ 100 ∧ |v| ≤ 10000) :
    numberOfText (signedFraction (decide (v < 0)) (ownFraction v)) = .ok (some v) := by
  have read := numberOfText_signedFraction (decide (v < 0)) (ownFraction v) v.pos <|
    small.imp_right fun ⟨bounded, high⟩ => small_of_close high v.pos bounded <| by
      rw [fractionValue_ownFraction, sub_self, abs_zero]
      norm_num
  rwa [fractionValue_ownFraction] at read

/-- In every text that is shown a number is found, and how far it is from the scalar depends
on the text. -/
theorem exists_read_of_shown {v : Rat} {text : List Char} (shown : Shown v text) :
    ∃ w : Rat, numberOfText text = .ok (some w) ∧
      (v.den = 1 → w = v) ∧
      (v.den ≠ 1 → |v| < 1 / 1000 ∨ 10000 < |v| → |w - v| ≤ 5 / 100000) ∧
      (v.den ≠ 1 → 1 / 1000 ≤ |v| → |v| ≤ 10000 →
        ('.' ∉ text → |w - v| < 1 / 1000000) ∧ ('.' ∈ text → |w - v| ≤ 5 / 1000)) := by
  have inside (low : 1 / 1000 ≤ |v|) (high : |v| ≤ 10000) : ¬ (|v| < 1 / 1000 ∨ 10000 < |v|) :=
    not_or.mpr ⟨not_lt.mpr low, not_lt.mpr high⟩
  cases shown with
  | whole integral =>
      have read := numberOfText_ownFraction (.inl integral)
      rw [ownFraction, integral] at read
      exact ⟨v, read, fun _ => rfl, fun broken => absurd integral broken,
        fun broken => absurd integral broken⟩
  | extreme broken outside =>
      obtain ⟨w, read, close⟩ := read_fixed v (by decide : 4 ≠ 0)
      refine ⟨w, read, fun integral => absurd integral broken, fun _ _ => ?_,
        fun _ low high => absurd outside (inside low high)⟩
      exact close.trans (by norm_num [tenPower])
  | short broken low high fraction nearest close =>
      have read := numberOfText_signedFraction (decide (v < 0)) fraction nearest.positive
        (.inr (small_of_close high nearest.positive nearest.bounded close))
      refine ⟨_, read, fun integral => absurd integral broken,
        fun _ outside => absurd outside (inside low high), fun _ _ _ => ⟨fun _ => close, ?_⟩⟩
      exact fun point => absurd point (point_notMem_signedFraction _ _)
  | long broken low high fraction nearest far =>
      obtain ⟨w, read, close⟩ := read_fixed v (by decide : 2 ≠ 0)
      refine ⟨w, read, fun integral => absurd integral broken,
        fun _ outside => absurd outside (inside low high), fun _ _ _ => ⟨?_, fun _ => ?_⟩⟩
      · exact fun missing => absurd (point_mem_fixed _ _ (by decide)) missing
      · exact close.trans (by norm_num [tenPower])

/-- **Fractions are read back.** Every exact scalar is shown as a text in which a number is
found. It is the scalar itself if this is whole, it is off by at most 0.00005 if the scalar is
very small or very large, and otherwise by less than 0.000001 or by at most 0.005, according to
whether the text has a point.

A fraction in lowest terms with a denominator up to one hundred, neither very small nor very
large, is shown as its numerator and its denominator, and is read back exactly. -/
theorem fraction_read_back :
    (∀ v : Rat, ∃ w : Rat, number (.text (fractionText v)) = .ok (some w) ∧
      (v.den = 1 → w = v) ∧
      (v.den ≠ 1 → |v| < 1 / 1000 ∨ 10000 < |v| → |w - v| ≤ 5 / 100000) ∧
      (v.den ≠ 1 → 1 / 1000 ≤ |v| → |v| ≤ 10000 →
        ('.' ∉ (fractionText v).toList → |w - v| < 1 / 1000000) ∧
        ('.' ∈ (fractionText v).toList → |w - v| ≤ 5 / 1000))) ∧
    ∀ (p : Int) (q : Nat), p.natAbs.Coprime q → 1 ≤ q → q ≤ 100 →
      1 / 1000 ≤ |(p : Rat) / q| → |(p : Rat) / q| ≤ 10000 →
        (fractionText ((p : Rat) / q)).toList =
          integerNumeral p ++ (if q = 1 then [] else '/' :: numeral q) ∧
        number (.text (fractionText ((p : Rat) / q))) = .ok (some ((p : Rat) / q)) := by
  have text (v : Rat) : (fractionText v).toList = fractionChars fractionTolerance v := by
    rw [fractionText, String.toList_ofList]
  constructor
  · intro v
    rw [number, text]
    exact exists_read_of_shown (shown_fractionChars v)
  · intro p q lowest positive bounded low high
    have numerator : ((p : Rat) / q).num = p :=
      Rat.num_div_eq_of_coprime (Nat.cast_pos.mpr positive) lowest
    have denominator : ((p : Rat) / q).den = q := by
      exact_mod_cast Rat.den_div_eq_of_coprime (Nat.cast_pos.mpr positive) lowest
    have small : ((p : Rat) / q).den ≤ 100 := denominator.trans_le bounded
    have shown := fractionChars_eq_ownFraction small low high
    constructor
    · rw [text, shown, signedFraction_ownFraction, numerator, denominator]
    · rw [number, text, shown]
      exact numberOfText_ownFraction (.inr ⟨small, high⟩)

theorem fraction_read_back_threeSevenths :
    (∃ w : Rat, number (.text (fractionText (1 / 3000 : Rat))) = .ok (some w) ∧
      |w - 1 / 3000| ≤ 5 / 100000) ∧
    (fractionText (((-3 : Int) : Rat) / (7 : Nat))).toList = "-3/7".toList ∧
    number (.text (fractionText (((-3 : Int) : Rat) / (7 : Nat)))) =
      .ok (some (((-3 : Int) : Rat) / (7 : Nat))) := by
  constructor
  · obtain ⟨w, read, -, tiny, -⟩ := fraction_read_back.1 (1 / 3000)
    exact ⟨w, read, tiny (by decide +kernel) (.inl (by decide +kernel))⟩
  · have negative := fraction_read_back.2 (-3) 7 (by decide) (by decide) (by decide)
      (by decide +kernel) (by decide +kernel)
    refine ⟨?_, negative.2⟩
    rw [negative.1]
    decide

end SimplexSolver.Display
