import SimplexSolver.Display.Scalar
import SimplexSolver.Proofs.ShortDecimals
import SimplexSolver.Proofs.WrittenNumbers

/-!
# Numbers with six digits

A coefficient is written with at most six significant digits. They are the digits of the nearest
number in units of the sixth place, without the zeros at their end, and unless the number is
very small or very large they are laid out without an exponent.

A number near to a decimal of six digits has the digits of this decimal, although it may lie
below it and have its own first digit one place later (`Reading.leadingDigits_eq`). Laid out
without an exponent they are a written number that is worth the decimal
(`Magnitude.value_positional`). So a short decimal is written as a number whose nearest scalar
is that of the decimal (`Display.exists_writtenAs`).
-/

set_option autoImplicit false

namespace SimplexSolver

open Text

/-! ## Significant digits -/

namespace Reading

/-- The digits of a quotient whose leading place is known are the nearest number in units of
their last place. -/
theorem leadingDigits_of_log {places num den : Nat} {first : Int} (below : 0 < den)
    (leading : leadingExponent num den = first) {units : Nat}
    (near : |(num : Rat) / den * 10 ^ ((places : Int) - first) - units| < 1 / 2) :
    leadingDigits (places + 1) num den =
      if units = tenPower (places + 1) then (tenPower places, first + 1) else (units, first) := by
  have place : ((places + 1 : Nat) : Int) - 1 - first = places - first := by omega
  rw [← scaleByTen_ratio] at near
  have rounded := roundHalfEven_eq_of_near (scaleByTen_pos below _) near
  simp only [leadingDigits, leading, place, rounded, Nat.add_sub_cancel]

/-- **The significant digits of a number near to a decimal** with as many digits are those of the
decimal. -/
theorem leadingDigits_eq {places num den digits : Nat} {exponent : Int} (below : 0 < den)
    (least : tenPower places ≤ digits) (most : digits < tenPower (places + 1))
    (near : |(num : Rat) / den / 10 ^ exponent - digits| < 1 / 20) :
    leadingDigits (places + 1) num den = (digits, exponent + places) := by
  have unit : (0 : Rat) < 10 ^ exponent := zpow_pos (by norm_num) _
  have power (count : Nat) : (10 : Rat) ^ (exponent + count) = tenPower count * 10 ^ exponent := by
    rw [zpow_add₀ (by norm_num), cast_tenPower, mul_comm]
  have first : (1 : Rat) ≤ tenPower places := Nat.one_le_cast.mpr (tenPower_pos places)
  have ten : ((tenPower (places + 1) : Nat) : Rat) = tenPower places * 10 := by
    rw [tenPower_succ]
    push_cast
    rfl
  have leastCast : ((tenPower places : Nat) : Rat) ≤ digits := Nat.cast_le.mpr least
  have mostCast : (digits : Rat) + 1 ≤ tenPower (places + 1) := by exact_mod_cast most
  obtain ⟨less, more⟩ := abs_lt.mp near
  -- The number may lie below the decimal and have its first digit one place later.
  by_cases reaches : ((tenPower places : Nat) : Rat) ≤ num / den / 10 ^ exponent
  · have leading : leadingExponent num den = exponent + places := by
      refine leadingExponent_eq below ?_ ?_
      · rwa [power, ← le_div_iff₀ unit]
      · rw [add_assoc, ← Nat.cast_succ, power, ← div_lt_iff₀ unit]
        linarith
    rw [@leadingDigits_of_log places num den _ below leading digits, if_neg most.ne]
    rw [sub_add_cancel_right, zpow_neg, ← div_eq_mul_inv]
    exact near.trans (by norm_num)
  · rw [not_le] at reaches
    -- Then the digits are a power of ten, and those of the number are rounded up to the next one.
    have same : digits = tenPower places := by
      have small : (digits : Rat) < (tenPower places + 1 : Nat) := by
        push_cast
        linarith
      rw [Nat.cast_lt] at small
      omega
    have leading : leadingExponent num den = exponent + places - 1 := by
      refine leadingExponent_eq below ?_ ?_
      · rw [zpow_sub_one₀ (by norm_num), power, ← div_eq_mul_inv, mul_div_right_comm,
          ← le_div_iff₀ unit]
        linarith
      · rwa [sub_add_cancel, power, ← div_lt_iff₀ unit]
    have shift : (places : Int) - (exponent + places - 1) = -exponent + 1 := by omega
    rw [@leadingDigits_of_log places num den _ below leading (tenPower (places + 1)), if_pos rfl,
      same, sub_add_cancel]
    rw [shift, zpow_add_one₀ (by norm_num), zpow_neg, ← mul_assoc, ← div_eq_mul_inv, ten, ← same,
      ← sub_mul, abs_mul, abs_of_pos (by norm_num : (0 : Rat) < 10)]
    linarith

/-- A positive number near to a decimal is written with the digits of the decimal. -/
theorem significant_eq {places digits : Nat} {exponent : Int} {size : Rat} (layout : Layout)
    (positive : 0 < size) (least : tenPower places ≤ digits) (most : digits < tenPower (places + 1))
    (near : |size / 10 ^ exponent - digits| < 1 / 20) :
    significant (places + 1) layout (.finite false size) =
      layout.write false (significantDigits digits) (exponent + places) := by
  have some : size.num ≠ 0 := (Rat.num_pos.mpr positive).ne'
  have ratio : size = (size.num.natAbs : Rat) / size.den :=
    (abs_of_pos positive).symm.trans (abs_eq_div size)
  rw [ratio] at near
  rw [significant, if_neg some, leadingDigits_eq size.pos least most near]

end Reading

/-! ## Digits without the zeros at their end -/

theorem significantDigits_ne_nil (n : Nat) : significantDigits n ≠ [] := by
  unfold significantDigits
  split
  · exact List.cons_ne_nil _ _
  · rename_i some
    exact List.reverse_ne_nil_iff.mpr some

theorem isDigit_of_mem_significantDigits {n : Nat} {c : Char} (member : c ∈ significantDigits n) :
    isDigit c = true := by
  unfold significantDigits at member
  split at member
  · obtain rfl := List.mem_singleton.mp member
    decide
  · have kept := (List.dropWhile_suffix (· == '0')).subset (List.mem_reverse.mp member)
    exact isDigit_of_mem_numeral (List.mem_reverse.mp kept)

/-- A numeral goes on after its significant digits with zeros. -/
theorem numeral_eq_append {n : Nat} (positive : 0 < n) :
    ∃ zeros, numeral n = significantDigits n ++ List.replicate zeros '0' := by
  obtain ⟨zeros, last⟩ : ∃ zeros, (numeral n).reverse.takeWhile (· == '0') =
      List.replicate zeros '0' :=
    ⟨_, List.eq_replicate_of_mem fun c member => by simpa using List.mem_takeWhile_imp member⟩
  have parts := List.takeWhile_append_dropWhile (p := (· == '0')) (l := (numeral n).reverse)
  rw [last, ← List.reverse_inj, List.reverse_reverse, List.reverse_append,
    List.reverse_replicate] at parts
  refine ⟨zeros, parts.symm.trans ?_⟩
  unfold significantDigits
  split
  · rename_i none
    have worth := digitsValue_numeral n
    rw [← parts, none, List.reverse_nil, List.nil_append, digitsValue_replicate_zero] at worth
    exact absurd worth positive.ne
  · rfl

namespace Entry

/-- The significant digits of a number. -/
def DigitRun.significant (n : Nat) : DigitRun :=
  ⟨significantDigits n, significantDigits_ne_nil n, fun _ => isDigit_of_mem_significantDigits⟩

/-- The significant digits are worth the number without the zeros at its end. -/
theorem DigitRun.value_significant {n : Nat} (positive : 0 < n) :
    ((significant n).value : Rat) *
      10 ^ ((numeralLength n : Int) - (significant n).chars.length) = n := by
  obtain ⟨zeros, same⟩ := numeral_eq_append positive
  have worth := digitsValue_numeral n
  have length : numeralLength n = (significant n).chars.length + zeros := by
    rw [numeralLength, same, List.length_append, List.length_replicate]
    rfl
  have places : (numeralLength n : Int) - (significant n).chars.length = zeros := by omega
  rw [same, digitsValue_append, digitsValue_replicate_zero, List.length_replicate, Nat.add_zero]
    at worth
  rw [places, ← cast_tenPower, ← Nat.cast_mul]
  exact congrArg _ worth

/-! ## Numbers without an exponent -/

namespace Magnitude

theorem isDigit_of_zeros_append (zeros : Nat) (run : DigitRun) :
    ∀ c ∈ List.replicate zeros '0' ++ run.chars, isDigit c = true :=
  List.forall_mem_append.mpr ⟨fun _ => isDigit_of_mem_zeros, run.digits⟩

theorem isDigit_of_append_zeros (zeros : Nat) (run : DigitRun) :
    ∀ c ∈ run.chars ++ List.replicate zeros '0', isDigit c = true :=
  List.forall_mem_append.mpr ⟨run.digits, fun _ => isDigit_of_mem_zeros⟩

/-- Digits of which the first stands for a power of ten, written without an exponent. -/
def positional (run : DigitRun) (first : Int) : Magnitude :=
  if first < 0 then
    .decimal ['0'] (some (List.replicate (first.natAbs - 1) '0' ++ run.chars))
      (List.cons_ne_nil _ _)
      (List.forall_mem_cons.mpr ⟨by decide, isDigit_of_zeros_append _ run⟩)
  else if run.chars.length ≤ first.toNat + 1 then
    .decimal (run.chars ++ List.replicate (first.toNat + 1 - run.chars.length) '0') none
      (List.append_ne_nil_of_left_ne_nil (List.append_ne_nil_of_left_ne_nil run.nonempty _) _)
      (List.forall_mem_append.mpr ⟨isDigit_of_append_zeros _ run, nofun⟩)
  else
    .decimal (run.chars.take (first.toNat + 1)) (some (run.chars.drop (first.toNat + 1)))
      (by simpa using run.nonempty) (by simpa using run.digits)

/-- A layout without a mark on whole numbers writes digits in this way where it writes no
exponent. -/
theorem write_eq_positional {layout : Layout} {first : Int} (plain : layout.wholeMark = [])
    (low : layout.positionalFrom ≤ first) (high : first < layout.positionalBelow)
    (run : DigitRun) : layout.write false run.chars first = (positional run first).chars := by
  unfold Layout.write positional
  rw [if_pos ⟨low, high⟩]
  simp only [Bool.false_eq_true, if_false, List.nil_append, plain, List.append_nil]
  split_ifs
  · rfl
  · simp only [chars, fractionChars, List.append_nil]
  · rfl

theorem value_positional (run : DigitRun) (first : Int) :
    (positional run first).value = run.value * 10 ^ (first + 1 - run.chars.length) := by
  unfold positional
  split_ifs with small whole
  · have worth : digitsValue (['0'] ++ (List.replicate (first.natAbs - 1) '0' ++ run.chars)) =
        run.value := by
      rw [← List.append_assoc, digitsValue_append, List.singleton_append, ← List.replicate_succ,
        digitsValue_replicate_zero, Nat.zero_mul, Nat.zero_add]
      rfl
    have places : -((first.natAbs - 1 + run.chars.length : Nat) : Int) =
        first + 1 - run.chars.length := by omega
    rw [value_decimal, Option.getD_some, worth, List.length_append, List.length_replicate, places]
  · have places : ((first.toNat + 1 - run.chars.length : Nat) : Int) =
        first + 1 - run.chars.length := by omega
    rw [value_decimal, Option.getD_none, List.append_nil, digitsValue_append,
      digitsValue_replicate_zero, List.length_replicate, List.length_nil, Nat.add_zero,
      Nat.cast_mul, cast_tenPower, places, Nat.cast_zero, neg_zero, zpow_zero, mul_one]
    rfl
  · have places : -((run.chars.length - (first.toNat + 1) : Nat) : Int) =
        first + 1 - run.chars.length := by omega
    rw [value_decimal, Option.getD_some, List.take_append_drop, List.length_drop, places]
    rfl

section Scalars

variable {α : Type} [Scalar α] [Scalar.Faithful α] {decimal : ShortDecimal}

theorem nearest_of_value {whole : List Char} {fraction : Option (List Char)}
    {nonempty : whole ++ fraction.getD [] ≠ []}
    {digits : ∀ c ∈ whole ++ fraction.getD [], isDigit c = true}
    (same : (Magnitude.decimal whole fraction nonempty digits).value = decimal.value)
    (negative : Bool) : (Magnitude.decimal whole fraction nonempty digits).nearest negative =
      (decimal.signed negative : α) := by
  rw [value_decimal] at same
  simp only [nearest, ShortDecimal.signed, ShortDecimal.scalar, Scalar.Faithful.decimal_congr same]

/-- A short decimal that is written without an exponent has its scalar for its nearest one. -/
theorem nearest_positional {run : DigitRun} {first : Int}
    (same : (positional run first).value = decimal.value) (negative : Bool) :
    (positional run first).nearest negative = (decimal.signed negative : α) := by
  unfold positional at same ⊢
  split_ifs at same ⊢
  · exact nearest_of_value same negative
  · exact nearest_of_value same negative
  · exact nearest_of_value same negative

end Scalars

/-- Decimals are not converted and not divided. -/
theorem short_positional (run : DigitRun) (first : Int) :
    (positional run first).Short ∧ (positional run first).divisor = 1 := by
  unfold positional
  split_ifs
  · exact ⟨trivial, rfl⟩
  · exact ⟨trivial, rfl⟩
  · exact ⟨trivial, rfl⟩

end Magnitude

end Entry

/-! ## Short decimals with six digits -/

/-- A short decimal has six digits if zeros are added at its end. -/
theorem ShortDecimal.exists_units (decimal : ShortDecimal) :
    ∃ (units : Nat) (exponent : Int), tenPower 5 ≤ units ∧ units < tenPower 6 ∧
      decimal.value = units * 10 ^ exponent := by
  have positive := decimal.digits_pos
  have brief : numeralLength decimal.digits ≤ 6 :=
    (numeralLength_le_iff (by decide)).mpr decimal.few
  obtain ⟨low, high⟩ := numeralLength_bounds positive
  have added : (10 : Rat) ^ (6 - (numeralLength decimal.digits : Int)) =
      (tenPower (6 - numeralLength decimal.digits) : Nat) := by
    rw [cast_tenPower, Nat.cast_sub brief]
    rfl
  have unit : (0 : Rat) < (tenPower (6 - numeralLength decimal.digits) : Nat) :=
    Nat.cast_pos.mpr (tenPower_pos _)
  refine ⟨decimal.digits * tenPower (6 - numeralLength decimal.digits),
    decimal.exponent - (6 - numeralLength decimal.digits), ?_, ?_, ?_⟩
  · rw [← Nat.cast_le (α := Rat), Nat.cast_mul, cast_tenPower 5]
    calc (10 : Rat) ^ ((5 : Nat) : Int)
        = 10 ^ ((numeralLength decimal.digits : Int) - 1) *
            10 ^ (6 - (numeralLength decimal.digits : Int)) := by
          rw [← zpow_add₀ (by norm_num)]
          congr 1
          omega
      _ ≤ _ := by
          rw [added]
          exact mul_le_mul_of_nonneg_right low unit.le
  · rw [← Nat.cast_lt (α := Rat), Nat.cast_mul, cast_tenPower 6]
    calc _ < (10 : Rat) ^ (numeralLength decimal.digits : Int) *
            10 ^ (6 - (numeralLength decimal.digits : Int)) := by
          rw [added]
          exact mul_lt_mul_of_pos_right high unit
      _ = 10 ^ ((6 : Nat) : Int) := by
          rw [← zpow_add₀ (by norm_num)]
          congr 1
          omega
  · rw [Nat.cast_mul, ← added, mul_assoc, ← zpow_add₀ (by norm_num), add_sub_cancel]
    rfl

/-- A short decimal is written without an exponent. -/
theorem ShortDecimal.first_bounds (decimal : ShortDecimal) {units : Nat} {exponent : Int}
    (least : tenPower 5 ≤ units) (most : units < tenPower 6)
    (same : decimal.value = units * 10 ^ exponent) : -4 ≤ exponent + 5 ∧ exponent + 5 < 6 := by
  have unit : (0 : Rat) < 10 ^ exponent := zpow_pos (by norm_num) _
  have low := decimal.least
  have high := decimal.most
  change _ ≤ decimal.value at low
  change decimal.value < _ at high
  rw [same] at low high
  have above : (10 : Rat) ^ (-4 : Int) < 10 ^ (6 + exponent) :=
    calc (10 : Rat) ^ (-4 : Int) = 1 / 10000 := by norm_num
      _ ≤ units * 10 ^ exponent := low
      _ < tenPower 6 * 10 ^ exponent := mul_lt_mul_of_pos_right (Nat.cast_lt.mpr most) unit
      _ = 10 ^ (6 + exponent) := by
          rw [cast_tenPower, ← zpow_add₀ (by norm_num)]
          rfl
  have below : (10 : Rat) ^ (5 + exponent) < 10 ^ (6 : Int) :=
    calc (10 : Rat) ^ (5 + exponent) = tenPower 5 * 10 ^ exponent := by
          rw [cast_tenPower, ← zpow_add₀ (by norm_num)]
          rfl
      _ ≤ units * 10 ^ exponent := mul_le_mul_of_nonneg_right (Nat.cast_le.mpr least) unit.le
      _ < 1000000 := high
      _ = 10 ^ (6 : Int) := by norm_num
  have lowPlace := (zpow_lt_zpow_iff_right₀ (by norm_num : (1 : Rat) < 10)).mp above
  have highPlace := (zpow_lt_zpow_iff_right₀ (by norm_num : (1 : Rat) < 10)).mp below
  omega

namespace Display

open Entry

variable {α : Type} [Scalar α]

/-- A number without sign that is written for a short decimal and read back as its scalar. -/
structure WrittenAs (α : Type) [Scalar α] (decimal : ShortDecimal) (magnitude : Magnitude) : Prop
    where
  chars_eq : coefficientChars (decimal.scalar : α) = magnitude.chars
  short : magnitude.Short
  stands (negative : Bool) : magnitude.Stands α negative
  nearest_eq (negative : Bool) : magnitude.nearest negative = (decimal.signed negative : α)

/-- **A short decimal is written with all of its digits and without an exponent.** -/
theorem exists_writtenAs [Scalar.Faithful α] (decimal : ShortDecimal) :
    ∃ magnitude, WrittenAs α decimal magnitude := by
  obtain ⟨units, exponent, least, most, same⟩ := decimal.exists_units
  obtain ⟨size, read, near⟩ := Scalar.Faithful.reading_eq (α := α) decimal
  obtain ⟨low, high⟩ := decimal.first_bounds least most same
  have worth := decimal.value_pos
  have positive : 0 < size := by
    have above := (abs_le.mp near).1
    linarith
  have close : |size / 10 ^ exponent - units| < 1 / 20 := by
    have unit : (0 : Rat) < 10 ^ exponent := zpow_pos (by norm_num) _
    have few : (units : Rat) < 1000000 := by exact_mod_cast most
    have scaled : size / 10 ^ exponent - units = (size - decimal.value) / 10 ^ exponent := by
      rw [same, sub_div, mul_div_cancel_right₀ _ unit.ne']
    rw [scaled, abs_div, abs_of_pos unit, div_lt_iff₀ unit]
    calc |size - decimal.value| ≤ units * 10 ^ exponent / 100000000 := same ▸ near
      _ < 1 / 20 * 10 ^ exponent := by
          rw [mul_div_right_comm]
          refine mul_lt_mul_of_pos_right ?_ unit
          linarith
  have digits : 0 < units := (tenPower_pos 5).trans_le least
  have value : (Magnitude.positional (.significant units) (exponent + 5)).value =
      decimal.value := by
    have length : numeralLength units = 6 := by
      have brief : numeralLength units ≤ 6 := (numeralLength_le_iff (by decide)).mpr most
      have long : ¬ numeralLength units ≤ 5 :=
        mt (numeralLength_le_iff (by decide)).mp (Nat.not_lt.mpr least)
      omega
    have run := DigitRun.value_significant digits
    rw [length] at run
    have place : exponent + 5 + 1 - (DigitRun.significant units).chars.length =
        ((6 : Nat) : Int) - (DigitRun.significant units).chars.length + exponent := by omega
    rw [Magnitude.value_positional, place, zpow_add₀ (by norm_num), ← mul_assoc, run, same]
  refine ⟨.positional (.significant units) (exponent + 5), ?_, ?_, ?_, ?_⟩
  · have positional := @Magnitude.write_eq_positional coefficientLayout _ rfl low high
      (.significant units)
    rw [coefficientChars, read, ← positional]
    exact Reading.significant_eq coefficientLayout positive least most close
  · exact (Magnitude.short_positional _ _).1
  · intro negative
    refine ⟨(Magnitude.short_positional _ _).2 ▸ one_ne_zero, ?_⟩
    rw [Magnitude.nearest_positional value]
    exact decimal.isFinite_signed negative
  · exact Magnitude.nearest_positional value

end Display

end SimplexSolver
