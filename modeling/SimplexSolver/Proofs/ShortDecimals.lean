import SimplexSolver.Proofs.NearestDoubles

/-!
# Short decimals

A short decimal has at most six digits and lies between 0.0001 and one million. These are the
decimals that are written with all of their digits and without an exponent.

Texts are written from scalars and read into scalars, and what is shown of the scalars in
between are their signs, their comparisons with zero and with a negligible size, and their
readings. `Scalar.Faithful` says what all of these do on short decimals. Exact scalars are
faithful. So are doubles, because a short decimal is near to a normal double
(`Binary64.normal_decimal`), whose error is far below one unit of the sixth digit.
-/

set_option autoImplicit false

namespace SimplexSolver

/-- A decimal with at most six digits, from 0.0001 up to one million. -/
structure ShortDecimal where
  digits : Nat
  exponent : Int
  few : digits < 1000000
  least : 1 / 10000 ≤ (digits : Rat) * 10 ^ exponent
  most : (digits : Rat) * 10 ^ exponent < 1000000

namespace ShortDecimal

/-- The exact value of a decimal. -/
def value (decimal : ShortDecimal) : Rat := decimal.digits * 10 ^ decimal.exponent

theorem value_pos (decimal : ShortDecimal) : 0 < decimal.value :=
  lt_of_lt_of_le (by norm_num) decimal.least

theorem digits_pos (decimal : ShortDecimal) : 0 < decimal.digits := by
  refine Nat.pos_of_ne_zero fun none => decimal.value_pos.ne' ?_
  rw [value, none, Nat.cast_zero, zero_mul]

section Scalars

variable {α : Type} [Scalar α]

/-- The scalar nearest to a decimal. -/
def scalar (decimal : ShortDecimal) : α := Scalar.decimal decimal.digits decimal.exponent

/-- The scalar nearest to a decimal, with a sign. -/
def signed (negative : Bool) (decimal : ShortDecimal) : α :=
  if negative then -decimal.scalar else decimal.scalar

end Scalars

end ShortDecimal

/-! ## Faithful scalars -/

namespace Scalar

variable {α : Type} [Scalar α]

/-- A scalar with a sign. -/
def withSign (negative : Bool) (value : α) : α := if negative then -value else value

/-- A positive scalar as its signs, its comparisons with zero and its sums with zero show it. -/
structure Regular (value : α) : Prop where
  magnitude_eq (negative : Bool) : magnitude (withSign negative value) = value
  lt_zero (negative : Bool) : lt (withSign negative value) 0 = negative
  ge_zero (negative : Bool) : ge (withSign negative value) 0 = !negative
  same_zero (negative : Bool) : same (withSign negative value) 0 = false
  isFinite_eq (negative : Bool) : isFinite (withSign negative value) = true
  zero_add (negative : Bool) : 0 + withSign negative value = withSign negative value

/-- Scalars on which short decimals are told apart and keep their digits. -/
class Faithful (α : Type) [Scalar α] : Prop where
  /-- The scalar nearest to a decimal depends on its value alone. -/
  decimal_congr {digits other : Nat} {exponent otherExponent : Int}
    (same : (digits : Rat) * 10 ^ exponent = other * 10 ^ otherExponent) :
      (decimal digits exponent : α) = decimal other otherExponent
  regular (short : ShortDecimal) : Regular (short.scalar : α)
  /-- A short decimal is read as a number that agrees with it in eight digits. -/
  reading_eq (short : ShortDecimal) : ∃ size : Rat,
    reading (short.scalar : α) = .finite false size ∧
      |size - short.value| ≤ short.value / 100000000
  /-- A short decimal is not negligible. -/
  negligible_lt (short : ShortDecimal) : lt (decimal 1 (-10)) (short.scalar : α) = true
  /-- A zero is. -/
  negligible_lt_zero {value : α} (zero : same value 0 = true) :
    lt (decimal 1 (-10)) (magnitude value) = false

end Scalar

namespace ShortDecimal

/-! ## Signed decimals -/

section Signed

variable {α : Type} [Scalar α] [Scalar.Faithful α] (negative : Bool) (decimal : ShortDecimal)

theorem magnitude_signed : Scalar.magnitude (decimal.signed negative : α) = decimal.scalar :=
  (Scalar.Faithful.regular decimal).magnitude_eq negative

theorem lt_zero_signed : Scalar.lt (decimal.signed negative : α) 0 = negative :=
  (Scalar.Faithful.regular decimal).lt_zero negative

theorem ge_zero_signed : Scalar.ge (decimal.signed negative : α) 0 = !negative :=
  (Scalar.Faithful.regular decimal).ge_zero negative

theorem same_zero_signed : Scalar.same (decimal.signed negative : α) 0 = false :=
  (Scalar.Faithful.regular decimal).same_zero negative

theorem isFinite_signed : Scalar.isFinite (decimal.signed negative : α) = true :=
  (Scalar.Faithful.regular decimal).isFinite_eq negative

theorem zero_add_signed : 0 + (decimal.signed negative : α) = decimal.signed negative :=
  (Scalar.Faithful.regular decimal).zero_add negative

end Signed

end ShortDecimal

/-! ## Exact scalars -/

theorem ShortDecimal.scalar_rat (decimal : ShortDecimal) : decimal.scalar = decimal.value :=
  Scalar.decimal_rat _ _

instance : Scalar.Faithful Rat where
  decimal_congr same := by rwa [Scalar.decimal_rat, Scalar.decimal_rat]
  regular short := by
    rw [short.scalar_rat]
    have positive := short.value_pos
    constructor <;> rintro (_ | _) <;>
      simp [Scalar.withSign, Scalar.ge, abs_of_pos, positive, positive.le, positive.ne']
  reading_eq short := by
    refine ⟨short.value, ?_, ?_⟩
    · rw [short.scalar_rat]
      change Reading.ofRat _ = _
      rw [Reading.ofRat, if_neg (not_lt.mpr short.value_pos.le),
        decide_eq_false (not_lt.mpr short.value_pos.le)]
    · rw [sub_self, abs_zero]
      exact div_nonneg short.value_pos.le (by norm_num)
  negligible_lt short := by
    rw [short.scalar_rat, Scalar.lt_rat, Scalar.decimal_rat, decide_eq_true_eq]
    exact lt_of_lt_of_le (by norm_num) short.least
  negligible_lt_zero := by
    intro value zero
    rw [Scalar.same_rat, decide_eq_true_eq] at zero
    rw [zero, Scalar.lt_rat, Scalar.decimal_rat, Scalar.magnitude_rat, abs_zero,
      decide_eq_false_iff_not, not_lt]
    norm_num

/-! ## Doubles -/

namespace Binary64

open Float.Model Float.Model.UnpackedFloat

section Positive

variable {value : Float} {mantissa : Nat} {exponent : Int} {positive : 0 < mantissa}
  (form : unpacked value = .finite .positive mantissa exponent positive)
include form

/-- A positive double with a sign has the sign in its unpacked form. -/
theorem unpacked_withSign (negative : Bool) : unpacked (Scalar.withSign negative value) =
    .finite (if negative then .negative else .positive) mantissa exponent positive := by
  cases negative with
  | false => exact form
  | true =>
      refine (unpacked_neg value).trans ?_
      rw [form]
      rfl

/-- A positive double behaves as one. -/
theorem regular_of_unpacked : Scalar.Regular value := by
  have signed := unpacked_withSign form
  constructor <;> intro negative
  · refine unpacked_injective ((unpacked_abs _).trans ?_)
    rw [signed, form]
    rfl
  · rw [lt_double, signed]
    cases negative <;> rfl
  · rw [Scalar.ge, le_double, signed]
    cases negative <;> rfl
  · rw [same_double, signed]
    cases negative <;> rfl
  · rw [isFinite_double, signed]
    rfl
  · have stays := packed_unpacked (Scalar.withSign negative value)
    refine (zero_add_double _).trans ?_
    rw [signed] at stays ⊢
    exact stays

/-- Of two positive normal doubles the one with the lower last place is smaller. -/
theorem lt_of_exponent_lt {other : Float} {otherMantissa : Nat} {otherExponent : Int}
    {otherPositive : 0 < otherMantissa}
    (otherForm : unpacked other = .finite .positive otherMantissa otherExponent otherPositive)
    (lower : exponent < otherExponent) : Scalar.lt value other = true := by
  have order : compare exponent otherExponent = .lt := Int.compare_eq_lt.mpr lower
  rw [lt_double, form, otherForm, UnpackedFloat.lt, UnpackedFloat.compare, order]
  rfl

end Positive

/-- A double that is the same as zero is one of the two zeros. -/
theorem exists_sign_of_same_zero {value : Float} (zero : Scalar.same value 0 = true) :
    ∃ sign, unpacked value = .zero sign := by
  rw [same_double] at zero
  cases form : unpacked value with
  | zero sign => exact ⟨sign, rfl⟩
  | notANumber =>
      rw [form] at zero
      cases zero
  | infinity sign =>
      rw [form] at zero
      cases sign <;> cases zero
  | finite sign mantissa exponent positive =>
      rw [form] at zero
      cases sign <;> cases zero

/-- A zero is its own magnitude, up to its sign, and not above any positive double. -/
theorem lt_magnitude_zero {value bound : Float} {mantissa : Nat} {exponent : Int}
    {positive : 0 < mantissa}
    (form : unpacked bound = .finite .positive mantissa exponent positive)
    (zero : Scalar.same value 0 = true) : Scalar.lt bound (Scalar.magnitude value) = false := by
  obtain ⟨sign, none⟩ := exists_sign_of_same_zero zero
  have size : unpacked (Scalar.magnitude value) = .zero .positive := by
    refine (unpacked_abs value).trans ?_
    rw [none]
    rfl
  rw [lt_double, form, size]
  rfl

/-- A short decimal is near to a normal double, and the place of its last bit is bounded. -/
theorem exists_normal (short : ShortDecimal) :
    ∃ (mantissa : Nat) (place : Int) (positive : 0 < mantissa),
      unpacked short.scalar = .finite .positive mantissa place positive ∧
      reading short.scalar = .finite false (mantissa * 2 ^ place) ∧ -66 ≤ place ∧
      |(mantissa : Rat) * 2 ^ place - short.value| ≤ short.value / 100000000 := by
  have positive := short.value_pos
  obtain ⟨mantissa, place, some, form, read, least, -, near⟩ := @normal_decimal short.digits
    short.exponent (le_trans (by norm_num) short.least) (short.most.trans (by norm_num))
  change Int.log 2 short.value - 52 ≤ place at least
  change |_ - short.value| ≤ 2 ^ (Int.log 2 short.value - 53) at near
  have leading : (-14 : Int) ≤ Int.log 2 short.value :=
    (Int.zpow_le_iff_le_log (by decide) positive).mp
      (le_trans (by norm_num) short.least)
  have unit : (2 : Rat) ^ Int.log 2 short.value ≤ short.value :=
    mod_cast Int.zpow_log_le_self (b := 2) (by decide) positive
  refine ⟨mantissa, place, some, form, read, by omega, near.trans ?_⟩
  calc (2 : Rat) ^ (Int.log 2 short.value - 53)
      = 2 ^ Int.log 2 short.value * 2 ^ (-53 : Int) := zpow_add₀ two_ne_zero _ _
    _ ≤ short.value * (1 / 100000000) := by
        gcongr
        norm_num
    _ = short.value / 100000000 := mul_one_div _ _

/-- The size of negligible coefficients is near to a normal double as well. -/
theorem exists_negligible : ∃ (mantissa : Nat) (place : Int) (positive : 0 < mantissa),
    unpacked (decimal 1 (-10)) = .finite .positive mantissa place positive ∧ place ≤ -85 := by
  obtain ⟨mantissa, place, some, form, -, -, most, -⟩ :=
    @normal_decimal 1 (-10) (by norm_num) (by norm_num)
  refine ⟨mantissa, place, some, form, ?_⟩
  have leading : Int.log 2 (((1 : Nat) : Rat) * 10 ^ (-10 : Int)) < -33 :=
    (Int.lt_zpow_iff_log_lt (by decide) (by norm_num)).mp (by norm_num)
  omega

end Binary64

instance : Scalar.Faithful Float where
  decimal_congr := Binary64.decimal_congr
  regular short := by
    obtain ⟨mantissa, place, positive, form, -⟩ := Binary64.exists_normal short
    exact Binary64.regular_of_unpacked form
  reading_eq short := by
    obtain ⟨mantissa, place, positive, -, read, -, near⟩ := Binary64.exists_normal short
    exact ⟨_, read, near⟩
  negligible_lt short := by
    obtain ⟨mantissa, place, positive, form, -, least, -⟩ := Binary64.exists_normal short
    obtain ⟨small, lower, smallPositive, smallForm, most⟩ := Binary64.exists_negligible
    -- their last places are too far apart for their mantissas to matter
    exact Binary64.lt_of_exponent_lt smallForm form (by omega)
  negligible_lt_zero zero := by
    obtain ⟨small, lower, smallPositive, smallForm, -⟩ := Binary64.exists_negligible
    exact Binary64.lt_magnitude_zero smallForm zero

end SimplexSolver
