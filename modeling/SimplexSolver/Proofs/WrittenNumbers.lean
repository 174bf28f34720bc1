import SimplexSolver.Proofs.Places

/-!
# Numbers as they are written

A number is written with an optional sign, and either as a quotient of two runs of digits or
as a decimal without an exponent. `WrittenNumber` is such a number with all that was written,
so that the reader of numbers can be compared with it.

The reader tries a literal first and then a quotient, and strips blanks and low lines on the
way. Of all that nothing is left for a written number: it is read as what it is, and its sign
counts only as far as it is a minus (`numberOfText_chars`). As long as no run of digits is too
long to be converted, the reader finds the scalar of the number or none at all
(`Magnitude.outcome_eq_some_iff`). Over exact scalars the only number without a scalar is a
quotient by zero (`Magnitude.stands_rat`).
-/

set_option autoImplicit false

namespace SimplexSolver.Entry

open Text

/-! ## What is written -/

/-- One or more digits. -/
structure DigitRun where
  chars : List Char
  nonempty : chars ≠ []
  digits : ∀ c ∈ chars, isDigit c = true

namespace DigitRun

/-- The number the digits write. -/
def value (run : DigitRun) : Nat := digitsValue run.chars

/-- The decimal numeral of a number. -/
def ofNat (n : Nat) : DigitRun := ⟨numeral n, numeral_ne_nil n, fun _ => isDigit_of_mem_numeral⟩

@[simp] theorem value_ofNat (n : Nat) : (ofNat n).value = n := digitsValue_numeral n

/-- Whether the digits are few enough to be converted. -/
def Short (run : DigitRun) : Prop := run.chars.length ≤ digitLimit

instance (run : DigitRun) : Decidable run.Short := inferInstanceAs (Decidable (_ ≤ _))

end DigitRun

/-- What stands in front of a number. -/
inductive SignMark where
  | none
  | plus
  | minus
  deriving DecidableEq, Repr

namespace SignMark

/-- The characters of a sign. -/
def chars : SignMark → List Char
  | none => []
  | plus => ['+']
  | minus => ['-']

/-- Whether the sign makes a number negative. -/
def negative : SignMark → Bool
  | minus => true
  | _ => false

/-- The same sign, written out. -/
def explicit : SignMark → SignMark
  | none => plus
  | mark => mark

@[simp] theorem negative_explicit (mark : SignMark) : mark.explicit.negative = mark.negative := by
  cases mark <;> rfl

theorem explicit_ne_none (mark : SignMark) : mark.explicit ≠ none := by
  cases mark <;> decide

theorem isExpressionChar {mark : SignMark} {c : Char} (member : c ∈ mark.chars) :
    IsExpressionChar c := by
  cases mark with
  | none => cases member
  | plus =>
      obtain rfl := List.mem_singleton.mp member
      exact .inr (by decide)
  | minus =>
      obtain rfl := List.mem_singleton.mp member
      exact .inr (by decide)

end SignMark

/-- A number without its sign: a quotient of two runs of digits, or a decimal, that is digits
with at most one point and at least one digit. -/
inductive Magnitude where
  | quotient (numerator denominator : DigitRun)
  | decimal (whole : List Char) (fraction : Option (List Char))
      (nonempty : whole ++ fraction.getD [] ≠ [])
      (digits : ∀ c ∈ whole ++ fraction.getD [], isDigit c = true)

namespace Magnitude

/-- A point and the digits after it, if there is a point. -/
def fractionChars : Option (List Char) → List Char
  | none => []
  | some digits => '.' :: digits

/-- The characters of a number without its sign. -/
def chars : Magnitude → List Char
  | quotient numerator denominator => numerator.chars ++ '/' :: denominator.chars
  | decimal whole fraction _ _ => whole ++ fractionChars fraction

theorem isDigit_or_mark {magnitude : Magnitude} {c : Char} (member : c ∈ magnitude.chars) :
    isDigit c = true ∨ c = '/' ∨ c = '.' := by
  cases magnitude with
  | quotient numerator denominator =>
      simp only [chars, List.mem_append, List.mem_cons] at member
      rcases member with inside | rfl | inside
      · exact .inl (numerator.digits c inside)
      · exact .inr (.inl rfl)
      · exact .inl (denominator.digits c inside)
  | decimal whole fraction nonempty digits =>
      rw [chars, List.mem_append] at member
      rcases member with inside | inside
      · exact .inl (digits c (List.mem_append_left _ inside))
      · cases fraction with
        | none => cases inside
        | some fraction =>
            rcases List.mem_cons.mp inside with rfl | inside
            · exact .inr (.inr rfl)
            · exact .inl (digits c (List.mem_append_right _ inside))

theorem isExpressionChar {magnitude : Magnitude} {c : Char} (member : c ∈ magnitude.chars) :
    IsExpressionChar c := by
  rcases isDigit_or_mark member with digit | rfl | rfl
  · exact .inl digit
  · exact .inr (by decide)
  · exact .inr (by decide)

/-- A number without sign begins with a digit or a point. -/
theorem exists_first (magnitude : Magnitude) :
    ∃ c rest, magnitude.chars = c :: rest ∧ (isDigit c = true ∨ c = '.') := by
  cases magnitude with
  | quotient numerator denominator =>
      obtain ⟨c, rest, begins⟩ := List.exists_cons_of_ne_nil numerator.nonempty
      have digit := numerator.digits c (begins ▸ List.mem_cons_self)
      exact ⟨c, rest ++ '/' :: denominator.chars, by rw [chars, begins, List.cons_append],
        .inl digit⟩
  | decimal whole fraction nonempty digits =>
      cases whole with
      | cons c whole => exact ⟨c, whole ++ fractionChars fraction, rfl, .inl (digits c (by simp))⟩
      | nil =>
          cases fraction with
          | none => exact absurd rfl nonempty
          | some fraction => exact ⟨'.', fraction, rfl, .inr rfl⟩

end Magnitude

/-- A number as it is written. -/
structure WrittenNumber where
  mark : SignMark
  magnitude : Magnitude

namespace WrittenNumber

/-- The characters of a number. -/
def chars (number : WrittenNumber) : List Char := number.mark.chars ++ number.magnitude.chars

theorem isExpressionChar {number : WrittenNumber} {c : Char} (member : c ∈ number.chars) :
    IsExpressionChar c := by
  rcases List.mem_append.mp member with inside | inside
  · exact SignMark.isExpressionChar inside
  · exact Magnitude.isExpressionChar inside

end WrittenNumber

/-! ## What is read -/

section Reading

variable {α : Type} [Scalar α]

theorem takeSign_chars (mark : SignMark) {text : List Char}
    (unsigned : ∀ c ∈ text.head?, c ≠ '+' ∧ c ≠ '-') :
    Literal.takeSign (mark.chars ++ text) = (mark.negative, text) := by
  cases mark with
  | plus => rfl
  | minus => rfl
  | none =>
      rw [SignMark.chars, List.nil_append]
      unfold Literal.takeSign
      split
      · exact absurd rfl (unsigned '+' rfl).1
      · exact absurd rfl (unsigned '-' rfl).2
      · rfl

namespace Magnitude

/-- The literal a decimal is. A quotient is none. -/
def literal? (negative : Bool) : Magnitude → Option Literal
  | quotient _ _ => none
  | decimal whole fraction _ _ =>
    some (.decimal negative (digitsValue (whole ++ fraction.getD [])) (-(fraction.getD []).length))

theorem readDecimal_chars (negative : Bool) (magnitude : Magnitude) :
    Literal.readDecimal negative magnitude.chars = magnitude.literal? negative := by
  cases magnitude with
  | quotient numerator denominator =>
      have taken : Literal.takeDigits (numerator.chars ++ '/' :: denominator.chars) =
          (numerator.chars, '/' :: denominator.chars) :=
        takeDigits_append numerator.digits (by simp; decide)
      have some : numerator.chars.isEmpty = false := by simpa using numerator.nonempty
      simp [Literal.readDecimal, chars, taken, some, Literal.readExponent, literal?]
  | decimal whole fraction nonempty digits =>
      rw [List.forall_mem_append] at digits
      cases fraction with
      | none =>
          have some : whole.isEmpty = false := by simpa using nonempty
          simp [Literal.readDecimal, chars, fractionChars, takeDigits_run digits.1, some,
            Literal.readExponent, literal?]
      | some fraction =>
          have taken : Literal.takeDigits (whole ++ '.' :: fraction) = (whole, '.' :: fraction) :=
            takeDigits_append digits.1 (by simp; decide)
          have takenAfter : Literal.takeDigits fraction = (fraction, []) :=
            takeDigits_run digits.2
          have some : (whole.isEmpty && fraction.isEmpty) = false := by
            simpa [Bool.and_eq_false_iff, or_iff_not_imp_left] using nonempty
          simp only [Literal.readDecimal, chars, fractionChars, taken, takenAfter, some]
          simp [Literal.readExponent, literal?]

/-- A number without sign is none of the words for numbers that are not finite. -/
theorem isWord_eq_false (magnitude : Magnitude) :
    Literal.isWord ["inf", "infinity"] magnitude.chars = false ∧
      Literal.isWord ["nan"] magnitude.chars = false := by
  obtain ⟨c, rest, begins, first⟩ := magnitude.exists_first
  have other : c.toLower ≠ 'i' ∧ c.toLower ≠ 'n' := by
    rcases first with digit | rfl
    · exact toLower_of_isDigit digit
    · decide
  rw [begins]
  exact ⟨by simp [Literal.isWord, other.1.symm], by simp [Literal.isWord, other.2.symm]⟩

theorem unsigned (magnitude : Magnitude) : ∀ c ∈ magnitude.chars.head?, c ≠ '+' ∧ c ≠ '-' := by
  obtain ⟨first, rest, begins, starts⟩ := magnitude.exists_first
  rw [begins]
  rintro c ⟨⟩
  rcases starts with digit | rfl
  · exact ⟨ne_of_isDigit digit (by decide), ne_of_isDigit digit (by decide)⟩
  · decide

theorem splitRatio_quotient (mark : SignMark) (numerator denominator : DigitRun) :
    splitRatio (mark.chars ++ (quotient numerator denominator).chars) =
      some (mark.negative, numerator.chars, denominator.chars) := by
  have taken : Literal.takeDigits (numerator.chars ++ '/' :: denominator.chars) =
      (numerator.chars, '/' :: denominator.chars) :=
    takeDigits_append numerator.digits (by simp; decide)
  have some : (numerator.chars.isEmpty || denominator.chars.isEmpty) = false := by
    simpa using ⟨numerator.nonempty, denominator.nonempty⟩
  rw [splitRatio, takeSign_chars mark (unsigned _)]
  simp only [chars, taken, takeDigits_run denominator.digits, some, Bool.false_eq_true, if_false]

/-- What becomes of a number without sign when it is read, for either sign. -/
def outcome (negative : Bool) : Magnitude → Except Failure (Option α)
  | quotient numerator denominator => ratio negative numerator.chars denominator.chars
  | decimal whole fraction _ _ =>
    .ok (Literal.toScalar? (.decimal negative (digitsValue (whole ++ fraction.getD []))
      (-(fraction.getD []).length)))

end Magnitude

/-- **A written number is read as what it is.** -/
theorem numberOfText_chars (number : WrittenNumber) :
    (numberOfText number.chars : Except Failure (Option α)) =
      number.magnitude.outcome number.mark.negative := by
  obtain ⟨mark, magnitude⟩ := number
  have proper : ∀ c ∈ (WrittenNumber.mk mark magnitude).chars, IsExpressionChar c :=
    fun c member => WrittenNumber.isExpressionChar member
  rw [WrittenNumber.chars] at proper
  have literal : Literal.read (mark.chars ++ magnitude.chars) =
      magnitude.literal? mark.negative := by
    obtain ⟨notInfinite, notUndefined⟩ := magnitude.isWord_eq_false
    simp only [Literal.read, stripMargin_eq_self proper, dropLowLines_eq_self proper,
      takeSign_chars mark magnitude.unsigned, notInfinite, notUndefined, Bool.false_eq_true,
      if_false, Magnitude.readDecimal_chars]
  simp only [numberOfText, WrittenNumber.chars, strip_eq_self proper, literal]
  cases magnitude with
  | quotient numerator denominator =>
      simp only [Magnitude.literal?, Magnitude.splitRatio_quotient, Magnitude.outcome]
  | decimal whole fraction nonempty digits => rfl

end Reading

/-! ## What a number is worth -/

namespace Magnitude

/-- What a quotient is divided by; a decimal is not divided. -/
def divisor : Magnitude → Nat
  | quotient _ denominator => denominator.value
  | decimal _ _ _ _ => 1

/-- The exact value of a number without its sign. -/
def value : Magnitude → Rat
  | quotient numerator denominator => (numerator.value : Rat) / denominator.value
  | decimal whole fraction _ _ =>
    (digitsValue (whole ++ fraction.getD []) : Rat) / tenPower (fraction.getD []).length

/-- Every decimal is worth its digits times a power of ten. -/
theorem value_decimal {whole : List Char} {fraction : Option (List Char)}
    (nonempty : whole ++ fraction.getD [] ≠ [])
    (digits : ∀ c ∈ whole ++ fraction.getD [], isDigit c = true) :
    (decimal whole fraction nonempty digits).value =
      digitsValue (whole ++ fraction.getD []) * 10 ^ (-((fraction.getD []).length : Int)) := by
  rw [value, cast_tenPower, div_eq_mul_inv, ← zpow_neg]

/-- No run of digits that has to be converted is too long. Decimals are not converted. -/
def Short : Magnitude → Prop
  | quotient numerator denominator => numerator.Short ∧ denominator.Short
  | decimal _ _ _ _ => True

instance : (magnitude : Magnitude) → Decidable magnitude.Short
  | quotient numerator denominator =>
    inferInstanceAs (Decidable (numerator.Short ∧ denominator.Short))
  | decimal _ _ _ _ => inferInstanceAs (Decidable True)

section Scalars

variable {α : Type} [Scalar α]

/-- The scalar nearest to a number with the given sign. -/
def nearest (negative : Bool) : Magnitude → α
  | quotient numerator denominator =>
    Scalar.ofRat (mkRat (if negative then -(numerator.value : Int) else numerator.value)
      denominator.value)
  | decimal whole fraction _ _ =>
    let size : α := Scalar.decimal (digitsValue (whole ++ fraction.getD []))
      (-(fraction.getD []).length)
    if negative then -size else size

/-- A number stands for a scalar if it is not divided by zero and its nearest scalar is
finite. -/
def Stands (α : Type) [Scalar α] (negative : Bool) (magnitude : Magnitude) : Prop :=
  magnitude.divisor ≠ 0 ∧ Scalar.isFinite (magnitude.nearest negative : α) = true

instance (negative : Bool) (magnitude : Magnitude) : Decidable (magnitude.Stands α negative) :=
  inferInstanceAs (Decidable (_ ∧ _))

/-- What can become of a quotient. The denominator is converted first, and a numerator over
zero not at all. -/
theorem outcome_quotient (negative : Bool) (numerator denominator : DigitRun) :
    (quotient numerator denominator).outcome negative =
      if digitLimit < denominator.chars.length then
        .error (.invalid (.tooManyDigits denominator.chars.length))
      else if denominator.value = 0 then .ok none
      else if digitLimit < numerator.chars.length then
        .error (.invalid (.tooManyDigits numerator.chars.length))
      else if Scalar.isFinite ((quotient numerator denominator).nearest negative : α) then
        .ok (some ((quotient numerator denominator).nearest negative : α))
      else .error .tooLarge := by
  have long {run : DigitRun} (many : digitLimit < run.chars.length) :
      wholeNumber run.chars = .error (.invalid (.tooManyDigits run.chars.length)) := if_pos many
  have short {run : DigitRun} (few : ¬ digitLimit < run.chars.length) :
      wholeNumber run.chars = .ok run.value := if_neg few
  split_ifs with below zero above finite
  · rw [outcome, ratio, long below]
    rfl
  · rw [outcome, ratio, short below, zero]
    rfl
  · simp only [outcome, ratio, short below, long above, bind, Except.bind, if_neg zero]
  · rw [nearest] at finite
    simp only [outcome, ratio, short below, short above, bind, Except.bind, if_neg zero,
      Scalar.ofRat?, nearest, finite, if_true]
    rfl
  · rw [nearest] at finite
    simp only [outcome, ratio, short below, short above, bind, Except.bind, if_neg zero,
      Scalar.ofRat?, finite]
    rfl

/-- **A number is read if it is short and stands for a scalar**, as that scalar. -/
theorem outcome_eq_some_iff {negative : Bool} {magnitude : Magnitude} {scalar : α} :
    magnitude.outcome negative = .ok (some scalar) ↔
      magnitude.Short ∧ magnitude.Stands α negative ∧ scalar = magnitude.nearest negative := by
  cases magnitude with
  | decimal whole fraction nonempty digits =>
      simp only [outcome, Literal.toScalar?, Short, Stands, divisor, nearest]
      grind
  | quotient numerator denominator =>
      rw [outcome_quotient]
      simp only [Short, DigitRun.Short, Stands, divisor]
      grind

end Scalars

theorem nearest_rat (negative : Bool) (magnitude : Magnitude) :
    (magnitude.nearest negative : Rat) =
      if negative then -magnitude.value else magnitude.value := by
  cases magnitude with
  | quotient numerator denominator =>
      change mkRat _ _ = _
      rw [Rat.mkRat_eq_div, value]
      cases negative with
      | false => simp
      | true => simp [neg_div]
  | decimal whole fraction nonempty digits =>
      simp only [nearest, Scalar.decimal_rat, value_decimal]

/-- Over exact scalars every number stands for one that is not divided by zero. -/
theorem stands_rat {negative : Bool} {magnitude : Magnitude} :
    magnitude.Stands Rat negative ↔ magnitude.divisor ≠ 0 :=
  and_iff_left rfl

end Magnitude

namespace WrittenNumber

section Scalars

variable {α : Type} [Scalar α]

/-- The scalar nearest to a number. -/
def scalar (number : WrittenNumber) : α := number.magnitude.nearest number.mark.negative

/-- A number that can be read: its digits are few enough, and it stands for a scalar. -/
def Fits (α : Type) [Scalar α] (number : WrittenNumber) : Prop :=
  number.magnitude.Short ∧ number.magnitude.Stands α number.mark.negative

instance (number : WrittenNumber) : Decidable (number.Fits α) :=
  inferInstanceAs (Decidable (_ ∧ _))

theorem numberOfText_eq_some_iff {number : WrittenNumber} {value : α} :
    numberOfText number.chars = .ok (some value) ↔ number.Fits α ∧ value = number.scalar := by
  rw [numberOfText_chars, Magnitude.outcome_eq_some_iff, Fits, scalar, and_assoc]

theorem chars_ne_nil (number : WrittenNumber) : number.chars ≠ [] := by
  obtain ⟨c, rest, begins, -⟩ := number.magnitude.exists_first
  simp [chars, begins]

end Scalars

/-- The exact value of a number. -/
def value (number : WrittenNumber) : Rat :=
  if number.mark.negative then -number.magnitude.value else number.magnitude.value

/-- Over exact scalars a short number that is not divided by zero is read as its value. -/
theorem numberOfText_rat {number : WrittenNumber} (short : number.magnitude.Short)
    (divided : number.magnitude.divisor ≠ 0) :
    numberOfText number.chars = .ok (some number.value) :=
  numberOfText_eq_some_iff.mpr
    ⟨⟨short, Magnitude.stands_rat.mpr divided⟩, (number.magnitude.nearest_rat _).symm⟩

end WrittenNumber

end SimplexSolver.Entry
