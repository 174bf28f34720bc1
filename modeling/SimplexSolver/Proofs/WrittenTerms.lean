import SimplexSolver.Proofs.WrittenNumbers

/-!
# Terms as they are written

A term of a linear expression is an optional sign, an optional coefficient, an optional
asterisk, the letter of the variables, and the digits of a variable number. `WrittenTerm` is a
term with all of its parts. What the reader finds at the front of a text is compared with it in
both directions.

**Found where written.** A written term is found at the front of a text, as long as it is not
followed by another digit (`Term.atFront?_chars`). Its runs of digits end where the next part
begins, so that the reader has nothing to choose.

**Written where found.** Whatever is found at the front of a text is a written term, with one
exception: the coefficient may be a point without digits (`Term.exists_written_of_atFront?`).
Such a term is not read as a number afterwards (`Term.value_of_lonePoint`).
-/

set_option autoImplicit false

namespace SimplexSolver.Entry

open Text
open Literal (takeDigits)

/-! ## Parts of a term -/

/-- A term of a linear expression as it is written: an optional sign, an optional coefficient,
an optional asterisk, the letter, and the digits of the variable number. -/
structure WrittenTerm where
  mark : SignMark
  coefficient : Option Magnitude
  starred : Bool
  variableRun : DigitRun

namespace WrittenTerm

/-- The characters of an optional coefficient. -/
def coefficientChars : Option Magnitude → List Char
  | none => []
  | some magnitude => magnitude.chars

/-- The characters of an optional asterisk and a variable. -/
def factorChars (starred : Bool) (digits : List Char) : List Char :=
  (if starred then ['*'] else []) ++ 'x' :: digits

/-- The characters of a term. -/
def chars (term : WrittenTerm) : List Char :=
  term.mark.chars ++ (coefficientChars term.coefficient ++
    factorChars term.starred term.variableRun.chars)

/-- The number of the variable. -/
def number (term : WrittenTerm) : Nat := term.variableRun.value

/-- The term as the reader takes it. -/
def toTerm (term : WrittenTerm) : Term :=
  ⟨term.mark.chars ++ coefficientChars term.coefficient, term.variableRun.chars⟩

end WrittenTerm

open WrittenTerm

/-! ## Terms are found where they are written -/

/-- After its sign and its coefficient a term goes on with the asterisk or the letter. -/
theorem factor_first (starred : Bool) (digits rest : List Char) :
    ∀ c ∈ (factorChars starred digits ++ rest).head?, c = '*' ∨ c = 'x' := by
  cases starred with
  | true =>
      rintro c ⟨⟩
      exact .inl rfl
  | false =>
      rintro c ⟨⟩
      exact .inr rfl

/-- After its sign a term does not go on with another one. -/
theorem unsigned_first (coefficient : Option Magnitude) (starred : Bool)
    (digits rest : List Char) : ∀ c ∈ (coefficientChars coefficient ++
      (factorChars starred digits ++ rest)).head?, Term.isSign c = false := by
  intro c first
  cases coefficient with
  | none =>
      rcases factor_first starred digits rest c first with rfl | rfl
      · decide
      · decide
  | some magnitude =>
      obtain ⟨start, later, begins, -⟩ := magnitude.exists_first
      have plain := magnitude.unsigned
      rw [begins] at plain
      rw [coefficientChars, begins] at first
      obtain ⟨notPlus, notMinus⟩ := plain c first
      simp [Term.isSign, notPlus, notMinus]

namespace Term

theorem signAtFront_chars (mark : SignMark) {text : List Char}
    (unsigned : ∀ c ∈ text.head?, isSign c = false) :
    signAtFront (mark.chars ++ text) = (mark.chars, text) := by
  cases mark with
  | plus => rfl
  | minus => rfl
  | none =>
      cases text with
      | nil => rfl
      | cons c text => simp [SignMark.chars, signAtFront, unsigned c rfl]

/-- The coefficient of a term ends where the asterisk or the letter stands. -/
theorem coefficientAtFront_chars (coefficient : Option Magnitude) {factor : List Char}
    (starts : ∀ c ∈ factor.head?, c = '*' ∨ c = 'x') :
    coefficientAtFront (coefficientChars coefficient ++ factor) =
      (coefficientChars coefficient, factor) := by
  have ends : ∀ c ∈ factor.head?, isDigit c = false := by
    intro c first
    rcases starts c first with rfl | rfl
    · decide
    · decide
  cases coefficient with
  | none =>
      have taken : takeDigits ([] ++ factor) = ([], factor) := takeDigits_append nofun ends
      rw [coefficientChars, coefficientAtFront, taken]
      cases factor with
      | nil => rfl
      | cons c factor => rcases starts c rfl with rfl | rfl <;> rfl
  | some magnitude =>
      cases magnitude with
      | quotient numerator denominator =>
          have taken : takeDigits (numerator.chars ++ '/' :: (denominator.chars ++ factor)) =
              (numerator.chars, '/' :: (denominator.chars ++ factor)) :=
            takeDigits_append numerator.digits (by simp; decide)
          have takenAfter : takeDigits (denominator.chars ++ factor) =
              (denominator.chars, factor) := takeDigits_append denominator.digits ends
          obtain ⟨c, digits, begins⟩ := List.exists_cons_of_ne_nil denominator.nonempty
          rw [begins, List.cons_append] at taken takenAfter
          simp [coefficientChars, Magnitude.chars, coefficientAtFront, begins, taken, takenAfter,
            numerator.nonempty]
      | decimal whole fraction nonempty digits =>
          rw [List.forall_mem_append] at digits
          cases fraction with
          | none =>
              have taken : takeDigits (whole ++ factor) = (whole, factor) :=
                takeDigits_append digits.1 ends
              simp only [coefficientChars, Magnitude.chars, Magnitude.fractionChars,
                List.append_nil, coefficientAtFront, taken]
              cases factor with
              | nil => rfl
              | cons c factor => rcases starts c rfl with rfl | rfl <;> rfl
          | some fraction =>
              have taken : takeDigits (whole ++ '.' :: (fraction ++ factor)) =
                  (whole, '.' :: (fraction ++ factor)) :=
                takeDigits_append digits.1 (by simp; decide)
              have takenAfter : takeDigits (fraction ++ factor) = (fraction, factor) :=
                takeDigits_append digits.2 ends
              simp [coefficientChars, Magnitude.chars, Magnitude.fractionChars, coefficientAtFront,
                taken, takenAfter]

theorem factorAtFront?_chars (starred : Bool) (run : DigitRun) {rest : List Char}
    (ends : ∀ c ∈ rest.head?, isDigit c = false) :
    factorAtFront? (factorChars starred run.chars ++ rest) = some (run.chars, rest) := by
  have taken : takeDigits (run.chars ++ rest) = (run.chars, rest) :=
    takeDigits_append run.digits ends
  have variable_ : variableAtFront? ('x' :: (run.chars ++ rest)) = some (run.chars, rest) := by
    obtain ⟨c, digits, begins⟩ := List.exists_cons_of_ne_nil run.nonempty
    rw [begins, List.cons_append] at taken
    simp [variableAtFront?, begins, taken]
  cases starred with
  | true => exact variable_
  | false => exact variable_

/-- **A written term is found at the front of a text**, whatever follows it that is not a
digit. -/
theorem atFront?_chars (term : WrittenTerm) {rest : List Char}
    (ends : ∀ c ∈ rest.head?, isDigit c = false) :
    atFront? (term.chars ++ rest) = some (term.toTerm, rest) := by
  have factor := factorAtFront?_chars term.starred term.variableRun ends
  have coefficient := coefficientAtFront_chars term.coefficient
    (factor_first term.starred term.variableRun.chars rest)
  have sign := signAtFront_chars term.mark
    (unsigned_first term.coefficient term.starred term.variableRun.chars rest)
  simp only [atFront?, chars, List.append_assoc, sign, coefficient, factor, Option.map_some, toTerm]

/-! ## Terms that are found were written -/

theorem exists_mark_of_signAtFront {text sign rest : List Char}
    (found : signAtFront text = (sign, rest)) :
    ∃ mark : SignMark, sign = mark.chars ∧ text = mark.chars ++ rest := by
  cases text with
  | nil =>
      obtain ⟨rfl, rfl⟩ := Prod.mk.inj found
      exact ⟨.none, rfl, rfl⟩
  | cons c text =>
      rw [signAtFront] at found
      split at found
      · rename_i isSign
        obtain ⟨rfl, rfl⟩ := Prod.mk.inj found
        rcases Bool.or_eq_true_iff.mp isSign with plus | minus
        · obtain rfl := beq_iff_eq.mp plus
          exact ⟨.plus, rfl, rfl⟩
        · obtain rfl := beq_iff_eq.mp minus
          exact ⟨.minus, rfl, rfl⟩
      · obtain ⟨rfl, rfl⟩ := Prod.mk.inj found
        exact ⟨.none, rfl, rfl⟩

theorem exists_coefficient_of_digits {digits : List Char}
    (run : ∀ c ∈ digits, isDigit c = true) : ∃ written, digits = coefficientChars written := by
  by_cases empty : digits = []
  · exact ⟨none, empty⟩
  · exact ⟨some (.decimal digits none (by simpa using empty) (by simpa using run)),
      (List.append_nil digits).symm⟩

/-- What stands in the place of a coefficient is one, if anything, or a point without
digits. -/
theorem cases_of_coefficientAtFront {text coefficient factor : List Char}
    (found : coefficientAtFront text = (coefficient, factor)) :
    text = coefficient ++ factor ∧
      (coefficient = ['.'] ∨ ∃ written, coefficient = coefficientChars written) := by
  unfold coefficientAtFront at found
  split at found
  · rename_i whole rest taken
    obtain ⟨rfl, wholeRun, -⟩ := parts_of_takeDigits taken
    have alone := exists_coefficient_of_digits wholeRun
    split at found
    · obtain ⟨rfl, rfl⟩ := Prod.mk.inj found
      exact ⟨rfl, .inr alone⟩
    · rename_i denominator after occupied takenAfter
      obtain ⟨rfl, denominatorRun, -⟩ := parts_of_takeDigits takenAfter
      split at found
      · obtain ⟨rfl, rfl⟩ := Prod.mk.inj found
        exact ⟨rfl, .inr alone⟩
      · rename_i nonempty
        obtain ⟨rfl, rfl⟩ := Prod.mk.inj found
        exact ⟨by simp, .inr ⟨some (.quotient ⟨whole, by simpa using nonempty, wholeRun⟩
          ⟨denominator, occupied, denominatorRun⟩), rfl⟩⟩
  · rename_i whole rest taken
    obtain ⟨rfl, wholeRun, -⟩ := parts_of_takeDigits taken
    cases takenAfter : takeDigits rest with
    | mk fraction after =>
        obtain ⟨rfl, fractionRun, -⟩ := parts_of_takeDigits takenAfter
        rw [takenAfter] at found
        obtain ⟨rfl, rfl⟩ := Prod.mk.inj found
        refine ⟨by simp, ?_⟩
        by_cases digits : whole ++ fraction = []
        · obtain ⟨rfl, rfl⟩ := List.append_eq_nil_iff.mp digits
          exact .inl rfl
        · exact .inr ⟨some (.decimal whole (some fraction) digits
            (List.forall_mem_append.mpr ⟨wholeRun, fractionRun⟩)), rfl⟩
  · rename_i whole rest _ _ taken
    obtain ⟨rfl, wholeRun, -⟩ := parts_of_takeDigits taken
    obtain ⟨rfl, rfl⟩ := Prod.mk.inj found
    exact ⟨rfl, .inr (exists_coefficient_of_digits wholeRun)⟩

theorem exists_run_of_variableAtFront? {text digits rest : List Char}
    (found : variableAtFront? text = some (digits, rest)) :
    ∃ run : DigitRun, digits = run.chars ∧ text = 'x' :: (run.chars ++ rest) := by
  unfold variableAtFront? at found
  split at found
  · split at found
    · cases found
    · rename_i tail digits' rest' occupied taken
      obtain ⟨rfl, rfl⟩ := Prod.mk.inj (Option.some.inj found)
      obtain ⟨rfl, run, -⟩ := parts_of_takeDigits taken
      exact ⟨⟨digits', occupied, run⟩, rfl, rfl⟩
  · cases found

theorem exists_factor_of_factorAtFront? {text digits rest : List Char}
    (found : factorAtFront? text = some (digits, rest)) :
    ∃ (starred : Bool) (run : DigitRun), digits = run.chars ∧
      text = factorChars starred run.chars ++ rest := by
  unfold factorAtFront? at found
  split at found
  · obtain ⟨run, same, rfl⟩ := exists_run_of_variableAtFront? found
    exact ⟨true, run, same, rfl⟩
  · obtain ⟨run, same, rfl⟩ := exists_run_of_variableAtFront? found
    exact ⟨false, run, same, rfl⟩

/-- What is found at the front of a text has the parts of a term. -/
theorem parts_of_atFront? {text rest : List Char} {term : Term}
    (found : atFront? text = some (term, rest)) :
    ∃ (mark : SignMark) (coefficient : List Char) (starred : Bool) (run : DigitRun),
      term = ⟨mark.chars ++ coefficient, run.chars⟩ ∧
      text = mark.chars ++ (coefficient ++ (factorChars starred run.chars ++ rest)) ∧
      (coefficient = ['.'] ∨ ∃ written, coefficient = coefficientChars written) := by
  cases signed : signAtFront text with
  | mk sign unsigned =>
      cases counted : coefficientAtFront unsigned with
      | mk coefficient factor =>
          simp only [atFront?, signed, counted, Option.map_eq_some_iff] at found
          obtain ⟨⟨digits, after⟩, factored, same⟩ := found
          obtain ⟨rfl, rfl⟩ := Prod.mk.inj same
          obtain ⟨mark, rfl, rfl⟩ := exists_mark_of_signAtFront signed
          obtain ⟨rfl, shape⟩ := cases_of_coefficientAtFront counted
          obtain ⟨starred, run, rfl, rfl⟩ := exists_factor_of_factorAtFront? factored
          exact ⟨mark, coefficient, starred, run, rfl, rfl, shape⟩

/-- **What is found at the front of a text is a written term**, or has a point without digits
in the place of its coefficient. -/
theorem exists_written_of_atFront? {text rest : List Char} {term : Term}
    (found : atFront? text = some (term, rest)) :
    (∃ mark : SignMark, term.coefficient = mark.chars ++ ['.']) ∨
      ∃ written : WrittenTerm, term = written.toTerm ∧ text = written.chars ++ rest := by
  obtain ⟨mark, coefficient, starred, run, rfl, rfl, shape⟩ := parts_of_atFront? found
  rcases shape with rfl | ⟨written, rfl⟩
  · exact .inl ⟨mark, rfl⟩
  · exact .inr ⟨⟨mark, written, starred, run⟩, rfl, by simp [WrittenTerm.chars]⟩

/-- A point without digits is not a coefficient. -/
theorem value_of_lonePoint {α : Type} [Scalar α] {term : Term} {mark : SignMark}
    (point : term.coefficient = mark.chars ++ ['.']) :
    (term.value : Except Failure α) =
      .error (.invalid (.invalidCoefficient (String.ofList (mark.chars ++ ['.'])))) := by
  rw [value, point]
  cases mark with
  | none => rfl
  | plus => rfl
  | minus => rfl

theorem first?_of_atFront? {text rest : List Char} {term : Term}
    (found : atFront? text = some (term, rest)) (nonempty : text ≠ []) :
    first? text = some ⟨[], term, rest⟩ := by
  cases text with
  | nil => exact absurd rfl nonempty
  | cons c text => rw [first?, found]

/-- The first term of a text stands at the front of what was not skipped. -/
theorem exists_front_of_first? {text : List Char} {place : Found}
    (located : first? text = some place) :
    ∃ front, text = place.skipped ++ front ∧
      atFront? front = some (place.term, place.rest) := by
  induction text generalizing place with
  | nil => cases located
  | cons c text ih =>
      rw [first?] at located
      split at located
      · rename_i term rest front
        obtain rfl := Option.some.inj located
        exact ⟨c :: text, rfl, front⟩
      · obtain ⟨inner, found, rfl⟩ := Option.map_eq_some_iff.mp located
        obtain ⟨front, rfl, atFront⟩ := ih found
        exact ⟨front, rfl, atFront⟩

end Term

/-! ## What the terms are worth -/

namespace WrittenTerm

/-- The exact coefficient; a term without one counts once. -/
def value (term : WrittenTerm) : Rat :=
  let size := match term.coefficient with
    | none => 1
    | some magnitude => magnitude.value
  if term.mark.negative then -size else size

/-- The variable is one of the first `count`. -/
def Within (count : Int) (term : WrittenTerm) : Prop :=
  1 ≤ term.number ∧ (term.number : Int) ≤ count

instance (count : Int) (term : WrittenTerm) : Decidable (term.Within count) :=
  inferInstanceAs (Decidable (_ ∧ _))

/-- No run of digits that has to be converted is too long. -/
def Short (term : WrittenTerm) : Prop :=
  (∀ magnitude ∈ term.coefficient, magnitude.Short) ∧ term.variableRun.Short

section Scalars

variable {α : Type} [Scalar α]

/-- The coefficient as a scalar. -/
def scalar (term : WrittenTerm) : α :=
  match term.coefficient with
  | none => if term.mark.negative then -1 else 1
  | some magnitude => magnitude.nearest term.mark.negative

/-- A term stands for a scalar if its coefficient does; without one it always does. -/
def Stands (α : Type) [Scalar α] (term : WrittenTerm) : Prop :=
  ∀ magnitude ∈ term.coefficient, magnitude.Stands α term.mark.negative

instance (term : WrittenTerm) : Decidable (term.Stands α) :=
  inferInstanceAs (Decidable (∀ magnitude ∈ term.coefficient, _))

/-- A coefficient that is written is read as what it is, together with its sign. -/
theorem value_toTerm_of_coefficient {term : WrittenTerm} {magnitude : Magnitude}
    (written : term.coefficient = some magnitude) {value : α} :
    term.toTerm.value = .ok value ↔
      magnitude.outcome term.mark.negative = .ok (some value) := by
  have chars : term.toTerm.coefficient = term.mark.chars ++ magnitude.chars := by
    rw [toTerm, written, coefficientChars]
  -- A number has more characters than its sign, so the term does not count as one without.
  have proper : ∃ c ∈ term.mark.chars ++ magnitude.chars, Term.isSign c = false := by
    obtain ⟨c, rest, begins, -⟩ := magnitude.exists_first
    have first : c ∈ magnitude.chars.head? := by rw [begins, List.head?_cons, Option.mem_some]
    obtain ⟨notPlus, notMinus⟩ := magnitude.unsigned c first
    exact ⟨c, List.mem_append_right _ (List.mem_of_mem_head? first),
      by simp [Term.isSign, notPlus, notMinus]⟩
  rw [Term.value, chars, ← numberOfText_chars ⟨term.mark, magnitude⟩, WrittenNumber.chars]
  split
  · rename_i bare
    simp [bare] at proper
  · rename_i bare
    simp [bare, Term.isSign] at proper
  · rename_i bare
    simp [bare, Term.isSign] at proper
  · constructor
    · intro read
      obtain ⟨found, made, read⟩ := exists_of_bind_eq_ok read
      cases found with
      | none => cases read
      | some scalar =>
          obtain rfl := Except.ok.inj read
          exact made
    · intro made
      exact bind_eq_ok made rfl

/-- The coefficient of a term is read if it is short and stands for a scalar, as that
scalar. -/
theorem value_toTerm_iff {term : WrittenTerm} {value : α} :
    term.toTerm.value = .ok value ↔
      (∀ magnitude ∈ term.coefficient, magnitude.Short) ∧ term.Stands α ∧ value = term.scalar := by
  cases written : term.coefficient with
  | none =>
      have stands : term.Stands α := by simp [Stands, written]
      rw [and_iff_right nofun, and_iff_right stands, Term.value, toTerm, scalar, written,
        coefficientChars, List.append_nil]
      cases term.mark <;> simp [SignMark.chars, SignMark.negative, eq_comm]
  | some magnitude =>
      rw [value_toTerm_of_coefficient written, Magnitude.outcome_eq_some_iff]
      simp only [Stands, scalar, written, Option.mem_def, Option.some.injEq, forall_eq']

/-- The variable of a term is found if its number is short and it is there. -/
theorem position_toTerm_iff {term : WrittenTerm} {count : Int} {position : Nat} :
    term.toTerm.position count = .ok position ↔
      term.variableRun.Short ∧ term.Within count ∧ position = term.number - 1 := by
  have digits : term.toTerm.variableDigits = term.variableRun.chars := rfl
  simp only [Term.position, digits, wholeNumber, DigitRun.Short, Within, number, DigitRun.value,
    bind, Except.bind, pure, Except.pure, throw, throwThe, MonadExceptOf.throw]
  grind

end Scalars

theorem scalar_rat (term : WrittenTerm) : (term.scalar : Rat) = term.value := by
  unfold scalar value
  cases term.coefficient with
  | none => rfl
  | some magnitude => exact magnitude.nearest_rat term.mark.negative

end WrittenTerm

end SimplexSolver.Entry
