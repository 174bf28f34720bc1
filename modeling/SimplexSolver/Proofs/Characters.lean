import Mathlib.Algebra.Order.Ring.Nat
import Mathlib.Data.List.Basic
import Mathlib.Data.List.Induction
import Mathlib.Data.List.TakeWhile
import Mathlib.Tactic.Ring
import SimplexSolver.Entry.Coefficients

/-!
# Characters of numbers and expressions

Numbers are written with digits of any script, two signs, a point and a slash, and linear
expressions have an asterisk and a letter besides. This module says what the readers of
texts rely on: where a run of digits ends (`takeDigits_append`), that the characters of an
expression are neither blank nor changed by lowering a text (`lower_eq_self`,
`stripBy_eq_self`), and what the digits of a numeral are worth (`digitsValue_numeral`).

Digits stand in a table. A fact about all of them is checked once at every place of the
table and then holds of every digit (`of_isDigit`).
-/

set_option autoImplicit false

namespace SimplexSolver

namespace Text

/-! ## Digits of all scripts -/

/-- A digit is at most nine places after a zero of the table. -/
theorem exists_zero_of_isDigit {c : Char} (digit : isDigit c = true) :
    ∃ start ∈ digitZeros, start ≤ c.toNat ∧ c.toNat ≤ start + 9 := by
  rw [isDigit, digitValue?, Option.isSome_map, List.find?_isSome] at digit
  obtain ⟨start, listed, within⟩ := digit
  simp only [Bool.and_eq_true, decide_eq_true_eq] at within
  exact ⟨start, listed, within.1, by omega⟩

/-- What holds at every place of the table of digits holds of every digit. -/
theorem of_isDigit (holds : Nat → Prop)
    (checked : ∀ start ∈ digitZeros, ∀ distance < 10, holds (start + distance)) {c : Char}
    (digit : isDigit c = true) : holds c.toNat := by
  obtain ⟨start, listed, low, high⟩ := exists_zero_of_isDigit digit
  have place := checked start listed (c.toNat - start) (by omega)
  rwa [Nat.add_sub_cancel' low] at place

/-- No letter with a lower form stands among the digits. -/
theorem lowerRuns_apart : ∀ run ∈ lowerRuns, ∀ start ∈ digitZeros,
    run.last < start ∨ start + 9 < run.first := by
  decide +kernel

/-- A digit has no lower form. -/
theorem partner?_of_isDigit {c : Char} (digit : isDigit c = true) :
    partner? lowerRuns c.toNat = none := by
  obtain ⟨start, listed, low, high⟩ := exists_zero_of_isDigit digit
  rw [partner?, Option.map_eq_none_iff, List.find?_eq_none]
  intro run member
  have apart := lowerRuns_apart run member start listed
  simp only [CaseRun.holds, Bool.and_eq_true, decide_eq_true_eq]
  omega

theorem ne_of_isDigit {c other : Char} (digit : isDigit c = true)
    (different : isDigit other = false) : c ≠ other := by
  rintro rfl
  rw [digit] at different
  cases different

/-- The words for numbers that are not finite do not begin with a digit. -/
theorem toLower_of_isDigit {c : Char} (digit : isDigit c = true) :
    c.toLower ≠ 'i' ∧ c.toLower ≠ 'n' := by
  have checked := of_isDigit
    (fun code => (Char.ofNat code).toLower ≠ 'i' ∧ (Char.ofNat code).toLower ≠ 'n')
    (by decide +kernel) digit
  rwa [Char.ofNat_toNat] at checked

/-! ## Runs of digits -/

section Runs

variable {digits rest text : List Char}

/-- A run of digits is taken whole, up to the first character that is not a digit. -/
theorem takeDigits_append (run : ∀ c ∈ digits, isDigit c = true)
    (ends : ∀ c ∈ rest.head?, isDigit c = false) :
    Literal.takeDigits (digits ++ rest) = (digits, rest) := by
  have stops : rest.takeWhile isDigit = [] ∧ rest.dropWhile isDigit = rest := by
    cases rest with
    | nil => exact ⟨rfl, rfl⟩
    | cons c rest =>
        have other := ends c rfl
        exact ⟨by simp [other], by simp [other]⟩
  rw [Literal.takeDigits, List.takeWhile_append_of_pos run, List.dropWhile_append_of_pos run,
    stops.1, stops.2, List.append_nil]

/-- Digits up to the end of the text are all taken. -/
theorem takeDigits_run (run : ∀ c ∈ digits, isDigit c = true) :
    Literal.takeDigits digits = (digits, []) := by
  have taken : Literal.takeDigits (digits ++ []) = (digits, []) := takeDigits_append run nofun
  rwa [List.append_nil] at taken

/-- What is taken from a text are digits, and what is left does not begin with one. -/
theorem parts_of_takeDigits (taken : Literal.takeDigits text = (digits, rest)) :
    text = digits ++ rest ∧ (∀ c ∈ digits, isDigit c = true) ∧
      ∀ c ∈ rest.head?, isDigit c = false := by
  obtain ⟨rfl, rfl⟩ := Prod.mk.inj taken
  refine ⟨List.takeWhile_append_dropWhile.symm, fun c member => List.mem_takeWhile_imp member, ?_⟩
  intro c first
  have stops := List.head?_dropWhile_not isDigit text
  rw [Option.mem_def.mp first] at stops
  exact stops

end Runs

/-! ## Characters of an expression -/

/-- The characters of an expression that are not digits. -/
def expressionMarks : List Char := ['+', '-', '.', '/', '*', 'x']

/-- A character that may stand in a linear expression from which spaces were dropped. -/
def IsExpressionChar (c : Char) : Prop := isDigit c = true ∨ c ∈ expressionMarks

namespace IsExpressionChar

variable {c : Char}

theorem isBlank_eq_false (proper : IsExpressionChar c) : isBlank c = false := by
  rcases proper with digit | mark
  · exact of_isDigit (fun code => inRanges blankRanges code = false) (by decide +kernel) digit
  · have checked : expressionMarks.all (fun mark => !isBlank mark) = true := by decide
    simpa using List.all_eq_true.mp checked c mark

theorem ne_lowLine (proper : IsExpressionChar c) : c ≠ '_' := by
  rcases proper with digit | mark
  · exact ne_of_isDigit digit (by decide)
  · rintro rfl
    exact absurd mark (by decide)

/-- Lowering a text leaves the characters of an expression as they are. -/
theorem lowerChar_eq (proper : IsExpressionChar c) (before after : List Char) :
    lowerChar before c after = [c] := by
  have plain : c ≠ capitalSigma ∧ c ≠ 'İ' ∧ partner? lowerRuns c.toNat = none := by
    rcases proper with digit | mark
    · exact ⟨ne_of_isDigit digit (by decide), ne_of_isDigit digit (by decide),
        partner?_of_isDigit digit⟩
    · have checked : expressionMarks.all (fun mark => mark != capitalSigma && mark != 'İ' &&
          (partner? lowerRuns mark.toNat).isNone) = true := by decide +kernel
      simpa [and_assoc] using List.all_eq_true.mp checked c mark
  rw [lowerChar, if_neg plain.1, if_neg plain.2.1, plain.2.2]

end IsExpressionChar

section Texts

variable {text : List Char}

theorem lowerFrom_eq_self (plain : ∀ c ∈ text, ∀ before after, lowerChar before c after = [c])
    (before : List Char) : lowerFrom before text = text := by
  induction text generalizing before with
  | nil => rfl
  | cons c text ih =>
      rw [List.forall_mem_cons] at plain
      rw [lowerFrom, plain.1, ih plain.2, List.singleton_append]

/-- **A text of expression characters is in lower case.** -/
theorem lower_eq_self (proper : ∀ c ∈ text, IsExpressionChar c) : lower text = text :=
  lowerFrom_eq_self (fun c member => (proper c member).lowerChar_eq) []

/-- Nothing is stripped from a text without characters of the kind to be stripped. -/
theorem stripBy_eq_self {test : Char → Bool} (kept : ∀ c ∈ text, test c = false) :
    stripBy test text = text := by
  have keeps (list : List Char) (same : ∀ c ∈ list, test c = false) :
      list.dropWhile test = list := by
    cases list with
    | nil => rfl
    | cons c list => simp [same c List.mem_cons_self]
  have back := keeps text.reverse fun c member => kept c (List.mem_reverse.mp member)
  rw [stripBy, keeps text kept, back, List.reverse_reverse]

theorem strip_eq_self (proper : ∀ c ∈ text, IsExpressionChar c) : strip text = text :=
  stripBy_eq_self fun c member => (proper c member).isBlank_eq_false

theorem stripMargin_eq_self (proper : ∀ c ∈ text, IsExpressionChar c) :
    stripBy Literal.isMargin text = text := by
  refine stripBy_eq_self fun c member => ?_
  rw [Literal.isMargin, (proper c member).isBlank_eq_false, Bool.false_and]

theorem dropLowLines_eq_self (proper : ∀ c ∈ text, IsExpressionChar c) (afterDigit : Bool) :
    Literal.dropLowLines afterDigit text = some text := by
  induction text generalizing afterDigit with
  | nil => rfl
  | cons c text ih =>
      rw [List.forall_mem_cons] at proper
      cases text with
      | nil => rw [Literal.dropLowLines, if_neg proper.1.ne_lowLine]
      | cons next rest =>
          rw [Literal.dropLowLines, if_neg proper.1.ne_lowLine, ih proper.2, Option.map_some]

end Texts

/-! ## The value of digits -/

theorem digitsValue_concat (digits : List Char) (c : Char) :
    digitsValue (digits ++ [c]) = 10 * digitsValue digits + (digitValue? c).getD 0 := by
  rw [digitsValue, List.foldl_append, List.foldl_cons, List.foldl_nil, digitsValue]

/-- Digits in front of others count for ten times as much with each of the others. -/
theorem digitsValue_append (front back : List Char) :
    digitsValue (front ++ back) = digitsValue front * tenPower back.length + digitsValue back := by
  induction back using List.reverseRecOn with
  | nil => simp [digitsValue, tenPower]
  | append_singleton back c ih =>
      rw [← List.append_assoc, digitsValue_concat, ih, digitsValue_concat, List.length_append,
        List.length_singleton, tenPower_succ]
      ring

theorem isDigit_of_mem_zeros {count : Nat} {c : Char} (member : c ∈ List.replicate count '0') :
    isDigit c = true := by
  obtain rfl := List.eq_of_mem_replicate member
  decide

theorem digitsValue_replicate_zero (count : Nat) : digitsValue (List.replicate count '0') = 0 := by
  induction count with
  | zero => rfl
  | succ count ih =>
      rw [List.replicate_succ', digitsValue_concat, ih]
      rfl

end Text

open Text

theorem digitValue?_of_isDigit {c : Char} (digit : c.isDigit = true) :
    digitValue? c = some (c.toNat - '0'.toNat) := by
  obtain ⟨low, high⟩ := Char.isDigit_iff_toNat.mp digit
  have zero : '0'.toNat = 48 := rfl
  have nine : '9'.toNat = 57 := rfl
  have table : digitZeros = 48 :: digitZeros.tail := rfl
  rw [digitValue?, table, List.find?_cons_of_pos, Option.map_some, zero]
  simp only [Bool.and_eq_true, decide_eq_true_eq]
  omega

theorem isDigit_of_mem_numeral {n : Nat} {c : Char} (member : c ∈ numeral n) :
    isDigit c = true := by
  have digit := Nat.isDigit_of_mem_toDigits (by decide) (by decide) member
  rw [isDigit, digitValue?_of_isDigit digit, Option.isSome_some]

theorem numeral_ne_nil (n : Nat) : numeral n ≠ [] := Nat.toDigits_ne_nil

theorem numeralLength_le_iff {n width : Nat} (positive : 0 < width) :
    numeralLength n ≤ width ↔ n < tenPower width :=
  Nat.length_toDigits_le_iff (by decide) positive

/-- **A numeral is worth its number.** -/
theorem digitsValue_numeral (n : Nat) : digitsValue (numeral n) = n := by
  have same : digitsValue (numeral n) = Nat.ofDigitChars 10 (numeral n) 0 := by
    refine List.foldl_ext _ _ _ fun value c member => ?_
    have digit := Nat.isDigit_of_mem_toDigits (by decide) (by decide) member
    rw [digitValue?_of_isDigit digit, Option.getD_some]
  rw [same, numeral, Nat.ofDigitChars_ten_toDigits]

end SimplexSolver
