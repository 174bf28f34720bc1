import SimplexSolver.Display.Problem
import SimplexSolver.Proofs.InputFormats
import SimplexSolver.Proofs.SignificantDigits

/-!
# Displayed expressions are read back

A linear expression is displayed term by term. A negligible coefficient has no term, the first
sign is left out if it is a plus, and every other sign has a space after it. The reader drops
the spaces, looks for terms that need a sign after the first, and adds their coefficients to
zeros in the places of their variables.

`Displays` relates a list of coefficients to the terms of its expression. The text without its
spaces consists of these terms (`Displays.filter_linearChars`), they obey the grammar of
expressions (`Displays.spells`), every one of them can be read (`Displays.fits`), and their sums
are the coefficients again (`Displays.addScalars_eq`). Each of these is an induction over the
relation, whose cases are a coefficient without a term and a coefficient with one.
-/

set_option autoImplicit false

namespace SimplexSolver.Display

open Entry Text
open WrittenTerm (factorChars)

/-! ## Texts without their spaces -/

/-- There are no spaces among the characters of an expression. -/
theorem filter_expressionChars {text : List Char} (proper : ∀ c ∈ text, IsExpressionChar c) :
    text.filter (· != ' ') = text := by
  refine List.filter_eq_self.mpr fun c member => ?_
  have solid := (proper c member).isBlank_eq_false
  refine bne_iff_ne.mpr ?_
  rintro rfl
  exact absurd solid (by decide)

/-- The spaces between texts go with those inside them. -/
theorem filter_spaced (texts : List (List Char)) :
    (spaced texts).filter (· != ' ') = (texts.map (List.filter (· != ' '))).flatten := by
  fun_induction spaced texts with
  | case1 => rfl
  | case2 text => simp
  | case3 text rest some ih => simp [ih]

/-- The item after a list is changed where the list ends. -/
theorem modify_length {β : Type} (front back : List β) (item : β) (change : β → β) :
    (front ++ item :: back).modify front.length change = front ++ change item :: back :=
  List.modifyTailIdx_add (List.modifyHead change) 0 front (item :: back)

section Terms

variable {α : Type} [Scalar α]

/-! ## The terms that are displayed -/

/-- A coefficient that is displayed with all of its digits, or left out because it is zero. -/
def IsShort (value : α) : Prop :=
  Scalar.same value 0 = true ∨
    ∃ (negative : Bool) (decimal : ShortDecimal), value = decimal.signed negative

/-- The scalar with one zero for both. -/
def clearZero (value : α) : α := if Scalar.same value 0 then 0 else value

theorem clearZero_signed [Scalar.Faithful α] (negative : Bool) (decimal : ShortDecimal) :
    clearZero (decimal.signed negative : α) = decimal.signed negative := by
  rw [clearZero, decimal.same_zero_signed, if_neg Bool.false_ne_true]

/-- The sign in front of a displayed term. -/
def displayedMark (opening negative : Bool) : SignMark :=
  if negative then .minus else if opening then .none else .plus

/-- The term of a coefficient, without the space after its sign. -/
def displayedTerm (index : Nat) (opening negative : Bool) (magnitude : Magnitude) : WrittenTerm :=
  ⟨displayedMark opening negative, some magnitude, false, .ofNat (index + 1)⟩

/-- The terms of an expression for the coefficients from an index on. A zero has no term, and
the expression opens with the first coefficient that has one. -/
inductive Displays (α : Type) [Scalar α] : Nat → Bool → List α → List WrittenTerm → Prop
  | nil (index : Nat) (opening : Bool) : Displays α index opening [] []
  | skip {index : Nat} {opening : Bool} {value : α} {rest : List α} {terms : List WrittenTerm}
      (zero : Scalar.same value 0 = true) (later : Displays α (index + 1) opening rest terms) :
      Displays α index opening (value :: rest) terms
  | write {index : Nat} {opening : Bool} {rest : List α} {terms : List WrittenTerm}
      (negative : Bool) {decimal : ShortDecimal} {magnitude : Magnitude}
      (written : WrittenAs α decimal magnitude)
      (later : Displays α (index + 1) false rest terms) :
      Displays α index opening (decimal.signed negative :: rest)
        (displayedTerm index opening negative magnitude :: terms)

@[simp] theorem negative_displayedMark (opening negative : Bool) :
    (displayedMark opening negative).negative = negative := by
  cases opening <;> cases negative <;> rfl

@[simp] theorem number_displayedTerm (index : Nat) (opening negative : Bool)
    (magnitude : Magnitude) : (displayedTerm index opening negative magnitude).number = index + 1 :=
  DigitRun.value_ofNat _

theorem scalar_displayedTerm (index : Nat) (opening negative : Bool) (magnitude : Magnitude) :
    ((displayedTerm index opening negative magnitude).scalar : α) = magnitude.nearest negative := by
  simp only [WrittenTerm.scalar, displayedTerm, negative_displayedMark]

/-! ## The texts of the terms -/

section Texts

variable {decimal : ShortDecimal} {magnitude : Magnitude} [Scalar.Faithful α]

theorem openingTerm_signed (written : WrittenAs α decimal magnitude) (index : Nat)
    (negative : Bool) : openingTerm index (decimal.signed negative : α) =
      (if negative then ['-', ' '] else []) ++ (magnitude.chars ++ decisionChars index) := by
  rw [openingTerm, decimal.lt_zero_signed, decimal.magnitude_signed, written.chars_eq]
  cases negative with
  | true => rfl
  | false =>
      rw [← written.chars_eq]
      rfl

theorem laterTerm_signed (written : WrittenAs α decimal magnitude) (index : Nat)
    (negative : Bool) : laterTerm index (decimal.signed negative : α) =
      (if negative then ['-', ' '] else ['+', ' ']) ++
        (magnitude.chars ++ decisionChars index) := by
  rw [laterTerm, decimal.ge_zero_signed, decimal.magnitude_signed, written.chars_eq]
  cases negative <;> rfl

/-- The text of a term is the term, with a space after its sign. -/
theorem filter_term (written : WrittenAs α decimal magnitude) (index : Nat)
    (opening negative : Bool) :
    (if opening then openingTerm index (decimal.signed negative : α)
      else laterTerm index (decimal.signed negative : α)).filter (· != ' ') =
        (displayedTerm index opening negative magnitude).chars := by
  have body : (magnitude.chars ++ decisionChars index).filter (· != ' ') =
      magnitude.chars ++ factorChars false (numeral (index + 1)) := by
    refine filter_expressionChars fun c member => ?_
    rcases List.mem_append.mp member with size | name
    · exact Magnitude.isExpressionChar size
    · rcases List.mem_cons.mp name with rfl | digit
      · exact .inr (by decide)
      · exact .inl (isDigit_of_mem_numeral digit)
  rw [openingTerm_signed written, laterTerm_signed written, ← apply_ite (· ++ _),
    List.filter_append, body]
  cases opening <;> cases negative <;> rfl

end Texts

namespace Displays

variable [Scalar.Faithful α] {index : Nat} {opening : Bool} {coefficients : List α}
  {terms : List WrittenTerm}

/-- The texts of the terms are those of the expression. -/
theorem filter_termsFrom (displayed : Displays α index opening coefficients terms) :
    (termsFrom index opening coefficients).map (List.filter (· != ' ')) =
      terms.map WrittenTerm.chars := by
  induction displayed with
  | nil => rfl
  | skip zero later ih =>
      have small : Scalar.lt negligible (Scalar.magnitude _) = false :=
        Scalar.Faithful.negligible_lt_zero zero
      rw [termsFrom, small]
      exact ih
  | @write index opening rest terms negative decimal magnitude written later ih =>
      have large : Scalar.lt negligible (decimal.scalar : α) = true :=
        Scalar.Faithful.negligible_lt decimal
      rw [termsFrom, decimal.magnitude_signed, large, if_pos rfl, List.map_cons, ih, List.map_cons,
        filter_term written]

omit [Scalar.Faithful α] in
/-- Only the first term goes without a sign. -/
theorem spells (displayed : Displays α index opening coefficients terms) :
    Spells opening terms (terms.flatMap WrittenTerm.chars) := by
  induction displayed with
  | nil index opening => exact .nil opening
  | @skip index opening value rest terms zero later ih => exact ih
  | @write index opening rest terms negative decimal magnitude written later ih =>
      refine .cons ?_ ih
      cases opening with
      | true => exact .inl rfl
      | false =>
          refine .inr ?_
          cases negative <;> exact SignMark.noConfusion

omit [Scalar.Faithful α] in
/-- Every term fits, as long as there are not too many variables. -/
theorem fits {count : Nat} (few : count < tenPower digitLimit)
    (displayed : Displays α index opening coefficients terms)
    (inside : index + coefficients.length ≤ count) : ∀ term ∈ terms, term.Fits α count := by
  induction displayed with
  | nil => exact nofun
  | skip zero later ih =>
      rw [List.length_cons] at inside
      exact ih (by omega)
  | @write index opening rest terms negative decimal magnitude written later ih =>
      rw [List.length_cons] at inside
      refine List.forall_mem_cons.mpr ⟨?_, ih (by omega)⟩
      rw [← WrittenTerm.fits_signed]
      refine (@WrittenNumber.fits_times α _ ⟨displayedMark opening negative, magnitude⟩ (index + 1)
        (by omega) count).mpr ⟨⟨written.short, ?_⟩, by omega, by omega⟩
      exact written.stands _

/-- **Added to zeros, the terms give the coefficients back.** The coefficients before them are
already there. -/
theorem addScalars_eq (displayed : Displays α index opening coefficients terms)
    (done : List α) (length : done.length = index) :
    addScalars terms (done ++ List.replicate coefficients.length 0) =
      done ++ coefficients.map clearZero := by
  induction displayed generalizing done with
  | nil => rfl
  | @skip index opening value rest terms zero later ih =>
      have next := ih (done ++ [0]) (by rw [List.length_append, length, List.length_singleton])
      rw [List.append_assoc, List.append_assoc] at next
      rw [List.length_cons, List.replicate_succ, List.map_cons, clearZero, if_pos zero]
      exact next
  | @write index opening rest terms negative decimal magnitude written later ih =>
      subst length
      have scalar : 0 + (displayedTerm done.length opening negative magnitude).scalar =
          (decimal.signed negative : α) := by
        rw [scalar_displayedTerm, written.nearest_eq, decimal.zero_add_signed]
      have next := ih (done ++ [decimal.signed negative])
        (by rw [List.length_append, List.length_singleton])
      rw [List.append_assoc, List.append_assoc] at next
      -- The zero in the place of the variable becomes its coefficient, and the place is done.
      rw [List.length_cons, List.replicate_succ, List.map_cons, clearZero_signed, addScalars,
        List.foldl_cons, ← addScalars, number_displayedTerm, Nat.add_sub_cancel, modify_length,
        scalar]
      exact next

omit [Scalar.Faithful α] in
/-- A coefficient that is not zero is displayed. -/
theorem ne_nil (displayed : Displays α index opening coefficients terms)
    (some : ∃ value ∈ coefficients, Scalar.same value 0 = false) : terms ≠ [] := by
  obtain ⟨value, member, large⟩ := some
  induction displayed with
  | nil => cases member
  | @skip index opening first rest terms zero later ih =>
      rcases List.mem_cons.mp member with rfl | after
      · rw [zero] at large
        cases large
      · exact ih after
  | write => exact List.cons_ne_nil _ _

/-- The text of an expression without its spaces are the texts of its terms. -/
theorem filter_linearChars (displayed : Displays α 0 true coefficients terms) (some : terms ≠ []) :
    (linearChars coefficients).filter (· != ' ') = terms.flatMap WrittenTerm.chars := by
  have texts := displayed.filter_termsFrom
  rw [List.flatMap_def, ← texts, ← filter_spaced, linearChars]
  split
  · rename_i none
    rw [none, List.map_nil, eq_comm, List.map_eq_nil_iff] at texts
    exact absurd texts some
  · rfl

end Displays

/-- Short coefficients have an expression. -/
theorem exists_displays [Scalar.Faithful α] {coefficients : List α}
    (short : ∀ value ∈ coefficients, IsShort value) (index : Nat) (opening : Bool) :
    ∃ terms, Displays α index opening coefficients terms := by
  induction coefficients generalizing index opening with
  | nil => exact ⟨[], .nil index opening⟩
  | cons value rest ih =>
      rw [List.forall_mem_cons] at short
      obtain ⟨first, others⟩ := short
      rcases first with zero | ⟨negative, decimal, rfl⟩
      · obtain ⟨terms, later⟩ := ih others (index + 1) opening
        exact ⟨terms, .skip zero later⟩
      · obtain ⟨terms, later⟩ := ih others (index + 1) false
        obtain ⟨magnitude, written⟩ := exists_writtenAs (α := α) decimal
        exact ⟨_, .write negative written later⟩

/-- The expression of short coefficients is read as these coefficients, over any faithful
scalars. -/
theorem coefficients_linearText [Scalar.Faithful α] {coefficients : List α}
    (short : ∀ value ∈ coefficients, IsShort value)
    (some : ∃ value ∈ coefficients, Scalar.same value 0 = false)
    (few : coefficients.length < tenPower digitLimit) :
    Entry.coefficients (linearText coefficients) coefficients.length =
      .ok (coefficients.map clearZero) := by
  obtain ⟨terms, displayed⟩ := exists_displays short 0 true
  have nonempty := displayed.ne_nil some
  have written := displayed.filter_linearChars nonempty
  have text : (linearText coefficients).toList = linearChars coefficients := by
    rw [linearText, String.toList_ofList]
  have mentions : 'x' ∈ (linearText coefficients).toList := by
    obtain ⟨term, rest, rfl⟩ := List.exists_cons_of_ne_nil nonempty
    have letter : 'x' ∈ (term :: rest).flatMap WrittenTerm.chars :=
      List.mem_flatMap_of_mem List.mem_cons_self term.letter_mem
    rw [← written] at letter
    exact text ▸ List.mem_of_mem_filter letter
  have spelled : Spells true terms (expressionText (linearText coefficients).toList) := by
    rw [expressionText, text, written,
      lower_eq_self fun c => isExpressionChar_of_mem_flatMap]
    exact displayed.spells
  have sums := displayed.addScalars_eq [] rfl
  rw [List.nil_append, List.nil_append] at sums
  rw [coefficients_eq_addTerms (.inl mentions), addTerms_of_spells spelled, addWritten_eq_ok_iff,
    Int.toNat_natCast, sums]
  exact ⟨displayed.fits few (by omega), rfl⟩

end Terms

/-- A short double is the same when its zero loses its sign. -/
theorem same_clearZero {value : Float} (short : IsShort value) :
    Scalar.same value (clearZero value) = true := by
  rcases short with zero | ⟨negative, decimal, rfl⟩
  · rwa [clearZero, if_pos zero]
  · rw [clearZero_signed]
    exact Binary64.same_of_isFinite (decimal.isFinite_signed negative)

theorem clearZero_rat (value : Rat) : clearZero value = value := by
  rw [clearZero, Scalar.same_rat]
  split
  · rename_i zero
    exact (of_decide_eq_true zero).symm
  · rfl

/-- **Displayed expressions are read back.** Let every coefficient be zero or a decimal with at
most six digits from 0.0001 up to one million, with either sign, and at least one of them not
zero. The expression that is displayed for such coefficients is read as the same coefficients.

Over doubles a coefficient is the double nearest to its decimal, and this very double is read
back; a zero is read back without its sign, as the same number. Over exact scalars the whole
list is read back.

The number of the last variable has to be short enough to be converted, which it is in any
list that fits into a memory. -/
theorem expression_read_back :
    (∀ coefficients : List Float, (∀ value ∈ coefficients, IsShort value) →
      (∃ value ∈ coefficients, Scalar.same value 0 = false) →
      coefficients.length < tenPower digitLimit →
        Entry.coefficients (linearText coefficients) coefficients.length =
          .ok (coefficients.map clearZero) ∧
        List.Forall₂ (fun value back => Scalar.same value back = true)
          coefficients (coefficients.map clearZero)) ∧
    ∀ coefficients : List Rat, (∀ value ∈ coefficients, IsShort value) →
      (∃ value ∈ coefficients, value ≠ 0) → coefficients.length < tenPower digitLimit →
        Entry.coefficients (linearText coefficients) coefficients.length = .ok coefficients := by
  constructor
  · intro coefficients short some few
    refine ⟨coefficients_linearText short some few, ?_⟩
    rw [List.forall₂_map_right_iff, List.forall₂_same]
    exact fun value member => same_clearZero (short value member)
  · intro coefficients short some few
    have large : ∃ value ∈ coefficients, Scalar.same value 0 = false := by
      obtain ⟨value, member, nonzero⟩ := some
      exact ⟨value, member, decide_eq_false nonzero⟩
    have cleared : coefficients.map clearZero = coefficients := by
      rw [funext clearZero_rat, List.map_id']
    rw [coefficients_linearText short large few, cleared]

/-- One tenth. -/
def tenth : ShortDecimal := ⟨1, -1, by decide, by norm_num, by norm_num⟩

/-- A quarter of a million. -/
def quarterMillion : ShortDecimal := ⟨25, 4, by decide, by norm_num, by norm_num⟩

/-- A negative coefficient, a zero with a sign, and a positive coefficient. -/
def mixedCoefficients (α : Type) [Scalar α] : List α :=
  [tenth.signed true, -0, quarterMillion.signed false]

theorem expression_read_back_mixedCoefficients :
    linearText (mixedCoefficients Float) = "- 0.1x1 + 250000x3" ∧
    linearText (mixedCoefficients Rat) = "- 0.1x1 + 250000x3" ∧
    Entry.coefficients "- 0.1x1 + 250000x3" 3 =
      .ok ([tenth.signed true, 0, quarterMillion.signed false] : List Float) ∧
    Entry.coefficients "- 0.1x1 + 250000x3" 3 = .ok [(-1 / 10 : Rat), 0, 250000] := by
  have double : linearText (mixedCoefficients Float) = "- 0.1x1 + 250000x3" := by decide +kernel
  have exact : linearText (mixedCoefficients Rat) = "- 0.1x1 + 250000x3" := by decide +kernel
  have short {α : Type} [Scalar α] (zero : Scalar.same (-0 : α) 0 = true) :
      ∀ value ∈ mixedCoefficients α, IsShort value := by
    simp only [mixedCoefficients, List.forall_mem_cons]
    exact ⟨.inr ⟨true, tenth, rfl⟩, .inl zero, .inr ⟨false, quarterMillion, rfl⟩, nofun⟩
  have few : 3 < tenPower digitLimit := by decide +kernel
  have first := expression_read_back.1 (mixedCoefficients Float) (short rfl)
    ⟨_, List.mem_cons_self, tenth.same_zero_signed true⟩ few
  have second := expression_read_back.2 (mixedCoefficients Rat) (short rfl)
    ⟨_, List.mem_cons_self, by decide +kernel⟩ few
  have cleared : (mixedCoefficients Float).map clearZero =
      [tenth.signed true, 0, quarterMillion.signed false] := by
    simp only [mixedCoefficients, List.map_cons, List.map_nil, clearZero_signed]
    rfl
  rw [double, cleared] at first
  rw [exact] at second
  refine ⟨double, exact, first.1, second.trans ?_⟩
  congr 1
  decide +kernel

end SimplexSolver.Display
