import Mathlib.Data.List.Forall2
import SimplexSolver.Proofs.Expressions
import SimplexSolver.Proofs.Signs

/-!
# Two ways to write coefficients

The coefficients of the variables are written either as numbers between blanks, one for each
variable, or as a linear expression. The two ways share the reader of numbers and little else:
one takes the text apart at its blanks, the other drops the spaces, looks for terms and adds
each coefficient to a zero in the place of its variable.

They agree nevertheless. A row of numbers is read if each number is short and stands for a
scalar (`coefficients_row`), and so is an expression in which every variable has one of these
numbers (`coefficients_variableTerms`). The results differ by the zeros the numbers were added
to, which over doubles is the sign of a zero at most (`Binary64.same_zero_add`).
-/

set_option autoImplicit false

namespace SimplexSolver

open Text

/-! ## Words -/

namespace Text

/-- Characters that are not blank go on the word that is being read. -/
theorem wordsFrom_append {run : List Char} (unbroken : ∀ c ∈ run, isBlank c = false)
    (current rest : List Char) :
    wordsFrom current (run ++ rest) = wordsFrom (run.reverse ++ current) rest := by
  induction run generalizing current with
  | nil => rfl
  | cons c run ih =>
      rw [List.forall_mem_cons] at unbroken
      rw [List.cons_append, wordsFrom, if_neg (by simp [unbroken.1]), ih unbroken.2,
        List.reverse_cons, List.append_assoc, List.singleton_append]

/-- The words of a text that is joined from words with spaces are these words. -/
theorem words_intercalate {parts : List (List Char)}
    (solid : ∀ part ∈ parts, part ≠ [] ∧ ∀ c ∈ part, isBlank c = false) :
    words ([' '].intercalate parts) = parts := by
  induction parts with
  | nil => rfl
  | cons part parts ih =>
      rw [List.forall_mem_cons] at solid
      obtain ⟨⟨nonempty, unbroken⟩, others⟩ := solid
      have ended : part.reverse.isEmpty = false := by simpa using nonempty
      have taken := wordsFrom_append unbroken []
      simp only [List.append_nil] at taken
      cases parts with
      | nil =>
          have last := taken []
          rw [List.append_nil] at last
          rw [List.intercalate_singleton, words, last, wordsFrom]
          simp [nonempty]
      | cons next parts =>
          rw [List.intercalate_cons_cons, List.append_assoc, words, taken,
            List.singleton_append, wordsFrom, if_pos (by decide), ended, List.reverse_reverse,
            ← words, ih others]
          rfl

theorem mem_intercalate {parts : List (List Char)} {c : Char}
    (member : c ∈ [' '].intercalate parts) : c = ' ' ∨ ∃ part ∈ parts, c ∈ part := by
  induction parts with
  | nil => cases member
  | cons part parts ih =>
      cases parts with
      | nil =>
          rw [List.intercalate_singleton] at member
          exact .inr ⟨part, List.mem_singleton_self part, member⟩
      | cons next parts =>
          rw [List.intercalate_cons_cons, List.mem_append, List.mem_append,
            List.mem_singleton] at member
          rcases member with (inside | space) | later
          · exact .inr ⟨part, List.mem_cons_self, inside⟩
          · exact .inl space
          · refine (ih later).imp_right ?_
            rintro ⟨other, listed, inside⟩
            exact ⟨other, List.mem_cons_of_mem _ listed, inside⟩

end Text

namespace Entry

section Rows

variable {α : Type} [Scalar α]

/-! ## Rows of numbers -/

namespace WrittenNumber

/-- The letter of the variables does not stand in a number. -/
theorem ne_letter {number : WrittenNumber} {c : Char} (member : c ∈ number.chars) : c ≠ 'x' := by
  rcases List.mem_append.mp member with sign | size
  · revert sign
    cases number.mark <;> simp +contextual [SignMark.chars]
  · rcases Magnitude.isDigit_or_mark size with digit | rfl | rfl
    · exact ne_of_isDigit digit (by decide)
    · decide
    · decide

end WrittenNumber

theorem numbersOfWords_eq_ok_iff {tokens : List WrittenNumber} {values : List α} :
    numbersOfWords (tokens.map WrittenNumber.chars) = .ok values ↔
      (∀ token ∈ tokens, token.Fits α) ∧ values = tokens.map WrittenNumber.scalar := by
  induction tokens generalizing values with
  | nil => simp [numbersOfWords, eq_comm]
  | cons token tokens ih =>
      rw [List.map_cons, numbersOfWords, List.forall_mem_cons, List.map_cons]
      constructor
      · intro read
        obtain ⟨found, first, read⟩ := exists_of_bind_eq_ok read
        cases found with
        | none => cases read
        | some value =>
            obtain ⟨later, others, read⟩ := exists_of_bind_eq_ok read
            obtain rfl := Except.ok.inj read
            obtain ⟨fits, rfl⟩ := WrittenNumber.numberOfText_eq_some_iff.mp first
            obtain ⟨all, rfl⟩ := ih.mp others
            exact ⟨⟨fits, all⟩, rfl⟩
      · rintro ⟨⟨fits, all⟩, rfl⟩
        have first := WrittenNumber.numberOfText_eq_some_iff.mpr ⟨fits, rfl⟩
        exact bind_eq_ok first (bind_eq_ok (ih.mpr ⟨all, rfl⟩) rfl)

/-- Numbers in a row, with a space between any two of them. -/
def rowText (tokens : List WrittenNumber) : String :=
  String.ofList ([' '].intercalate (tokens.map WrittenNumber.chars))

theorem mentionsVariable_rowText (tokens : List WrittenNumber) :
    mentionsVariable (rowText tokens).toList = false := by
  have shape : ∀ c ∈ (rowText tokens).toList, c = ' ' ∨ ∃ token ∈ tokens, c ∈ token.chars := by
    intro c member
    rw [rowText, String.toList_ofList] at member
    refine (mem_intercalate member).imp_right ?_
    rintro ⟨part, there, inside⟩
    obtain ⟨token, listed, rfl⟩ := List.mem_map.mp there
    exact ⟨token, listed, inside⟩
  have lowered : lower (rowText tokens).toList = (rowText tokens).toList := by
    refine lowerFrom_eq_self (fun c member => ?_) []
    rcases shape c member with rfl | ⟨token, -, inside⟩
    · exact fun _ _ => rfl
    · exact (WrittenNumber.isExpressionChar inside).lowerChar_eq
  rw [mentionsVariable, lowered, List.contains_eq_mem, decide_eq_false_iff_not]
  intro letter
  rcases shape 'x' letter with space | ⟨token, -, inside⟩
  · exact absurd space (by decide)
  · exact WrittenNumber.ne_letter inside rfl

/-- The numbers of a row are read one after the other. -/
theorem coefficients_rowText (tokens : List WrittenNumber) :
    (coefficients (rowText tokens) tokens.length : Except Failure (List α)) =
      numbersOfWords (tokens.map WrittenNumber.chars) := by
  have split : words (rowText tokens).toList = tokens.map WrittenNumber.chars := by
    rw [rowText, String.toList_ofList]
    refine words_intercalate fun part member => ?_
    obtain ⟨token, -, rfl⟩ := List.mem_map.mp member
    exact ⟨token.chars_ne_nil,
      fun c inside => (WrittenNumber.isExpressionChar inside).isBlank_eq_false⟩
  rw [coefficients]
  simp [mentionsVariable_rowText, split]

/-- **A row of numbers is read if all of its numbers can be.** -/
theorem coefficients_row {tokens : List WrittenNumber} {values : List α} :
    coefficients (rowText tokens) tokens.length = .ok values ↔
      (∀ token ∈ tokens, token.Fits α) ∧ values = tokens.map WrittenNumber.scalar := by
  rw [coefficients_rowText, numbersOfWords_eq_ok_iff]

/-! ## The same numbers as coefficients of variables -/

/-- The number as the coefficient of a variable, with its sign written out. -/
def WrittenNumber.times (number : WrittenNumber) (place : Nat) : WrittenTerm :=
  ⟨number.mark.explicit, some number.magnitude, false, .ofNat place⟩

namespace WrittenNumber

@[simp] theorem number_times (number : WrittenNumber) (place : Nat) :
    (number.times place).number = place :=
  DigitRun.value_ofNat place

@[simp] theorem scalar_times (number : WrittenNumber) (place : Nat) :
    ((number.times place).scalar : α) = number.scalar := by
  simp only [WrittenTerm.scalar, times, SignMark.negative_explicit, scalar]

/-- A number fits as a coefficient if it fits alone and the variable is there. -/
theorem fits_times {number : WrittenNumber} {place : Nat} (few : place < tenPower digitLimit)
    (count : Int) : (number.times place).Fits α count ↔
      number.Fits α ∧ 1 ≤ place ∧ (place : Int) ≤ count := by
  have short : (DigitRun.ofNat place).Short := (numeralLength_le_iff (by decide)).mpr few
  simp only [WrittenTerm.Fits, WrittenTerm.Short, WrittenTerm.Stands, WrittenTerm.Within,
    number_times, Fits]
  simp only [times, Option.mem_def, Option.some.injEq, forall_eq', SignMark.negative_explicit]
  constructor
  · rintro ⟨⟨brief, -⟩, within, stands⟩
    exact ⟨⟨brief, stands⟩, within⟩
  · rintro ⟨⟨brief, stands⟩, within⟩
    exact ⟨⟨brief, short⟩, within, stands⟩

end WrittenNumber

/-- The numbers of a row as coefficients, each of the variable in its place. -/
def variableTerms (tokens : List WrittenNumber) : List WrittenTerm :=
  (tokens.zipIdx 1).map fun placed => placed.1.times placed.2

theorem getElem?_variableTerms (tokens : List WrittenNumber) (place : Nat) :
    (variableTerms tokens)[place]? = tokens[place]?.map (·.times (place + 1)) := by
  rw [variableTerms, List.getElem?_map, List.getElem?_zipIdx, Option.map_map, Nat.add_comm 1 place]
  rfl

theorem mem_variableTerms {tokens : List WrittenNumber} {term : WrittenTerm} :
    term ∈ variableTerms tokens ↔
      ∃ (place : Nat) (token : WrittenNumber),
        tokens[place]? = some token ∧ token.times (place + 1) = term := by
  simp only [List.mem_iff_getElem?, getElem?_variableTerms, Option.map_eq_some_iff]

theorem numbers_variableTerms (tokens : List WrittenNumber) :
    (variableTerms tokens).map WrittenTerm.number = List.range' 1 tokens.length := by
  rw [variableTerms, List.map_map, ← List.zipIdx_map_snd]
  exact List.map_congr_left fun placed _ => WrittenNumber.number_times placed.1 placed.2

/-! ## Sums of distinct variables -/

theorem getElem?_addScalars_of_absent {terms : List WrittenTerm} {place : Nat}
    (absent : ∀ term ∈ terms, term.number - 1 ≠ place) (sums : List α) :
    (addScalars terms sums)[place]? = sums[place]? := by
  induction terms generalizing sums with
  | nil => rfl
  | cons term terms ih =>
      rw [List.forall_mem_cons] at absent
      rw [addScalars, List.foldl_cons, ← addScalars, ih absent.2,
        List.getElem?_modify_ne _ _ absent.1]

/-- Where all variables are distinct, each sum grows by the one scalar of its variable. -/
theorem getElem?_addScalars_of_nodup {terms : List WrittenTerm}
    (counted : ∀ term ∈ terms, 1 ≤ term.number)
    (distinct : (terms.map WrittenTerm.number).Nodup) {term : WrittenTerm}
    (member : term ∈ terms) (sums : List α) :
    (addScalars terms sums)[term.number - 1]? =
      sums[term.number - 1]?.map (· + term.scalar) := by
  induction terms generalizing sums with
  | nil => cases member
  | cons first terms ih =>
      rw [List.forall_mem_cons] at counted
      rw [List.map_cons, List.nodup_cons] at distinct
      obtain ⟨new, distinct⟩ := distinct
      have other : ∀ later ∈ terms, later.number - 1 ≠ first.number - 1 := by
        intro later listed same
        have small := counted.2 later listed
        have equal : later.number = first.number := by omega
        exact new (equal ▸ List.mem_map_of_mem listed)
      rw [addScalars, List.foldl_cons, ← addScalars]
      rcases List.mem_cons.mp member with rfl | later
      · rw [getElem?_addScalars_of_absent other, List.getElem?_modify_eq]
        rfl
      · rw [ih counted.2 distinct later, List.getElem?_modify_ne _ _ (other term later).symm]

/-- Each of the variables in its place has the one number of its place, added to zero. -/
theorem addScalars_variableTerms {tokens : List WrittenNumber} {terms : List WrittenTerm}
    (arranged : terms.Perm (variableTerms tokens)) :
    addScalars terms (List.replicate tokens.length (0 : α)) =
      tokens.map fun token => 0 + token.scalar := by
  have shape {term : WrittenTerm} (member : term ∈ terms) :=
    mem_variableTerms.mp (arranged.subset member)
  have counted : ∀ term ∈ terms, 1 ≤ term.number := by
    intro term member
    obtain ⟨place, token, -, rfl⟩ := shape member
    rw [WrittenNumber.number_times]
    exact Nat.le_add_left 1 place
  have distinct : (terms.map WrittenTerm.number).Nodup := by
    rw [(arranged.map _).nodup_iff, numbers_variableTerms]
    exact List.nodup_range'
  refine List.ext_getElem? fun place => ?_
  rw [List.getElem?_map]
  cases there : tokens[place]? with
  | some token =>
      have member := arranged.symm.subset (mem_variableTerms.mpr ⟨place, token, there, rfl⟩)
      have inside : place < tokens.length := (List.getElem?_eq_some_iff.mp there).1
      have grown := getElem?_addScalars_of_nodup counted distinct member
        (List.replicate tokens.length (0 : α))
      rwa [WrittenNumber.number_times, Nat.add_sub_cancel, List.getElem?_replicate_of_lt inside,
        WrittenNumber.scalar_times] at grown
  | none =>
      have outside : tokens.length ≤ place := List.getElem?_eq_none_iff.mp there
      have empty : (List.replicate tokens.length (0 : α))[place]? = none :=
        List.getElem?_eq_none_iff.mpr (by rwa [List.length_replicate])
      refine (getElem?_addScalars_of_absent ?_ _).trans empty
      rintro term member rfl
      obtain ⟨index, token, listed, rfl⟩ := shape member
      rw [WrittenNumber.number_times, Nat.add_sub_cancel] at there
      rw [there] at listed
      cases listed

/-! ## Expressions of signed terms -/

theorem WrittenTerm.isExpressionChar {term : WrittenTerm} {c : Char} (member : c ∈ term.chars) :
    IsExpressionChar c := by
  rw [WrittenTerm.chars, List.mem_append, List.mem_append] at member
  rcases member with sign | coefficient | factor
  · exact SignMark.isExpressionChar sign
  · cases written : term.coefficient with
    | none =>
        rw [written] at coefficient
        cases coefficient
    | some magnitude =>
        rw [written] at coefficient
        exact Magnitude.isExpressionChar coefficient
  · rw [factorChars, List.mem_append, List.mem_cons] at factor
    rcases factor with asterisk | rfl | digit
    · split at asterisk
      · obtain rfl := List.mem_singleton.mp asterisk
        exact .inr (by decide)
      · cases asterisk
    · exact .inr (by decide)
    · exact .inl (term.variableRun.digits c digit)

theorem isExpressionChar_of_mem_flatMap {terms : List WrittenTerm} {c : Char}
    (member : c ∈ terms.flatMap WrittenTerm.chars) : IsExpressionChar c := by
  obtain ⟨term, -, inside⟩ := List.mem_flatMap.mp member
  exact WrittenTerm.isExpressionChar inside

theorem WrittenTerm.letter_mem (term : WrittenTerm) : 'x' ∈ term.chars := by
  simp [WrittenTerm.chars, factorChars]

/-- Terms with their signs written out spell the text that is made of them. -/
theorem spells_of_signed {terms : List WrittenTerm} (signed : ∀ term ∈ terms, term.mark ≠ .none)
    (opening : Bool) : Spells opening terms (terms.flatMap WrittenTerm.chars) := by
  induction terms generalizing opening with
  | nil => exact .nil opening
  | cons term terms ih =>
      rw [List.forall_mem_cons] at signed
      exact .cons (.inr signed.1) (ih signed.2 false)

/-- **An expression in which every variable has a number of the row is read if all of the
numbers can be.** -/
theorem coefficients_variableTerms {tokens : List WrittenNumber} (nonempty : tokens ≠ [])
    (few : tokens.length < tenPower digitLimit) {terms : List WrittenTerm}
    (arranged : terms.Perm (variableTerms tokens)) {expression : String}
    (written : expression.toList.filter (· != ' ') = terms.flatMap WrittenTerm.chars)
    {sums : List α} :
    coefficients expression tokens.length = .ok sums ↔
      (∀ token ∈ tokens, token.Fits α) ∧ sums = tokens.map fun token => 0 + token.scalar := by
  have spelled : Spells true terms (expressionText expression.toList) := by
    rw [expressionText, written, lower_eq_self fun c => isExpressionChar_of_mem_flatMap]
    refine spells_of_signed (fun term member => ?_) true
    obtain ⟨place, token, -, rfl⟩ := mem_variableTerms.mp (arranged.subset member)
    exact SignMark.explicit_ne_none _
  have listed {place : Nat} {token : WrittenNumber} (there : tokens[place]? = some token) :
      token.times (place + 1) ∈ terms :=
    arranged.symm.subset (mem_variableTerms.mpr ⟨place, token, there, rfl⟩)
  have mentions : 'x' ∈ expression.toList ∨ 'X' ∈ expression.toList := by
    have letter := (tokens.head nonempty).times 1 |>.letter_mem
    have first := listed (List.head?_eq_getElem? ▸ List.head?_eq_some_head nonempty)
    have inside := List.mem_flatMap_of_mem first letter
    rw [← written] at inside
    exact .inl (List.mem_of_mem_filter inside)
  have fits : (∀ term ∈ terms, term.Fits α tokens.length) ↔ ∀ token ∈ tokens, token.Fits α := by
    constructor
    · intro all token member
      obtain ⟨place, there⟩ := List.mem_iff_getElem?.mp member
      have inside : place < tokens.length := (List.getElem?_eq_some_iff.mp there).1
      have fits := all _ (listed there)
      exact ((WrittenNumber.fits_times (Nat.lt_of_le_of_lt inside few) _).mp fits).1
    · intro all term member
      obtain ⟨place, token, there, rfl⟩ := mem_variableTerms.mp (arranged.subset member)
      have inside : place < tokens.length := (List.getElem?_eq_some_iff.mp there).1
      exact (WrittenNumber.fits_times (Nat.lt_of_le_of_lt inside few) _).mpr
        ⟨all token (List.mem_of_getElem? there), Nat.le_add_left 1 place, by exact_mod_cast inside⟩
  rw [coefficients_eq_addTerms mentions, addTerms_of_spells spelled, addWritten_eq_ok_iff, fits,
    Int.toNat_natCast, addScalars_variableTerms arranged]

end Rows

/-! ## Numbers added to zero -/

end Entry

open Float.Model in
/-- **A finite double is the same when it is added to zero**, up to the sign of a zero. -/
theorem Binary64.same_zero_add {value : Float} (bounded : Scalar.isFinite value = true) :
    Scalar.same value (0 + value) = true := by
  have sum := zero_add_double value
  have stays := packed_unpacked value
  rw [isFinite_double] at bounded
  cases form : unpacked value with
  | notANumber =>
      rw [form] at bounded
      cases bounded
  | infinity sign =>
      rw [form] at bounded
      cases bounded
  | zero sign =>
      rw [form] at stays sum
      rw [sum, ← stays]
      cases sign <;> rfl
  | finite sign mantissa exponent positive =>
      have same : 0 + value = value := by
        rw [sum, form]
        rw [form] at stays
        exact stays
      rw [same]
      refine same_of_isFinite ?_
      rw [isFinite_double, form]
      rfl

namespace Entry

/-- **The two formats agree.** Numbers are written in a row with spaces between them, and in an
expression as the coefficients of their variables, each with its sign written out, in any
order and with any spaces. Either both texts are refused, or both give the same list of
doubles, where the two zeros count as the same.

The number of the last variable has to be short enough to be converted, which it is in any
list that fits into a memory. -/
theorem row_agrees_with_expression (tokens : List WrittenNumber) (nonempty : tokens ≠ [])
    (few : tokens.length < tenPower digitLimit) (terms : List WrittenTerm)
    (arranged : terms.Perm (variableTerms tokens)) (expression : String)
    (written : expression.toList.filter (· != ' ') = terms.flatMap WrittenTerm.chars) :
    (∃ row sums : List Float,
      coefficients (rowText tokens) tokens.length = .ok row ∧
      coefficients expression tokens.length = .ok sums ∧
      List.Forall₂ (fun first second => Scalar.same first second = true) row sums) ∨
    ∃ first second : Failure,
      (coefficients (rowText tokens) tokens.length : Except Failure (List Float)) = .error first ∧
      (coefficients expression tokens.length : Except Failure (List Float)) = .error second := by
  by_cases fits : ∀ token ∈ tokens, token.Fits Float
  · refine .inl ⟨_, _, coefficients_row.mpr ⟨fits, rfl⟩,
      (coefficients_variableTerms nonempty few arranged written).mpr ⟨fits, rfl⟩, ?_⟩
    rw [List.forall₂_map_left_iff, List.forall₂_map_right_iff, List.forall₂_same]
    exact fun token member => Binary64.same_zero_add (fits token member).2.2
  · refine .inr ?_
    cases first : (coefficients (rowText tokens) tokens.length : Except Failure (List Float)) with
    | ok values => exact absurd (coefficients_row.mp first).1 fits
    | error cause =>
        cases second : (coefficients expression tokens.length : Except Failure (List Float)) with
        | ok values =>
            exact absurd
              ((coefficients_variableTerms nonempty few arranged written).mp second).1 fits
        | error other => exact ⟨cause, other, rfl, rfl⟩

/-- A zero with a sign, and a quotient. -/
def zeroAndHalf : List WrittenNumber := [
  ⟨.minus, .decimal ['0'] none (by simp) (by simp; decide)⟩,
  ⟨.none, .quotient (.ofNat 1) (.ofNat 2)⟩]

/-- Both texts for these numbers are read. The row keeps the sign of its zero, the expression
does not. -/
theorem row_agrees_with_expression_zeroAndHalf :
    rowText zeroAndHalf = "-0 1/2" ∧
    "+ 1/2x2  - 0x 1".toList.filter (· != ' ') =
      (variableTerms zeroAndHalf).reverse.flatMap WrittenTerm.chars ∧
    ∃ row sums : List Float,
      coefficients "-0 1/2" 2 = .ok row ∧ coefficients "+ 1/2x2  - 0x 1" 2 = .ok sums ∧
      List.Forall₂ (fun first second => Scalar.same first second = true) row sums ∧
      row = [-0.0, 0.5] ∧ sums = [0.0, 0.5] := by
  have row : rowText zeroAndHalf = "-0 1/2" := by decide
  have arranged := List.reverse_perm (variableTerms zeroAndHalf)
  have written : "+ 1/2x2  - 0x 1".toList.filter (· != ' ') =
      (variableTerms zeroAndHalf).reverse.flatMap WrittenTerm.chars := by decide
  have nonempty : zeroAndHalf ≠ [] := by simp [zeroAndHalf]
  have few : zeroAndHalf.length < tenPower digitLimit := by decide +kernel
  have fits : ∀ token ∈ zeroAndHalf, token.Fits Float := by decide +kernel
  have agree := row_agrees_with_expression zeroAndHalf nonempty few _ arranged
    "+ 1/2x2  - 0x 1" written
  rw [row] at agree
  obtain ⟨values, sums, first, second, same⟩ | ⟨_, _, failed, -⟩ := agree
  · refine ⟨row, written, values, sums, first, second, same, ?_, ?_⟩
    · rw [← row] at first
      rw [(coefficients_row.mp first).2]
      decide +kernel
    · rw [((coefficients_variableTerms nonempty few arranged written).mp second).2]
      decide +kernel
  · have read := coefficients_row.mpr ⟨fits, rfl⟩
    rw [row] at read
    cases failed.symm.trans read

end Entry

end SimplexSolver
