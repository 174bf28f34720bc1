import Mathlib
import SimplexSolver.Number.Binary64
import SimplexSolver.Proofs.WrittenTerms

/-!
# Linear expressions as they are written

A linear expression is a row of terms. The first one may go without a sign, the others may not
(`Spells`). The reader looks for terms anywhere in a text and refuses it afterwards if something
was skipped or a sign is missing. This comes to the same as the grammar: a text that is spelled
by terms is read as their sum (`addTerms_of_spells`), and a text that is read is spelled by
terms (`exists_spells_of_addTerms`).

What is left to fail are the terms themselves. The variable of each has to be there, and the
coefficient of each has to stand for a scalar (`addWritten_eq_ok_iff`). Over exact scalars the
result holds the total of every variable (`addScalars_zeros`), in which the order of the terms
does not count (`total_eq_of_perm`).
-/

set_option autoImplicit false

namespace SimplexSolver.Entry

open Text
open WrittenTerm

/-! ## The grammar -/

/-- The grammar of linear expressions. A text is spelled by terms that stand in it one after
the other. A term needs a sign unless it opens the expression. -/
inductive Spells : Bool → List WrittenTerm → List Char → Prop
  | nil (opening : Bool) : Spells opening [] []
  | cons {opening : Bool} {term : WrittenTerm} {terms : List WrittenTerm} {text : List Char}
      (signed : opening = true ∨ term.mark ≠ .none) (later : Spells false terms text) :
      Spells opening (term :: terms) (term.chars ++ text)

/-! ## The terms fill the text -/

section Adding

variable {α : Type} [Scalar α]

/-- Adds up written terms, from left to right. -/
def addWritten (count : Int) (terms : List WrittenTerm) (sums : List α) :
    Except Failure (List α) :=
  terms.foldlM (fun sums term => do
    let value ← term.toTerm.value
    let position ← term.toTerm.position count
    return sums.modify position (· + value)) sums

theorem WrittenTerm.chars_ne_nil (term : WrittenTerm) : term.chars ≠ [] := by
  simp [WrittenTerm.chars, factorChars]

/-- A signed term begins with its sign. -/
theorem WrittenTerm.signed_first {term : WrittenTerm} (signed : term.mark ≠ .none)
    (rest : List Char) : (term.chars ++ rest).head?.any Term.isSign = true := by
  rw [WrittenTerm.chars]
  cases mark : term.mark with
  | none => exact absurd mark signed
  | plus => rfl
  | minus => rfl

theorem Spells.eq_nil {opening : Bool} {text : List Char} (spelled : Spells opening [] text) :
    text = [] := by
  cases spelled
  rfl

/-- What follows a term in an expression does not begin with a digit. -/
theorem Spells.ends {terms : List WrittenTerm} {text : List Char}
    (spelled : Spells false terms text) : ∀ c ∈ text.head?, isDigit c = false := by
  cases spelled with
  | nil => rintro c ⟨⟩
  | @cons _ term terms text signed later =>
      intro c first
      have isSign := WrittenTerm.signed_first (signed.resolve_left (by decide)) text
      rw [Option.mem_def.mp first, Option.any_some] at isSign
      rcases Bool.or_eq_true_iff.mp isSign with plus | minus
      · obtain rfl := beq_iff_eq.mp plus
        decide
      · obtain rfl := beq_iff_eq.mp minus
        decide

/-- A term without a sign does not begin like one with a sign. -/
theorem WrittenTerm.signed_of_first {term : WrittenTerm} {rest : List Char}
    (first : (term.chars ++ rest).head?.any Term.isSign = true) : term.mark ≠ .none := by
  intro none
  rw [WrittenTerm.chars, none, SignMark.chars, List.nil_append, List.append_assoc] at first
  have plain := unsigned_first term.coefficient term.starred term.variableRun.chars rest
  cases begins : (coefficientChars term.coefficient ++
      (factorChars term.starred term.variableRun.chars ++ rest)).head? with
  | none =>
      rw [begins] at first
      cases first
  | some c =>
      rw [begins, Option.any_some, plain c begins] at first
      cases first

/-- **A text that is spelled by terms is read as the sum of these terms.** -/
theorem addTerms_of_spells {opening : Bool} {terms : List WrittenTerm} {text : List Char}
    (spelled : Spells opening terms text) (count : Int) (sums : List α) :
    addTerms count opening text sums = addWritten count terms sums := by
  induction spelled generalizing sums with
  | nil opening =>
      rw [addTerms]
      rfl
  | @cons opening term terms text signed later ih =>
      have found := Term.first?_of_atFront? (Term.atFront?_chars term later.ends)
        (by simp [term.chars_ne_nil])
      have placed : (opening || (term.chars ++ text).head?.any Term.isSign) = true := by
        rcases signed with rfl | signed
        · rfl
        · rw [WrittenTerm.signed_first signed, Bool.or_true]
      unfold addTerms
      split
      · rename_i missing
        rw [found] at missing
        cases missing
      · rename_i place located
        obtain rfl := Option.some.inj (found.symm.trans located)
        simp only [List.isEmpty_nil, Bool.not_true, Bool.false_or, placed, Bool.false_eq_true,
          if_false, ih, addWritten, List.foldlM_cons, bind_assoc, pure_bind]

/-- **A text that is read is spelled by terms.** -/
theorem exists_spells_of_addTerms {count : Int} {opening : Bool} {text : List Char}
    {sums result : List α} (read : addTerms count opening text sums = .ok result) :
    ∃ terms, Spells opening terms text ∧ addWritten count terms sums = .ok result := by
  fun_induction addTerms count opening text sums with
  | case1 opening text sums missing empty =>
      obtain rfl := List.isEmpty_iff.mp empty
      exact ⟨[], .nil opening, read⟩
  | case2 => cases read
  | case3 => cases read
  | case4 opening text sums place located placed ih =>
      obtain ⟨value, valued, read⟩ := exists_of_bind_eq_ok read
      obtain ⟨position, positioned, read⟩ := exists_of_bind_eq_ok read
      obtain ⟨terms, later, added⟩ := ih value position read
      obtain ⟨front, rfl, found⟩ := Term.exists_front_of_first? located
      simp only [Bool.or_eq_true, Bool.not_eq_true', not_or, Bool.not_eq_false,
        List.isEmpty_iff] at placed
      obtain ⟨unskipped, signed⟩ := placed
      rw [unskipped, List.nil_append] at signed ⊢
      rcases Term.exists_written_of_atFront? found with ⟨mark, point⟩ | ⟨written, same, rfl⟩
      · rw [Term.value_of_lonePoint point] at valued
        cases valued
      · refine ⟨written :: terms, ?_, ?_⟩
        · exact .cons (signed.imp_right WrittenTerm.signed_of_first) later
        · rw [same] at valued positioned
          rw [addWritten, List.foldlM_cons]
          exact bind_eq_ok (bind_eq_ok valued (bind_eq_ok positioned rfl)) added

end Adding

section Sums

variable {α : Type} [Scalar α]

/-- Adds the scalars of terms to those of their variables. -/
def addScalars (terms : List WrittenTerm) (sums : List α) : List α :=
  terms.foldl (fun sums term => sums.modify (term.number - 1) (· + term.scalar)) sums

/-- A term that can be added to the sums of `count` variables: its digits are few enough, its
variable is there, and its coefficient stands for a scalar. -/
def WrittenTerm.Fits (α : Type) [Scalar α] (count : Int) (term : WrittenTerm) : Prop :=
  term.Short ∧ term.Within count ∧ term.Stands α

/-- **Terms are added up if all of them fit.** -/
theorem addWritten_eq_ok_iff {count : Int} {terms : List WrittenTerm} {sums result : List α} :
    addWritten count terms sums = .ok result ↔
      (∀ term ∈ terms, term.Fits α count) ∧ result = addScalars terms sums := by
  induction terms generalizing sums with
  | nil => simp [addWritten, addScalars, pure, Except.pure, eq_comm]
  | cons term terms ih =>
      have later := @ih (sums.modify (term.number - 1) (· + term.scalar))
      rw [List.forall_mem_cons, addWritten, List.foldlM_cons]
      constructor
      · intro added
        obtain ⟨next, one, added⟩ := exists_of_bind_eq_ok added
        obtain ⟨value, valued, one⟩ := exists_of_bind_eq_ok one
        obtain ⟨position, positioned, one⟩ := exists_of_bind_eq_ok one
        obtain rfl := Except.ok.inj one
        obtain ⟨shortCoefficient, stands, rfl⟩ := WrittenTerm.value_toTerm_iff.mp valued
        obtain ⟨shortNumber, within, rfl⟩ := WrittenTerm.position_toTerm_iff.mp positioned
        obtain ⟨all, same⟩ := later.mp added
        exact ⟨⟨⟨⟨shortCoefficient, shortNumber⟩, within, stands⟩, all⟩, same⟩
      · rintro ⟨⟨⟨⟨shortCoefficient, shortNumber⟩, within, stands⟩, all⟩, same⟩
        have valued := WrittenTerm.value_toTerm_iff.mpr ⟨shortCoefficient, stands, rfl⟩
        have positioned := WrittenTerm.position_toTerm_iff.mpr ⟨shortNumber, within, rfl⟩
        exact bind_eq_ok (bind_eq_ok valued (bind_eq_ok positioned rfl)) (later.mpr ⟨all, same⟩)

end Sums

/-- The sum of the terms of the variable with the given place, counted from zero. -/
def total (terms : List WrittenTerm) (place : Nat) : Rat :=
  ((terms.filter fun term => term.number = place + 1).map WrittenTerm.value).sum

/-- Every sum grows by the total of its variable. -/
theorem getElem?_addScalars {terms : List WrittenTerm} (counted : ∀ term ∈ terms, 1 ≤ term.number)
    (sums : List Rat) (place : Nat) :
    (addScalars terms sums)[place]? = sums[place]?.map (· + total terms place) := by
  induction terms generalizing sums with
  | nil => simp [addScalars, total]
  | cons term terms ih =>
      rw [List.forall_mem_cons] at counted
      have split : total (term :: terms) place =
          (if term.number = place + 1 then term.value else 0) + total terms place := by
        by_cases here : term.number = place + 1
        · simp [total, here]
        · simp [total, here]
      have same : term.number - 1 = place ↔ term.number = place + 1 := by omega
      rw [addScalars, List.foldl_cons, ← addScalars, ih counted.2, split, List.getElem?_modify]
      cases sums[place]? with
      | none => rfl
      | some sum =>
          by_cases here : term.number = place + 1
          · simp [here, WrittenTerm.scalar_rat, add_assoc]
          · simp [same, here]

/-- **Added to nothing, terms give the totals of the variables.** -/
theorem addScalars_zeros {terms : List WrittenTerm} (counted : ∀ term ∈ terms, 1 ≤ term.number)
    (size : Nat) :
    addScalars terms (List.replicate size (0 : Rat)) = (List.range size).map (total terms) := by
  refine List.ext_getElem? fun place => ?_
  rw [getElem?_addScalars counted, List.getElem?_map, List.getElem?_replicate]
  by_cases inside : place < size
  · rw [if_pos inside, List.getElem?_range inside, Option.map_some, Option.map_some, zero_add]
  · rw [if_neg inside, List.getElem?_eq_none (by simpa using inside)]
    rfl

/-! ## Texts that mention a variable -/

theorem mem_lowerFrom {c lowered : Char}
    (becomes : ∀ before after, lowered ∈ lowerChar before c after) {text : List Char}
    (member : c ∈ text) (before : List Char) : lowered ∈ lowerFrom before text := by
  induction text generalizing before with
  | nil => cases member
  | cons first text ih =>
      rw [lowerFrom, List.mem_append]
      rcases List.mem_cons.mp member with rfl | later
      · exact .inl (becomes before text)
      · exact .inr (ih later (first :: before))

/-- A text with the letter of the variables, small or capital, has it in lower case. -/
theorem letter_mem_lower {text : List Char} (mentions : 'x' ∈ text ∨ 'X' ∈ text) :
    'x' ∈ lower text := by
  rcases mentions with small | capital
  · refine mem_lowerFrom (fun before after => ?_) small []
    rw [IsExpressionChar.lowerChar_eq (.inr (by decide)), List.mem_singleton]
  · have lowered (before after : List Char) : lowerChar before 'X' after = ['x'] := rfl
    refine mem_lowerFrom (fun before after => ?_) capital []
    rw [lowered, List.mem_singleton]

/-- Dropping the spaces keeps the letter of the variables. -/
theorem letter_mem_expressionText {text : List Char} (mentions : 'x' ∈ text ∨ 'X' ∈ text) :
    'x' ∈ expressionText text :=
  letter_mem_lower (mentions.imp (fun small => List.mem_filter.mpr ⟨small, by decide⟩)
    fun capital => List.mem_filter.mpr ⟨capital, by decide⟩)

section Expressions

variable {α : Type} [Scalar α]

/-- A text that mentions a variable is read as an expression. -/
theorem coefficients_eq_addTerms {text : String}
    (mentions : 'x' ∈ text.toList ∨ 'X' ∈ text.toList) (count : Int) :
    (coefficients text count : Except Failure (List α)) =
      addTerms count true (expressionText text.toList) (List.replicate count.toNat 0) := by
  have mentioned : mentionsVariable text.toList = true :=
    List.contains_iff_mem.mpr (letter_mem_lower mentions)
  simp only [coefficients, mentioned, if_true]

end Expressions

/-! ## Short runs -/

/-- No run of digits of the text has more digits than are ever converted. -/
def ShortRuns (text : List Char) : Prop :=
  ∀ run, run <:+: text → (∀ c ∈ run, isDigit c = true) → run.length ≤ digitLimit

theorem Spells.isInfix {opening : Bool} {terms : List WrittenTerm} {text : List Char}
    (spelled : Spells opening terms text) {term : WrittenTerm} (member : term ∈ terms) :
    term.chars <:+: text := by
  induction spelled with
  | nil => cases member
  | cons _ _ ih =>
      rcases List.mem_cons.mp member with rfl | later
      · exact (List.prefix_append _ _).isInfix
      · exact (ih later).trans (List.suffix_append _ _).isInfix

/-- The runs of digits of the terms are runs of digits of the text. -/
theorem Spells.short {opening : Bool} {terms : List WrittenTerm} {text : List Char}
    (spelled : Spells opening terms text) (short : ShortRuns text) {term : WrittenTerm}
    (member : term ∈ terms) : term.Short := by
  have inside := spelled.isInfix member
  have brief (run : DigitRun) (part : run.chars <:+: term.chars) : run.Short :=
    short run.chars (part.trans inside) run.digits
  constructor
  · intro magnitude written
    have part : magnitude.chars <:+: term.chars := by
      rw [WrittenTerm.chars, Option.mem_def.mp written]
      exact List.infix_append' _ _ _
    cases magnitude with
    | quotient numerator denominator =>
        exact ⟨brief numerator ((List.prefix_append _ _).isInfix.trans part),
          brief denominator (((List.suffix_cons _ _).trans (List.suffix_append _ _)).isInfix.trans
            part)⟩
    | decimal => trivial
  · refine brief term.variableRun (List.IsSuffix.isInfix ?_)
    exact (((List.suffix_cons _ _).trans (List.suffix_append _ _)).trans
      (List.suffix_append _ _)).trans (List.suffix_append _ _)

/-! ## The order of the terms -/

namespace WrittenTerm

/-- The same term with its sign written out. -/
def signed (term : WrittenTerm) : WrittenTerm := { term with mark := term.mark.explicit }

/-- A term fits with its sign written out if it fits without. -/
theorem fits_signed {α : Type} [Scalar α] (count : Int) (term : WrittenTerm) :
    term.signed.Fits α count ↔ term.Fits α count := by
  have stands : term.signed.Stands α ↔ term.Stands α := by
    simp only [Stands, signed, SignMark.negative_explicit]
  rw [Fits, stands]
  exact Iff.rfl

theorem value_signed (term : WrittenTerm) : term.signed.value = term.value := by
  simp only [value, signed, SignMark.negative_explicit]

end WrittenTerm

theorem total_signed (terms : List WrittenTerm) (place : Nat) :
    total (terms.map WrittenTerm.signed) place = total terms place := by
  have number (term : WrittenTerm) : term.signed.number = term.number := rfl
  rw [total, List.filter_map, List.map_map, total]
  simp only [Function.comp_def, number, WrittenTerm.value_signed]

/-- Terms in another order have the same totals. -/
theorem total_eq_of_perm {terms others : List WrittenTerm}
    (same : (others.map WrittenTerm.signed).Perm (terms.map WrittenTerm.signed)) :
    total others = total terms := by
  funext place
  rw [← total_signed others, ← total_signed terms]
  exact ((same.filter _).map _).sum_eq

/-- An expression whose terms fit gives the totals of the variables. -/
theorem coefficients_of_spells {text : String} {count : Int} {terms : List WrittenTerm}
    (mentions : 'x' ∈ text.toList ∨ 'X' ∈ text.toList)
    (spelled : Spells true terms (expressionText text.toList))
    (fits : ∀ term ∈ terms, term.Fits Rat count) :
    coefficients text count = .ok ((List.range count.toNat).map (total terms)) := by
  rw [coefficients_eq_addTerms mentions, addTerms_of_spells spelled,
    ← addScalars_zeros fun term member => (fits term member).2.1.1]
  exact addWritten_eq_ok_iff.mpr ⟨fits, rfl⟩

/-- **Expressions are read exactly as they are written.** Let a text mention a variable and
have no run of digits that is too long to be converted.

It is read, over any scalars, if and only if what remains without spaces and in lower case is
spelled by terms whose variables are there and whose coefficients stand for scalars. Over exact
scalars the result has one entry for each variable, which is the total of its terms. Another
text with the same terms in another order, as far as their signs are written out, has the same
result. -/
theorem expression_read_as_written (text : String) (count : Int)
    (mentions : 'x' ∈ text.toList ∨ 'X' ∈ text.toList)
    (short : ShortRuns (expressionText text.toList)) :
    (∀ (α : Type) [Scalar α], (∃ sums : List α, coefficients text count = .ok sums) ↔
      ∃ terms, terms ≠ [] ∧ Spells true terms (expressionText text.toList) ∧
        ∀ term ∈ terms, term.Within count ∧ term.Stands α) ∧
    ∀ terms, Spells true terms (expressionText text.toList) →
      (∀ term ∈ terms, term.Within count ∧ term.Stands Rat) →
        coefficients text count = .ok ((List.range count.toNat).map (total terms)) ∧
        ∀ (other : String) (others : List WrittenTerm),
          ('x' ∈ other.toList ∨ 'X' ∈ other.toList) →
          Spells true others (expressionText other.toList) →
          (others.map WrittenTerm.signed).Perm (terms.map WrittenTerm.signed) →
            coefficients other count = .ok ((List.range count.toNat).map (total terms)) := by
  refine ⟨fun α _ => ⟨?_, ?_⟩, ?_⟩
  · rintro ⟨sums, read⟩
    rw [coefficients_eq_addTerms mentions] at read
    obtain ⟨terms, spelled, added⟩ := exists_spells_of_addTerms read
    have fits := (addWritten_eq_ok_iff.mp added).1
    refine ⟨terms, ?_, spelled, fun term member => (fits term member).2⟩
    rintro rfl
    have letter := letter_mem_expressionText mentions
    rw [spelled.eq_nil] at letter
    cases letter
  · rintro ⟨terms, -, spelled, fits⟩
    refine ⟨addScalars terms (List.replicate count.toNat 0), ?_⟩
    rw [coefficients_eq_addTerms mentions, addTerms_of_spells spelled]
    exact addWritten_eq_ok_iff.mpr
      ⟨fun term member => ⟨spelled.short short member, fits term member⟩, rfl⟩
  · intro terms spelled fits
    have all : ∀ term ∈ terms, term.Fits Rat count :=
      fun term member => ⟨spelled.short short member, fits term member⟩
    refine ⟨coefficients_of_spells mentions spelled all, ?_⟩
    intro other others mentioned respelled same
    rw [← total_eq_of_perm same]
    refine coefficients_of_spells mentioned respelled fun term member => ?_
    rw [← WrittenTerm.fits_signed]
    obtain ⟨twin, there, signed⟩ := List.mem_map.mp (same.subset (List.mem_map_of_mem member))
    rw [← signed, WrittenTerm.fits_signed]
    exact all twin there

/-- Three terms, of which the first goes without a sign and the last without a coefficient. -/
def repeatedVariable : List WrittenTerm := [
  ⟨.none, some (.decimal ['2'] none (by simp) (by simp; decide)), false, .ofNat 1⟩,
  ⟨.minus, some (.quotient (.ofNat 1) (.ofNat 2)), true, .ofNat 2⟩,
  ⟨.plus, none, false, .ofNat 1⟩]

theorem expression_read_as_written_repeatedVariable :
    ('x' ∈ "2X1 - 1/2*x2 + x1".toList ∨ 'X' ∈ "2X1 - 1/2*x2 + x1".toList) ∧
      ShortRuns (expressionText "2X1 - 1/2*x2 + x1".toList) ∧
      Spells true repeatedVariable (expressionText "2X1 - 1/2*x2 + x1".toList) ∧
      (∃ sums : List Float, coefficients "2X1 - 1/2*x2 + x1" 2 = .ok sums) ∧
      coefficients "2X1 - 1/2*x2 + x1" 2 = .ok [(3 : Rat), -1 / 2] := by
  have mentions : 'x' ∈ "2X1 - 1/2*x2 + x1".toList ∨ 'X' ∈ "2X1 - 1/2*x2 + x1".toList :=
    .inl (by decide)
  have short : ShortRuns (expressionText "2X1 - 1/2*x2 + x1".toList) :=
    fun run inside _ => inside.length_le.trans (by decide)
  have spelled : Spells true repeatedVariable (expressionText "2X1 - 1/2*x2 + x1".toList) :=
    .cons (.inl rfl) (.cons (.inr (by decide)) (.cons (.inr (by decide)) (.nil false)))
  have read := expression_read_as_written "2X1 - 1/2*x2 + x1" 2 mentions short
  have sums : (List.range 2).map (total repeatedVariable) = [3, -1 / 2] := by decide +kernel
  refine ⟨mentions, short, spelled, ?_, ?_⟩
  · exact (read.1 Float).mpr
      ⟨repeatedVariable, List.cons_ne_nil _ _, spelled, by decide +kernel⟩
  · rw [← sums]
    exact (read.2 repeatedVariable spelled (by decide +kernel)).1

end SimplexSolver.Entry
