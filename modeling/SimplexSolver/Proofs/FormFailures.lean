import SimplexSolver.Entry.Form
import SimplexSolver.Proofs.DoubleRange
import SimplexSolver.Proofs.InputFormats

/-!
# How reading a form can fail

Almost everything that can be wrong with the texts of a form is complained about, in words
that are shown to the reader. There is one gap. A decimal that is too large for a scalar is
treated as no number at all, but a quotient of whole numbers that is too large fails without
a message (`ratio`).

`Yields` says of a computation what its result satisfies and what its failures come from, and
is followed through the readers of numbers, terms, lists of coefficients and constraints, one
after the other. The result is that nothing else goes wrong: apart from the complaints and the
rejections of the normal form a form fails only if one of its texts holds an oversized quotient
(`form_handled_unless_oversized`).
-/

set_option autoImplicit false

namespace SimplexSolver

/-- The result of a computation has a property, or its failure has an excuse. -/
def Yields {β : Type} (excuse : Failure → Prop) (property : β → Prop) : Except Failure β → Prop
  | .ok value => property value
  | .error failure => excuse failure

namespace Yields

variable {β γ : Type} {excuse weaker : Failure → Prop} {property : β → Prop} {next : γ → Prop}

/-- Computations in turn: the second one may rely on the result of the first. -/
theorem bind {first : Except Failure β} {second : β → Except Failure γ}
    (starts : Yields excuse property first)
    (goesOn : ∀ value, property value → Yields excuse next (second value)) :
    Yields excuse next (first >>= second) := by
  cases first with
  | ok value => exact goesOn value starts
  | error failure => exact starts

theorem excused {computation : Except Failure β} (yields : Yields excuse property computation)
    (weakens : ∀ failure, excuse failure → weaker failure) :
    Yields weaker property computation := by
  cases computation with
  | ok value => exact yields
  | error failure => exact weakens failure yields

end Yields

namespace Text

/-! ## Parts of a text -/

theorem isInfix_strip (text : List Char) : strip text <:+: text := by
  have back (list : List Char) : (list.reverse.dropWhile isBlank).reverse <+: list := by
    have suffix := List.dropWhile_suffix (l := list.reverse) isBlank
    rwa [← List.reverse_prefix, List.reverse_reverse] at suffix
  exact (back _).isInfix.trans (List.dropWhile_suffix isBlank).isInfix

/-- A word of a text is a part of it. -/
theorem infix_of_mem_wordsFrom {word current text : List Char}
    (member : word ∈ wordsFrom current text) : word <:+: current.reverse ++ text := by
  induction text generalizing current with
  | nil =>
      rw [wordsFrom] at member
      split at member
      · cases member
      · obtain rfl := List.mem_singleton.mp member
        rw [List.append_nil]
  | cons c text ih =>
      rw [wordsFrom] at member
      split at member
      · have later (found : word ∈ wordsFrom [] text) : word <:+: current.reverse ++ c :: text :=
          (ih found).trans ⟨current.reverse ++ [c], [], by simp⟩
        split at member
        · exact later member
        · rcases List.mem_cons.mp member with rfl | found
          · exact (List.prefix_append _ _).isInfix
          · exact later found
      · have found := ih member
        rwa [List.reverse_cons, List.append_assoc, List.singleton_append] at found

end Text

namespace Entry

open Text
open WrittenTerm (factorChars)

section Numbers

variable {α : Type} [Scalar α]

/-! ## Oversized quotients -/

/-- A text holds a quotient of whole numbers that is too large for a scalar. -/
def HoldsOversized (α : Type) [Scalar α] (text : List Char) : Prop :=
  ∃ (numerator denominator : DigitRun) (negative : Bool),
    (Magnitude.quotient numerator denominator).chars <:+: text ∧ denominator.value ≠ 0 ∧
      Scalar.isFinite ((Magnitude.quotient numerator denominator).nearest negative : α) = false

theorem HoldsOversized.mono {text whole : List Char} (part : text <:+: whole) :
    HoldsOversized α text → HoldsOversized α whole := by
  rintro ⟨numerator, denominator, negative, inside, rest⟩
  exact ⟨numerator, denominator, negative, inside.trans part, rest⟩

/-- A failure of reading a text: a complaint, or the lack of one about an oversized quotient. -/
def FailsBy (α : Type) [Scalar α] (text : List Char) (failure : Failure) : Prop :=
  (∃ cause, failure = .invalid cause) ∨ failure = .tooLarge ∧ HoldsOversized α text

theorem FailsBy.mono {text whole : List Char} (part : text <:+: whole) {failure : Failure} :
    FailsBy α text failure → FailsBy α whole failure :=
  Or.imp_right (And.imp_right (HoldsOversized.mono part))

theorem FailsBy.invalid (text : List Char) (cause : Complaint) :
    FailsBy α text (.invalid cause) :=
  .inl ⟨cause, rfl⟩

/-! ## Numbers -/

theorem takeSign_suffix (text : List Char) : (Literal.takeSign text).2 <:+ text := by
  unfold Literal.takeSign
  split
  · exact List.suffix_cons _ _
  · exact List.suffix_cons _ _
  · exact List.suffix_rfl

/-- A text that is split at a slash holds the quotient of its two parts. -/
theorem exists_quotient_of_splitRatio {text above below : List Char} {negative : Bool}
    (split : splitRatio text = some (negative, above, below)) :
    ∃ numerator denominator : DigitRun, above = numerator.chars ∧ below = denominator.chars ∧
      (Magnitude.quotient numerator denominator).chars <:+: text := by
  have unsigned := (takeSign_suffix text).isInfix
  unfold splitRatio at split
  generalize Literal.takeSign text = taken at split unsigned
  simp only at split
  split at split
  · rename_i numerator rest front
    obtain ⟨same, aboveDigits, -⟩ := parts_of_takeDigits front
    split at split
    · rename_i denominator back
      obtain ⟨rfl, belowDigits, -⟩ := parts_of_takeDigits back
      split at split
      · cases split
      · rename_i occupied
        simp only [Bool.or_eq_true, List.isEmpty_iff, not_or] at occupied
        obtain ⟨-, rfl, rfl⟩ := by simpa using split
        refine ⟨⟨numerator, occupied.1, aboveDigits⟩, ⟨denominator, occupied.2, belowDigits⟩, rfl,
          rfl, ?_⟩
        rw [same, List.append_nil] at unsigned
        exact unsigned
    · cases split
  · cases split

/-- A number fails with a complaint, or because it is an oversized quotient. -/
theorem yields_numberOfText (text : List Char) :
    Yields (FailsBy α text) (fun _ => True) (numberOfText text : Except Failure (Option α)) := by
  unfold numberOfText
  simp only
  split
  · trivial
  · split
    · rename_i negative above below split
      obtain ⟨numerator, denominator, rfl, rfl, inside⟩ := exists_quotient_of_splitRatio split
      change Yields _ _ ((Magnitude.quotient numerator denominator).outcome negative)
      rw [Magnitude.outcome_quotient]
      split_ifs with long zero longer finite
      · exact .invalid _ _
      · trivial
      · exact .invalid _ _
      · trivial
      · exact .inr ⟨rfl, numerator, denominator, negative, inside.trans (isInfix_strip text), zero,
          by simpa using finite⟩
    · trivial

/-! ## Terms and expressions -/

/-- The coefficient of a term fails with a complaint, or because it is an oversized quotient. -/
theorem yields_value {text rest : List Char} {term : Term}
    (found : Term.atFront? text = some (term, rest)) :
    Yields (FailsBy α text) (fun _ => True) (term.value : Except Failure α) := by
  obtain ⟨mark, coefficient, starred, run, rfl, rfl, -⟩ := Term.parts_of_atFront? found
  have part : mark.chars ++ coefficient <:+:
      mark.chars ++ (coefficient ++ (factorChars starred run.chars ++ rest)) := by
    rw [← List.append_assoc]
    exact (List.prefix_append _ _).isInfix
  unfold Term.value
  split
  · trivial
  · trivial
  · trivial
  · refine Yields.bind ((yields_numberOfText _).excused fun _ => FailsBy.mono part) ?_
    rintro (_ | value) -
    · exact .invalid _ _
    · trivial

theorem yields_position (text : List Char) (term : Term) (count : Int) :
    Yields (FailsBy α text) (fun _ => True) (term.position count) := by
  have converted : Yields (FailsBy α text) (fun _ => True) (wholeNumber term.variableDigits) := by
    unfold wholeNumber
    split
    · exact .invalid _ _
    · trivial
  refine Yields.bind converted fun number _ => ?_
  split
  · trivial
  · exact .invalid _ _

/-- An expression fails with a complaint, or because it holds an oversized quotient. There
are as many sums afterwards as before. -/
theorem yields_addTerms (count : Int) (opening : Bool) (text : List Char) (sums : List α) :
    Yields (FailsBy α text) (fun result => result.length = sums.length)
      (addTerms count opening text sums) := by
  fun_induction addTerms count opening text sums with
  | case1 => rfl
  | case2 => exact .invalid _ _
  | case3 => exact .invalid _ _
  | case4 opening text sums place located placed ih =>
      obtain ⟨front, same, found⟩ := Term.exists_front_of_first? located
      have back : front <:+: text := same ▸ (List.suffix_append _ _).isInfix
      refine Yields.bind ((yields_value found).excused fun _ => FailsBy.mono back) ?_
      intro value _
      refine Yields.bind (yields_position text place.term count) fun position _ => ?_
      have rest : place.rest <:+: text := by
        obtain ⟨mark, coefficient, starred, run, -, rfl, -⟩ := Term.parts_of_atFront? found
        simp only [← List.append_assoc] at same
        exact same ▸ (List.suffix_append _ _).isInfix
      have later := (ih value position).excused fun _ => FailsBy.mono rest
      simpa using later

/-! ## Lists of coefficients -/

theorem yields_numbersOfWords {text : List Char} (listed : List (List Char))
    (parts : ∀ word ∈ listed, word <:+: text) :
    Yields (FailsBy α text) (fun values => values.length = listed.length)
      (numbersOfWords listed : Except Failure (List α)) := by
  induction listed with
  | nil => rfl
  | cons word listed ih =>
      rw [List.forall_mem_cons] at parts
      rw [numbersOfWords]
      refine Yields.bind ((yields_numberOfText word).excused fun _ => FailsBy.mono parts.1) ?_
      rintro (_ | value) -
      · exact .invalid _ _
      · exact Yields.bind (ih parts.2) fun values same => congrArg (· + 1) same

/-- A failure of a field: a complaint, or an oversized quotient in the field as it was entered
or as the terms of an expression are looked for in it. -/
def FailsByField (α : Type) [Scalar α] (field : String) (failure : Failure) : Prop :=
  ∃ text ∈ [field.toList, expressionText field.toList], FailsBy α text failure

theorem FailsBy.asEntered {field : String} {failure : Failure}
    (fails : FailsBy α field.toList failure) : FailsByField α field failure :=
  ⟨field.toList, List.mem_cons_self, fails⟩

theorem FailsBy.asExpression {field : String} {failure : Failure}
    (fails : FailsBy α (expressionText field.toList) failure) : FailsByField α field failure :=
  ⟨expressionText field.toList, by simp, fails⟩

/-- A list of coefficients fails with a complaint, or because of an oversized quotient.
Otherwise it has one coefficient for each variable. -/
theorem yields_coefficients (field : String) (count : Int) :
    Yields (FailsByField α field) (fun values => values.length = count.toNat)
      (coefficients field count : Except Failure (List α)) := by
  unfold coefficients
  simp only
  split
  · have added := yields_addTerms (α := α) count true (expressionText field.toList)
      (List.replicate count.toNat 0)
    rw [List.length_replicate] at added
    exact added.excused fun _ fails => fails.asExpression
  · split
    · exact FailsBy.asEntered (.invalid _ _)
    · rename_i counted
      rw [← not_ne_iff.mp counted, Int.toNat_natCast]
      refine (yields_numbersOfWords _ fun word member => ?_).excused fun _ fails => fails.asEntered
      exact infix_of_mem_wordsFrom member

/-! ## Constraints -/

theorem yields_boundOf (index : Nat) (content : String) :
    Yields (FailsByField α content) (fun _ => True)
      (boundOf index (.text content) : Except Failure α) := by
  have read : Yields (FailsByField α content) (fun _ => True)
      (number (.text content) : Except Failure (Option α)) := by
    rw [number]
    exact (yields_numberOfText content.toList).excused fun _ fails => fails.asEntered
  refine read.bind ?_
  rintro (_ | bound) -
  · exact FailsBy.asEntered (.invalid _ _)
  · trivial

/-- A failure that comes from one of the fields. -/
def FailsByOneOf (α : Type) [Scalar α] (fields : List String) (failure : Failure) : Prop :=
  ∃ field ∈ fields, FailsByField α field failure

theorem yields_constraintsFrom (count : Int) (index : Nat) (texts relations contents : List String)
    (fields : List String) (known : texts ⊆ fields) (knownBounds : contents ⊆ fields) :
    Yields (FailsByOneOf α fields)
      (fun constraints => ∀ constraint ∈ constraints,
        constraint.coefficients.length = count.toNat)
      (constraintsFrom count index texts relations (contents.map Value.text) :
        Except Failure (List (Constraint α))) := by
  induction texts generalizing index relations contents with
  | nil => exact nofun
  | cons text texts ih =>
      cases relations with
      | nil => exact nofun
      | cons relation relations =>
          cases contents with
          | nil => exact nofun
          | cons content contents =>
              rw [List.cons_subset] at known knownBounds
              rw [List.map_cons, constraintsFrom]
              refine Yields.bind ((yields_boundOf index content).excused
                fun _ failed => ⟨content, knownBounds.1, failed⟩) fun bound _ => ?_
              refine Yields.bind ((yields_coefficients text count).excused
                fun _ failed => ⟨text, known.1, failed⟩) fun row same => ?_
              refine Yields.bind (ih (index + 1) relations contents known.2 knownBounds.2)
                fun constraints all => ?_
              exact List.forall_mem_cons.mpr ⟨same, all⟩

end Numbers

end Entry

section Normalizing

variable {α : Type} [Scalar α]

/-- A normalized constraint is an upper bound with as many coefficients as before. -/
theorem Constraint.shape_of_normalize {constraint result : Constraint α} {index : Nat}
    (made : constraint.normalize index = .ok result) :
    result.relation = .atMost ∧ result.coefficients.length = constraint.coefficients.length := by
  unfold Constraint.normalize at made
  split at made
  · rename_i upper
    obtain rfl := Except.ok.inj made
    exact ⟨upper, rfl⟩
  · cases made
  · split at made
    · obtain rfl := Except.ok.inj made
      exact ⟨rfl, List.length_map _⟩
    · cases made
  · cases made

theorem shape_of_normalizeFrom {size index : Nat} {constraints results : List (Constraint α)}
    (sized : ∀ constraint ∈ constraints, constraint.coefficients.length = size)
    (made : normalizeFrom index constraints = .ok results) :
    ∀ result ∈ results, result.relation = .atMost ∧ result.coefficients.length = size := by
  induction constraints generalizing index results with
  | nil =>
      obtain rfl := Except.ok.inj made
      exact nofun
  | cons constraint constraints ih =>
      rw [List.forall_mem_cons] at sized
      obtain ⟨first, one, made⟩ := exists_of_bind_eq_ok made
      obtain ⟨others, rest, made⟩ := exists_of_bind_eq_ok made
      obtain rfl := Except.ok.inj made
      obtain ⟨upper, same⟩ := Constraint.shape_of_normalize one
      exact List.forall_mem_cons.mpr ⟨⟨upper, same.trans sized.1⟩, ih sized.2 rest⟩

end Normalizing

namespace Entry

section Forms

variable {α : Type} [Scalar α]

/-- The texts of a form that are read as numbers. -/
def Form.texts (form : Form α) : List String :=
  form.objective :: (form.constraints ++ form.bounds.map Value.toText)

/-- What the reader of a form is prepared for: a problem all of whose constraints are upper
bounds with one coefficient for each variable, a complaint, or a rejection of the normal
form. -/
def Form.Handled (form : Form α) : Prop :=
  (∃ result, form.read = .ok result ∧ ∀ constraint ∈ result.problem.constraints,
    constraint.relation = .atMost ∧
      (constraint.coefficients.length : Int) = form.variableCount) ∨
  (∃ cause, form.read = .error (.invalid cause)) ∨
  ∃ cause, form.read = .error (.rejected cause)

/-- A form is read, complained about, rejected by the normal form, or fails because of an
oversized quotient in one of its texts. -/
theorem Form.yields_read (form : Form α)
    (written : ∀ bound ∈ form.bounds, ∃ content, bound = .text content) :
    Yields (fun failure => (∃ cause, failure = .rejected cause) ∨
        FailsByOneOf α form.texts failure)
      (fun result => ∀ constraint ∈ result.problem.constraints, constraint.relation = .atMost ∧
        constraint.coefficients.length = form.variableCount.toNat)
      form.read := by
  have contents : form.bounds = (form.bounds.map Value.toText).map Value.text := by
    rw [List.map_map]
    refine (List.map_id _).symm.trans (List.map_congr_left fun bound member => ?_)
    obtain ⟨content, rfl⟩ := written bound member
    rfl
  have objective : Yields (FailsByOneOf α form.texts) _
      (coefficients form.objective form.variableCount) :=
    (yields_coefficients form.objective form.variableCount).excused
      fun _ failed => ⟨form.objective, List.mem_cons_self, failed⟩
  have constraints := yields_constraintsFrom (α := α) form.variableCount 1 form.constraints
    form.relations (form.bounds.map Value.toText) form.texts
    (fun _ member => List.mem_cons_of_mem _ (List.mem_append_left _ member))
    (fun _ member => List.mem_cons_of_mem _ (List.mem_append_right _ member))
  rw [← contents] at constraints
  unfold Form.read
  refine Yields.bind (objective.excused fun _ => .inr) fun row _ => ?_
  refine Yields.bind (constraints.excused fun _ => .inr) fun rows sized => ?_
  simp only
  split
  · rename_i upper
    rw [List.all_eq_true] at upper
    intro constraint member
    exact ⟨beq_iff_eq.mp (upper constraint member), sized constraint member⟩
  · split
    · rename_i normalized made
      rw [Problem.normalize] at made
      cases turned : normalizeFrom 1 rows with
      | error cause =>
          rw [turned] at made
          cases made
      | ok results =>
          rw [turned] at made
          obtain rfl := Except.ok.inj made
          exact shape_of_normalizeFrom sized turned
    · rename_i cause _
      exact .inl ⟨cause, rfl⟩

end Forms

/-- A quotient whose nearest double is not finite is beyond the range of doubles. -/
theorem overflowBound_le_of_oversized {numerator denominator : DigitRun} {negative : Bool}
    (divided : denominator.value ≠ 0)
    (oversized : Scalar.isFinite
      ((Magnitude.quotient numerator denominator).nearest negative : Float) = false) :
    Binary64.overflowBound * denominator.value ≤ numerator.value := by
  by_contra less
  have unit : (0 : Rat) < denominator.value := Nat.cast_pos.mpr (Nat.pos_of_ne_zero divided)
  have small : |mkRat (if negative then -(numerator.value : Int) else numerator.value)
      denominator.value| < Binary64.overflowBound := by
    have size : |((if negative then -(numerator.value : Int) else numerator.value : Int) : Rat)| =
        numerator.value := by
      cases negative <;> simp
    rw [Rat.mkRat_eq_div, abs_div, size, Nat.abs_cast, div_lt_iff₀ unit]
    exact_mod_cast not_le.mp less
  have finite := Binary64.isFinite_nearest small
  rw [Magnitude.nearest] at oversized
  exact absurd (finite.symm.trans oversized) (by decide)

/-- **A form fails in the ways that are handled, unless it holds an oversized quotient.** Let a
form have at least one variable, and texts for all of its right-hand sides. If its failure is
not one that is handled, it is that of a number too large for a double, and one of its texts,
as it was entered or without spaces and in lower case, holds a quotient of whole numbers beyond
the range of doubles. -/
theorem form_handled_unless_oversized (form : Form Float) (counted : 1 ≤ form.variableCount)
    (written : ∀ bound ∈ form.bounds, ∃ content, bound = .text content) :
    form.Handled ∨ form.read = .error .tooLarge ∧
      ∃ field ∈ form.texts, ∃ text ∈ [field.toList, expressionText field.toList],
        ∃ numerator denominator : DigitRun,
          (Magnitude.quotient numerator denominator).chars <:+: text ∧ 0 < denominator.value ∧
          Binary64.overflowBound * denominator.value ≤ numerator.value := by
  have yields := form.yields_read written
  unfold Form.Handled
  cases outcome : form.read with
  | ok result =>
      rw [outcome] at yields
      refine .inl (.inl ⟨result, rfl, fun constraint member => ?_⟩)
      obtain ⟨upper, length⟩ := yields constraint member
      exact ⟨upper, by omega⟩
  | error failure =>
      rw [outcome] at yields
      rcases yields with ⟨cause, rfl⟩ | ⟨field, member, text, source, ⟨cause, rfl⟩ | ⟨rfl, held⟩⟩
      · exact .inl (.inr (.inr ⟨cause, rfl⟩))
      · exact .inl (.inr (.inl ⟨cause, rfl⟩))
      · obtain ⟨numerator, denominator, negative, inside, divided, infinite⟩ := held
        exact .inr ⟨rfl, field, member, text, source, numerator, denominator, inside,
          Nat.pos_of_ne_zero divided, overflowBound_le_of_oversized divided infinite⟩

/-- A lower bound with a negative right-hand side. -/
def lowerBoundForm : Form Float := ⟨2, "max", "x1 - 1/2x2", ["1 1"], [">="], [.text "-3"]⟩

/-- This form holds a quotient that is not oversized: it is read, and normalised. -/
theorem form_handled_unless_oversized_lowerBoundForm :
    1 ≤ lowerBoundForm.variableCount ∧
    (∀ bound ∈ lowerBoundForm.bounds, ∃ content, bound = .text content) ∧
    lowerBoundForm.Handled ∧
    ∃ result, lowerBoundForm.read = .ok result ∧ result.normalized = true := by
  have counted : 1 ≤ lowerBoundForm.variableCount := by decide
  have written : ∀ bound ∈ lowerBoundForm.bounds, ∃ content, bound = .text content := by
    simp [lowerBoundForm]
  have seen : ∃ result ∈ lowerBoundForm.read.toOption, result.normalized = true := by
    decide +kernel
  obtain ⟨result, read, normalized⟩ := seen
  have made := ok_of_toOption read
  have handled := (form_handled_unless_oversized lowerBoundForm counted written).resolve_right
    fun ⟨failed, _⟩ => by cases made.symm.trans failed
  exact ⟨counted, written, handled, result, made, normalized⟩

/-- An oversized quotient is not handled where it stands alone. -/
theorem read_of_oversized {form : Form Float} {numerator denominator : DigitRun}
    (short : numerator.Short ∧ denominator.Short) (divided : denominator.value ≠ 0)
    (oversized : Scalar.isFinite
      ((Magnitude.quotient numerator denominator).nearest false : Float) = false)
    (counted : form.variableCount = 1)
    (alone : form.objective = rowText [⟨.none, .quotient numerator denominator⟩]) :
    form.read = .error .tooLarge := by
  have number : (numberOfText (WrittenNumber.mk .none (.quotient numerator denominator)).chars :
      Except Failure (Option Float)) = .error .tooLarge := by
    rw [numberOfText_chars]
    change (Magnitude.quotient numerator denominator).outcome false = _
    rw [Magnitude.outcome_quotient, if_neg (Nat.not_lt.mpr short.2), if_neg divided,
      if_neg (Nat.not_lt.mpr short.1), if_neg (by simp [oversized])]
  have row : (coefficients form.objective form.variableCount : Except Failure (List Float)) =
      .error .tooLarge := by
    have read := coefficients_rowText (α := Float) [⟨.none, .quotient numerator denominator⟩]
    rw [alone, counted]
    refine read.trans ?_
    rw [List.map_singleton, numbersOfWords, number]
    rfl
  rw [Form.read, row]
  rfl

/-- A one with four hundred zeros. -/
def longRun : DigitRun where
  chars := '1' :: List.replicate 400 '0'
  nonempty := List.cons_ne_nil _ _
  digits := by
    simp only [List.mem_cons, List.mem_replicate]
    rintro c (rfl | ⟨-, rfl⟩)
    · decide
    · decide

/-- A form whose objective is a single quotient that is too large. -/
def oversizedForm : Form Float :=
  ⟨1, "max", String.ofList (longRun.chars ++ ['/', '1']), [], [], []⟩

/-- **There are forms that fail without being handled.** -/
theorem oversizedForm_unhandled :
    oversizedForm.read = .error .tooLarge ∧ ¬ oversizedForm.Handled := by
  have fails : oversizedForm.read = .error .tooLarge := by
    have short : longRun.Short := by
      rw [DigitRun.Short, longRun, List.length_cons, List.length_replicate]
      decide
    have alone : oversizedForm.objective =
        rowText [⟨.none, .quotient longRun (.ofNat 1)⟩] := by
      rw [rowText, List.map_singleton, List.intercalate_singleton]
      rfl
    have brief : (DigitRun.ofNat 1).Short := by decide
    exact read_of_oversized ⟨short, brief⟩ (by decide) (by decide +kernel) rfl alone
  refine ⟨fails, ?_⟩
  rintro (⟨result, read, -⟩ | ⟨cause, read⟩ | ⟨cause, read⟩)
  · cases fails.symm.trans read
  · cases fails.symm.trans read
  · cases fails.symm.trans read

end Entry

end SimplexSolver
