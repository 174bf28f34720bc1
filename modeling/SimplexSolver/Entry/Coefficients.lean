import SimplexSolver.Entry.Number
import SimplexSolver.Entry.Term
import SimplexSolver.Text.Case

/-!
# Lists of coefficients

A list of coefficients is entered in one of two ways. A text that mentions `x` is
a linear expression: spaces are dropped, capital letters are lowered, and the
terms have to fill the whole text, each after the first opening with a sign. The
coefficients of a variable that occurs several times are added up, from left to
right, starting from zero. Any other text is a list of numbers separated by
blanks, one for each variable.

Faults are reported in the order of the text. Within a term the gap before it
comes first, then its coefficient, then its variable.
-/

set_option autoImplicit false

namespace SimplexSolver.Entry

open Text

variable {α : Type} [Scalar α]

/-! ## Linear expressions -/

/-- The coefficient of a term. A term without digits and point counts once. -/
def Term.value (term : Term) : Except Failure α :=
  match term.coefficient with
  | [] | ['+'] => .ok 1
  | ['-'] => .ok (-1)
  | coefficient => do
    match ← numberOfText coefficient with
    | some value => return value
    | none => throw (.invalid (.invalidCoefficient (String.ofList coefficient)))

/-- The position of the variable of a term, among a number of variables. -/
def Term.position (term : Term) (count : Int) : Except Failure Nat := do
  let number ← wholeNumber term.variableDigits
  if 1 ≤ number ∧ (number : Int) ≤ count then return number - 1
  else throw (.invalid (.outsideVariables (String.ofList term.variableDigits) count))

/-- Adds up the terms of a text that has to consist of terms. `opening` says
whether the next term is the first one, which needs no sign. -/
def addTerms (count : Int) (opening : Bool) (text : List Char) (sums : List α) :
    Except Failure (List α) :=
  match found : Term.first? text with
  | none =>
    if text.isEmpty then .ok sums else .error (.invalid (.invalidTerm (String.ofList text)))
  | some place =>
    if !place.skipped.isEmpty || !(opening || text.head?.any Term.isSign) then
      .error (.invalid (.invalidTerm (String.ofList (text.take (text.length - place.rest.length)))))
    else do
      let value ← place.term.value
      let position ← place.term.position count
      addTerms count false place.rest (sums.modify position (· + value))
termination_by text.length
decreasing_by exact Term.length_first? found

/-- The text of an expression as its terms are looked for: without spaces and in
lower case. -/
def expressionText (text : List Char) : List Char := lower (text.filter (· != ' '))

/-- Whether a text mentions the letter of the variables. -/
def mentionsVariable (text : List Char) : Bool := (lower text).contains 'x'

/-! ## Numbers separated by blanks -/

/-- The numbers of a list of words, each of which has to be a number. -/
def numbersOfWords : List (List Char) → Except Failure (List α)
  | [] => .ok []
  | word :: rest => do
    match ← numberOfText word with
    | some value => return value :: (← numbersOfWords rest)
    | none => throw (.invalid (.invalidCoefficient (String.ofList word)))

/-- The coefficients a text stands for, one for each of `count` variables. -/
def coefficients (text : String) (count : Int) : Except Failure (List α) :=
  let text := text.toList
  if mentionsVariable text then
    addTerms count true (expressionText text) (List.replicate count.toNat 0)
  else
    let words := words text
    if (words.length : Int) ≠ count then
      .error (.invalid (.coefficientCount count words.length))
    else numbersOfWords words

end SimplexSolver.Entry
