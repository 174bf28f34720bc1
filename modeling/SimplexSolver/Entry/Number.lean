import SimplexSolver.Number.Literal
import SimplexSolver.Value

/-!
# Numbers in form fields

A number is entered as a decimal literal or as a quotient of two whole numbers. A
field that is empty or holds something else has no number, which is not a
failure: the caller decides what to say about it. Only three things fail: a whole
number or a quotient too large for a scalar, and a numerator or denominator with
more digits than are ever converted.
-/

set_option autoImplicit false

namespace SimplexSolver.Entry

open Text

variable {α : Type} [Scalar α]

/-- The whole number written by digits, as long as there are not too many. -/
def wholeNumber (digits : List Char) : Except Failure Nat :=
  if digitLimit < digits.length then .error (.invalid (.tooManyDigits digits.length))
  else .ok (digitsValue digits)

/-- An optional sign, digits, a slash and digits. -/
def splitRatio (text : List Char) : Option (Bool × List Char × List Char) :=
  let (negative, rest) := Literal.takeSign text
  match Literal.takeDigits rest with
  | (numerator, '/' :: rest) =>
    match Literal.takeDigits rest with
    | (denominator, []) =>
      if numerator.isEmpty || denominator.isEmpty then none
      else some (negative, numerator, denominator)
    | _ => none
  | _ => none

/-- The scalar nearest to a quotient of two numerals; none when the denominator is
zero. The denominator is converted first. -/
def ratio (negative : Bool) (numerator denominator : List Char) : Except Failure (Option α) := do
  let denominator ← wholeNumber denominator
  if denominator = 0 then return none
  let numerator ← wholeNumber numerator
  let signed : Int := if negative then -(numerator : Int) else numerator
  match Scalar.ofRat? (mkRat signed denominator) with
  | some value => return some value
  | none => throw .tooLarge

/-- The number a text stands for, if it stands for one. -/
def numberOfText (text : List Char) : Except Failure (Option α) :=
  let text := strip text
  match Literal.read text with
  | some literal => .ok literal.toScalar?
  | none =>
    match splitRatio text with
    | some (negative, numerator, denominator) => ratio negative numerator denominator
    | none => .ok none

/-- The number a form field holds, if it holds one. Numbers are taken as they are,
and of the other values only texts are read. -/
def number : Value α → Except Failure (Option α)
  | .integer whole => (Quantity.toScalar (.whole whole)).map some
  | .real scalar => .ok (some scalar)
  | .text content => numberOfText content.toList
  | _ => .ok none

/-- Whether a form field holds a number. -/
def isNumber (value : Value α) : Except Failure Bool :=
  (number value).map (·.isSome)

/-- Whether a value is a list of fields that all hold numbers. Fields are looked at
up to the first that does not. -/
def allNumbers : Value α → Except Failure Bool
  | .list items | .tuple items => go items
  | _ => .ok false
where
  go : List (Value α) → Except Failure Bool
    | [] => .ok true
    | item :: rest => do
      if ← isNumber item then go rest else return false

end SimplexSolver.Entry
