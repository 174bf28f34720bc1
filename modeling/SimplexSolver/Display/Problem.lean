import SimplexSolver.Display.Scalar
import SimplexSolver.Problem.Basic
import SimplexSolver.Text.Case

/-!
# Texts of problems

A linear expression is written term by term, with a sign before every term but a
first positive one, and without the terms whose coefficient is close to zero; an
expression without terms is `0`. The objective is preceded by its direction in
capital letters, a constraint ends with its relation and its right-hand side.
-/

set_option autoImplicit false

namespace SimplexSolver.Display

variable {α : Type} [Scalar α]

/-- The size below which a coefficient is left out. -/
def negligible : α := Scalar.decimal 1 (-10)

/-- A term at the start of an expression. -/
def openingTerm (index : Nat) (coefficient : α) : List Char :=
  if Scalar.lt coefficient 0 then
    '-' :: ' ' :: (coefficientChars (Scalar.magnitude coefficient) ++ decisionChars index)
  else coefficientChars coefficient ++ decisionChars index

/-- A term after other terms. -/
def laterTerm (index : Nat) (coefficient : α) : List Char :=
  (if Scalar.ge coefficient 0 then '+' else '-') ::
    ' ' :: (coefficientChars (Scalar.magnitude coefficient) ++ decisionChars index)

/-- The terms of a list of coefficients, from the variable with the given index on. -/
def termsFrom (index : Nat) (opening : Bool) : List α → List (List Char)
  | [] => []
  | coefficient :: rest =>
    if Scalar.lt negligible (Scalar.magnitude coefficient) then
      (if opening then openingTerm index coefficient else laterTerm index coefficient) ::
        termsFrom (index + 1) false rest
    else termsFrom (index + 1) opening rest

/-- Texts separated by single spaces. -/
def spaced : List (List Char) → List Char
  | [] => []
  | [text] => text
  | text :: rest => text ++ ' ' :: spaced rest

/-- The linear expression with the given coefficients. -/
def linearChars (coefficients : List α) : List Char :=
  match termsFrom 0 true coefficients with
  | [] => ['0']
  | terms => spaced terms

/-- The linear expression with the given coefficients. -/
def linearText (coefficients : List α) : String := String.ofList (linearChars coefficients)

/-- The objective of a problem, with its direction in capitals. -/
def objectiveText (problem : Problem α) : String :=
  String.ofList (Text.upper problem.direction.name.toList) ++ " Z = " ++
    linearText problem.objective

/-- A constraint. -/
def constraintText (constraint : Constraint α) : String :=
  linearText constraint.coefficients ++ " " ++ constraint.relation.symbol ++ " " ++
    coefficientText constraint.bound

end SimplexSolver.Display
