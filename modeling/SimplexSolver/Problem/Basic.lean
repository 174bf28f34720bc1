import SimplexSolver.Value

/-!
# Linear programs

A linear program maximises or minimises a linear objective over non-negative
decision variables under linear constraints. A problem is stored as it was
entered, so a direction or a relation may be a name that nobody knows, the number
of variables may be any value, and coefficient lists may have any length. Whether
such a problem can be solved is decided in `SimplexSolver.Problem.StandardForm`.
-/

set_option autoImplicit false

namespace SimplexSolver

/-! ## Directions and relations -/

/-- Whether the objective is to become large or small. -/
inductive Direction where
  | maximize
  | minimize
  /-- A direction with some other name. -/
  | unknown (name : String)
  deriving DecidableEq, Repr

namespace Direction

/-- The name of a direction. -/
def name : Direction → String
  | maximize => "maximize"
  | minimize => "minimize"
  | unknown name => name

/-- The direction of a name. -/
def ofName (name : String) : Direction :=
  if name = "maximize" then maximize
  else if name = "minimize" then minimize
  else unknown name

end Direction

/-- How the two sides of a constraint compare. -/
inductive Relation where
  | atMost
  | atLeast
  | equal
  /-- A relation with some other symbol. -/
  | unknown (symbol : String)
  deriving DecidableEq, Repr

namespace Relation

/-- The symbol of a relation. -/
def symbol : Relation → String
  | atMost => "<="
  | atLeast => ">="
  | equal => "="
  | unknown symbol => symbol

/-- The relation of a symbol. -/
def ofSymbol (symbol : String) : Relation :=
  if symbol = "<=" then atMost
  else if symbol = ">=" then atLeast
  else if symbol = "=" then equal
  else unknown symbol

end Relation

/-! ## Names of variables -/

/-- The name of a decision variable, counted from zero: `x1`, `x2` and so on. -/
def decisionChars (index : Nat) : List Char := 'x' :: numeral (index + 1)

/-- The name of a decision variable, counted from zero. -/
def decisionName (index : Nat) : String := String.ofList (decisionChars index)

/-- The name of a slack variable, counted from zero: `s1`, `s2` and so on. -/
def slackName (index : Nat) : String := String.ofList ('s' :: numeral (index + 1))

/-! ## Problems -/

/-- A linear constraint on the decision variables. -/
structure Constraint (α : Type) where
  coefficients : List α
  relation : Relation
  /-- The right-hand side. -/
  bound : α

/-- A linear program over non-negative decision variables. -/
structure Problem (α : Type) where
  direction : Direction
  /-- The number of decision variables, as it was entered. -/
  variableCount : Value α
  objective : List α
  constraints : List (Constraint α)

variable {α : Type} [Scalar α]

/-- The constraint with the given numbers. -/
def Constraint.ofQuantities (coefficients : List (Quantity α)) (relation : Relation)
    (bound : Quantity α) : Except Failure (Constraint α) := do
  let coefficients ← coefficients.mapM Quantity.toScalar
  let bound ← bound.toScalar
  return { coefficients, relation, bound }

namespace Problem

/-- The problem with the given constraints and numbers. -/
def ofQuantities (direction : Direction) (variableCount : Value α) (objective : List (Quantity α))
    (constraints : List (Constraint α)) : Except Failure (Problem α) := do
  let objective ← objective.mapM Quantity.toScalar
  return { direction, variableCount, objective, constraints }

/-- A row of coefficients, a relation and a right-hand side for each constraint. -/
def zipConstraints : List (List (Quantity α)) → List Relation → List (Quantity α) →
    Except Failure (List (Constraint α))
  | row :: rows, relation :: relations, bound :: bounds => do
    let constraint ← Constraint.ofQuantities row relation bound
    return constraint :: (← zipConstraints rows relations bounds)
  | _, _, _ => .ok []

/-- The problem with an objective, rows of coefficients and right-hand sides given
as lists. Relations that are not given are all "at most". The lengths are compared
before any number is looked at. -/
def ofLists (objective : List (Quantity α)) (rows : List (List (Quantity α)))
    (bounds : List (Quantity α)) (relations? : Option (List Relation)) (maximize : Bool) :
    Except Failure (Problem α) := do
  let relations := relations?.getD (List.replicate bounds.length .atMost)
  if rows.length ≠ bounds.length ∨ relations.length ≠ bounds.length then
    throw (.invalid (.listLengths rows.length relations.length bounds.length))
  let constraints ← zipConstraints rows relations bounds
  ofQuantities (if maximize then .maximize else .minimize) (.integer objective.length) objective
    constraints

end Problem

end SimplexSolver
