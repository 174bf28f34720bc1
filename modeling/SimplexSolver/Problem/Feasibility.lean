import SimplexSolver.Problem.Basic

/-!
# Evaluating a problem at a point

A point is a list of values for the decision variables. It is feasible when no
value is negative and every constraint is satisfied, both up to a tolerance. The
values are looked at first, then the constraints in order, and the first one that
is not satisfied decides; a constraint with a different number of coefficients
than the point has values cannot be evaluated.

A relation that is neither "at most" nor "at least" is taken as an equation.
-/

set_option autoImplicit false

namespace SimplexSolver

variable {α : Type} [Scalar α]

/-- The tolerance used when none is given. -/
def feasibilityTolerance : α := Scalar.decimal 1 (-7)

/-- The sum of the products of two lists of the same length. -/
def product (left right : List α) : Except Failure α :=
  if left.length = right.length then .ok (Scalar.dot left right)
  else .error (.invalid (.misaligned left.length right.length))

namespace Constraint

/-- The left-hand side at a point. -/
def leftSide (constraint : Constraint α) (point : List α) : Except Failure α :=
  product constraint.coefficients point

/-- Whether a left-hand side satisfies the constraint. -/
def holdsAt (constraint : Constraint α) (tolerance leftSide : α) : Bool :=
  match constraint.relation with
  | .atMost => Scalar.le leftSide (constraint.bound + tolerance)
  | .atLeast => Scalar.ge leftSide (constraint.bound - tolerance)
  | _ => Scalar.le (Scalar.magnitude (leftSide - constraint.bound)) tolerance

/-- Whether the constraint is satisfied at a point. -/
def isSatisfied (constraint : Constraint α) (tolerance : α) (point : List α) :
    Except Failure Bool :=
  (constraint.leftSide point).map (constraint.holdsAt tolerance)

end Constraint

/-- Whether all constraints are satisfied at a point. -/
def allSatisfied (tolerance : α) (point : List α) : List (Constraint α) → Except Failure Bool
  | [] => .ok true
  | constraint :: rest => do
    if ← constraint.isSatisfied tolerance point then allSatisfied tolerance point rest
    else return false

namespace Problem

/-- The objective at a point. -/
def objectiveAt (problem : Problem α) (point : List α) : Except Failure α :=
  product problem.objective point

/-- Whether a point is feasible. -/
def isFeasible (problem : Problem α) (tolerance : α) (point : List α) : Except Failure Bool :=
  if point.any fun value => Scalar.lt value (-tolerance) then .ok false
  else allSatisfied tolerance point problem.constraints

end Problem

end SimplexSolver
