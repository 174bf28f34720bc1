import SimplexSolver.Display.Scalar
import SimplexSolver.Problem.Basic

/-!
# Standard form

A problem can be solved when its direction is known, it has at least one decision
variable, every coefficient list has one finite number for each variable, and
every constraint bounds its left-hand side from above by a finite number that is
not negative. The slack variables then form a first basis. `Problem.validate`
checks this in a fixed order and gives the number of variables.

`Problem.normalize` brings a problem closer to this form: a constraint that bounds
its left-hand side from below by a number that is not positive is multiplied by
minus one. Adding zero afterwards turns a negative zero into a positive one.
-/

set_option autoImplicit false

namespace SimplexSolver

variable {α : Type} [Scalar α]

/-- Whether all numbers of a list are finite. -/
def allFinite (values : List α) : Bool := values.all Scalar.isFinite

/-- The opposite number; never a negative zero. -/
def opposite (value : α) : α := -value + 0

namespace Constraint

/-- Checks the constraint with the given position, counted from one, in a problem
with `size` variables, whose number is worded `expected`. -/
def validate (constraint : Constraint α) (size : Nat) (expected : String) (index : Nat) :
    Except Rejection Unit :=
  if constraint.coefficients.length ≠ size then
    .error (.constraintLength index constraint.coefficients.length expected)
  else if !(allFinite constraint.coefficients && Scalar.isFinite constraint.bound) then
    .error (.constraintNotFinite index)
  else if constraint.relation ≠ .atMost then
    .error (.unsupportedRelation index constraint.relation.symbol)
  else if Scalar.lt constraint.bound 0 then
    .error (.negativeBound index (Display.coefficientText constraint.bound))
  else .ok ()

/-- Turns the constraint with the given position into an upper bound. -/
def normalize (constraint : Constraint α) (index : Nat) : Except Rejection (Constraint α) :=
  match constraint.relation with
  | .atMost => .ok constraint
  | .unknown symbol => .error (.unknownRelation index symbol)
  | .atLeast =>
    if Scalar.le constraint.bound 0 then
      .ok ⟨constraint.coefficients.map opposite, .atMost, opposite constraint.bound⟩
    else
      .error (.noUpperForm index Relation.atLeast.symbol
        (Display.coefficientText constraint.bound))
  | .equal =>
    .error (.noUpperForm index Relation.equal.symbol (Display.coefficientText constraint.bound))

end Constraint

/-- Checks constraints, counting them from `index`. -/
def validateFrom (size : Nat) (expected : String) (index : Nat) :
    List (Constraint α) → Except Rejection Unit
  | [] => .ok ()
  | constraint :: rest => do
    constraint.validate size expected index
    validateFrom size expected (index + 1) rest

/-- Turns constraints into upper bounds, counting them from `index`. -/
def normalizeFrom (index : Nat) :
    List (Constraint α) → Except Rejection (List (Constraint α))
  | [] => .ok []
  | constraint :: rest => do
    let constraint ← constraint.normalize index
    return constraint :: (← normalizeFrom (index + 1) rest)

namespace Problem

/-- The number of decision variables, if it is a positive whole number. A switch
that is on counts as one. -/
def positiveCount? (problem : Problem α) : Option Count :=
  problem.variableCount.count?.filter fun count => 0 < count.toInt

/-- Checks that the problem is in standard form and gives the number of its
decision variables. -/
def validate (problem : Problem α) : Except Rejection Count :=
  match problem.direction with
  | .unknown name => .error (.unknownDirection name)
  | _ =>
    match problem.positiveCount? with
    | none => .error .noVariables
    | some count =>
      let expected := problem.variableCount.toText
      if problem.objective.length ≠ count.toNat then
        .error (.objectiveLength problem.objective.length expected)
      else if !allFinite problem.objective then .error .objectiveNotFinite
      else (validateFrom count.toNat expected 1 problem.constraints).map fun _ => count

/-- Turns lower bounds that are not positive into upper bounds. -/
def normalize (problem : Problem α) : Except Rejection (Problem α) :=
  (normalizeFrom 1 problem.constraints).map fun constraints => { problem with constraints }

end Problem

end SimplexSolver
