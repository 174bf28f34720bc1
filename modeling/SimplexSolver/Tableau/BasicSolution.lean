import SimplexSolver.Tableau.Basic

/-!
# The basic solution of a tableau

In the basic solution each basic variable has the right-hand side of its row and
every other variable is zero. A row label is looked up among the column labels:
the columns before the number of decision variables are decision variables, and
the others are slack variables. The last cell of the objective row is the
objective of the maximisation form, so its sign changes for a minimisation.
-/

set_option autoImplicit false

namespace SimplexSolver

/-- Values of all variables, and of the objective. -/
structure BasicSolution (α : Type) where
  decision : List α
  slack : List α
  objective : α

namespace Tableau

variable {α : Type} [Scalar α]

/-- Gives the variable with a label a value. -/
def assign (tableau : Tableau α) (values : List α × List α) (label : String) (value : α) :
    Except Failure (List α × List α) :=
  match tableau.columnLabels.findIdx? (· == label) with
  | none => .error (.invalid .labelNotFound)
  | some index =>
    let size := tableau.variableCount.toInt
    if (index : Int) < size then .ok (values.1.set index value, values.2)
    else
      let place := ((index : Int) - size).toNat
      if place < values.2.length then .ok (values.1, values.2.set place value)
      else .error .outOfRange

/-- Gives the variables of several rows their values. -/
def assignAll (tableau : Tableau α) (values : List α × List α) :
    List (String × α) → Except Failure (List α × List α)
  | [] => .ok values
  | (label, value) :: rest => do
    assignAll tableau (← tableau.assign values label value) rest

/-- The basic solution of a tableau. -/
def basicSolution (tableau : Tableau α) : Except Failure (BasicSolution α) := do
  let bounds ← tableau.bounds
  let zeros : List α × List α :=
    (List.replicate tableau.variableCount.toNat 0, List.replicate tableau.slackCount.toNat 0)
  let (decision, slack) ← tableau.assignAll zeros (tableau.rowLabels.zip bounds)
  let last ← lastCell tableau.objectiveRow
  let objective := if tableau.direction = .maximize then last else -last
  return { decision, slack, objective := objective + 0 }

end Tableau

end SimplexSolver
