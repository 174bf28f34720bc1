import SimplexSolver.Settings
import SimplexSolver.Tableau.Basic

/-!
# Choosing a pivot

A column improves the objective when its cell in the objective row is below minus
the tolerance. Among the improving columns one rule takes the first, the other the
first with the least cell. If there is none, the tableau is optimal.

The leaving row is found by the ratio test. A row is eligible when its cell in the
entering column is not at most the tolerance, and its ratio is its right-hand side
divided by that cell. Rows are gone through from the top, and a row replaces the
best one so far only if its ratio is smaller by more than the tolerance. If no row
is eligible, the objective can be improved without limit.
-/

set_option autoImplicit false

namespace SimplexSolver

/-- The pivot of one step: entering column, leaving row and the value of the cell
in both. A part that is missing was not found. -/
structure Choice (α : Type) where
  entering : Option Int
  leaving : Option Int
  value : Option α

namespace Choice

variable {α : Type}

/-- No column improves the objective. -/
def isOptimal (choice : Choice α) : Bool := choice.entering.isNone

/-- A column improves the objective and no row bounds it. -/
def isUnbounded (choice : Choice α) : Bool := choice.entering.isSome && choice.leaving.isNone

/-- Both a column and a row were found. -/
def isComplete (choice : Choice α) : Bool := choice.entering.isSome && choice.leaving.isSome

end Choice

namespace Tableau

variable {α : Type} [Scalar α]

/-! ## The entering column -/

/-- The improving cells of an objective row without its last cell, with their
columns. -/
def improving (epsilon : α) (row : List α) : List (α × Nat) :=
  row.dropLast.zipIdx.filter fun cell => Scalar.lt cell.1 (-epsilon)

/-- The first of the least cells. -/
def leastCell : List (α × Nat) → Option (α × Nat)
  | [] => none
  | first :: rest =>
    some (rest.foldl (fun best next => if Scalar.lt next.1 best.1 then next else best) first)

/-- The entering column; none when the tableau is optimal. -/
def enteringColumn (tableau : Tableau α) (epsilon : α) (rule : PivotRule) : Option Nat :=
  let cells := improving epsilon tableau.objectiveRow
  match rule with
  | .bland => cells.head?.map (·.2)
  | .dantzig => (leastCell cells).map (·.2)

/-! ## The leaving row -/

/-- One row of the ratio test, against the best row so far and its ratio. -/
def ratioStep (epsilon : α) (column : Nat) (best : Option (Nat × α)) (index : Nat)
    (row : List α) : Option (Nat × α) :=
  let coefficient := row.getD column 0
  if Scalar.le coefficient epsilon then best
  else
    let ratio := row.getLastD 0 / coefficient
    match best with
    | none => some (index, ratio)
    | some (leader, least) =>
      if Scalar.lt ratio (least - epsilon) then some (index, ratio) else some (leader, least)

/-- The ratio test on rows, the first of which has the given index. -/
def ratioTest (epsilon : α) (column : Nat) :
    (best : Option (Nat × α)) → (index : Nat) → List (List α) → Option (Nat × α)
  | best, _, [] => best
  | best, index, row :: rest =>
    ratioTest epsilon column (ratioStep epsilon column best index row) (index + 1) rest

/-- The leaving row for a column; none when no row is eligible. -/
def leavingRow (tableau : Tableau α) (epsilon : α) (column : Nat) : Option Nat :=
  (ratioTest epsilon column none 0 tableau.constraintRows).map (·.1)

/-- The leaving row for a column given by its position. The position is looked up
only if there is a row to look it up in. -/
def leavingRowAt (tableau : Tableau α) (epsilon : α) (column : Int) :
    Except Failure (Option Nat) :=
  if tableau.constraintCount = 0 then .ok none
  else (place tableau.columnCount column).map (tableau.leavingRow epsilon)

/-! ## Both together -/

/-- The cell at a row and a column counted from zero. -/
def cell (tableau : Tableau α) (row column : Nat) : α :=
  (tableau.cells.getD row []).getD column 0

/-- The pivot of a tableau. -/
def choosePivot (tableau : Tableau α) (epsilon : α) (rule : PivotRule) : Choice α :=
  match tableau.enteringColumn epsilon rule with
  | none => ⟨none, none, none⟩
  | some column =>
    match tableau.leavingRow epsilon column with
    | none => ⟨some column, none, none⟩
    | some row => ⟨some column, some row, some (tableau.cell row column)⟩

end Tableau

end SimplexSolver
