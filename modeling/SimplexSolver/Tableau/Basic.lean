import SimplexSolver.Index
import SimplexSolver.Problem.Basic

/-!
# Tableaux

A tableau has one row of cells for each constraint and an objective row below
them. Its columns stand for the decision variables, the slack variables and the
right-hand sides, in this order. Constraint rows are labelled by their basic
variable, columns by the variable they stand for. The objective row of a
minimisation is that of maximising the opposite objective, so a negative cell
means an improving column in both directions.

That the labels fit the cells is part of the type: there is one row more than
there are row labels, and every row has one cell for each column label.

A tableau may carry a mark on one cell, which is for display only; it is not
looked at when two tableaux are compared.
-/

set_option autoImplicit false

namespace SimplexSolver

/-- A simplex tableau. -/
structure Tableau (α : Type) where
  /-- The constraint rows, then the objective row. -/
  cells : List (List α)
  rowLabels : List String
  columnLabels : List String
  /-- The number of decision variables. -/
  variableCount : Count
  direction : Direction
  /-- The row and the column of the marked cell. -/
  mark : Option (Int × Int)
  /-- One row for each row label and one for the objective. -/
  labelled : cells.length = rowLabels.length + 1
  /-- One cell for each column label. -/
  rectangular : ∀ row ∈ cells, row.length = columnLabels.length

/-- The label of the objective row. -/
def objectiveLabel : String := "Z"

/-- The label of the last column. -/
def boundLabel : String := "RHS"

namespace Tableau

/-! ## Building a tableau from a sheet of values -/

section Sheet

variable {α : Type} [Scalar α]

/-- A number in a sheet. -/
def sheetNumber (value : Value α) : Except Failure α :=
  match value.quantity? with
  | some quantity => quantity.toScalar
  | none => .error .wrongKind

/-- The items of a list or tuple. -/
def sheetRow? : Value α → Option (List (Value α))
  | .list items | .tuple items => some items
  | _ => none

/-- The rows of a sheet: a list of rows of numbers, all of one length. -/
def sheet (values : List (Value α)) : Except Failure (List (List α)) :=
  match values.mapM sheetRow? with
  | some (first :: rest) =>
    if rest.all (·.length == first.length) then
      (first :: rest).mapM fun row => row.mapM sheetNumber
    else .error (.invalid (.raggedRows values.length))
  | some [] => .error (.invalid .notTwoDimensional)
  | none =>
    if values.any fun value => (sheetRow? value).isSome then
      .error (.invalid (.raggedRows values.length))
    else do
      let _ ← values.mapM sheetNumber
      throw (.invalid .notTwoDimensional)

/-- The tableau with the given cells and labels, if they fit. -/
def ofCells (cells : List (List α)) (rowLabels columnLabels : List String) (variableCount : Count)
    (direction : Direction) (mark : Option (Int × Int)) : Except Failure (Tableau α) :=
  if labelled : cells.length = rowLabels.length + 1 then
    if rectangular : ∀ row ∈ cells, row.length = columnLabels.length then
      .ok { cells, rowLabels, columnLabels, variableCount, direction, mark, labelled, rectangular }
    else .error (.invalid .columnLabelCount)
  else .error (.invalid .rowLabelCount)

end Sheet

variable {α : Type}

/-! ## Parts of a tableau -/

/-- The number of rows, with the objective row. -/
def rowCount (tableau : Tableau α) : Nat := tableau.cells.length

/-- The number of columns, with the right-hand sides. -/
def columnCount (tableau : Tableau α) : Nat := tableau.columnLabels.length

/-- The number of constraint rows. -/
def constraintCount (tableau : Tableau α) : Nat := tableau.rowLabels.length

/-- The number of slack variables. -/
def slackCount (tableau : Tableau α) : Int :=
  tableau.columnCount - tableau.variableCount.toInt - 1

/-- The constraint rows. -/
def constraintRows (tableau : Tableau α) : List (List α) := tableau.cells.dropLast

/-- The objective row. -/
def objectiveRow (tableau : Tableau α) : List α := tableau.cells.getLastD []

/-- The last cell of a row. -/
def lastCell (row : List α) : Except Failure α :=
  match row.getLast? with
  | some cell => .ok cell
  | none => .error .outOfRange

/-- The right-hand sides of the constraint rows. A tableau without columns has
none to give. -/
def bounds (tableau : Tableau α) : Except Failure (List α) :=
  if tableau.columnCount = 0 then .error .outOfRange
  else tableau.constraintRows.mapM lastCell

/-- The cell at a row and a column. -/
def cellAt (tableau : Tableau α) (row column : Int) : Except Failure α := do
  let cells ← itemAt tableau.cells row
  itemAt cells column

/-- Whether the mark is on the cell with exactly these coordinates. -/
def isMarked (tableau : Tableau α) (row column : Int) : Bool :=
  tableau.mark == some (row, column)

/-- All row labels, with that of the objective row. -/
def allRowLabels (tableau : Tableau α) : List String := tableau.rowLabels ++ [objectiveLabel]

/-- The rows with their labels. -/
def labelledRows (tableau : Tableau α) : List (String × List α) :=
  tableau.allRowLabels.zip tableau.cells

/-- The same tableau with the mark on another cell, or on none. -/
def withMark (tableau : Tableau α) (mark : Option (Int × Int)) : Tableau α :=
  { tableau with mark }

/-! ## Comparing tableaux -/

/-- Whether two rows have equal cells. -/
def sameRow [Scalar α] : List α → List α → Bool
  | [], [] => true
  | a :: left, b :: right => Scalar.same a b && sameRow left right
  | _, _ => false

/-- Whether two tableaux agree in labels, direction and cells. -/
def agrees [Scalar α] (left right : Tableau α) : Bool :=
  left.rowLabels == right.rowLabels && left.columnLabels == right.columnLabels &&
    left.direction == right.direction && sameCells left.cells right.cells
where
  /-- Whether two tables have equal cells. -/
  sameCells : List (List α) → List (List α) → Bool
    | [], [] => true
    | a :: left, b :: right => sameRow a b && sameCells left right
    | _, _ => false

end Tableau

end SimplexSolver
