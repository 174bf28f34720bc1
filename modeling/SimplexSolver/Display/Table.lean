import SimplexSolver.Display.Scalar
import SimplexSolver.Tableau.Basic
import SimplexSolver.Text.Quoted

/-!
# Tableaux as tables of texts

A tableau is shown as a table with the row labels in a first column of their own,
so a column of the tableau is one place further to the right in the table. The
marked cell is given by its place in the table. A mark is looked up in the table
after this shift, so a mark that counts from the end may land in the column of the
labels.
-/

set_option autoImplicit false

namespace SimplexSolver.Display

variable {α : Type}

/-- A table of texts. -/
structure Table where
  columns : List String
  rows : List (List String)
  deriving DecidableEq, Repr

/-- The heading of the row labels. -/
def basisHeading : String := "Basic Var"

/-- The headings of the table of a tableau. -/
def headings (tableau : Tableau α) : List String := basisHeading :: tableau.columnLabels

/-- The table of a tableau, with a text for each cell. -/
def table (cellText : α → String) (tableau : Tableau α) : Table where
  columns := headings tableau
  rows := tableau.labelledRows.map fun (label, cells) => label :: cells.map cellText

/-- The place of the marked cell in the table. -/
def markedPlace (tableau : Tableau α) : Except Failure (Option (Nat × Nat)) :=
  match tableau.mark with
  | none => .ok none
  | some (row, column) => do
    let row ← place tableau.rowCount row
    let column ← place (tableau.columnCount + 1) (column + 1)
    return some (row, column)

/-- Quoted texts separated by commas. -/
def quotedItems : List String → List Char
  | [] => []
  | [item] => Text.quoted item.toList
  | item :: rest => Text.quoted item.toList ++ ',' :: ' ' :: quotedItems rest

/-- One line on the shape and the basis of a tableau. -/
def tableauSummary (tableau : Tableau α) : String :=
  let rows := tableau.rowCount
  let columns := tableau.columnCount
  let basis := String.ofList (quotedItems tableau.rowLabels)
  s!"Tableau(rows={rows}, columns={columns}, basis=[{basis}])"

end SimplexSolver.Display
