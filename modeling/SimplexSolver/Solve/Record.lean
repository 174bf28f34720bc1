import SimplexSolver.Display.Scalar
import SimplexSolver.Tableau.Choice

/-!
# The record of one step

A record is a tableau together with the pivot that leads to the next one. The last
record of a solve has no pivot. The labels of the pivot are those of the tableau
it was chosen in.
-/

set_option autoImplicit false

namespace SimplexSolver

/-- A tableau and the pivot made in it. -/
structure Record (α : Type) where
  tableau : Tableau α
  choice : Option (Choice α)

namespace Record

variable {α : Type}

/-- The label at an optional position. -/
def labelAt (labels : List String) : Option Int → Except Failure (Option String)
  | none => .ok none
  | some position => (itemAt labels position).map some

/-- The variable that enters the basis. -/
def enteringLabel (record : Record α) : Except Failure (Option String) :=
  labelAt record.tableau.columnLabels (record.choice.bind (·.entering))

/-- The variable that leaves the basis. -/
def leavingLabel (record : Record α) : Except Failure (Option String) :=
  labelAt record.tableau.rowLabels (record.choice.bind (·.leaving))

/-- The word for a label that may be missing. -/
def labelText (label : Option String) : String := label.getD "None"

/-- One line on the pivot of a record. -/
def description [Scalar α] (record : Record α) : Except Failure String :=
  match record.choice with
  | none => .ok "Final tableau"
  | some choice => do
    let entering := labelText (← record.enteringLabel)
    let leaving := labelText (← record.leavingLabel)
    let element := match choice.value with
      | some value => Display.fractionText value
      | none => "-"
    return s!"Entering: {entering}, leaving: {leaving}, pivot element: {element}"

end Record

end SimplexSolver
