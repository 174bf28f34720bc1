import SimplexSolver.Solve.Record
import SimplexSolver.Solve.Status

/-!
# What the solver reports while it works

The solver leaves a line for every starting tableau it builds, two for every pivot
and one for the end of a solve. Lines are data; whoever runs the solver decides
what becomes of them. A solve that ends in an error leaves a warning.
-/

set_option autoImplicit false

namespace SimplexSolver

/-- The part of the solver a line comes from. -/
inductive LogSource where
  | standardForm
  | pivoting
  | engine
  deriving DecidableEq, Repr

/-- How important a line is. -/
inductive LogLevel where
  | debug
  | info
  | warning
  deriving DecidableEq, Repr

/-- A line of the log. -/
structure LogLine where
  source : LogSource
  level : LogLevel
  message : String
  deriving DecidableEq, Repr

namespace LogLine

variable {α : Type}

/-- A starting tableau was built. -/
def built (tableau : Tableau α) : LogLine :=
  let rows := tableau.rowCount
  let columns := tableau.columnCount
  let direction := tableau.direction.name
  ⟨.standardForm, .debug, s!"Built {rows}x{columns} tableau for {direction} problem"⟩

/-- The word for a label that was looked up. -/
def looked (label : Except Failure (Option String)) : String :=
  Record.labelText (label.toOption.getD none)

/-- A pivot was made at a row and a column. -/
def pivoted (record : Record α) : LogLine :=
  let entering := looked record.enteringLabel
  let leaving := looked record.leavingLabel
  let row := (record.choice.bind (·.leaving)).getD 0
  let column := (record.choice.bind (·.entering)).getD 0
  ⟨.pivoting, .debug, s!"Pivot on ({row}, {column}): {entering} enters, {leaving} leaves"⟩

/-- A pivot was recorded as the step with the given number. -/
def iterated [Scalar α] (number : Nat) (record : Record α) : LogLine :=
  let entering := looked record.enteringLabel
  let leaving := looked record.leavingLabel
  let element := ((record.choice.bind (·.value)).map Display.coefficientText).getD "-"
  ⟨.engine, .debug, s!"Iteration {number}: {entering} enters, {leaving} leaves, pivot {element}"⟩

/-- A solve ended. -/
def finished (status : Status) (message : String) : LogLine :=
  let name := status.name
  ⟨.engine, if status.isError then .warning else .info,
    s!"Simplex finished with status {name}: {message}"⟩

end LogLine

end SimplexSolver
