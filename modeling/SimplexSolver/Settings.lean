import SimplexSolver.Value

/-!
# Solver settings

The solver has a tolerance, a rule for the entering column, and a limit on the
number of pivots. The limit is given outright or as a multiple of the number of
columns. Settings are built from named values: a name that is not known is
refused before any value is looked at, and the values are then checked in a fixed
order, the tolerance first.

An undefined number passes the checks, because it is not below anything; a limit
that is undefined or infinite is never reached.
-/

set_option autoImplicit false

namespace SimplexSolver

/-- How the entering column is chosen among the improving ones. -/
inductive PivotRule where
  /-- The most negative cell of the objective row. -/
  | dantzig
  /-- The first negative cell of the objective row. -/
  | bland
  deriving DecidableEq, Repr

namespace PivotRule

/-- The name of a rule. -/
def name : PivotRule → String
  | dantzig => "dantzig"
  | bland => "bland"

/-- The rule of a name. -/
def ofName? (name : String) : Option PivotRule :=
  if name = dantzig.name then some dantzig
  else if name = bland.name then some bland
  else none

/-- The rule a tableau is looked at with: a name that is not known means the most
negative cell. -/
def ofNameOrStandard (name : String) : PivotRule := (ofName? name).getD dantzig

end PivotRule

/-- The settings of the solver. -/
structure Settings (α : Type) where
  /-- The tolerance in all comparisons of a solve. -/
  epsilon : α
  /-- The most pivots of a solve, if given outright. -/
  maxIterations : Option (Quantity α)
  /-- The most pivots per column of the problem, otherwise. -/
  iterationFactor : Quantity α
  rule : PivotRule

namespace Settings

variable {α : Type} [Scalar α]

/-- The tolerance used when none is given. -/
def defaultEpsilon : α := Scalar.decimal 1 (-9)

/-- The settings used when none are given. -/
def standard : Settings α where
  epsilon := defaultEpsilon
  maxIterations := none
  iterationFactor := .whole 20
  rule := .dantzig

/-- The names of the settings. -/
def names : List String := ["epsilon", "max_iterations", "iteration_factor", "pivot_rule"]

/-- A value that has to count as a number. -/
def number (value : Value α) : Except Failure (Quantity α) :=
  match value.quantity? with
  | some quantity => .ok quantity
  | none => .error .wrongKind

/-- A tolerance has to be positive. -/
def checkEpsilon (value : Value α) : Except Failure (Quantity α) := do
  let quantity ← number value
  if quantity.atMost 0 then throw (.invalid .epsilonNotPositive)
  return quantity

/-- A limit may be missing and must not be negative. -/
def checkLimit : Value α → Except Failure (Option (Quantity α))
  | .missing => .ok none
  | value => do
    let quantity ← number value
    if quantity.below 0 then throw (.invalid .negativeLimit)
    return some quantity

/-- A factor has to be at least one. -/
def checkFactor (value : Value α) : Except Failure (Quantity α) := do
  let quantity ← number value
  if quantity.below 1 then throw (.invalid .factorBelowOne)
  return quantity

/-- A rule is given by its name. -/
def checkRule (value : Value α) : Except Failure PivotRule :=
  let rule? := match value with
    | .text name => PivotRule.ofName? name
    | _ => none
  match rule? with
  | some rule => .ok rule
  | none => .error (.invalid (.unknownRule value.toText))

/-- The settings with the given names and values; the others are standard. -/
def ofFields (fields : List (String × Value α)) : Except Failure (Settings α) := do
  let unknown := (fields.map (·.1)).filter fun name => !names.contains name
  if !unknown.isEmpty then
    throw (.invalid (.unknownSettings (unknown.mergeSort fun a b => decide (a ≤ b))))
  let epsilon ← checkEpsilon ((fields.lookup "epsilon").getD (.real defaultEpsilon))
  let maxIterations ← checkLimit ((fields.lookup "max_iterations").getD .missing)
  let iterationFactor ← checkFactor ((fields.lookup "iteration_factor").getD (.integer 20))
  let rule ← checkRule ((fields.lookup "pivot_rule").getD (.text PivotRule.dantzig.name))
  let epsilon ← epsilon.toScalar
  return { epsilon, maxIterations, iterationFactor, rule }

/-- The most pivots for a problem with a number of decision variables and a number
of constraints. -/
def limit (settings : Settings α) (variableCount constraints : Int) :
    Except Failure (Quantity α) :=
  match settings.maxIterations with
  | some quantity => .ok quantity
  | none => settings.iterationFactor.times (variableCount + constraints)

end Settings

end SimplexSolver
