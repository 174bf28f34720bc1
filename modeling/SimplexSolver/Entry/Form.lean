import SimplexSolver.Entry.Coefficients
import SimplexSolver.Problem.StandardForm

/-!
# Problems entered in a form

A form has a number of variables, a direction, a text for the objective, and for
each constraint a text, a relation and a right-hand side. Constraints are read in
order, the right-hand side of each before its coefficients, and only as many as
have all three parts. If a constraint is not an upper bound, the whole problem is
normalised, and the reader is told so.
-/

set_option autoImplicit false

namespace SimplexSolver.Entry

variable {α : Type} [Scalar α]

/-- A problem as it is entered. -/
structure Form (α : Type) where
  variableCount : Int
  /-- The direction; everything but `max` means a minimisation. -/
  direction : String
  objective : String
  constraints : List String
  relations : List String
  bounds : List (Value α)

/-- The direction a form asks for. -/
def directionOf (name : String) : Direction := if name = "max" then .maximize else .minimize

/-- A right-hand side, which has to be a number. Constraints are counted from one. -/
def boundOf (index : Nat) (value : Value α) : Except Failure α := do
  match ← number value with
  | some bound => return bound
  | none => throw (.invalid (.invalidBound index value.toText))

/-- The constraints of a form, counted from `index`. -/
def constraintsFrom (variableCount : Int) (index : Nat) :
    List String → List String → List (Value α) → Except Failure (List (Constraint α))
  | text :: texts, relation :: relations, value :: values => do
    let bound ← boundOf index value
    let coefficients ← coefficients text variableCount
    return ⟨coefficients, .ofSymbol relation, bound⟩ ::
      (← constraintsFrom variableCount (index + 1) texts relations values)
  | _, _, _ => .ok []

/-- A problem read from a form, and whether it had to be normalised. -/
structure FormProblem (α : Type) where
  problem : Problem α
  normalized : Bool

/-- The problem a form describes. -/
def Form.read (form : Form α) : Except Failure (FormProblem α) := do
  let objective ← coefficients form.objective form.variableCount
  let constraints ←
    constraintsFrom form.variableCount 1 form.constraints form.relations form.bounds
  let problem : Problem α :=
    ⟨directionOf form.direction, .integer form.variableCount, objective, constraints⟩
  if constraints.all (·.relation == .atMost) then return ⟨problem, false⟩
  else
    match problem.normalize with
    | .ok normalized => return ⟨normalized, true⟩
    | .error cause => throw (.rejected cause)

/-- What the reader of a normalised problem is told. -/
def normalizedNotice : String :=
  "'>=' constraints with a non-positive RHS were multiplied by -1 to obtain '<=' form."

end SimplexSolver.Entry
