import SimplexSolver.Failure
import SimplexSolver.Text.Quoted

/-!
# How a solve ends

A solve always ends with one of six statuses. Two of them answer the question that
was asked: an optimum was found, or the objective is unbounded. The others are
errors. Each status has a name and a sentence for the user.
-/

set_option autoImplicit false

namespace SimplexSolver

/-- The status of a finished solve. -/
inductive Status where
  | optimal
  | unbounded
  | invalidProblem
  | numericInstability
  | iterationLimitExceeded
  | cancelled
  deriving DecidableEq, Repr

namespace Status

/-- The name of a status. -/
def name : Status → String
  | optimal => "optimal"
  | unbounded => "unbounded"
  | invalidProblem => "invalid_problem"
  | numericInstability => "numeric_instability"
  | iterationLimitExceeded => "iteration_limit_exceeded"
  | cancelled => "cancelled"

/-- All statuses. -/
def all : List Status :=
  [optimal, unbounded, invalidProblem, numericInstability, iterationLimitExceeded, cancelled]

/-- The status of a name. -/
def ofName (name : String) : Except Failure Status :=
  match all.find? (·.name == name) with
  | some status => .ok status
  | none => .error (.invalid (.unknownStatus (String.ofList (Text.quoted name.toList))))

/-- Whether the solve failed to answer the question. -/
def isError : Status → Bool
  | optimal | unbounded => false
  | _ => true

/-- The sentence for the user. -/
def message : Status → String
  | optimal => "Optimal solution found."
  | unbounded =>
    "Unbounded solution: the objective can be improved indefinitely without violating " ++
      "the constraints."
  | invalidProblem =>
    "The problem cannot be solved by this method: every constraint must be '<=' with a " ++
      "non-negative right-hand side."
  | numericInstability => "Numerical instability: a pivot element was too close to zero."
  | iterationLimitExceeded =>
    "Iteration limit reached: the solver gave up before reaching optimality (possible cycling)."
  | cancelled => "The solve was cancelled."

end Status

end SimplexSolver
