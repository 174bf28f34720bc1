import SimplexSolver.Solve.Record
import SimplexSolver.Solve.Status
import SimplexSolver.Tableau.BasicSolution

/-!
# Solutions

The answer of a solve: its status, the values of the variables, a message, and the
history of tableaux it went through. Only an optimal solve has values other than
zero. A solve that never got a tableau has no values at all, and a cancelled one
has no history.
-/

set_option autoImplicit false

namespace SimplexSolver

/-- The answer of a solve. -/
structure Solution (α : Type) where
  status : Status
  decision : List α
  slack : List α
  objective : α
  history : List (Record α)
  message : String

namespace Solution

variable {α : Type}

/-- Whether an optimum was found. -/
def isOptimal (solution : Solution α) : Bool := solution.status == .optimal

/-- The number of pivots in the history. -/
def iterations (solution : Solution α) : Nat :=
  solution.history.countP (·.choice.isSome)

/-- The last tableau of the history. -/
def finalTableau? (solution : Solution α) : Option (Tableau α) :=
  solution.history.getLast?.map (·.tableau)

variable [Scalar α]

/-- The answer of a solve that ended in a tableau. Only the status "optimal" reads
values off the tableau. -/
def atTableau (tableau : Tableau α) (status : Status) (message : String)
    (history : List (Record α)) : Except Failure (Solution α) :=
  if status = .optimal then do
    let values ← tableau.basicSolution
    return ⟨status, values.decision, values.slack, values.objective, history, message⟩
  else
    .ok ⟨status, List.replicate tableau.variableCount.toNat 0,
      List.replicate tableau.constraintCount 0, 0, history, message⟩

/-- The answer to a problem without a starting tableau. -/
def rejected (cause : Rejection) : Solution α :=
  ⟨.invalidProblem, [], [], 0, [], cause.message⟩

end Solution

end SimplexSolver
