import SimplexSolver.Solve.Log
import SimplexSolver.Solve.Solution
import SimplexSolver.Tableau.Pivot
import SimplexSolver.Tableau.Start

/-!
# Running the simplex method

One step of the method looks at a tableau and either pivots or stops. It stops
when the tableau is optimal, when the objective is unbounded, when the limit on
the number of pivots is reached, and when the pivot is refused; the first of these
that applies decides. `nextStep` is this decision.

`trace` repeats it from a tableau on and collects a record for every pivot. The
recursion is on a budget of pivots. A limit that is a number is reached within a
budget of that size, so the budget never decides; a limit that is infinite or
undefined is never reached, and the budget is then larger than any computation.

A `Run` is a solve with all that can be seen of it while it is under way.
-/

set_option autoImplicit false

namespace SimplexSolver

/-! ## One step -/

/-- What the solver does with a tableau. -/
inductive Step (α : Type) where
  | pivot (choice : Choice α) (next : Tableau α)
  | stop (status : Status) (message : String)

/-- The message of an optimal solve. -/
def optimalMessage (done : Nat) : String := s!"Optimal after {done} iteration(s)"

/-- The message of an unbounded solve. -/
def unboundedMessage (label : String) : String :=
  s!"{label} can increase without limit; the objective is unbounded"

/-- The message of a solve that reached its limit. -/
def limitMessage {α : Type} [Scalar α] (limit : Quantity α) : String :=
  let text := limit.toText
  s!"Stopped after {text} iterations without reaching optimality"

variable {α : Type} [Scalar α]

/-- One step of the method, after `done` pivots. -/
def nextStep (settings : Settings α) (limit : Quantity α) (done : Nat) (tableau : Tableau α) :
    Except Failure (Step α) :=
  let choice := tableau.choosePivot settings.epsilon settings.rule
  match choice.entering, choice.leaving with
  | none, _ => .ok (.stop .optimal (optimalMessage done))
  | some column, none =>
    (itemAt tableau.columnLabels column).map fun label =>
      .stop .unbounded (unboundedMessage label)
  | some _, some _ =>
    if limit.atMost done then .ok (.stop .iterationLimitExceeded (limitMessage limit))
    else
      match tableau.pivot choice settings.epsilon with
      | .ok next => .ok (.pivot choice next)
      | .error (.unstable cause) => .ok (.stop .numericInstability cause.message)
      | .error (.rejected cause) => .ok (.stop .invalidProblem cause.message)
      | .error failure => .error failure

/-- The record of a pivot: the tableau with the pivot cell marked. -/
def pivotRecord (tableau : Tableau α) (choice : Choice α) : Record α where
  tableau := tableau.withMark (choice.leaving.bind fun row => choice.entering.map (row, ·))
  choice := some choice

/-- The record of a tableau in which no pivot was made. -/
def finalRecord (tableau : Tableau α) : Record α := ⟨tableau, none⟩

/-! ## All steps -/

/-- Where a sequence of steps ended: the records of its pivots, the last tableau,
and why it stopped. -/
structure Trace (α : Type) where
  records : List (Record α)
  last : Tableau α
  status : Status
  message : String

/-- Steps from a tableau on, after `done` pivots, with a budget of further pivots. -/
def trace (settings : Settings α) (limit : Quantity α) :
    (budget done : Nat) → Tableau α → Except Failure (Trace α)
  | budget, done, tableau => do
    match ← nextStep settings limit done tableau with
    | .stop status message => return ⟨[], tableau, status, message⟩
    | .pivot choice next =>
      match budget with
      | 0 => return ⟨[], tableau, .iterationLimitExceeded, limitMessage limit⟩
      | budget + 1 =>
        let later ← trace settings limit budget (done + 1) next
        return { later with records := pivotRecord tableau choice :: later.records }
termination_by structural budget => budget

/-- A budget in which a limit is reached if it can be reached at all. -/
def Quantity.budget (limit : Quantity α) : Nat :=
  match limit.reading with
  | .finite negative size => if negative then 0 else size.ceil.toNat
  | .infinite true => 0
  | _ => twoPower 64

/-! ## Runs -/

/-- How far a run has come. -/
inductive Phase where
  | building
  | iterating
  | terminated
  deriving DecidableEq, Repr

/-- The name of a phase. -/
def Phase.name : Phase → String
  | building => "building"
  | iterating => "iterating"
  | terminated => "terminated"

/-- A solve and all that can be seen of it. -/
structure Run (α : Type) where
  phase : Phase
  tableau : Option (Tableau α)
  history : List (Record α)
  iterations : Nat
  solution : Option (Solution α)

namespace Run

/-- A run before anything was done. -/
def idle : Run α := ⟨.building, none, [], 0, none⟩

/-- A run with its starting tableau. -/
def started (tableau : Tableau α) : Run α := ⟨.iterating, some tableau, [], 0, none⟩

/-- A run of a problem that has no starting tableau. -/
def rejected (cause : Rejection) : Run α :=
  ⟨.terminated, none, [], 0, some (Solution.rejected cause)⟩

/-- The run after a pivot. -/
def pivoted (run : Run α) (record : Record α) (next : Tableau α) : Run α :=
  { run with
    tableau := some next
    history := run.history ++ [record]
    iterations := run.iterations + 1 }

/-- The run ended by cancellation, which drops the history from the answer. -/
def cancelled (run : Run α) : Except Failure (Run α) :=
  match run.tableau with
  | none => .error .absent
  | some tableau => do
    let solution ← Solution.atTableau tableau .cancelled "Solve cancelled" []
    return { run with phase := .terminated, solution := some solution }

/-- The run ended with a final record of its tableau, and that record. -/
def finished (run : Run α) (status : Status) (message : String) :
    Except Failure (Run α × Record α) :=
  match run.tableau with
  | none => .error .absent
  | some tableau => do
    let record := finalRecord tableau
    let history := run.history ++ [record]
    let solution ← Solution.atTableau tableau status message history
    return ({ run with phase := .terminated, history, solution := some solution }, record)

/-- The run that made the pivots of a trace and then ended. -/
def ofTrace (trace : Trace α) : Except Failure (Run α) := do
  let run : Run α :=
    ⟨.iterating, some trace.last, trace.records, trace.records.length, none⟩
  let (run, _) ← run.finished trace.status trace.message
  return run

/-- The lines two records of a run leave, counting pivots from `number`. -/
def recordLog (number : Nat) : List (Record α) → List LogLine
  | [] => []
  | record :: rest =>
    if record.choice.isSome then
      LogLine.pivoted record :: LogLine.iterated number record :: recordLog (number + 1) rest
    else recordLog number rest

/-- All lines a run leaves that nothing interfered with. -/
def log (start : Except Rejection (Tableau α)) (run : Run α) : List LogLine :=
  let opening := match start with
    | .ok tableau => [LogLine.built tableau]
    | .error _ => []
  let closing := match run.solution with
    | some solution => [LogLine.finished solution.status solution.message]
    | none => []
  opening ++ recordLog 1 run.history ++ closing

end Run

namespace Problem

/-- The most pivots of a solve that starts from a tableau. -/
def pivotLimit (settings : Settings α) (tableau : Tableau α) : Except Failure (Quantity α) :=
  settings.limit tableau.variableCount.toInt tableau.constraintCount

/-- The whole run of a solve. `cancelled` says that it is cancelled before its first
step. -/
def run (problem : Problem α) (settings : Settings α) (cancelled : Bool) :
    Except Failure (Run α) :=
  match problem.startingTableau with
  | .error cause => .ok (Run.rejected cause)
  | .ok tableau => do
    let limit ← pivotLimit settings tableau
    if cancelled then (Run.started tableau).cancelled
    else Run.ofTrace (← trace settings limit limit.budget 0 tableau)

/-- Solves a problem. -/
def solve (problem : Problem α) (settings : Settings α) (cancelled : Bool) :
    Except Failure (Solution α) := do
  let run ← problem.run settings cancelled
  match run.solution with
  | some solution => return solution
  | none => throw .absent

end Problem

end SimplexSolver
