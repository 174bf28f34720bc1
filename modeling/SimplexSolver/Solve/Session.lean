import SimplexSolver.Solve.Run

/-!
# Solving step by step

A session solves one problem, possibly several times and in small steps. A walk is
a solve that is advanced record by record: nothing happens when it is opened, and
between two steps it is suspended. Several walks of one session may be advanced in
any order.

Each walk that has made its first step owns the run it began then. The session
shows the run that was begun last, and this is also the run that is ended: when a
walk finds that it is to stop, it is the session's latest run that gets the final
record and the solution, while the walk itself is over. As long as there is only
one walk the two runs are the same.

A session may have a switch for cancelling. It is looked at when a walk is
advanced, before the next step is decided, and at no other time.
-/

set_option autoImplicit false

namespace SimplexSolver

/-- Where a walk stands. -/
inductive Walk where
  /-- Opened, and nothing done yet. -/
  | waiting
  /-- Between two steps; the walk owns the run with this number. -/
  | suspended (run : Nat)
  | over
  deriving DecidableEq, Repr

/-- A problem that is solved step by step. -/
structure Session (α : Type) where
  problem : Problem α
  settings : Settings α
  /-- The switch for cancelling, if there is one. -/
  switch : Option Bool
  /-- All runs begun so far, in order. -/
  runs : List (Run α)
  /-- All walks, by name. -/
  walks : List (String × Walk)

/-- What became of a session in one step: the record that was made, if any, and the
lines left in the log. -/
structure Advance (α : Type) where
  session : Session α
  walk : Walk
  record : Option (Record α)
  log : List LogLine

namespace Session

variable {α : Type}

/-- A session at its beginning. -/
def fresh (problem : Problem α) (settings : Settings α) (hasSwitch : Bool) : Session α where
  problem := problem
  settings := settings
  switch := if hasSwitch then some false else none
  runs := []
  walks := []

/-- The run that was begun last. -/
def latest [Scalar α] (session : Session α) : Run α := session.runs.getLastD Run.idle

/-- The solution of the latest run. -/
def solution? [Scalar α] (session : Session α) : Option (Solution α) := session.latest.solution

/-- Whether cancelling was asked for. -/
def isCancelled (session : Session α) : Bool := session.switch.getD false

/-- Turns the switch, if there is one. -/
def turnSwitch (session : Session α) (on : Bool) : Except Failure (Session α) :=
  match session.switch with
  | none => .error .absent
  | some _ => .ok { session with switch := some on }

/-- Begins a run. -/
def begin (session : Session α) (run : Run α) : Session α :=
  { session with runs := session.runs ++ [run] }

/-- Replaces the latest run. -/
def setLatest (session : Session α) (run : Run α) : Session α :=
  { session with runs := session.runs.set (session.runs.length - 1) run }

/-- Puts a walk under a name. -/
def setWalk (session : Session α) (name : String) (walk : Walk) : Session α :=
  { session with walks := (name, walk) :: session.walks.filter (·.1 != name) }

/-- Opens a walk. -/
def openWalk (session : Session α) (name : String) : Session α := session.setWalk name .waiting

/-- The walk of a name. -/
def walk (session : Session α) (name : String) : Except Failure Walk :=
  match session.walks.lookup name with
  | some walk => .ok walk
  | none => .error .unknownName

variable [Scalar α]

/-! ## One step of a walk -/

/-- One step of a walk that owns a run with a tableau. -/
def stepRun (session : Session α) (index : Nat) : Except Failure (Advance α) :=
  match session.runs[index]? with
  | none => .error .absent
  | some run =>
    match run.tableau with
    | none => .error .absent
    | some tableau =>
      if session.isCancelled then do
        let ended ← session.latest.cancelled
        return ⟨session.setLatest ended, .over, none,
          [LogLine.finished .cancelled "Solve cancelled"]⟩
      else do
        let limit ← Problem.pivotLimit session.settings tableau
        match ← nextStep session.settings limit run.iterations tableau with
        | .pivot choice next =>
          let record := pivotRecord tableau choice
          let moved := run.pivoted record next
          return ⟨{ session with runs := session.runs.set index moved }, .suspended index,
            some record, [LogLine.pivoted record, LogLine.iterated moved.iterations record]⟩
        | .stop status message =>
          let (ended, record) ← session.latest.finished status message
          return ⟨session.setLatest ended, .over, some record,
            [LogLine.finished status message]⟩

/-- One step of a walk. The first step begins a run. -/
def advance (session : Session α) : Walk → Except Failure (Advance α)
  | .over => .ok ⟨session, .over, none, []⟩
  | .suspended index => session.stepRun index
  | .waiting =>
    match session.problem.startingTableau with
    | .error cause =>
      let run : Run α := Run.rejected cause
      .ok ⟨session.begin run, .over, none,
        [LogLine.finished .invalidProblem cause.message]⟩
    | .ok tableau => do
      let begun := session.begin (Run.started tableau)
      let moved ← begun.stepRun session.runs.length
      return { moved with log := LogLine.built tableau :: moved.log }

/-- The next record of a walk, if it is not over. -/
def next (session : Session α) (name : String) : Except Failure (Advance α) := do
  let moved ← session.advance (← session.walk name)
  return { moved with session := moved.session.setWalk name moved.walk }

/-! ## All steps of a walk -/

/-- The records of a walk until it is over, with the log of all steps. -/
structure Walked (α : Type) where
  session : Session α
  records : List (Record α)
  log : List LogLine

/-- Advances a walk until it is over, with a budget of steps. -/
def exhaust (name : String) : (budget : Nat) → Session α → Except Failure (Walked α)
  | 0, session => .ok ⟨session, [], []⟩
  | budget + 1, session => do
    let moved ← session.next name
    match moved.record with
    | none => return ⟨moved.session, [], moved.log⟩
    | some record =>
      let later ← exhaust name budget moved.session
      return { later with records := record :: later.records, log := moved.log ++ later.log }

/-- The most steps a walk can take: all its pivots, the final record, and the step
that finds it over. -/
def budget (session : Session α) : Nat :=
  match session.problem.startingTableau with
  | .error _ => 1
  | .ok tableau =>
    match Problem.pivotLimit session.settings tableau with
    | .ok limit => limit.budget + 2
    | .error _ => 1

/-- All records a walk still makes. -/
def drain (session : Session α) (name : String) : Except Failure (Walked α) :=
  exhaust name session.budget session

/-! ## A whole solve -/

/-- Solves the problem in a run of its own, which becomes the latest. -/
def solve (session : Session α) : Except Failure (Session α × Solution α × List LogLine) := do
  let run ← session.problem.run session.settings session.isCancelled
  match run.solution with
  | none => throw .absent
  | some solution =>
    return (session.begin run, solution, run.log session.problem.startingTableau)

end Session

end SimplexSolver
