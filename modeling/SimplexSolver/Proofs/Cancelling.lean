import SimplexSolver.Proofs.Interleaving

/-!
# Cancelling a walk

The switch of a session is looked at when a walk is advanced, before the next step is
decided, and at no other time. So what a walk does does not depend on what became of the
switch between two steps, but only on how it stands when the walk is advanced: either the
walk yields the next record of the run that nothing interferes with, or it is over and the
session shows that the solve was cancelled (`Reacts`).

The records of that run are counted by `Problem.recordAt`. They need not come to an end,
because a limit that is infinite or undefined is never reached. If the limit is a number,
they are the history of the solution (`Lone.recordAt_eq`).

A schedule turns the switch and advances the walk in any order (`Turn`). Along every
schedule the walk has yielded the first records of the run, and what the session holds says
how far it has come (`Watched`); both are kept by a turn of the switch and by a step. A walk
that is over stays so, and nothing changes the solution any more (`turns_of_over`).
-/

set_option autoImplicit false

namespace SimplexSolver

open Tableau

variable {α : Type} [Scalar α]

/-! ## The records of a run -/

/-- The record of a tableau after `done` pivots: with the pivot that is made in it, or with
none if the method stops there. -/
def recordIn (settings : Settings α) (limit : Quantity α) (done : Nat) (tableau : Tableau α) :
    Option (Record α) :=
  match nextStep settings limit done tableau with
  | .ok (.pivot choice _) => some (pivotRecord tableau choice)
  | .ok (.stop _ _) => some (finalRecord tableau)
  | .error _ => none

/-- The record with a number of the run that nothing interferes with, if there are so
many. -/
def Problem.recordAt (problem : Problem α) (settings : Settings α) (index : Nat) :
    Option (Record α) :=
  match problem.startingTableau with
  | .error _ => none
  | .ok start =>
    match Problem.pivotLimit settings start with
    | .error _ => none
    | .ok limit => (reached settings limit start index).bind (recordIn settings limit index)

section Records

variable {problem : Problem α} {settings : Settings α} {start tableau next : Tableau α}
  {limit : Quantity α} {index : Nat} {choice : Choice α}
  (built : problem.startingTableau = .ok start)
  (limited : Problem.pivotLimit settings start = .ok limit)
include built limited

theorem recordAt_eq (index : Nat) : problem.recordAt settings index =
    (reached settings limit start index).bind (recordIn settings limit index) := by
  simp only [Problem.recordAt, built, limited]

/-- A pivot is recorded with the tableau in which it is made. -/
theorem recordAt_of_pivot (here : reached settings limit start index = some tableau)
    (made : nextStep settings limit index tableau = .ok (.pivot choice next)) :
    problem.recordAt settings index = some (pivotRecord tableau choice) := by
  rw [recordAt_eq built limited, here, Option.bind_some, recordIn, made]

/-- The tableau in which the method stops is recorded last. -/
theorem recordAt_of_stop {status : Status} {message : String}
    (here : reached settings limit start index = some tableau)
    (made : nextStep settings limit index tableau = .ok (.stop status message)) :
    problem.recordAt settings index = some (finalRecord tableau) ∧
      problem.recordAt settings (index + 1) = none := by
  constructor
  · rw [recordAt_eq built limited, here, Option.bind_some, recordIn, made]
  · rw [recordAt_eq built limited, reached, here, Option.bind_some, advance, made,
      Option.bind_none]

/-- Every tableau of a run has a record. -/
theorem exists_recordAt (here : reached settings limit start index = some tableau) :
    ∃ record, problem.recordAt settings index = some record := by
  obtain ⟨step, made, -⟩ := nextStep_decided settings limit index tableau
  cases step with
  | pivot choice next => exact ⟨_, recordAt_of_pivot built limited here made⟩
  | stop status message => exact ⟨_, (recordAt_of_stop built limited here made).1⟩

end Records

/-- **The records of a run that ends are the history of its solution.** -/
theorem Lone.recordAt_eq {problem : Problem α} {settings : Settings α}
    (lone : Lone problem settings) (index : Nat) :
    problem.recordAt settings index = lone.solution.history[index]? := by
  rw [lone.history_eq]
  rcases Nat.lt_or_ge lone.total index with beyond | inside
  · obtain ⟨-, ended⟩ :=
      recordAt_of_stop lone.built lone.limited lone.tableauAt_total lone.complete.stops
    rw [List.getElem?_eq_none (lone.length_records.trans_le beyond)]
    cases there : reached settings lone.limit lone.start index with
    | none => rw [SimplexSolver.recordAt_eq lone.built lone.limited, there, Option.bind_none]
    | some tableau =>
        -- a run that got further has a record after the last one
        obtain ⟨later, further⟩ := exists_reached_of_le there beyond
        obtain ⟨record, recorded⟩ := exists_recordAt lone.built lone.limited further
        rw [ended] at recorded
        cases recorded
  · obtain ⟨tableau, here⟩ := lone.exists_tableauAt inside
    obtain ⟨choice, next, made, recorded, -, before⟩ | ⟨ended, rfl, made⟩ := step_cases here inside
    · rw [recordAt_of_pivot lone.built lone.limited here made,
        lone.getElem?_records_of_lt before, recorded]
    · rw [(recordAt_of_stop lone.built lone.limited here made).1, ended,
        lone.getElem?_records_total]

/-! ## Schedules -/

/-- What can be done with a session that has a switch and one walk. -/
inductive Turn where
  /-- Turns the switch. -/
  | switch (on : Bool)
  /-- Makes one step of the walk. -/
  | next
  deriving DecidableEq, Repr

/-- One turn. -/
def Turn.play (name : String) (played : Played α) : Turn → Except Failure (Played α)
  | .switch on => do
    let session ← played.session.turnSwitch on
    return { played with session }
  | .next => Move.play played (.next name)

/-- All turns of a schedule. -/
def turns (name : String) (played : Played α) (schedule : List Turn) :
    Except Failure (Played α) :=
  schedule.foldlM (Turn.play name) played

/-- A session with a switch, in which a walk was opened and nothing was done since. -/
def Played.opened (problem : Problem α) (settings : Settings α) (name : String) : Played α :=
  ⟨(Session.fresh problem settings true).openWalk name, fun _ => []⟩

/-- The answer of a cancelled solve of a problem with so many variables and constraints. -/
def Solution.cancelled (size rows : Nat) : Solution α :=
  ⟨.cancelled, List.replicate size 0, List.replicate rows 0, 0, [], "Solve cancelled"⟩

/-- What a walk does next while the switch of its session is turned at will. As long as
it is not over there is a next record of the run. If the switch is off when the walk is
advanced, it yields this record, and it is over exactly if that was the last one; the session
then shows a solution with all these records. If the switch is on, it yields nothing, is over,
and the solve was cancelled. A walk that is over, or that has yielded all records, leaves the
solution as it is, whatever is done. -/
structure Played.Heeds (problem : Problem α) (settings : Settings α) (count : Count)
    (name : String) (played : Played α) : Prop where
  yielded : ∀ index record, (played.yields name)[index]? = some record →
    problem.recordAt settings index = some record
  unfinished : played.session.walk name ≠ .ok .over → played.session.solution? = none ∧
    problem.recordAt settings (played.yields name).length ≠ none
  goesOn : played.session.walk name ≠ .ok .over → played.session.isCancelled = false →
    ∃ moved, played.session.next name = .ok moved ∧
      moved.record = problem.recordAt settings (played.yields name).length ∧
        (moved.session.walk name = .ok .over ↔
          problem.recordAt settings ((played.yields name).length + 1) = none) ∧
          (moved.session.walk name = .ok .over → ∃ solution,
            moved.session.solution? = some solution ∧
              solution.history = played.yields name ++ moved.record.toList)
  stops : played.session.walk name ≠ .ok .over → played.session.isCancelled = true →
    ∃ moved, played.session.next name = .ok moved ∧ moved.record = none ∧
      moved.session.walk name = .ok .over ∧ moved.session.solution? =
        some (Solution.cancelled count.toNat problem.constraints.length)
  stays : played.session.walk name = .ok .over ∨
      problem.recordAt settings (played.yields name).length = none →
    ∀ further, ∃ later, turns name played further = .ok later ∧
      later.session.solution? = played.session.solution? ∧
        later.yields name = played.yields name

theorem turns_cons {name : String} {played later : Played α} {turn : Turn}
    (made : turn.play name played = .ok later) (rest : List Turn) :
    turns name played (turn :: rest) = turns name later rest := by
  simp only [turns, List.foldlM_cons, made, bind, Except.bind]

/-- Turning a switch that is there changes nothing else. -/
theorem play_switch {name : String} {played : Played α}
    (switched : played.session.switch.isSome) (on : Bool) :
    Turn.play name played (.switch on) =
      .ok { played with session := { played.session with switch := some on } } := by
  obtain ⟨before, there⟩ := Option.isSome_iff_exists.mp switched
  simp only [Turn.play, Session.turnSwitch, there, bind, Except.bind, pure, Except.pure]

theorem play_next {name : String} {played : Played α} {moved : Advance α}
    (made : played.session.next name = .ok moved) : Turn.play name played .next =
      .ok (played.after name moved.session moved.record.toList) := by
  simp only [Turn.play, Move.play, made, bind, Except.bind, pure, Except.pure]

/-- A step of a walk that is over does nothing. -/
theorem play_next_of_over {name : String} {played : Played α}
    (ended : played.session.walk name = .ok .over) : Turn.play name played .next =
      .ok { played with session := played.session.setWalk name .over } := by
  rw [play_next (Session.next_of_advance ended rfl)]
  simp [Played.after]

/-- **A walk that is over stays so**, and no turn touches the runs of its session. -/
theorem turns_of_over {name : String} (played : Played α) (schedule : List Turn)
    (switched : played.session.switch.isSome) (ended : played.session.walk name = .ok .over) :
    ∃ later, turns name played schedule = .ok later ∧
      later.session.runs = played.session.runs ∧ later.yields name = played.yields name := by
  induction schedule generalizing played with
  | nil => exact ⟨played, rfl, rfl, rfl⟩
  | cons turn rest ih =>
      cases turn with
      | switch on =>
          rw [turns_cons (play_switch switched on)]
          exact ih _ rfl ended
      | next =>
          rw [turns_cons (play_next_of_over ended)]
          exact ih _ switched (Session.walk_setWalk_self _ name .over)

/-! ## One step of a walk -/

namespace Session

variable {session : Session α} {index done : Nat} {run : Run α} {tableau : Tableau α}
  {limit : Quantity α} (owned : session.runs[index]? = some run)
  (shown : run.tableau = some tableau)
include owned shown

/-- With the switch on, a step cancels the latest run. -/
theorem stepRun_of_cancelled (set : session.isCancelled = true) {ended : Run α}
    (cancelled : session.latest.cancelled = .ok ended) :
    session.stepRun index = .ok ⟨session.setLatest ended, .over, none,
      [LogLine.finished .cancelled "Solve cancelled"]⟩ := by
  simp only [stepRun, owned, shown, set, cancelled, bind, Except.bind, pure, Except.pure, if_true]

variable (clear : session.isCancelled = false)
  (limited : Problem.pivotLimit session.settings tableau = .ok limit)
include clear limited

/-- With the switch off, a step makes the pivot that the method makes. -/
theorem stepRun_of_pivot {choice : Choice α} {next : Tableau α}
    (made : nextStep session.settings limit run.iterations tableau = .ok (.pivot choice next)) :
    ∃ log, session.stepRun index = .ok ⟨{ session with
      runs := session.runs.set index (run.pivoted (pivotRecord tableau choice) next) },
      .suspended index, some (pivotRecord tableau choice), log⟩ := by
  simp only [stepRun, owned, shown, clear, limited, made, bind, Except.bind, pure, Except.pure,
    Bool.false_eq_true, if_false]
  exact ⟨_, rfl⟩

/-- With the switch off, a step ends the latest run where the method stops. -/
theorem stepRun_of_stop {status : Status} {message : String} {ended : Run α} {record : Record α}
    (made : nextStep session.settings limit run.iterations tableau = .ok (.stop status message))
    (finished : session.latest.finished status message = .ok (ended, record)) :
    ∃ log, session.stepRun index = .ok ⟨session.setLatest ended, .over, some record, log⟩ := by
  simp only [stepRun, owned, shown, clear, limited, made, finished, bind, Except.bind, pure,
    Except.pure, Bool.false_eq_true, if_false]
  exact ⟨_, rfl⟩

end Session

/-- The run of a walk that has yielded these records and is to go on in a tableau. -/
def Run.underway (tableau : Tableau α) (records : List (Record α)) : Run α :=
  ⟨.iterating, some tableau, records, records.length, none⟩

omit [Scalar α] in
theorem Run.pivoted_underway (tableau next : Tableau α) (records : List (Record α))
    (record : Record α) : (Run.underway tableau records).pivoted record next =
      Run.underway next (records ++ [record]) := by
  simp [pivoted, underway]

section Walk

variable {problem : Problem α} {settings : Settings α} {start : Tableau α} {limit : Quantity α}

variable (problem settings start limit) in
/-- What a step of a walk comes to, after the walk has yielded some records: it pivots,
comes to its end, or is cancelled. -/
inductive Reacts (session : Session α) (records : List (Record α)) : Advance α → Prop where
  | pivoted {record : Record α} {next : Tableau α} (log : List LogLine)
      (clear : session.isCancelled = false)
      (recorded : problem.recordAt settings records.length = some record)
      (there : reached settings limit start (records.length + 1) = some next) :
      Reacts session records ⟨{ session with runs := [Run.underway next (records ++ [record])] },
        .suspended 0, some record, log⟩
  | ended {record : Record α} {run : Run α} {solution : Solution α} (log : List LogLine)
      (clear : session.isCancelled = false)
      (recorded : problem.recordAt settings records.length = some record)
      (last : problem.recordAt settings (records.length + 1) = none)
      (answered : run.solution = some solution)
      (history : solution.history = records ++ [record]) :
      Reacts session records ⟨{ session with runs := [run] }, .over, some record, log⟩
  | cancelled {run : Run α} (log : List LogLine) (set : session.isCancelled = true)
      (answered : run.solution =
        some (Solution.cancelled start.variableCount.toNat start.constraintCount)) :
      Reacts session records ⟨{ session with runs := [run] }, .over, none, log⟩

variable (settings start limit) in
/-- Where a walk stands that has yielded some records, and the runs of its session. -/
inductive Standing : Walk → List (Run α) → List (Record α) → Prop where
  | waiting : Standing .waiting [] []
  | suspended {tableau : Tableau α} {records : List (Record α)}
      (here : reached settings limit start records.length = some tableau) :
      Standing (.suspended 0) [Run.underway tableau records] records
  | finished {run : Run α} {solution : Solution α} (records : List (Record α))
      (answered : run.solution = some solution) : Standing .over [run] records

variable (built : problem.startingTableau = .ok start)
  (limited : Problem.pivotLimit settings start = .ok limit)
include built limited

/-- A step in the run of the walk. -/
theorem exists_stepRun {session : Session α} {tableau : Tableau α} {records : List (Record α)}
    (settings_eq : session.settings = settings)
    (runs : session.runs = [Run.underway tableau records])
    (here : reached settings limit start records.length = some tableau) :
    ∃ moved, session.stepRun 0 = .ok moved ∧
      Reacts problem settings start limit session records moved := by
  have continues := continues_reached (Problem.continues_start built) _ _ here
  have bounded : Problem.pivotLimit session.settings tableau = .ok limit := by
    rw [settings_eq, continues.pivotLimit_eq settings]
    exact limited
  have owned : session.runs[0]? = some (Run.underway tableau records) := by simp [runs]
  have latest : session.latest = Run.underway tableau records := by simp [Session.latest, runs]
  have only : ∀ run, session.setLatest run = { session with runs := [run] } := by
    simp [Session.setLatest, runs]
  cases set : session.isCancelled with
  | true =>
      obtain ⟨ended, cancelled, answered⟩ : ∃ run, session.latest.cancelled = .ok run ∧
          run.solution = some
            (Solution.cancelled start.variableCount.toNat start.constraintCount) := by
        rw [latest, ← continues.variableCount, ← continues.rows]
        exact ⟨_, rfl, rfl⟩
      have made := Session.stepRun_of_cancelled owned rfl set cancelled
      rw [only] at made
      exact ⟨_, made, .cancelled _ set answered⟩
  | false =>
      obtain ⟨step, decided, -⟩ := nextStep_decided settings limit records.length tableau
      have made : nextStep session.settings limit (Run.underway tableau records).iterations
          tableau = .ok step := settings_eq ▸ decided
      cases step with
      | pivot choice next =>
          obtain ⟨log, stepped⟩ := Session.stepRun_of_pivot owned rfl set bounded made
          rw [runs, Run.pivoted_underway] at stepped
          exact ⟨_, stepped, .pivoted log set (recordAt_of_pivot built limited here decided)
            (reached_succ here decided)⟩
      | stop status message =>
          obtain ⟨recorded, last⟩ := recordAt_of_stop built limited here decided
          obtain ⟨size, number, wide⟩ := Problem.exists_size built
          obtain ⟨solution, answer⟩ := continues.exists_atTableau number wide status message
            (records ++ [finalRecord tableau])
          obtain ⟨ended, finished, answered⟩ : ∃ run,
              session.latest.finished status message = .ok (run, finalRecord tableau) ∧
                run.solution = some solution := by
            rw [latest]
            simp only [Run.finished, Run.underway, answer, bind, Except.bind, pure, Except.pure]
            exact ⟨_, rfl, rfl⟩
          obtain ⟨log, stepped⟩ := Session.stepRun_of_stop owned rfl set bounded made finished
          rw [only] at stepped
          exact ⟨_, stepped, .ended log set recorded last answered
            (Solution.parts_of_atTableau answer).2.2.1⟩

/-- A step of a walk that is not over, the first one included. -/
theorem exists_advance {session : Session α} {walk : Walk} {records : List (Record α)}
    (problem_eq : session.problem = problem) (settings_eq : session.settings = settings)
    (standing : Standing settings start limit walk session.runs records)
    (unfinished : walk ≠ .over) :
    ∃ moved, session.advance walk = .ok moved ∧
      Reacts problem settings start limit session records moved := by
  generalize held : session.runs = runs at standing
  cases standing with
  | waiting =>
      have begun : (session.begin (Run.started start)).runs = [Run.underway start []] := by
        simp [Session.begin, held, Run.started, Run.underway]
      have same : (session.begin (Run.started start)).settings = settings := settings_eq
      obtain ⟨moved, made, reacts⟩ := exists_stepRun built limited same begun rfl
      refine ⟨{ moved with log := LogLine.built start :: moved.log }, ?_, ?_⟩
      · simp only [Session.advance, problem_eq, built, held, List.length_nil, made, bind,
          Except.bind, pure, Except.pure]
      · cases reacts with
        | pivoted log clear recorded there => exact .pivoted _ clear recorded there
        | ended log clear recorded last answered history =>
            exact .ended _ clear recorded last answered history
        | cancelled log set answered => exact .cancelled _ set answered
  | suspended here => exact exists_stepRun built limited settings_eq held here
  | finished records answered => exact absurd rfl unfinished

omit built limited in
variable (problem settings start limit) in
/-- A session whose only walk is watched along a schedule: it has a switch, the walk has
yielded the first records of the run, and it stands where these lead to. -/
structure Watched (name : String) (played : Played α) : Prop where
  problem_eq : played.session.problem = problem
  settings_eq : played.session.settings = settings
  switched : played.session.switch.isSome
  yielded : ∀ index record, (played.yields name)[index]? = some record →
    problem.recordAt settings index = some record
  standing : ∃ walk, played.session.walk name = .ok walk ∧
    Standing settings start limit walk played.session.runs (played.yields name)

omit built limited in
theorem watched_opened (name : String) :
    Watched problem settings start limit name (.opened problem settings name) where
  problem_eq := rfl
  settings_eq := rfl
  switched := rfl
  yielded := by simp [Played.opened]
  standing := ⟨.waiting, Session.walk_setWalk_self _ name .waiting, .waiting⟩

namespace Watched

variable {name : String} {played : Played α}
  (watched : Watched problem settings start limit name played)
include watched

omit built limited in
/-- A turn of the switch touches neither the walk nor its run. -/
theorem switch (on : Bool) : Watched problem settings start limit name
    { played with session := { played.session with switch := some on } } :=
  ⟨watched.problem_eq, watched.settings_eq, rfl, watched.yielded, watched.standing⟩

omit built limited in
/-- Neither does a step of the walk once it is over. -/
theorem rest (ended : played.session.walk name = .ok .over) :
    Watched problem settings start limit name
      { played with session := played.session.setWalk name .over } := by
  obtain ⟨walk, found, standing⟩ := watched.standing
  obtain rfl := Except.ok.inj (found.symm.trans ended)
  exact ⟨watched.problem_eq, watched.settings_eq, watched.switched, watched.yielded, .over,
    Session.walk_setWalk_self _ name .over, standing⟩

/-- While the walk is not over there is no solution, and there is a next record. -/
theorem parts_of_unfinished (unfinished : played.session.walk name ≠ .ok .over) :
    played.session.solution? = none ∧
      problem.recordAt settings (played.yields name).length ≠ none := by
  obtain ⟨walk, found, standing⟩ := watched.standing
  rw [Session.solution?, Session.latest]
  generalize played.session.runs = runs at standing
  generalize played.yields name = records at standing
  cases standing with
  | waiting =>
      have here : reached settings limit start 0 = some start := rfl
      obtain ⟨record, recorded⟩ := exists_recordAt built limited here
      exact ⟨rfl, by simp [recorded]⟩
  | suspended here =>
      obtain ⟨record, recorded⟩ := exists_recordAt built limited here
      exact ⟨rfl, by simp [recorded]⟩
  | finished records answered => exact absurd found unfinished

/-- The next step of a walk that is not over. -/
theorem exists_next (unfinished : played.session.walk name ≠ .ok .over) :
    ∃ moved, played.session.next name =
        .ok { moved with session := moved.session.setWalk name moved.walk } ∧
      Reacts problem settings start limit played.session (played.yields name) moved := by
  obtain ⟨walk, found, standing⟩ := watched.standing
  have going : walk ≠ .over := fun ended => unfinished (ended ▸ found)
  obtain ⟨moved, made, reacts⟩ := exists_advance built limited watched.problem_eq
    watched.settings_eq standing going
  exact ⟨moved, Session.next_of_advance found made, reacts⟩

omit built limited in
/-- What a step comes to is watched again. -/
theorem after_reacts {moved : Advance α}
    (reacts : Reacts problem settings start limit played.session (played.yields name) moved) :
    Watched problem settings start limit name
      (played.after name (moved.session.setWalk name moved.walk) moved.record.toList) := by
  have yields : ∀ records, (played.after name (moved.session.setWalk name moved.walk)
      records).yields name = played.yields name ++ records := by simp [Played.after]
  have found := moved.session.walk_setWalk_self name moved.walk
  have longer : ∀ record, problem.recordAt settings (played.yields name).length = some record →
      ∀ index other, (played.yields name ++ [record])[index]? = some other →
        problem.recordAt settings index = some other := by
    intro record recorded index other shown
    rw [List.getElem?_append] at shown
    split at shown
    · exact watched.yielded index other shown
    · rename_i beyond
      obtain ⟨inside, rfl⟩ := List.getElem?_eq_some_iff.mp shown
      have last : index = (played.yields name).length := by
        rw [List.length_singleton] at inside
        omega
      simpa [last] using recorded
  cases reacts with
  | pivoted log clear recorded there =>
      refine ⟨watched.problem_eq, watched.settings_eq, watched.switched, ?_, _, found, ?_⟩
      · rw [yields]
        exact longer _ recorded
      · rw [yields]
        exact .suspended (by simpa using there)
  | ended log clear recorded last answered history =>
      refine ⟨watched.problem_eq, watched.settings_eq, watched.switched, ?_, _, found, ?_⟩
      · rw [yields]
        exact longer _ recorded
      · exact .finished _ answered
  | cancelled log set answered =>
      refine ⟨watched.problem_eq, watched.settings_eq, watched.switched, ?_, _, found, ?_⟩
      · rw [yields, Option.toList_none, List.append_nil]
        exact watched.yielded
      · exact .finished _ answered

/-- Every turn succeeds and leaves a session that is watched. -/
theorem exists_play (turn : Turn) :
    ∃ later, turn.play name played = .ok later ∧
      Watched problem settings start limit name later := by
  cases turn with
  | switch on => exact ⟨_, play_switch watched.switched on, watched.switch on⟩
  | next =>
      by_cases ended : played.session.walk name = .ok .over
      · exact ⟨_, play_next_of_over ended, watched.rest ended⟩
      · obtain ⟨moved, made, reacts⟩ := watched.exists_next built limited ended
        exact ⟨_, play_next made, watched.after_reacts reacts⟩

/-- Every schedule succeeds. -/
theorem exists_turns (schedule : List Turn) :
    ∃ later, turns name played schedule = .ok later ∧
      Watched problem settings start limit name later := by
  induction schedule generalizing played with
  | nil => exact ⟨played, rfl, watched⟩
  | cons turn rest ih =>
      obtain ⟨next, made, further⟩ := watched.exists_play built limited turn
      rw [turns_cons made]
      exact ih further

/-- A watched walk heeds the switch. -/
theorem heeds {count : Count} (number : start.variableCount = count)
    (rows : start.constraintCount = problem.constraints.length) :
    played.Heeds problem settings count name where
  yielded := watched.yielded
  unfinished := watched.parts_of_unfinished built limited
  goesOn := by
    intro unfinished clear
    obtain ⟨moved, made, reacts⟩ := watched.exists_next built limited unfinished
    refine ⟨_, made, ?_⟩
    rw [Session.walk_setWalk_self]
    cases reacts with
    | pivoted log _ recorded there =>
        obtain ⟨record, further⟩ := exists_recordAt built limited there
        exact ⟨recorded.symm, by simp [further], fun ended => by simp at ended⟩
    | ended log _ recorded last answered history =>
        exact ⟨recorded.symm, by simp [last], fun _ => ⟨_, answered, history⟩⟩
    | cancelled log set answered => simp [clear] at set
  stops := by
    intro unfinished set
    obtain ⟨moved, made, reacts⟩ := watched.exists_next built limited unfinished
    refine ⟨_, made, ?_⟩
    cases reacts with
    | pivoted log clear recorded there => simp [set] at clear
    | ended log clear recorded last answered history => simp [set] at clear
    | cancelled log _ answered =>
        refine ⟨rfl, Session.walk_setWalk_self _ name .over, ?_⟩
        rw [number, rows] at answered
        exact answered
  stays := by
    intro ended further
    have final : played.session.walk name = .ok .over := by
      by_contra unfinished
      exact (watched.parts_of_unfinished built limited unfinished).2
        (ended.resolve_left unfinished)
    obtain ⟨later, made, runs, yields⟩ := turns_of_over played further watched.switched final
    refine ⟨later, made, ?_, yields⟩
    rw [Session.solution?, Session.latest, runs]
    rfl

end Watched

end Walk

/-! ## Whole schedules -/

/-- The first step of a walk shows that the problem is rejected, however the switch
stands. -/
theorem turns_of_rejected {name : String} {cause : Rejection} {played : Played α}
    (rejected : played.session.problem.startingTableau = .error cause)
    (switched : played.session.switch.isSome) (waits : played.session.walk name = .ok .waiting)
    (unbegun : played.session.runs = []) (schedule : List Turn) :
    ∃ later, turns name played schedule = .ok later ∧ later.yields name = played.yields name ∧
      later.session.solution? =
        if .next ∈ schedule then some (Solution.rejected cause) else none := by
  induction schedule generalizing played with
  | nil => exact ⟨played, rfl, rfl, by simp [Session.solution?, Session.latest, unbegun, Run.idle]⟩
  | cons turn rest ih =>
      cases turn with
      | switch on =>
          have same : Turn.next ∈ Turn.switch on :: rest ↔ Turn.next ∈ rest := by simp
          rw [turns_cons (play_switch switched on), if_congr same rfl rfl]
          exact ih rejected rfl waits unbegun
      | next =>
          have made : Turn.play name played .next = .ok { played with
              session := (played.session.begin (Run.rejected cause)).setWalk name .over } := by
            have advanced : played.session.advance .waiting = .ok
                ⟨played.session.begin (Run.rejected cause), .over, none,
                  [LogLine.finished .invalidProblem cause.message]⟩ := by
              simp only [Session.advance, rejected]
            rw [play_next (Session.next_of_advance waits advanced)]
            simp [Played.after]
          obtain ⟨later, done, runs, yields⟩ :=
            turns_of_over { played with
              session := (played.session.begin (Run.rejected cause)).setWalk name .over }
              rest switched (Session.walk_setWalk_self _ name .over)
          rw [turns_cons made]
          refine ⟨later, done, yields, ?_⟩
          rw [Session.solution?, Session.latest, runs]
          simp [Session.setWalk, Session.begin, Run.rejected]

namespace Problem

/-- **Cancelling takes effect exactly between two records.** Let a session have a switch and
one walk, and let the switch be turned and the walk be advanced in any order. Every turn
succeeds. If the problem is accepted and its limit can be computed, the walk heeds the switch
at every point; the records it yields are the first ones of the run that nothing interferes
with, which are the history of the solution if the limit is a number. If the problem is
rejected, no record is yielded and the first step shows the rejection, however the switch
stands. -/
theorem cancelling_takes_effect_between_records (problem : Problem α) (settings : Settings α)
    (name : String) (schedule : List Turn) :
    (∀ count limit, problem.validate = .ok count →
      settings.limit count.toInt problem.constraints.length = .ok limit →
        (∃ played, turns name (.opened problem settings name) schedule = .ok played ∧
          played.Heeds problem settings count name) ∧
        ∀ number, limit.Means number → ∃ solution, problem.solve settings false = .ok solution ∧
          ∀ index, problem.recordAt settings index = solution.history[index]?) ∧
    ∀ cause, problem.validate = .error cause →
      ∃ played, turns name (.opened problem settings name) schedule = .ok played ∧
        played.yields name = [] ∧ played.session.solution? =
          if .next ∈ schedule then some (Solution.rejected cause) else none := by
  constructor
  · intro count limit valid limited
    obtain ⟨start, built, -⟩ := exists_startingTableau valid
    obtain ⟨number, rows⟩ := sizes_start valid built
    have bounded := (pivotLimit_start valid built settings).trans limited
    obtain ⟨played, made, watched⟩ :=
      (watched_opened name).exists_turns built bounded schedule
    refine ⟨⟨played, made, watched.heeds built bounded number rows⟩, ?_⟩
    intro most means
    obtain ⟨lone, -⟩ := exists_lone valid limited means
    exact ⟨lone.solution, lone.solve_eq, lone.recordAt_eq⟩
  · intro cause rejected
    exact turns_of_rejected (startingTableau_of_rejected rejected) rfl
      (Session.walk_setWalk_self _ name .waiting) rfl schedule

/-- A walk of `twoLimits` that was not stopped by a switch that was on for a while is stopped
by the same switch in its next step. -/
theorem cancelling_takes_effect_between_records_twoLimits :
    ∃ played, turns "a" (.opened twoLimits Settings.standard "a")
        [.switch true, .switch false, .next, .switch true] = .ok played ∧
      (played.yields "a").length = 1 ∧
        ∃ moved, played.session.next "a" = .ok moved ∧ moved.record = none ∧
          moved.session.solution? = some (Solution.cancelled 2 2) := by
  obtain ⟨⟨played, made, heeds⟩, -⟩ :=
    (cancelling_takes_effect_between_records twoLimits Settings.standard "a"
      [.switch true, .switch false, .next, .switch true]).1 _ _ validate_twoLimits limit_twoLimits
  have found : (turns "a" (.opened twoLimits Settings.standard "a")
      [.switch true, .switch false, .next, .switch true]).toOption.map (fun played =>
        (played.session.walks.lookup "a", played.session.switch, (played.yields "a").length)) =
      some (some (.suspended 0), some true, 1) := by decide +kernel
  have shown := eq_of_seen made found
  obtain ⟨walk, rest⟩ := Prod.mk.inj shown
  obtain ⟨switch, yielded⟩ := Prod.mk.inj rest
  have unfinished : played.session.walk "a" ≠ .ok .over := by simp [Session.walk, walk]
  have set : played.session.isCancelled = true := by simp [Session.isCancelled, switch]
  obtain ⟨moved, stepped, record, -, solution⟩ := heeds.stops unfinished set
  exact ⟨played, made, yielded, moved, stepped, record, solution⟩

end Problem

end SimplexSolver
