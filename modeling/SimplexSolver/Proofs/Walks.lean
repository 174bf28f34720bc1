import SimplexSolver.Proofs.Courses
import SimplexSolver.Solve.Session

/-!
# Walking through a solve

A walk makes the steps of a solve one at a time. A step reads two things of the run that
the walk owns, its tableau and its count of pivots; both stand at some point of the solve
that nothing interferes with (`Run.StandsIn`). Before the last tableau the step is the
pivot recorded there (`stepRun_of_lt`). In the last tableau the walk is over, and the step
ends the latest run of the session, whether that is the walk's own or not
(`stepRun_of_eq`).

If the walk owns the latest run, and nothing else is done meanwhile, the run goes through
the stages of the solve (`Lone.runAfter`) one after the other (`stepRun_runAfter`), and the
records the walk makes are those of the history, in order (`Solo.exhaust`). So opening a
walk and advancing it until it is over comes to the same as solving at once
(`drain_openWalk`, `solve_of_quiet`).
-/

set_option autoImplicit false

namespace SimplexSolver

variable {α : Type}

/-! ## Walks by name -/

namespace Session

theorem lookup_filter_ne {β : Type} (entries : List (String × β)) {name other : String}
    (different : other ≠ name) :
    (entries.filter (·.1 != name)).lookup other = entries.lookup other := by
  induction entries with
  | nil => rfl
  | cons entry rest ih =>
      obtain ⟨key, value⟩ := entry
      by_cases dropped : key = name
      · have apart : (other == key) = false := by simpa [dropped] using different
        rw [List.filter_cons_of_neg (by simp [dropped]), List.lookup_cons, apart, ih]
      · rw [List.filter_cons_of_pos (by simpa using dropped), List.lookup_cons, List.lookup_cons,
          ih]

/-- A name stands for the walk that was put under it last. -/
theorem walk_setWalk (session : Session α) (name other : String) (walk : Walk) :
    (session.setWalk name walk).walk other =
      if other = name then .ok walk else session.walk other := by
  unfold Session.walk setWalk
  by_cases same : other = name
  · simp [same]
  · have apart : (other == name) = false := by simpa using same
    rw [List.lookup_cons, apart, lookup_filter_ne session.walks same, if_neg same]

theorem walk_setWalk_self (session : Session α) (name : String) (walk : Walk) :
    (session.setWalk name walk).walk name = .ok walk :=
  (session.walk_setWalk name name walk).trans (if_pos rfl)

theorem walk_setWalk_of_ne (session : Session α) {name other : String} (different : other ≠ name)
    (walk : Walk) : (session.setWalk name walk).walk other = session.walk other :=
  (session.walk_setWalk name other walk).trans (if_neg different)

/-- A session of a problem whose switch is off. -/
structure Quiet (problem : Problem α) (settings : Settings α) (session : Session α) : Prop where
  problem_eq : session.problem = problem
  settings_eq : session.settings = settings
  uncancelled : session.isCancelled = false

theorem quiet_fresh (problem : Problem α) (settings : Settings α) (hasSwitch : Bool) :
    Quiet problem settings (fresh problem settings hasSwitch) :=
  ⟨rfl, rfl, by cases hasSwitch <;> rfl⟩

section Quiet

variable {problem : Problem α} {settings : Settings α} {session : Session α}
  (quiet : Quiet problem settings session)
include quiet

theorem Quiet.setWalk (name : String) (walk : Walk) :
    Quiet problem settings (session.setWalk name walk) :=
  ⟨quiet.problem_eq, quiet.settings_eq, quiet.uncancelled⟩

theorem Quiet.setRuns (runs : List (Run α)) : Quiet problem settings { session with runs } :=
  ⟨quiet.problem_eq, quiet.settings_eq, quiet.uncancelled⟩

end Quiet

end Session

variable [Scalar α] {problem : Problem α} {settings : Settings α} (lone : Lone problem settings)

/-! ## Runs that stand in a solve -/

/-- The run stands at a point of the solve: it has as many pivots behind it as it
counts, and the tableau these lead to. -/
structure Run.StandsIn (run : Run α) : Prop where
  inside : run.iterations ≤ lone.total
  tableau_eq : run.tableau = lone.tableauAt run.iterations

/-- A run of the solve after a number of steps, if nothing interferes: the pivots, and then
the end. -/
def Lone.runAfter (steps : Nat) : Run α :=
  if steps ≤ lone.total then
    ⟨.iterating, lone.tableauAt steps, lone.result.records.take steps, steps, none⟩
  else ⟨.terminated, some lone.result.last, lone.records, lone.total, some lone.solution⟩

namespace Run

variable {lone} {run : Run α}

theorem StandsIn.exists_tableau (stands : run.StandsIn lone) :
    ∃ tableau, run.tableau = some tableau ∧ lone.tableauAt run.iterations = some tableau := by
  obtain ⟨tableau, here⟩ := lone.exists_tableauAt stands.inside
  exact ⟨tableau, stands.tableau_eq.trans here, here⟩

/-- A run that made the next pivot stands one point further. -/
theorem StandsIn.pivoted {record : Record α} {next : Tableau α}
    (before : run.iterations < lone.total)
    (there : lone.tableauAt (run.iterations + 1) = some next) :
    (run.pivoted record next).StandsIn lone :=
  ⟨before, there.symm⟩

/-- Ending a run reads its tableau and changes neither that nor the count. -/
theorem StandsIn.exists_finished (stands : run.StandsIn lone) (status : Status)
    (message : String) :
    ∃ tableau solution, lone.tableauAt run.iterations = some tableau ∧
      Solution.atTableau tableau status message (run.history ++ [finalRecord tableau]) =
        .ok solution ∧
      run.finished status message = .ok
        ({ run with
            phase := .terminated
            history := run.history ++ [finalRecord tableau]
            solution := some solution },
          finalRecord tableau) := by
  obtain ⟨tableau, shown, here⟩ := stands.exists_tableau
  obtain ⟨solution, answer⟩ :=
    Lone.exists_atTableau here status message (run.history ++ [finalRecord tableau])
  refine ⟨tableau, solution, here, answer, ?_⟩
  simp only [Run.finished, shown, answer, bind, Except.bind, pure, Except.pure]

end Run

namespace Lone

theorem runAfter_of_le {steps : Nat} (inside : steps ≤ lone.total) : lone.runAfter steps =
    ⟨.iterating, lone.tableauAt steps, lone.result.records.take steps, steps, none⟩ :=
  if_pos inside

theorem runAfter_end : lone.runAfter (lone.total + 1) =
    ⟨.terminated, some lone.result.last, lone.records, lone.total, some lone.solution⟩ :=
  if_neg (Nat.not_succ_le_self _)

theorem runAfter_zero : lone.runAfter 0 = Run.started lone.start := by
  rw [lone.runAfter_of_le (Nat.zero_le _)]
  rfl

theorem standsIn_runAfter {steps : Nat} (inside : steps ≤ lone.total) :
    (lone.runAfter steps).StandsIn lone := by
  rw [lone.runAfter_of_le inside]
  exact ⟨inside, rfl⟩

/-- The pivot recorded at a point leads to the next stage. -/
theorem pivoted_runAfter {steps : Nat} {record : Record α} {next : Tableau α}
    (before : steps < lone.total) (recorded : lone.result.records[steps]? = some record)
    (there : lone.tableauAt (steps + 1) = some next) :
    (lone.runAfter steps).pivoted record next = lone.runAfter (steps + 1) := by
  rw [lone.runAfter_of_le before.le, lone.runAfter_of_le before, Run.pivoted, List.take_add_one,
    recorded, there]
  rfl

/-- The last stage before the end is ended with the answer of the solve. -/
theorem finished_runAfter : (lone.runAfter lone.total).finished lone.result.status
    lone.result.message = .ok (lone.runAfter (lone.total + 1), finalRecord lone.result.last) := by
  rw [lone.runAfter_of_le le_rfl, lone.runAfter_end]
  simp only [Run.finished, lone.tableauAt_total, lone.take_total, lone.answer, bind, Except.bind,
    pure, Except.pure]
  rfl

end Lone

/-! ## One step of a walk -/

namespace Session

variable {lone} {session : Session α} {index : Nat} {run : Run α}

/-- **Before the last tableau a step makes the pivot recorded there**, in the walk's own
run. -/
theorem stepRun_of_lt (quiet : Quiet problem settings session)
    (owned : session.runs[index]? = some run) (stands : run.StandsIn lone)
    (before : run.iterations < lone.total) :
    ∃ record next log, lone.result.records[run.iterations]? = some record ∧
      lone.tableauAt (run.iterations + 1) = some next ∧
        session.stepRun index = .ok ⟨{ session with
          runs := session.runs.set index (run.pivoted record next) }, .suspended index,
          some record, log⟩ := by
  obtain ⟨tableau, shown, here⟩ := stands.exists_tableau
  have limited := Lone.pivotLimit_eq here
  obtain ⟨choice, next, made, recorded, there, -⟩ | ⟨ended, -⟩ :=
    Lone.step_cases here stands.inside
  · refine ⟨pivotRecord tableau choice, next, [LogLine.pivoted (pivotRecord tableau choice),
      LogLine.iterated (run.iterations + 1) (pivotRecord tableau choice)], recorded, there, ?_⟩
    simp only [stepRun, owned, shown, quiet.uncancelled, quiet.settings_eq, limited, made, bind,
      Except.bind, pure, Except.pure, Bool.false_eq_true, if_false]
    rfl
  · exact absurd ended before.ne

/-- **In the last tableau a step ends the latest run**, and the walk is over. -/
theorem stepRun_of_eq (quiet : Quiet problem settings session)
    (owned : session.runs[index]? = some run) (stands : run.StandsIn lone)
    (last : run.iterations = lone.total) {ended : Run α} {record : Record α}
    (finished : session.latest.finished lone.result.status lone.result.message =
      .ok (ended, record)) :
    ∃ log, session.stepRun index = .ok ⟨session.setLatest ended, .over, some record, log⟩ := by
  obtain ⟨tableau, shown, here⟩ := stands.exists_tableau
  have limited := Lone.pivotLimit_eq here
  obtain ⟨-, -, -, -, -, before⟩ | ⟨-, -, made⟩ := Lone.step_cases here stands.inside
  · exact absurd last before.ne
  · refine ⟨[LogLine.finished lone.result.status lone.result.message], ?_⟩
    simp only [stepRun, owned, shown, quiet.uncancelled, quiet.settings_eq, limited, made, finished,
      bind, Except.bind, pure, Except.pure, Bool.false_eq_true, if_false]

/-- **A step of a walk that owns the latest run leads from one stage of the solve to the
next**, and makes the record of that stage. -/
theorem stepRun_runAfter (quiet : Quiet problem settings session) {before : List (Run α)}
    {steps : Nat} (inside : steps ≤ lone.total)
    (runs : session.runs = before ++ [lone.runAfter steps]) :
    ∃ log, session.stepRun before.length = .ok
      ⟨{ session with runs := before ++ [lone.runAfter (steps + 1)] },
        if steps < lone.total then .suspended before.length else .over,
        lone.records[steps]?, log⟩ := by
  have owned : session.runs[before.length]? = some (lone.runAfter steps) := by simp [runs]
  have stands := lone.standsIn_runAfter inside
  have count : (lone.runAfter steps).iterations = steps := by rw [lone.runAfter_of_le inside]
  rcases inside.lt_or_eq with early | rfl
  · obtain ⟨record, next, log, recorded, there, made⟩ :=
      stepRun_of_lt quiet owned stands (count.symm ▸ early)
    rw [count] at recorded there
    refine ⟨log, ?_⟩
    rw [made, lone.pivoted_runAfter early recorded there, if_pos early,
      lone.getElem?_records_of_lt early, recorded, runs]
    simp
  · have latest : session.latest = lone.runAfter lone.total := by simp [latest, runs]
    obtain ⟨log, made⟩ := stepRun_of_eq quiet owned stands count
      (latest ▸ lone.finished_runAfter)
    refine ⟨log, ?_⟩
    rw [made, if_neg (lt_irrefl _), lone.getElem?_records_total, setLatest, runs]
    simp

/-- The step of a walk, taken by its name. -/
theorem next_of_advance {name : String} {walk : Walk} {moved : Advance α}
    (found : session.walk name = .ok walk) (made : session.advance walk = .ok moved) :
    session.next name = .ok { moved with session := moved.session.setWalk name moved.walk } := by
  simp only [next, found, made, bind, Except.bind, pure, Except.pure]

/-! ## A walk that is advanced alone -/

/-- A walk that made a number of steps while nothing else was done. The runs in
`before` were begun earlier; the walk begins its own in its first step. -/
structure Solo (lone : Lone problem settings) (name : String) (before : List (Run α))
    (steps : Nat) (session : Session α) : Prop where
  quiet : Quiet problem settings session
  inside : steps ≤ lone.total + 1
  walk_eq : session.walk name = .ok (if steps = 0 then .waiting
    else if steps ≤ lone.total then .suspended before.length else .over)
  runs_eq : session.runs = if steps = 0 then before else before ++ [lone.runAfter steps]

namespace Solo

variable {name : String} {before : List (Run α)} {steps : Nat}

/-- A walk that was just opened has made no step. -/
theorem openWalk (lone : Lone problem settings) (quiet : Quiet problem settings session)
    (name : String) : Solo lone name session.runs 0 (session.openWalk name) where
  quiet := quiet.setWalk name .waiting
  inside := Nat.zero_le _
  walk_eq := by simp [Session.openWalk, walk_setWalk]
  runs_eq := rfl

/-- A step of the walk, as long as it is not over. -/
theorem advance (solo : Solo lone name before steps session) (unfinished : steps ≤ lone.total) :
    ∃ walk log, session.walk name = .ok walk ∧ session.advance walk = .ok
      ⟨{ session with runs := before ++ [lone.runAfter (steps + 1)] },
        if steps < lone.total then .suspended before.length else .over,
        lone.records[steps]?, log⟩ := by
  have quiet := solo.quiet
  have runs := solo.runs_eq
  cases steps with
  | zero =>
      have begun : Quiet problem settings (session.begin (lone.runAfter 0)) := quiet.setRuns _
      rw [if_pos rfl] at runs
      obtain ⟨log, made⟩ := stepRun_runAfter begun unfinished
        (congrArg (· ++ [lone.runAfter 0]) runs)
      refine ⟨.waiting, LogLine.built lone.start :: log, solo.walk_eq, ?_⟩
      have built : session.problem.startingTableau = .ok lone.start := by
        rw [quiet.problem_eq, lone.built]
      rw [lone.runAfter_zero] at made
      simp only [Session.advance, built, runs, made, bind, Except.bind, pure, Except.pure]
      rfl
  | succ steps =>
      rw [if_neg (Nat.succ_ne_zero steps)] at runs
      obtain ⟨log, made⟩ := stepRun_runAfter quiet unfinished runs
      have walk := solo.walk_eq
      rw [if_neg (Nat.succ_ne_zero steps), if_pos unfinished] at walk
      exact ⟨.suspended before.length, log, walk, made⟩

/-- The next record of the walk is the next record of the solve. -/
theorem next (solo : Solo lone name before steps session) :
    ∃ moved, session.next name = .ok moved ∧ moved.record = lone.records[steps]? ∧
      Solo lone name before (min (steps + 1) (lone.total + 1)) moved.session := by
  rcases Nat.lt_or_ge lone.total steps with atEnd | unfinished
  · have all : steps = lone.total + 1 := le_antisymm solo.inside atEnd
    have walk := solo.walk_eq
    rw [if_neg (by omega), if_neg (by omega)] at walk
    refine ⟨_, next_of_advance walk rfl, ?_, ?_⟩
    · exact (List.getElem?_eq_none (lone.length_records.trans all.symm).le).symm
    · have stays : min (steps + 1) (lone.total + 1) = steps := by omega
      rw [stays]
      refine ⟨solo.quiet.setWalk name .over, solo.inside, ?_, solo.runs_eq⟩
      rw [walk_setWalk, if_pos rfl, if_neg (by omega), if_neg (by omega)]
  · obtain ⟨walk, log, found, made⟩ := solo.advance unfinished
    refine ⟨_, next_of_advance found made, rfl, ?_⟩
    have moves : min (steps + 1) (lone.total + 1) = steps + 1 := by omega
    rw [moves]
    refine ⟨(solo.quiet.setRuns _).setWalk name _, by omega, ?_,
      (if_neg (Nat.succ_ne_zero steps)).symm⟩
    rw [walk_setWalk, if_pos rfl, if_neg (Nat.succ_ne_zero steps)]
    exact congrArg Except.ok (if_congr Iff.rfl rfl rfl)

/-- **A number of steps of the walk makes as many records of the solve**, as long as there
are any. -/
theorem exhaust (solo : Solo lone name before steps session) (more : Nat) :
    ∃ walked, Session.exhaust name more session = .ok walked ∧
      walked.records = (lone.records.drop steps).take more ∧
        Solo lone name before (min (steps + more) (lone.total + 1)) walked.session := by
  induction more generalizing steps session with
  | zero =>
      refine ⟨⟨session, [], []⟩, rfl, rfl, ?_⟩
      rwa [Nat.add_zero, Nat.min_eq_left solo.inside]
  | succ more ih =>
      obtain ⟨moved, advanced, record, further⟩ := solo.next
      cases shown : lone.records[steps]? with
      | none =>
          have atEnd : lone.records.length ≤ steps := List.getElem?_eq_none_iff.mp shown
          rw [lone.length_records] at atEnd
          rw [shown] at record
          refine ⟨⟨moved.session, [], moved.log⟩, ?_, ?_, ?_⟩
          · simp only [Session.exhaust, advanced, record, bind, Except.bind, pure, Except.pure]
          · rw [List.drop_eq_nil_of_le (List.getElem?_eq_none_iff.mp shown), List.take_nil]
          · have stays : min (steps + (more + 1)) (lone.total + 1) =
                min (steps + 1) (lone.total + 1) := by omega
            rw [stays]
            exact further
      | some made =>
          obtain ⟨inside, here⟩ := List.getElem?_eq_some_iff.mp shown
          have low : steps < lone.total + 1 := lone.length_records ▸ inside
          obtain ⟨later, drained, rest, last⟩ := ih further
          rw [shown] at record
          refine ⟨⟨later.session, made :: later.records, moved.log ++ later.log⟩, ?_, ?_, ?_⟩
          · simp only [Session.exhaust, advanced, record, drained, bind, Except.bind, pure,
              Except.pure]
          · have goes : min (steps + 1) (lone.total + 1) = steps + 1 := by omega
            rw [rest, goes, List.drop_eq_getElem_cons inside, here,
              List.take_succ_cons]
          · have goes : min (min (steps + 1) (lone.total + 1) + more) (lone.total + 1) =
                min (steps + (more + 1)) (lone.total + 1) := by omega
            rw [← goes]
            exact last

/-- The session shows the solution as soon as the final record is made, and not before. -/
theorem solution_eq (solo : Solo lone name [] steps session) :
    session.solution? = if lone.total < steps then some lone.solution else none := by
  have runs := solo.runs_eq
  rw [solution?, latest]
  cases steps with
  | zero =>
      rw [if_pos rfl] at runs
      rw [runs, if_neg (Nat.not_lt_zero _)]
      rfl
  | succ steps =>
      rw [if_neg (Nat.succ_ne_zero steps), List.nil_append] at runs
      rw [runs]
      change (lone.runAfter (steps + 1)).solution = _
      rcases Nat.lt_or_ge lone.total (steps + 1) with atEnd | unfinished
      · rw [if_pos atEnd, le_antisymm solo.inside atEnd, lone.runAfter_end]
      · rw [if_neg (not_lt.mpr unfinished), lone.runAfter_of_le unfinished]

end Solo

/-! ## Solving at once -/

/-- The budget of a session is enough for all steps of a walk. -/
theorem total_lt_budget (lone : Lone problem settings) (quiet : Quiet problem settings session) :
    lone.total + 1 < session.budget := by
  have budget : session.budget = lone.limit.budget + 2 := by
    simp only [Session.budget, quiet.problem_eq, quiet.settings_eq, lone.built, lone.limited]
  rw [budget]
  exact Nat.add_lt_add_of_le_of_lt lone.within (by decide)

/-- **Opening a walk and advancing it until it is over** makes all records of the solve and
leaves a run of it behind. -/
theorem drain_openWalk (lone : Lone problem settings) (quiet : Quiet problem settings session)
    (name : String) :
    ∃ walked, (session.openWalk name).drain name = .ok walked ∧ walked.records = lone.records ∧
      walked.session.walk name = .ok .over ∧
        walked.session.runs = session.runs ++ [lone.runAfter (lone.total + 1)] := by
  have solo := Solo.openWalk lone quiet name
  have enough := total_lt_budget lone solo.quiet
  obtain ⟨walked, drained, records, last⟩ := solo.exhaust (session.openWalk name).budget
  have ended : min (0 + (session.openWalk name).budget) (lone.total + 1) = lone.total + 1 := by
    omega
  rw [ended] at last
  refine ⟨walked, drained, ?_, ?_, ?_⟩
  · rw [records, List.drop_zero, List.take_of_length_le]
    rw [lone.length_records]
    exact enough.le
  · rw [last.walk_eq, if_neg (Nat.succ_ne_zero _), if_neg (Nat.not_succ_le_self _)]
  · rw [last.runs_eq, if_neg (Nat.succ_ne_zero _)]

/-- **Solving at once leaves the same run behind**, and answers as the solve alone does. -/
theorem solve_of_quiet (lone : Lone problem settings) (quiet : Quiet problem settings session) :
    ∃ log, session.solve =
      .ok (session.begin (lone.runAfter (lone.total + 1)), lone.solution, log) := by
  rw [lone.runAfter_end]
  simp only [Session.solve, quiet.problem_eq, quiet.settings_eq, quiet.uncancelled, lone.run_eq,
    bind, Except.bind, pure, Except.pure]
  exact ⟨_, rfl⟩

end Session

end SimplexSolver
