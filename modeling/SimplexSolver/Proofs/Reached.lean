import SimplexSolver.Proofs.Steps

/-!
# The tableaux of a run

A run goes through a sequence of tableaux: the starting tableau and then one more
after every pivot. `Problem.tableauAt` is the tableau after a number of pivots, as
far as the run goes, and the answer of a solve is read off the last of them
(`Problem.solve_ends`). What is proved of the tableaux of a run then holds of the
answer.

Over exact scalars a pivot on a chosen row is never refused, so a step has four
outcomes and no others (`outcome_of_nextStep`). Only one of them leads to another tableau,
and everything a pivot does is collected in `PivotStep`. An invariant of a run has to
be shown of the starting tableau and of a pivot (`Problem.tableauAt_induction`).
-/

set_option autoImplicit false

namespace SimplexSolver

open Tableau

/-- The tableau of a run after a number of pivots, if the run gets that far. -/
def Problem.tableauAt {α : Type} [Scalar α] (problem : Problem α) (settings : Settings α)
    (done : Nat) : Option (Tableau α) :=
  match problem.startingTableau with
  | .error _ => none
  | .ok start =>
    match Problem.pivotLimit settings start with
    | .error _ => none
    | .ok limit => reached settings limit start done

/-! ## One step over exact scalars -/

/-- A pivot from one tableau to the next. -/
structure PivotStep (settings : Settings Rat) (tableau next : Tableau Rat)
    (leaving column : Nat) : Prop where
  entering : tableau.enteringColumn settings.epsilon settings.rule = some column
  row : tableau.leavingRow settings.epsilon column = some leaving
  result : ∃ inside, next = tableau.pivotAt settings.epsilon leaving column leaving false inside

section Step

variable {settings : Settings Rat} {tableau next : Tableau Rat} {leaving column : Nat}

namespace PivotStep

theorem column_lt_width (step : PivotStep settings tableau next leaving column) :
    column < tableau.width :=
  enteringColumn_lt_width step.entering

theorem column_lt_columnCount (step : PivotStep settings tableau next leaving column) :
    column < tableau.columnCount :=
  lt_of_lt_of_le step.column_lt_width (Nat.sub_le _ _)

theorem leaving_lt (tolerance : 0 ≤ settings.epsilon)
    (step : PivotStep settings tableau next leaving column) :
    leaving < tableau.constraintCount :=
  (leads_of_leavingRow tolerance tolerance (overlooks_epsilon _ _ _) step.row).1

theorem epsilon_lt_element (tolerance : 0 ≤ settings.epsilon)
    (step : PivotStep settings tableau next leaving column) :
    settings.epsilon < tableau.cell leaving column :=
  (leads_of_leavingRow tolerance tolerance (overlooks_epsilon _ _ _) step.row).2.1

theorem element_pos (tolerance : 0 ≤ settings.epsilon)
    (step : PivotStep settings tableau next leaving column) : 0 < tableau.cell leaving column :=
  tolerance.trans_lt (step.epsilon_lt_element tolerance)

theorem columnLabels_eq (step : PivotStep settings tableau next leaving column) :
    next.columnLabels = tableau.columnLabels := by
  obtain ⟨inside, rfl⟩ := step.result
  rfl

theorem rowLabels_eq (step : PivotStep settings tableau next leaving column) :
    next.rowLabels = tableau.rowLabels.set leaving (tableau.columnLabels.getD column "") := by
  obtain ⟨inside, rfl⟩ := step.result
  rfl

theorem constraintCount_eq (step : PivotStep settings tableau next leaving column) :
    next.constraintCount = tableau.constraintCount := by
  rw [constraintCount, constraintCount, step.rowLabels_eq, List.length_set]

theorem columnCount_eq (step : PivotStep settings tableau next leaving column) :
    next.columnCount = tableau.columnCount := by
  rw [columnCount, columnCount, step.columnLabels_eq]

theorem width_eq (step : PivotStep settings tableau next leaving column) :
    next.width = tableau.width := by
  rw [width, width, step.columnCount_eq]

/-- The cells after a pivot, small ones set to zero. -/
theorem cell_eq (step : PivotStep settings tableau next leaving column) (row index : Nat) :
    next.cell row index = if index = column then if row = leaving then 1 else 0
      else snap settings.epsilon (tableau.sweptCell leaving column row index) := by
  obtain ⟨inside, rfl⟩ := step.result
  exact tableau.cell_pivotAt _ _ inside step.column_lt_columnCount row index

end PivotStep

/-- A pivot on the chosen row and column is never refused over exact scalars. -/
theorem pivot_choice (tolerance : 0 ≤ settings.epsilon)
    (entering : tableau.enteringColumn settings.epsilon settings.rule = some column)
    (row : tableau.leavingRow settings.epsilon column = some leaving) :
    ∃ inside, tableau.pivot ⟨some column, some leaving, some (tableau.cell leaving column)⟩
      settings.epsilon =
        .ok (tableau.pivotAt settings.epsilon leaving column leaving false inside) := by
  have within : column < tableau.columnCount :=
    lt_of_lt_of_le (enteringColumn_lt_width entering) (Nat.sub_le _ _)
  obtain ⟨low, large, -⟩ := leads_of_leavingRow tolerance tolerance (overlooks_epsilon _ _ _) row
  exact pivot_of_le_abs low within (large.le.trans (le_abs_self _)) _

/-- What a step over exact scalars can do, with everything it depends on. -/
inductive Outcome (settings : Settings Rat) (limit : Quantity Rat) (done : Nat)
    (tableau : Tableau Rat) : Step Rat → Prop where
  | optimal (missing : tableau.enteringColumn settings.epsilon settings.rule = none) :
      Outcome settings limit done tableau (.stop .optimal (optimalMessage done))
  | unbounded (column : Nat) (message : String)
      (entering : tableau.enteringColumn settings.epsilon settings.rule = some column)
      (missing : tableau.leavingRow settings.epsilon column = none) :
      Outcome settings limit done tableau (.stop .unbounded message)
  | limited (column leaving : Nat)
      (entering : tableau.enteringColumn settings.epsilon settings.rule = some column)
      (row : tableau.leavingRow settings.epsilon column = some leaving)
      (full : limit.atMost done = true) :
      Outcome settings limit done tableau (.stop .iterationLimitExceeded (limitMessage limit))
  | pivoted (column leaving : Nat) (next : Tableau Rat)
      (step : PivotStep settings tableau next leaving column)
      (free : limit.atMost done = false) :
      Outcome settings limit done tableau
        (.pivot ⟨some column, some leaving, some (tableau.cell leaving column)⟩ next)

/-- **Over exact scalars a step has four outcomes**: no pivot is refused. -/
theorem outcome_of_nextStep (tolerance : 0 ≤ settings.epsilon) {limit : Quantity Rat} {done : Nat}
    {step : Step Rat} (made : nextStep settings limit done tableau = .ok step) :
    Outcome settings limit done tableau step := by
  cases decided_of_nextStep made with
  | optimal chosen => exact .optimal (enteringColumn_of_choosePivot none chosen)
  | unbounded column message chosen =>
      exact .unbounded column message (enteringColumn_of_choosePivot (some column) chosen)
        (leavingRow_of_choosePivot none chosen)
  | limited column leaving chosen full =>
      exact .limited column leaving (enteringColumn_of_choosePivot (some column) chosen)
        (leavingRow_of_choosePivot (some leaving) chosen) full
  | refused column leaving cause chosen _ failed =>
      -- The element of a chosen pivot exceeds the tolerance.
      obtain ⟨inside, pivoted⟩ := pivot_choice tolerance
        (enteringColumn_of_choosePivot (some column) chosen)
        (leavingRow_of_choosePivot (some leaving) chosen)
      rw [chosen, pivoted] at failed
      cases failed
  | pivoted column leaving inside _ _ chosen free _ =>
      have entering := enteringColumn_of_choosePivot (some column) chosen
      have row := leavingRow_of_choosePivot (some leaving) chosen
      rw [chosen]
      exact .pivoted column leaving _ ⟨entering, row, inside, rfl⟩ free

/-- A step to another tableau is a pivot on the chosen row and column. -/
theorem exists_pivotStep_of_nextStep (tolerance : 0 ≤ settings.epsilon) {limit : Quantity Rat}
    {done : Nat} {choice : Choice Rat}
    (made : nextStep settings limit done tableau = .ok (.pivot choice next)) :
    ∃ leaving column, PivotStep settings tableau next leaving column ∧
      choice = ⟨some column, some leaving, some (tableau.cell leaving column)⟩ := by
  cases outcome_of_nextStep tolerance made with
  | pivoted column leaving _ step _ => exact ⟨leaving, column, step, rfl⟩

end Step

/-! ## Limits that are numbers -/

/-- The quantity stands for a number. One that is infinite or undefined does not. -/
def Quantity.Means {α : Type} [Scalar α] (limit : Quantity α) (number : Rat) : Prop :=
  limit.reading = .ofRat number

theorem Quantity.Means.atMost_iff {α : Type} [Scalar α] {limit : Quantity α} {number : Rat}
    (means : limit.Means number) {bound : Int} : limit.atMost bound = true ↔ number ≤ bound := by
  unfold atMost
  rw [means, Reading.ofRat]
  by_cases negative : number < 0
  · simp [negative]
  · simp [negative]

/-- A limit that stands for a number is reached within its budget. -/
theorem Quantity.Means.atMost_budget {α : Type} [Scalar α] {limit : Quantity α} {number : Rat}
    (means : limit.Means number) : limit.atMost limit.budget = true := by
  rw [means.atMost_iff]
  unfold budget
  rw [means, Reading.ofRat]
  by_cases negative : number < 0
  · simp [negative, negative.le]
  · simp only [negative, decide_false, Bool.false_eq_true, if_false]
    calc number ≤ (number.ceil : Rat) := Rat.le_ceil
      _ ≤ ((number.ceil.toNat : Int) : Rat) := by exact_mod_cast Int.self_le_toNat _

/-! ## Whole runs over exact scalars -/

/-- The number an exact quantity stands for. -/
def Quantity.exact : Quantity Rat → Rat
  | .whole number => number
  | .flag on => flagNumber on
  | .real number => number

theorem Quantity.means_exact (quantity : Quantity Rat) : quantity.Means quantity.exact := by
  cases quantity with
  | whole number => rfl
  | flag on => rfl
  | real number => rfl

theorem Quantity.atMost_iff {quantity : Quantity Rat} {bound : Int} :
    quantity.atMost bound = true ↔ quantity.exact ≤ bound :=
  quantity.means_exact.atMost_iff

theorem Quantity.below_iff {quantity : Quantity Rat} {bound : Int} :
    quantity.below bound = true ↔ quantity.exact < bound := by
  unfold below
  rw [quantity.means_exact, Reading.ofRat]
  by_cases negative : quantity.exact < 0
  · simp [negative]
  · simp [negative]

/-- The budget of a limit is a number of pivots at which the limit is reached. -/
theorem Quantity.atMost_budget (limit : Quantity Rat) : limit.atMost limit.budget = true :=
  limit.means_exact.atMost_budget

/-- A run that stops before a limit is reached has an answer to the question. -/
theorem Outcome.answers_of_lt {settings : Settings Rat} {limit : Quantity Rat} {done bound : Nat}
    {tableau : Tableau Rat} {status : Status} {message : String}
    (outcome : Outcome settings limit done tableau (.stop status message)) (early : done < bound)
    (enough : limit.below bound = false) : status = .optimal ∨ status = .unbounded := by
  cases outcome with
  | optimal missing => exact .inl rfl
  | unbounded column _ entering missing => exact .inr rfl
  | limited column leaving entering row full =>
      rw [Quantity.atMost_iff] at full
      rw [← Bool.not_eq_true, Quantity.below_iff, not_lt] at enough
      have beyond := enough.trans full
      norm_cast at beyond
      exact absurd early (not_lt.mpr beyond)

namespace Problem

variable {problem : Problem Rat} {settings : Settings Rat} {count : Count}

/-- An accepted problem has a starting tableau. -/
theorem exists_startingTableau {α : Type} [Scalar α] {problem : Problem α}
    (valid : problem.validate = .ok count) :
    ∃ start, problem.startingTableau = .ok start ∧ start.cells = problem.startingCells ∧
      start.rowLabels = problem.slackLabels ∧
        start.columnLabels = problem.startingLabels count.toNat ∧
          start.variableCount = count ∧ start.direction = problem.direction := by
  unfold startingTableau
  split
  · rename_i cause rejected
    rw [valid] at rejected
    simp at rejected
  · rename_i found accepted
    rw [valid, Except.ok.injEq] at accepted
    subst accepted
    exact ⟨_, rfl, rfl, rfl, rfl, rfl, rfl⟩

/-- A problem that fails the check has no starting tableau. -/
theorem startingTableau_of_rejected {α : Type} [Scalar α] {problem : Problem α}
    {cause : Rejection} (rejected : problem.validate = .error cause) :
    problem.startingTableau = .error cause := by
  unfold startingTableau
  split
  · rename_i found failed
    rw [rejected] at failed
    cases failed
    rfl
  · rename_i count accepted
    rw [rejected] at accepted
    cases accepted

/-- The starting tableau has the sizes of its problem. -/
theorem sizes_start {α : Type} [Scalar α] {problem : Problem α} {start : Tableau α}
    (valid : problem.validate = .ok count) (built : problem.startingTableau = .ok start) :
    start.variableCount = count ∧ start.constraintCount = problem.constraints.length := by
  obtain ⟨found, same, -, rows, -, number, -⟩ := exists_startingTableau valid
  obtain rfl := Except.ok.inj (built.symm.trans same)
  exact ⟨number, by simp [constraintCount, rows, slackLabels]⟩

/-- The starting tableau continues itself: its rows are labelled by the slack columns. -/
theorem continues_start {α : Type} [Scalar α] {problem : Problem α} {start : Tableau α}
    (built : problem.startingTableau = .ok start) : Continues start start := by
  unfold startingTableau at built
  split at built
  · simp at built
  · rename_i count valid
    obtain rfl := Except.ok.inj built
    refine ⟨rfl, rfl, rfl, rfl, ?_⟩
    intro label member
    change label ∈ (problem.startingLabels count.toNat).dropLast
    rw [startingLabels, List.dropLast_concat]
    exact List.mem_append_right _ member

/-- The limit of a run follows from the sizes of its problem. -/
theorem pivotLimit_start {α : Type} [Scalar α] {problem : Problem α} {start : Tableau α}
    (valid : problem.validate = .ok count) (built : problem.startingTableau = .ok start)
    (settings : Settings α) : pivotLimit settings start =
      settings.limit count.toInt problem.constraints.length := by
  obtain ⟨number, rows⟩ := sizes_start valid built
  rw [pivotLimit, number, rows]

/-- A limit on the number of pivots can always be computed over exact scalars. -/
theorem exists_limit (settings : Settings Rat) (size constraints : Int) :
    ∃ limit, settings.limit size constraints = .ok limit := by
  unfold Settings.limit
  cases settings.maxIterations with
  | some quantity => exact ⟨quantity, rfl⟩
  | none =>
      cases settings.iterationFactor with
      | whole number => exact ⟨_, rfl⟩
      | flag on => exact ⟨_, rfl⟩
      | real number => exact ⟨_, rfl⟩

/-- The tableaux of the run of an accepted problem follow from its starting tableau and
its limit. -/
theorem exists_tableauAt_eq (valid : problem.validate = .ok count) (settings : Settings Rat) :
    ∃ start limit, problem.startingTableau = .ok start ∧
      settings.limit count.toInt problem.constraints.length = .ok limit ∧
        Problem.pivotLimit settings start = .ok limit ∧
          problem.tableauAt settings = reached settings limit start := by
  obtain ⟨start, built, -⟩ := exists_startingTableau valid
  obtain ⟨limit, limited⟩ := exists_limit settings count.toInt problem.constraints.length
  have same := (pivotLimit_start valid built settings).trans limited
  refine ⟨start, limit, built, limited, same, ?_⟩
  funext done
  simp only [tableauAt, built, same]

/-- Every later tableau of a run comes from the one before it by a pivot. -/
theorem exists_pivotStep (valid : problem.validate = .ok count)
    (tolerance : 0 ≤ settings.epsilon) {done : Nat} {next : Tableau Rat}
    (there : problem.tableauAt settings (done + 1) = some next) :
    ∃ tableau leaving column, problem.tableauAt settings done = some tableau ∧
      PivotStep settings tableau next leaving column := by
  obtain ⟨start, limit, -, -, -, same⟩ := exists_tableauAt_eq valid settings
  rw [same] at there ⊢
  obtain ⟨tableau, here, led⟩ := Option.bind_eq_some_iff.mp there
  obtain ⟨choice, made⟩ := advance_eq_some_iff.mp led
  obtain ⟨leaving, column, step, -⟩ := exists_pivotStep_of_nextStep tolerance made
  exact ⟨tableau, leaving, column, here, step⟩

/-- A run that got to a number of pivots got to every smaller number. -/
theorem exists_tableauAt_of_le (valid : problem.validate = .ok count) {done : Nat}
    {last : Tableau Rat} (here : problem.tableauAt settings done = some last) {earlier : Nat}
    (before : earlier ≤ done) : ∃ tableau, problem.tableauAt settings earlier = some tableau := by
  obtain ⟨start, limit, -, -, -, same⟩ := exists_tableauAt_eq valid settings
  rw [same] at here ⊢
  exact exists_reached_of_le here before

/-- **Invariants of a run**: what holds of the starting tableau and is kept by every
pivot of the run holds of every tableau of the run. -/
theorem tableauAt_induction {property : Tableau Rat → Prop} (valid : problem.validate = .ok count)
    (tolerance : 0 ≤ settings.epsilon)
    (start : ∀ tableau, problem.startingTableau = .ok tableau → property tableau)
    (kept : ∀ done tableau next leaving column, problem.tableauAt settings done = some tableau →
      problem.tableauAt settings (done + 1) = some next →
        PivotStep settings tableau next leaving column → property tableau → property next) :
    ∀ done tableau, problem.tableauAt settings done = some tableau → property tableau := by
  obtain ⟨first, limit, built, -, -, same⟩ := exists_tableauAt_eq valid settings
  rw [same] at kept ⊢
  refine reached_induction (start first built) ?_
  intro done tableau choice next here holds made
  obtain ⟨leaving, column, step, -⟩ := exists_pivotStep_of_nextStep tolerance made
  exact kept done tableau next leaving column here (reached_succ here made) step holds

/-- The answer of a solve is read off the trace of its run. -/
theorem solve_eq_atTableau {α : Type} [Scalar α] {problem : Problem α} {settings : Settings α}
    {start : Tableau α} {limit : Quantity α} {result : Trace α}
    (built : problem.startingTableau = .ok start)
    (limited : pivotLimit settings start = .ok limit)
    (traced : trace settings limit limit.budget 0 start = .ok result) :
    problem.solve settings false = Solution.atTableau result.last result.status result.message
      (result.records ++ [finalRecord result.last]) := by
  simp only [solve, Problem.run, built, limited, traced, bind, Except.bind, Run.ofTrace,
    Run.finished, Bool.false_eq_true, if_false]
  cases Solution.atTableau result.last result.status result.message
    (result.records ++ [finalRecord result.last]) with
  | error failure => rfl
  | ok solution => rfl

/-- **A solve of an accepted problem ends** in a tableau of its run, at which the method
stops, and its answer is read off that tableau. -/
theorem solve_ends (valid : problem.validate = .ok count) (tolerance : 0 ≤ settings.epsilon) :
    ∃ limit done last status message history,
      settings.limit count.toInt problem.constraints.length = .ok limit ∧
        problem.tableauAt settings done = some last ∧
          Outcome settings limit done last (.stop status message) ∧
            problem.solve settings false = Solution.atTableau last status message history := by
  obtain ⟨start, limit, built, limited, bounded, same⟩ := exists_tableauAt_eq valid settings
  obtain ⟨result, traced, -, complete⟩ := exists_complete_trace settings start limit.atMost_budget
  refine ⟨limit, result.records.length, result.last, result.status, result.message,
    result.records ++ [finalRecord result.last], limited, same ▸ complete.last,
    outcome_of_nextStep tolerance complete.stops, solve_eq_atTableau built bounded traced⟩

/-! ## What all tableaux of a run share -/

/-- The parts of a tableau that a run does not change. -/
structure Frames (problem : Problem Rat) (count : Count) (tableau : Tableau Rat) : Prop where
  rows : tableau.constraintCount = problem.constraints.length
  columnLabels : tableau.columnLabels = problem.startingLabels count.toNat
  variableCount : tableau.variableCount = count
  direction : tableau.direction = problem.direction

theorem Frames.columnCount_eq {tableau : Tableau Rat} (frames : problem.Frames count tableau) :
    tableau.columnCount = count.toNat + problem.constraints.length + 1 := by
  simp [columnCount, frames.columnLabels, startingLabels, slackLabels, Nat.add_assoc]

theorem Frames.width_eq {tableau : Tableau Rat} (frames : problem.Frames count tableau) :
    tableau.width = count.toNat + problem.constraints.length := by
  rw [width, frames.columnCount_eq, Nat.add_sub_cancel]

theorem frames_start (valid : problem.validate = .ok count) {start : Tableau Rat}
    (built : problem.startingTableau = .ok start) : problem.Frames count start := by
  obtain ⟨found, same, -, rows, labels, number, direction⟩ := exists_startingTableau valid
  rw [built, Except.ok.injEq] at same
  subst same
  exact ⟨by simp [constraintCount, rows, slackLabels], labels, number, direction⟩

/-- **A run changes neither the shape of its tableaux nor their column labels.** -/
theorem frames_tableauAt (valid : problem.validate = .ok count) : ∀ done tableau,
    problem.tableauAt settings done = some tableau → problem.Frames count tableau := by
  intro done tableau here
  obtain ⟨start, limit, built, -, -, same⟩ := exists_tableauAt_eq valid settings
  rw [same] at here
  have frames := frames_start valid built
  have continues := continues_reached (continues_start built) done tableau here
  have direction := direction_reached settings limit start done tableau here
  exact ⟨continues.rows.trans frames.rows, continues.columnLabels.trans frames.columnLabels,
    continues.variableCount.trans frames.variableCount, direction.trans frames.direction⟩

end Problem

end SimplexSolver
