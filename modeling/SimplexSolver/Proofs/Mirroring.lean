import SimplexSolver.Proofs.Finiteness

/-!
# Minimising mirrors maximising

A minimisation is solved as the maximisation of the negated objective. There are two places
where the direction of a problem is looked at: the objective row of the starting tableau, and
the objective that is read off the last tableau. In between the direction is carried along and
decides nothing (`nextStep_towards`, `trace_towards`).

Minimising an objective and maximising its negative give the same objective row, because
negating a number twice gives the number back, and adding zero removes the sign of a zero in
both (`startingObjective_neg`). So the two runs go through the same tableaux. At the end the
sign of the last cell of the objective row is changed for one of them. The cell is finite, so
the two objectives are opposite numbers (`Solution.exists_mirror`).

All this needs of the scalars are the laws of signs, which exact scalars and doubles obey.
-/

set_option autoImplicit false

namespace SimplexSolver

open Tableau

variable {α : Type}

attribute [ext] Tableau

/-! ## The same with another direction -/

/-- The tableau with another direction. -/
def Tableau.towards (direction : Direction) (tableau : Tableau α) : Tableau α :=
  { tableau with direction }

/-- The record with another direction. -/
def Record.towards (direction : Direction) (record : Record α) : Record α :=
  { record with tableau := record.tableau.towards direction }

/-- The step with another direction of the tableau it leads to. -/
def Step.towards (direction : Direction) : Step α → Step α
  | .pivot choice next => .pivot choice (next.towards direction)
  | .stop status message => .stop status message

/-- The trace with another direction of all its tableaux. -/
def Trace.towards (direction : Direction) (result : Trace α) : Trace α where
  records := result.records.map (·.towards direction)
  last := result.last.towards direction
  status := result.status
  message := result.message

variable [Scalar α]

namespace Tableau

omit [Scalar α] in
theorem cells_towards (direction : Direction) (tableau : Tableau α) :
    (tableau.towards direction).cells = tableau.cells :=
  rfl

theorem cell_towards (direction : Direction) (tableau : Tableau α) (row column : Nat) :
    (tableau.towards direction).cell row column = tableau.cell row column :=
  rfl

theorem choosePivot_towards (direction : Direction) (tableau : Tableau α) (epsilon : α)
    (rule : PivotRule) : (tableau.towards direction).choosePivot epsilon rule =
      tableau.choosePivot epsilon rule :=
  rfl

/-- A pivot inside a tableau carries the direction along. -/
theorem pivot_towards (direction : Direction) (tableau : Tableau α) (epsilon : α)
    (value : Option α) {leaving column : Nat} (low : leaving < tableau.constraintCount)
    (within : column < tableau.columnCount) :
    (tableau.towards direction).pivot ⟨some column, some leaving, value⟩ epsilon =
      (tableau.pivot ⟨some column, some leaving, value⟩ epsilon).map (towards direction) := by
  obtain ⟨inside, result⟩ := tableau.pivot_eq epsilon value low within
  obtain ⟨inner, mirrored⟩ := (tableau.towards direction).pivot_eq epsilon value low within
  rw [result, mirrored, cells_towards, cell_towards]
  split
  · rfl
  · split
    · rfl
    · rfl

end Tableau

/-- **A step carries the direction along**, and nothing else depends on it. -/
theorem nextStep_towards (direction : Direction) (settings : Settings α) (limit : Quantity α)
    (done : Nat) (tableau : Tableau α) :
    nextStep settings limit done (tableau.towards direction) =
      (nextStep settings limit done tableau).map (Step.towards direction) := by
  have same := tableau.choosePivot_towards direction settings.epsilon settings.rule
  obtain chosen | ⟨column, within, chosen⟩ | ⟨column, leaving, within, low, chosen⟩ :=
    tableau.choosePivot_cases settings.epsilon settings.rule
  · simp only [nextStep, same, chosen]
    rfl
  · have known : column < tableau.columnLabels.length := within.trans_le (Nat.sub_le _ _)
    have labels : (tableau.towards direction).columnLabels = tableau.columnLabels := rfl
    simp only [nextStep, same, chosen, labels, itemAt_natCast known]
    rfl
  · have pivoted := tableau.pivot_towards direction settings.epsilon
      (some (tableau.cell leaving column)) low (within.trans_le (Nat.sub_le _ _))
    simp only [nextStep, same, chosen, pivoted]
    split
    · rfl
    · cases tableau.pivot ⟨some column, some leaving, some (tableau.cell leaving column)⟩
        settings.epsilon with
      | ok next => rfl
      | error failure => cases failure <;> rfl

/-- **So does a whole sequence of steps.** -/
theorem trace_towards (direction : Direction) (settings : Settings α) (limit : Quantity α)
    (budget done : Nat) (tableau : Tableau α) :
    trace settings limit budget done (tableau.towards direction) =
      (trace settings limit budget done tableau).map (Trace.towards direction) := by
  induction budget generalizing done tableau with
  | zero =>
      unfold trace
      rw [nextStep_towards]
      obtain ⟨step, made, -⟩ := nextStep_decided settings limit done tableau
      rw [made]
      cases step with
      | stop status message => rfl
      | pivot choice next => rfl
  | succ budget ih =>
      unfold trace
      rw [nextStep_towards]
      obtain ⟨step, made, -⟩ := nextStep_decided settings limit done tableau
      rw [made]
      cases step with
      | stop status message => rfl
      | pivot choice next =>
          simp only [Except.map, Step.towards, bind, Except.bind, ih]
          cases trace settings limit budget (done + 1) next with
          | error failure => rfl
          | ok later => rfl

/-- The starting tableau has the direction of its problem. -/
theorem Problem.direction_start {problem : Problem α} {count : Count} {start : Tableau α}
    (valid : problem.validate = .ok count) (built : problem.startingTableau = .ok start) :
    start.direction = problem.direction := by
  obtain ⟨found, same, -, -, -, -, direction⟩ := exists_startingTableau valid
  obtain rfl := Except.ok.inj (same.symm.trans built)
  exact direction

/-- The direction is the same in all records of a run. -/
theorem direction_of_trace {settings : Settings α} {limit : Quantity α} {budget : Nat}
    {start : Tableau α} {result : Trace α}
    (traced : trace settings limit budget 0 start = .ok result) :
    ∀ record ∈ result.records ++ [finalRecord result.last],
      record.tableau.direction = start.direction := by
  have directions := direction_reached settings limit start
  obtain ⟨pivots, last⟩ := trace_records budget 0 start result rfl traced
  intro record member
  rcases List.mem_append.mp member with among | ended
  · obtain ⟨index, here⟩ := List.getElem?_of_mem among
    obtain ⟨tableau, choice, next, there, -, rfl⟩ := pivots index record here
    exact directions _ tableau there
  · rw [List.mem_singleton.mp ended]
    exact directions _ _ last

/-! ## Answers -/

/-- Without a limit there is no answer. -/
theorem Problem.solve_of_unlimited {problem : Problem α} {settings : Settings α} {count : Count}
    {failure : Failure} (valid : problem.validate = .ok count)
    (unlimited : settings.limit count.toInt problem.constraints.length = .error failure) :
    problem.solve settings false = .error failure := by
  obtain ⟨start, built, -⟩ := exists_startingTableau valid
  have bounded := (pivotLimit_start valid built settings).trans unlimited
  simp only [solve, Problem.run, built, bounded, bind, Except.bind]

/-- Two answers that mirror each other, the first to a minimisation and the second to a
maximisation. The records differ in nothing but the direction, and each objective is the
negative of the other. -/
structure Solution.Mirrors (least most : Solution α) : Prop where
  status_eq : most.status = least.status
  message_eq : most.message = least.message
  decision_eq : most.decision = least.decision
  slack_eq : most.slack = least.slack
  history_eq : most.history = least.history.map (·.towards .maximize)
  directed : ∀ record ∈ least.history, record.tableau.direction = .minimize
  opposed : Scalar.same most.objective (-least.objective) = true

namespace Tableau

omit [Scalar α] in
theorem mem_of_lastCell {row : List α} {last : α} (found : lastCell row = .ok last) :
    last ∈ row := by
  unfold lastCell at found
  split at found
  · rename_i cell ended
    obtain rfl := Except.ok.inj found
    exact List.mem_of_getLast? ended
  · cases found

theorem FiniteCells.objectiveRow {tableau : Tableau α} (finite : tableau.FiniteCells) :
    ∀ cell ∈ tableau.objectiveRow, Scalar.isFinite cell = true := by
  have low : tableau.constraintCount < tableau.cells.length := by
    rw [length_cells]
    exact Nat.lt_succ_self _
  rw [objectiveRow_eq, List.getD_eq_getElem _ _ low]
  exact finite _ (List.getElem_mem low)

/-- The direction decides the sign of the objective and nothing else in a basic
solution. -/
theorem exists_basicSolution_towards {tableau : Tableau α} {values : BasicSolution α}
    (read : tableau.basicSolution = .ok values) :
    ∃ last ∈ tableau.objectiveRow, ∀ direction, (tableau.towards direction).basicSolution =
      .ok { values with objective := (if direction = .maximize then last else -last) + 0 } := by
  have same : ∀ direction pairs values, (tableau.towards direction).assignAll values pairs =
      tableau.assignAll values pairs := fun direction => assignAll_congr rfl rfl
  unfold basicSolution at read
  obtain ⟨bounds, bounded, read⟩ := exists_of_bind_eq_ok read
  obtain ⟨assigned, filled, read⟩ := exists_of_bind_eq_ok read
  obtain ⟨last, ended, read⟩ := exists_of_bind_eq_ok read
  obtain rfl := Except.ok.inj read
  refine ⟨last, mem_of_lastCell ended, fun direction => ?_⟩
  have assigns := (same direction _ _).trans filled
  exact bind_eq_ok bounded (bind_eq_ok assigns (bind_eq_ok ended rfl))

end Tableau

section Signed

variable [Scalar.Signed α]

open Scalar.Signed

/-- **The answer at a tableau has a mirror image.** -/
theorem Solution.exists_mirror {tableau : Tableau α} {status : Status} {message : String}
    {history : List (Record α)} {least : Solution α} (finite : tableau.FiniteCells)
    (directed : tableau.direction = .minimize)
    (all : ∀ record ∈ history, record.tableau.direction = .minimize)
    (answer : Solution.atTableau tableau status message history = .ok least) :
    ∃ most, Solution.atTableau (tableau.towards .maximize) status message
        (history.map (·.towards .maximize)) = .ok most ∧ least.Mirrors most := by
  unfold atTableau at answer ⊢
  by_cases optimal : status = .optimal
  · rw [if_pos optimal] at answer ⊢
    obtain ⟨values, read, answer⟩ := exists_of_bind_eq_ok answer
    obtain rfl := Except.ok.inj answer
    obtain ⟨last, member, known⟩ := exists_basicSolution_towards read
    have own : values.objective = opposite last := by
      have again := read.symm.trans (known tableau.direction)
      rw [directed, if_neg (by simp), Except.ok.injEq] at again
      exact congrArg BasicSolution.objective again
    refine ⟨_, bind_eq_ok (known .maximize) rfl, rfl, rfl, rfl, rfl, rfl, all, ?_⟩
    rw [own]
    exact same_neg_opposite (finite.objectiveRow last member)
  · rw [if_neg optimal] at answer ⊢
    obtain rfl := Except.ok.inj answer
    exact ⟨_, rfl, rfl, rfl, rfl, rfl, rfl, all, same_neg_zero⟩

/-! ## Problems -/

theorem allFinite_map_neg (values : List α) :
    allFinite (values.map Neg.neg) = allFinite values := by
  simp only [allFinite, List.all_map, Function.comp_def, isFinite_neg]

/-- Negating the objective and maximising gives the objective row of minimising. -/
theorem startingObjective_neg (total : Nat) (objective : List α) :
    startingObjective .maximize total (objective.map Neg.neg) =
      startingObjective .minimize total objective := by
  simp only [startingObjective, List.map_map, Function.comp_def, opposite,
    Scalar.Signed.neg_neg, if_true, reduceCtorEq, if_false]

namespace Problem

/-- The problem of making the objective small. -/
def minimized (problem : Problem α) : Problem α := { problem with direction := .minimize }

/-- The problem of making the negated objective large. -/
def mirrored (problem : Problem α) : Problem α :=
  { problem with direction := .maximize, objective := problem.objective.map Neg.neg }

/-- The check treats both problems alike. -/
theorem validate_mirrored (problem : Problem α) :
    problem.mirrored.validate = problem.minimized.validate := by
  simp only [validate, mirrored, minimized, positiveCount?, List.length_map, allFinite_map_neg]
  rfl

/-- The starting tableaux differ in nothing but the direction. -/
theorem startingTableau_mirrored {problem : Problem α} {count : Count} {start : Tableau α}
    (valid : problem.minimized.validate = .ok count)
    (built : problem.minimized.startingTableau = .ok start) :
    problem.mirrored.startingTableau = .ok (start.towards .maximize) := by
  obtain ⟨first, same, cells, rows, columns, number, -⟩ := exists_startingTableau valid
  obtain rfl := Except.ok.inj (same.symm.trans built)
  obtain ⟨second, found, cells', rows', columns', number', direction'⟩ :=
    exists_startingTableau (problem.validate_mirrored.trans valid)
  rw [found]
  congr 1
  apply Tableau.ext
  · rw [cells', cells_towards, cells, startingCells, startingCells]
    simp only [mirrored, minimized, startingObjective_neg]
  · exact rows'.trans rows.symm
  · exact columns'.trans columns.symm
  · exact number'.trans number.symm
  · exact direction'
  · exact (continues_start found).unmarked.trans (continues_start built).unmarked.symm

/-- **Both problems have answers that mirror each other**, once they have starting tableaux. -/
theorem exists_mirrors {problem : Problem α} {settings : Settings α} {count : Count}
    {start : Tableau α} {limit : Quantity α} (valid : problem.minimized.validate = .ok count)
    (built : problem.minimized.startingTableau = .ok start)
    (limited : pivotLimit settings start = .ok limit) :
    ∃ least most, problem.minimized.solve settings false = .ok least ∧
      problem.mirrored.solve settings false = .ok most ∧ least.Mirrors most := by
  have built' := startingTableau_mirrored valid built
  obtain ⟨result, traced, -⟩ := exists_trace settings limit limit.budget 0 start
  have traced' : trace settings limit limit.budget 0 (start.towards .maximize) =
      .ok (result.towards .maximize) := by
    rw [trace_towards, traced]
    rfl
  -- the answer to the minimisation, read off a tableau with finite cells
  obtain ⟨-, last⟩ := trace_records limit.budget 0 start result rfl traced
  have finite := finiteCells_reached (finiteCells_start built) _ _ last
  obtain ⟨size, number, wide⟩ := exists_size built
  obtain ⟨least, answer⟩ := (continues_reached (continues_start built) _ _ last).exists_atTableau
    number wide result.status result.message (result.records ++ [finalRecord result.last])
  -- its mirror image is the answer to the maximisation
  have directed := direction_of_trace traced
  rw [direction_start valid built] at directed
  obtain ⟨most, image, mirrors⟩ := Solution.exists_mirror finite
    (directed (finalRecord result.last) (by simp)) directed answer
  rw [List.map_append] at image
  exact ⟨least, most, (solve_eq_atTableau built limited traced).trans answer,
    (solve_eq_atTableau built' limited traced').trans image, mirrors⟩

/-- **Minimising mirrors maximising.** Let one problem ask to make an objective small, and the
other to make the negated objective large, under the same constraints and with the same
settings. If one is rejected, so is the other, for the same cause. If the limit cannot be
computed, both fail alike. Otherwise both are answered, with the same status, message and values
of the variables. Their histories have the same choices and the same tableaux, cell by cell and
label by label, apart from the direction, and the objective of one is the negative of the
objective of the other. -/
theorem minimizing_mirrors_maximizing (problem : Problem α) (settings : Settings α) :
    problem.mirrored.validate = problem.minimized.validate ∧
      (∀ cause, problem.minimized.validate = .error cause →
        problem.minimized.solve settings false = .ok (Solution.rejected cause) ∧
          problem.mirrored.solve settings false = .ok (Solution.rejected cause)) ∧
      (∀ count failure, problem.minimized.validate = .ok count →
        settings.limit count.toInt problem.constraints.length = .error failure →
          problem.minimized.solve settings false = .error failure ∧
            problem.mirrored.solve settings false = .error failure) ∧
      ∀ count limit, problem.minimized.validate = .ok count →
        settings.limit count.toInt problem.constraints.length = .ok limit →
          ∃ least most, problem.minimized.solve settings false = .ok least ∧
            problem.mirrored.solve settings false = .ok most ∧ least.Mirrors most := by
  have checks := problem.validate_mirrored
  refine ⟨checks, ?_, ?_, ?_⟩
  · intro cause rejected
    exact ⟨solve_of_rejected rejected settings, solve_of_rejected (checks.trans rejected) settings⟩
  · intro count failure valid unlimited
    exact ⟨solve_of_unlimited valid unlimited, solve_of_unlimited (checks.trans valid) unlimited⟩
  · intro count limit valid limited
    obtain ⟨start, built, -⟩ := exists_startingTableau valid
    apply exists_mirrors valid built
    exact (pivotLimit_start valid built settings).trans limited

end Problem

end Signed

namespace Problem

/-- A problem whose objective has a zero and whose optimum is found in two pivots. -/
def fallingSums : Problem Float where
  direction := .minimize
  variableCount := .integer 3
  objective := [-1.0, -2.5, 0.0]
  constraints := [⟨[1.0, 1.0, 1.0], .atMost, 4.0⟩, ⟨[0.0, 1.0, 0.0], .atMost, 3.0⟩]

theorem minimizing_mirrors_maximizing_fallingSums :
    ∃ least most, fallingSums.minimized.solve Settings.standard false = .ok least ∧
      fallingSums.mirrored.solve Settings.standard false = .ok most ∧ least.Mirrors most ∧
        least.status = .optimal ∧ most.status = .optimal ∧ most.history.length = 3 := by
  have valid : fallingSums.minimized.validate = .ok (.whole 3) := by decide +kernel
  obtain ⟨-, -, -, accepted⟩ := minimizing_mirrors_maximizing fallingSums Settings.standard
  obtain ⟨least, most, first, second, mirrors⟩ := accepted _ _ valid rfl
  have seen : (fallingSums.mirrored.solve Settings.standard false).toOption.map
      (fun solution => (solution.status, solution.history.length)) = some (.optimal, 3) := by
    decide +kernel
  have shown := eq_of_seen second seen
  obtain ⟨optimal, length⟩ := Prod.mk.inj shown
  exact ⟨least, most, first, second, mirrors, mirrors.status_eq ▸ optimal, optimal, length⟩

end Problem

end SimplexSolver
