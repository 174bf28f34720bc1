import SimplexSolver.Proofs.Answers

/-!
# The history of a solve

The answer of a solve carries its history: a record for every pivot, and one more of
the tableau in which the run stopped. This module ties the history to the run. The
record with the number `index` holds the tableau after `index` pivots, apart from the
mark on its pivot cell (`exists_tableauAt_of_history`), and the pivot it holds leads to
the tableau of the next record (`exists_pivot_of_history`). Neither depends on the
arithmetic, so both are stated for any scalar; over exact scalars the pivot of a record
is a `PivotStep`, and the last record holds the tableau of the answer
(`final_of_solve`).

What is true of all tableaux of a run is therefore true of every record. The main
result says this of feasibility: with a fine tolerance every record shows a point of the
problem, and the objective does not get worse from one record to the next.
-/

set_option autoImplicit false

namespace SimplexSolver

open Tableau

/-! ## Marks -/

section Marks

variable {α : Type}

/-- Giving variables their values looks at the column labels and the number of decision
variables only. -/
theorem Tableau.assignAll_congr {left right : Tableau α}
    (labels : left.columnLabels = right.columnLabels)
    (number : left.variableCount = right.variableCount) (pairs : List (String × α))
    (values : List α × List α) : left.assignAll values pairs = right.assignAll values pairs := by
  induction pairs generalizing values with
  | nil => rfl
  | cons pair rest ih =>
      unfold assignAll
      rw [assign, assign, labels, number]
      exact bind_congr fun changed => ih changed

/-- The basic solution does not depend on the mark. -/
theorem Tableau.basicSolution_withMark [Scalar α] (tableau : Tableau α)
    (mark : Option (Int × Int)) :
    (tableau.withMark mark).basicSolution = tableau.basicSolution := by
  have same : ∀ pairs values, (tableau.withMark mark).assignAll values pairs =
      tableau.assignAll values pairs := assignAll_congr rfl rfl
  unfold basicSolution
  refine bind_congr fun bounds => ?_
  exact congrArg (· >>= _) (same _ _)

end Marks

/-! ## Answers read off a tableau -/

/-- The parts of an answer that was read off a tableau. -/
theorem Solution.parts_of_atTableau {α : Type} [Scalar α] {tableau : Tableau α} {status : Status}
    {message : String} {history : List (Record α)} {solution : Solution α}
    (answer : Solution.atTableau tableau status message history = .ok solution) :
    solution.status = status ∧ solution.message = message ∧ solution.history = history ∧
      (status = .optimal → tableau.basicSolution =
        .ok ⟨solution.decision, solution.slack, solution.objective⟩) := by
  unfold atTableau at answer
  by_cases optimal : status = .optimal
  · rw [if_pos optimal] at answer
    obtain ⟨found, values, same⟩ := exists_of_bind_eq_ok answer
    obtain rfl := Except.ok.inj same
    exact ⟨rfl, rfl, rfl, fun _ => values⟩
  · rw [if_neg optimal, Except.ok.injEq] at answer
    rw [← answer]
    exact ⟨rfl, rfl, rfl, fun same => absurd same optimal⟩

/-! ## The history of an answer -/

namespace Problem

section History

variable {α : Type} [Scalar α] {problem : Problem α} {settings : Settings α} {start : Tableau α}
  {solution : Solution α} (built : problem.startingTableau = .ok start)
  (answer : problem.solve settings false = .ok solution)
include built answer

/-- A solve with an answer has a trace, which the answer is read off. -/
theorem exists_trace_of_solve :
    ∃ limit result, pivotLimit settings start = .ok limit ∧
      trace settings limit limit.budget 0 start = .ok result ∧
        Solution.atTableau result.last result.status result.message
          (result.records ++ [finalRecord result.last]) = .ok solution := by
  cases limited : pivotLimit settings start with
  | error failure =>
      simp only [solve, Problem.run, built, limited, bind, Except.bind] at answer
      cases answer
  | ok limit =>
      obtain ⟨result, traced, -⟩ := exists_trace settings limit limit.budget 0 start
      have read := (solve_eq_atTableau built limited traced).symm.trans answer
      exact ⟨limit, result, rfl, traced, read⟩

/-- The records of a history: one for every pivot of the run, and one of the tableau
these pivots lead to. -/
theorem records_of_solve :
    ∃ limit records last, pivotLimit settings start = .ok limit ∧
      solution.history = records ++ [finalRecord last] ∧
        problem.tableauAt settings records.length = some last ∧
          ∀ index record, records[index]? = some record → ∃ tableau choice next,
            problem.tableauAt settings index = some tableau ∧
              problem.tableauAt settings (index + 1) = some next ∧
                nextStep settings limit index tableau = .ok (.pivot choice next) ∧
                  record = pivotRecord tableau choice := by
  obtain ⟨limit, result, limited, traced, read⟩ := exists_trace_of_solve built answer
  obtain ⟨-, -, history, -⟩ := Solution.parts_of_atTableau read
  obtain ⟨recorded, last⟩ := trace_records limit.budget 0 start result rfl traced
  have same : problem.tableauAt settings = reached settings limit start := by
    funext done
    simp only [tableauAt, built, limited]
  rw [Nat.zero_add] at last
  refine ⟨limit, result.records, result.last, limited, history, same ▸ last, ?_⟩
  intro index record found
  obtain ⟨tableau, choice, next, here, step, rfl⟩ := recorded index record found
  rw [Nat.zero_add] at here step
  exact ⟨tableau, choice, next, same ▸ here, same ▸ reached_succ here step, step, rfl⟩

/-- **The record with a number holds the tableau after that many pivots**, apart from its
mark. -/
theorem exists_tableauAt_of_history {index : Nat} {record : Record α}
    (here : solution.history[index]? = some record) :
    ∃ tableau mark, problem.tableauAt settings index = some tableau ∧
      record.tableau = tableau.withMark mark := by
  obtain ⟨limit, records, last, -, history, ended, recorded⟩ := records_of_solve built answer
  rw [history, List.getElem?_append] at here
  split at here
  · obtain ⟨tableau, choice, next, found, -, -, rfl⟩ := recorded index record here
    exact ⟨tableau, _, found, rfl⟩
  · rename_i beyond
    obtain ⟨inside, rfl⟩ := List.getElem?_eq_some_iff.mp here
    have only : index = records.length := by
      rw [List.length_singleton] at inside
      omega
    exact ⟨last, last.mark, only ▸ ended, by simp [finalRecord, withMark]⟩

/-- **A record that is followed by another one holds the pivot that leads to it.** -/
theorem exists_pivot_of_history {index : Nat} {first second : Record α}
    (here : solution.history[index]? = some first)
    (there : solution.history[index + 1]? = some second) :
    ∃ limit tableau choice next mark, pivotLimit settings start = .ok limit ∧
      problem.tableauAt settings index = some tableau ∧
        problem.tableauAt settings (index + 1) = some next ∧
          nextStep settings limit index tableau = .ok (.pivot choice next) ∧
            first = pivotRecord tableau choice ∧ second.tableau = next.withMark mark := by
  obtain ⟨limit, records, last, limited, history, -, recorded⟩ := records_of_solve built answer
  obtain ⟨reached, mark, at_next, shown⟩ := exists_tableauAt_of_history built answer there
  have inside : index < records.length := by
    have within := (List.getElem?_eq_some_iff.mp there).1
    rw [history, List.length_append, List.length_singleton] at within
    omega
  rw [history, List.getElem?_append_left inside] at here
  obtain ⟨tableau, choice, next, found, later, step, same⟩ := recorded index first here
  rw [at_next, Option.some.injEq] at later
  exact ⟨limit, tableau, choice, next, mark, limited, found, later ▸ at_next, step, same,
    later ▸ shown⟩

/-- Every record holds a tableau of the run, apart from its mark. -/
theorem exists_tableauAt_of_mem_history {record : Record α} (member : record ∈ solution.history) :
    ∃ done tableau mark, problem.tableauAt settings done = some tableau ∧
      record.tableau = tableau.withMark mark := by
  obtain ⟨index, here⟩ := List.getElem?_of_mem member
  exact ⟨index, exists_tableauAt_of_history built answer here⟩

end History

/-! ## Histories over exact scalars -/

section Exact

variable {problem : Problem Rat} {settings : Settings Rat} {count : Count}
  {solution : Solution Rat} (valid : problem.validate = .ok count)
  (tolerance : 0 ≤ settings.epsilon) (answer : problem.solve settings false = .ok solution)
include valid tolerance answer

/-- The pivot from a record to the next one. -/
theorem exists_pivotStep_of_history {index : Nat} {first second : Record Rat}
    (here : solution.history[index]? = some first)
    (there : solution.history[index + 1]? = some second) :
    ∃ tableau next leaving column mark other, problem.tableauAt settings index = some tableau ∧
      problem.tableauAt settings (index + 1) = some next ∧
        PivotStep settings tableau next leaving column ∧
          first = ⟨tableau.withMark mark,
            some ⟨some column, some leaving, some (tableau.cell leaving column)⟩⟩ ∧
            second.tableau = next.withMark other := by
  obtain ⟨start, built, -⟩ := exists_startingTableau valid
  obtain ⟨limit, tableau, choice, next, mark, -, found, later, made, rfl, shown⟩ :=
    exists_pivot_of_history built answer here there
  obtain ⟨leaving, column, step, rfl⟩ := exists_pivotStep_of_nextStep tolerance made
  exact ⟨tableau, next, leaving, column, _, mark, found, later, step, rfl, shown⟩

/-- **The last record of a history holds the tableau in which the run stopped**, and the
values of an optimal answer are its basic solution. -/
theorem final_of_solve :
    ∃ limit done last, problem.tableauAt settings done = some last ∧
      Outcome settings limit done last (.stop solution.status solution.message) ∧
        solution.finalTableau? = some last ∧
          (solution.status = .optimal → last.basicSolution =
            .ok ⟨solution.decision, solution.slack, solution.objective⟩) := by
  obtain ⟨start, built, -⟩ := exists_startingTableau valid
  obtain ⟨limit, result, limited, traced, read⟩ := exists_trace_of_solve built answer
  obtain ⟨status, message, history, values⟩ := Solution.parts_of_atTableau read
  obtain ⟨_, again, -, complete⟩ := exists_complete_trace settings start limit.atMost_budget
  obtain rfl := Except.ok.inj (traced.symm.trans again)
  rw [status, message]
  refine ⟨limit, result.records.length, result.last, ?_,
    outcome_of_nextStep tolerance complete.stops, ?_, values⟩
  · simpa only [tableauAt, built, limited] using complete.last
  · simp [Solution.finalTableau?, history, finalRecord]

end Exact

/-! ## Feasible points, record by record -/

/-- Values that fit a problem: none of them is negative, each constraint holds as an
equation with its slack variable, and the objective is that of the decision variables. -/
structure Fits (problem : Problem Rat) (values : BasicSolution Rat) : Prop where
  length : values.decision.length = problem.objective.length
  decision_nonneg : ∀ value ∈ values.decision, 0 ≤ value
  slack_nonneg : ∀ value ∈ values.slack, 0 ≤ value
  equations : List.Forall₂ (fun constraint slack =>
    Scalar.dot constraint.coefficients values.decision + slack = constraint.bound)
      problem.constraints values.slack
  objective : values.objective = Scalar.dot problem.objective values.decision

section Feasible

variable {problem : Problem Rat} {settings : Settings Rat} {count : Count}
  (valid : problem.validate = .ok count) (tolerance : 0 ≤ settings.epsilon)
  (fine : problem.FineRun settings)
include valid tolerance fine

/-- The basic solution of every tableau of a run with a fine tolerance fits the
problem. -/
theorem FineRun.fits_basicSolution : ∀ done tableau,
    problem.tableauAt settings done = some tableau →
      ∃ values, tableau.basicSolution = .ok values ∧ problem.Fits values := by
  intro done tableau here
  have canonical := fine.canonical valid tolerance done tableau here
  have nonneg := fine.rightSide_nonneg valid tolerance done tableau here
  obtain ⟨admits, surplus, worth⟩ := admits_basicValue valid tolerance fine here
  refine ⟨_, (frames_tableauAt valid done tableau here).basicSolution_eq valid canonical,
    admits.length, admits.nonneg, ?_, ?_, worth.symm⟩
  · simp only [List.forall_mem_map]
    exact fun row _ => basicValue_nonneg nonneg (count.toNat + row)
  · simp only [← surplus, leftOver, List.forall₂_map_right_iff, List.forall₂_same]
    exact fun constraint _ => add_sub_cancel _ _

end Feasible

/-- **Every record of a history shows a feasible point, and the objective never gets
worse.** With a fine tolerance the right-hand sides of the constraint rows of every
record are not negative, and its basic solution fits the problem. The last cell of the
objective row of a record is at most that of the next record, and the two are equal
exactly if the right-hand side of the row that leaves between them is zero. -/
theorem history_feasible_improving {problem : Problem Rat} {settings : Settings Rat}
    {count : Count} (valid : problem.validate = .ok count) (tolerance : 0 ≤ settings.epsilon)
    (fine : problem.FineRun settings) :
    ∃ solution, problem.solve settings false = .ok solution ∧
      (∀ record ∈ solution.history,
        (∀ row < record.tableau.constraintCount, 0 ≤ record.tableau.rightSide row) ∧
          ∃ values, record.tableau.basicSolution = .ok values ∧ problem.Fits values) ∧
      ∀ index first second, solution.history[index]? = some first →
        solution.history[index + 1]? = some second →
          ∃ choice, first.choice = some choice ∧
            ∃ leaving : Nat, choice.leaving = some (leaving : Int) ∧
              leaving < first.tableau.constraintCount ∧
              first.tableau.rightSide first.tableau.constraintCount ≤
                second.tableau.rightSide second.tableau.constraintCount ∧
              (first.tableau.rightSide first.tableau.constraintCount =
                second.tableau.rightSide second.tableau.constraintCount ↔
                  first.tableau.rightSide leaving = 0) := by
  obtain ⟨start, built, -⟩ := exists_startingTableau valid
  obtain ⟨solution, _, _, _, _, answer, -⟩ :=
    solve_answers valid tolerance (fine.canonical valid tolerance)
  refine ⟨solution, answer, ?_, ?_⟩
  · intro record member
    obtain ⟨done, tableau, mark, here, shown⟩ :=
      exists_tableauAt_of_mem_history built answer member
    rw [shown, basicSolution_withMark]
    exact ⟨fine.rightSide_nonneg valid tolerance done tableau here,
      fine.fits_basicSolution valid tolerance done tableau here⟩
  · intro index first second here there
    obtain ⟨tableau, next, leaving, column, mark, other, found, later, step, rfl, shown⟩ :=
      exists_pivotStep_of_history valid tolerance answer here there
    have low := step.leaving_lt tolerance
    have grows := step.rightSide_objective_le tolerance
      (fine.exactRow tolerance found later step _)
      (fine.rightSide_nonneg valid tolerance index tableau found leaving low)
    rw [shown]
    exact ⟨_, rfl, leaving, rfl, low, grows⟩

/-- A minimisation whose first pivot is made at a right-hand side of zero and does not
leave the corner it starts from. -/
def heldCorner : Problem Rat where
  direction := .minimize
  variableCount := .integer 2
  objective := [-1, -1]
  constraints := [⟨[1, -1], .atMost, 0⟩, ⟨[1, 0], .atMost, 2⟩, ⟨[0, 1], .atMost, 3⟩]

theorem validate_heldCorner : heldCorner.validate = .ok (.whole 2) := by rfl

/-- The standard tolerance is fine for this problem. -/
theorem fineRun_heldCorner : heldCorner.FineRun Settings.standard := by
  have ended : (heldCorner.tableauAt Settings.standard 4).isNone := by decide +kernel
  have start : ∀ tableau ∈ heldCorner.tableauAt Settings.standard 0,
      FineCells (Settings.standard : Settings Rat).epsilon tableau.cells := by decide +kernel
  have checked : ∀ done < 4, ∀ tableau ∈ heldCorner.tableauAt Settings.standard done,
      FineTableau Settings.standard tableau := by decide +kernel
  exact fineRun_of_checked validate_heldCorner ended start checked

/-- The objective of this problem stays the same in its first pivot and grows in the two
others, and all four records show feasible points. -/
theorem history_feasible_improving_heldCorner :
    ∃ solution, heldCorner.solve Settings.standard false = .ok solution ∧
      (solution.history.map fun record =>
        record.tableau.rightSide record.tableau.constraintCount) = [0, 0, 4, 5] ∧
      ∀ record ∈ solution.history,
        ∃ values, record.tableau.basicSolution = .ok values ∧ heldCorner.Fits values := by
  have reported : (heldCorner.solve Settings.standard false).toOption.map (fun solution =>
      solution.history.map fun record =>
        record.tableau.rightSide record.tableau.constraintCount) = some [0, 0, 4, 5] := by
    decide +kernel
  obtain ⟨solution, answer, feasible, -⟩ := history_feasible_improving validate_heldCorner
    (by decide +kernel) fineRun_heldCorner
  have shown := eq_of_seen answer reported
  exact ⟨solution, answer, shown, fun record member => (feasible record member).2⟩

end Problem

end SimplexSolver
