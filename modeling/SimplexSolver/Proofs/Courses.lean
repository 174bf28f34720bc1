import SimplexSolver.Proofs.Histories

/-!
# The course of a solve, whatever the arithmetic

Every row of a tableau of a run is labelled by a column before the last, whatever its
cells are. The values of such a tableau can therefore always be read off
(`Continues.exists_atTableau`).

A limit that stands for a number is reached (`Quantity.Means`), and then the budget of
the recursion never decides: the trace of the run is complete. `Lone` collects what there
is to know of a solve with which nothing interferes, and every accepted problem with such
a limit has one (`exists_lone`).
-/

set_option autoImplicit false

namespace SimplexSolver

open Tableau

variable {α : Type} [Scalar α]

/-! ## Values that can be read off -/

/-- The starting tableau has a column for each variable, for each constraint, and for the
right-hand sides. -/
theorem Problem.exists_size {problem : Problem α} {start : Tableau α}
    (built : problem.startingTableau = .ok start) :
    ∃ size : Nat, start.variableCount.toInt = size ∧
      start.columnCount = size + start.constraintCount + 1 := by
  unfold startingTableau at built
  split at built
  · simp at built
  · rename_i count valid
    obtain rfl := Except.ok.inj built
    refine ⟨count.toNat, (Int.toNat_of_nonneg (parts_of_validate valid).2.1.le).symm, ?_⟩
    simp [columnCount, constraintCount, startingLabels, slackLabels, Nat.add_assoc]

namespace Continues

variable {start tableau : Tableau α} {size : Nat} (continues : Continues start tableau)
  (number : start.variableCount.toInt = size)
  (wide : start.columnCount = size + start.constraintCount + 1)
include continues

/-- The limit is the same in all tableaux of a run. -/
theorem pivotLimit_eq (settings : Settings α) :
    Problem.pivotLimit settings tableau = Problem.pivotLimit settings start := by
  rw [Problem.pivotLimit, Problem.pivotLimit, continues.variableCount, continues.rows]

include number wide

/-- The basic solution of a tableau of a run can be read off, whatever its cells
are, and it has a value for each variable. -/
theorem exists_basicSolution : ∃ values, tableau.basicSolution = .ok values ∧
    values.decision.length = size ∧ values.slack.length = start.constraintCount := by
  have rows := continues.rows
  rw [← continues.variableCount] at number
  rw [← continues.rows, columnCount, ← continues.columnLabels] at wide
  change tableau.columnCount = _ at wide
  have places : ∀ pair ∈ tableau.rowLabels.zip
      ((List.range tableau.constraintCount).map tableau.rightSide),
      pair.1 ∈ tableau.columnLabels ∧ tableau.columnLabels.idxOf pair.1 <
        (List.replicate size (0 : α)).length +
          (List.replicate tableau.constraintCount (0 : α)).length := by
    intro pair member
    have found := continues.named pair.1 (List.of_mem_zip member).1
    rw [← continues.columnLabels] at found
    have short := List.succ_idxOf_lt_length_of_mem_dropLast found
    change _ < tableau.columnCount at short
    rw [List.length_replicate, List.length_replicate]
    exact ⟨List.mem_of_mem_dropLast found, by omega⟩
  obtain ⟨⟨decision, slack⟩, assigned, first, second, -⟩ := assignAll_eq _
    (List.replicate size 0, List.replicate tableau.constraintCount 0) (by simpa using number) places
  rw [List.length_replicate] at first second
  exact ⟨_, basicSolution_of_assignAll number wide assigned, first, second.trans rows⟩

/-- **A run that ends in this tableau has an answer.** -/
theorem exists_atTableau (status : Status) (message : String) (history : List (Record α)) :
    ∃ solution, Solution.atTableau tableau status message history = .ok solution := by
  obtain ⟨values, read, -⟩ := continues.exists_basicSolution number wide
  unfold Solution.atTableau
  split
  · exact ⟨_, by rw [read]; rfl⟩
  · exact ⟨_, rfl⟩

end Continues

/-! ## Solves with which nothing interferes -/

/-- A solve with nothing in between but its own steps, from the starting tableau to the
answer. -/
structure Lone (problem : Problem α) (settings : Settings α) where
  start : Tableau α
  limit : Quantity α
  result : Trace α
  solution : Solution α
  built : problem.startingTableau = .ok start
  limited : Problem.pivotLimit settings start = .ok limit
  traced : trace settings limit limit.budget 0 start = .ok result
  complete : result.Complete settings limit start
  within : result.records.length ≤ limit.budget
  answer : Solution.atTableau result.last result.status result.message
    (result.records ++ [finalRecord result.last]) = .ok solution

namespace Lone

variable {problem : Problem α} {settings : Settings α} (lone : Lone problem settings)

/-- The number of pivots. -/
def total : Nat := lone.result.records.length

/-- The tableau after a number of pivots. -/
def tableauAt (done : Nat) : Option (Tableau α) := reached settings lone.limit lone.start done

/-- All records: one for every pivot, and the final one. -/
def records : List (Record α) := lone.result.records ++ [finalRecord lone.result.last]

theorem length_records : lone.records.length = lone.total + 1 := by
  simp [records, total]

/-- The records before the final one are those of the trace. -/
theorem getElem?_records_of_lt {index : Nat} (before : index < lone.total) :
    lone.records[index]? = lone.result.records[index]? :=
  List.getElem?_append_left before

theorem getElem?_records_total :
    lone.records[lone.total]? = some (finalRecord lone.result.last) := by
  simp [records, total]

theorem take_total : lone.result.records.take lone.total = lone.result.records :=
  List.take_of_length_le le_rfl

theorem exists_tableauAt {done : Nat} (inside : done ≤ lone.total) :
    ∃ tableau, lone.tableauAt done = some tableau :=
  exists_reached_of_le lone.complete.last inside

/-- These are the tableaux of the problem. -/
theorem tableauAt_eq (done : Nat) : problem.tableauAt settings done = lone.tableauAt done := by
  simp only [Problem.tableauAt, lone.built, lone.limited, tableauAt]

theorem tableauAt_total : lone.tableauAt lone.total = some lone.result.last :=
  lone.complete.last

section Tableau

variable {lone} {done : Nat} {tableau : Tableau α} (here : lone.tableauAt done = some tableau)
include here

/-- A tableau of the solve continues the first one. -/
theorem continues : Continues lone.start tableau :=
  continues_reached (Problem.continues_start lone.built) done tableau here

/-- The limit of the solve is the one in each of its tableaux. -/
theorem pivotLimit_eq : Problem.pivotLimit settings tableau = .ok lone.limit :=
  ((continues here).pivotLimit_eq settings).trans lone.limited

/-- A run that ends in one of these tableaux has an answer. -/
theorem exists_atTableau (status : Status) (message : String) (history : List (Record α)) :
    ∃ answer, Solution.atTableau tableau status message history = .ok answer := by
  obtain ⟨size, number, wide⟩ := Problem.exists_size lone.built
  exact (continues here).exists_atTableau number wide status message history

/-- The step in a tableau of the solve is the next recorded pivot, or it stops in the
last tableau. -/
theorem step_cases (inside : done ≤ lone.total) :
    (∃ choice next, nextStep settings lone.limit done tableau = .ok (.pivot choice next) ∧
      lone.result.records[done]? = some (pivotRecord tableau choice) ∧
        lone.tableauAt (done + 1) = some next ∧ done < lone.total) ∨
      done = lone.total ∧ tableau = lone.result.last ∧
        nextStep settings lone.limit done tableau =
          .ok (.stop lone.result.status lone.result.message) := by
  rcases inside.lt_or_eq with before | rfl
  · obtain ⟨found, choice, next, there, made, same⟩ :=
      lone.complete.pivots done _ (List.getElem?_eq_getElem before)
    obtain rfl := Option.some.inj (here.symm.trans there)
    exact .inl ⟨choice, next, made, same ▸ List.getElem?_eq_getElem before,
      reached_succ here made, before⟩
  · obtain rfl := Option.some.inj (here.symm.trans lone.tableauAt_total)
    exact .inr ⟨rfl, rfl, lone.complete.stops⟩

end Tableau

/-! ### The answer -/

/-- The whole run of the solve. -/
theorem run_eq : problem.run settings false =
    .ok ⟨.terminated, some lone.result.last, lone.records, lone.total, some lone.solution⟩ := by
  simp only [Problem.run, lone.built, lone.limited, lone.traced, bind, Except.bind, Run.ofTrace,
    Run.finished, lone.answer, pure, Except.pure, Bool.false_eq_true, if_false]
  rfl

theorem solve_eq : problem.solve settings false = .ok lone.solution :=
  (Problem.solve_eq_atTableau lone.built lone.limited lone.traced).trans lone.answer

theorem history_eq : lone.solution.history = lone.records :=
  (Solution.parts_of_atTableau lone.answer).2.2.1

theorem status_eq : lone.solution.status = lone.result.status :=
  (Solution.parts_of_atTableau lone.answer).1

theorem message_eq : lone.solution.message = lone.result.message :=
  (Solution.parts_of_atTableau lone.answer).2.1

/-- The values are those of the basic solution if an optimum was found, and zeros otherwise. -/
theorem values_cases :
    (lone.result.status = .optimal ∧ lone.result.last.basicSolution =
        .ok ⟨lone.solution.decision, lone.solution.slack, lone.solution.objective⟩) ∨
      lone.result.status ≠ .optimal ∧
        lone.solution.decision = List.replicate lone.start.variableCount.toNat 0 ∧
          lone.solution.slack = List.replicate lone.start.constraintCount 0 ∧
            lone.solution.objective = 0 := by
  by_cases optimal : lone.result.status = .optimal
  · exact .inl ⟨optimal, (Solution.parts_of_atTableau lone.answer).2.2.2 optimal⟩
  · have answer := lone.answer
    have continues := continues lone.tableauAt_total
    rw [Solution.atTableau, if_neg optimal, Except.ok.injEq, continues.variableCount,
      continues.rows] at answer
    rw [← answer]
    exact .inr ⟨optimal, rfl, rfl, rfl⟩

/-- There is a value for each variable. -/
theorem length_values : lone.solution.decision.length = lone.start.variableCount.toNat ∧
    lone.solution.slack.length = lone.start.constraintCount := by
  obtain ⟨-, read⟩ | ⟨-, decision, slack, -⟩ := lone.values_cases
  · obtain ⟨size, number, wide⟩ := Problem.exists_size lone.built
    obtain ⟨values, again, first, second⟩ :=
      (continues lone.tableauAt_total).exists_basicSolution number wide
    obtain rfl := Except.ok.inj (read.symm.trans again)
    rw [Count.toNat, number, Int.toNat_natCast]
    exact ⟨first, second⟩
  · rw [decision, slack]
    exact ⟨List.length_replicate, List.length_replicate⟩

/-- All records but the final one hold a pivot. -/
theorem isSome_choice {record : Record α} (member : record ∈ lone.result.records) :
    record.choice.isSome := by
  obtain ⟨index, here⟩ := List.getElem?_of_mem member
  obtain ⟨_, _, _, -, -, rfl⟩ := lone.complete.pivots index record here
  rfl

/-- The records with a pivot are those of the trace. -/
theorem filter_history :
    lone.solution.history.filter (·.choice.isSome) = lone.result.records := by
  rw [lone.history_eq, records, List.filter_append, List.filter_eq_self.mpr fun record member =>
    lone.isSome_choice member]
  simp [finalRecord]

theorem iterations_eq : lone.solution.iterations = lone.total := by
  rw [Solution.iterations, List.countP_eq_length_filter, lone.filter_history, total]

end Lone

/-- **Every accepted problem has a solve of its own**, if its limit stands for a number. -/
theorem Problem.exists_lone {problem : Problem α} {settings : Settings α} {count : Count}
    {limit : Quantity α} {number : Rat} (valid : problem.validate = .ok count)
    (limited : settings.limit count.toInt problem.constraints.length = .ok limit)
    (means : limit.Means number) : ∃ lone : Lone problem settings, lone.limit = limit := by
  obtain ⟨start, built, -⟩ := exists_startingTableau valid
  have bounded := (pivotLimit_start valid built settings).trans limited
  obtain ⟨result, traced, within, complete⟩ :=
    exists_complete_trace settings start means.atMost_budget
  obtain ⟨size, sized, wide⟩ := exists_size built
  have continues := continues_reached (continues_start built) _ _ complete.last
  obtain ⟨solution, answer⟩ := continues.exists_atTableau sized wide result.status result.message
    (result.records ++ [finalRecord result.last])
  exact ⟨⟨start, limit, result, solution, built, bounded, traced, complete, within, answer⟩, rfl⟩

end SimplexSolver
