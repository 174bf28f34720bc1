import SimplexSolver.Proofs.FineRuns

/-!
# What an answer means

A solve that ends with the status "optimal" claims that its decision values are the
best ones there are, and a solve that ends with the status "unbounded" that there
are none. This module proves both, over exact scalars and for a tolerance that is
fine for the run.

Both proofs compare the last tableau with the starting tableau, which say the same
of every point of the problem. In an optimal tableau no cell of the objective row
is negative, so no point has a larger objective than the basic solution. In an
unbounded one the entering column has no positive cell, and going along it from the
basic solution never meets a constraint while the objective grows.
-/

set_option autoImplicit false

namespace SimplexSolver

open Tableau

namespace Problem

variable {problem : Problem Rat} {settings : Settings Rat} {count : Count}

theorem toInt_eq_toNat (valid : problem.validate = .ok count) :
    count.toInt = (count.toNat : Int) :=
  (Int.toNat_of_nonneg (parts_of_validate valid).2.1.le).symm

/-- The basic solution of a canonical tableau of a run. -/
theorem Frames.basicSolution_eq (valid : problem.validate = .ok count) {tableau : Tableau Rat}
    (frames : problem.Frames count tableau) (canonical : tableau.Canonical) :
    tableau.basicSolution = .ok {
      decision := (List.range count.toNat).map tableau.basicValue
      slack := (List.range problem.constraints.length).map fun row =>
        tableau.basicValue (count.toNat + row)
      objective := problem.gain (tableau.rightSide tableau.constraintCount) } := by
  have number : tableau.variableCount.toInt = count.toNat := by
    rw [frames.variableCount, toInt_eq_toNat valid]
  have wide : tableau.columnCount = count.toNat + tableau.constraintCount + 1 := by
    rw [frames.columnCount_eq, frames.rows]
  rw [Tableau.basicSolution_eq canonical number wide, gain, ← frames.direction, frames.rows]

/-- **A solve of an accepted problem answers.** Its status is that of the step at which
its run stops, and if the status is optimal its values are the basic solution of the
last tableau. -/
theorem solve_answers (valid : problem.validate = .ok count) (tolerance : 0 ≤ settings.epsilon)
    (canonical : ∀ done tableau, problem.tableauAt settings done = some tableau →
      tableau.Canonical) :
    ∃ solution limit done last message, problem.solve settings false = .ok solution ∧
      settings.limit count.toInt problem.constraints.length = .ok limit ∧
        problem.tableauAt settings done = some last ∧
          Outcome settings limit done last (.stop solution.status message) ∧
            (solution.status = .optimal →
              solution.decision = (List.range count.toNat).map last.basicValue ∧
                solution.slack = ((List.range problem.constraints.length).map fun row =>
                  last.basicValue (count.toNat + row)) ∧
                    solution.objective = problem.gain (last.rightSide last.constraintCount)) := by
  obtain ⟨limit, done, last, status, message, history, limited, here, outcome, answer⟩ :=
    solve_ends valid tolerance
  have frames := frames_tableauAt valid done last here
  by_cases optimal : status = .optimal
  · rw [Solution.atTableau, if_pos optimal,
      frames.basicSolution_eq valid (canonical done last here)] at answer
    exact ⟨_, limit, done, last, message, answer, limited, here, outcome, fun _ => ⟨rfl, rfl, rfl⟩⟩
  · rw [Solution.atTableau, if_neg optimal] at answer
    exact ⟨_, limit, done, last, message, answer, limited, here, outcome,
      fun same => absurd same optimal⟩

/-! ## The last tableau and the problem -/

section Last

variable (valid : problem.validate = .ok count) (tolerance : 0 ≤ settings.epsilon)
  (fine : problem.FineRun settings) {done : Nat} {last : Tableau Rat}
  (here : problem.tableauAt settings done = some last)
include valid tolerance fine here

/-- Values that satisfy a tableau of the run and are not negative are a point of the
problem, and its objective is the opposite of the gap in the objective row. -/
theorem admits_of_last {values : Nat → Rat} (satisfied : last.Satisfies values)
    (nonneg : ∀ column < last.width, 0 ≤ values column) :
    problem.Admits ((List.range count.toNat).map values) ∧
      problem.leftOver ((List.range count.toNat).map values) =
        ((List.range problem.constraints.length).map fun row => values (count.toNat + row)) ∧
      Scalar.dot problem.objective ((List.range count.toNat).map values) =
        problem.gain (-last.gap values last.constraintCount) := by
  obtain ⟨start, built, -⟩ := exists_startingTableau valid
  have keeps := fine.keepsConstraints tolerance
  have solution := (satisfies_tableauAt_iff valid tolerance built keeps values done last here).mp
    satisfied
  have same := gap_objective_tableauAt valid tolerance built keeps (fine.keepsObjective tolerance)
    solution done last here
  have width := (frames_tableauAt valid done last here).width_eq
  refine ⟨admits_of_satisfies valid built solution fun column inside => nonneg column
    (width ▸ inside), leftOver_of_satisfies valid built solution, ?_⟩
  rw [same, dot_objective_of_values valid built]

/-- The basic solution of a tableau of the run is a point of the problem, and its objective is
in the last cell of the objective row. -/
theorem admits_basicValue :
    problem.Admits ((List.range count.toNat).map last.basicValue) ∧
      problem.leftOver ((List.range count.toNat).map last.basicValue) =
        ((List.range problem.constraints.length).map fun row =>
          last.basicValue (count.toNat + row)) ∧
      Scalar.dot problem.objective ((List.range count.toNat).map last.basicValue) =
        problem.gain (last.rightSide last.constraintCount) := by
  have canonical := fine.canonical valid tolerance done last here
  have nonneg := fine.rightSide_nonneg valid tolerance done last here
  obtain ⟨admits, surplus, worth⟩ := admits_of_last valid tolerance fine here
    (satisfies_basicValue canonical) fun column _ => basicValue_nonneg nonneg column
  rw [gap_objective_basicValue canonical, neg_neg] at worth
  exact ⟨admits, surplus, worth⟩

/-- In a tableau without an improving column no cell of the objective row is negative. -/
theorem cost_nonneg_of_optimal
    (missing : last.enteringColumn settings.epsilon settings.rule = none) {column : Nat}
    (inside : column < last.width) : 0 ≤ last.cell last.constraintCount column :=
  nonneg_of_large (fine.epsilon_lt_cell valid tolerance here)
    (cell_of_enteringColumn_eq_none missing inside)

/-- In a tableau without an improving column no point of the problem has a larger
objective than the right-hand side of the objective row. -/
theorem gain_le_of_optimal
    (missing : last.enteringColumn settings.epsilon settings.rule = none) {point : List Rat}
    (admits : problem.Admits point) :
    problem.gain (Scalar.dot problem.objective point) ≤ last.rightSide last.constraintCount := by
  obtain ⟨start, built, -⟩ := exists_startingTableau valid
  have long : point.length = count.toNat := admits.length.trans (lengths_of_validate valid).1
  have same := gap_objective_tableauAt valid tolerance built (fine.keepsConstraints tolerance)
    (fine.keepsObjective tolerance) (satisfies_valuesAt valid built long) done last here
  rw [gap_start_valuesAt valid built long, gap] at same
  have sum : 0 ≤ ∑ column ∈ Finset.range last.width,
      last.cell last.constraintCount column * problem.valuesAt point column :=
    Finset.sum_nonneg fun column inside => mul_nonneg
      (cost_nonneg_of_optimal valid tolerance fine here missing (Finset.mem_range.mp inside))
      (admits.valuesAt_nonneg column)
  linarith

/-- In a tableau with an improving column that no row bounds, the objective grows
without limit along the column. -/
theorem exists_gain_gt_of_unbounded {column : Nat}
    (entering : last.enteringColumn settings.epsilon settings.rule = some column)
    (missing : last.leavingRow settings.epsilon column = none) (bound : Rat) :
    ∃ point, problem.Admits point ∧ bound < problem.gain (Scalar.dot problem.objective point) := by
  have canonical := fine.canonical valid tolerance done last here
  have inside := enteringColumn_lt_width entering
  have improves : last.cell last.constraintCount column < 0 := by
    linarith [cell_of_enteringColumn entering]
  have free := canonical.not_isBasic improves.ne
  have nonneg := fine.rightSide_nonneg valid tolerance done last here
  have blocked : ∀ row < last.constraintCount, last.cell row column ≤ 0 := by
    intro row low
    by_contra positive
    have large := lt_of_large (fine.epsilon_lt_cell valid tolerance here) (not_le.mp positive)
    linarith [cell_of_leavingRow_eq_none tolerance missing low]
  -- Far enough along the column the objective has passed the bound.
  set worth := last.rightSide last.constraintCount
  set cost := last.cell last.constraintCount column
  set amount := |bound - worth| / -cost + 1
  have slope : 0 < -cost := neg_pos.mpr improves
  have forward : 0 ≤ amount := add_nonneg (div_nonneg (abs_nonneg _) slope.le) zero_le_one
  have climbed : amount * -cost = |bound - worth| + -cost := by
    rw [add_mul, div_mul_cancel₀ _ slope.ne', one_mul]
  obtain ⟨admits, -, objective⟩ := admits_of_last valid tolerance fine here
    (satisfies_add_ray canonical inside amount) fun index _ =>
      add_ray_nonneg canonical free nonneg blocked forward index
  refine ⟨_, admits, ?_⟩
  rw [objective, gain_gain, gap_objective_add_ray canonical inside]
  linarith [le_abs_self (bound - worth)]

end Last

/-! ## The two answers -/

/-- A larger gain is a larger objective of a maximisation and a smaller one of a
minimisation. -/
theorem gain_le_gain_iff {first second : Rat} (known : ∀ name, problem.direction ≠ .unknown name) :
    problem.gain first ≤ problem.gain second ↔
      (problem.direction = .maximize → first ≤ second) ∧
        (problem.direction = .minimize → second ≤ first) := by
  unfold gain
  cases direction : problem.direction with
  | maximize => simp
  | minimize => simp
  | unknown name => exact absurd direction (known name)

theorem gain_lt_gain_iff {first second : Rat} (known : ∀ name, problem.direction ≠ .unknown name) :
    problem.gain first < problem.gain second ↔
      (problem.direction = .maximize → first < second) ∧
        (problem.direction = .minimize → second < first) := by
  unfold gain
  cases direction : problem.direction with
  | maximize => simp
  | minimize => simp
  | unknown name => exact absurd direction (known name)

/-- **An optimal answer is an optimum.** If a solve with a fine tolerance ends with the
status "optimal", its decision values are a point of the problem, its slack values
are what the constraints leave over there, its objective value is the objective
there, and no point of the problem has a better objective. -/
theorem solve_finds_optimum (valid : problem.validate = .ok count)
    (tolerance : 0 ≤ settings.epsilon) (fine : problem.FineRun settings) :
    ∃ solution, problem.solve settings false = .ok solution ∧
      (solution.status = .optimal →
        problem.Admits solution.decision ∧
        solution.slack = problem.leftOver solution.decision ∧
        solution.objective = Scalar.dot problem.objective solution.decision ∧
        ∀ point, problem.Admits point →
          (problem.direction = .maximize →
            Scalar.dot problem.objective point ≤
              Scalar.dot problem.objective solution.decision) ∧
          (problem.direction = .minimize →
            Scalar.dot problem.objective solution.decision ≤
              Scalar.dot problem.objective point)) := by
  obtain ⟨solution, limit, done, last, message, answer, -, here, outcome, values⟩ :=
    solve_answers valid tolerance (fine.canonical valid tolerance)
  refine ⟨solution, answer, fun optimal => ?_⟩
  obtain ⟨decision, slack, objective⟩ := values optimal
  obtain ⟨admits, surplus, worth⟩ := admits_basicValue valid tolerance fine here
  rw [decision, slack, objective, surplus, worth]
  refine ⟨admits, rfl, rfl, fun point other => ?_⟩
  rw [← gain_le_gain_iff (parts_of_validate valid).1, gain_gain]
  rw [optimal] at outcome
  cases outcome with
  | optimal missing => exact gain_le_of_optimal valid tolerance fine here missing other

/-- Two products and two limits: `3 x1 + 2 x2` is to become large while `x1 + x2` is at
most four and `x1` at most two. -/
def twoLimits : Problem Rat where
  direction := .maximize
  variableCount := .integer 2
  objective := [3, 2]
  constraints := [⟨[1, 1], .atMost, 4⟩, ⟨[1, 0], .atMost, 2⟩]

theorem validate_twoLimits : twoLimits.validate = .ok (.whole 2) := by rfl

/-- The standard tolerance is fine for this problem. -/
theorem fineRun_twoLimits : twoLimits.FineRun Settings.standard := by
  have ended : (twoLimits.tableauAt Settings.standard 3).isNone := by decide +kernel
  have start : ∀ tableau ∈ twoLimits.tableauAt Settings.standard 0,
      FineCells (Settings.standard : Settings Rat).epsilon tableau.cells := by decide +kernel
  have checked : ∀ done < 3, ∀ tableau ∈ twoLimits.tableauAt Settings.standard done,
      FineTableau Settings.standard tableau := by decide +kernel
  exact fineRun_of_checked validate_twoLimits ended start checked

/-- The optimum that is found for this problem is its optimum. -/
theorem solve_finds_optimum_twoLimits :
    ∃ solution, twoLimits.solve Settings.standard false = .ok solution ∧
      solution.status = .optimal ∧ solution.decision = [2, 2] ∧
        ∀ point, twoLimits.Admits point →
          Scalar.dot twoLimits.objective point ≤ Scalar.dot twoLimits.objective [2, 2] := by
  have reported : (twoLimits.solve Settings.standard false).toOption.map (fun solution =>
      (solution.status, solution.decision)) = some (.optimal, [2, 2]) := by decide +kernel
  obtain ⟨solution, answer, optimum⟩ := solve_finds_optimum validate_twoLimits
    (by decide +kernel) fineRun_twoLimits
  have shown := eq_of_seen answer reported
  obtain ⟨optimal, decision⟩ := Prod.mk.inj shown
  obtain ⟨-, -, -, best⟩ := optimum optimal
  exact ⟨solution, answer, optimal, decision, fun point admits =>
    decision ▸ (best point admits).1 rfl⟩

/-- **An unbounded answer is real.** If a solve with a fine tolerance ends with the
status "unbounded", the problem has points whose objective is better than any given
bound. -/
theorem solve_unbounded_is_real (valid : problem.validate = .ok count)
    (tolerance : 0 ≤ settings.epsilon) (fine : problem.FineRun settings) :
    ∃ solution, problem.solve settings false = .ok solution ∧
      (solution.status = .unbounded → ∀ bound : Rat, ∃ point, problem.Admits point ∧
        (problem.direction = .maximize → bound < Scalar.dot problem.objective point) ∧
        (problem.direction = .minimize → Scalar.dot problem.objective point < bound)) := by
  obtain ⟨solution, limit, done, last, message, answer, -, here, outcome, -⟩ :=
    solve_answers valid tolerance (fine.canonical valid tolerance)
  refine ⟨solution, answer, fun unbounded bound => ?_⟩
  rw [unbounded] at outcome
  cases outcome with
  | unbounded column _ entering missing =>
      obtain ⟨point, admits, beyond⟩ := exists_gain_gt_of_unbounded valid tolerance fine here
        entering missing (problem.gain bound)
      exact ⟨point, admits, (gain_lt_gain_iff (parts_of_validate valid).1).mp beyond⟩

/-- One product and a limit that a second variable lifts: `x1` is to become large while
`x1 - x2` is at most one. -/
def liftedLimit : Problem Rat where
  direction := .maximize
  variableCount := .integer 2
  objective := [1, 0]
  constraints := [⟨[1, -1], .atMost, 1⟩]

/-- The standard tolerance is fine for this problem, and it is unbounded as it is found
to be. -/
theorem solve_unbounded_is_real_liftedLimit :
    ∃ solution, liftedLimit.solve Settings.standard false = .ok solution ∧
      solution.status = .unbounded ∧ ∀ bound : Rat, ∃ point, liftedLimit.Admits point ∧
        bound < Scalar.dot liftedLimit.objective point := by
  have valid : liftedLimit.validate = .ok (.whole 2) := by rfl
  have ended : (liftedLimit.tableauAt Settings.standard 2).isNone := by decide +kernel
  have start : ∀ tableau ∈ liftedLimit.tableauAt Settings.standard 0,
      FineCells (Settings.standard : Settings Rat).epsilon tableau.cells := by decide +kernel
  have checked : ∀ done < 2, ∀ tableau ∈ liftedLimit.tableauAt Settings.standard done,
      FineTableau Settings.standard tableau := by decide +kernel
  have reported : (liftedLimit.solve Settings.standard false).toOption.map (·.status) =
      some .unbounded := by decide +kernel
  obtain ⟨solution, answer, grows⟩ := solve_unbounded_is_real valid (by decide +kernel)
    (fineRun_of_checked valid ended start checked)
  have unbounded := eq_of_seen answer reported
  refine ⟨solution, answer, unbounded, fun bound => ?_⟩
  obtain ⟨point, admits, beyond, -⟩ := grows unbounded bound
  exact ⟨point, admits, beyond rfl⟩

end Problem

end SimplexSolver
