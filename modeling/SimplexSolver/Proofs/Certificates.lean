import SimplexSolver.Proofs.Multipliers

/-!
# The certificate in the last objective row

Take the cells of the objective row of an optimal tableau under the slack variables as
prices of the constraints. They are not negative, at these prices no decision variable
is worth more than the constraints it uses up, and the right-hand sides of the
constraints are worth exactly the objective that was reported. So the prices are a
solution of the dual problem with the same objective, and complementary slackness ties
them to the answer variable by variable (`Certifies`).

The prices are the multipliers of the objective row, so the first two properties say
that no cell of that row is negative, which is why the run stopped, and the third is its
right-hand side. A basic variable has a zero in the objective row and every other
variable has the value zero, so the product of the two always vanishes
(`basicValue_mul_cost`). For a slack variable the product is price times slack, for a
decision variable it is value times what the variable loses at these prices.
-/

set_option autoImplicit false

namespace SimplexSolver

open Tableau

/-- **A variable has the value zero or the cost zero.** -/
theorem Tableau.Canonical.basicValue_mul_cost {tableau : Tableau Rat}
    (canonical : tableau.Canonical) (column : Nat) :
    tableau.basicValue column * tableau.cell tableau.constraintCount column = 0 := by
  by_cases basic : tableau.IsBasic column
  · obtain ⟨row, inside, rfl⟩ := basic
    rw [canonical.unit row inside _ le_rfl, if_neg inside.ne', mul_zero]
  · rw [basicValue, spread_of_not_isBasic _ basic, zero_mul]

namespace Problem

/-- Prices of the constraints that certify an answer: they are feasible for the dual
problem, their worth is the objective of the answer in the maximisation form, and a
variable of the answer is positive only where nothing is lost on it. -/
structure Certifies (problem : Problem Rat) (count : Count)
    (prices : Fin problem.constraints.length → Rat) (solution : Solution Rat) : Prop where
  nonneg : ∀ index, 0 ≤ prices index
  covers : ∀ column < count.toNat,
    problem.gain (problem.objective.getD column 0) ≤ problem.combinedCoefficient prices column
  worth : problem.combinedBound prices = problem.gain solution.objective
  slack_length : solution.slack.length = problem.constraints.length
  slack : ∀ index : Fin problem.constraints.length,
    prices index * solution.slack.getD index 0 = 0
  decision_length : solution.decision.length = count.toNat
  decision : ∀ column < count.toNat, solution.decision.getD column 0 *
    (problem.combinedCoefficient prices column -
      problem.gain (problem.objective.getD column 0)) = 0

variable {problem : Problem Rat} {settings : Settings Rat} {count : Count}

/-- The multipliers of the objective row of a tableau without an improving column certify
the basic solution of that tableau. -/
theorem certifies_of_optimal (valid : problem.validate = .ok count)
    (tolerance : 0 ≤ settings.epsilon) (fine : problem.FineRun settings) {done : Nat}
    {last : Tableau Rat} (here : problem.tableauAt settings done = some last)
    (missing : last.enteringColumn settings.epsilon settings.rule = none)
    {solution : Solution Rat} (values : last.basicSolution =
      .ok ⟨solution.decision, solution.slack, solution.objective⟩) :
    problem.Certifies count (problem.multipliers count last problem.constraints.length)
      solution := by
  have frames := frames_tableauAt valid done last here
  have canonical := fine.canonical valid tolerance done last here
  have multiplies := fine.slackMultiplies valid tolerance done last here
  have costs : ∀ column < count.toNat + problem.constraints.length,
      0 ≤ last.cell problem.constraints.length column := by
    intro column inside
    rw [← frames.rows]
    exact cost_nonneg_of_optimal valid tolerance fine here missing (frames.width_eq ▸ inside)
  have vanishes : ∀ column,
      last.basicValue column * last.cell problem.constraints.length column = 0 := by
    intro column
    rw [← frames.rows]
    exact canonical.basicValue_mul_cost column
  rw [frames.basicSolution_eq valid canonical, Except.ok.injEq, BasicSolution.mk.injEq] at values
  obtain ⟨decision, slack, objective⟩ := values
  refine ⟨?_, ?_, ?_, ?_, ?_, ?_, ?_⟩
  · intro index
    exact costs _ (Nat.add_lt_add_left index.isLt _)
  · intro column inside
    have cost := costs column (Nat.lt_add_right _ inside)
    rw [multiplies.cost column inside] at cost
    exact sub_nonneg.mp cost
  · rw [← multiplies.worth, ← objective, gain_gain, frames.rows]
  · rw [← slack, List.length_map, List.length_range]
  · intro index
    rw [← slack, getD_map_range index.isLt, mul_comm]
    exact vanishes _
  · rw [← decision, List.length_map, List.length_range]
  · intro column inside
    rw [← decision, getD_map_range inside, ← multiplies.cost column inside]
    exact vanishes column

/-- **The last objective row certifies an optimal answer.** If a solve with a fine tolerance
ends with the status "optimal", the cells of the objective row of its last tableau under
the slack variables are prices that certify the answer. -/
theorem solve_optimum_certified (valid : problem.validate = .ok count)
    (tolerance : 0 ≤ settings.epsilon) (fine : problem.FineRun settings) :
    ∃ solution, problem.solve settings false = .ok solution ∧
      (solution.status = .optimal → ∃ last, solution.finalTableau? = some last ∧
        problem.Certifies count (fun index => last.cell last.constraintCount (count.toNat + index))
          solution) := by
  obtain ⟨solution, _, _, _, _, answer, -⟩ :=
    solve_answers valid tolerance (fine.canonical valid tolerance)
  refine ⟨solution, answer, fun optimal => ?_⟩
  obtain ⟨limit, done, last, here, outcome, final, values⟩ :=
    final_of_solve valid tolerance answer
  have rows := (frames_tableauAt valid done last here).rows
  rw [optimal] at outcome
  generalize solution.message = message at outcome
  refine ⟨last, final, ?_⟩
  rw [rows]
  cases outcome with
  | optimal missing =>
      exact certifies_of_optimal valid tolerance fine here missing (values optimal)

/-- The prices found for this problem are zero for its first constraint and one for the two
others, and they certify its minimum. -/
theorem solve_optimum_certified_heldCorner :
    ∃ solution last, heldCorner.solve Settings.standard false = .ok solution ∧
      solution.status = .optimal ∧ solution.objective = -5 ∧
        solution.finalTableau? = some last ∧
          [last.cell 3 2, last.cell 3 3, last.cell 3 4] = [0, 1, 1] ∧
            heldCorner.Certifies (.whole 2)
              (fun index => last.cell last.constraintCount (2 + index)) solution := by
  have reported : (heldCorner.solve Settings.standard false).toOption.map (fun solution =>
      (solution.status, solution.objective, solution.finalTableau?.map fun last =>
        [last.cell 3 2, last.cell 3 3, last.cell 3 4])) =
          some (.optimal, -5, some [0, 1, 1]) := by decide +kernel
  obtain ⟨solution, answer, certified⟩ := solve_optimum_certified validate_heldCorner
    (by decide +kernel) fineRun_heldCorner
  have shown := eq_of_seen answer reported
  obtain ⟨optimal, rest⟩ := Prod.mk.inj shown
  obtain ⟨objective, prices⟩ := Prod.mk.inj rest
  obtain ⟨last, final, certifies⟩ := certified optimal
  rw [final, Option.map_some, Option.some.injEq] at prices
  exact ⟨solution, last, answer, optimal, objective, final, prices, certifies⟩

end Problem

end SimplexSolver
