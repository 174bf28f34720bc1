import Mathlib.LinearAlgebra.Matrix.NonsingularInverse
import SimplexSolver.Proofs.Histories

/-!
# The multipliers of a tableau

A pivot combines rows, so every row of a tableau of a run is a combination of the
constraint rows the run began with; the objective row is such a combination added to
the first objective row. The multipliers of these combinations need not be recorded.
In the starting tableau the columns of the slack variables form a unit matrix, so a
combination of its rows has its own multipliers in these columns. In every tableau of a
run they can be read off there (`SlackMultiplies`).

The proof does not go through the pivots again. A run keeps the points of the problem:
at each of them the constraint rows hold, and the objective row has the gap it began
with. At a point the slack variables are what the constraints leave over, which makes
the gap of a row an affine function of the decision variables (`gap_valuesAt`), whose
coefficients are the differences between the cells of the row and the combination its
slack cells give. An affine function that is known at all points has known coefficients
(`coefficients_of_gap`).

The square block of slack columns is invertible. Its inverse holds the columns of the
starting tableau that belong to the basic variables, because the columns of these are
unit vectors by now (`isUnit_slackBlock`).
-/

set_option autoImplicit false

namespace SimplexSolver

open Tableau

namespace Problem

variable {problem : Problem Rat} {settings : Settings Rat} {count : Count}

/-! ## Combinations of the constraints -/

/-- The coefficient of a decision variable in a combination of the constraints. -/
def combinedCoefficient (problem : Problem Rat) (weights : Fin problem.constraints.length → Rat)
    (column : Nat) : Rat :=
  ∑ index, weights index * problem.constraints[index].coefficients.getD column 0

/-- The right-hand side of a combination of the constraints. -/
def combinedBound (problem : Problem Rat) (weights : Fin problem.constraints.length → Rat) : Rat :=
  ∑ index, weights index * problem.constraints[index].bound

/-- The cells of a row in the columns of the slack variables. -/
def multipliers (problem : Problem Rat) (count : Count) (tableau : Tableau Rat) (row : Nat) :
    Fin problem.constraints.length → Rat :=
  fun index => tableau.cell row (count.toNat + index)

/-- The slack columns of a tableau hold the multipliers of its rows: a constraint row is
the combination of the constraints that its slack cells give, and the objective row is
such a combination less the objective of the maximisation form. -/
structure SlackMultiplies (problem : Problem Rat) (count : Count) (tableau : Tableau Rat) :
    Prop where
  cell : ∀ row < problem.constraints.length, ∀ column < count.toNat,
    tableau.cell row column =
      problem.combinedCoefficient (problem.multipliers count tableau row) column
  rightSide : ∀ row < problem.constraints.length,
    tableau.rightSide row = problem.combinedBound (problem.multipliers count tableau row)
  cost : ∀ column < count.toNat, tableau.cell problem.constraints.length column =
    problem.combinedCoefficient
      (problem.multipliers count tableau problem.constraints.length) column -
        problem.gain (problem.objective.getD column 0)
  worth : tableau.rightSide problem.constraints.length =
    problem.combinedBound (problem.multipliers count tableau problem.constraints.length)

/-! ## The gap of a row as a function of the decision variables -/

/-- What a combination of the constraints leaves over at a point. -/
theorem sum_mul_valuesAt_slack (valid : problem.validate = .ok count) {point : List Rat}
    (long : point.length = count.toNat) (weights : Fin problem.constraints.length → Rat) :
    ∑ index, weights index * problem.valuesAt point (count.toNat + index) =
      problem.combinedBound weights - ∑ column ∈ Finset.range count.toNat,
        problem.combinedCoefficient weights column * point.getD column 0 := by
  have leaves : ∀ index : Fin problem.constraints.length,
      problem.valuesAt point (count.toNat + index) = problem.constraints[index].bound -
        ∑ column ∈ Finset.range count.toNat,
          problem.constraints[index].coefficients.getD column 0 * point.getD column 0 := by
    intro index
    have coefficients := (lengths_of_validate valid).2 _ (List.getElem_mem index.isLt)
    rw [← long, valuesAt_slack index.isLt, dot_eq_sum (coefficients.trans long.symm), coefficients,
      long]
    rfl
  simp only [leaves, mul_sub, Finset.sum_sub_distrib, combinedBound, combinedCoefficient,
    Finset.sum_mul, Finset.mul_sum]
  rw [Finset.sum_comm]
  simp only [mul_assoc]

/-- **The gap of a row at a point of the problem**, as an affine function of the decision
variables. -/
theorem gap_valuesAt (valid : problem.validate = .ok count) {tableau : Tableau Rat}
    (frames : problem.Frames count tableau) {point : List Rat}
    (long : point.length = count.toNat) (row : Nat) :
    tableau.gap (problem.valuesAt point) row =
      ∑ column ∈ Finset.range count.toNat, (tableau.cell row column -
        problem.combinedCoefficient (problem.multipliers count tableau row) column) *
          point.getD column 0 -
        (tableau.rightSide row -
          problem.combinedBound (problem.multipliers count tableau row)) := by
  have decisions : ∑ column ∈ Finset.range count.toNat,
      tableau.cell row column * problem.valuesAt point column =
        ∑ column ∈ Finset.range count.toNat, tableau.cell row column * point.getD column 0 :=
    Finset.sum_congr rfl fun column inside => by
      rw [valuesAt_decision (long ▸ Finset.mem_range.mp inside)]
  have slacks : ∑ index : Fin problem.constraints.length,
      tableau.cell row (count.toNat + index) * problem.valuesAt point (count.toNat + index) =
        problem.combinedBound (problem.multipliers count tableau row) -
          ∑ column ∈ Finset.range count.toNat, problem.combinedCoefficient
            (problem.multipliers count tableau row) column * point.getD column 0 :=
    sum_mul_valuesAt_slack valid long (problem.multipliers count tableau row)
  rw [gap, frames.width_eq, Finset.sum_range_add, decisions,
    Finset.sum_range fun index => tableau.cell row (count.toNat + index) *
      problem.valuesAt point (count.toNat + index), slacks]
  simp only [sub_mul, Finset.sum_sub_distrib]
  ring

/-- The values of a unit point pick one coefficient. -/
theorem sum_mul_unitRow {size column : Nat} (inside : column < size) (weights : Nat → Rat) :
    ∑ index ∈ Finset.range size, weights index * (unitRow size column : List Rat).getD index 0 =
      weights column := by
  rw [Finset.sum_eq_single column]
  · rw [getD_unitRow inside, if_pos rfl, mul_one]
  · intro index within different
    rw [getD_unitRow (Finset.mem_range.mp within), if_neg different, mul_zero]
  · exact fun outside => absurd (Finset.mem_range.mpr inside) outside

/-- **A row whose gap is linear in the decision variables at all points** differs from the
combination its slack cells give by the coefficients of the gap. -/
theorem coefficients_of_gap (valid : problem.validate = .ok count) {tableau : Tableau Rat}
    (frames : problem.Frames count tableau) {row : Nat} (costs : Nat → Rat)
    (linear : ∀ point : List Rat, point.length = count.toNat →
      tableau.gap (problem.valuesAt point) row =
        -∑ column ∈ Finset.range count.toNat, costs column * point.getD column 0) :
    tableau.rightSide row = problem.combinedBound (problem.multipliers count tableau row) ∧
      ∀ column < count.toNat, tableau.cell row column =
        problem.combinedCoefficient (problem.multipliers count tableau row) column -
          costs column := by
  have constant : tableau.rightSide row =
      problem.combinedBound (problem.multipliers count tableau row) := by
    have origin := linear (List.replicate count.toNat 0) List.length_replicate
    rw [gap_valuesAt valid frames List.length_replicate] at origin
    simp only [getD_zeros, mul_zero, Finset.sum_const_zero] at origin
    linarith
  refine ⟨constant, fun column inside => ?_⟩
  have unit := linear (unitRow count.toNat column) (length_unitRow _ _)
  rw [gap_valuesAt valid frames (length_unitRow _ _), sum_mul_unitRow inside,
    sum_mul_unitRow inside] at unit
  linarith

/-! ## The multipliers of a run -/

/-- The objective of the maximisation form, variable by variable. -/
theorem gain_dot_objective (valid : problem.validate = .ok count) {point : List Rat}
    (long : point.length = count.toNat) :
    problem.gain (Scalar.dot problem.objective point) =
      ∑ column ∈ Finset.range count.toNat,
        problem.gain (problem.objective.getD column 0) * point.getD column 0 := by
  have coefficients := (lengths_of_validate valid).1
  rw [dot_eq_sum (coefficients.trans long.symm), coefficients]
  unfold gain
  split
  · rfl
  · simp only [neg_mul, Finset.sum_neg_distrib]

/-- **In every tableau of a run with a fine tolerance the slack columns hold the
multipliers.** -/
theorem FineRun.slackMultiplies (valid : problem.validate = .ok count)
    (tolerance : 0 ≤ settings.epsilon) (fine : problem.FineRun settings) : ∀ done tableau,
      problem.tableauAt settings done = some tableau → problem.SlackMultiplies count tableau := by
  intro done tableau here
  obtain ⟨start, built, -⟩ := exists_startingTableau valid
  have keeps := fine.keepsConstraints tolerance
  have frames := frames_tableauAt valid done tableau here
  have constraints : ∀ row < problem.constraints.length, ∀ point : List Rat,
      point.length = count.toNat → tableau.gap (problem.valuesAt point) row =
        -∑ column ∈ Finset.range count.toNat, 0 * point.getD column 0 := by
    intro row inside point long
    have kept := (satisfies_tableauAt_iff valid tolerance built keeps _ done tableau here).mpr
      (satisfies_valuesAt valid built long) row (frames.rows ▸ inside)
    simpa using kept
  have objective : ∀ point : List Rat, point.length = count.toNat →
      tableau.gap (problem.valuesAt point) problem.constraints.length =
        -∑ column ∈ Finset.range count.toNat,
          problem.gain (problem.objective.getD column 0) * point.getD column 0 := by
    intro point long
    rw [← frames.rows, ← gain_dot_objective valid long, ← gap_start_valuesAt valid built long]
    exact gap_objective_tableauAt valid tolerance built keeps (fine.keepsObjective tolerance)
      (satisfies_valuesAt valid built long) done tableau here
  obtain ⟨worth, cost⟩ := coefficients_of_gap valid frames
    (fun column => problem.gain (problem.objective.getD column 0)) objective
  refine ⟨?_, ?_, cost, worth⟩
  · intro row inside column within
    obtain ⟨-, sums⟩ := coefficients_of_gap valid frames (fun _ => 0) (constraints row inside)
    rw [sums column within, sub_zero]
  · intro row inside
    obtain ⟨sum, -⟩ := coefficients_of_gap valid frames (fun _ => 0) (constraints row inside)
    exact sum

/-! ## The slack block -/

/-- The cells of the constraint rows in the columns of the slack variables. -/
def slackBlock (problem : Problem Rat) (count : Count) (tableau : Tableau Rat) :
    Matrix (Fin problem.constraints.length) (Fin problem.constraints.length) Rat :=
  Matrix.of fun row => problem.multipliers count tableau row

section Block

variable {start tableau : Tableau Rat} (valid : problem.validate = .ok count)
  (built : problem.startingTableau = .ok start) (frames : problem.Frames count tableau)
  (multiplies : problem.SlackMultiplies count tableau)
include valid built multiplies

/-- Every column of the constraint rows, slack columns included, is the slack block times
the column of the starting tableau. -/
theorem SlackMultiplies.cell_eq_sum {row column : Nat} (inside : row < problem.constraints.length)
    (within : column < count.toNat + problem.constraints.length) :
    tableau.cell row column = ∑ index : Fin problem.constraints.length,
      problem.multipliers count tableau row index * start.cell index column := by
  rcases Nat.lt_or_ge column count.toNat with decision | slack
  · rw [multiplies.cell row inside column decision, combinedCoefficient]
    refine Finset.sum_congr rfl fun index _ => ?_
    rw [cell_start_decision valid built index.isLt decision]
    rfl
  · obtain ⟨own, rfl⟩ := Nat.exists_eq_add_of_le slack
    have low : own < problem.constraints.length := Nat.lt_of_add_lt_add_left within
    rw [Finset.sum_eq_single (⟨own, low⟩ : Fin problem.constraints.length)]
    · rw [cell_start_slack valid built low low, if_pos rfl, mul_one]
      rfl
    · intro index _ different
      have apart : own ≠ index := fun same => different (Fin.ext same.symm)
      rw [cell_start_slack valid built index.isLt low, if_neg apart, mul_zero]
    · exact fun outside => absurd (Finset.mem_univ _) outside

include frames

/-- **The slack block is invertible.** Its inverse holds the columns of the basic variables
in the starting tableau. -/
theorem SlackMultiplies.isUnit_slackBlock (canonical : tableau.Canonical) :
    IsUnit (problem.slackBlock count tableau) := by
  refine IsUnit.of_mul_eq_one (Matrix.of fun index row : Fin problem.constraints.length =>
    start.cell index (tableau.basicColumn row)) ?_
  ext row other
  have low : other < tableau.constraintCount := other.isLt.trans_eq frames.rows.symm
  have within : tableau.basicColumn other < count.toNat + problem.constraints.length :=
    frames.width_eq ▸ canonical.inside other low
  have unit := canonical.unit other low row (row.isLt.le.trans_eq frames.rows.symm)
  rw [multiplies.cell_eq_sum valid built row.isLt within] at unit
  rw [Matrix.mul_apply, Matrix.one_apply]
  simpa [Fin.ext_iff, slackBlock] using unit

end Block

/-- The solutions of the starting tableau are those of the constraints with their slack
variables. -/
theorem satisfies_start_iff {start : Tableau Rat} (valid : problem.validate = .ok count)
    (built : problem.startingTableau = .ok start) (point : Nat → Rat) :
    start.Satisfies point ↔ ∀ index : Fin problem.constraints.length,
      ∑ column ∈ Finset.range count.toNat,
        problem.constraints[index].coefficients.getD column 0 * point column +
          point (count.toNat + index) = problem.constraints[index].bound := by
  have rows := (frames_start valid built).rows
  constructor
  · intro satisfied index
    have zero := satisfied index (index.isLt.trans_eq rows.symm)
    rw [gap_start valid built index.isLt] at zero
    exact sub_eq_zero.mp zero
  · intro equations row inside
    rw [rows] at inside
    rw [gap_start valid built inside]
    exact sub_eq_zero.mpr (equations ⟨row, inside⟩)

/-! ## The multipliers of a history -/

/-- **The slack columns of every record hold the multipliers of the row operations.** With a
fine tolerance the rows of every tableau of a history are the combinations of the
constraints that their slack cells give, less the objective in the objective row. The
slack block is invertible, and the equations of the tableau have exactly the solutions
of the constraints with their slack variables. -/
theorem history_slack_multiplies (valid : problem.validate = .ok count)
    (tolerance : 0 ≤ settings.epsilon) (fine : problem.FineRun settings) :
    ∃ solution, problem.solve settings false = .ok solution ∧
      ∀ record ∈ solution.history,
        problem.SlackMultiplies count record.tableau ∧
        IsUnit (problem.slackBlock count record.tableau) ∧
        ∀ point, record.tableau.Satisfies point ↔
          ∀ index : Fin problem.constraints.length,
            ∑ column ∈ Finset.range count.toNat,
              problem.constraints[index].coefficients.getD column 0 * point column +
                point (count.toNat + index) = problem.constraints[index].bound := by
  obtain ⟨start, built, -⟩ := exists_startingTableau valid
  have canonical := fine.canonical valid tolerance
  obtain ⟨solution, _, _, _, _, answer, -⟩ := solve_answers valid tolerance canonical
  refine ⟨solution, answer, fun record member => ?_⟩
  obtain ⟨done, tableau, mark, here, shown⟩ := exists_tableauAt_of_mem_history built answer member
  have frames := frames_tableauAt valid done tableau here
  have multiplies := fine.slackMultiplies valid tolerance done tableau here
  have unit := multiplies.isUnit_slackBlock valid built frames (canonical done tableau here)
  rw [shown]
  refine ⟨⟨multiplies.cell, multiplies.rightSide, multiplies.cost, multiplies.worth⟩, unit, ?_⟩
  intro point
  rw [← satisfies_start_iff valid built point]
  exact satisfies_tableauAt_iff valid tolerance built (fine.keepsConstraints tolerance) point done
    tableau here

/-- The multipliers of the objective row, record by record. -/
theorem history_slack_multiplies_heldCorner :
    ∃ solution, heldCorner.solve Settings.standard false = .ok solution ∧
      (solution.history.map fun record =>
        List.ofFn (heldCorner.multipliers (.whole 2) record.tableau 3)) =
          [[0, 0, 0], [1, 0, 0], [-1, 2, 0], [0, 1, 1]] ∧
      ∀ record ∈ solution.history, heldCorner.SlackMultiplies (.whole 2) record.tableau ∧
        IsUnit (heldCorner.slackBlock (.whole 2) record.tableau) := by
  have reported : (heldCorner.solve Settings.standard false).toOption.map (fun solution =>
      solution.history.map fun record =>
        List.ofFn (heldCorner.multipliers (.whole 2) record.tableau 3)) =
          some [[0, 0, 0], [1, 0, 0], [-1, 2, 0], [0, 1, 1]] := by
    decide +kernel
  obtain ⟨solution, answer, multiplied⟩ := history_slack_multiplies validate_heldCorner
    (by decide +kernel) fineRun_heldCorner
  have shown := eq_of_seen answer reported
  refine ⟨solution, answer, shown, fun record member => ?_⟩
  obtain ⟨multiplies, unit, -⟩ := multiplied record member
  exact ⟨multiplies, unit⟩

end Problem

end SimplexSolver
