import SimplexSolver.Proofs.Equations

/-!
# Runs that the tolerance does not disturb

The tolerance of a run is used in four places: a column has to improve by more than
it, a row is eligible when its cell is larger, ratios that are closer count as
equal, and cells that are smaller are set to zero. Each use can go wrong on its own,
and each invariant of a run needs only some of them to go right:

* the constraint rows keep their solutions when no pivot sets a cell of theirs to
  zero (`KeepsConstraints`);
* the objective row keeps its value when this is true of it as well
  (`KeepsObjective`);
* right-hand sides stay non-negative when the ratio test passes over no row with a
  positive cell and takes no ratio for equal that is not (`TestsRatios`).

A tolerance is fine for a run when every cell that is not zero is larger, as it was
computed, and every two ratios that are compared and differ do so by more
(`FineRun`). Then all of this holds. A tolerance of zero is fine for every run, and
for a run that ends it can be checked whether a tolerance is
(`fineRun_of_checked`).
-/

set_option autoImplicit false

namespace SimplexSolver

open Tableau

/-- Cells that are not zero are larger than the tolerance. -/
def FineCells (epsilon : Rat) (cells : List (List Rat)) : Prop :=
  ∀ row ∈ cells, ∀ cell ∈ row, cell ≠ 0 → epsilon < |cell|

instance (epsilon : Rat) (cells : List (List Rat)) : Decidable (FineCells epsilon cells) := by
  unfold FineCells
  infer_instance

theorem FineCells.getD {epsilon : Rat} {cells : List (List Rat)} (fine : FineCells epsilon cells)
    {row column : Nat} (some : (cells.getD row []).getD column 0 ≠ 0) :
    epsilon < |(cells.getD row []).getD column 0| :=
  getD_getD_of_forall (fun zero => absurd rfl zero) fine row column some

/-- A number that is zero or larger than the tolerance is not negative if it does not lie
below the opposite of the tolerance. -/
theorem nonneg_of_large {epsilon value : Rat} (large : value ≠ 0 → epsilon < |value|)
    (bound : -epsilon ≤ value) : 0 ≤ value := by
  by_contra negative
  have far := large (not_le.mp negative).ne
  rw [abs_of_neg (not_le.mp negative)] at far
  linarith

/-- A positive number that is zero or larger than the tolerance lies above it. -/
theorem lt_of_large {epsilon value : Rat} (large : value ≠ 0 → epsilon < |value|)
    (positive : 0 < value) : epsilon < value := by
  have far := large positive.ne'
  rwa [abs_of_pos positive] at far

namespace Problem

/-! ## What a run may rely on -/

/-- No pivot of the run loses a cell of a constraint row. -/
def KeepsConstraints (problem : Problem Rat) (settings : Settings Rat) : Prop :=
  ∀ done tableau next leaving column, problem.tableauAt settings done = some tableau →
    problem.tableauAt settings (done + 1) = some next →
      PivotStep settings tableau next leaving column →
        ∀ row < tableau.constraintCount, ExactRow tableau next leaving column row

/-- No pivot of the run loses a cell of the objective row. -/
def KeepsObjective (problem : Problem Rat) (settings : Settings Rat) : Prop :=
  ∀ done tableau next leaving column, problem.tableauAt settings done = some tableau →
    problem.tableauAt settings (done + 1) = some next →
      PivotStep settings tableau next leaving column →
        ExactRow tableau next leaving column tableau.constraintCount

/-- The ratio tests of the run see every positive cell and every difference between
ratios. -/
structure TestsRatios (problem : Problem Rat) (settings : Settings Rat) : Prop where
  eligible : ∀ done tableau column, problem.tableauAt settings done = some tableau →
    tableau.enteringColumn settings.epsilon settings.rule = some column →
      ∀ row < tableau.constraintCount, 0 < tableau.cell row column →
        settings.epsilon < tableau.cell row column
  ratios : ∀ done tableau column, problem.tableauAt settings done = some tableau →
    tableau.enteringColumn settings.epsilon settings.rule = some column →
      FineRatios settings.epsilon column tableau.constraintRows

/-- The tolerance is fine for a run: every cell that is not zero is larger, in the
starting tableau and as every pivot computes it, and two ratios that are compared
and differ do so by more than the tolerance. -/
structure FineRun (problem : Problem Rat) (settings : Settings Rat) : Prop where
  start : ∀ tableau, problem.tableauAt settings 0 = some tableau →
    FineCells settings.epsilon tableau.cells
  pivots : ∀ done tableau next leaving column, problem.tableauAt settings done = some tableau →
    problem.tableauAt settings (done + 1) = some next →
      tableau.enteringColumn settings.epsilon settings.rule = some column →
        tableau.leavingRow settings.epsilon column = some leaving →
          FineCells settings.epsilon
            (sweep leaving column false (tableau.cell leaving column) tableau.cells)
  ratios : ∀ done tableau column, problem.tableauAt settings done = some tableau →
    tableau.enteringColumn settings.epsilon settings.rule = some column →
      FineRatios settings.epsilon column tableau.constraintRows

/-- **A tolerance of zero is fine for every run.** -/
theorem fineRun_of_epsilon_eq_zero {problem : Problem Rat} {settings : Settings Rat}
    (exact : settings.epsilon = 0) : problem.FineRun settings := by
  have cells : ∀ cells, FineCells settings.epsilon cells := by
    intro cells row _ cell _ some
    rw [exact]
    exact abs_pos.mpr some
  refine ⟨fun _ _ => cells _, fun _ _ _ _ _ _ _ _ _ => cells _, ?_⟩
  intro done tableau column _ _ seen _ best _ _ different
  rw [exact]
  exact abs_pos.mpr (sub_ne_zero.mpr different)

variable {problem : Problem Rat} {settings : Settings Rat} {count : Count}

/-! ## Checking a run -/

/-- What has to be checked in one tableau of a run: the ratios that are compared in it,
and the cells that a pivot computes from it. -/
def FineTableau (settings : Settings Rat) (tableau : Tableau Rat) : Prop :=
  ∀ column ∈ tableau.enteringColumn settings.epsilon settings.rule,
    FineRatios settings.epsilon column tableau.constraintRows ∧
      ∀ leaving ∈ tableau.leavingRow settings.epsilon column,
        FineCells settings.epsilon
          (sweep leaving column false (tableau.cell leaving column) tableau.cells)

instance (settings : Settings Rat) (tableau : Tableau Rat) :
    Decidable (FineTableau settings tableau) := by
  unfold FineTableau
  infer_instance

/-- A run that has ended after a number of pivots got to smaller numbers only. -/
theorem lt_of_isNone_tableauAt (valid : problem.validate = .ok count) {total : Nat}
    (ended : (problem.tableauAt settings total).isNone) {done : Nat} {tableau : Tableau Rat}
    (here : problem.tableauAt settings done = some tableau) : done < total := by
  by_contra late
  obtain ⟨last, there⟩ := exists_tableauAt_of_le valid here (not_lt.mp late)
  rw [there] at ended
  simp at ended

/-- **A run that ends can be checked** tableau by tableau. -/
theorem fineRun_of_checked (valid : problem.validate = .ok count) {total : Nat}
    (ended : (problem.tableauAt settings total).isNone)
    (start : ∀ tableau ∈ problem.tableauAt settings 0, FineCells settings.epsilon tableau.cells)
    (checked : ∀ done < total, ∀ tableau ∈ problem.tableauAt settings done,
      FineTableau settings tableau) : problem.FineRun settings := by
  refine ⟨start, ?_, ?_⟩
  · intro done tableau next leaving column here _ entering row
    have early := lt_of_isNone_tableauAt valid ended here
    exact (checked done early tableau here column entering).2 leaving row
  · intro done tableau column here entering
    have early := lt_of_isNone_tableauAt valid ended here
    exact (checked done early tableau here column entering).1

/-! ## A fine tolerance loses nothing -/

section Fine

variable (valid : problem.validate = .ok count) (tolerance : 0 ≤ settings.epsilon)
  (fine : problem.FineRun settings)
include tolerance fine

/-- Swept cells that are not zero are larger than a fine tolerance. -/
theorem FineRun.epsilon_lt_sweptCell {done leaving column : Nat} {tableau next : Tableau Rat}
    (here : problem.tableauAt settings done = some tableau)
    (there : problem.tableauAt settings (done + 1) = some next)
    (step : PivotStep settings tableau next leaving column) {row index : Nat}
    (some : tableau.sweptCell leaving column row index ≠ 0) :
    settings.epsilon < |tableau.sweptCell leaving column row index| := by
  have low := (step.leaving_lt tolerance).le
  have cells := fine.pivots done tableau next leaving column here there step.entering step.row
  rw [← tableau.getD_sweep low] at some ⊢
  exact cells.getD some

/-- With a fine tolerance a pivot computes every row exactly. -/
theorem FineRun.exactRow {done leaving column : Nat} {tableau next : Tableau Rat}
    (here : problem.tableauAt settings done = some tableau)
    (there : problem.tableauAt settings (done + 1) = some next)
    (step : PivotStep settings tableau next leaving column) (row : Nat) :
    ExactRow tableau next leaving column row := by
  obtain ⟨inside, rfl⟩ := step.result
  exact tableau.exactRow_pivotAt _ inside step.column_lt_columnCount
    (step.element_pos tolerance).ne' fun index some =>
      (fine.epsilon_lt_sweptCell tolerance here there step some).le

/-- The pivot element becomes one, so a fine tolerance is below one once there was a
pivot. -/
theorem FineRun.epsilon_le_one {done leaving column : Nat} {tableau next : Tableau Rat}
    (here : problem.tableauAt settings done = some tableau)
    (there : problem.tableauAt settings (done + 1) = some next)
    (step : PivotStep settings tableau next leaving column) : settings.epsilon ≤ 1 := by
  have one : tableau.sweptCell leaving column leaving column = 1 := by
    rw [tableau.sweptCell_column (step.element_pos tolerance).ne', if_pos rfl]
  have large := fine.epsilon_lt_sweptCell tolerance here there step (one ▸ one_ne_zero)
  rw [one, abs_one] at large
  exact large.le

theorem FineRun.keepsConstraints : problem.KeepsConstraints settings :=
  fun _ _ _ _ _ here there step row _ => fine.exactRow tolerance here there step row

theorem FineRun.keepsObjective : problem.KeepsObjective settings :=
  fun _ _ _ _ _ here there step => fine.exactRow tolerance here there step _

include valid

/-- Every tableau of a run with a fine tolerance is canonical. -/
theorem FineRun.canonical : ∀ done tableau,
    problem.tableauAt settings done = some tableau → tableau.Canonical := by
  refine tableauAt_induction valid tolerance (fun start => canonical_start valid) ?_
  intro done tableau next leaving column here there step canonical
  exact step.canonical tolerance (fine.epsilon_le_one tolerance here there step) canonical

/-- Cells that are not zero are larger than a fine tolerance, in every tableau of the
run. -/
theorem FineRun.epsilon_lt_cell {done : Nat} {tableau : Tableau Rat}
    (here : problem.tableauAt settings done = some tableau) {row index : Nat}
    (some : tableau.cell row index ≠ 0) : settings.epsilon < |tableau.cell row index| := by
  cases done with
  | zero => exact (fine.start tableau here).getD some
  | succ done =>
      obtain ⟨before, leaving, column, earlier, step⟩ := exists_pivotStep valid tolerance here
      rw [fine.exactRow tolerance earlier here step row index] at some ⊢
      exact fine.epsilon_lt_sweptCell tolerance earlier here step some

theorem FineRun.testsRatios : problem.TestsRatios settings := by
  refine ⟨?_, fine.ratios⟩
  intro done tableau column here _ row _ positive
  exact lt_of_large (fine.epsilon_lt_cell valid tolerance here) positive

end Fine

/-! ## Invariants of a run -/

/-- The right-hand sides of the starting tableau are not negative. -/
theorem rightSide_start_nonneg (valid : problem.validate = .ok count) {start : Tableau Rat}
    (built : problem.startingTableau = .ok start) {row : Nat}
    (inside : row < start.constraintCount) : 0 ≤ start.rightSide row := by
  rw [(frames_start valid built).rows] at inside
  rw [rightSide_start valid built inside]
  obtain ⟨-, -, -, checked⟩ := parts_of_validate valid
  obtain ⟨_, _, passed⟩ := checked _ (List.getElem_mem inside)
  simpa using (Constraint.parts_of_validate passed).2.2

section Invariants

variable (valid : problem.validate = .ok count) (tolerance : 0 ≤ settings.epsilon)
  {start : Tableau Rat} (built : problem.startingTableau = .ok start)
include valid tolerance built

/-- **The constraint rows have the same solutions in every tableau of a run.** -/
theorem satisfies_tableauAt_iff (keeps : problem.KeepsConstraints settings)
    (point : Nat → Rat) : ∀ done tableau, problem.tableauAt settings done = some tableau →
      (tableau.Satisfies point ↔ start.Satisfies point) := by
  refine tableauAt_induction valid tolerance ?_ ?_
  · intro tableau same
    rw [built, Except.ok.injEq] at same
    rw [same]
  · intro done tableau next leaving column here there step same
    rw [← same]
    exact satisfies_iff step.constraintCount_eq step.width_eq (step.leaving_lt tolerance)
      (step.element_pos tolerance).ne' (keeps done tableau next leaving column here there step)
      point

/-- At a solution the objective row has the same gap in every tableau of a run. -/
theorem gap_objective_tableauAt (keeps : problem.KeepsConstraints settings)
    (objective : problem.KeepsObjective settings) {point : Nat → Rat}
    (satisfied : start.Satisfies point) :
    ∀ done tableau, problem.tableauAt settings done = some tableau →
      tableau.gap point tableau.constraintCount = start.gap point start.constraintCount := by
  refine tableauAt_induction valid tolerance ?_ ?_
  · intro tableau same
    rw [built, Except.ok.injEq] at same
    rw [same]
  · intro done tableau next leaving column here there step same
    have solution := (satisfies_tableauAt_iff valid tolerance built keeps point done tableau
      here).mpr satisfied
    rw [← same]
    exact gap_objective_eq step.constraintCount_eq step.width_eq (step.leaving_lt tolerance)
      (objective done tableau next leaving column here there step) solution

end Invariants

end Problem

/-- A pivot on the row with the least ratio keeps right-hand sides non-negative. -/
theorem PivotStep.rightSide_nonneg {settings : Settings Rat} {tableau next : Tableau Rat}
    {leaving column : Nat} (tolerance : 0 ≤ settings.epsilon)
    (step : PivotStep settings tableau next leaving column)
    (exact : ∀ row < tableau.constraintCount, ExactRow tableau next leaving column row)
    (eligible : ∀ row < tableau.constraintCount, 0 < tableau.cell row column →
      settings.epsilon < tableau.cell row column)
    (ratios : FineRatios settings.epsilon column tableau.constraintRows)
    (nonneg : ∀ row < tableau.constraintCount, 0 ≤ tableau.rightSide row)
    {row : Nat} (inside : row < tableau.constraintCount) : 0 ≤ next.rightSide row := by
  obtain ⟨low, -, least⟩ := leads_of_leavingRow tolerance le_rfl ratios.overlooks step.row
  have element := step.element_pos tolerance
  have swept : next.rightSide row = tableau.sweptCell leaving column row tableau.width := by
    rw [rightSide, step.width_eq]
    exact exact row inside tableau.width
  have ratio_nonneg : 0 ≤ tableau.ratio column leaving :=
    div_nonneg (nonneg leaving low) element.le
  rw [swept, sweptCell]
  split
  · exact ratio_nonneg
  · change 0 ≤ tableau.rightSide row - tableau.cell row column * tableau.ratio column leaving
    rcases le_or_gt (tableau.cell row column) 0 with small | positive
    · have lost := mul_nonpos_of_nonpos_of_nonneg small ratio_nonneg
      linarith [nonneg row inside]
    · have bound := least row inside (eligible row inside positive)
      rw [sub_zero] at bound
      have product : tableau.cell row column * tableau.ratio column row = tableau.rightSide row :=
        mul_div_cancel₀ _ positive.ne'
      have limited := mul_le_mul_of_nonneg_left bound positive.le
      linarith

/-- The objective value after a pivot. -/
theorem PivotStep.rightSide_objective {settings : Settings Rat} {tableau next : Tableau Rat}
    {leaving column : Nat} (tolerance : 0 ≤ settings.epsilon)
    (step : PivotStep settings tableau next leaving column)
    (exact : ExactRow tableau next leaving column tableau.constraintCount) :
    next.rightSide next.constraintCount = tableau.rightSide tableau.constraintCount -
      tableau.cell tableau.constraintCount column * tableau.ratio column leaving := by
  rw [rightSide, step.constraintCount_eq, step.width_eq, exact tableau.width, sweptCell,
    if_neg (step.leaving_lt tolerance).ne']
  rfl

/-- A pivot does not lower the objective value, and it keeps the value exactly if the
right-hand side of the leaving row is zero. -/
theorem PivotStep.rightSide_objective_le {settings : Settings Rat} {tableau next : Tableau Rat}
    {leaving column : Nat} (tolerance : 0 ≤ settings.epsilon)
    (step : PivotStep settings tableau next leaving column)
    (exact : ExactRow tableau next leaving column tableau.constraintCount)
    (nonneg : 0 ≤ tableau.rightSide leaving) :
    tableau.rightSide tableau.constraintCount ≤ next.rightSide next.constraintCount ∧
      (tableau.rightSide tableau.constraintCount = next.rightSide next.constraintCount ↔
        tableau.rightSide leaving = 0) := by
  have element := step.element_pos tolerance
  have improves : tableau.cell tableau.constraintCount column < 0 := by
    linarith [cell_of_enteringColumn step.entering]
  have lost := mul_nonpos_of_nonpos_of_nonneg improves.le (div_nonneg nonneg element.le)
  rw [step.rightSide_objective tolerance exact, ratio]
  constructor
  · linarith
  · rw [eq_comm, sub_eq_self, mul_eq_zero, or_iff_right improves.ne, div_eq_zero_iff,
      or_iff_left element.ne']

/-- **Right-hand sides stay non-negative along a run** whose ratio tests see
everything. -/
theorem Problem.rightSide_tableauAt_nonneg {problem : Problem Rat} {settings : Settings Rat}
    {count : Count} (valid : problem.validate = .ok count) (tolerance : 0 ≤ settings.epsilon)
    (keeps : problem.KeepsConstraints settings) (tests : problem.TestsRatios settings) :
    ∀ done tableau, problem.tableauAt settings done = some tableau →
      ∀ row < tableau.constraintCount, 0 ≤ tableau.rightSide row := by
  refine tableauAt_induction valid tolerance ?_ ?_
  · intro tableau built row inside
    exact rightSide_start_nonneg valid built inside
  · intro done tableau next leaving column here there step nonneg row inside
    rw [step.constraintCount_eq] at inside
    exact step.rightSide_nonneg tolerance (keeps done tableau next leaving column here there step)
      (tests.eligible done tableau column here step.entering)
      (tests.ratios done tableau column here step.entering) nonneg inside

/-- With a fine tolerance no right-hand side of a constraint row is ever negative. -/
theorem Problem.FineRun.rightSide_nonneg {problem : Problem Rat} {settings : Settings Rat}
    {count : Count} (valid : problem.validate = .ok count) (tolerance : 0 ≤ settings.epsilon)
    (fine : problem.FineRun settings) : ∀ done tableau,
      problem.tableauAt settings done = some tableau →
        ∀ row < tableau.constraintCount, 0 ≤ tableau.rightSide row :=
  rightSide_tableauAt_nonneg valid tolerance (fine.keepsConstraints tolerance)
    (fine.testsRatios valid tolerance)

end SimplexSolver
