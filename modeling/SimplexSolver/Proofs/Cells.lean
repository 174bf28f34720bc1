import Mathlib.Algebra.Order.Field.Basic
import Mathlib.Algebra.Order.Ring.Rat
import Mathlib.Algebra.Field.Rat
import Mathlib.Data.List.GetD
import Mathlib.Tactic.Linarith
import SimplexSolver.Tableau.Pivot

/-!
# Cells of a tableau by index

The rows of a tableau are lists, and the method walks through them. What the
method computes is easier to say cell by cell: `Tableau.cell` reads a cell, and
is zero outside the tableau. This module says in these terms what the parts of a
tableau are and what a pivot does to it.

A pivot without rounding puts `sweptCell` into a cell. Afterwards small cells are
set to zero, so a cell of the next tableau is either its swept cell or zero
(`cell_pivotAt`). A row in which nothing was lost is called swept exactly
(`ExactRow`); every statement about the whole tableau is derived from the rows
that are.
-/

set_option autoImplicit false

namespace SimplexSolver

/-! ## Comparing exact scalars -/

namespace Scalar

@[simp] theorem lt_rat (a b : Rat) : Scalar.lt a b = decide (a < b) := rfl

@[simp] theorem le_rat (a b : Rat) : Scalar.le a b = decide (a ≤ b) := rfl

@[simp] theorem same_rat (a b : Rat) : Scalar.same a b = decide (a = b) := rfl

@[simp] theorem isFinite_rat (a : Rat) : Scalar.isFinite a = true := rfl

@[simp] theorem magnitude_rat (a : Rat) : Scalar.magnitude a = |a| := by
  change (if a < 0 then -a else a) = |a|
  split
  · rename_i negative
    exact (abs_of_neg negative).symm
  · rename_i notNegative
    exact (abs_of_nonneg (not_lt.mp notNegative)).symm

end Scalar

namespace Tableau

/-! ## Rows and right-hand sides -/

section Parts

variable {α : Type} (tableau : Tableau α)

/-- The number of columns without the right-hand sides. -/
def width : Nat := tableau.columnCount - 1

theorem length_cells : tableau.cells.length = tableau.constraintCount + 1 := tableau.labelled

theorem length_row {row : Nat} (inside : row ≤ tableau.constraintCount) :
    (tableau.cells.getD row []).length = tableau.columnCount := by
  have within : row < tableau.cells.length := by
    rw [length_cells]
    omega
  rw [List.getD_eq_getElem _ _ within]
  exact tableau.rectangular _ (List.getElem_mem within)

theorem objectiveRow_eq : tableau.objectiveRow = tableau.cells.getD tableau.constraintCount [] := by
  rw [objectiveRow, List.getLastD_eq_getLast?, List.getLast?_eq_getElem?, length_cells,
    List.getD_eq_getElem?_getD, Nat.add_sub_cancel]

theorem length_constraintRows : tableau.constraintRows.length = tableau.constraintCount := by
  rw [constraintRows, List.length_dropLast, length_cells, Nat.add_sub_cancel]

theorem constraintRows_getD {row : Nat} (inside : row < tableau.constraintCount) :
    tableau.constraintRows.getD row [] = tableau.cells.getD row [] := by
  have within : row < tableau.cells.length - 1 := by
    rw [length_cells]
    omega
  rw [constraintRows, List.getD_eq_getElem?_getD, List.getD_eq_getElem?_getD,
    List.getElem?_dropLast, if_pos within]

variable [Scalar α]

/-- The right-hand side of a row. -/
def rightSide (row : Nat) : α := tableau.cell row tableau.width

/-- The last cell of a row is its right-hand side. -/
theorem getLastD_row {row : Nat} (inside : row ≤ tableau.constraintCount) :
    (tableau.cells.getD row []).getLastD 0 = tableau.rightSide row := by
  rw [List.getLastD_eq_getLast?, List.getLast?_eq_getElem?, tableau.length_row inside,
    ← List.getD_eq_getElem?_getD]
  rfl

/-- A cell below the tableau is zero. -/
theorem cell_of_length_le {row : Nat} (outside : tableau.cells.length ≤ row) (column : Nat) :
    tableau.cell row column = 0 := by
  rw [cell, List.getD_eq_default _ _ outside]
  rfl

end Parts

/-! ## Row operations -/

/-- The rows of a list changed in place, by index. -/
theorem getD_mapIdx {β : Type} (change : Nat → List β → List β) (rows : List (List β))
    (index : Nat) : (rows.mapIdx change).getD index [] =
      if index < rows.length then change index (rows.getD index []) else [] := by
  simp only [List.getD_eq_getElem?_getD, List.getElem?_mapIdx]
  split
  · rename_i inside
    simp [List.getElem?_eq_getElem inside]
  · rename_i outside
    simp [List.getElem?_eq_none (not_lt.mp outside)]

/-- What holds of all cells of a table and of zero holds of the cell at any row and column. -/
theorem getD_getD_of_forall {property : Rat → Prop} (zero : property 0) {cells : List (List Rat)}
    (all : ∀ row ∈ cells, ∀ cell ∈ row, property cell) (row column : Nat) :
    property ((cells.getD row []).getD column 0) := by
  rcases Nat.lt_or_ge row cells.length with inside | outside
  · rcases Nat.lt_or_ge column (cells.getD row []).length with within | beyond
    · rw [List.getD_eq_getElem _ 0 within]
      refine all _ ?_ _ (List.getElem_mem within)
      rw [List.getD_eq_getElem _ _ inside]
      exact List.getElem_mem inside
    · rwa [List.getD_eq_default _ _ beyond]
  · rwa [List.getD_eq_default _ _ outside]

theorem getD_divided (element : Rat) (row : List Rat) (column : Nat) :
    (divided element row).getD column 0 = row.getD column 0 / element := by
  have zero : (0 : Rat) / element = 0 := zero_div element
  conv_lhs => rw [divided, ← zero]
  exact List.getD_map _ _ (· / element)

theorem getD_eliminate (column : Nat) {source row : List Rat} (same : source.length = row.length)
    (index : Nat) : (eliminate column source row).getD index 0 =
      row.getD index 0 - row.getD column 0 * source.getD index 0 := by
  unfold eliminate
  simp only [Scalar.same_rat, decide_eq_true_eq]
  split
  · rename_i vanishes
    have gone : row.getD column 0 = 0 := vanishes
    rw [gone, zero_mul, sub_zero]
  · rcases Nat.lt_or_ge index row.length with inside | outside
    · simp only [List.getD_eq_getElem?_getD, List.getElem?_zipWith,
        List.getElem?_eq_getElem inside, List.getElem?_eq_getElem (same ▸ inside),
        Option.getD_some]
    · rw [List.getD_eq_default _ _ outside, List.getD_eq_default _ _ (same.trans_le outside),
        mul_zero, sub_zero]
      exact List.getD_eq_default _ _ (by simp [same, outside])

/-! ## The cells of a pivot -/

/-- The cell a pivot computes, before small cells are set to zero. -/
def sweptCell (tableau : Tableau Rat) (leaving column row index : Nat) : Rat :=
  if row = leaving then tableau.cell leaving index / tableau.cell leaving column
  else tableau.cell row index -
    tableau.cell row column * (tableau.cell leaving index / tableau.cell leaving column)

theorem getD_sweep (tableau : Tableau Rat) {leaving : Nat}
    (inside : leaving ≤ tableau.constraintCount) (column row index : Nat) :
    ((sweep leaving column false (tableau.cell leaving column) tableau.cells).getD row []).getD
      index 0 = tableau.sweptCell leaving column row index := by
  have scaled : ∀ place, (divided (tableau.cell leaving column)
      (tableau.cells.getD leaving [])).getD place 0 =
        tableau.cell leaving place / tableau.cell leaving column := fun place =>
    getD_divided _ _ _
  rw [sweep, getD_mapIdx]
  split
  · rename_i within
    rw [length_cells] at within
    have same : (divided (tableau.cell leaving column) (tableau.cells.getD leaving [])).length =
        (tableau.cells.getD row []).length := by
      rw [length_divided, tableau.length_row inside, tableau.length_row (by omega)]
    by_cases here : row = leaving
    · rw [sweptCell, if_pos here, here, if_neg (lt_irrefl _), if_pos rfl]
      exact scaled index
    · have eliminated : (eliminate column (divided (tableau.cell leaving column)
          (tableau.cells.getD leaving [])) (tableau.cells.getD row [])).getD index 0 =
          tableau.sweptCell leaving column row index := by
        rw [getD_eliminate column same, scaled, sweptCell, if_neg here]
        rfl
      split
      · exact eliminated
      · exact eliminated
  · rename_i beyond
    have outside : tableau.cells.length ≤ row := not_lt.mp beyond
    have empty := tableau.cell_of_length_le outside
    have elsewhere : row ≠ leaving := by
      rw [length_cells] at outside
      omega
    rw [sweptCell, if_neg elsewhere, empty, empty, zero_mul, sub_zero]
    rfl

theorem snap_zero (epsilon : Rat) : snap epsilon 0 = 0 := by
  unfold snap
  split
  · rfl
  · rfl

/-- A cell that is zero or not small stays. -/
theorem snap_of_large {epsilon cell : Rat} (large : cell ≠ 0 → epsilon ≤ |cell|) :
    snap epsilon cell = cell := by
  by_cases vanishes : cell = 0
  · rw [vanishes]
    exact snap_zero epsilon
  · unfold snap
    simp only [Scalar.lt_rat, Scalar.magnitude_rat, decide_eq_true_eq]
    exact if_neg (not_lt.mpr (large vanishes))

/-- The cells of a row after small ones were set to zero and the entering column
was filled in. -/
theorem getD_settled (epsilon : Rat) {row : List Rat} {column : Nat}
    (within : column < row.length) (filling : Rat) (index : Nat) :
    ((row.map (snap epsilon)).set column filling).getD index 0 =
      if index = column then filling else snap epsilon (row.getD index 0) := by
  rw [List.getD_eq_getElem?_getD, List.getElem?_set]
  by_cases here : index = column
  · simp [here, within]
  · rw [if_neg here, if_neg (Ne.symm here), ← List.getD_eq_getElem?_getD]
    conv_lhs => rw [← snap_zero epsilon]
    exact List.getD_map _ _ (snap epsilon)

/-- **The cells of the next tableau.** Outside the entering column they are the
swept cells, with small ones set to zero. -/
theorem cell_pivotAt (tableau : Tableau Rat) (epsilon : Rat) {leaving column : Nat}
    (label : Nat) (inside : leaving < tableau.cells.length)
    (within : column < tableau.columnCount) (row index : Nat) :
    (tableau.pivotAt epsilon leaving column label false inside).cell row index =
      if index = column then if row = leaving then 1 else 0
      else snap epsilon (tableau.sweptCell leaving column row index) := by
  have low : leaving ≤ tableau.constraintCount := by
    rw [length_cells] at inside
    omega
  set source := sweep leaving column false (tableau.cell leaving column) tableau.cells with made
  have swept : (source.getD row []).getD index 0 =
      tableau.sweptCell leaving column row index := tableau.getD_sweep low column row index
  change ((settle epsilon leaving column source).getD row []).getD index 0 = _
  rw [settle, getD_mapIdx]
  by_cases here : row < source.length
  · have wide : (source.getD row []).length = tableau.columnCount := by
      rw [List.getD_eq_getElem _ _ here]
      exact length_of_mem_sweep inside tableau.rectangular _ (List.getElem_mem here)
    rw [if_pos here, getD_settled epsilon (wide ▸ within), swept]
  · have below : tableau.cells.length ≤ row := by
      rw [made, length_sweep] at here
      exact not_lt.mp here
    have elsewhere : row ≠ leaving := by omega
    have gone : tableau.sweptCell leaving column row index = 0 := by
      rw [← swept, List.getD_eq_default _ _ (not_lt.mp here)]
      rfl
    rw [if_neg here, gone, snap_zero, if_neg elsewhere, ite_self]
    rfl

/-- Nothing was lost in a row: every cell of it is the swept cell. -/
def ExactRow (tableau next : Tableau Rat) (leaving column row : Nat) : Prop :=
  ∀ index, next.cell row index = tableau.sweptCell leaving column row index

/-- The entering column of the swept cells is a unit vector already. -/
theorem sweptCell_column (tableau : Tableau Rat) {leaving column : Nat}
    (element : tableau.cell leaving column ≠ 0) (row : Nat) :
    tableau.sweptCell leaving column row column = if row = leaving then 1 else 0 := by
  unfold sweptCell
  split
  · exact div_self element
  · rw [div_self element, mul_one, sub_self]

/-- A row is swept exactly when none of its cells is small without being zero. -/
theorem exactRow_pivotAt (tableau : Tableau Rat) {epsilon : Rat} {leaving column : Nat}
    (label : Nat) (inside : leaving < tableau.cells.length)
    (within : column < tableau.columnCount) (element : tableau.cell leaving column ≠ 0)
    {row : Nat} (large : ∀ index, tableau.sweptCell leaving column row index ≠ 0 →
      epsilon ≤ |tableau.sweptCell leaving column row index|) :
    ExactRow tableau (tableau.pivotAt epsilon leaving column label false inside)
      leaving column row := by
  intro index
  rw [cell_pivotAt tableau epsilon label inside within]
  by_cases here : index = column
  · rw [if_pos here, here, tableau.sweptCell_column element]
  · rw [if_neg here, snap_of_large (large index)]

end Tableau

end SimplexSolver
