import Mathlib.Tactic.FieldSimp
import SimplexSolver.Proofs.Courses

/-!
# A pivot can be undone

A pivot exchanges two variables: the entering one becomes basic in a row, and the
one that was basic there leaves. If the column of the variable that leaves was a
unit vector, a second pivot in the same row and in that column exchanges them back,
and it puts every cell where it was (`Tableau.sweptCell_sweptCell`).

The tolerance can spoil this only in the first pivot, by refusing its element or by
setting a cell to zero that is not. So two things are asked: no cell of the tableau
and no cell that the first pivot computes is smaller than the tolerance unless it is
zero. What the second pivot computes are the cells of the tableau again, and its
element is a cell that the first one has computed.
-/

set_option autoImplicit false

namespace SimplexSolver

namespace Tableau

/-! ## Tableaux with the same cells -/

section Equal

variable {α : Type}

/-- Tableaux of the same shape with the same cells have the same rows. -/
theorem cells_eq_of_cell [Scalar α] {left right : Tableau α}
    (rows : left.constraintCount = right.constraintCount)
    (columns : left.columnCount = right.columnCount)
    (same : ∀ row ≤ right.constraintCount, ∀ column < right.columnCount,
      left.cell row column = right.cell row column) : left.cells = right.cells := by
  refine List.ext_getElem (by rw [length_cells, length_cells, rows]) fun row first second => ?_
  have wide := left.rectangular _ (List.getElem_mem first)
  have other := right.rectangular _ (List.getElem_mem second)
  refine List.ext_getElem (by rw [wide, other]; exact columns) fun column here there => ?_
  have low : row ≤ right.constraintCount := by
    rw [length_cells] at second
    omega
  have within : column < right.columnCount := there.trans_eq other
  have cell := same row low column within
  rwa [Tableau.cell, Tableau.cell, List.getD_eq_getElem _ _ first, List.getD_eq_getElem _ _ second,
    List.getD_eq_getElem _ _ here, List.getD_eq_getElem _ _ there] at cell

/-- A tableau is determined by its rows, its labels, its direction and its mark. -/
theorem eq_of_parts {left right : Tableau α} (cells : left.cells = right.cells)
    (rowLabels : left.rowLabels = right.rowLabels)
    (columnLabels : left.columnLabels = right.columnLabels)
    (variableCount : left.variableCount = right.variableCount)
    (direction : left.direction = right.direction) (mark : left.mark = right.mark) :
    left = right := by
  cases left
  cases right
  simp_all

end Equal

/-! ## Cells that the tolerance keeps -/

/-- Cells that are not zero are not smaller than the tolerance. -/
def LargeCells (epsilon : Rat) (cells : List (List Rat)) : Prop :=
  ∀ row ∈ cells, ∀ cell ∈ row, cell ≠ 0 → epsilon ≤ |cell|

instance (epsilon : Rat) (cells : List (List Rat)) : Decidable (LargeCells epsilon cells) :=
  inferInstanceAs (Decidable (∀ row ∈ cells, ∀ cell ∈ row, cell ≠ 0 → epsilon ≤ |cell|))

theorem LargeCells.getD {epsilon : Rat} {cells : List (List Rat)}
    (large : LargeCells epsilon cells) {row column : Nat}
    (some : (cells.getD row []).getD column 0 ≠ 0) :
    epsilon ≤ |(cells.getD row []).getD column 0| :=
  getD_getD_of_forall (fun zero => absurd rfl zero) large row column some

section Undo

variable {tableau next : Tableau Rat} {epsilon : Rat} {leaving column home : Nat}

/-! ## Two pivots in one row -/

/-- The variable of a column is basic in a row: the column is the unit vector of the row,
down to the objective row. -/
def IsUnitColumn (tableau : Tableau Rat) (row column : Nat) : Prop :=
  ∀ other ≤ tableau.constraintCount, tableau.cell other column = if other = row then 1 else 0

instance (tableau : Tableau Rat) (row column : Nat) :
    Decidable (tableau.IsUnitColumn row column) :=
  inferInstanceAs (Decidable (∀ other ≤ tableau.constraintCount,
    tableau.cell other column = if other = row then 1 else 0))

/-- After an exact pivot the element of the way back is the inverse of the element. -/
theorem cell_home (unit : tableau.IsUnitColumn leaving home)
    (low : leaving < tableau.constraintCount)
    (exact : ExactRow tableau next leaving column leaving) :
    next.cell leaving home = 1 / tableau.cell leaving column := by
  rw [exact home, sweptCell, if_pos rfl, unit leaving low.le, if_pos rfl]

/-- **Sweeping twice in one row gives the cells back**, if the column of the second time was a
unit vector at first. -/
theorem sweptCell_sweptCell (unit : tableau.IsUnitColumn leaving home)
    (low : leaving < tableau.constraintCount) (element : tableau.cell leaving column ≠ 0)
    (exact : ∀ row, ExactRow tableau next leaving column row) {row : Nat}
    (inside : row ≤ tableau.constraintCount) (index : Nat) :
    next.sweptCell leaving home row index = tableau.cell row index := by
  have back := cell_home unit low (exact leaving)
  have own : next.cell leaving index / next.cell leaving home = tableau.cell leaving index := by
    rw [back, exact leaving index, sweptCell, if_pos rfl]
    field_simp
  rw [sweptCell, own]
  split
  · rename_i here
    rw [here]
  · rename_i elsewhere
    -- The first pivot took a multiple of the leaving row away; the second returns it.
    have taken : next.cell row home =
        -(tableau.cell row column / tableau.cell leaving column) := by
      rw [exact row home, sweptCell, if_neg elsewhere, unit row inside, unit leaving low.le,
        if_neg elsewhere, if_pos rfl]
      ring
    rw [taken, exact row index, sweptCell, if_neg elsewhere]
    ring

/-- Pivoting back after an exact pivot gives the tableau again, without a mark. -/
theorem pivotAt_pivotAt (named : tableau.columnLabels[home]? = tableau.rowLabels[leaving]?)
    (unit : tableau.IsUnitColumn leaving home) (low : leaving < tableau.constraintCount)
    (element : tableau.cell leaving column ≠ 0) (large : LargeCells epsilon tableau.cells)
    {inside : leaving < tableau.cells.length}
    (made : next = tableau.pivotAt epsilon leaving column leaving false inside)
    (exact : ∀ row, ExactRow tableau next leaving column row)
    (still : leaving < next.cells.length) :
    next.pivotAt epsilon leaving home leaving false still = tableau.withMark none := by
  have label : tableau.columnLabels[home]? = some tableau.rowLabels[leaving] :=
    named.trans (List.getElem?_eq_getElem low)
  have there : home < tableau.columnCount := (List.getElem?_eq_some_iff.mp label).1
  have cells : ∀ row ≤ tableau.constraintCount, ∀ index,
      (next.pivotAt epsilon leaving home leaving false still).cell row index =
        tableau.cell row index := by
    intro row below index
    rw [next.cell_pivotAt epsilon leaving still (made ▸ there),
      sweptCell_sweptCell unit low element exact below]
    split
    · rename_i here
      rw [here, unit row below]
    · exact snap_of_large fun some => large.getD some
  subst made
  refine eq_of_parts (cells_eq_of_cell ?_ rfl fun row below index _ => cells row below index)
    ?_ rfl rfl rfl rfl
  · simp [constraintCount, pivotAt, withMark]
  · simp only [pivotAt, withMark, List.set_set, List.getD_eq_getElem?_getD, label,
      Option.getD_some]
    exact List.set_getElem_self low

/-- **A pivot can be undone.** Let the variable that labels a row be basic in it, and let no
cell of the tableau and no cell that a pivot in this row computes be smaller than the
tolerance unless it is zero. Then the pivot is made, and the pivot in the same row and in
the column of that variable is made after it and gives the tableau again: all cells and
all labels, and only a mark is gone. -/
theorem pivot_undone (low : leaving < tableau.constraintCount)
    (within : column < tableau.columnCount)
    (named : tableau.columnLabels[home]? = tableau.rowLabels[leaving]?)
    (unit : tableau.IsUnitColumn leaving home) (element : tableau.cell leaving column ≠ 0)
    (large : LargeCells epsilon tableau.cells)
    (computed : LargeCells epsilon
      (sweep leaving column false (tableau.cell leaving column) tableau.cells))
    (value other : Option Rat) :
    ∃ next, tableau.pivot ⟨some column, some leaving, value⟩ epsilon = .ok next ∧
      next.pivot ⟨some home, some leaving, other⟩ epsilon = .ok (tableau.withMark none) := by
  obtain ⟨inside, made⟩ := pivot_of_le_abs low within (large.getD element) value
  refine ⟨_, made, ?_⟩
  set next := tableau.pivotAt epsilon leaving column leaving false inside with result
  have swept : ∀ row index, tableau.sweptCell leaving column row index ≠ 0 →
      epsilon ≤ |tableau.sweptCell leaving column row index| := by
    intro row index some
    rw [← tableau.getD_sweep low.le] at some ⊢
    exact computed.getD some
  have exact : ∀ row, ExactRow tableau next leaving column row := fun row =>
    tableau.exactRow_pivotAt leaving inside within element (swept row)
  have still : leaving < next.constraintCount := by
    rw [result]
    simpa [constraintCount, pivotAt] using low
  have there : home < next.columnCount := by
    have label := named.trans (List.getElem?_eq_getElem low)
    exact (List.getElem?_eq_some_iff.mp label).1
  have back : next.cell leaving home ≠ 0 := by
    rw [cell_home unit low (exact leaving)]
    exact one_div_ne_zero element
  have enough : epsilon ≤ |next.cell leaving home| := by
    rw [exact leaving home] at back ⊢
    exact swept leaving home back
  obtain ⟨again, returned⟩ := pivot_of_le_abs still there enough other
  rw [returned, pivotAt_pivotAt named unit low element large result exact again]

end Undo

/-- Two rows with their slack variables, the first of which a pivot halves. -/
def halvedRow : Tableau Rat where
  cells := [[2, 1, 1, 0, 4], [1, 3, 0, 1, 6], [-3, -2, 0, 0, 0]]
  rowLabels := ["s1", "s2"]
  columnLabels := ["x1", "x2", "s1", "s2", "RHS"]
  variableCount := .whole 2
  direction := .maximize
  mark := none
  labelled := rfl
  rectangular := by decide

/-- The pivot on the first cell computes halves, which a tolerance of a half still keeps; the
pivot in the column of the first slack variable takes it back. -/
theorem pivot_undone_halvedRow :
    ∃ next, halvedRow.pivot ⟨some 0, some 0, none⟩ (1 / 2) = .ok next ∧
      next.rowLabels = ["x1", "s2"] ∧
        next.pivot ⟨some 2, some 0, none⟩ (1 / 2) = .ok halvedRow := by
  have exchanged : (halvedRow.pivot ⟨some 0, some 0, none⟩ (1 / 2)).toOption.map (·.rowLabels) =
      some ["x1", "s2"] := by decide +kernel
  obtain ⟨next, made, returned⟩ := @pivot_undone halvedRow (1 / 2) 0 0 2 (by decide) (by decide)
    (by decide) (by decide +kernel) (by decide +kernel) (by decide +kernel) (by decide +kernel)
    none none
  refine ⟨next, made, ?_, returned⟩
  rw [show halvedRow.pivot ⟨some 0, some 0, none⟩ (1 / 2) = .ok next from made] at exchanged
  exact Option.some.inj exchanged

end Tableau

end SimplexSolver
