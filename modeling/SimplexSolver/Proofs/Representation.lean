import SimplexSolver.Proofs.Histories

/-!
# How a tableau represents its basis

The basis of a tableau is held by its row labels alone: a label names a column, the
column is a unit vector, and reading off the basic solution looks the label up among the
column labels. This works only as long as labels and cells fit together, and a pivot
changes both: it combines all rows, sets small cells to zero and relabels one row.

`Problem.RepresentsBasis` says what fitting together means, in terms of the labels
themselves. Everything in it follows from two facts about the tableaux of a run, which
hold for every tolerance up to one, whether or not it loses cells: the column labels are
those of the starting tableau, and the tableau is canonical. In particular a column that
may enter has a cell other than zero in the objective row, so it is not a basic column,
and no variable enters that is in the basis already.
-/

set_option autoImplicit false

namespace SimplexSolver

open Tableau

namespace Tableau

/-! ## Columns by label -/

section Labels

variable {α : Type} {tableau : Tableau α}

/-- A label is found at its own column. -/
theorem findIdx?_columnLabels (distinct : tableau.columnLabels.Nodup) {column : Nat}
    {label : String} (here : tableau.columnLabels[column]? = some label) :
    tableau.columnLabels.findIdx? (· == label) = some column := by
  obtain ⟨inside, rfl⟩ := List.getElem?_eq_some_iff.mp here
  rw [List.findIdx?_eq_some_iff_findIdx_eq]
  exact ⟨inside, distinct.idxOf_getElem column inside⟩

end Labels

/-! ## Labels of a canonical tableau -/

namespace Canonical

variable {tableau : Tableau Rat}

/-- The row labels of a canonical tableau are all different. -/
theorem rowLabels_nodup (canonical : tableau.Canonical) : tableau.rowLabels.Nodup := by
  rw [List.nodup_iff_getElem?_ne_getElem?]
  intro row other before inside same
  have equal : tableau.basicColumn row = tableau.basicColumn other := by
    rw [basicColumn, basicColumn, List.getD_eq_getElem?_getD, List.getD_eq_getElem?_getD, same]
  exact before.ne (canonical.basicColumn_inj (before.trans inside) inside equal)

/-- Every row label is the label of a column, and not of the last one. -/
theorem exists_column_of_rowLabel (canonical : tableau.Canonical) {label : String}
    (member : label ∈ tableau.rowLabels) :
    ∃ column < tableau.width, tableau.columnLabels[column]? = some label := by
  obtain ⟨row, inside, rfl⟩ := List.getElem_of_mem member
  have low := canonical.inside row inside
  rw [basicColumn, List.getD_eq_getElem _ _ inside] at low
  have within : tableau.columnLabels.idxOf tableau.rowLabels[row] < tableau.columnLabels.length :=
    low.trans_le (Nat.sub_le _ _)
  exact ⟨_, low, List.getElem?_eq_some_iff.mpr ⟨within, List.getElem_idxOf within⟩⟩

/-- The column named by a row label is the unit vector of the row. -/
theorem cell_of_label (canonical : tableau.Canonical) {row column other : Nat} {label : String}
    (here : tableau.rowLabels[row]? = some label)
    (there : tableau.columnLabels[column]? = some label)
    (inside : other ≤ tableau.constraintCount) :
    tableau.cell other column = if other = row then 1 else 0 := by
  have low : row < tableau.constraintCount := (List.getElem?_eq_some_iff.mp here).1
  rw [← basicColumn_eq_of_label canonical.distinct here there]
  exact canonical.unit row low other inside

/-- A column that may enter is not named by a row label. -/
theorem not_mem_rowLabels_of_entering (canonical : tableau.Canonical) {epsilon : Rat}
    (tolerance : 0 ≤ epsilon) {rule : PivotRule} {column : Nat} {label : String}
    (found : tableau.enteringColumn epsilon rule = some column)
    (here : tableau.columnLabels[column]? = some label) : label ∉ tableau.rowLabels := by
  intro member
  obtain ⟨row, inside, rfl⟩ := List.getElem_of_mem member
  have improves : tableau.cell tableau.constraintCount column < 0 := by
    linarith [cell_of_enteringColumn found]
  refine canonical.not_isBasic improves.ne ⟨row, inside, ?_⟩
  exact basicColumn_eq_of_label canonical.distinct (List.getElem?_eq_getElem inside) here

end Canonical

end Tableau

namespace Problem

variable {problem : Problem Rat} {settings : Settings Rat} {count : Count} {tableau : Tableau Rat}

/-! ## Labels of a run -/

/-- No column before the last one has the label of the right-hand sides. -/
theorem Frames.columnLabels_ne_bound (frames : problem.Frames count tableau) {column : Nat}
    {label : String} (inside : column < tableau.width)
    (here : tableau.columnLabels[column]? = some label) : label ≠ boundLabel := by
  rintro rfl
  rw [frames.width_eq] at inside
  rcases Nat.lt_or_ge column count.toNat with decision | slack
  · rw [frames.columnLabels_decision decision, Option.some.injEq] at here
    exact decisionName_ne_boundLabel column here
  · obtain ⟨index, rfl⟩ := Nat.exists_eq_add_of_le slack
    rw [frames.columnLabels_slack (Nat.lt_of_add_lt_add_left inside), Option.some.injEq] at here
    exact slackName_ne_boundLabel index here

/-! ## The representation of a basis -/

/-- Labels and cells of a tableau represent a basis. The tableau has the shape and the
column labels of the problem; the row labels are different labels of variables, and each
names a column that is the unit vector of its row. No column that may enter is named by
a row label, and the value of a variable is put where its column is. -/
structure RepresentsBasis (problem : Problem Rat) (count : Count) (epsilon : Rat)
    (tableau : Tableau Rat) : Prop where
  height : tableau.cells.length = problem.constraints.length + 1
  breadth : ∀ row ∈ tableau.cells, row.length = count.toNat + problem.constraints.length + 1
  columnLabels : tableau.columnLabels = (List.range count.toNat).map decisionName ++
    (List.range problem.constraints.length).map slackName ++ [boundLabel]
  rowCount : tableau.rowLabels.length = problem.constraints.length
  distinct : tableau.rowLabels.Nodup
  known : ∀ label ∈ tableau.rowLabels, label ∈ tableau.columnLabels ∧ label ≠ boundLabel
  unit : ∀ row column label, tableau.rowLabels[row]? = some label →
    tableau.columnLabels[column]? = some label →
      ∀ other ≤ problem.constraints.length,
        tableau.cell other column = if other = row then 1 else 0
  entering : ∀ rule column label, tableau.enteringColumn epsilon rule = some column →
    tableau.columnLabels[column]? = some label → label ∉ tableau.rowLabels
  decision : ∀ values value, ∀ index < count.toNat,
    tableau.assign values (decisionName index) value = .ok (values.1.set index value, values.2)
  slack : ∀ values value, values.2.length = problem.constraints.length →
    ∀ index < problem.constraints.length,
      tableau.assign values (slackName index) value = .ok (values.1, values.2.set index value)

/-- **A canonical tableau with the labels of the problem represents a basis.** -/
theorem Frames.representsBasis (valid : problem.validate = .ok count)
    (frames : problem.Frames count tableau) (canonical : tableau.Canonical) {epsilon : Rat}
    (tolerance : 0 ≤ epsilon) : problem.RepresentsBasis count epsilon tableau := by
  have number : tableau.variableCount.toInt = (count.toNat : Int) := by
    rw [frames.variableCount, toInt_eq_toNat valid]
  refine ⟨?_, ?_, frames.columnLabels, frames.rows, canonical.rowLabels_nodup, ?_, ?_, ?_, ?_, ?_⟩
  · rw [length_cells, frames.rows]
  · intro row member
    rw [tableau.rectangular row member]
    exact frames.columnCount_eq
  · intro label member
    obtain ⟨column, inside, here⟩ := canonical.exists_column_of_rowLabel member
    exact ⟨List.mem_of_getElem? here, frames.columnLabels_ne_bound inside here⟩
  · intro row column label here there other inside
    exact canonical.cell_of_label here there (frames.rows ▸ inside)
  · intro rule column label found here
    exact canonical.not_mem_rowLabels_of_entering tolerance found here
  · intro values value index inside
    have place := findIdx?_columnLabels canonical.distinct (frames.columnLabels_decision inside)
    simp [assign, place, number, inside]
  · intro values value long index inside
    have place := findIdx?_columnLabels canonical.distinct (frames.columnLabels_slack inside)
    have apart : ¬ ((count.toNat + index : Nat) : Int) < count.toNat := by omega
    have offset : ((count.toNat + index : Nat) - (count.toNat : Int)).toNat = index := by omega
    rw [assign, place]
    simp only [number, if_neg apart, offset, long, if_pos inside]

/-- The basis of a tableau does not depend on its mark. -/
theorem RepresentsBasis.withMark {epsilon : Rat}
    (represents : problem.RepresentsBasis count epsilon tableau) (mark : Option (Int × Int)) :
    problem.RepresentsBasis count epsilon (tableau.withMark mark) :=
  ⟨represents.height, represents.breadth, represents.columnLabels, represents.rowCount,
    represents.distinct, represents.known, represents.unit, represents.entering,
    represents.decision, represents.slack⟩

/-- **Every tableau of a run represents its basis**, and so does every record of its
history, for every tolerance that is positive and at most one. -/
theorem run_represents_basis (valid : problem.validate = .ok count)
    (positive : 0 < settings.epsilon) (small : settings.epsilon ≤ 1) :
    (∀ done tableau, problem.tableauAt settings done = some tableau →
      problem.RepresentsBasis count settings.epsilon tableau) ∧
    ∃ solution, problem.solve settings false = .ok solution ∧
      ∀ record ∈ solution.history,
        problem.RepresentsBasis count settings.epsilon record.tableau := by
  have canonical := canonical_tableauAt valid positive.le small
  have represents : ∀ done tableau, problem.tableauAt settings done = some tableau →
      problem.RepresentsBasis count settings.epsilon tableau := by
    intro done tableau here
    exact (frames_tableauAt valid done tableau here).representsBasis valid
      (canonical done tableau here) positive.le
  obtain ⟨start, built, -⟩ := exists_startingTableau valid
  obtain ⟨solution, _, _, _, _, answer, -⟩ := solve_answers valid positive.le canonical
  refine ⟨represents, solution, answer, fun record member => ?_⟩
  obtain ⟨done, tableau, mark, here, shown⟩ := exists_tableauAt_of_mem_history built answer member
  rw [shown]
  exact (represents done tableau here).withMark mark

/-- Two limits, of which the second one is a little tighter for the first variable. -/
def tighterLimit : Problem Rat where
  direction := .maximize
  variableCount := .integer 2
  objective := [4, 3]
  constraints := [⟨[2, 1], .atMost, 4⟩, ⟨[3, 1 / 2], .atMost, 5⟩]

/-- The standard settings with the tolerance one. -/
def coarse : Settings Rat := { Settings.standard with epsilon := 1 }

/-- With this tolerance the ratios of the two limits count as equal, the pivot sets cells of
its own row to zero and makes a right-hand side negative, and the result still
represents a basis. -/
theorem run_represents_basis_tighterLimit :
    ∃ tableau, tighterLimit.tableauAt coarse 1 = some tableau ∧
      tableau.cells = [[1, 0, 0, 0, 2], [0, -1, -3 / 2, 1, -1], [0, -1, 2, 0, 8]] ∧
      tableau.rowLabels = ["x1", "s2"] ∧
        tighterLimit.RepresentsBasis (.whole 2) 1 tableau := by
  have valid : tighterLimit.validate = .ok (.whole 2) := by rfl
  have seen : (tighterLimit.tableauAt coarse 1).map (fun tableau =>
      (tableau.cells, tableau.rowLabels)) = some ([[1, 0, 0, 0, 2], [0, -1, -3 / 2, 1, -1],
        [0, -1, 2, 0, 8]], ["x1", "s2"]) := by decide +kernel
  obtain ⟨tableau, here, parts⟩ := Option.map_eq_some_iff.mp seen
  rw [Prod.mk.injEq] at parts
  have positive : 0 < coarse.epsilon := by decide +kernel
  have small : coarse.epsilon ≤ 1 := by decide +kernel
  have represents := (run_represents_basis valid positive small).1 1 tableau here
  exact ⟨tableau, here, parts.1, parts.2, represents⟩

end Problem

end SimplexSolver
