import Mathlib.Algebra.BigOperators.Ring.Finset
import Mathlib.Algebra.Order.BigOperators.Group.Finset
import SimplexSolver.Proofs.Reached
import SimplexSolver.Tableau.BasicSolution

/-!
# The basis of a tableau

The label of a constraint row names the basic variable of that row. Labels are
looked up among the column labels, and since these are all different
(`startingLabels_nodup`), a row label stands for one column (`basicColumn`).

In a tableau of a run the column of a basic variable is a unit vector: one in its
own row, zero in every other row and in the objective row (`Canonical`). This is
true of the starting tableau, where the basis is made of the slack variables, and
a pivot keeps it as long as the tolerance does not exceed one, because then no one
is set to zero. Nothing else is needed of the tolerance.

The basic solution gives each basic variable the right-hand side of its row and
zero to all others. As a function of the column this is `basicValue`, and
`basicSolution_eq` says that the look-up of labels computes just that.
-/

set_option autoImplicit false

namespace SimplexSolver

open Tableau

/-! ## Labels are different -/

theorem numeral_injective : Function.Injective numeral := by
  intro left right same
  have read : Nat.ofDigitChars 10 (numeral left) 0 = Nat.ofDigitChars 10 (numeral right) 0 :=
    congrArg (Nat.ofDigitChars 10 · 0) same
  rwa [numeral, numeral, Nat.ofDigitChars_ten_toDigits, Nat.ofDigitChars_ten_toDigits] at read

theorem decisionName_injective : Function.Injective decisionName := by
  intro left right same
  have digits := String.ofList_injective same
  simp only [decisionChars, List.cons.injEq, true_and] at digits
  exact Nat.succ_injective (numeral_injective digits)

theorem slackName_injective : Function.Injective slackName := by
  intro left right same
  have digits := String.ofList_injective same
  simp only [List.cons.injEq, true_and] at digits
  exact Nat.succ_injective (numeral_injective digits)

theorem decisionName_ne_slackName (decision slack : Nat) :
    decisionName decision ≠ slackName slack := by
  intro same
  have digits := String.ofList_injective same
  simp [decisionChars] at digits

theorem decisionName_ne_boundLabel (index : Nat) : decisionName index ≠ boundLabel := by
  intro same
  have digits := congrArg String.toList same
  simp [decisionName, decisionChars, boundLabel] at digits

theorem slackName_ne_boundLabel (index : Nat) : slackName index ≠ boundLabel := by
  intro same
  have digits := congrArg String.toList same
  simp [slackName, boundLabel] at digits

/-- **The column labels of a starting tableau are all different.** -/
theorem Problem.startingLabels_nodup {α : Type} (problem : Problem α) (size : Nat) :
    (problem.startingLabels size).Nodup := by
  unfold startingLabels slackLabels
  refine List.Nodup.append (List.Nodup.append ?_ ?_ ?_) (List.nodup_singleton _) ?_
  · exact List.nodup_range.map decisionName_injective
  · exact List.nodup_range.map slackName_injective
  · intro label first second
    obtain ⟨decision, -, rfl⟩ := List.mem_map.mp first
    obtain ⟨slack, -, same⟩ := List.mem_map.mp second
    exact decisionName_ne_slackName decision slack same.symm
  · intro label first second
    rw [List.mem_singleton.mp second] at first
    rcases List.mem_append.mp first with member | member
    · obtain ⟨index, -, same⟩ := List.mem_map.mp member
      exact decisionName_ne_boundLabel index same
    · obtain ⟨index, -, same⟩ := List.mem_map.mp member
      exact slackName_ne_boundLabel index same

namespace Tableau

/-! ## Basic columns -/

/-- The column of the basic variable of a row. -/
def basicColumn {α : Type} (tableau : Tableau α) (row : Nat) : Nat :=
  tableau.columnLabels.idxOf (tableau.rowLabels.getD row "")

/-- A column that is the column of some basic variable. -/
def IsBasic {α : Type} (tableau : Tableau α) (column : Nat) : Prop :=
  ∃ row < tableau.constraintCount, tableau.basicColumn row = column

/-- The basic column of a row, by the label of the row. -/
theorem basicColumn_eq_of_label {α : Type} {tableau : Tableau α}
    (distinct : tableau.columnLabels.Nodup) {row column : Nat} {label : String}
    (here : tableau.rowLabels[row]? = some label)
    (there : tableau.columnLabels[column]? = some label) : tableau.basicColumn row = column := by
  obtain ⟨inside, rfl⟩ := List.getElem?_eq_some_iff.mp there
  rw [basicColumn, List.getD_eq_getElem?_getD, here, Option.getD_some]
  exact distinct.idxOf_getElem column inside

/-- Every row has a basic variable, and its column is a unit vector. -/
structure Canonical (tableau : Tableau Rat) : Prop where
  distinct : tableau.columnLabels.Nodup
  inside : ∀ row < tableau.constraintCount, tableau.basicColumn row < tableau.width
  unit : ∀ row < tableau.constraintCount, ∀ other ≤ tableau.constraintCount,
    tableau.cell other (tableau.basicColumn row) = if other = row then 1 else 0

namespace Canonical

variable {tableau : Tableau Rat}

/-- Different rows have different basic variables. -/
theorem basicColumn_inj (canonical : tableau.Canonical) {row other : Nat}
    (inside : row < tableau.constraintCount) (within : other < tableau.constraintCount)
    (same : tableau.basicColumn row = tableau.basicColumn other) : row = other := by
  by_contra different
  have one := canonical.unit row inside row inside.le
  have zero := canonical.unit other within row inside.le
  rw [if_pos rfl, same, zero, if_neg different] at one
  exact zero_ne_one one

/-- A column with a cell other than zero in the objective row is not basic. -/
theorem not_isBasic (canonical : tableau.Canonical) {column : Nat}
    (cost : tableau.cell tableau.constraintCount column ≠ 0) : ¬ tableau.IsBasic column := by
  rintro ⟨row, inside, rfl⟩
  rw [canonical.unit row inside _ le_rfl, if_neg inside.ne'] at cost
  exact cost rfl

end Canonical

end Tableau

/-! ## A pivot exchanges two basic variables -/

namespace PivotStep

variable {settings : Settings Rat} {tableau next : Tableau Rat} {leaving column : Nat}

theorem basicColumn_eq (tolerance : 0 ≤ settings.epsilon)
    (step : PivotStep settings tableau next leaving column)
    (distinct : tableau.columnLabels.Nodup) (row : Nat) :
    next.basicColumn row = if row = leaving then column else tableau.basicColumn row := by
  have within : column < tableau.columnLabels.length := step.column_lt_columnCount
  have inside : leaving < tableau.rowLabels.length := step.leaving_lt tolerance
  rw [basicColumn, step.columnLabels_eq, step.rowLabels_eq, List.getD_eq_getElem?_getD,
    List.getElem?_set]
  by_cases here : row = leaving
  · rw [if_pos here, if_pos here.symm, if_pos (here ▸ inside), Option.getD_some,
      List.getD_eq_getElem _ _ within]
    exact distinct.idxOf_getElem column within
  · rw [if_neg here, if_neg (Ne.symm here), ← List.getD_eq_getElem?_getD]
    rfl

/-- The entering column was not basic. -/
theorem column_not_isBasic (tolerance : 0 ≤ settings.epsilon)
    (step : PivotStep settings tableau next leaving column) (canonical : tableau.Canonical) :
    ¬ tableau.IsBasic column := by
  have improves := cell_of_enteringColumn step.entering
  exact canonical.not_isBasic (by linarith [improves] : _ < (0 : Rat)).ne

/-- A pivot keeps basic columns unit vectors, if the tolerance is at most one. -/
theorem canonical (tolerance : 0 ≤ settings.epsilon) (small : settings.epsilon ≤ 1)
    (step : PivotStep settings tableau next leaving column) (canonical : tableau.Canonical) :
    next.Canonical := by
  have columns := step.basicColumn_eq tolerance canonical.distinct
  refine ⟨step.columnLabels_eq ▸ canonical.distinct, ?_, ?_⟩
  · intro row inside
    rw [columns, step.width_eq]
    split
    · exact step.column_lt_width
    · exact canonical.inside row (step.constraintCount_eq ▸ inside)
  · intro row inside other within
    rw [step.constraintCount_eq] at inside within
    rw [columns, step.cell_eq]
    by_cases here : row = leaving
    · rw [if_pos here, if_pos rfl, here]
    · have apart : tableau.basicColumn row ≠ column := fun same =>
        step.column_not_isBasic tolerance canonical ⟨row, inside, same⟩
      -- The leaving row is zero in the column of another basic variable.
      have gone : tableau.cell leaving (tableau.basicColumn row) = 0 := by
        rw [canonical.unit row inside _ (step.leaving_lt tolerance).le, if_neg (Ne.symm here)]
      have swept : tableau.sweptCell leaving column other (tableau.basicColumn row) =
          if other = row then 1 else 0 := by
        unfold sweptCell
        split
        · rename_i same
          rw [gone, zero_div, same, if_neg (Ne.symm here)]
        · rw [gone, zero_div, mul_zero, sub_zero, canonical.unit row inside other within]
      rw [if_neg here, if_neg apart, swept]
      apply snap_of_large
      split
      · exact fun _ => by rwa [abs_one]
      · exact fun impossible => absurd rfl impossible

theorem isBasic_iff (tolerance : 0 ≤ settings.epsilon)
    (step : PivotStep settings tableau next leaving column) (canonical : tableau.Canonical)
    {index : Nat} : next.IsBasic index ↔
      index = column ∨ tableau.IsBasic index ∧ index ≠ tableau.basicColumn leaving := by
  have columns := step.basicColumn_eq tolerance canonical.distinct
  have low := step.leaving_lt tolerance
  constructor
  · rintro ⟨row, inside, rfl⟩
    rw [step.constraintCount_eq] at inside
    rw [columns]
    split
    · exact .inl rfl
    · rename_i different
      exact .inr ⟨⟨row, inside, rfl⟩, fun same =>
        different (canonical.basicColumn_inj inside low same)⟩
  · rintro (rfl | ⟨⟨row, inside, rfl⟩, different⟩)
    · exact ⟨leaving, step.constraintCount_eq ▸ low, by rw [columns, if_pos rfl]⟩
    · refine ⟨row, step.constraintCount_eq ▸ inside, ?_⟩
      have elsewhere : row ≠ leaving := fun same => different (by rw [same])
      rw [columns, if_neg elsewhere]

end PivotStep

/-! ## The starting basis -/

theorem getD_zeros (length column : Nat) : (List.replicate length (0 : Rat)).getD column 0 = 0 := by
  rcases Nat.lt_or_ge column length with inside | outside
  · exact List.getD_replicate _ inside
  · exact List.getD_eq_default _ _ (by simpa using outside)

/-- A value of a list that is given by its values. -/
theorem getD_map_range {size index : Nat} (inside : index < size) (values : Nat → Rat) :
    ((List.range size).map values).getD index 0 = values index := by
  rw [List.getD_eq_getElem _ _ (by simpa using inside)]
  simp

namespace Problem

variable {problem : Problem Rat} {count : Count} {start : Tableau Rat}

theorem getD_unitRow {total index : Nat} (inside : index < total) (own : Nat) :
    (unitRow total own : List Rat).getD index 0 = if index = own then 1 else 0 :=
  getD_map_range inside _

/-- The columns of the decision variables come first. -/
theorem Frames.columnLabels_decision {tableau : Tableau Rat}
    (frames : problem.Frames count tableau) {index : Nat} (inside : index < count.toNat) :
    tableau.columnLabels[index]? = some (decisionName index) := by
  simp [frames.columnLabels, startingLabels, inside, Nat.lt_add_right]

/-- The columns of the slack variables follow. -/
theorem Frames.columnLabels_slack {tableau : Tableau Rat}
    (frames : problem.Frames count tableau) {index : Nat}
    (inside : index < problem.constraints.length) :
    tableau.columnLabels[count.toNat + index]? = some (slackName index) := by
  simp [frames.columnLabels, startingLabels, slackLabels, List.getElem?_append, inside]

section Start

variable (valid : problem.validate = .ok count) (built : problem.startingTableau = .ok start)
include valid built

theorem cells_start : start.cells = problem.startingCells := by
  obtain ⟨found, same, cells, -⟩ := exists_startingTableau valid
  rw [built, Except.ok.injEq] at same
  rw [same, cells]

theorem rowLabels_start : start.rowLabels = problem.slackLabels := by
  obtain ⟨found, same, -, rows, -⟩ := exists_startingTableau valid
  rw [built, Except.ok.injEq] at same
  rw [same, rows]

/-- A constraint row of the starting tableau. -/
theorem cells_start_getD {row : Nat} (inside : row < problem.constraints.length) :
    start.cells.getD row [] =
      constraintRow problem.constraints.length row problem.constraints[row] := by
  rw [cells_start valid built, startingCells, List.getD_append _ _ _ _ (by simpa using inside),
    List.getD_eq_getElem _ _ (by simpa using inside), List.getElem_mapIdx]

/-- The objective row of the starting tableau. -/
theorem cells_start_objective : start.cells.getD problem.constraints.length [] =
    startingObjective problem.direction problem.constraints.length problem.objective := by
  rw [cells_start valid built, startingCells, List.getD_append_right _ _ _ _ (by simp)]
  simp

/-- The coefficients of the constraints stand in the columns of the decision
variables. -/
theorem cell_start_decision {row index : Nat} (inside : row < problem.constraints.length)
    (within : index < count.toNat) :
    start.cell row index = problem.constraints[row].coefficients.getD index 0 := by
  have long := (lengths_of_validate valid).2 _ (List.getElem_mem inside)
  rw [cell, cells_start_getD valid built inside, constraintRow, List.append_assoc,
    List.getD_append _ _ _ _ (long ▸ within)]

/-- The columns of the slack variables form a unit matrix. -/
theorem cell_start_slack {row index : Nat} (inside : row < problem.constraints.length)
    (within : index < problem.constraints.length) :
    start.cell row (count.toNat + index) = if index = row then 1 else 0 := by
  have long := (lengths_of_validate valid).2 _ (List.getElem_mem inside)
  rw [cell, cells_start_getD valid built inside, constraintRow, List.append_assoc,
    List.getD_append_right _ _ _ _ (by rw [long]; exact Nat.le_add_right _ _), long,
    Nat.add_sub_cancel_left, List.getD_append _ _ _ _ (by simpa using within)]
  exact getD_unitRow within row

/-- The right-hand sides of the constraints stand in the last column. -/
theorem rightSide_start {row : Nat} (inside : row < problem.constraints.length) :
    start.rightSide row = problem.constraints[row].bound := by
  have long := (lengths_of_validate valid).2 _ (List.getElem_mem inside)
  have frames := frames_start valid built
  rw [rightSide, cell, cells_start_getD valid built inside, constraintRow, frames.width_eq,
    List.getD_append_right _ _ _ _ (by simp [long])]
  simp [long]

/-- The objective row holds the coefficients of the objective, negated for a
maximisation. -/
theorem cell_start_objective {index : Nat} (within : index < count.toNat) :
    start.cell problem.constraints.length index =
      if problem.direction = .maximize then -problem.objective.getD index 0
      else problem.objective.getD index 0 := by
  have long := (lengths_of_validate valid).1
  rw [cell, cells_start_objective valid built, startingObjective, List.append_assoc,
    List.getD_append _ _ _ _ (by simpa [long] using within),
    List.getD_eq_getElem _ _ (by simpa [long] using within), List.getElem_map,
    List.getD_eq_getElem _ _ (long ▸ within)]
  split
  · exact add_zero _
  · exact add_zero _

/-- The objective row is zero in the columns of the slack variables and on the right. -/
theorem cell_start_objective_slack {index : Nat} :
    start.cell problem.constraints.length (count.toNat + index) = 0 := by
  have long := (lengths_of_validate valid).1
  rw [cell, cells_start_objective valid built, startingObjective, List.append_assoc,
    List.getD_append_right _ _ _ _ (by simp [long]), ← List.replicate_succ']
  exact getD_zeros _ _

/-- The slack variables are the first basis. -/
theorem basicColumn_start {row : Nat} (inside : row < problem.constraints.length) :
    start.basicColumn row = count.toNat + row := by
  have frames := frames_start valid built
  have distinct : start.columnLabels.Nodup := frames.columnLabels ▸ problem.startingLabels_nodup _
  have label : start.rowLabels[row]? = some (slackName row) := by
    simp [rowLabels_start valid built, slackLabels, inside]
  exact basicColumn_eq_of_label distinct label (frames.columnLabels_slack inside)

/-- The starting tableau is canonical. -/
theorem canonical_start : start.Canonical := by
  have frames := frames_start valid built
  refine ⟨frames.columnLabels ▸ problem.startingLabels_nodup _, ?_, ?_⟩
  · intro row inside
    rw [frames.rows] at inside
    rw [basicColumn_start valid built inside, frames.width_eq]
    omega
  · intro row inside other within
    rw [frames.rows] at inside within
    rw [basicColumn_start valid built inside]
    rcases within.lt_or_eq with below | rfl
    · rw [cell_start_slack valid built below inside]
      exact if_congr eq_comm rfl rfl
    · rw [cell_start_objective_slack valid built, if_neg inside.ne']

end Start

/-- **Every tableau of a run is canonical**, if the tolerance is at most one. -/
theorem canonical_tableauAt {settings : Settings Rat} (valid : problem.validate = .ok count)
    (tolerance : 0 ≤ settings.epsilon) (small : settings.epsilon ≤ 1) : ∀ done tableau,
      problem.tableauAt settings done = some tableau → tableau.Canonical := by
  refine tableauAt_induction valid tolerance (fun start => canonical_start valid) ?_
  intro done tableau next leaving column _ _ step canonical
  exact step.canonical tolerance small canonical

end Problem

/-! ## The basic solution -/

/-- A step that succeeds on all items of a list succeeds on the list. -/
theorem mapM_eq_ok_map {ε β γ : Type} {step : β → Except ε γ} {result : β → γ} {items : List β}
    (each : ∀ item ∈ items, step item = .ok (result item)) :
    items.mapM step = .ok (items.map result) := by
  induction items with
  | nil => rfl
  | cons item rest ih =>
      rw [List.mapM_cons, each item List.mem_cons_self,
        ih fun other member => each other (List.mem_cons_of_mem _ member)]
      rfl

namespace Tableau

/-- The point that gives each basic variable a value of its row, and zero to the
others. -/
def spread (tableau : Tableau Rat) (values : Nat → Rat) (column : Nat) : Rat :=
  ∑ row ∈ Finset.range tableau.constraintCount,
    if tableau.basicColumn row = column then values row else 0

/-- The value of the variable of a column in the basic solution. -/
def basicValue (tableau : Tableau Rat) : Nat → Rat := tableau.spread tableau.rightSide

section Values

variable {tableau : Tableau Rat}

theorem spread_basicColumn (canonical : tableau.Canonical) (values : Nat → Rat) {row : Nat}
    (inside : row < tableau.constraintCount) :
    tableau.spread values (tableau.basicColumn row) = values row := by
  rw [spread, Finset.sum_eq_single row]
  · exact if_pos rfl
  · intro other within different
    exact if_neg fun same =>
      different (canonical.basicColumn_inj (Finset.mem_range.mp within) inside same)
  · exact fun outside => absurd (Finset.mem_range.mpr inside) outside

theorem spread_of_not_isBasic (values : Nat → Rat) {column : Nat}
    (free : ¬ tableau.IsBasic column) : tableau.spread values column = 0 := by
  refine Finset.sum_eq_zero fun row inside => if_neg fun same => ?_
  exact free ⟨row, Finset.mem_range.mp inside, same⟩

/-- A basic solution is not negative when no right-hand side is. -/
theorem basicValue_nonneg (nonneg : ∀ row < tableau.constraintCount, 0 ≤ tableau.rightSide row)
    (column : Nat) : 0 ≤ tableau.basicValue column := by
  rw [basicValue, spread]
  refine Finset.sum_nonneg fun row inside => ?_
  split
  · exact nonneg row (Finset.mem_range.mp inside)
  · exact le_rfl

/-! ### Looking up the labels -/

/-- Giving a variable its value changes one place of all values, decision variables
first. -/
theorem assign_eq {α : Type} {tableau : Tableau α} {values : List α × List α} {label : String}
    (value : α) (size : tableau.variableCount.toInt = values.1.length)
    (inside : tableau.columnLabels.idxOf label < values.1.length + values.2.length)
    (known : label ∈ tableau.columnLabels) :
    ∃ result, tableau.assign values label value = .ok result ∧
      result.1.length = values.1.length ∧ result.2.length = values.2.length ∧
        result.1 ++ result.2 =
          (values.1 ++ values.2).set (tableau.columnLabels.idxOf label) value := by
  have found : tableau.columnLabels.findIdx? (· == label) =
      some (tableau.columnLabels.idxOf label) := by
    rw [List.findIdx?_eq_some_iff_findIdx_eq]
    exact ⟨List.idxOf_lt_length_of_mem known, rfl⟩
  unfold assign
  rw [found]
  simp only [size, Nat.cast_lt]
  split
  · rename_i first
    refine ⟨_, rfl, List.length_set, rfl, ?_⟩
    rw [List.set_append_left _ _ first]
  · rename_i later
    have place : ((tableau.columnLabels.idxOf label : Int) - (values.1.length : Int)).toNat =
        tableau.columnLabels.idxOf label - values.1.length := by omega
    have within : tableau.columnLabels.idxOf label - values.1.length < values.2.length := by omega
    rw [place, if_pos within]
    refine ⟨_, rfl, rfl, List.length_set, ?_⟩
    rw [List.set_append_right _ _ (not_lt.mp later)]

/-- Giving the variables of several rows their values changes one place after the
other. -/
theorem assignAll_eq {α : Type} {tableau : Tableau α} (pairs : List (String × α))
    (values : List α × List α) (size : tableau.variableCount.toInt = values.1.length)
    (inside : ∀ pair ∈ pairs, pair.1 ∈ tableau.columnLabels ∧
      tableau.columnLabels.idxOf pair.1 < values.1.length + values.2.length) :
    ∃ result, tableau.assignAll values pairs = .ok result ∧
      result.1.length = values.1.length ∧ result.2.length = values.2.length ∧
        result.1 ++ result.2 = pairs.foldl
          (fun all pair => all.set (tableau.columnLabels.idxOf pair.1) pair.2)
          (values.1 ++ values.2) := by
  induction pairs generalizing values with
  | nil => exact ⟨values, rfl, rfl, rfl, rfl⟩
  | cons pair rest ih =>
      obtain ⟨known, within⟩ := inside pair List.mem_cons_self
      obtain ⟨middle, assigned, first, second, changed⟩ := assign_eq pair.2 size within known
      obtain ⟨result, finished, decision, slack, all⟩ := ih middle (size.trans (by rw [first]))
        fun other member => by
          rw [first, second]
          exact inside other (List.mem_cons_of_mem _ member)
      refine ⟨result, ?_, decision.trans first, slack.trans second, ?_⟩
      · simp [assignAll, assigned, finished, bind, Except.bind]
      · rw [all, changed, List.foldl_cons]

/-- The places filled in by the first rows, where each place is filled in once. -/
theorem getD_foldl_set (canonical : tableau.Canonical) {all : List Rat}
    (empty : ∀ column, all.getD column 0 = 0) {column : Nat} (within : column < all.length)
    (rows : Nat) (inside : rows ≤ tableau.constraintCount) :
    ((List.range rows).foldl (fun all row => all.set (tableau.basicColumn row)
      (tableau.rightSide row)) all).getD column 0 =
        ∑ row ∈ Finset.range rows,
          if tableau.basicColumn row = column then tableau.rightSide row else 0 := by
  have long : ∀ rows, ((List.range rows).foldl (fun all row => all.set (tableau.basicColumn row)
      (tableau.rightSide row)) all).length = all.length := by
    intro rows
    induction rows with
    | zero => rfl
    | succ rows ih => rw [List.range_succ, List.foldl_append, List.foldl_cons, List.foldl_nil,
        List.length_set, ih]
  induction rows with
  | zero => exact empty column
  | succ rows ih =>
      have before := ih (Nat.le_of_succ_le inside)
      rw [List.range_succ, List.foldl_append, List.foldl_cons, List.foldl_nil,
        Finset.sum_range_succ, ← before, List.getD_eq_getElem?_getD, List.getElem?_set]
      by_cases here : tableau.basicColumn rows = column
      · have unused : ∑ row ∈ Finset.range rows, (if tableau.basicColumn row = column then
            tableau.rightSide row else 0) = 0 := by
          refine Finset.sum_eq_zero fun row above => if_neg fun same => ?_
          have earlier := Finset.mem_range.mp above
          exact earlier.ne (canonical.basicColumn_inj (earlier.trans inside) inside
            (same.trans here.symm))
        rw [if_pos here, if_pos here, before, unused, zero_add,
          if_pos (by rw [long, here]; exact within), Option.getD_some]
      · rw [if_neg here, if_neg here, add_zero, ← List.getD_eq_getElem?_getD]

theorem lastCell_eq {α : Type} [Scalar α] {row : List α} (full : row ≠ []) :
    lastCell row = .ok (row.getLastD 0) := by
  rw [lastCell, List.getLastD_eq_getLast?, List.getLast?_eq_getLast_of_ne_nil full]
  rfl

theorem mapM_lastCell {α : Type} [Scalar α] {rows : List (List α)}
    (full : ∀ row ∈ rows, row ≠ []) :
    rows.mapM lastCell = .ok (rows.map (·.getLastD 0)) :=
  mapM_eq_ok_map fun row member => lastCell_eq (full row member)

/-- The right-hand sides of the constraint rows, in order. -/
theorem bounds_eq {α : Type} [Scalar α] {tableau : Tableau α} (wide : 0 < tableau.columnCount) :
    tableau.bounds = .ok ((List.range tableau.constraintCount).map tableau.rightSide) := by
  have full : ∀ row ∈ tableau.constraintRows, row ≠ [] := by
    intro row member empty
    have long := tableau.rectangular row (List.mem_of_mem_dropLast member)
    rw [empty, List.length_nil] at long
    exact wide.ne long
  rw [bounds, if_neg wide.ne', mapM_lastCell full]
  refine congrArg Except.ok (List.ext_getElem ?_ ?_)
  · rw [List.length_map, List.length_map, List.length_range, length_constraintRows]
  · intro row first second
    have inside : row < tableau.constraintCount := by simpa using second
    have within : row < tableau.constraintRows.length := by simpa using first
    rw [List.getElem_map, List.getElem_map, List.getElem_range,
      ← List.getD_eq_getElem _ [] within, constraintRows_getD tableau inside,
      tableau.getLastD_row inside.le]

/-- What is read off a tableau once the labels of its rows have been looked up. -/
theorem basicSolution_of_assignAll {α : Type} [Scalar α] {tableau : Tableau α} {size : Nat}
    (number : tableau.variableCount.toInt = size)
    (wide : tableau.columnCount = size + tableau.constraintCount + 1) {decision slack : List α}
    (assigned : tableau.assignAll
      (List.replicate size 0, List.replicate tableau.constraintCount 0)
      (tableau.rowLabels.zip ((List.range tableau.constraintCount).map tableau.rightSide)) =
        .ok (decision, slack)) :
    tableau.basicSolution = .ok ⟨decision, slack, (if tableau.direction = .maximize then
      tableau.rightSide tableau.constraintCount
      else -tableau.rightSide tableau.constraintCount) + 0⟩ := by
  have slacks : tableau.slackCount.toNat = tableau.constraintCount := by
    rw [slackCount, number, wide]
    omega
  have sizes : tableau.variableCount.toNat = size := by
    rw [Count.toNat, number, Int.toNat_natCast]
  have last : lastCell tableau.objectiveRow =
      .ok (tableau.rightSide tableau.constraintCount) := by
    rw [objectiveRow_eq, lastCell_eq, tableau.getLastD_row le_rfl]
    intro empty
    have long := tableau.length_row (le_refl tableau.constraintCount)
    rw [empty, wide] at long
    simp at long
  unfold basicSolution
  rw [bounds_eq (by omega), slacks, sizes]
  simp only [bind, Except.bind, assigned, last, pure, Except.pure]

/-- The rows with the labels of their basic variables and their right-hand sides. -/
theorem zip_rightSides (tableau : Tableau Rat) :
    tableau.rowLabels.zip ((List.range tableau.constraintCount).map tableau.rightSide) =
      (List.range tableau.constraintCount).map fun row =>
        (tableau.rowLabels.getD row "", tableau.rightSide row) := by
  refine List.ext_getElem ?_ ?_
  · simp [constraintCount]
  · intro row first second
    have inside : row < tableau.rowLabels.length := by simpa [constraintCount] using second
    simp [inside]

/-- A list that holds the values of the columns, cut after the decision variables. -/
theorem eq_map_range_of_append {values : Nat → Rat} {front back : List Rat}
    (all : ∀ column < front.length + back.length, (front ++ back).getD column 0 = values column) :
    front = (List.range front.length).map values ∧
      back = (List.range back.length).map fun row => values (front.length + row) := by
  constructor
  · refine List.ext_getElem (by simp) fun column first second => ?_
    have here := all column (by omega)
    rw [List.getD_append _ _ _ _ first, List.getD_eq_getElem _ _ first] at here
    simpa using here
  · refine List.ext_getElem (by simp) fun row first second => ?_
    have here := all (front.length + row) (by omega)
    rw [List.getD_append_right _ _ _ _ (Nat.le_add_right _ _), Nat.add_sub_cancel_left,
      List.getD_eq_getElem _ _ first] at here
    simpa using here

/-- Looking up the labels of all rows gives the values of the columns. -/
theorem assignAll_zip (canonical : tableau.Canonical) {size : Nat}
    (number : tableau.variableCount.toInt = size)
    (wide : tableau.columnCount = size + tableau.constraintCount + 1) :
    tableau.assignAll (List.replicate size 0, List.replicate tableau.constraintCount 0)
      (tableau.rowLabels.zip ((List.range tableau.constraintCount).map tableau.rightSide)) =
        .ok ((List.range size).map tableau.basicValue,
          (List.range tableau.constraintCount).map fun row => tableau.basicValue (size + row)) := by
  have places : ∀ row < tableau.constraintCount,
      tableau.basicColumn row < size + tableau.constraintCount := fun row inside => by
    have within := canonical.inside row inside
    rw [width, wide] at within
    exact within
  have known : ∀ pair ∈ (List.range tableau.constraintCount).map (fun row =>
      (tableau.rowLabels.getD row "", tableau.rightSide row)),
      pair.1 ∈ tableau.columnLabels ∧ tableau.columnLabels.idxOf pair.1 <
        (List.replicate size (0 : Rat)).length +
          (List.replicate tableau.constraintCount (0 : Rat)).length := by
    intro pair member
    obtain ⟨row, inside, rfl⟩ := List.mem_map.mp member
    have low := List.mem_range.mp inside
    rw [List.length_replicate, List.length_replicate]
    refine ⟨List.idxOf_lt_length_iff.mp ?_, places row low⟩
    exact lt_of_lt_of_le (canonical.inside row low) (Nat.sub_le _ _)
  obtain ⟨⟨decision, slack⟩, assigned, first, second, all⟩ :=
    assignAll_eq _ (List.replicate size 0, List.replicate tableau.constraintCount 0)
      (by simpa using number) known
  rw [List.length_replicate] at first second
  have values : ∀ column < decision.length + slack.length,
      (decision ++ slack).getD column 0 = tableau.basicValue column := by
    intro column inside
    rw [first, second] at inside
    rw [all, List.foldl_map, List.replicate_append_replicate]
    exact getD_foldl_set canonical (getD_zeros _) (by simpa using inside) _ le_rfl
  obtain ⟨front, back⟩ := eq_map_range_of_append values
  rw [zip_rightSides, assigned, front, back, first, second]

/-- **The basic solution of a canonical tableau**: the values of its columns, decision
variables first. -/
theorem basicSolution_eq (canonical : tableau.Canonical) {size : Nat}
    (number : tableau.variableCount.toInt = size)
    (wide : tableau.columnCount = size + tableau.constraintCount + 1) :
    tableau.basicSolution = .ok {
      decision := (List.range size).map tableau.basicValue
      slack := (List.range tableau.constraintCount).map fun row => tableau.basicValue (size + row)
      objective := if tableau.direction = .maximize then
        tableau.rightSide tableau.constraintCount
        else -tableau.rightSide tableau.constraintCount } := by
  have assigned := assignAll_zip canonical number wide
  rw [basicSolution_of_assignAll number wide assigned, add_zero]

end Values

end Tableau

end SimplexSolver
