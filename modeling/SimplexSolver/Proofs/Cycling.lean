import Mathlib.Combinatorics.Pigeonhole
import Mathlib.Data.Finset.Powerset
import SimplexSolver.Proofs.Answers

/-!
# When a run repeats a basis

Choosing the first improving column is one half of a rule that never cycles. The
other half is to break ties between the rows that may leave in favour of the first
variable. The ratio test breaks them in favour of the first row, so the rule for
columns alone is not enough: the run of `alternatingRows` goes around six bases for
ever.

What is true is that the missing half is the only reason. If two tableaux of a run
have the same basis, then some pivot between them is made at a tie at zero and is
not made in the row of the first variable (`exists_not_fairTie_of_same_basis`). A run
without such a pivot goes through different bases only, and there are no more of
these than ways to choose one variable for each constraint.

The argument is the classical one. Between two tableaux with the same basis the
objective cannot have grown, so no pivot between them moved the basic solution. Of
the variables that enter and leave between them, take the last one and compare the
tableau in which it enters with a tableau in which it leaves: their objective rows
differ by a combination of constraint rows, and the signs of this combination are
wrong unless a row of an earlier variable was passed over.
-/

set_option autoImplicit false

namespace SimplexSolver

open Tableau

/-! ## Tableaux with the same solutions -/

/-- Two tableaux that describe the same points: their constraint rows have the same
solutions, and at these the gaps in their objective rows agree. -/
structure Equivalent (left right : Tableau Rat) : Prop where
  rows : left.constraintCount = right.constraintCount
  width : left.width = right.width
  solutions : ∀ point, left.Satisfies point ↔ right.Satisfies point
  objective : ∀ point, left.Satisfies point →
    left.gap point left.constraintCount = right.gap point right.constraintCount

section Compare

variable {left right : Tableau Rat}

/-- Objective rows of equivalent tableaux differ by a combination of constraint
rows, whose factors are the costs of the basic variables. -/
theorem Equivalent.cell_objective (same : Equivalent left right) (canonical : left.Canonical)
    {column : Nat} (inside : column < left.width) :
    left.cell left.constraintCount column = right.cell right.constraintCount column -
      ∑ row ∈ Finset.range left.constraintCount,
        right.cell right.constraintCount (left.basicColumn row) * left.cell row column := by
  -- Both tableaux are evaluated at the basic solution and one step along the column.
  have before := same.objective _ (satisfies_basicValue canonical)
  have after := same.objective _ (satisfies_add_ray canonical inside 1)
  rw [gap_objective_add_ray canonical inside, gap_add_smul, ← before,
    gap_objective_basicValue canonical, ← same.width, sum_mul_ray _ inside,
    sum_mul_spread canonical] at after
  linarith

/-- A column that improves one tableau and not the other meets a row in which its cell
and the cost of the basic variable in the other tableau have the same sign. -/
theorem Equivalent.exists_row (same : Equivalent left right) (canonical : left.Canonical)
    {column : Nat} (inside : column < left.width)
    (improves : left.cell left.constraintCount column < 0)
    (cost : 0 ≤ right.cell right.constraintCount column) :
    ∃ row < left.constraintCount,
      0 < right.cell right.constraintCount (left.basicColumn row) * left.cell row column := by
  by_contra none
  push Not at none
  have sum := Finset.sum_nonpos fun row member => none row (Finset.mem_range.mp member)
  linarith [same.cell_objective canonical inside]

/-- Equivalent tableaux with the same basic columns have the same objective value. -/
theorem Equivalent.rightSide_objective (same : Equivalent left right)
    (canonical : left.Canonical) (other : right.Canonical)
    (basis : ∀ column, left.IsBasic column → right.IsBasic column) :
    left.rightSide left.constraintCount = right.rightSide right.constraintCount := by
  have value := same.objective _ (satisfies_basicValue canonical)
  have costless : ∑ column ∈ Finset.range right.width,
      right.cell right.constraintCount column * left.basicValue column = 0 := by
    rw [← same.width, basicValue, sum_mul_spread canonical]
    refine Finset.sum_eq_zero fun row low => ?_
    have basic := basis _ ⟨row, Finset.mem_range.mp low, rfl⟩
    rw [mul_eq_zero]
    by_contra cost
    exact other.not_isBasic (fun zero => cost (.inl zero)) basic
  rw [gap_objective_basicValue canonical, gap, costless] at value
  linarith

/-- A solution that is zero outside the basis is the basic solution. -/
theorem eq_basicValue_of_satisfies {tableau : Tableau Rat} (canonical : tableau.Canonical)
    {point : Nat → Rat} (satisfied : tableau.Satisfies point)
    (outside : ∀ column, ¬ tableau.IsBasic column → point column = 0) :
    point = tableau.basicValue := by
  funext column
  by_cases basic : tableau.IsBasic column
  · obtain ⟨row, low, rfl⟩ := basic
    have equation := satisfied row low
    rw [gap, Finset.sum_eq_single (tableau.basicColumn row), canonical.unit row low row low.le,
      if_pos rfl, one_mul] at equation
    · rw [basicValue, spread_basicColumn canonical _ low]
      linarith
    · intro index _ different
      by_cases kept : tableau.IsBasic index
      · obtain ⟨other, within, rfl⟩ := kept
        have apart : row ≠ other := fun here => different (by rw [here])
        rw [canonical.unit other within row low.le, if_neg apart, zero_mul]
      · rw [outside index kept, mul_zero]
    · intro missing
      exact absurd (Finset.mem_range.mpr (canonical.inside row low)) missing
  · rw [outside column basic, basicValue, spread_of_not_isBasic _ basic]

end Compare

/-! ## Ties -/

/-- Ties at zero go to the first variable: of the eligible rows whose right-hand side
is zero, the one that leaves has the first basic variable. -/
def FairTie (settings : Settings Rat) (tableau : Tableau Rat) : Prop :=
  ∀ column ∈ tableau.enteringColumn settings.epsilon settings.rule,
    ∀ leaving ∈ tableau.leavingRow settings.epsilon column, tableau.rightSide leaving = 0 →
      ∀ row < tableau.constraintCount, settings.epsilon < tableau.cell row column →
        tableau.rightSide row = 0 → tableau.basicColumn leaving ≤ tableau.basicColumn row

instance (settings : Settings Rat) (tableau : Tableau Rat) :
    Decidable (FairTie settings tableau) := by
  unfold FairTie
  infer_instance

/-! ## A stretch of a run -/

/-- Consecutive tableaux of a run, with the pivots between them and what a run with a
fine tolerance says of them. -/
structure Stretch (settings : Settings Rat) (tableaux : Nat → Tableau Rat)
    (leaving entering : Nat → Nat) (total : Nat) : Prop where
  tolerance : 0 ≤ settings.epsilon
  steps : ∀ done < total, PivotStep settings (tableaux done) (tableaux (done + 1))
    (leaving done) (entering done)
  objective : ∀ done < total, ExactRow (tableaux done) (tableaux (done + 1))
    (leaving done) (entering done) (tableaux done).constraintCount
  canonical : ∀ done ≤ total, (tableaux done).Canonical
  nonneg : ∀ done ≤ total, ∀ row < (tableaux done).constraintCount,
    0 ≤ (tableaux done).rightSide row
  large : ∀ done ≤ total, ∀ row column, (tableaux done).cell row column ≠ 0 →
    settings.epsilon < |(tableaux done).cell row column|
  same : ∀ done ≤ total, ∀ other ≤ total, Equivalent (tableaux done) (tableaux other)

namespace Stretch

variable {settings : Settings Rat} {tableaux : Nat → Tableau Rat} {leaving entering : Nat → Nat}
  {total : Nat} (stretch : Stretch settings tableaux leaving entering total)
include stretch

/-! ### The objective along a stretch -/

/-- The cost of the entering column is negative. -/
theorem cost_neg {done : Nat} (inside : done < total) :
    (tableaux done).cell (tableaux done).constraintCount (entering done) < 0 := by
  linarith [cell_of_enteringColumn (stretch.steps done inside).entering, stretch.tolerance]

/-- A pivot does not lower the objective value, and keeps it only if the right-hand side
of the leaving row is zero. -/
theorem worth_step {done : Nat} (inside : done < total) :
    (tableaux done).rightSide (tableaux done).constraintCount ≤
        (tableaux (done + 1)).rightSide (tableaux (done + 1)).constraintCount ∧
      ((tableaux (done + 1)).rightSide (tableaux (done + 1)).constraintCount ≤
        (tableaux done).rightSide (tableaux done).constraintCount →
          (tableaux done).rightSide (leaving done) = 0) := by
  have step := stretch.steps done inside
  obtain ⟨grows, kept⟩ := step.rightSide_objective_le stretch.tolerance
    (stretch.objective done inside)
    (stretch.nonneg done inside.le _ (step.leaving_lt stretch.tolerance))
  exact ⟨grows, fun back => kept.mp (le_antisymm grows back)⟩

/-- The objective value does not fall along a stretch. -/
theorem worth_mono {done later : Nat} (before : done ≤ later) (inside : later ≤ total) :
    (tableaux done).rightSide (tableaux done).constraintCount ≤
      (tableaux later).rightSide (tableaux later).constraintCount := by
  induction before with
  | refl => exact le_rfl
  | step _ ih => exact (ih (Nat.le_of_succ_le inside)).trans (stretch.worth_step inside).1

/-- If the basis at the end is the basis at the beginning, every pivot is made at a
right-hand side of zero. -/
theorem rightSide_leaving_eq_zero
    (closed : ∀ column, (tableaux 0).IsBasic column ↔ (tableaux total).IsBasic column)
    {done : Nat} (inside : done < total) : (tableaux done).rightSide (leaving done) = 0 := by
  have ends := (stretch.same 0 (Nat.zero_le _) total le_rfl).rightSide_objective
    (stretch.canonical 0 (Nat.zero_le _)) (stretch.canonical total le_rfl)
    fun column => (closed column).mp
  have before := stretch.worth_mono (Nat.zero_le done) inside.le
  have after := stretch.worth_mono (Nat.succ_le_of_lt inside) le_rfl
  exact (stretch.worth_step inside).2 (by linarith)

/-- A pivot at a right-hand side of zero does not move the basic solution. -/
theorem basicValue_succ {done : Nat} (inside : done < total)
    (zero : (tableaux done).rightSide (leaving done) = 0) :
    (tableaux (done + 1)).basicValue = (tableaux done).basicValue := by
  have step := stretch.steps done inside
  have canonical := stretch.canonical done inside.le
  have satisfied := ((stretch.same done inside.le (done + 1) inside).solutions _).mp
    (satisfies_basicValue canonical)
  refine (eq_basicValue_of_satisfies (stretch.canonical (done + 1) inside) satisfied ?_).symm
  intro column outside
  rw [step.isBasic_iff stretch.tolerance canonical, not_or, not_and, not_not] at outside
  by_cases basic : (tableaux done).IsBasic column
  · rw [outside.2 basic, basicValue,
      spread_basicColumn canonical _ (step.leaving_lt stretch.tolerance), zero]
  · rw [basicValue, spread_of_not_isBasic _ basic]

/-- No pivot of a stretch that returns to its basis moves the basic solution. -/
theorem basicValue_eq
    (closed : ∀ column, (tableaux 0).IsBasic column ↔ (tableaux total).IsBasic column)
    {done : Nat} (inside : done ≤ total) :
    (tableaux done).basicValue = (tableaux 0).basicValue := by
  induction done with
  | zero => rfl
  | succ done ih =>
      rw [stretch.basicValue_succ inside (stretch.rightSide_leaving_eq_zero closed inside),
        ih (Nat.le_of_succ_le inside)]

/-! ### Variables that come and go -/

/-- A basic variable that does not leave stays basic. -/
theorem isBasic_of_stays {column done later : Nat} (before : done ≤ later)
    (inside : later ≤ total)
    (stays : ∀ place < total, (tableaux place).basicColumn (leaving place) ≠ column)
    (basic : (tableaux done).IsBasic column) : (tableaux later).IsBasic column := by
  induction before with
  | refl => exact basic
  | step _ ih =>
      rw [(stretch.steps _ inside).isBasic_iff stretch.tolerance
        (stretch.canonical _ (Nat.le_of_succ_le inside))]
      exact .inr ⟨ih (Nat.le_of_succ_le inside), (stays _ inside).symm⟩

/-- A variable that is not basic and does not enter does not become basic. -/
theorem not_isBasic_of_stays {column done later : Nat} (before : done ≤ later)
    (inside : later ≤ total) (stays : ∀ place < total, entering place ≠ column)
    (free : ¬ (tableaux done).IsBasic column) : ¬ (tableaux later).IsBasic column := by
  induction before with
  | refl => exact free
  | step _ ih =>
      rw [(stretch.steps _ inside).isBasic_iff stretch.tolerance
        (stretch.canonical _ (Nat.le_of_succ_le inside))]
      rintro (enters | ⟨basic, -⟩)
      · exact stays _ inside enters.symm
      · exact ih (Nat.le_of_succ_le inside) basic

/-- A cost before the first improving column is not negative. -/
theorem cost_nonneg (bland : settings.rule = .bland) {done column : Nat} (inside : done < total)
    (before : column < entering done) :
    0 ≤ (tableaux done).cell (tableaux done).constraintCount column := by
  have entered := (stretch.steps done inside).entering
  rw [bland] at entered
  exact nonneg_of_large (stretch.large done inside.le _ _)
    (cell_of_lt_enteringColumn entered before)

section Closed

variable (closed : ∀ column, (tableaux 0).IsBasic column ↔ (tableaux total).IsBasic column)
include closed

/-- In a stretch that returns to its basis every variable that enters also leaves. -/
theorem exists_leaves {done : Nat} (inside : done < total) :
    ∃ place < total, (tableaux place).basicColumn (leaving place) = entering done := by
  by_contra never
  push Not at never
  have step := stretch.steps done inside
  have canonical := stretch.canonical done inside.le
  have arrived : (tableaux (done + 1)).IsBasic (entering done) :=
    (step.isBasic_iff stretch.tolerance canonical).mpr (.inl rfl)
  have last := stretch.isBasic_of_stays (Nat.succ_le_of_lt inside) le_rfl never arrived
  have first := (closed (entering done)).mpr last
  exact step.column_not_isBasic stretch.tolerance canonical
    (stretch.isBasic_of_stays (Nat.zero_le done) inside.le never first)

/-- Every variable that leaves also enters. -/
theorem exists_enters {done : Nat} (inside : done < total) :
    ∃ place < total, entering place = (tableaux done).basicColumn (leaving done) := by
  by_contra never
  push Not at never
  have step := stretch.steps done inside
  have canonical := stretch.canonical done inside.le
  have gone : ¬ (tableaux (done + 1)).IsBasic ((tableaux done).basicColumn (leaving done)) := by
    rw [step.isBasic_iff stretch.tolerance canonical]
    rintro (enters | ⟨-, other⟩)
    · exact never done inside enters.symm
    · exact other rfl
  have last := stretch.not_isBasic_of_stays (Nat.succ_le_of_lt inside) le_rfl never gone
  have first := fun basic => last ((closed _).mp basic)
  exact stretch.not_isBasic_of_stays (Nat.zero_le done) inside.le never first
    ⟨_, step.leaving_lt stretch.tolerance, rfl⟩

/-- A variable that is basic in one tableau of the stretch and not in another one enters
somewhere. -/
theorem exists_enters_of_changes {column done other : Nat} (inside : done ≤ total)
    (within : other ≤ total) (basic : (tableaux done).IsBasic column)
    (free : ¬ (tableaux other).IsBasic column) : ∃ place < total, entering place = column := by
  by_contra never
  push Not at never
  have remains : ∀ place < total, (tableaux place).basicColumn (leaving place) ≠ column := by
    intro place low leaves
    obtain ⟨again, there, enters⟩ := stretch.exists_enters closed low
    exact never again there (enters.trans leaves)
  rcases le_total done other with before | after
  · exact free (stretch.isBasic_of_stays before within remains basic)
  · exact stretch.not_isBasic_of_stays after inside never free basic

/-- A row whose basic variable is not basic in another tableau of the stretch has the
right-hand side zero. -/
theorem rightSide_eq_zero_of_changes {done other row : Nat} (inside : done ≤ total)
    (within : other ≤ total) (low : row < (tableaux done).constraintCount)
    (free : ¬ (tableaux other).IsBasic ((tableaux done).basicColumn row)) :
    (tableaux done).rightSide row = 0 := by
  have value := congrFun ((stretch.basicValue_eq closed inside).trans
    (stretch.basicValue_eq closed within).symm) ((tableaux done).basicColumn row)
  rwa [basicValue, spread_basicColumn (stretch.canonical done inside) _ low, basicValue,
    spread_of_not_isBasic _ free] at value

/-! ### The last variable that comes and goes -/

/-- **A stretch that returns to its basis has an unfair tie.** -/
theorem exists_not_fairTie (bland : settings.rule = .bland) (some : 0 < total) :
    ∃ done < total, ¬ FairTie settings (tableaux done) := by
  -- The last variable that enters does so in `top`, and it leaves in `down`.
  obtain ⟨top, inside, last⟩ := Finset.exists_max_image (Finset.range total) entering
    ⟨0, Finset.mem_range.mpr some⟩
  rw [Finset.mem_range] at inside
  obtain ⟨down, within, leaves⟩ := stretch.exists_leaves closed inside
  have step := stretch.steps down within
  have canonical := stretch.canonical down within.le
  have low := step.leaving_lt stretch.tolerance
  have earlier : entering down < entering top := by
    refine lt_of_le_of_ne (last down (Finset.mem_range.mpr within)) fun equal => ?_
    refine step.column_not_isBasic stretch.tolerance canonical ?_
    rw [equal, ← leaves]
    exact ⟨_, low, rfl⟩
  have cost := stretch.cost_nonneg bland inside earlier
  obtain ⟨row, here, positive⟩ := (stretch.same down within.le top inside.le).exists_row canonical
    step.column_lt_width (stretch.cost_neg within) cost
  -- The basic variable of this row comes and goes as well, but it is not the last one.
  have charged := left_ne_zero_of_mul positive.ne'
  have free := (stretch.canonical top inside.le).not_isBasic charged
  have first : (tableaux down).basicColumn row < entering top := by
    obtain ⟨place, there, enters⟩ := stretch.exists_enters_of_changes closed within.le inside.le
      ⟨row, here, rfl⟩ free
    refine lt_of_le_of_ne (enters ▸ last place (Finset.mem_range.mpr there)) fun equal => ?_
    have own := canonical.basicColumn_inj here low (equal.trans leaves.symm)
    rw [equal, own] at positive
    exact absurd positive (not_lt.mpr (mul_neg_of_neg_of_pos (stretch.cost_neg inside)
      (step.element_pos stretch.tolerance)).le)
  have paid := (stretch.cost_nonneg bland inside first).lt_of_ne charged.symm
  have upward := (mul_pos_iff_of_pos_left paid).mp positive
  have eligible := lt_of_large (stretch.large down within.le row _) upward
  refine ⟨down, within, fun fair => ?_⟩
  have least := fair _ step.entering _ step.row
    (stretch.rightSide_leaving_eq_zero closed within) row here eligible
    (stretch.rightSide_eq_zero_of_changes closed within.le inside.le here free)
  rw [leaves] at least
  exact absurd first (not_lt.mpr least)

end Closed

end Stretch

/-! ## Bases of a run -/

namespace Tableau

/-- Tableaux with the same columns and the same set of row labels have the same basic
columns. -/
theorem isBasic_of_rowLabels {α : Type} {left right : Tableau α}
    (columns : left.columnLabels = right.columnLabels)
    (labels : ∀ label ∈ left.rowLabels, label ∈ right.rowLabels) {column : Nat}
    (basic : left.IsBasic column) : right.IsBasic column := by
  obtain ⟨row, low, rfl⟩ := basic
  have member : left.rowLabels.getD row "" ∈ left.rowLabels := by
    rw [List.getD_eq_getElem _ _ low]
    exact List.getElem_mem low
  obtain ⟨other, within, same⟩ := List.getElem_of_mem (labels _ member)
  refine ⟨other, within, ?_⟩
  rw [basicColumn, basicColumn, columns, List.getD_eq_getElem _ _ within, same]

/-- The columns of the basic variables. -/
def basicColumns {α : Type} (tableau : Tableau α) : Finset Nat :=
  (Finset.range tableau.constraintCount).image tableau.basicColumn

theorem mem_basicColumns_iff {α : Type} {tableau : Tableau α} {column : Nat} :
    column ∈ tableau.basicColumns ↔ tableau.IsBasic column := by
  simp [basicColumns, IsBasic]

/-- A basis has one variable for each constraint. -/
theorem Canonical.basicColumns_mem {tableau : Tableau Rat} (canonical : tableau.Canonical) :
    tableau.basicColumns ∈
      (Finset.range tableau.width).powersetCard tableau.constraintCount := by
  rw [Finset.mem_powersetCard]
  constructor
  · intro column member
    obtain ⟨row, low, rfl⟩ := mem_basicColumns_iff.mp member
    exact Finset.mem_range.mpr (canonical.inside row low)
  · rw [basicColumns, Finset.card_image_of_injOn, Finset.card_range]
    intro row low other within same
    exact canonical.basicColumn_inj (Finset.mem_range.mp low) (Finset.mem_range.mp within) same

end Tableau

namespace Problem

variable {problem : Problem Rat} {settings : Settings Rat} {count : Count}

section Run

variable (valid : problem.validate = .ok count) (tolerance : 0 ≤ settings.epsilon)
  (fine : problem.FineRun settings)
include valid tolerance fine

/-- Tableaux of a run with a fine tolerance are equivalent. -/
theorem equivalent_tableauAt {done other : Nat} {left right : Tableau Rat}
    (here : problem.tableauAt settings done = some left)
    (there : problem.tableauAt settings other = some right) : Equivalent left right := by
  obtain ⟨start, built, -⟩ := exists_startingTableau valid
  have keeps := fine.keepsConstraints tolerance
  have solutions := satisfies_tableauAt_iff valid tolerance built keeps
  have frames := frames_tableauAt valid done left here
  have others := frames_tableauAt valid other right there
  refine ⟨frames.rows.trans others.rows.symm, frames.width_eq.trans others.width_eq.symm, ?_, ?_⟩
  · intro point
    rw [solutions point done left here, solutions point other right there]
  · intro point satisfied
    have same := gap_objective_tableauAt valid tolerance built keeps (fine.keepsObjective tolerance)
      ((solutions point done left here).mp satisfied)
    rw [same done left here, same other right there]

/-- Between two tableaux of a run lies a stretch. -/
theorem exists_stretch {first total : Nat} {last : Tableau Rat}
    (there : problem.tableauAt settings (first + total) = some last) :
    ∃ tableaux leaving entering, Stretch settings tableaux leaving entering total ∧
      ∀ done ≤ total, problem.tableauAt settings (first + done) = some (tableaux done) := by
  have reach : ∀ done, ∃ tableau, done ≤ total →
      problem.tableauAt settings (first + done) = some tableau := by
    intro done
    by_cases inside : done ≤ total
    · obtain ⟨tableau, here⟩ := exists_tableauAt_of_le valid there (Nat.add_le_add_left inside _)
      exact ⟨tableau, fun _ => here⟩
    · exact ⟨last, fun within => absurd within inside⟩
  choose tableaux here using reach
  have move : ∀ done, ∃ leaving entering, done < total →
      PivotStep settings (tableaux done) (tableaux (done + 1)) leaving entering := by
    intro done
    by_cases inside : done < total
    · have next : problem.tableauAt settings (first + done + 1) = some (tableaux (done + 1)) :=
        here (done + 1) inside
      obtain ⟨tableau, leaving, entering, before, step⟩ := exists_pivotStep valid tolerance next
      rw [here done inside.le, Option.some.injEq] at before
      exact ⟨leaving, entering, fun _ => before ▸ step⟩
    · exact ⟨0, 0, fun within => absurd within inside⟩
  choose leaving entering steps using move
  refine ⟨tableaux, leaving, entering, ⟨tolerance, steps, ?_, ?_, ?_, ?_, ?_⟩, here⟩
  · intro done inside
    exact fine.exactRow tolerance (here done inside.le) (here (done + 1) inside)
      (steps done inside) _
  · exact fun done inside => fine.canonical valid tolerance _ _ (here done inside)
  · exact fun done inside => fine.rightSide_nonneg valid tolerance _ _ (here done inside)
  · exact fun done inside row column => fine.epsilon_lt_cell valid tolerance (here done inside)
  · exact fun done inside other within => equivalent_tableauAt valid tolerance fine
      (here done inside) (here other within)

omit tolerance fine in
/-- Tableaux of a run with the same set of row labels have the same basis. -/
theorem isBasic_iff_of_labels {first second : Nat} {left right : Tableau Rat}
    (here : problem.tableauAt settings first = some left)
    (there : problem.tableauAt settings second = some right)
    (labels : ∀ label, label ∈ left.rowLabels ↔ label ∈ right.rowLabels) (column : Nat) :
    left.IsBasic column ↔ right.IsBasic column := by
  have columns : left.columnLabels = right.columnLabels := by
    rw [(frames_tableauAt valid first left here).columnLabels,
      (frames_tableauAt valid second right there).columnLabels]
  exact ⟨isBasic_of_rowLabels columns fun label => (labels label).mp,
    isBasic_of_rowLabels columns.symm fun label => (labels label).mpr⟩

/-- **Between two tableaux of a run with the same basis lies an unfair tie.** -/
theorem exists_not_fairTie_of_same_basis (bland : settings.rule = .bland) {first second : Nat}
    (before : first < second) {left right : Tableau Rat}
    (here : problem.tableauAt settings first = some left)
    (there : problem.tableauAt settings second = some right)
    (basis : ∀ column, left.IsBasic column ↔ right.IsBasic column) :
    ∃ done tableau, first ≤ done ∧ done < second ∧
      problem.tableauAt settings done = some tableau ∧ ¬ FairTie settings tableau := by
  obtain ⟨total, rfl⟩ := Nat.exists_eq_add_of_le before.le
  obtain ⟨tableaux, leaving, entering, stretch, reach⟩ :=
    exists_stretch valid tolerance fine there
  have start := reach 0 (Nat.zero_le _)
  have ended := reach total le_rfl
  rw [Nat.add_zero, here, Option.some.injEq] at start
  rw [there, Option.some.injEq] at ended
  rw [start, ended] at basis
  obtain ⟨done, inside, unfair⟩ := stretch.exists_not_fairTie basis bland
    (Nat.lt_add_right_iff_pos.mp before)
  exact ⟨first + done, tableaux done, Nat.le_add_right _ _, Nat.add_lt_add_left inside _,
    reach done inside.le, unfair⟩

/-- A run without unfair ties never returns to a basis. -/
theorem eq_of_same_basis (bland : settings.rule = .bland)
    (fair : ∀ done tableau, problem.tableauAt settings done = some tableau →
      FairTie settings tableau) {first second : Nat} {left right : Tableau Rat}
    (here : problem.tableauAt settings first = some left)
    (there : problem.tableauAt settings second = some right)
    (basis : ∀ column, left.IsBasic column ↔ right.IsBasic column) : first = second := by
  by_contra different
  rcases Nat.lt_or_gt_of_ne different with before | after
  · obtain ⟨place, tableau, -, -, at_place, unfair⟩ :=
      exists_not_fairTie_of_same_basis valid tolerance fine bland before here there basis
    exact unfair (fair place tableau at_place)
  · obtain ⟨place, tableau, -, -, at_place, unfair⟩ :=
      exists_not_fairTie_of_same_basis valid tolerance fine bland after there here
        fun column => (basis column).symm
    exact unfair (fair place tableau at_place)

/-- **A run that does not return to a basis is shorter than the number of bases.** -/
theorem lt_choose_of_apart {done : Nat} {last : Tableau Rat}
    (here : problem.tableauAt settings done = some last)
    (apart : ∀ first second left right, first ≤ done → second ≤ done →
      problem.tableauAt settings first = some left →
        problem.tableauAt settings second = some right →
          (∀ column, left.IsBasic column ↔ right.IsBasic column) → first = second) :
    done < (count.toNat + problem.constraints.length).choose problem.constraints.length := by
  by_contra long
  set bases := (Finset.range (count.toNat + problem.constraints.length)).powersetCard
    problem.constraints.length
  have few : bases.card < (Finset.range (done + 1)).card := by
    rw [Finset.card_powersetCard, Finset.card_range, Finset.card_range]
    omega
  have reach : ∀ place ∈ Finset.range (done + 1),
      ∃ tableau, problem.tableauAt settings place = some tableau := fun place member =>
    exists_tableauAt_of_le valid here (Nat.lt_succ_iff.mp (Finset.mem_range.mp member))
  -- More tableaux than bases: two of them share one.
  have shared : ∀ place ∈ Finset.range (done + 1),
      ((problem.tableauAt settings place).elim ∅ basicColumns) ∈ bases := by
    intro place member
    obtain ⟨tableau, there⟩ := reach place member
    have frames := frames_tableauAt valid place tableau there
    have basis := (fine.canonical valid tolerance place tableau there).basicColumns_mem
    rw [frames.rows, frames.width_eq] at basis
    rwa [there]
  obtain ⟨first, member, second, other, different, same⟩ :=
    Finset.exists_ne_map_eq_of_card_lt_of_maps_to few shared
  obtain ⟨left, at_first⟩ := reach first member
  obtain ⟨right, at_second⟩ := reach second other
  rw [at_first, at_second, Option.elim_some, Option.elim_some] at same
  refine different (apart first second left right (Nat.lt_succ_iff.mp (Finset.mem_range.mp member))
    (Nat.lt_succ_iff.mp (Finset.mem_range.mp other)) at_first at_second ?_)
  intro column
  rw [← mem_basicColumns_iff, ← mem_basicColumns_iff, same]

/-- A run without unfair ties is shorter than the number of bases. -/
theorem done_lt_choose (bland : settings.rule = .bland)
    (fair : ∀ done tableau, problem.tableauAt settings done = some tableau →
      FairTie settings tableau) {done : Nat} {last : Tableau Rat}
    (here : problem.tableauAt settings done = some last) :
    done < (count.toNat + problem.constraints.length).choose problem.constraints.length :=
  lt_choose_of_apart valid tolerance fine here fun _ _ _ _ _ _ =>
    eq_of_same_basis valid tolerance fine bland fair

end Run

/-! ## The rule of the first improving column -/

/-- **The rule of the first improving column repeats a basis only past an unfair tie.** If
two tableaux of a run with a fine tolerance have the same set of row labels, then some
pivot between them is made at a tie at zero, and not in the row of the first variable.
A run without such a tie ends before a limit that is not below the number of bases, so
its solve ends with the status "optimal" or "unbounded". -/
theorem bland_repeats_only_past_unfair_tie (valid : problem.validate = .ok count)
    (tolerance : 0 ≤ settings.epsilon) (bland : settings.rule = .bland)
    (fine : problem.FineRun settings) :
    (∀ first second left right, first < second →
      problem.tableauAt settings first = some left →
        problem.tableauAt settings second = some right →
          (∀ label, label ∈ left.rowLabels ↔ label ∈ right.rowLabels) →
            ∃ done tableau, first ≤ done ∧ done < second ∧
              problem.tableauAt settings done = some tableau ∧ ¬ FairTie settings tableau) ∧
    ∀ limit, settings.maxIterations = some limit →
      limit.below ((count.toNat + problem.constraints.length).choose
        problem.constraints.length) = false →
          (∀ done tableau, problem.tableauAt settings done = some tableau →
            FairTie settings tableau) →
              ∃ solution, problem.solve settings false = .ok solution ∧
                (solution.status = .optimal ∨ solution.status = .unbounded) := by
  constructor
  · intro first second left right before here there labels
    exact exists_not_fairTie_of_same_basis valid tolerance fine bland before here there
      (isBasic_iff_of_labels valid here there labels)
  · intro limit given enough fair
    obtain ⟨solution, found, done, last, message, answer, limited, here, outcome, -⟩ :=
      solve_answers valid tolerance (fine.canonical valid tolerance)
    refine ⟨solution, answer, ?_⟩
    have early := done_lt_choose valid tolerance fine bland fair here
    have same : limit = found := by
      rw [Settings.limit, given] at limited
      exact Except.ok.inj limited
    subst same
    exact outcome.answers_of_lt early (by exact_mod_cast enough)

/-- The rule of the first improving column with the standard tolerance and a limit. -/
def firstColumn (limit : Int) : Settings Rat :=
  { Settings.standard with maxIterations := some (.whole limit), rule := .bland }

/-- A problem with ties at zero, on which the rule of the most negative cell cycles. -/
def degenerateTies : Problem Rat where
  direction := .maximize
  variableCount := .integer 4
  objective := [3 / 4, -150, 1 / 50, -6]
  constraints := [⟨[1 / 4, -60, -1 / 25, 9], .atMost, 0⟩, ⟨[1 / 2, -90, -1 / 50, 3], .atMost, 0⟩,
    ⟨[0, 0, 1, 0], .atMost, 1⟩]

/-- All ties of this problem are fair, so it is solved within the number of its bases. -/
theorem bland_repeats_only_past_unfair_tie_degenerateTies :
    (4 + 3).choose 3 = 35 ∧ ∃ solution,
      degenerateTies.solve (firstColumn 35) false = .ok solution ∧ solution.status = .optimal := by
  have valid : degenerateTies.validate = .ok (.whole 4) := by rfl
  have ended : (degenerateTies.tableauAt (firstColumn 35) 7).isNone := by decide +kernel
  have start : ∀ tableau ∈ degenerateTies.tableauAt (firstColumn 35) 0,
      FineCells (firstColumn 35).epsilon tableau.cells := by decide +kernel
  have checked : ∀ done < 7, ∀ tableau ∈ degenerateTies.tableauAt (firstColumn 35) done,
      FineTableau (firstColumn 35) tableau ∧ FairTie (firstColumn 35) tableau := by
    decide +kernel
  have fine := fineRun_of_checked valid ended start fun done inside tableau here =>
    (checked done inside tableau here).1
  have fair : ∀ done tableau, degenerateTies.tableauAt (firstColumn 35) done = some tableau →
      FairTie (firstColumn 35) tableau := fun done tableau here =>
    (checked done (lt_of_isNone_tableauAt valid ended here) tableau here).2
  have bounded : ∀ solution ∈ (degenerateTies.solve (firstColumn 35) false).toOption,
      solution.status ≠ .unbounded := by decide +kernel
  have solved := (bland_repeats_only_past_unfair_tie valid (by decide +kernel) rfl fine).2
  obtain ⟨solution, answer, answers⟩ := solved (.whole 35) rfl (by decide +kernel) fair
  have found : solution ∈ (degenerateTies.solve (firstColumn 35) false).toOption := by
    rw [answer]
    rfl
  exact ⟨by decide, solution, answer, answers.resolve_right (bounded solution found)⟩

/-- A problem in which two rows tie at zero at every other pivot and the first one leaves,
although the second one has the first variable. -/
def alternatingRows : Problem Rat where
  direction := .maximize
  variableCount := .integer 5
  objective := [1, -2, 2, 0, -1]
  constraints := [⟨[-2, 0, -1, 1, -1], .atMost, 0⟩, ⟨[1, -1, 1, 1, -2], .atMost, 0⟩]

/-- **The rule of the first improving column cycles.** The tolerance is fine for this run,
the tableaux after the first and the seventh pivot have the same row labels, and the
solve exceeds a limit that is the number of bases. -/
theorem bland_cycles_alternatingRows :
    alternatingRows.validate = .ok (.whole 5) ∧ (firstColumn 21).rule = .bland ∧
      alternatingRows.FineRun (firstColumn 21) ∧
      (∃ left right, alternatingRows.tableauAt (firstColumn 21) 1 = some left ∧
        alternatingRows.tableauAt (firstColumn 21) 7 = some right ∧
          left.rowLabels = right.rowLabels) ∧
      (firstColumn 21).maxIterations = some (.whole ((5 + 2).choose 2)) ∧
      ∃ solution, alternatingRows.solve (firstColumn 21) false = .ok solution ∧
        solution.status = .iterationLimitExceeded := by
  have valid : alternatingRows.validate = .ok (.whole 5) := by rfl
  have ended : (alternatingRows.tableauAt (firstColumn 21) 22).isNone := by decide +kernel
  have start : ∀ tableau ∈ alternatingRows.tableauAt (firstColumn 21) 0,
      FineCells (firstColumn 21).epsilon tableau.cells := by decide +kernel
  have checked : ∀ done < 22, ∀ tableau ∈ alternatingRows.tableauAt (firstColumn 21) done,
      FineTableau (firstColumn 21) tableau := by decide +kernel
  have labels : (alternatingRows.tableauAt (firstColumn 21) 1).map (·.rowLabels) =
      some ["s1", "x1"] ∧ (alternatingRows.tableauAt (firstColumn 21) 7).map (·.rowLabels) =
        some ["s1", "x1"] := by decide +kernel
  have reported : ∃ solution ∈ (alternatingRows.solve (firstColumn 21) false).toOption,
      solution.status = .iterationLimitExceeded := by decide +kernel
  obtain ⟨left, at_first, first⟩ := Option.map_eq_some_iff.mp labels.1
  obtain ⟨right, at_second, second⟩ := Option.map_eq_some_iff.mp labels.2
  obtain ⟨solution, answer, exceeded⟩ := reported
  exact ⟨valid, rfl, fineRun_of_checked valid ended start checked,
    ⟨left, right, at_first, at_second, first.trans second.symm⟩, rfl,
    solution, ok_of_toOption answer, exceeded⟩

end Problem

end SimplexSolver
