import SimplexSolver.Proofs.Courses

/-!
# Which pivot is chosen, and how far right-hand sides drift

The two rules for the entering column are characterised here: one takes the first
column that improves the objective by more than the tolerance, the other the first
column with the least cell of the objective row, if that cell is low enough.

The leaving row cannot be characterised so simply. The ratio test replaces its best
row only by one whose ratio is smaller by more than the tolerance, and ratios that
are close to each other may form a chain, so the row it ends with need not have the
least ratio. Two things are true of it (`LeastRatio`): no eligible row has a ratio
that lies below its ratio by more than the tolerance, and every eligible row above
it has a larger ratio. The second follows from the first, used at the moment at
which the row took the lead.

What the ratio test overlooks turns up in the right-hand sides after the pivot. A
row that was eligible loses at most the tolerance times its own cell, a row that was
passed over for a small positive cell at most the tolerance times the ratio of the
leaving row, and the others lose nothing (`LeastRatio.neg_drift_le_sweptCell`).
-/

set_option autoImplicit false

namespace SimplexSolver.Tableau

/-! ## The entering column -/

/-- The improving cells are listed by their columns. -/
theorem improving_pairwise {α : Type} [Scalar α] (epsilon : α) (row : List α) :
    (improving epsilon row).Pairwise fun left right => left.2 < right.2 := by
  have columns : (row.dropLast.zipIdx.map Prod.snd).Pairwise (· < ·) := by
    rw [List.zipIdx_map_snd]
    exact List.pairwise_lt_range'
  exact (List.pairwise_map.mp columns).filter _

/-- The search for the least cell goes on with the lower one of the first two cells. -/
theorem leastCell_cons_cons {α : Type} [Scalar α] (first next : α × Nat) (rest : List (α × Nat)) :
    leastCell (first :: next :: rest) =
      leastCell ((if Scalar.lt next.1 first.1 then next else first) :: rest) :=
  rfl

/-- The first of the least cells is not above any of the cells and below every cell before
it. -/
theorem leastCell_le {first best : Rat × Nat} {rest : List (Rat × Nat)}
    (ordered : (first :: rest).Pairwise fun left right => left.2 < right.2)
    (found : leastCell (first :: rest) = some best) :
    ∀ cell ∈ first :: rest, best.1 ≤ cell.1 ∧ (cell.2 < best.2 → best.1 < cell.1) := by
  induction rest generalizing first with
  | nil =>
      intro cell member
      obtain rfl : first = best := Option.some.inj found
      rw [List.mem_singleton.mp member]
      exact ⟨le_rfl, fun impossible => absurd impossible (lt_irrefl _)⟩
  | cons next rest ih =>
      intro cell member
      obtain ⟨front, later⟩ := List.pairwise_cons.mp ordered
      have step := front next List.mem_cons_self
      rw [leastCell_cons_cons] at found
      simp only [Scalar.lt_rat, decide_eq_true_eq] at found
      by_cases lower : next.1 < first.1
      · rw [if_pos lower] at found
        have known := ih later found
        have own := (known next List.mem_cons_self).1
        rcases List.mem_cons.mp member with rfl | other
        · exact ⟨own.trans lower.le, fun _ => own.trans_lt lower⟩
        · exact known cell other
      · rw [if_neg lower] at found
        have known :=
          ih (ordered.sublist ((List.sublist_cons_self next rest).cons_cons first)) found
        have own := known first List.mem_cons_self
        rcases List.mem_cons.mp member with rfl | other
        · exact own
        · rcases List.mem_cons.mp other with rfl | inside
          · exact ⟨own.1.trans (not_lt.mp lower), fun before =>
              (own.2 (step.trans before)).trans_le (not_lt.mp lower)⟩
          · exact known cell (List.mem_cons_of_mem _ inside)

section Entering

variable {tableau : Tableau Rat} {epsilon : Rat} {column : Nat}

/-- The first column that improves the objective by more than the tolerance. -/
structure FirstImproving (tableau : Tableau Rat) (epsilon : Rat) (column : Nat) : Prop where
  inside : column < tableau.width
  improves : tableau.cell tableau.constraintCount column < -epsilon
  first : ∀ earlier < column, -epsilon ≤ tableau.cell tableau.constraintCount earlier

/-- The first column with the least cell of the objective row. -/
structure FirstLeast (tableau : Tableau Rat) (column : Nat) : Prop where
  inside : column < tableau.width
  least : ∀ other < tableau.width,
    tableau.cell tableau.constraintCount column ≤ tableau.cell tableau.constraintCount other
  first : ∀ earlier < column,
    tableau.cell tableau.constraintCount column < tableau.cell tableau.constraintCount earlier

theorem FirstImproving.unique {other : Nat} (left : tableau.FirstImproving epsilon column)
    (right : tableau.FirstImproving epsilon other) : column = other := by
  rcases lt_trichotomy column other with before | same | after
  · exact absurd (right.first column before) (not_le.mpr left.improves)
  · exact same
  · exact absurd (left.first other after) (not_le.mpr right.improves)

theorem FirstLeast.unique {other : Nat} (left : tableau.FirstLeast column)
    (right : tableau.FirstLeast other) : column = other := by
  rcases lt_trichotomy column other with before | same | after
  · exact absurd (left.least other right.inside) (not_le.mpr (right.first column before))
  · exact same
  · exact absurd (right.least column left.inside) (not_le.mpr (left.first other after))

/-- No column enters exactly when none improves by more than the tolerance. -/
theorem enteringColumn_eq_none_iff {rule : PivotRule} :
    tableau.enteringColumn epsilon rule = none ↔
      ∀ column < tableau.width, -epsilon ≤ tableau.cell tableau.constraintCount column := by
  constructor
  · exact fun missing column inside => cell_of_enteringColumn_eq_none missing inside
  · intro high
    cases entering : tableau.enteringColumn epsilon rule with
    | none => rfl
    | some column =>
        exact absurd (high column (enteringColumn_lt_width entering))
          (not_le.mpr (cell_of_enteringColumn entering))

/-- A column that improves makes some column enter. -/
theorem exists_enteringColumn (inside : column < tableau.width)
    (improves : tableau.cell tableau.constraintCount column < -epsilon) (rule : PivotRule) :
    ∃ found, tableau.enteringColumn epsilon rule = some found := by
  refine Option.ne_none_iff_exists'.mp fun missing => ?_
  exact absurd (enteringColumn_eq_none_iff.mp missing column inside) (not_le.mpr improves)

/-- The first improving column enters under the rule that takes the first. -/
theorem enteringColumn_bland_iff :
    tableau.enteringColumn epsilon .bland = some column ↔
      tableau.FirstImproving epsilon column := by
  have sound : ∀ {found}, tableau.enteringColumn epsilon .bland = some found →
      tableau.FirstImproving epsilon found := fun entering =>
    ⟨enteringColumn_lt_width entering, cell_of_enteringColumn entering,
      fun _ before => cell_of_lt_enteringColumn entering before⟩
  refine ⟨sound, fun first => ?_⟩
  obtain ⟨found, entering⟩ := exists_enteringColumn first.inside first.improves .bland
  rw [entering, (sound entering).unique first]

/-- The first column with the least cell enters under the rule that takes the least, if it
improves by more than the tolerance. -/
theorem enteringColumn_dantzig_iff :
    tableau.enteringColumn epsilon .dantzig = some column ↔
      tableau.FirstLeast column ∧ tableau.cell tableau.constraintCount column < -epsilon := by
  have sound : ∀ {found}, tableau.enteringColumn epsilon .dantzig = some found →
      tableau.FirstLeast found := by
    intro found entering
    have inside := enteringColumn_lt_width entering
    have improves := cell_of_enteringColumn entering
    obtain ⟨⟨value, place⟩, least, rfl⟩ := Option.map_eq_some_iff.mp entering
    obtain ⟨-, rfl, -⟩ := mem_improving_iff.mp (leastCell_mem least)
    have below : ∀ cell ∈ improving epsilon tableau.objectiveRow,
        tableau.cell tableau.constraintCount place ≤ cell.1 ∧ (cell.2 < place →
          tableau.cell tableau.constraintCount place < cell.1) := by
      have ordered := improving_pairwise epsilon tableau.objectiveRow
      cases cells : improving epsilon tableau.objectiveRow with
      | nil => simp
      | cons first rest =>
          rw [cells] at ordered least
          exact leastCell_le ordered least
    -- A column that does not improve has a larger cell than one that does.
    have compare : ∀ other < tableau.width,
        tableau.cell tableau.constraintCount place ≤ tableau.cell tableau.constraintCount other ∧
          (other < place → tableau.cell tableau.constraintCount place <
            tableau.cell tableau.constraintCount other) := by
      intro other within
      rcases lt_or_ge (tableau.cell tableau.constraintCount other) (-epsilon) with low | high
      · exact below (_, other) (mem_improving_iff.mpr ⟨within, rfl, decide_eq_true low⟩)
      · have apart := improves.trans_le high
        exact ⟨apart.le, fun _ => apart⟩
    exact ⟨inside, fun other within => (compare other within).1, fun earlier before =>
      (compare earlier (before.trans inside)).2 before⟩
  refine ⟨fun entering => ⟨sound entering, cell_of_enteringColumn entering⟩, ?_⟩
  rintro ⟨first, improves⟩
  obtain ⟨found, entering⟩ := exists_enteringColumn first.inside improves .dantzig
  rw [entering, (sound entering).unique first]

end Entering

/-! ## The leaving row -/

section Leaving

variable {tableau : Tableau Rat} {epsilon : Rat} {column leaving : Nat}

/-- The best row of the ratio test has a smaller ratio than the eligible rows above it. -/
theorem ratioTest_lt_of_above {rows : List (List Rat)} (tolerance : 0 ≤ epsilon) (seen : Nat)
    (inside : seen ≤ rows.length) {best : Nat × Rat}
    (tested : ratioTest epsilon column none 0 (rows.take seen) = some best) :
    ∀ row < best.1, epsilon < (rows.getD row []).getD column 0 →
      best.2 < rowRatio column (rows.getD row []) := by
  induction seen generalizing best with
  | zero => simp [ratioTest] at tested
  | succ seen ih =>
      have within := Nat.le_of_succ_le inside
      have state := testState_ratioTest tolerance tolerance (overlooks_epsilon epsilon column rows)
        seen within
      rw [ratioTest_take_succ epsilon column inside] at tested
      rcases le_or_gt ((rows.getD seen []).getD column 0) epsilon with small | eligible
      · rw [ratioStep_of_le small] at tested
        exact ih within tested
      · rw [ratioStep_of_lt eligible, Option.some.injEq] at tested
        cases before : ratioTest epsilon column none 0 (rows.take seen) with
        | none =>
            -- The row is the first eligible one.
            rw [before] at state tested
            rw [← tested]
            exact fun row above other => absurd (state row above) (not_le.mpr other)
        | some leader =>
            obtain ⟨leader, least⟩ := leader
            rw [before] at state tested
            by_cases smaller : rowRatio column (rows.getD seen []) < least - epsilon
            · simp only [if_pos smaller] at tested
              rw [← tested]
              exact fun row above other => smaller.trans_le (state.lowest row above other)
            · simp only [if_neg smaller] at tested
              exact ih within (before.trans (congrArg some tested))

/-- What the ratio test guarantees of the leaving row. -/
structure LeastRatio (tableau : Tableau Rat) (epsilon : Rat) (column leaving : Nat) : Prop where
  inside : leaving < tableau.constraintCount
  eligible : epsilon < tableau.cell leaving column
  lowest : ∀ row < tableau.constraintCount, epsilon < tableau.cell row column →
    tableau.ratio column leaving - epsilon ≤ tableau.ratio column row
  first : ∀ row < leaving, epsilon < tableau.cell row column →
    tableau.ratio column leaving < tableau.ratio column row

/-- **The leaving row** has nearly the least ratio, and a smaller one than the rows above. -/
theorem leastRatio_of_leavingRow (tolerance : 0 ≤ epsilon)
    (found : tableau.leavingRow epsilon column = some leaving) :
    tableau.LeastRatio epsilon column leaving := by
  obtain ⟨inside, eligible, lowest⟩ := leads_of_leavingRow tolerance tolerance
    (overlooks_epsilon epsilon column tableau.constraintRows) found
  refine ⟨inside, eligible, lowest, fun row above other => ?_⟩
  have state := testState_constraintRows tolerance tolerance
    (overlooks_epsilon epsilon column tableau.constraintRows)
  obtain ⟨⟨leader, least⟩, tested, rfl⟩ := Option.map_eq_some_iff.mp found
  rw [tested] at state
  have within : row < tableau.constraintCount := above.trans inside
  rw [← List.take_length (l := tableau.constraintRows)] at tested
  have smaller := ratioTest_lt_of_above tolerance _ le_rfl tested row above
    (by rwa [constraintRows_getD_getD within])
  rwa [rowRatio_constraintRows within, state.ratio, rowRatio_constraintRows inside] at smaller

/-- No row leaves exactly when none is eligible. -/
theorem leavingRow_eq_none_iff (tolerance : 0 ≤ epsilon) :
    tableau.leavingRow epsilon column = none ↔
      ∀ row < tableau.constraintCount, tableau.cell row column ≤ epsilon := by
  constructor
  · exact fun missing row inside => cell_of_leavingRow_eq_none tolerance missing inside
  · intro small
    cases found : tableau.leavingRow epsilon column with
    | none => rfl
    | some leaving =>
        have chosen := leastRatio_of_leavingRow tolerance found
        exact absurd (small leaving chosen.inside) (not_le.mpr chosen.eligible)

/-- For a column of the tableau the position is found and the ratio test is made. -/
theorem leavingRowAt_natCast (within : column < tableau.columnCount) :
    tableau.leavingRowAt epsilon column = .ok (tableau.leavingRow epsilon column) := by
  unfold leavingRowAt
  split
  · rename_i empty
    have rows : tableau.constraintRows = [] :=
      List.eq_nil_of_length_eq_zero (tableau.length_constraintRows.trans empty)
    simp [leavingRow, rows, ratioTest]
  · simp [place, place?_natCast within, Except.map]

/-! ## Right-hand sides after the pivot -/

namespace LeastRatio

variable (tolerance : 0 ≤ epsilon) (chosen : tableau.LeastRatio epsilon column leaving)
  (nonneg : ∀ row < tableau.constraintCount, 0 ≤ tableau.rightSide row)
include tolerance chosen nonneg

theorem ratio_nonneg : 0 ≤ tableau.ratio column leaving :=
  div_nonneg (nonneg leaving chosen.inside) (tolerance.trans chosen.eligible.le)

/-- What a row may lose is not negative. -/
theorem drift_nonneg (row : Nat) :
    0 ≤ epsilon * max (tableau.cell row column) (tableau.ratio column leaving) :=
  mul_nonneg tolerance (le_max_of_le_right (chosen.ratio_nonneg tolerance nonneg))

/-- **A right-hand side loses at most the drift**, as it is computed. -/
theorem neg_drift_le_sweptCell {row : Nat} (inside : row < tableau.constraintCount) :
    -(epsilon * max (tableau.cell row column) (tableau.ratio column leaving)) ≤
      tableau.sweptCell leaving column row tableau.width := by
  have lead := chosen.ratio_nonneg tolerance nonneg
  have drift := chosen.drift_nonneg tolerance nonneg row
  unfold sweptCell
  split
  · exact (neg_nonpos.mpr drift).trans lead
  · change _ ≤ tableau.rightSide row - tableau.cell row column * tableau.ratio column leaving
    have before := nonneg row inside
    rcases lt_or_ge epsilon (tableau.cell row column) with eligible | small
    · -- The ratio of the row is at least that of the leaving row, up to the tolerance.
      have positive := tolerance.trans_lt eligible
      have product : tableau.cell row column * tableau.ratio column row = tableau.rightSide row :=
        mul_div_cancel₀ _ positive.ne'
      have close := mul_le_mul_of_nonneg_left (chosen.lowest row inside eligible) positive.le
      have own := mul_le_mul_of_nonneg_left
        (le_max_left (tableau.cell row column) (tableau.ratio column leaving)) tolerance
      linarith
    · -- The cell is at most the tolerance, so the multiple of the leading ratio is small.
      have lost := mul_le_mul_of_nonneg_right small lead
      have own := mul_le_mul_of_nonneg_left
        (le_max_right (tableau.cell row column) (tableau.ratio column leaving)) tolerance
      linarith

/-- A right-hand side loses at most the drift in a pivot: setting small cells to zero does
not lower it any further, and neither does filling in the entering column. -/
theorem neg_drift_le_rightSide (within : column < tableau.columnCount)
    (low : leaving < tableau.cells.length) {row : Nat} (inside : row < tableau.constraintCount) :
    -(epsilon * max (tableau.cell row column) (tableau.ratio column leaving)) ≤
      (tableau.pivotAt epsilon leaving column leaving false low).rightSide row := by
  have drift := neg_nonpos.mpr (chosen.drift_nonneg tolerance nonneg row)
  change _ ≤ (tableau.pivotAt epsilon leaving column leaving false low).cell row tableau.width
  rw [tableau.cell_pivotAt epsilon leaving low within]
  split
  · split
    · exact drift.trans zero_le_one
    · exact drift
  · unfold snap
    split
    · exact drift
    · exact chosen.neg_drift_le_sweptCell tolerance nonneg inside

end LeastRatio

end Leaving

/-- **What the choice of a pivot guarantees, and how far it lets right-hand sides drift.** The
entering column is missing exactly when no column improves, and otherwise it is the first
improving column or the first least one, as the rule says. The leaving row is missing exactly
when no row is eligible; otherwise it is eligible, its ratio exceeds no ratio by more than
the tolerance, and every eligible row above it has a larger one, so that without a
tolerance it is the first row with the least ratio. If no right-hand side is negative, the
pivot is made, and after it a right-hand side lies below zero by at most the tolerance times
the cell of its row or the leading ratio, whichever is larger. -/
theorem chosen_pivot_bounds_drift (tableau : Tableau Rat) {epsilon : Rat}
    (tolerance : 0 ≤ epsilon) :
    (∀ rule, tableau.enteringColumn epsilon rule = none ↔
      ∀ column < tableau.width, -epsilon ≤ tableau.cell tableau.constraintCount column) ∧
    (∀ column, tableau.enteringColumn epsilon .bland = some column ↔
      tableau.FirstImproving epsilon column) ∧
    (∀ column, tableau.enteringColumn epsilon .dantzig = some column ↔
      tableau.FirstLeast column ∧ tableau.cell tableau.constraintCount column < -epsilon) ∧
    ∀ column : Nat, column < tableau.columnCount →
      tableau.leavingRowAt epsilon column = .ok (tableau.leavingRow epsilon column) ∧
      (tableau.leavingRow epsilon column = none ↔
        ∀ row < tableau.constraintCount, tableau.cell row column ≤ epsilon) ∧
      ∀ leaving : Nat, tableau.leavingRow epsilon column = some leaving →
        tableau.LeastRatio epsilon column leaving ∧
        (epsilon = 0 → ∀ row < tableau.constraintCount, 0 < tableau.cell row column →
          tableau.ratio column leaving ≤ tableau.ratio column row ∧
            (tableau.ratio column leaving = tableau.ratio column row → leaving ≤ row)) ∧
        ((∀ row < tableau.constraintCount, 0 ≤ tableau.rightSide row) → ∀ value, ∃ next,
          tableau.pivot ⟨some column, some leaving, value⟩ epsilon = .ok next ∧
            ∀ row < tableau.constraintCount,
              -epsilon * max (tableau.cell row column) (tableau.ratio column leaving) ≤
                next.rightSide row ∧ (epsilon = 0 → 0 ≤ next.rightSide row)) := by
  refine ⟨fun _ => enteringColumn_eq_none_iff, fun _ => enteringColumn_bland_iff,
    fun _ => enteringColumn_dantzig_iff, fun column within => ⟨leavingRowAt_natCast within,
      leavingRow_eq_none_iff tolerance, fun leaving found => ?_⟩⟩
  have chosen := leastRatio_of_leavingRow tolerance found
  refine ⟨chosen, ?_, ?_⟩
  · rintro rfl row inside eligible
    have lowest := chosen.lowest row inside eligible
    rw [sub_zero] at lowest
    refine ⟨lowest, fun same => not_lt.mp fun above => ?_⟩
    exact (chosen.first row above eligible).ne same
  · intro nonneg value
    obtain ⟨low, made⟩ := pivot_of_le_abs chosen.inside within
      (chosen.eligible.le.trans (le_abs_self _)) value
    refine ⟨_, made, fun row inside => ?_⟩
    have bound := chosen.neg_drift_le_rightSide tolerance nonneg within low inside
    rw [neg_mul]
    refine ⟨bound, ?_⟩
    rintro rfl
    rwa [zero_mul, neg_zero] at bound

/-- Four rows whose ratios go down in small steps: `1`, `19/20`, `17/20` and `4/5`. -/
def fallingRatios : Tableau Rat where
  cells := [[1, 1], [1, 19 / 20], [1, 17 / 20], [10, 8], [-1, 0]]
  rowLabels := ["s1", "s2", "s3", "s4"]
  columnLabels := ["x1", "RHS"]
  variableCount := .whole 1
  direction := .maximize
  mark := none
  labelled := rfl
  rectangular := by decide

/-- With a tolerance of a tenth the second row is passed over, the third takes the lead and the
fourth does not take it back; its right-hand side falls to minus a half, which is within the
drift of one. -/
theorem chosen_pivot_bounds_drift_fallingRatios :
    fallingRatios.enteringColumn (1 / 10) .bland = some 0 ∧
      fallingRatios.leavingRow (1 / 10) 0 = some 2 ∧
        fallingRatios.LeastRatio (1 / 10) 0 2 ∧
          ∃ next, fallingRatios.pivot ⟨some 0, some 2, none⟩ (1 / 10) = .ok next ∧
            next.rightSide 3 = -1 / 2 ∧ -1 ≤ next.rightSide 3 := by
  have tolerance : (0 : Rat) ≤ 1 / 10 := by decide +kernel
  have entering : fallingRatios.enteringColumn (1 / 10) .bland = some 0 := by decide +kernel
  have leaving : fallingRatios.leavingRow (1 / 10) 0 = some 2 := by decide +kernel
  have nonneg : ∀ row < fallingRatios.constraintCount, 0 ≤ fallingRatios.rightSide row := by
    decide +kernel
  have drift : -(1 / 10) * max (fallingRatios.cell 3 0) (fallingRatios.ratio 0 2) = -1 := by
    decide +kernel
  have falls : (fallingRatios.pivot ⟨some 0, some 2, none⟩ (1 / 10)).toOption.map
      (·.rightSide 3) = some (-1 / 2) := by decide +kernel
  obtain ⟨-, -, -, rows⟩ := chosen_pivot_bounds_drift fallingRatios tolerance
  obtain ⟨chosen, -, pivots⟩ := (rows 0 (by decide)).2.2 2 leaving
  obtain ⟨next, made, bounds⟩ := pivots nonneg none
  rw [show fallingRatios.pivot ⟨some 0, some 2, none⟩ (1 / 10) = .ok next from made] at falls
  exact ⟨entering, leaving, chosen, next, made, Option.some.inj falls,
    drift ▸ (bounds 3 (by decide)).1⟩

end SimplexSolver.Tableau
