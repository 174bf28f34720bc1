import SimplexSolver.Proofs.Cells

/-!
# What the choice of a pivot guarantees

The entering column is an improving column, and it is missing only when no column
improves. The rule that takes the first improving column leaves no improving
column before it.

The ratio test goes through the rows from the top and keeps a best row. Its
invariant is a statement about the rows seen so far (`Leads`): the best row is
eligible, and no eligible row seen so far has a ratio that lies below the best
ratio by more than a drift. The drift is what a comparison may overlook. It is the
tolerance in general, and nothing when ratios that are compared and differ do so
by more than the tolerance (`FineRatios`).
-/

set_option autoImplicit false

namespace SimplexSolver.Tableau

/-! ## The entering column -/

section Entering

variable {α : Type} [Scalar α]

/-- The first of the least cells is one of the cells. -/
theorem leastCell_mem {cells : List (α × Nat)} {best : α × Nat}
    (found : leastCell cells = some best) : best ∈ cells := by
  have member : ∀ (rest : List (α × Nat)) (first : α × Nat), rest.foldl
      (fun best next => if Scalar.lt next.1 best.1 then next else best) first ∈ first :: rest := by
    intro rest
    induction rest with
    | nil => exact fun first => List.mem_cons_self
    | cons next rest ih =>
        intro first
        rw [List.foldl_cons]
        rcases List.mem_cons.mp (ih (if Scalar.lt next.1 first.1 then next else first)) with h | h
        · rw [h]
          split
          · exact List.mem_cons_of_mem _ List.mem_cons_self
          · exact List.mem_cons_self
        · exact List.mem_cons_of_mem _ (List.mem_cons_of_mem _ h)
  cases cells with
  | nil => simp [leastCell] at found
  | cons first rest =>
      simp only [leastCell, Option.some.injEq] at found
      exact found ▸ member rest first

/-- The entering column is the column of an improving cell. -/
theorem exists_improving_of_enteringColumn {tableau : Tableau α} {epsilon : α} {rule : PivotRule}
    {column : Nat} (found : tableau.enteringColumn epsilon rule = some column) :
    ∃ value, (value, column) ∈ improving epsilon tableau.objectiveRow := by
  unfold enteringColumn at found
  cases rule with
  | bland =>
      obtain ⟨⟨value, place⟩, first, rfl⟩ := Option.map_eq_some_iff.mp found
      exact ⟨value, List.mem_of_head? first⟩
  | dantzig =>
      obtain ⟨⟨value, place⟩, least, rfl⟩ := Option.map_eq_some_iff.mp found
      exact ⟨value, leastCell_mem least⟩

/-- There is no entering column only when no cell improves. -/
theorem improving_eq_nil_of_enteringColumn {tableau : Tableau α} {epsilon : α} {rule : PivotRule}
    (missing : tableau.enteringColumn epsilon rule = none) :
    improving epsilon tableau.objectiveRow = [] := by
  unfold enteringColumn at missing
  cases rule with
  | bland => exact List.head?_eq_none_iff.mp (Option.map_eq_none_iff.mp missing)
  | dantzig =>
      have none := Option.map_eq_none_iff.mp missing
      cases cells : improving epsilon tableau.objectiveRow with
      | nil => rfl
      | cons first rest => simp [cells, leastCell] at none

/-- A cell of the objective row, read off the list that the improving cells are
taken from. -/
theorem getElem?_zipIdx_objectiveRow (tableau : Tableau α) (column : Nat) :
    tableau.objectiveRow.dropLast.zipIdx[column]? =
      if column < tableau.width then some (tableau.cell tableau.constraintCount column, column)
      else none := by
  have long : tableau.objectiveRow.length = tableau.columnCount := by
    rw [objectiveRow_eq]
    exact tableau.length_row le_rfl
  rw [List.getElem?_zipIdx, List.getElem?_dropLast, long]
  change Option.map _ (if column < tableau.width then _ else _) = _
  split
  · rename_i inside
    have within : column < tableau.objectiveRow.length := by
      rw [long]
      exact lt_of_lt_of_le inside (Nat.sub_le _ _)
    rw [List.getElem?_eq_getElem within, ← List.getD_eq_getElem _ 0 within, objectiveRow_eq]
    simp [cell]
  · rfl

theorem mem_improving_iff {tableau : Tableau α} {epsilon value : α} {column : Nat} :
    (value, column) ∈ improving epsilon tableau.objectiveRow ↔
      column < tableau.width ∧ value = tableau.cell tableau.constraintCount column ∧
        Scalar.lt value (-epsilon) = true := by
  rw [improving, List.mem_filter, List.mem_iff_getElem?]
  constructor
  · rintro ⟨⟨place, here⟩, improves⟩
    rw [getElem?_zipIdx_objectiveRow] at here
    split at here
    · rename_i inside
      simp only [Option.some.injEq, Prod.mk.injEq] at here
      obtain ⟨rfl, rfl⟩ := here
      exact ⟨inside, rfl, improves⟩
    · simp at here
  · rintro ⟨inside, rfl, improves⟩
    refine ⟨⟨column, ?_⟩, improves⟩
    rw [getElem?_zipIdx_objectiveRow, if_pos inside]

theorem enteringColumn_lt_width {tableau : Tableau α} {epsilon : α} {rule : PivotRule}
    {column : Nat} (found : tableau.enteringColumn epsilon rule = some column) :
    column < tableau.width := by
  obtain ⟨value, member⟩ := exists_improving_of_enteringColumn found
  exact (mem_improving_iff.mp member).1

end Entering

/-- No column enters only when no cell of the objective row is below minus the
tolerance. -/
theorem cell_of_enteringColumn_eq_none {tableau : Tableau Rat} {epsilon : Rat} {rule : PivotRule}
    (missing : tableau.enteringColumn epsilon rule = none) {column : Nat}
    (inside : column < tableau.width) :
    -epsilon ≤ tableau.cell tableau.constraintCount column := by
  by_contra improves
  have member : (tableau.cell tableau.constraintCount column, column) ∈
      improving epsilon tableau.objectiveRow :=
    mem_improving_iff.mpr ⟨inside, rfl, by simpa using improves⟩
  rw [improving_eq_nil_of_enteringColumn missing] at member
  exact List.not_mem_nil member

/-- The entering column improves the objective. -/
theorem cell_of_enteringColumn {tableau : Tableau Rat} {epsilon : Rat} {rule : PivotRule}
    {column : Nat} (found : tableau.enteringColumn epsilon rule = some column) :
    tableau.cell tableau.constraintCount column < -epsilon := by
  obtain ⟨value, member⟩ := exists_improving_of_enteringColumn found
  obtain ⟨-, rfl, improves⟩ := mem_improving_iff.mp member
  simpa using improves

/-- The first improving column: no column before it improves the objective. -/
theorem cell_of_lt_enteringColumn {tableau : Tableau Rat} {epsilon : Rat} {column : Nat}
    (found : tableau.enteringColumn epsilon .bland = some column) {earlier : Nat}
    (before : earlier < column) : -epsilon ≤ tableau.cell tableau.constraintCount earlier := by
  obtain ⟨⟨value, place⟩, first, rfl⟩ := Option.map_eq_some_iff.mp found
  rw [improving, List.head?_filter, List.find?_eq_some_iff_getElem] at first
  obtain ⟨-, index, inside, here, none⟩ := first
  have width := enteringColumn_lt_width found
  have at_index := List.getElem?_eq_getElem inside
  rw [here, getElem?_zipIdx_objectiveRow] at at_index
  split at at_index
  · simp only [Option.some.injEq, Prod.mk.injEq] at at_index
    obtain ⟨-, rfl⟩ := at_index
    have there := List.getElem?_eq_getElem (before.trans inside)
    rw [getElem?_zipIdx_objectiveRow, if_pos (before.trans width)] at there
    have fails := none earlier before
    rw [← Option.some.inj there] at fails
    simpa using fails
  · simp at at_index

/-! ## The ratio test -/

/-- The ratio test on one more row, after it went through the rows above. -/
theorem ratioTest_concat {α : Type} [Scalar α] (epsilon : α) (column : Nat)
    (rows : List (List α)) (row : List α) (best : Option (Nat × α)) (index : Nat) :
    ratioTest epsilon column best index (rows ++ [row]) =
      ratioStep epsilon column (ratioTest epsilon column best index rows)
        (index + rows.length) row := by
  induction rows generalizing best index with
  | nil => rfl
  | cons first rest ih =>
      rw [List.cons_append, ratioTest, ih, ratioTest, List.length_cons, Nat.add_assoc,
        Nat.add_comm 1]

/-- The ratio test ends with an eligible row it went through, or with the row it began
with. What holds of these holds of the row it ends with. -/
theorem ratioTest_found {α : Type} [Scalar α] {epsilon : α} {column : Nat} {rows : List (List α)}
    {best : Option (Nat × α)} {index : Nat} {found : Nat × α} (property : Nat → Prop)
    (before : ∀ pair ∈ best, property pair.1)
    (eligible : ∀ offset row, rows[offset]? = some row →
      Scalar.le (row.getD column 0) epsilon = false → property (index + offset))
    (tested : ratioTest epsilon column best index rows = some found) : property found.1 := by
  induction rows generalizing best index with
  | nil => exact before found tested
  | cons row rest ih =>
      have passed : ∀ pair ∈ ratioStep epsilon column best index row, property pair.1 := by
        have here := eligible 0 row rfl
        intro pair member
        unfold ratioStep at member
        grind
      refine ih passed ?_ tested
      intro offset later there large
      rw [Nat.add_assoc, Nat.add_comm 1]
      exact eligible (offset + 1) later there large

/-- The ratio test ends with one of the rows it went through, or with the row it began
with. -/
theorem ratioTest_lt {α : Type} [Scalar α] {epsilon : α} {column : Nat} {rows : List (List α)}
    {best : Option (Nat × α)} {index : Nat} {found : Nat × α}
    (before : ∀ pair ∈ best, pair.1 < index)
    (tested : ratioTest epsilon column best index rows = some found) :
    found.1 < index + rows.length := by
  refine ratioTest_found (· < index + rows.length) (fun pair member => ?_)
    (fun offset row here _ => ?_) tested
  · exact (before pair member).trans_le (Nat.le_add_right _ _)
  · exact Nat.add_lt_add_left (List.getElem?_eq_some_iff.mp here).1 index

/-- The ratio of a row in the ratio test. -/
def rowRatio (column : Nat) (row : List Rat) : Rat := row.getLastD 0 / row.getD column 0

/-- A row as the ratio test meets it: the rows above it are the first `seen`. -/
theorem ratioTest_take_succ (epsilon : Rat) (column : Nat) {rows : List (List Rat)} {seen : Nat}
    (inside : seen < rows.length) :
    ratioTest epsilon column none 0 (rows.take (seen + 1)) =
      ratioStep epsilon column (ratioTest epsilon column none 0 (rows.take seen)) seen
        (rows.getD seen []) := by
  rw [List.take_add_one, List.getElem?_eq_getElem inside, Option.toList_some, ratioTest_concat,
    List.length_take, Nat.min_eq_left inside.le, Nat.zero_add, List.getD_eq_getElem _ _ inside]

/-- A step of the ratio test passes over a row that is not eligible. -/
theorem ratioStep_of_le {epsilon : Rat} {column : Nat} {row : List Rat}
    (small : row.getD column 0 ≤ epsilon) (best : Option (Nat × Rat)) (index : Nat) :
    ratioStep epsilon column best index row = best := by
  unfold ratioStep
  simp only [Scalar.le_rat, decide_eq_true_eq]
  exact if_pos small

/-- A step of the ratio test on an eligible row takes the row when there is no best
row yet or its ratio is smaller by more than the tolerance. -/
theorem ratioStep_of_lt {epsilon : Rat} {column : Nat} {row : List Rat}
    (eligible : epsilon < row.getD column 0) (best : Option (Nat × Rat)) (index : Nat) :
    ratioStep epsilon column best index row = some (match best with
      | none => (index, rowRatio column row)
      | some (leader, least) =>
        if rowRatio column row < least - epsilon then (index, rowRatio column row)
        else (leader, least)) := by
  unfold ratioStep
  simp only [Scalar.le_rat, decide_eq_true_eq]
  rw [if_neg (not_le.mpr eligible)]
  cases best with
  | none => rfl
  | some pair =>
      simp only [Scalar.lt_rat, decide_eq_true_eq]
      exact (apply_ite some _ _ _).symm

/-- What the ratio test knows of its best row among the first `seen` rows. -/
structure Leads (epsilon drift : Rat) (column : Nat) (rows : List (List Rat)) (seen leader : Nat)
    (least : Rat) : Prop where
  inside : leader < seen
  eligible : epsilon < (rows.getD leader []).getD column 0
  ratio : least = rowRatio column (rows.getD leader [])
  lowest : ∀ row < seen, epsilon < (rows.getD row []).getD column 0 →
    least - drift ≤ rowRatio column (rows.getD row [])

/-- A comparison overlooks at most a drift: a row that does not replace the best one
has a ratio that lies below the best ratio by at most that much. -/
def Overlooks (epsilon drift : Rat) (column : Nat) (rows : List (List Rat)) : Prop :=
  ∀ seen < rows.length, ∀ best ∈ ratioTest epsilon column none 0 (rows.take seen),
    epsilon < (rows.getD seen []).getD column 0 →
      best.2 - epsilon ≤ rowRatio column (rows.getD seen []) →
        best.2 - drift ≤ rowRatio column (rows.getD seen [])

/-- Ratios that are compared and differ, differ by more than the tolerance. -/
def FineRatios (epsilon : Rat) (column : Nat) (rows : List (List Rat)) : Prop :=
  ∀ seen < rows.length, ∀ best ∈ ratioTest epsilon column none 0 (rows.take seen),
    epsilon < (rows.getD seen []).getD column 0 →
      rowRatio column (rows.getD seen []) ≠ best.2 →
        epsilon < |rowRatio column (rows.getD seen []) - best.2|

instance (epsilon : Rat) (column : Nat) (rows : List (List Rat)) :
    Decidable (FineRatios epsilon column rows) := by
  unfold FineRatios
  infer_instance

theorem FineRatios.overlooks {epsilon : Rat} {column : Nat} {rows : List (List Rat)}
    (fine : FineRatios epsilon column rows) : Overlooks epsilon 0 column rows := by
  intro seen inside best leads eligible close
  rw [sub_zero]
  by_contra below
  have apart := fine seen inside best leads eligible (ne_of_lt (not_le.mp below))
  rw [abs_of_neg (sub_neg.mpr (not_le.mp below))] at apart
  linarith

/-- What the ratio test knows after the first `seen` rows: without a best row none of
them is eligible. -/
def TestState (epsilon drift : Rat) (column : Nat) (rows : List (List Rat)) (seen : Nat) :
    Option (Nat × Rat) → Prop
  | none => ∀ row < seen, (rows.getD row []).getD column 0 ≤ epsilon
  | some (leader, least) => Leads epsilon drift column rows seen leader least

/-- Passing over a row that is not eligible keeps what the ratio test knows. -/
theorem TestState.pass {epsilon drift : Rat} {column : Nat} {rows : List (List Rat)} {seen : Nat}
    {best : Option (Nat × Rat)} (state : TestState epsilon drift column rows seen best)
    (small : (rows.getD seen []).getD column 0 ≤ epsilon) :
    TestState epsilon drift column rows (seen + 1) best := by
  cases best with
  | none =>
      intro row within
      rcases Nat.lt_succ_iff_lt_or_eq.mp within with above | rfl
      · exact state row above
      · exact small
  | some pair =>
      refine ⟨state.inside.trans (Nat.lt_succ_self seen), state.eligible, state.ratio, ?_⟩
      intro row within eligible
      rcases Nat.lt_succ_iff_lt_or_eq.mp within with above | rfl
      · exact state.lowest row above eligible
      · exact absurd small (not_le.mpr eligible)

/-- An eligible row that takes the lead: all rows above lie higher than it. -/
theorem Leads.takeOver {epsilon drift : Rat} {column : Nat} {rows : List (List Rat)} {seen : Nat}
    (nonneg : 0 ≤ drift) (eligible : epsilon < (rows.getD seen []).getD column 0)
    (higher : ∀ row < seen, epsilon < (rows.getD row []).getD column 0 →
      rowRatio column (rows.getD seen []) - drift ≤ rowRatio column (rows.getD row [])) :
    Leads epsilon drift column rows (seen + 1) seen (rowRatio column (rows.getD seen [])) := by
  refine ⟨Nat.lt_succ_self seen, eligible, rfl, ?_⟩
  intro row within eligible
  rcases Nat.lt_succ_iff_lt_or_eq.mp within with above | rfl
  · exact higher row above eligible
  · exact sub_le_self _ nonneg

/-- One row of the ratio test keeps what is known of the rows seen so far. -/
theorem TestState.step {epsilon drift : Rat} {column : Nat} {rows : List (List Rat)} {seen : Nat}
    {best : Option (Nat × Rat)} (tolerance : 0 ≤ epsilon) (nonneg : 0 ≤ drift)
    (state : TestState epsilon drift column rows seen best)
    (overlooks : ∀ leader ∈ best, epsilon < (rows.getD seen []).getD column 0 →
      leader.2 - epsilon ≤ rowRatio column (rows.getD seen []) →
        leader.2 - drift ≤ rowRatio column (rows.getD seen [])) :
    TestState epsilon drift column rows (seen + 1)
      (ratioStep epsilon column best seen (rows.getD seen [])) := by
  rcases le_or_gt ((rows.getD seen []).getD column 0) epsilon with small | eligible
  · rw [ratioStep_of_le small]
    exact state.pass small
  · rw [ratioStep_of_lt eligible]
    cases best with
    | none =>
        exact Leads.takeOver nonneg eligible fun row above other =>
          absurd (state row above) (not_le.mpr other)
    | some pair =>
        obtain ⟨leader, least⟩ := pair
        have leads : Leads epsilon drift column rows seen leader least := state
        by_cases smaller : rowRatio column (rows.getD seen []) < least - epsilon
        · simp only [if_pos smaller]
          refine Leads.takeOver nonneg eligible fun row above other => ?_
          have lowest := leads.lowest row above other
          linarith
        · simp only [if_neg smaller]
          refine ⟨leads.inside.trans (Nat.lt_succ_self seen), leads.eligible, leads.ratio, ?_⟩
          intro row within other
          rcases Nat.lt_succ_iff_lt_or_eq.mp within with above | rfl
          · exact leads.lowest row above other
          · exact overlooks (leader, least) rfl other (not_lt.mp smaller)

/-- **The whole ratio test**, by induction on the number of rows seen. -/
theorem testState_ratioTest {epsilon drift : Rat} {column : Nat} {rows : List (List Rat)}
    (tolerance : 0 ≤ epsilon) (nonneg : 0 ≤ drift)
    (overlooks : Overlooks epsilon drift column rows) (seen : Nat) (inside : seen ≤ rows.length) :
    TestState epsilon drift column rows seen
      (ratioTest epsilon column none 0 (rows.take seen)) := by
  induction seen with
  | zero => exact fun row impossible => absurd impossible (Nat.not_lt_zero row)
  | succ seen ih =>
      rw [ratioTest_take_succ epsilon column inside]
      exact (ih (Nat.le_of_succ_le inside)).step tolerance nonneg (overlooks seen inside)

/-! ## The leaving row -/

/-- The ratio of a constraint row for a column. -/
def ratio (tableau : Tableau Rat) (column row : Nat) : Rat :=
  tableau.rightSide row / tableau.cell row column

section Leaving

variable {tableau : Tableau Rat} {epsilon drift : Rat} {column : Nat}

theorem rowRatio_constraintRows {row : Nat} (inside : row < tableau.constraintCount) :
    rowRatio column (tableau.constraintRows.getD row []) = tableau.ratio column row := by
  rw [rowRatio, constraintRows_getD tableau inside, tableau.getLastD_row inside.le]
  rfl

theorem constraintRows_getD_getD {row : Nat} (inside : row < tableau.constraintCount) :
    (tableau.constraintRows.getD row []).getD column 0 = tableau.cell row column := by
  rw [constraintRows_getD tableau inside]
  rfl

/-- The outcome of the ratio test on all constraint rows. -/
theorem testState_constraintRows (tolerance : 0 ≤ epsilon) (nonneg : 0 ≤ drift)
    (overlooks : Overlooks epsilon drift column tableau.constraintRows) :
    TestState epsilon drift column tableau.constraintRows tableau.constraintCount
      (ratioTest epsilon column none 0 tableau.constraintRows) := by
  have whole := testState_ratioTest tolerance nonneg overlooks
    tableau.constraintRows.length le_rfl
  rwa [List.take_length, length_constraintRows] at whole

/-- A comparison never overlooks more than the tolerance. -/
theorem overlooks_epsilon (epsilon : Rat) (column : Nat) (rows : List (List Rat)) :
    Overlooks epsilon epsilon column rows :=
  fun _ _ _ _ _ close => close

/-- No row leaves only when no constraint row has a cell above the tolerance. -/
theorem cell_of_leavingRow_eq_none (tolerance : 0 ≤ epsilon)
    (missing : tableau.leavingRow epsilon column = none) {row : Nat}
    (inside : row < tableau.constraintCount) : tableau.cell row column ≤ epsilon := by
  have state := testState_constraintRows tolerance tolerance
    (overlooks_epsilon epsilon column tableau.constraintRows)
  rw [Option.map_eq_none_iff.mp missing] at state
  rw [← constraintRows_getD_getD inside]
  exact state row inside

/-- **The leaving row** is a constraint row whose cell is above the tolerance, and no
other such row has a ratio that is smaller by more than the drift. -/
theorem leads_of_leavingRow (tolerance : 0 ≤ epsilon) (nonneg : 0 ≤ drift)
    (overlooks : Overlooks epsilon drift column tableau.constraintRows) {leaving : Nat}
    (found : tableau.leavingRow epsilon column = some leaving) :
    leaving < tableau.constraintCount ∧ epsilon < tableau.cell leaving column ∧
      ∀ row < tableau.constraintCount, epsilon < tableau.cell row column →
        tableau.ratio column leaving - drift ≤ tableau.ratio column row := by
  have state := testState_constraintRows tolerance nonneg overlooks
  obtain ⟨⟨leader, least⟩, leads, rfl⟩ := Option.map_eq_some_iff.mp found
  rw [leads] at state
  have inside : leader < tableau.constraintCount := state.inside
  refine ⟨inside, ?_, ?_⟩
  · rw [← constraintRows_getD_getD inside]
    exact state.eligible
  · intro row within eligible
    rw [← constraintRows_getD_getD within] at eligible
    rw [← rowRatio_constraintRows inside, ← rowRatio_constraintRows within, ← state.ratio]
    exact state.lowest row within eligible

end Leaving

end SimplexSolver.Tableau
