import SimplexSolver.Tableau.Choice

/-!
# Pivoting

A pivot divides the leaving row by the pivot element and subtracts multiples of
it from the other rows so that the rest of the entering column becomes zero. The
leaving row takes the label of the entering column. Afterwards cells smaller than
the tolerance are set to zero, and the entering column is set to a unit vector
exactly.

A pivot is refused when its element is not finite or smaller than the tolerance,
and when a cell of the result is not finite.

The leaving row may be given by a position that counts from the end. Such a
position does not protect the row from the elimination: the row then loses itself,
and the rows below it are reduced by what is left of it (`sweep`). A position that
counts from the front leaves its row alone, and every other row is reduced by the
same divided row.
-/

set_option autoImplicit false

namespace SimplexSolver.Tableau

variable {α : Type} [Scalar α]

/-! ## Row operations -/

/-- Subtracts a multiple of another row so that the cell in the column vanishes. A
row whose cell is zero already stays as it is. -/
def eliminate (column : Nat) (source row : List α) : List α :=
  let multiplier := row.getD column 0
  if Scalar.same multiplier 0 then row
  else List.zipWith (fun cell other => cell - multiplier * other) row source

/-- The leaving row divided by the pivot element. -/
def divided (element : α) (row : List α) : List α := row.map (· / element)

/-- Eliminates the entering column from the rows around the leaving row. `bare`
says that the leaving row is not protected. -/
def sweep (leaving column : Nat) (bare : Bool) (element : α) (cells : List (List α)) :
    List (List α) :=
  let scaled := divided element (cells.getD leaving [])
  let kept := if bare then eliminate column scaled scaled else scaled
  cells.mapIdx fun index row =>
    if index < leaving then eliminate column scaled row
    else if index = leaving then kept
    else eliminate column kept row

/-- A cell smaller than the tolerance becomes zero. -/
def snap (epsilon cell : α) : α :=
  if Scalar.lt (Scalar.magnitude cell) epsilon then 0 else cell

/-- Sets small cells to zero and the entering column to a unit vector. -/
def settle (epsilon : α) (leaving column : Nat) (cells : List (List α)) : List (List α) :=
  cells.mapIdx fun index row =>
    (row.map (snap epsilon)).set column (if index = leaving then 1 else 0)

/-! ## Shapes are kept -/

theorem length_eliminate {column : Nat} {source row : List α}
    (same : source.length = row.length) : (eliminate column source row).length = row.length := by
  simp only [eliminate]
  split
  · rfl
  · simp [same]

@[simp] theorem length_divided (element : α) (row : List α) :
    (divided element row).length = row.length := by simp [divided]

@[simp] theorem length_sweep (leaving column : Nat) (bare : Bool) (element : α)
    (cells : List (List α)) : (sweep leaving column bare element cells).length = cells.length := by
  simp [sweep]

@[simp] theorem length_settle (epsilon : α) (leaving column : Nat) (cells : List (List α)) :
    (settle epsilon leaving column cells).length = cells.length := by
  simp [settle]

theorem length_of_mem_sweep {leaving column : Nat} {bare : Bool} {element : α}
    {cells : List (List α)} {width : Nat} (inside : leaving < cells.length)
    (rectangular : ∀ row ∈ cells, row.length = width) :
    ∀ row ∈ sweep leaving column bare element cells, row.length = width := by
  have chosen : (divided element (cells.getD leaving [])).length = width := by
    rw [length_divided, List.getD_eq_getElem?_getD, List.getElem?_eq_getElem inside]
    exact rectangular _ (List.getElem_mem inside)
  have kept : (if bare then eliminate column (divided element (cells.getD leaving []))
      (divided element (cells.getD leaving []))
      else divided element (cells.getD leaving [])).length = width := by
    split
    · rw [length_eliminate rfl, chosen]
    · exact chosen
  intro row member
  simp only [sweep, List.mem_mapIdx] at member
  obtain ⟨index, within, rfl⟩ := member
  have here := rectangular _ (List.getElem_mem within)
  split
  · rw [length_eliminate (chosen.trans here.symm), here]
  · split
    · exact kept
    · rw [length_eliminate (kept.trans here.symm), here]

theorem length_of_mem_settle {epsilon : α} {leaving column : Nat} {cells : List (List α)}
    {width : Nat} (rectangular : ∀ row ∈ cells, row.length = width) :
    ∀ row ∈ settle epsilon leaving column cells, row.length = width := by
  intro row member
  simp only [settle, List.mem_mapIdx] at member
  obtain ⟨index, within, rfl⟩ := member
  simpa using rectangular _ (List.getElem_mem within)

/-! ## The pivot -/

/-- The result of a pivot whose row and column are inside the tableau. `label` is
the place of the label that changes. -/
def pivotAt (tableau : Tableau α) (epsilon : α) (leaving column label : Nat) (bare : Bool)
    (inside : leaving < tableau.cells.length) : Tableau α where
  cells := settle epsilon leaving column
    (sweep leaving column bare (tableau.cell leaving column) tableau.cells)
  rowLabels := tableau.rowLabels.set label (tableau.columnLabels.getD column "")
  columnLabels := tableau.columnLabels
  variableCount := tableau.variableCount
  direction := tableau.direction
  mark := none
  labelled := by simpa using tableau.labelled
  rectangular := length_of_mem_settle (length_of_mem_sweep inside tableau.rectangular)

/-- Pivots on a chosen row and column. -/
def pivot (tableau : Tableau α) (choice : Choice α) (epsilon : α) : Except Failure (Tableau α) :=
  match choice.leaving, choice.entering with
  | some row, some column =>
    match found : place? tableau.cells.length row with
    | none => .error .outOfRange
    | some leaving => do
      let entering ← place tableau.columnCount column
      let element := tableau.cell leaving entering
      if !Scalar.isFinite element || Scalar.lt (Scalar.magnitude element) epsilon then
        throw (.unstable (.tooSmall (String.ofList (Scalar.text element)) (row + 1) (column + 1)))
      let swept := sweep leaving entering (row < 0) element tableau.cells
      if !swept.all (·.all Scalar.isFinite) then
        throw (.unstable .notFinite)
      let label ← place tableau.constraintCount row
      return tableau.pivotAt epsilon leaving entering label (row < 0) (place?_lt found)
  | _, _ => .error (.invalid .incompleteChoice)

/-- Pivots on a choice that may not have been made. -/
def pivotOn (tableau : Tableau α) (choice : Option (Choice α)) (epsilon : α) :
    Except Failure (Tableau α) :=
  match choice with
  | none => .error .absent
  | some choice => tableau.pivot choice epsilon

end SimplexSolver.Tableau
