import SimplexSolver.Proofs.Replays
import SimplexSolver.Proofs.Signs

/-!
# Finite cells and what cannot go wrong

A problem passes the check only with finite numbers, and a pivot is refused when a cell of its
result is not finite. Between the two no cell can become infinite or undefined, whatever the
rounding does: small cells are set to zero, and the entering column is filled with zeros and a
one (`finiteCells_of_pivot`). So all cells of all tableaux of a run are finite
(`Lone.finiteCells`).

The leaving row is one whose cell is not at most the tolerance (`le_of_leavingRow`). If the
tolerance is positive and the cell is finite, the cell is not small in absolute value either.
A pivot that was chosen is therefore never refused for its element, but only for its result
(`pivot_of_choosePivot`). The tolerance may be undefined: then every row is eligible, and no
cell counts as small.

The main result collects what this means for a solve with doubles. Every problem is answered,
and a solve that ends as unstable was about to record a cell that is not finite.
-/

set_option autoImplicit false

namespace SimplexSolver

open Tableau

/-! ## Settings that were accepted -/

section Settings

variable {α : Type} [Scalar α]

/-- The limit on the number of pivots is a whole number, whether it is given outright or
for each column. A switch counts as a whole number. -/
def Settings.HasWholeLimit (settings : Settings α) : Prop :=
  ∀ number, settings.maxIterations.getD settings.iterationFactor ≠ .real number

/-- A limit that is a whole number can be computed and stands for a number. -/
theorem Settings.HasWholeLimit.exists_limit {settings : Settings α}
    (whole : settings.HasWholeLimit) (size rows : Int) :
    ∃ limit number, settings.limit size rows = .ok limit ∧ limit.Means number := by
  unfold HasWholeLimit at whole
  unfold limit
  cases given : settings.maxIterations with
  | none =>
      rw [given, Option.getD_none] at whole
      cases factor : settings.iterationFactor with
      | whole number => exact ⟨_, _, rfl, rfl⟩
      | flag on => exact ⟨_, _, rfl, rfl⟩
      | real number => exact absurd factor (whole number)
  | some quantity =>
      rw [given, Option.getD_some] at whole
      cases quantity with
      | whole number => exact ⟨_, _, rfl, rfl⟩
      | flag on => exact ⟨_, _, rfl, rfl⟩
      | real number => exact absurd rfl (whole number)

theorem Settings.positive_of_checkEpsilon {number : α} {quantity : Quantity α}
    (checked : checkEpsilon (.real number) = .ok quantity) :
    (Quantity.real number).atMost 0 = false ∧ quantity = .real number := by
  simp only [checkEpsilon, Settings.number, Value.quantity?, bind, Except.bind] at checked
  split at checked
  · cases checked
  · rename_i positive
    exact ⟨Bool.eq_false_iff.mpr positive, (Except.ok.inj checked).symm⟩

/-- A tolerance that is given as a scalar and accepted is not at most zero. -/
theorem Settings.epsilon_of_ofFields {fields : List (String × Value α)} {settings : Settings α}
    (accepted : Settings.ofFields fields = .ok settings)
    (scalar : ∀ value, fields.lookup "epsilon" = some value → ∃ number, value = .real number) :
    (Quantity.real settings.epsilon).atMost 0 = false := by
  obtain ⟨number, given⟩ : ∃ number,
      (fields.lookup "epsilon").getD (.real defaultEpsilon) = .real number := by
    cases found : fields.lookup "epsilon" with
    | none => exact ⟨_, rfl⟩
    | some value => exact scalar value found
  unfold ofFields at accepted
  rw [given] at accepted
  dsimp only at accepted
  split at accepted
  · cases accepted
  · obtain ⟨quantity, checked, accepted⟩ := exists_of_bind_eq_ok accepted
    obtain ⟨most, -, accepted⟩ := exists_of_bind_eq_ok accepted
    obtain ⟨factor, -, accepted⟩ := exists_of_bind_eq_ok accepted
    obtain ⟨rule, -, accepted⟩ := exists_of_bind_eq_ok accepted
    obtain ⟨epsilon, converted, accepted⟩ := exists_of_bind_eq_ok accepted
    obtain ⟨positive, rfl⟩ := positive_of_checkEpsilon checked
    obtain rfl := Except.ok.inj converted
    obtain rfl := Except.ok.inj accepted
    exact positive

end Settings

/-! ## Accepted problems -/

section Accepted

variable {α : Type} [Scalar α]

theorem isFinite_of_allFinite {values : List α} (finite : allFinite values = true) {value : α}
    (member : value ∈ values) : Scalar.isFinite value = true :=
  List.all_eq_true.mp finite value member

/-- A constraint that passes the check holds finite numbers only. -/
theorem Constraint.finite_of_validate {constraint : Constraint α} {size index : Nat}
    {expected : String} (valid : constraint.validate size expected index = .ok ()) :
    allFinite constraint.coefficients = true ∧ Scalar.isFinite constraint.bound = true := by
  unfold Constraint.validate at valid
  split at valid
  · cases valid
  · split at valid
    · cases valid
    · rename_i finite
      simpa using finite

/-- An accepted problem holds finite numbers only. -/
theorem Problem.finite_of_validate {problem : Problem α} {count : Count}
    (valid : problem.validate = .ok count) :
    allFinite problem.objective = true ∧ ∀ constraint ∈ problem.constraints,
      allFinite constraint.coefficients = true ∧ Scalar.isFinite constraint.bound = true := by
  constructor
  · unfold Problem.validate at valid
    split at valid
    · cases valid
    · split at valid
      · cases valid
      · dsimp only at valid
        split at valid
        · cases valid
        · split at valid
          · cases valid
          · rename_i finite
            simpa using finite
  · intro constraint member
    obtain ⟨expected, place, passed⟩ := (parts_of_validate valid).2.2.2 constraint member
    exact Constraint.finite_of_validate passed

end Accepted

/-! ## Finite cells -/

namespace Tableau

variable {α : Type} [Scalar α]

/-- All cells of a tableau are finite. -/
def FiniteCells (tableau : Tableau α) : Prop :=
  ∀ row ∈ tableau.cells, ∀ cell ∈ row, Scalar.isFinite cell = true

variable [Scalar.Signed α]

open Scalar.Signed

theorem isFinite_opposite {value : α} (bounded : Scalar.isFinite value = true) :
    Scalar.isFinite (opposite value) = true := by
  apply isFinite_add_zero
  rwa [isFinite_neg]

theorem isFinite_startingObjective (direction : Direction) (total : Nat) {objective : List α}
    (bounded : allFinite objective = true) :
    ∀ cell ∈ startingObjective direction total objective, Scalar.isFinite cell = true := by
  intro cell member
  simp only [startingObjective, List.mem_append, List.mem_map, List.mem_replicate,
    List.mem_singleton] at member
  obtain (⟨value, inside, rfl⟩ | ⟨-, rfl⟩) | rfl := member
  · have finite := isFinite_of_allFinite bounded inside
    split
    · exact isFinite_opposite finite
    · exact isFinite_add_zero finite
  · exact isFinite_zero
  · exact isFinite_zero

theorem isFinite_constraintRow (total index : Nat) {constraint : Constraint α}
    (bounded : allFinite constraint.coefficients = true ∧
      Scalar.isFinite constraint.bound = true) :
    ∀ cell ∈ constraintRow total index constraint, Scalar.isFinite cell = true := by
  intro cell member
  simp only [constraintRow, unitRow, List.mem_append, List.mem_map, List.mem_singleton] at member
  obtain (inside | ⟨column, -, rfl⟩) | rfl := member
  · exact isFinite_of_allFinite bounded.1 inside
  · split
    · exact isFinite_one
    · exact isFinite_zero
  · exact bounded.2

/-- The starting tableau of an accepted problem has finite cells. -/
theorem finiteCells_start {problem : Problem α} {start : Tableau α}
    (built : problem.startingTableau = .ok start) : start.FiniteCells := by
  unfold Problem.startingTableau at built
  split at built
  · cases built
  · rename_i count valid
    obtain rfl := Except.ok.inj built
    obtain ⟨objective, constraints⟩ := Problem.finite_of_validate valid
    intro row member
    simp only [Problem.startingCells, List.mem_append, List.mem_mapIdx, List.mem_singleton]
      at member
    obtain ⟨index, inside, rfl⟩ | rfl := member
    · exact isFinite_constraintRow _ _ (constraints _ (List.getElem_mem inside))
    · exact isFinite_startingObjective _ _ objective

theorem isFinite_snap (epsilon : α) {cell : α} (bounded : Scalar.isFinite cell = true) :
    Scalar.isFinite (snap epsilon cell) = true := by
  unfold snap
  split
  · exact isFinite_zero
  · exact bounded

/-- Settling cells puts no other numbers into them than zero and one. -/
theorem isFinite_settle (epsilon : α) (leaving column : Nat) {cells : List (List α)}
    (bounded : ∀ row ∈ cells, ∀ cell ∈ row, Scalar.isFinite cell = true) :
    ∀ row ∈ settle epsilon leaving column cells, ∀ cell ∈ row, Scalar.isFinite cell = true := by
  intro row member cell inside
  simp only [settle, List.mem_mapIdx] at member
  obtain ⟨index, within, rfl⟩ := member
  rcases List.mem_or_eq_of_mem_set inside with kept | rfl
  · obtain ⟨value, among, rfl⟩ := List.mem_map.mp kept
    exact isFinite_snap epsilon (bounded _ (List.getElem_mem within) value among)
  · split
    · exact isFinite_one
    · exact isFinite_zero

/-- **A pivot that is made leaves finite cells**, whatever was chosen. -/
theorem finiteCells_of_pivot {tableau next : Tableau α} {choice : Choice α} {epsilon : α}
    (made : tableau.pivot choice epsilon = .ok next) : next.FiniteCells := by
  unfold pivot at made
  split at made
  · split at made
    · cases made
    · obtain ⟨entering, -, made⟩ := exists_of_bind_eq_ok made
      dsimp only at made
      split at made
      · cases made
      · split at made
        · cases made
        · rename_i finite
          obtain ⟨label, -, made⟩ := exists_of_bind_eq_ok made
          obtain rfl := Except.ok.inj made
          apply isFinite_settle
          simpa using finite
  · cases made

theorem FiniteCells.cell {tableau : Tableau α} (finite : tableau.FiniteCells) (row column : Nat) :
    Scalar.isFinite (tableau.cell row column) = true := by
  rcases Nat.lt_or_ge row tableau.cells.length with low | below
  · rw [Tableau.cell, List.getD_eq_getElem _ _ low]
    rcases Nat.lt_or_ge column tableau.cells[row].length with within | beyond
    · rw [List.getD_eq_getElem _ _ within]
      exact finite _ (List.getElem_mem low) _ (List.getElem_mem within)
    · rw [List.getD_eq_default _ _ beyond]
      exact isFinite_zero
  · rw [tableau.cell_of_length_le below]
    exact isFinite_zero

omit [Scalar.Signed α] in
/-- The leaving row is eligible. -/
theorem le_of_leavingRow {tableau : Tableau α} {epsilon : α} {column leaving : Nat}
    (found : tableau.leavingRow epsilon column = some leaving) :
    Scalar.le (tableau.cell leaving column) epsilon = false := by
  obtain ⟨pair, tested, rfl⟩ := Option.map_eq_some_iff.mp found
  refine ratioTest_found (fun row => Scalar.le (tableau.cell row column) epsilon = false)
    (by simp) ?_ tested
  intro offset row here large
  have inside : offset < tableau.constraintCount := by
    rw [← length_constraintRows]
    exact (List.getElem?_eq_some_iff.mp here).1
  have same : tableau.cells.getD offset [] = row := by
    rw [← constraintRows_getD tableau inside, List.getD_eq_getElem?_getD, here, Option.getD_some]
  rwa [Nat.zero_add, cell, same]

/-- **A chosen pivot is refused only for a result that is not finite.** -/
theorem pivot_of_choosePivot {tableau : Tableau α} {epsilon : α} {rule : PivotRule}
    (finite : tableau.FiniteCells) (positive : Scalar.le epsilon 0 = false)
    (complete : (tableau.choosePivot epsilon rule).isComplete = true) :
    (∃ next, tableau.pivot (tableau.choosePivot epsilon rule) epsilon = .ok next) ∨
      tableau.pivot (tableau.choosePivot epsilon rule) epsilon = .error (.unstable .notFinite) := by
  unfold choosePivot at complete ⊢
  cases entering : tableau.enteringColumn epsilon rule with
  | none => simp [entering, Choice.isComplete] at complete
  | some column =>
      cases row : tableau.leavingRow epsilon column with
      | none => simp [entering, row, Choice.isComplete] at complete
      | some leaving =>
          have within : column < tableau.columnCount :=
            (enteringColumn_lt_width entering).trans_le (Nat.sub_le _ _)
          obtain ⟨inside, result⟩ := tableau.pivot_eq epsilon
            (some (tableau.cell leaving column)) (leavingRow_lt row) within
          have large := magnitude_of_above (finite.cell leaving column) positive
            (le_of_leavingRow row)
          simp only [row, result, finite.cell, large, Bool.not_true, Bool.or_self,
            Bool.false_eq_true, if_false]
          split
          · exact .inr rfl
          · exact .inl ⟨_, rfl⟩

end Tableau

/-! ## Finite cells along a run -/

section Run

variable {α : Type} [Scalar α] [Scalar.Signed α]

theorem finiteCells_reached {settings : Settings α} {limit : Quantity α} {start : Tableau α}
    (first : start.FiniteCells) :
    ∀ done tableau, reached settings limit start done = some tableau → tableau.FiniteCells := by
  apply reached_induction first
  intro done tableau choice next _ _ step
  cases decided_of_nextStep step with
  | pivoted column leaving inside within low chosen free made => exact finiteCells_of_pivot made

/-- A record with which nothing can go wrong: all its cells are finite, a basic solution
can be read off its tableau, the pivot it holds is complete and is made, and a pivot that is
chosen in its tableau and refused is refused for a result that is not finite. -/
structure Record.Safe (settings : Settings α) (record : Record α) : Prop where
  finite : record.tableau.FiniteCells
  readable : ∃ values, record.tableau.basicSolution = .ok values
  complete : ∀ choice, record.choice = some choice → choice.isComplete = true ∧
    ∃ next, record.tableau.pivot choice settings.epsilon = .ok next
  refused : ∀ failure,
    (record.tableau.choosePivot settings.epsilon settings.rule).isComplete = true →
      record.tableau.pivot (record.tableau.choosePivot settings.epsilon settings.rule)
        settings.epsilon = .error failure → failure = .unstable .notFinite

/-- An answer with which nothing went wrong. It says that the problem is invalid exactly if
the problem fails the check, and then there are no values and no history. Otherwise there is a
value for each variable, and all values are zero unless an optimum was found. Nothing goes wrong
with a record, and the status "unstable" means that the next pivot would not have been finite. -/
structure Solution.Safe (problem : Problem α) (settings : Settings α) (solution : Solution α) :
    Prop where
  invalid_iff : solution.status = .invalidProblem ↔ ∃ cause, problem.validate = .error cause
  empty : solution.status = .invalidProblem →
    solution.decision = [] ∧ solution.slack = [] ∧ solution.history = []
  sizes : ∀ count, problem.validate = .ok count → solution.decision.length = count.toNat ∧
    solution.slack.length = problem.constraints.length
  zeros : solution.status ≠ .optimal → (∀ value ∈ solution.decision, value = 0) ∧
    (∀ value ∈ solution.slack, value = 0) ∧ solution.objective = 0
  records : ∀ record ∈ solution.history, record.Safe settings
  unstable : solution.status = .numericInstability →
    solution.message = Instability.notFinite.message ∧ ∃ last,
      solution.finalTableau? = some last ∧
        last.pivot (last.choosePivot settings.epsilon settings.rule) settings.epsilon =
          .error (.unstable .notFinite)

omit [Scalar.Signed α] in
/-- Nothing goes wrong with a problem that fails the check. -/
theorem Solution.safe_rejected {problem : Problem α} {cause : Rejection}
    (rejected : problem.validate = .error cause) (settings : Settings α) :
    (Solution.rejected cause : Solution α).Safe problem settings where
  invalid_iff := ⟨fun _ => ⟨cause, rejected⟩, fun _ => rfl⟩
  empty := fun _ => ⟨rfl, rfl, rfl⟩
  sizes := by
    intro count valid
    rw [rejected] at valid
    cases valid
  zeros := fun _ => ⟨by simp [Solution.rejected], by simp [Solution.rejected], rfl⟩
  records := by simp [Solution.rejected]
  unstable := by simp [Solution.rejected]

namespace Lone

variable {problem : Problem α} {settings : Settings α} (lone : Lone problem settings)

/-- **Every tableau of a solve has finite cells.** -/
theorem finiteCells {done : Nat} {tableau : Tableau α}
    (here : lone.tableauAt done = some tableau) : tableau.FiniteCells :=
  finiteCells_reached (finiteCells_start lone.built) done tableau here

omit [Scalar.Signed α] in
/-- A solve of an accepted problem never ends as if the problem were invalid. -/
theorem status_ne_invalidProblem : lone.solution.status ≠ .invalidProblem := by
  rw [lone.status_eq]
  intro same
  have stops := decided_of_nextStep lone.complete.stops
  rw [same] at stops
  cases stops

omit [Scalar.Signed α] in
/-- The pivot of a record is complete, and it is made. -/
theorem pivot_of_choice {record : Record α} (member : record ∈ lone.records) {choice : Choice α}
    (held : record.choice = some choice) : choice.isComplete = true ∧
      ∃ next, record.tableau.pivot choice settings.epsilon = .ok next := by
  rcases List.mem_append.mp member with among | last
  · obtain ⟨index, here⟩ := List.getElem?_of_mem among
    obtain ⟨tableau, found, next, -, step, rfl⟩ := lone.complete.pivots index record here
    obtain rfl := Option.some.inj held
    cases decided_of_nextStep step with
    | pivoted column leaving inside within low chosen free made =>
        refine ⟨?_, _, made⟩
        rw [chosen]
        rfl
  · rw [List.mem_singleton.mp last] at held
    cases held

variable (positive : Scalar.le settings.epsilon 0 = false)
include positive

/-- Nothing goes wrong with a record of a solve. -/
theorem safe_of_mem_records {record : Record α} (member : record ∈ lone.records) :
    record.Safe settings := by
  obtain ⟨index, here⟩ := List.getElem?_of_mem member
  have there := tableauAt_of_record here
  obtain ⟨size, number, wide⟩ := Problem.exists_size lone.built
  obtain ⟨values, read, -⟩ := (continues there).exists_basicSolution number wide
  have finite := lone.finiteCells there
  change record.tableau.FiniteCells at finite
  refine ⟨finite, ⟨values, ?_⟩, fun choice held => lone.pivot_of_choice member held, ?_⟩
  · rwa [basicSolution_withMark] at read
  · intro failure complete failed
    obtain ⟨next, made⟩ | refused := pivot_of_choosePivot finite positive complete
    · rw [made] at failed
      cases failed
    · rw [refused] at failed
      exact (Except.error.inj failed).symm

/-- A solve that ends as unstable was refused a pivot for a result that is not finite. -/
theorem notFinite_of_unstable (unstable : lone.solution.status = .numericInstability) :
    lone.solution.message = Instability.notFinite.message ∧
      lone.result.last.pivot (lone.result.last.choosePivot settings.epsilon settings.rule)
        settings.epsilon = .error (.unstable .notFinite) := by
  rw [lone.status_eq] at unstable
  rw [lone.message_eq]
  have finite := lone.finiteCells lone.tableauAt_total
  have stops := decided_of_nextStep lone.complete.stops
  rw [unstable] at stops
  generalize lone.result.message = words at stops
  cases stops with
  | refused column leaving cause chosen free failed =>
      have complete : (lone.result.last.choosePivot settings.epsilon
          settings.rule).isComplete = true := by
        rw [chosen]
        rfl
      obtain ⟨next, made⟩ | refused := pivot_of_choosePivot finite positive complete
      · rw [made] at failed
        cases failed
      · rw [refused, Except.error.injEq, Failure.unstable.injEq] at failed
        exact ⟨congrArg Instability.message failed.symm, refused⟩

/-- Nothing goes wrong in a solve of an accepted problem. -/
theorem safe {count : Count} (valid : problem.validate = .ok count) :
    lone.solution.Safe problem settings where
  invalid_iff := by
    constructor
    · exact fun same => absurd same lone.status_ne_invalidProblem
    · rintro ⟨cause, failed⟩
      rw [valid] at failed
      cases failed
  empty := fun same => absurd same lone.status_ne_invalidProblem
  sizes := by
    intro found same
    obtain rfl := Except.ok.inj (valid.symm.trans same)
    obtain ⟨width, rows⟩ := Problem.sizes_start valid lone.built
    rw [← width, ← rows]
    exact lone.length_values
  zeros := by
    intro unsolved
    obtain ⟨optimal, -⟩ | ⟨-, decision, slack, objective⟩ := lone.values_cases
    · exact absurd (lone.status_eq.trans optimal) unsolved
    · rw [decision, slack]
      exact ⟨fun value => List.eq_of_mem_replicate, fun value => List.eq_of_mem_replicate,
        objective⟩
  records := by
    intro record member
    rw [lone.history_eq] at member
    exact lone.safe_of_mem_records positive member
  unstable := by
    intro unstable
    obtain ⟨message, refused⟩ := lone.notFinite_of_unstable positive unstable
    refine ⟨message, lone.result.last, ?_, refused⟩
    simp [Solution.finalTableau?, lone.history_eq, records, finalRecord]

end Lone

end Run

/-! ## Doubles -/

namespace Problem

/-- A problem that fails the check is answered by the cause. -/
theorem solve_of_rejected {α : Type} [Scalar α] {problem : Problem α} {cause : Rejection}
    (rejected : problem.validate = .error cause) (settings : Settings α) :
    problem.solve settings false = .ok (Solution.rejected cause) := by
  simp only [solve, Problem.run, startingTableau_of_rejected rejected, Run.rejected, bind,
    Except.bind, pure, Except.pure]

/-- **Nothing goes wrong in a solve with doubles.** Let the settings be accepted, with a
tolerance that is a double and a limit that is a whole number. Every problem, whatever it was
filled in with, has an answer, and nothing went wrong with it: in every record all cells are
finite, the basic solution can be read off, and a pivot is refused only if its result would not
be finite. -/
theorem solve_safe_with_doubles (problem : Problem Float)
    {fields : List (String × Value Float)} {settings : Settings Float}
    (accepted : Settings.ofFields fields = .ok settings)
    (double : ∀ value, fields.lookup "epsilon" = some value → ∃ number, value = .real number)
    (whole : settings.HasWholeLimit) :
    ∃ solution, problem.solve settings false = .ok solution ∧
      solution.Safe problem settings := by
  have positive := Scalar.Signed.le_zero_of_reading (Settings.epsilon_of_ofFields accepted double)
  cases checked : problem.validate with
  | error cause =>
      exact ⟨Solution.rejected cause, solve_of_rejected checked settings,
        Solution.safe_rejected checked settings⟩
  | ok count =>
      obtain ⟨limit, number, limited, means⟩ :=
        whole.exists_limit count.toInt problem.constraints.length
      obtain ⟨lone, -⟩ := exists_lone checked limited means
      exact ⟨lone.solution, lone.solve_eq, lone.safe positive checked⟩

/-- Dividing the bound of this problem by its coefficient leaves the range of doubles. -/
def overflowing : Problem Float where
  direction := .maximize
  variableCount := .integer 1
  objective := [1.0]
  constraints := [⟨[1e-8], .atMost, 1e308⟩]

/-- Without any values the settings are the standard ones. -/
theorem ofFields_nil : Settings.ofFields [] = .ok (Settings.standard : Settings Float) := by
  have positive : (Quantity.real (Settings.defaultEpsilon : Float)).atMost 0 = false := by
    decide +kernel
  have checked : Settings.checkEpsilon (.real (Settings.defaultEpsilon : Float)) =
      .ok (.real Settings.defaultEpsilon) := by
    simp [Settings.checkEpsilon, Settings.number, Value.quantity?, positive, bind, Except.bind,
      pure, Except.pure]
  simp only [Settings.ofFields, List.lookup_nil, Option.getD_none, checked]
  rfl

/-- The solve of `overflowing` is refused its first pivot. -/
theorem solve_safe_with_doubles_overflowing :
    ∃ solution, overflowing.solve Settings.standard false = .ok solution ∧
      solution.Safe overflowing Settings.standard ∧ solution.status = .numericInstability ∧
        solution.message = "Pivot produced a non-finite tableau value" ∧
          solution.history.length = 1 := by
  have whole : (Settings.standard : Settings Float).HasWholeLimit := by
    intro number same
    cases same
  obtain ⟨solution, answer, safe⟩ :=
    solve_safe_with_doubles overflowing ofFields_nil (by simp) whole
  have seen : (overflowing.solve Settings.standard false).toOption.map
      (fun solution => (solution.status, solution.history.length)) =
        some (.numericInstability, 1) := by decide +kernel
  have shown := eq_of_seen answer seen
  obtain ⟨unstable, length⟩ := Prod.mk.inj shown
  exact ⟨solution, answer, safe, unstable, (safe.unstable unstable).1, length⟩

end Problem

end SimplexSolver
