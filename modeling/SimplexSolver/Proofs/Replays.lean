import SimplexSolver.Proofs.Walks

/-!
# Histories that can be replayed

The history of a solve is more than a log: whoever has it can make every step again and
will find the next record (`Record.PivotsTo`). The first record shows the starting tableau,
every other one the result of the pivot chosen in the record before it, and in the last
record the method stops, for the reason that the status gives (`Solution.Verdict`). Nothing
of this asks anything of the arithmetic, because the records hold the very tableaux that
the solve went through and only the marks on them are added.

A walk that is alone in its session makes the records of this history, one in each step,
and the session shows the solution as soon as the last of them is made.
-/

set_option autoImplicit false

namespace SimplexSolver

open Tableau

variable {α : Type} [Scalar α]

/-! ## Choosing and pivoting do not look at the mark -/

namespace Tableau

theorem choosePivot_withMark (tableau : Tableau α) (mark : Option (Int × Int)) (epsilon : α)
    (rule : PivotRule) :
    (tableau.withMark mark).choosePivot epsilon rule = tableau.choosePivot epsilon rule :=
  rfl

theorem pivot_withMark (tableau : Tableau α) (mark : Option (Int × Int)) (choice : Choice α)
    (epsilon : α) : (tableau.withMark mark).pivot choice epsilon = tableau.pivot choice epsilon :=
  rfl

/-- The cell at a row and a column inside a tableau. -/
theorem cellAt_natCast {tableau : Tableau α} {row column : Nat}
    (low : row < tableau.cells.length) (within : column < tableau.columnCount) :
    tableau.cellAt row column = .ok (tableau.cell row column) := by
  have long : column < tableau.cells[row].length :=
    (tableau.rectangular _ (List.getElem_mem low)).symm ▸ within
  simp only [cellAt, itemAt_natCast low, itemAt_natCast long, bind, Except.bind, cell,
    List.getD_eq_getElem _ _ low, List.getD_eq_getElem _ _ long]

end Tableau

/-! ## What the records say of each other -/

/-- One record leads to the next by a pivot: it holds the pivot that the method chooses
in its tableau, the value of the pivot is the cell in the row and the column of it, this
cell is marked, and pivoting there gives the tableau of the next record, in which only the
label of the leaving row is another one. -/
structure Record.PivotsTo (settings : Settings α) (leaving column : Nat)
    (first second : Record α) : Prop where
  choice_eq : first.choice = some (first.tableau.choosePivot settings.epsilon settings.rule)
  chosen : ∃ value, first.tableau.choosePivot settings.epsilon settings.rule =
    ⟨some column, some leaving, some value⟩ ∧ first.tableau.cellAt leaving column = .ok value
  marked : first.tableau.mark = some ((leaving : Int), (column : Int))
  made : first.tableau.pivot (first.tableau.choosePivot settings.epsilon settings.rule)
    settings.epsilon = .ok (second.tableau.withMark none)
  entered : second.tableau.rowLabels[leaving]? = first.tableau.columnLabels[column]?
  kept : ∀ row : Nat, row ≠ leaving →
    second.tableau.rowLabels[row]? = first.tableau.rowLabels[row]?

/-- The status is the one that the last tableau asks for, after `done` of at most
`most` pivots. -/
structure Solution.Verdict (settings : Settings α) (done most : Nat) (last : Tableau α)
    (solution : Solution α) : Prop where
  optimal : solution.status = .optimal ↔
    (last.choosePivot settings.epsilon settings.rule).isOptimal = true
  unbounded : solution.status = .unbounded ↔
    (last.choosePivot settings.epsilon settings.rule).isUnbounded = true
  limited : solution.status ≠ .optimal → solution.status ≠ .unbounded →
    (solution.status = .iterationLimitExceeded ↔ done = most)
  refused : solution.status ≠ .optimal → solution.status ≠ .unbounded → done ≠ most →
    solution.status = .numericInstability ∧ ∃ cause,
      last.pivot (last.choosePivot settings.epsilon settings.rule) settings.epsilon =
        .error (.unstable cause) ∧ solution.message = cause.message

/-- A history from the starting tableau to the verdict, with at most `most` pivots. -/
structure Solution.Replays (settings : Settings α) (start : Tableau α) (most : Nat)
    (solution : Solution α) : Prop where
  length_eq : solution.history.length = solution.iterations + 1
  within : solution.iterations ≤ most
  first : ∃ record, solution.history[0]? = some record ∧ record.tableau.withMark none = start
  pivots : ∀ (index : Nat) (first second : Record α), solution.history[index]? = some first →
    solution.history[index + 1]? = some second →
      ∃ leaving column, first.PivotsTo settings leaving column second
  last : ∃ record, solution.history[solution.iterations]? = some record ∧
    record.choice = none ∧ record.tableau.mark = none ∧
      solution.Verdict settings solution.iterations most record.tableau

/-! ## The history of a solve with which nothing interferes -/

namespace Lone

variable {problem : Problem α} {settings : Settings α} {lone : Lone problem settings}

/-- A record shows the tableau of its place, apart from the mark. -/
theorem tableauAt_of_record {index : Nat} {record : Record α}
    (here : lone.records[index]? = some record) :
    lone.tableauAt index = some (record.tableau.withMark none) := by
  have inside : index < lone.records.length := (List.getElem?_eq_some_iff.mp here).1
  rw [lone.length_records] at inside
  obtain ⟨tableau, reached⟩ := lone.exists_tableauAt (Nat.le_of_lt_succ inside)
  have unmarked : tableau.withMark none = tableau := by
    rw [← (continues reached).unmarked]
    rfl
  obtain ⟨choice, next, -, recorded, -, before⟩ | ⟨ended, rfl, -⟩ :=
    step_cases reached (Nat.le_of_lt_succ inside)
  · rw [lone.getElem?_records_of_lt before, recorded, Option.some.injEq] at here
    rw [reached, ← here, pivotRecord]
    exact congrArg some unmarked.symm
  · rw [ended, lone.getElem?_records_total, Option.some.injEq] at here
    rw [reached, ← here, finalRecord]
    exact congrArg some unmarked.symm

/-- A record leads to the next one by the pivot it holds. -/
theorem pivotsTo_of_records {index : Nat} {first second : Record α}
    (here : lone.records[index]? = some first)
    (there : lone.records[index + 1]? = some second) :
    ∃ leaving column, first.PivotsTo settings leaving column second := by
  have inside : index + 1 < lone.records.length := (List.getElem?_eq_some_iff.mp there).1
  rw [lone.length_records] at inside
  have before : index < lone.total := Nat.lt_of_succ_lt_succ inside
  obtain ⟨tableau, reached⟩ := lone.exists_tableauAt before.le
  obtain ⟨choice, next, made, recorded, further, -⟩ | ⟨ended, -⟩ := step_cases reached before.le
  · rw [lone.getElem?_records_of_lt before, recorded, Option.some.injEq] at here
    rw [tableauAt_of_record there, Option.some.injEq] at further
    subst here
    cases decided_of_nextStep made with
    | pivoted column leaving inside within low chosen free led =>
        have labels : second.tableau.rowLabels =
            tableau.rowLabels.set leaving (tableau.columnLabels.getD column "") :=
          congrArg Tableau.rowLabels further
        have wide : column < tableau.columnCount := lt_of_lt_of_le within (Nat.sub_le _ _)
        refine ⟨leaving, column, ?_, ⟨_, ?_, cellAt_natCast inside wide⟩, ?_, ?_, ?_, ?_⟩
        · rw [pivotRecord, choosePivot_withMark]
        · rw [pivotRecord, choosePivot_withMark, chosen]
          rfl
        · simp [pivotRecord, withMark, chosen]
        · rw [further, pivotRecord, choosePivot_withMark, pivot_withMark, led]
        · rw [labels, List.getElem?_set_self low]
          change _ = tableau.columnLabels[column]?
          rw [List.getD_eq_getElem _ _ wide, List.getElem?_eq_getElem wide]
        · intro row other
          rw [labels, List.getElem?_set_ne other.symm]
          rfl
  · exact absurd ended before.ne

variable {most : Nat} (means : lone.limit.Means most)
include means

/-- There are at most as many pivots as the limit says. -/
theorem total_le : lone.total ≤ most := by
  rcases Nat.eq_zero_or_pos lone.total with zero | positive
  · exact zero ▸ Nat.zero_le most
  -- the last pivot was made, so the limit was not reached before it
  · have before : lone.total - 1 < lone.total := Nat.sub_lt positive one_pos
    obtain ⟨tableau, reached⟩ := lone.exists_tableauAt before.le
    obtain ⟨choice, next, made, -⟩ | ⟨ended, -⟩ := step_cases reached before.le
    · cases decided_of_nextStep made with
      | pivoted _ _ _ _ _ _ free _ =>
          rw [Bool.eq_false_iff, ne_eq, means.atMost_iff] at free
          have below : lone.total - 1 < most := by exact_mod_cast not_le.mp free
          omega
    · exact absurd ended before.ne

/-- The status is the one that the last tableau asks for. -/
theorem verdict : lone.solution.Verdict settings lone.total most lone.result.last := by
  have within := total_le means
  have stops := decided_of_nextStep lone.complete.stops
  have reached : lone.limit.atMost lone.total = true ↔ lone.total = most := by
    rw [means.atMost_iff]
    constructor
    · intro high
      exact le_antisymm within (by exact_mod_cast high)
    · rintro rfl
      exact le_rfl
  have status := lone.status_eq
  have message := lone.message_eq
  generalize lone.result.status = ended at stops status
  generalize lone.result.message = words at stops message
  cases stops with
  | optimal chosen =>
      constructor <;> simp [status, chosen, Choice.isOptimal, Choice.isUnbounded]
  | unbounded column _ chosen =>
      constructor <;> simp [status, chosen, Choice.isOptimal, Choice.isUnbounded]
  | limited column leaving chosen full =>
      have all := reached.mp full
      constructor <;> simp [status, chosen, all, Choice.isOptimal, Choice.isUnbounded]
  | refused column leaving cause chosen free failed =>
      have fewer : lone.total ≠ most := fun all => by
        rw [total] at reached
        simp [reached.mpr all] at free
      refine ⟨?_, ?_, ?_, fun _ _ _ => ⟨status, cause, failed, message⟩⟩
      · simp [status, chosen, Choice.isOptimal]
      · simp [status, chosen, Choice.isUnbounded]
      · simp [status, fewer]

/-- **The history of a solve can be replayed.** -/
theorem replays : lone.solution.Replays settings lone.start most where
  length_eq := by rw [lone.history_eq, lone.iterations_eq, lone.length_records]
  within := lone.iterations_eq ▸ total_le means
  first := by
    have inside : 0 < lone.records.length := by
      rw [lone.length_records]
      exact Nat.succ_pos _
    rw [lone.history_eq]
    refine ⟨lone.records[0], List.getElem?_eq_getElem inside, ?_⟩
    exact (Option.some.inj (tableauAt_of_record (List.getElem?_eq_getElem inside))).symm
  pivots := by
    rw [lone.history_eq]
    exact fun index first second here there => pivotsTo_of_records here there
  last := by
    refine ⟨finalRecord lone.result.last, ?_, rfl, (continues lone.tableauAt_total).unmarked, ?_⟩
    · rw [lone.history_eq, lone.iterations_eq, lone.getElem?_records_total]
    · rw [lone.iterations_eq]
      exact verdict means

end Lone

/-! ## Solving, at once and step by step -/

namespace Problem

/-- **The history justifies the status, and a walk makes it record by record.** With a
limit of `most` pivots every accepted problem has a solution whose history leads from the
starting tableau, pivot by pivot, to a tableau in which the method stops as the status
says. A walk that is alone in a session makes these records in this order; the session has
no solution before the last of them is made, and then it has this one. -/
theorem history_replays {problem : Problem α} {settings : Settings α} {count : Count}
    {limit : Quantity α} {most : Nat} (valid : problem.validate = .ok count)
    (limited : settings.limit count.toInt problem.constraints.length = .ok limit)
    (means : limit.Means most) :
    ∃ start solution, problem.startingTableau = .ok start ∧
      problem.solve settings false = .ok solution ∧ solution.Replays settings start most ∧
        ∀ (hasSwitch : Bool) (name : String),
          (∀ steps, ∃ walked,
            ((Session.fresh problem settings hasSwitch).openWalk name).exhaust name steps =
              .ok walked ∧
              walked.records = solution.history.take steps ∧
                walked.session.solution? =
                  if solution.iterations < steps then some solution else none) ∧
          ∃ walked, ((Session.fresh problem settings hasSwitch).openWalk name).drain name =
              .ok walked ∧
            walked.records = solution.history ∧ walked.session.solution? = some solution := by
  obtain ⟨lone, rfl⟩ := exists_lone valid limited means
  refine ⟨lone.start, lone.solution, lone.built, lone.solve_eq, Lone.replays means, ?_⟩
  intro hasSwitch name
  have solo := Session.Solo.openWalk lone (Session.quiet_fresh problem settings hasSwitch) name
  have walks : ∀ steps, ∃ walked,
      ((Session.fresh problem settings hasSwitch).openWalk name).exhaust name steps = .ok walked ∧
        walked.records = lone.solution.history.take steps ∧ walked.session.solution? =
          if lone.solution.iterations < steps then some lone.solution else none := by
    intro steps
    obtain ⟨walked, made, records, after⟩ := solo.exhaust steps
    refine ⟨walked, made, by rw [records, lone.history_eq, List.drop_zero], ?_⟩
    rw [after.solution_eq, lone.iterations_eq]
    exact if_congr (by omega) rfl rfl
  refine ⟨walks, ?_⟩
  have enough := Session.total_lt_budget lone solo.quiet
  obtain ⟨walked, made, records, shown⟩ := walks _
  refine ⟨walked, made, ?_, ?_⟩
  · rw [records, lone.history_eq, List.take_of_length_le]
    exact lone.length_records.trans_le enough.le
  · rw [shown, if_pos]
    exact lone.iterations_eq.trans_lt (Nat.lt_of_succ_lt enough)

/-- The corner is left after its degenerate pivot, and the three pivots of the history lead
to the optimum. -/
theorem history_replays_heldCorner :
    ∃ start solution, heldCorner.startingTableau = .ok start ∧
      heldCorner.solve Settings.standard false = .ok solution ∧
        solution.Replays Settings.standard start 100 ∧ solution.iterations = 3 ∧
          solution.status = .optimal := by
  have reported : (heldCorner.solve Settings.standard false).toOption.map (fun solution =>
      (solution.iterations, solution.status)) = some (3, .optimal) := by decide +kernel
  have limited : (Settings.standard : Settings Rat).limit (Count.whole 2).toInt
      heldCorner.constraints.length = .ok (.whole 100) := by rfl
  have means : (Quantity.whole 100 : Quantity Rat).Means (100 : Nat) := rfl
  obtain ⟨start, solution, built, answer, replays, -⟩ :=
    history_replays validate_heldCorner limited means
  have shown := eq_of_seen answer reported
  obtain ⟨iterations, optimal⟩ := Prod.mk.inj shown
  exact ⟨start, solution, built, answer, replays, iterations, optimal⟩

end Problem

end SimplexSolver
