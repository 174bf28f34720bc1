import SimplexSolver.Proofs.Courses
import SimplexSolver.Proofs.Cycling

/-!
# Only degenerate pivots return to a basis

A pivot is degenerate when the right-hand side of the row that leaves is zero. Such a
pivot changes the basis and not the basic solution; every other pivot raises the
objective. The basis alone determines the objective value, so a run comes back to a basis
only by degenerate pivots, and the objective stands still all the while
(`degenerate_of_same_basis`). Neither depends on the rule for the entering column.

A run without degenerate pivots therefore meets every basis at most once. It ends before
a limit that is not below the number of bases, and its answer is "optimal" or
"unbounded". This is when the limit is a safety net only. It is needed otherwise: the
rule of the most negative cell goes around six bases of `degenerateTies` for ever.
-/

set_option autoImplicit false

namespace SimplexSolver

open Tableau

/-- In a stretch of a run that returns to its basis the objective value stays the same. -/
theorem Stretch.worth_eq {settings : Settings Rat} {tableaux : Nat → Tableau Rat}
    {leaving entering : Nat → Nat} {total : Nat}
    (stretch : Stretch settings tableaux leaving entering total)
    (closed : ∀ column, (tableaux 0).IsBasic column ↔ (tableaux total).IsBasic column)
    {done : Nat} (inside : done ≤ total) :
    (tableaux done).rightSide (tableaux done).constraintCount =
      (tableaux 0).rightSide (tableaux 0).constraintCount := by
  have ends := (stretch.same 0 (Nat.zero_le _) total le_rfl).rightSide_objective
    (stretch.canonical 0 (Nat.zero_le _)) (stretch.canonical total le_rfl)
    fun column => (closed column).mp
  have before := stretch.worth_mono (Nat.zero_le done) inside
  have after := stretch.worth_mono inside le_rfl
  exact le_antisymm (ends ▸ after) before

/-- The row and the column of a pivot are determined by the tableau it is made in. -/
theorem PivotStep.leaving_unique {settings : Settings Rat} {tableau next other : Tableau Rat}
    {leaving column leaving' column' : Nat}
    (step : PivotStep settings tableau next leaving column)
    (step' : PivotStep settings tableau other leaving' column') : leaving = leaving' := by
  obtain rfl := Option.some.inj (step.entering.symm.trans step'.entering)
  exact Option.some.inj (step.row.symm.trans step'.row)

namespace Problem

variable {problem : Problem Rat} {settings : Settings Rat} {count : Count}

/-- None of the first `total` pivots of a run is degenerate. -/
def Rising (problem : Problem Rat) (settings : Settings Rat) (total : Nat) : Prop :=
  ∀ done tableau next leaving column, done < total →
    problem.tableauAt settings done = some tableau →
      problem.tableauAt settings (done + 1) = some next →
        PivotStep settings tableau next leaving column → 0 < tableau.rightSide leaving

section Run

variable (valid : problem.validate = .ok count) (tolerance : 0 ≤ settings.epsilon)
  (fine : problem.FineRun settings)
include valid tolerance fine

/-- **Between two tableaux of a run with the same basis** the objective value stays the
same, and every pivot is made at a right-hand side of zero. -/
theorem degenerate_of_same_basis {first second done : Nat} {left right tableau : Tableau Rat}
    (here : problem.tableauAt settings first = some left)
    (there : problem.tableauAt settings second = some right)
    (basis : ∀ column, left.IsBasic column ↔ right.IsBasic column)
    (after : first ≤ done) (before : done ≤ second)
    (between : problem.tableauAt settings done = some tableau) :
    tableau.rightSide tableau.constraintCount = left.rightSide left.constraintCount ∧
      (done < second → ∀ next leaving column, PivotStep settings tableau next leaving column →
        tableau.rightSide leaving = 0) := by
  obtain ⟨total, rfl⟩ := Nat.exists_eq_add_of_le (after.trans before)
  obtain ⟨offset, rfl⟩ := Nat.exists_eq_add_of_le after
  obtain ⟨tableaux, leaves, enters, stretch, reach⟩ := exists_stretch valid tolerance fine there
  have inside : offset ≤ total := Nat.add_le_add_iff_left.mp before
  obtain rfl := Option.some.inj (here.symm.trans (reach 0 (Nat.zero_le _)))
  obtain rfl := Option.some.inj (there.symm.trans (reach total le_rfl))
  obtain rfl := Option.some.inj (between.symm.trans (reach offset inside))
  refine ⟨stretch.worth_eq basis inside, fun strictly next leaving column step => ?_⟩
  have low : offset < total := Nat.add_lt_add_iff_left.mp strictly
  rw [step.leaving_unique (stretch.steps offset low)]
  exact stretch.rightSide_leaving_eq_zero basis low

/-- A run whose pivots are not degenerate never returns to a basis. -/
theorem eq_of_same_basis_of_rising {total : Nat} (rising : problem.Rising settings total)
    {first second : Nat} {left right : Tableau Rat} (inside : first ≤ total)
    (within : second ≤ total) (here : problem.tableauAt settings first = some left)
    (there : problem.tableauAt settings second = some right)
    (basis : ∀ column, left.IsBasic column ↔ right.IsBasic column) : first = second := by
  -- The first pivot after the earlier of the two tableaux is degenerate.
  have apart : ∀ {first second : Nat} {left right : Tableau Rat}, second ≤ total →
      problem.tableauAt settings first = some left →
        problem.tableauAt settings second = some right →
          (∀ column, left.IsBasic column ↔ right.IsBasic column) → ¬ first < second := by
    intro first second left right within here there basis before
    obtain ⟨next, later⟩ := exists_tableauAt_of_le valid there (Nat.succ_le_of_lt before)
    obtain ⟨tableau, leaving, column, found, step⟩ := exists_pivotStep valid tolerance later
    have zero := (degenerate_of_same_basis valid tolerance fine here there basis le_rfl before.le
      found).2 before next leaving column step
    have positive := rising first tableau next leaving column (before.trans_le within) found later
      step
    exact positive.ne' zero
  have early := apart within here there basis
  have late := apart inside there here fun column => (basis column).symm
  omega

end Run

/-! ## Degenerate records -/

/-- The records of a history show whether its pivots are degenerate. -/
theorem rising_of_history {solution : Solution Rat} {total : Nat}
    (valid : problem.validate = .ok count) (tolerance : 0 ≤ settings.epsilon)
    (answer : problem.solve settings false = .ok solution)
    (length : solution.history.length = total + 1)
    (positive : ∀ record ∈ solution.history, ∀ leaving : Nat,
      record.choice.bind (·.leaving) = some (leaving : Int) →
        0 < record.tableau.rightSide leaving) : problem.Rising settings total := by
  intro done tableau next leaving column early here _ step
  have later : done + 1 < solution.history.length := by omega
  have at_done := List.getElem?_eq_getElem (Nat.lt_of_succ_lt later)
  have at_next := List.getElem?_eq_getElem later
  obtain ⟨found, _, row, _, _, _, again, -, step', shown, -⟩ :=
    exists_pivotStep_of_history valid tolerance answer at_done at_next
  obtain rfl := Option.some.inj (here.symm.trans again)
  rw [step.leaving_unique step']
  have member := List.mem_of_getElem? at_done
  rw [shown] at member
  exact positive _ member row rfl

/-- **A run returns to a basis only by degenerate pivots.** With a fine tolerance, if two
records of a solve have the same set of row labels, then every pivot between them is made
at a right-hand side of zero, and the last cell of the objective row is the same in all
records between them. If the right-hand side of the row that leaves is positive in every
record, no two records have the same set of row labels, and under a limit that is not
below the number of bases the solve ends with the status "optimal" or "unbounded". -/
theorem returns_to_basis_only_degenerately (valid : problem.validate = .ok count)
    (tolerance : 0 ≤ settings.epsilon) (fine : problem.FineRun settings) :
    ∃ solution, problem.solve settings false = .ok solution ∧
      (∀ (i j : Nat) (first second : Record Rat), i < j → solution.history[i]? = some first →
        solution.history[j]? = some second →
          (∀ label, label ∈ first.tableau.rowLabels ↔ label ∈ second.tableau.rowLabels) →
            ∀ (k : Nat) (record : Record Rat), i ≤ k → k ≤ j → solution.history[k]? = some record →
              record.tableau.rightSide record.tableau.constraintCount =
                  first.tableau.rightSide first.tableau.constraintCount ∧
                (k < j → ∃ leaving : Nat, record.choice.bind (·.leaving) = some (leaving : Int) ∧
                  leaving < record.tableau.constraintCount ∧
                    record.tableau.rightSide leaving = 0)) ∧
      ((∀ record ∈ solution.history, ∀ leaving : Nat,
          record.choice.bind (·.leaving) = some (leaving : Int) →
            0 < record.tableau.rightSide leaving) →
        (∀ (i j : Nat) (first second : Record Rat), solution.history[i]? = some first →
          solution.history[j]? = some second →
            (∀ label, label ∈ first.tableau.rowLabels ↔ label ∈ second.tableau.rowLabels) →
              i = j) ∧
        ∀ limit, settings.limit count.toInt problem.constraints.length = .ok limit →
          limit.below ((count.toNat + problem.constraints.length).choose
            problem.constraints.length) = false →
              solution.status = .optimal ∨ solution.status = .unbounded) := by
  obtain ⟨start, limit, built, limited, -, same⟩ := exists_tableauAt_eq valid settings
  obtain ⟨lone, rfl⟩ := exists_lone valid limited limit.means_exact
  obtain rfl := Except.ok.inj (built.symm.trans lone.built)
  have answer := lone.solve_eq
  have length : lone.solution.history.length = lone.total + 1 := by
    rw [lone.history_eq, lone.length_records]
  refine ⟨lone.solution, answer, ?_, fun positive => ?_⟩
  · intro i j first second before here there labels k record after upTo between
    obtain ⟨left, mark, at_i, shown⟩ := exists_tableauAt_of_history built answer here
    obtain ⟨right, other, at_j, shown'⟩ := exists_tableauAt_of_history built answer there
    obtain ⟨tableau, third, at_k, shown''⟩ := exists_tableauAt_of_history built answer between
    rw [shown, shown'] at labels
    obtain ⟨worth, zero⟩ := degenerate_of_same_basis valid tolerance fine at_i at_j
      (isBasic_iff_of_labels valid at_i at_j labels) after upTo at_k
    refine ⟨by rw [shown, shown'']; exact worth, fun strictly => ?_⟩
    have inside : k + 1 < lone.solution.history.length :=
      lt_of_le_of_lt strictly (List.getElem?_eq_some_iff.mp there).1
    obtain ⟨found, next, leaving, column, _, _, again, -, step, rfl, -⟩ :=
      exists_pivotStep_of_history valid tolerance answer between (List.getElem?_eq_getElem inside)
    obtain rfl := Option.some.inj (at_k.symm.trans again)
    have low := step.leaving_lt tolerance
    have nothing := zero strictly next leaving column step
    exact ⟨leaving, rfl, low, nothing⟩
  · have rising := rising_of_history valid tolerance answer length positive
    constructor
    · intro i j first second here there labels
      obtain ⟨left, mark, at_i, shown⟩ := exists_tableauAt_of_history built answer here
      obtain ⟨right, other, at_j, shown'⟩ := exists_tableauAt_of_history built answer there
      rw [shown, shown'] at labels
      have inside := (List.getElem?_eq_some_iff.mp here).1
      have within := (List.getElem?_eq_some_iff.mp there).1
      rw [length, Nat.lt_succ_iff] at inside within
      exact eq_of_same_basis_of_rising valid tolerance fine rising inside within at_i at_j
        (isBasic_iff_of_labels valid at_i at_j labels)
    · intro found again enough
      obtain rfl := Except.ok.inj (limited.symm.trans again)
      have last : problem.tableauAt settings lone.total = some lone.result.last :=
        same ▸ lone.tableauAt_total
      have early := lt_choose_of_apart valid tolerance fine last fun _ _ _ _ inside within =>
        eq_of_same_basis_of_rising valid tolerance fine rising inside within
      rw [lone.status_eq]
      exact (outcome_of_nextStep tolerance lone.complete.stops).answers_of_lt early
        (by exact_mod_cast enough)

/-- The rule of the most negative cell with the standard tolerance and a limit. -/
def mostNegative (limit : Int) : Settings Rat :=
  { Settings.standard with maxIterations := some (.whole limit) }

/-- This rule returns to the first basis of `degenerateTies` after six pivots, all of them
degenerate. No pivot of `twoLimits` is, and its standard limit is above its six bases. -/
theorem returns_to_basis_only_degenerately_degenerateTies :
    (∃ solution, degenerateTies.solve (mostNegative 6) false = .ok solution ∧
      solution.history.map (·.tableau.rowLabels) =
        [["s1", "s2", "s3"], ["x1", "s2", "s3"], ["x1", "x2", "s3"], ["x3", "x2", "s3"],
          ["x3", "x4", "s3"], ["s1", "x4", "s3"], ["s1", "s2", "s3"]] ∧
      ∀ (k : Nat) (record : Record Rat), k < 6 → solution.history[k]? = some record →
        ∃ leaving : Nat, record.choice.bind (·.leaving) = some (leaving : Int) ∧
          record.tableau.rightSide leaving = 0) ∧
    (2 + 2).choose 2 = 6 ∧ ∃ solution, twoLimits.solve Settings.standard false = .ok solution ∧
      solution.status = .optimal := by
  constructor
  · have valid : degenerateTies.validate = .ok (.whole 4) := by rfl
    have ended : (degenerateTies.tableauAt (mostNegative 6) 7).isNone := by decide +kernel
    have start : ∀ tableau ∈ degenerateTies.tableauAt (mostNegative 6) 0,
        FineCells (mostNegative 6).epsilon tableau.cells := by decide +kernel
    have checked : ∀ done < 7, ∀ tableau ∈ degenerateTies.tableauAt (mostNegative 6) done,
        FineTableau (mostNegative 6) tableau := by decide +kernel
    have reported : (degenerateTies.solve (mostNegative 6) false).toOption.map (fun solution =>
        solution.history.map (·.tableau.rowLabels)) =
          some [["s1", "s2", "s3"], ["x1", "s2", "s3"], ["x1", "x2", "s3"], ["x3", "x2", "s3"],
            ["x3", "x4", "s3"], ["s1", "x4", "s3"], ["s1", "s2", "s3"]] := by decide +kernel
    obtain ⟨solution, answer, returns, -⟩ := returns_to_basis_only_degenerately valid
      (by decide +kernel) (fineRun_of_checked valid ended start checked)
    have shown := eq_of_seen answer reported
    refine ⟨solution, answer, shown, fun k record before here => ?_⟩
    have labels : ∀ index : Nat, solution.history[index]?.map (·.tableau.rowLabels) = _ :=
      fun index => by rw [← List.getElem?_map, shown]
    obtain ⟨first, at_first, left⟩ := Option.map_eq_some_iff.mp (labels 0)
    obtain ⟨second, at_second, right⟩ := Option.map_eq_some_iff.mp (labels 6)
    obtain ⟨-, zero⟩ := returns 0 6 first second (by decide) at_first at_second
      (fun label => by rw [left, right]) k record (Nat.zero_le k) before.le here
    obtain ⟨leaving, chosen, -, nothing⟩ := zero before
    exact ⟨leaving, chosen, nothing⟩
  · have rising : ∀ solution ∈ (twoLimits.solve Settings.standard false).toOption,
        ∀ record ∈ solution.history, ∀ row ∈ record.choice.bind (·.leaving),
          0 < record.tableau.rightSide row.toNat := by decide +kernel
    have bounded : ∀ solution ∈ (twoLimits.solve Settings.standard false).toOption,
        solution.status ≠ .unbounded := by decide +kernel
    obtain ⟨solution, answer, -, answers⟩ := returns_to_basis_only_degenerately validate_twoLimits
      (by decide +kernel) fineRun_twoLimits
    have found : solution ∈ (twoLimits.solve Settings.standard false).toOption := by
      rw [answer]
      rfl
    have positive : ∀ record ∈ solution.history, ∀ leaving : Nat,
        record.choice.bind (·.leaving) = some (leaving : Int) →
          0 < record.tableau.rightSide leaving :=
      fun record member leaving chosen => rising solution found record member leaving chosen
    have solved := (answers positive).2 (.whole 80) rfl (by decide +kernel)
    exact ⟨by decide, solution, answer, solved.resolve_right (bounded solution found)⟩

end Problem

end SimplexSolver
