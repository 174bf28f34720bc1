import SimplexSolver.Proofs.Replays

/-!
# Limits only cut a solve short

The limit on the number of pivots is asked for at one place of a step: after it is known
that a pivot is to be made, and before it is made. A step that does not stop at its limit is
therefore the same under every limit that is not reached earlier (`nextStep_widen`). So two
solves of one problem that differ only in their limits go through the same tableaux as long
as both go on (`reached_widen`), and the solve with the smaller limit makes the first pivots
of the other one (`Lone.records_of_wider`).

The main result compares the two answers. If the solve with the smaller limit ended for
another reason, the larger limit changes nothing at all. If it ended at its limit, it made
exactly as many pivots as that allows and stands where the other solve stood at that time.
-/

set_option autoImplicit false

namespace SimplexSolver

open Tableau

variable {α : Type} [Scalar α]

/-- The settings with the most pivots given outright. -/
def Settings.withLimit (settings : Settings α) (most : Nat) : Settings α :=
  { settings with maxIterations := some (.whole most) }

/-! ## One step under two limits -/

/-- **A step that does not stop at its limit is the same under a wider limit.** -/
theorem nextStep_widen {settings : Settings α} {limit wider : Quantity α} {done : Nat}
    {tableau : Tableau α} {step : Step α}
    (wide : wider.atMost done = true → limit.atMost done = true)
    (made : nextStep settings limit done tableau = .ok step)
    (unlimited : ∀ message, step ≠ .stop .iterationLimitExceeded message) :
    nextStep settings wider done tableau = .ok step := by
  rw [← made]
  obtain chosen | ⟨column, -, chosen⟩ | ⟨column, leaving, -, -, chosen⟩ :=
    tableau.choosePivot_cases settings.epsilon settings.rule
  · simp [nextStep, chosen]
  · simp [nextStep, chosen]
  · cases full : limit.atMost done with
    | true =>
        -- the step stopped at the limit, which was excluded
        refine absurd ?_ (unlimited (limitMessage limit))
        simpa [nextStep, chosen, full] using made.symm
    | false =>
        have free : wider.atMost done = false := by
          cases reached : wider.atMost done with
          | true => exact absurd (wide reached) (by simp [full])
          | false => rfl
        simp [nextStep, chosen, full, free]

/-- The tableaux of a run are those of every run with a wider limit. -/
theorem reached_widen {settings : Settings α} {limit wider : Quantity α} {start : Tableau α}
    (wide : ∀ done : Nat, wider.atMost done = true → limit.atMost done = true) {done : Nat}
    {tableau : Tableau α} (here : reached settings limit start done = some tableau) :
    reached settings wider start done = some tableau := by
  induction done generalizing tableau with
  | zero => exact here
  | succ done ih =>
      obtain ⟨before, earlier, led⟩ := Option.bind_eq_some_iff.mp here
      unfold advance at led
      split at led
      · rename_i choice next made
        obtain rfl := Option.some.inj led
        exact reached_succ (ih earlier) (nextStep_widen (wide done) made (by simp))
      · simp at led

/-- The tableaux of a run depend on the limit only, not on where it comes from. -/
theorem reached_withLimit (settings : Settings α) (most : Nat) (limit : Quantity α)
    (start : Tableau α) (done : Nat) :
    reached (settings.withLimit most) limit start done = reached settings limit start done := by
  induction done with
  | zero => rfl
  | succ done ih =>
      rw [reached, reached, ih]
      rfl

/-! ## Two solves -/

namespace Lone

variable {problem : Problem α} {settings : Settings α} {most more : Nat}

/-- The limit of a solve whose most pivots are given outright. -/
theorem limit_withLimit (lone : Lone problem (settings.withLimit most)) :
    lone.limit = .whole most :=
  (Except.ok.inj lone.limited).symm

theorem means_withLimit (lone : Lone problem (settings.withLimit most)) :
    lone.limit.Means most := by
  rw [lone.limit_withLimit]
  rfl

variable (short : Lone problem (settings.withLimit most))
  (long : Lone problem (settings.withLimit more)) (within : most ≤ more)
include within

/-- The larger limit is reached no earlier. -/
theorem atMost_of_wider {done : Nat} (full : long.limit.atMost done = true) :
    short.limit.atMost done = true := by
  have beyond := long.means_withLimit.atMost_iff.mp full
  refine short.means_withLimit.atMost_iff.mpr (le_trans ?_ beyond)
  exact_mod_cast within

/-- What a step does before the smaller limit it also does before the larger one. -/
theorem nextStep_of_wider {done : Nat} {tableau : Tableau α} {step : Step α}
    (made : nextStep (settings.withLimit most) short.limit done tableau = .ok step)
    (unlimited : ∀ message, step ≠ .stop .iterationLimitExceeded message) :
    nextStep (settings.withLimit more) long.limit done tableau = .ok step :=
  nextStep_widen (atMost_of_wider short long within) made unlimited

/-- The tableaux of the shorter solve are those of the longer one. -/
theorem tableauAt_of_wider {done : Nat} {tableau : Tableau α}
    (here : short.tableauAt done = some tableau) : long.tableauAt done = some tableau := by
  have start : long.start = short.start := Except.ok.inj (long.built.symm.trans short.built)
  rw [tableauAt, reached_withLimit] at here
  rw [tableauAt, reached_withLimit, start]
  exact reached_widen (fun _ => atMost_of_wider short long within) here

/-- The shorter solve makes no more pivots. -/
theorem total_le_of_wider : short.total ≤ long.total := by
  by_contra fewer
  have early : long.total < short.total := Nat.lt_of_not_le fewer
  -- where the longer solve stops, the shorter one still pivots
  obtain ⟨tableau, here⟩ := short.exists_tableauAt early.le
  have there := tableauAt_of_wider short long within here
  obtain ⟨choice, next, made, -⟩ | ⟨ended, -⟩ := step_cases here early.le
  · obtain rfl := Option.some.inj (there.symm.trans long.tableauAt_total)
    have further := nextStep_of_wider short long within made (by simp)
    rw [total, long.complete.stops] at further
    cases further
  · exact early.ne ended

/-- A pivot of the shorter solve is recorded by the longer one too. -/
theorem getElem?_records_of_wider {index : Nat} (before : index < short.total) :
    long.result.records[index]? = short.result.records[index]? := by
  obtain ⟨tableau, here⟩ := short.exists_tableauAt before.le
  have there := tableauAt_of_wider short long within here
  have inside := before.trans_le (total_le_of_wider short long within)
  obtain ⟨choice, next, made, recorded, -⟩ | ⟨ended, -⟩ := step_cases here before.le
  · have further := nextStep_of_wider short long within made (by simp)
    obtain ⟨choice', next', made', recorded', -⟩ | ⟨ended, -⟩ := step_cases there inside.le
    · rw [further, Except.ok.injEq, Step.pivot.injEq] at made'
      rw [recorded, recorded', made'.1]
    · exact absurd ended inside.ne
  · exact absurd ended before.ne

/-- **The pivots of the shorter solve are the first ones of the longer solve.** -/
theorem records_of_wider : short.result.records = long.result.records.take short.total := by
  apply List.ext_getElem?
  intro index
  rcases Nat.lt_or_ge index short.total with before | after
  · rw [List.getElem?_take_of_lt before, getElem?_records_of_wider short long within before]
  · rw [List.getElem?_eq_none (by simpa [total] using after),
      List.getElem?_take_eq_none after]

theorem take_records_of_wider :
    short.records.take short.total = long.records.take short.total := by
  have all : short.total ≤ short.result.records.length := le_rfl
  have inside : short.total ≤ long.result.records.length := total_le_of_wider short long within
  rw [records, records, List.take_append_of_le_length all, List.take_append_of_le_length inside,
    short.take_total]
  exact records_of_wider short long within

/-- The longer solve has a record of the tableau in which the shorter one stopped. -/
theorem exists_record_of_wider : ∃ record, long.records[short.total]? = some record ∧
    record.tableau.withMark none = short.result.last := by
  have inside : short.total < long.records.length := by
    rw [long.length_records]
    exact Nat.lt_succ_of_le (total_le_of_wider short long within)
  refine ⟨long.records[short.total], List.getElem?_eq_getElem inside, ?_⟩
  have shown := tableauAt_of_record (List.getElem?_eq_getElem inside)
  have there := tableauAt_of_wider short long within short.tableauAt_total
  exact Option.some.inj (shown.symm.trans there)

/-- A solve that does not end at its limit is not changed by a larger one. -/
theorem solution_of_wider (free : short.result.status ≠ .iterationLimitExceeded) :
    long.solution = short.solution := by
  have there := tableauAt_of_wider short long within short.tableauAt_total
  have stops := nextStep_of_wider short long within short.complete.stops fun message same =>
    free (Step.stop.inj same).1
  obtain ⟨choice, next, made, -⟩ | ⟨ended, last, made⟩ :=
    step_cases there (total_le_of_wider short long within)
  · rw [total, stops] at made
    cases made
  · rw [total, stops, Except.ok.injEq, Step.stop.injEq] at made
    have records : short.result.records = long.result.records := by
      rw [records_of_wider short long within, ended, long.take_total]
    have answer := short.answer
    rw [records, last, made.1, made.2, long.answer] at answer
    exact Except.ok.inj answer

omit within in
/-- A solve that ends at its limit made all pivots that the limit allows, and its values are
zeros. -/
theorem parts_of_limited (full : short.result.status = .iterationLimitExceeded) :
    short.total = most ∧
      short.solution.decision = List.replicate short.start.variableCount.toNat 0 ∧
        short.solution.slack = List.replicate short.start.constraintCount 0 ∧
          short.solution.objective = 0 := by
  have verdict := verdict short.means_withLimit
  have status := short.status_eq.trans full
  refine ⟨(verdict.limited (by simp [status]) (by simp [status])).mp status, ?_⟩
  obtain ⟨optimal, -⟩ | ⟨-, zeros⟩ := short.values_cases
  · rw [full] at optimal
    cases optimal
  · exact zeros

end Lone

/-! ## The limit only truncates -/

namespace Problem

theorem nonempty_lone_withLimit {problem : Problem α} {count : Count}
    (valid : problem.validate = .ok count) (settings : Settings α) (most : Nat) :
    Nonempty (Lone problem (settings.withLimit most)) := by
  have limited : (settings.withLimit most).limit count.toInt problem.constraints.length =
      .ok (.whole most) := rfl
  have means : (Quantity.whole most : Quantity α).Means most := rfl
  obtain ⟨lone, -⟩ := exists_lone valid limited means
  exact ⟨lone⟩

/-- **The limit only cuts a solve short.** Let an accepted problem be solved with a limit of
`most` pivots and with one of `more` pivots, which is no smaller. Both solves end, and the
first one makes at most `most` pivots. If it does not end at its limit, the answers are
identical. If it does, it made exactly `most` pivots and all its values are zero, its records
before the final one are the first records of the other solve, and its last tableau is the
one that the other solve had after as many pivots, apart from the mark. -/
theorem limit_only_truncates {problem : Problem α} {count : Count}
    (valid : problem.validate = .ok count) (settings : Settings α) {most more : Nat}
    (within : most ≤ more) :
    ∃ short long, problem.solve (settings.withLimit most) false = .ok short ∧
      problem.solve (settings.withLimit more) false = .ok long ∧ short.iterations ≤ most ∧
        (short.status ≠ .iterationLimitExceeded → long = short) ∧
          (short.status = .iterationLimitExceeded →
            short.iterations = most ∧ short.history.length = most + 1 ∧
              short.decision = List.replicate count.toNat 0 ∧
                short.slack = List.replicate problem.constraints.length 0 ∧
                  short.objective = 0 ∧ short.history.take most = long.history.take most ∧
                    ∃ last record, short.finalTableau? = some last ∧
                      long.history[most]? = some record ∧
                        last.withMark none = record.tableau.withMark none) := by
  obtain ⟨short⟩ := nonempty_lone_withLimit valid settings most
  obtain ⟨long⟩ := nonempty_lone_withLimit valid settings more
  refine ⟨short.solution, long.solution, short.solve_eq, long.solve_eq, ?_, ?_, ?_⟩
  · exact short.iterations_eq.trans_le (Lone.total_le short.means_withLimit)
  · intro free
    rw [short.status_eq] at free
    exact Lone.solution_of_wider short long within free
  · intro full
    rw [short.status_eq] at full
    obtain ⟨total, decision, slack, objective⟩ := Lone.parts_of_limited short full
    obtain ⟨number, height⟩ := sizes_start valid short.built
    obtain ⟨record, there, shown⟩ := Lone.exists_record_of_wider short long within
    have records := Lone.take_records_of_wider short long within
    have length := short.length_records
    rw [number] at decision
    rw [height] at slack
    rw [total] at there records length
    rw [short.history_eq, long.history_eq]
    refine ⟨short.iterations_eq.trans total, length, decision, slack, objective, records,
      short.result.last, record, ?_, there, ?_⟩
    · simp [Solution.finalTableau?, short.history_eq, Lone.records, finalRecord]
    · rw [shown, ← (Lone.continues short.tableauAt_total).unmarked]
      rfl

/-- With a limit of one pivot `twoLimits` is left after its first pivot; with one more it is
solved. -/
theorem limit_only_truncates_twoLimits :
    ∃ short long, twoLimits.solve (Settings.standard.withLimit 1) false = .ok short ∧
      twoLimits.solve (Settings.standard.withLimit 2) false = .ok long ∧
        short.status = .iterationLimitExceeded ∧ long.status = .optimal ∧
          short.history.take 1 = long.history.take 1 ∧ short.decision = [0, 0] := by
  obtain ⟨short, long, first, second, -, -, limited⟩ :=
    limit_only_truncates validate_twoLimits Settings.standard (show 1 ≤ 2 by decide)
  have left : (twoLimits.solve (Settings.standard.withLimit 1) false).toOption.map (·.status) =
      some .iterationLimitExceeded := by decide +kernel
  have solved : (twoLimits.solve (Settings.standard.withLimit 2) false).toOption.map (·.status) =
      some .optimal := by decide +kernel
  have exceeded := eq_of_seen first left
  have optimal := eq_of_seen second solved
  obtain ⟨-, -, decision, -, -, records, -⟩ := limited exceeded
  exact ⟨short, long, first, second, exceeded, optimal, records, decision⟩

end Problem

end SimplexSolver
