import SimplexSolver.Proofs.Selection
import SimplexSolver.Solve.Run

/-!
# Steps and traces, whatever the arithmetic

How a solve goes on depends on no law of its scalars. A step of the method never fails:
it stops for one of four reasons or it pivots, and `Decided` lists these with all that
they depend on (`nextStep_decided`). What becomes of a pivot inside a tableau is said by
one equation (`pivot_eq`), and what is known of pivots over exact scalars is read off it.

`reached` is the tableau after a number of pivots. It is defined by the step of the
method alone, without the budget that bounds the recursion of `trace`. That the two
agree is shown here once: the records of a trace are the pivots between these tableaux
(`trace_records`), and a trace whose limit is reached within its budget goes on until the
method stops (`exists_complete_trace`). What holds of the first tableau and is kept by
every pivot holds of all of them (`reached_induction`); the shape of a tableau, its column
labels and its direction are kept whatever is done to the cells (`continues_reached`,
`direction_reached`).
-/

set_option autoImplicit false

namespace SimplexSolver

open Tableau

variable {α : Type} [Scalar α]

/-! ## One step -/

namespace Tableau

/-- The leaving row is a constraint row. -/
theorem leavingRow_lt {tableau : Tableau α} {epsilon : α} {column leaving : Nat}
    (found : tableau.leavingRow epsilon column = some leaving) :
    leaving < tableau.constraintCount := by
  obtain ⟨pair, tested, rfl⟩ := Option.map_eq_some_iff.mp found
  have bound := ratioTest_lt (by simp) tested
  rwa [Nat.zero_add, length_constraintRows] at bound

/-- A choice has no column, or a column and no row, or a column, a row and the cell in
both. -/
theorem choosePivot_cases (tableau : Tableau α) (epsilon : α) (rule : PivotRule) :
    tableau.choosePivot epsilon rule = ⟨none, none, none⟩ ∨
      (∃ column : Nat, column < tableau.width ∧
        tableau.choosePivot epsilon rule = ⟨some column, none, none⟩) ∨
      ∃ column leaving : Nat, column < tableau.width ∧ leaving < tableau.constraintCount ∧
        tableau.choosePivot epsilon rule =
          ⟨some column, some leaving, some (tableau.cell leaving column)⟩ := by
  unfold choosePivot
  cases entering : tableau.enteringColumn epsilon rule with
  | none => exact .inl rfl
  | some column =>
      have within := enteringColumn_lt_width entering
      cases row : tableau.leavingRow epsilon column with
      | none => exact .inr (.inl ⟨column, within, by simp [row]⟩)
      | some leaving =>
          exact .inr (.inr ⟨column, leaving, within, leavingRow_lt row, by simp [row]⟩)

/-- The column of a choice is the column that enters. -/
theorem entering_choosePivot (tableau : Tableau α) (epsilon : α) (rule : PivotRule) :
    (tableau.choosePivot epsilon rule).entering =
      (tableau.enteringColumn epsilon rule).map Nat.cast := by
  unfold choosePivot
  cases tableau.enteringColumn epsilon rule with
  | none => rfl
  | some column =>
      cases row : tableau.leavingRow epsilon column with
      | none => simp [row]
      | some leaving => simp [row]

/-- The row of a choice is the row that leaves for that column. -/
theorem leaving_choosePivot {tableau : Tableau α} {epsilon : α} {rule : PivotRule} {column : Nat}
    (entering : tableau.enteringColumn epsilon rule = some column) :
    (tableau.choosePivot epsilon rule).leaving =
      (tableau.leavingRow epsilon column).map Nat.cast := by
  cases row : tableau.leavingRow epsilon column with
  | none => simp [choosePivot, entering, row]
  | some leaving => simp [choosePivot, entering, row]

theorem enteringColumn_of_choosePivot {tableau : Tableau α} {epsilon : α} {rule : PivotRule}
    (column : Option Nat) {row : Option Int} {value : Option α}
    (chosen : tableau.choosePivot epsilon rule = ⟨column.map Nat.cast, row, value⟩) :
    tableau.enteringColumn epsilon rule = column := by
  refine Option.map_injective (Nat.cast_injective (R := Int)) ?_
  rw [← entering_choosePivot, chosen]

theorem leavingRow_of_choosePivot {tableau : Tableau α} {epsilon : α} {rule : PivotRule}
    {column : Nat} (row : Option Nat) {value : Option α}
    (chosen : tableau.choosePivot epsilon rule = ⟨some column, row.map Nat.cast, value⟩) :
    tableau.leavingRow epsilon column = row := by
  refine Option.map_injective (Nat.cast_injective (R := Int)) ?_
  rw [← leaving_choosePivot (enteringColumn_of_choosePivot (some column) chosen), chosen]

/-- **What a pivot inside a tableau does**: it is refused for its element or for a cell of the
result, and otherwise it is made. -/
theorem pivot_eq (tableau : Tableau α) (epsilon : α) (value : Option α) {leaving column : Nat}
    (low : leaving < tableau.constraintCount) (within : column < tableau.columnCount) :
    ∃ inside, tableau.pivot ⟨some column, some leaving, value⟩ epsilon =
      if !Scalar.isFinite (tableau.cell leaving column) ||
          Scalar.lt (Scalar.magnitude (tableau.cell leaving column)) epsilon then
        .error (.unstable (.tooSmall (String.ofList (Scalar.text (tableau.cell leaving column)))
          (leaving + 1) (column + 1)))
      else if !(sweep leaving column false (tableau.cell leaving column) tableau.cells).all
          (·.all Scalar.isFinite) then .error (.unstable .notFinite)
      else .ok (tableau.pivotAt epsilon leaving column leaving false inside) := by
  have inside : leaving < tableau.cells.length := by
    rw [length_cells]
    omega
  have front : decide ((leaving : Int) < 0) = false := by simp
  refine ⟨inside, ?_⟩
  unfold pivot
  simp only
  split
  · rename_i missing
    rw [place?_natCast inside] at missing
    simp at missing
  · rename_i place found
    rw [place?_natCast inside, Option.some.injEq] at found
    subst found
    simp only [SimplexSolver.place, place?_natCast within, place?_natCast low, front, bind,
      Except.bind, pure, Except.pure, throw, throwThe, MonadExceptOf.throw]

/-- Over exact scalars a pivot inside a tableau is made unless its element is smaller than the
tolerance. -/
theorem pivot_of_le_abs {tableau : Tableau Rat} {epsilon : Rat} {leaving column : Nat}
    (low : leaving < tableau.constraintCount) (within : column < tableau.columnCount)
    (large : epsilon ≤ |tableau.cell leaving column|) (value : Option Rat) :
    ∃ inside, tableau.pivot ⟨some column, some leaving, value⟩ epsilon =
      .ok (tableau.pivotAt epsilon leaving column leaving false inside) := by
  obtain ⟨inside, result⟩ := tableau.pivot_eq epsilon value low within
  refine ⟨inside, ?_⟩
  rw [result]
  simp [large]

/-- A pivot inside a tableau is made or refused as unstable; it does not fail otherwise. -/
theorem pivot_cases (tableau : Tableau α) (epsilon : α) (value : Option α) {leaving column : Nat}
    (low : leaving < tableau.constraintCount) (within : column < tableau.columnCount) :
    (∃ inside, tableau.pivot ⟨some column, some leaving, value⟩ epsilon =
        .ok (tableau.pivotAt epsilon leaving column leaving false inside)) ∨
      ∃ cause, tableau.pivot ⟨some column, some leaving, value⟩ epsilon =
        .error (.unstable cause) := by
  obtain ⟨inside, result⟩ := tableau.pivot_eq epsilon value low within
  rw [result]
  split
  · exact .inr ⟨_, rfl⟩
  · split
    · exact .inr ⟨_, rfl⟩
    · exact .inl ⟨inside, rfl⟩

end Tableau

/-- What a step does, with everything it depends on. -/
inductive Decided (settings : Settings α) (limit : Quantity α) (done : Nat)
    (tableau : Tableau α) : Step α → Prop where
  | optimal
      (chosen : tableau.choosePivot settings.epsilon settings.rule = ⟨none, none, none⟩) :
      Decided settings limit done tableau (.stop .optimal (optimalMessage done))
  | unbounded (column : Nat) (message : String)
      (chosen : tableau.choosePivot settings.epsilon settings.rule = ⟨some column, none, none⟩) :
      Decided settings limit done tableau (.stop .unbounded message)
  | limited (column leaving : Nat)
      (chosen : tableau.choosePivot settings.epsilon settings.rule =
        ⟨some column, some leaving, some (tableau.cell leaving column)⟩)
      (full : limit.atMost done = true) :
      Decided settings limit done tableau (.stop .iterationLimitExceeded (limitMessage limit))
  | refused (column leaving : Nat) (cause : Instability)
      (chosen : tableau.choosePivot settings.epsilon settings.rule =
        ⟨some column, some leaving, some (tableau.cell leaving column)⟩)
      (free : limit.atMost done = false)
      (failed : tableau.pivot (tableau.choosePivot settings.epsilon settings.rule)
        settings.epsilon = .error (.unstable cause)) :
      Decided settings limit done tableau (.stop .numericInstability cause.message)
  | pivoted (column leaving : Nat) (inside : leaving < tableau.cells.length)
      (within : column < tableau.width) (low : leaving < tableau.constraintCount)
      (chosen : tableau.choosePivot settings.epsilon settings.rule =
        ⟨some column, some leaving, some (tableau.cell leaving column)⟩)
      (free : limit.atMost done = false)
      (made : tableau.pivot (tableau.choosePivot settings.epsilon settings.rule)
        settings.epsilon =
          .ok (tableau.pivotAt settings.epsilon leaving column leaving false inside)) :
      Decided settings limit done tableau
        (.pivot (tableau.choosePivot settings.epsilon settings.rule)
          (tableau.pivotAt settings.epsilon leaving column leaving false inside))

/-- **A step never fails**, whatever the arithmetic. -/
theorem nextStep_decided (settings : Settings α) (limit : Quantity α) (done : Nat)
    (tableau : Tableau α) :
    ∃ step, nextStep settings limit done tableau = .ok step ∧
      Decided settings limit done tableau step := by
  obtain chosen | ⟨column, within, chosen⟩ | ⟨column, leaving, within, low, chosen⟩ :=
    tableau.choosePivot_cases settings.epsilon settings.rule
  · exact ⟨_, by simp [nextStep, chosen], .optimal chosen⟩
  · have known : column < tableau.columnLabels.length :=
      lt_of_lt_of_le within (Nat.sub_le _ _)
    have label := itemAt_natCast known
    refine ⟨_, ?_, .unbounded column (unboundedMessage tableau.columnLabels[column]) chosen⟩
    simp [nextStep, chosen, label, Except.map]
  · cases full : limit.atMost done with
    | true => exact ⟨_, by simp [nextStep, chosen, full], .limited column leaving chosen full⟩
    | false =>
        obtain ⟨inside, made⟩ | ⟨cause, failed⟩ := tableau.pivot_cases settings.epsilon
          (some (tableau.cell leaving column)) low (lt_of_lt_of_le within (Nat.sub_le _ _))
        · rw [← chosen] at made
          refine ⟨_, ?_, .pivoted column leaving inside within low chosen full made⟩
          rw [chosen] at made
          simp [nextStep, chosen, full, made]
        · rw [← chosen] at failed
          refine ⟨_, ?_, .refused column leaving cause chosen full failed⟩
          rw [chosen] at failed
          simp [nextStep, chosen, full, failed]

/-- A step that was made is one of those listed. -/
theorem decided_of_nextStep {settings : Settings α} {limit : Quantity α} {done : Nat}
    {tableau : Tableau α} {step : Step α} (made : nextStep settings limit done tableau = .ok step) :
    Decided settings limit done tableau step := by
  obtain ⟨found, same, decided⟩ := nextStep_decided settings limit done tableau
  rw [made, Except.ok.injEq] at same
  rwa [same]

/-! ## Tableaux in sequence -/

/-- The tableau a step leads to, if the step is a pivot. -/
def advance (settings : Settings α) (limit : Quantity α) (done : Nat) (tableau : Tableau α) :
    Option (Tableau α) :=
  match nextStep settings limit done tableau with
  | .ok (.pivot _ next) => some next
  | _ => none

/-- The tableau after a number of pivots. -/
def reached (settings : Settings α) (limit : Quantity α) (start : Tableau α) :
    Nat → Option (Tableau α)
  | 0 => some start
  | done + 1 => (reached settings limit start done).bind (advance settings limit done)

/-- A tableau leads to another one if its step is a pivot to it. -/
theorem advance_eq_some_iff {settings : Settings α} {limit : Quantity α} {done : Nat}
    {tableau next : Tableau α} : advance settings limit done tableau = some next ↔
      ∃ choice, nextStep settings limit done tableau = .ok (.pivot choice next) := by
  unfold advance
  constructor
  · intro led
    split at led
    · rename_i choice found made
      exact ⟨choice, by rw [made, Option.some.inj led]⟩
    · simp at led
  · rintro ⟨choice, made⟩
    rw [made]

/-- A pivot leads to the next tableau of the run. -/
theorem reached_succ {settings : Settings α} {limit : Quantity α} {start tableau next : Tableau α}
    {done : Nat} {choice : Choice α} (here : reached settings limit start done = some tableau)
    (step : nextStep settings limit done tableau = .ok (.pivot choice next)) :
    reached settings limit start (done + 1) = some next := by
  rw [reached, here, Option.bind_some, advance_eq_some_iff]
  exact ⟨choice, step⟩

/-- A sequence that got to a number of pivots got to every smaller number. -/
theorem exists_reached_of_le {settings : Settings α} {limit : Quantity α} {start last : Tableau α}
    {done : Nat} (here : reached settings limit start done = some last) {earlier : Nat}
    (before : earlier ≤ done) : ∃ tableau, reached settings limit start earlier = some tableau := by
  induction before generalizing last with
  | refl => exact ⟨last, here⟩
  | step _ ih =>
      obtain ⟨tableau, there, -⟩ := Option.bind_eq_some_iff.mp here
      exact ih there

/-- **What holds of the first tableau and is kept by every pivot holds of every tableau of
a run.** -/
theorem reached_induction {settings : Settings α} {limit : Quantity α} {start : Tableau α}
    {property : Tableau α → Prop} (first : property start)
    (kept : ∀ done tableau choice next, reached settings limit start done = some tableau →
      property tableau → nextStep settings limit done tableau = .ok (.pivot choice next) →
        property next) :
    ∀ done tableau, reached settings limit start done = some tableau → property tableau := by
  intro done
  induction done with
  | zero =>
      intro tableau here
      rwa [← Option.some.inj here]
  | succ done ih =>
      intro next there
      obtain ⟨tableau, here, led⟩ := Option.bind_eq_some_iff.mp there
      obtain ⟨choice, made⟩ := advance_eq_some_iff.mp led
      exact kept done tableau choice next here (ih tableau here) made

/-! ## What a run does not change -/

/-- What a tableau of a run has in common with the first one, and what the labels of its
rows are taken from. -/
structure Continues (start tableau : Tableau α) : Prop where
  columnLabels : tableau.columnLabels = start.columnLabels
  rows : tableau.constraintCount = start.constraintCount
  variableCount : tableau.variableCount = start.variableCount
  unmarked : tableau.mark = none
  named : ∀ label ∈ tableau.rowLabels, label ∈ start.columnLabels.dropLast

/-- A pivot changes neither the shape of a tableau nor its column labels. -/
theorem Continues.pivotAt {start tableau : Tableau α} (continues : Continues start tableau)
    (epsilon : α) {leaving column : Nat} (inside : leaving < tableau.cells.length)
    (within : column < tableau.width) :
    Continues start (tableau.pivotAt epsilon leaving column leaving false inside) := by
  refine ⟨continues.columnLabels, ?_, continues.variableCount, rfl, ?_⟩
  · rw [← continues.rows]
    exact List.length_set
  · intro label member
    rcases List.mem_or_eq_of_mem_set member with kept | rfl
    · exact continues.named label kept
    · have short : column < tableau.columnLabels.dropLast.length := by
        rw [List.length_dropLast]
        exact within
      rw [← continues.columnLabels,
        List.getD_eq_getElem _ _ (lt_of_lt_of_le within (Nat.sub_le _ _)),
        ← List.getElem_dropLast short]
      exact List.getElem_mem short

/-- All tableaux of a run continue the first one. -/
theorem continues_reached {settings : Settings α} {limit : Quantity α} {start : Tableau α}
    (first : Continues start start) :
    ∀ done tableau, reached settings limit start done = some tableau → Continues start tableau := by
  refine reached_induction first ?_
  intro done tableau choice next _ continues made
  cases decided_of_nextStep made with
  | pivoted column leaving inside within _ _ _ _ => exact continues.pivotAt _ inside within

/-- The direction is the same in all tableaux of a run. -/
theorem direction_reached (settings : Settings α) (limit : Quantity α) (start : Tableau α) :
    ∀ done tableau, reached settings limit start done = some tableau →
      tableau.direction = start.direction := by
  refine reached_induction rfl ?_
  intro done tableau choice next _ same step
  cases decided_of_nextStep step with
  | pivoted column leaving inside within low chosen free made => exact same

/-! ## Traces -/

/-- A trace either makes no pivot or begins with one and goes on from where it leads. -/
theorem trace_cases {settings : Settings α} {limit : Quantity α} {budget done : Nat}
    {tableau : Tableau α} {result : Trace α}
    (traced : trace settings limit budget done tableau = .ok result) :
    (result.records = [] ∧ result.last = tableau) ∨
      ∃ choice next later less, budget = less + 1 ∧
        nextStep settings limit done tableau = .ok (.pivot choice next) ∧
          trace settings limit less (done + 1) next = .ok later ∧
            result = { later with records := pivotRecord tableau choice :: later.records } := by
  unfold trace at traced
  obtain ⟨step, made, goes⟩ := exists_of_bind_eq_ok traced
  cases step with
  | stop status message =>
      obtain rfl := Except.ok.inj goes
      exact .inl ⟨rfl, rfl⟩
  | pivot choice next =>
      cases budget with
      | zero =>
          obtain rfl := Except.ok.inj goes
          exact .inl ⟨rfl, rfl⟩
      | succ less =>
          obtain ⟨later, rest, same⟩ := exists_of_bind_eq_ok goes
          exact .inr ⟨choice, next, later, less, rfl, made, rest, (Except.ok.inj same).symm⟩

/-- **What a trace records.** Its records are the pivots of the run from the tableau on in
which the trace began, and its last tableau is the one these pivots lead to. -/
theorem trace_records {settings : Settings α} {limit : Quantity α} {start : Tableau α}
    (budget done : Nat) (tableau : Tableau α) (result : Trace α)
    (here : reached settings limit start done = some tableau)
    (traced : trace settings limit budget done tableau = .ok result) :
    (∀ index record, result.records[index]? = some record → ∃ tableau choice next,
      reached settings limit start (done + index) = some tableau ∧
        nextStep settings limit (done + index) tableau = .ok (.pivot choice next) ∧
          record = pivotRecord tableau choice) ∧
      reached settings limit start (done + result.records.length) = some result.last := by
  induction budget generalizing done tableau result with
  | zero =>
      obtain ⟨none, last⟩ | ⟨_, _, _, _, impossible, -⟩ := trace_cases traced
      · rw [none, last]
        exact ⟨fun index record found => by simp at found, here⟩
      · simp at impossible
  | succ budget ih =>
      obtain ⟨none, last⟩ | ⟨choice, next, later, less, same, made, rest, rfl⟩ :=
        trace_cases traced
      · rw [none, last]
        exact ⟨fun index record found => by simp at found, here⟩
      · rw [← Nat.succ.inj same] at rest
        obtain ⟨recorded, last⟩ := ih (done + 1) next later (reached_succ here made) rest
        refine ⟨fun index record found => ?_, ?_⟩
        · cases index with
          | zero =>
              rw [List.getElem?_cons_zero, Option.some.injEq] at found
              exact ⟨tableau, choice, next, here, made, found.symm⟩
          | succ index =>
              rw [List.getElem?_cons_succ] at found
              rw [← Nat.add_assoc, Nat.add_right_comm]
              exact recorded index record found
        · rwa [List.length_cons, ← Nat.add_assoc, Nat.add_right_comm]

/-- A trace never fails, and makes no more pivots than its budget allows. If the limit is
reached within the budget, it ends at a step that stops. -/
theorem exists_trace (settings : Settings α) (limit : Quantity α) (budget done : Nat)
    (tableau : Tableau α) :
    ∃ result, trace settings limit budget done tableau = .ok result ∧
      result.records.length ≤ budget ∧
        (limit.atMost (done + budget : Nat) = true →
          nextStep settings limit (done + result.records.length) result.last =
            .ok (.stop result.status result.message)) := by
  induction budget generalizing done tableau with
  | zero =>
      obtain ⟨step, made, decided⟩ := nextStep_decided settings limit done tableau
      cases step with
      | stop status message =>
          refine ⟨⟨[], tableau, status, message⟩, ?_, le_rfl, fun _ => made⟩
          simp [trace, made, bind, Except.bind, pure, Except.pure]
      | pivot choice next =>
          refine ⟨⟨[], tableau, .iterationLimitExceeded, limitMessage limit⟩, ?_, le_rfl, ?_⟩
          · simp [trace, made, bind, Except.bind, pure, Except.pure]
          · -- A limit that is reached already does not leave a pivot for the budget to cut off.
            intro enough
            cases decided with
            | pivoted _ _ _ _ _ _ free _ => simp [free] at enough
  | succ budget ih =>
      obtain ⟨step, made, -⟩ := nextStep_decided settings limit done tableau
      cases step with
      | stop status message =>
          refine ⟨⟨[], tableau, status, message⟩, ?_, Nat.zero_le _, fun _ => made⟩
          simp [trace, made, bind, Except.bind, pure, Except.pure]
      | pivot choice next =>
          obtain ⟨later, traced, short, stopped⟩ := ih (done + 1) next
          refine ⟨{ later with records := pivotRecord tableau choice :: later.records }, ?_,
            Nat.succ_le_succ short, ?_⟩
          · simp [trace, made, traced, bind, Except.bind, pure, Except.pure]
          · intro enough
            rw [← Nat.add_assoc, Nat.add_right_comm] at enough
            rw [List.length_cons, ← Nat.add_assoc, Nat.add_right_comm]
            exact stopped enough

/-- A trace from the starting tableau to a tableau in which the method stops. -/
structure Trace.Complete (settings : Settings α) (limit : Quantity α) (start : Tableau α)
    (result : Trace α) : Prop where
  pivots : ∀ index record, result.records[index]? = some record → ∃ tableau choice next,
    reached settings limit start index = some tableau ∧
      nextStep settings limit index tableau = .ok (.pivot choice next) ∧
        record = pivotRecord tableau choice
  last : reached settings limit start result.records.length = some result.last
  stops : nextStep settings limit result.records.length result.last =
    .ok (.stop result.status result.message)

/-- **The trace of a whole run ends of itself**, if its limit is reached within its budget. -/
theorem exists_complete_trace (settings : Settings α) {limit : Quantity α} (start : Tableau α)
    (enough : limit.atMost limit.budget = true) :
    ∃ result, trace settings limit limit.budget 0 start = .ok result ∧
      result.records.length ≤ limit.budget ∧ result.Complete settings limit start := by
  obtain ⟨result, traced, within, stops⟩ := exists_trace settings limit limit.budget 0 start
  obtain ⟨pivots, last⟩ := trace_records limit.budget 0 start result rfl traced
  simp only [Nat.zero_add] at stops pivots last
  exact ⟨result, traced, within, pivots, last, stops enough⟩

end SimplexSolver
