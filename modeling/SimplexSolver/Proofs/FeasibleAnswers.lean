import SimplexSolver.Proofs.Answers

/-!
# Feasibility of optimal answers

An optimal answer can be put into the problem again to see whether its decision
values are feasible. The tolerance of a solve is absolute, while coefficients and
right-hand sides may have any size, so the answer need not pass: each use of the
tolerance in a constraint row can lose a constraint (`passedRow`, `closeRatios` and
`lostCell`).

What the check finds can be read off the answer as long as no pivot loses a cell of
a constraint row: the slack values are then exactly what the constraints leave over,
and the point is feasible if and only if no decision value and no slack value is
below the opposite of the tolerance of the check. If the ratio tests lose nothing
either, all of them are non-negative. Nothing is asked of the objective row, so this
covers runs that stop short of the optimum.
-/

set_option autoImplicit false

namespace SimplexSolver

open Tableau

/-! ## The check of a point -/

section Check

variable {bar : Rat} {point : List Rat}

/-- An upper bound is satisfied if the left-hand side exceeds it by no more than the
tolerance. -/
theorem Constraint.isSatisfied_eq {constraint : Constraint Rat}
    (upper : constraint.relation = .atMost)
    (long : constraint.coefficients.length = point.length) :
    constraint.isSatisfied bar point =
      .ok (decide (Scalar.dot constraint.coefficients point ≤ constraint.bound + bar)) := by
  rw [isSatisfied, leftSide, product, if_pos long, Except.map, holdsAt, upper]
  simp only [Scalar.le_rat]

/-- The constraints are satisfied if each of them is. -/
theorem allSatisfied_eq {constraints : List (Constraint Rat)}
    (upper : ∀ constraint ∈ constraints, constraint.relation = .atMost ∧
      constraint.coefficients.length = point.length) :
    allSatisfied bar point constraints = .ok (decide (∀ constraint ∈ constraints,
      Scalar.dot constraint.coefficients point ≤ constraint.bound + bar)) := by
  induction constraints with
  | nil => simp [allSatisfied]
  | cons first rest ih =>
      obtain ⟨relation, long⟩ := upper first List.mem_cons_self
      have later := ih fun constraint member => upper constraint (List.mem_cons_of_mem _ member)
      simp only [allSatisfied, first.isSatisfied_eq relation long, later, List.forall_mem_cons,
        bind, Except.bind, pure, Except.pure]
      by_cases holds : Scalar.dot first.coefficients point ≤ first.bound + bar
      · simp [holds]
      · simp [holds]

/-- The check of a point of an accepted problem never fails. It finds the point
feasible if no value and nothing that is left over lies below the opposite of the
tolerance. -/
theorem Problem.isFeasible_eq {problem : Problem Rat} {count : Count}
    (valid : problem.validate = .ok count) (long : point.length = count.toNat) (bar : Rat) :
    problem.isFeasible bar point = .ok (decide ((∀ value ∈ point, -bar ≤ value) ∧
      ∀ value ∈ problem.leftOver point, -bar ≤ value)) := by
  obtain ⟨-, -, -, checked⟩ := parts_of_validate valid
  have upper : ∀ constraint ∈ problem.constraints, constraint.relation = .atMost ∧
      constraint.coefficients.length = point.length := by
    intro constraint member
    obtain ⟨_, _, passed⟩ := checked constraint member
    obtain ⟨same, relation, -⟩ := Constraint.parts_of_validate passed
    exact ⟨relation, same.trans long.symm⟩
  have surplus : (∀ value ∈ problem.leftOver point, -bar ≤ value) ↔
      ∀ constraint ∈ problem.constraints,
        Scalar.dot constraint.coefficients point ≤ constraint.bound + bar := by
    simp only [leftOver, List.forall_mem_map, neg_le_sub_iff_le_add]
  have low : (point.any fun value => Scalar.lt value (-bar)) = true ↔
      ¬ ∀ value ∈ point, -bar ≤ value := by
    simp
  rw [isFeasible, allSatisfied_eq upper]
  by_cases values : ∀ value ∈ point, -bar ≤ value
  · rw [if_neg fun found => low.mp found values, Except.ok.injEq, decide_eq_decide, surplus,
      and_iff_right values]
  · rw [if_pos (low.mpr values), decide_eq_false fun both => values both.1]

end Check

/-! ## Answers of runs that keep their constraints -/

namespace Problem

variable {problem : Problem Rat} {settings : Settings Rat} {count : Count}

/-- The slack values of an optimal answer are what the constraints leave over, if no
pivot loses a cell of a constraint row. If the ratio tests lose nothing either, no
value is negative. -/
theorem slack_eq_leftOver (valid : problem.validate = .ok count)
    (tolerance : 0 ≤ settings.epsilon) (small : settings.epsilon ≤ 1) :
    ∃ solution, problem.solve settings false = .ok solution ∧
      (solution.status = .optimal → solution.decision.length = count.toNat ∧
        (problem.KeepsConstraints settings →
          solution.slack = problem.leftOver solution.decision ∧
            (problem.TestsRatios settings → (∀ value ∈ solution.decision, 0 ≤ value) ∧
              ∀ value ∈ solution.slack, 0 ≤ value))) := by
  have canonical := canonical_tableauAt valid tolerance small
  obtain ⟨solution, limit, done, last, message, answer, -, here, -, values⟩ :=
    solve_answers valid tolerance canonical
  refine ⟨solution, answer, fun optimal => ?_⟩
  obtain ⟨decision, slack, -⟩ := values optimal
  rw [decision, slack]
  refine ⟨by simp, fun keeps => ?_⟩
  obtain ⟨start, built, -⟩ := exists_startingTableau valid
  have satisfied := (satisfies_tableauAt_iff valid tolerance built keeps _ done last here).mp
    (satisfies_basicValue (canonical done last here))
  refine ⟨(leftOver_of_satisfies valid built satisfied).symm, fun tests => ?_⟩
  have nonneg := rightSide_tableauAt_nonneg valid tolerance keeps tests done last here
  simp only [List.forall_mem_map]
  exact ⟨fun column _ => basicValue_nonneg nonneg column,
    fun row _ => basicValue_nonneg nonneg (count.toNat + row)⟩

/-- The tolerance at which answers are checked. -/
def answerTolerance : Rat := Scalar.decimal 1 (-6)

/-- **The feasibility of an optimal answer can be read off the answer.** The check of an
optimal answer of a solve with the standard tolerance never fails. If no pivot lost a
cell of a constraint row, the slack values are what the constraints leave over, and
the answer is found feasible exactly if none of its values lies below the opposite of
the tolerance of the check. If, besides, the ratio tests passed over no row with a
positive cell and took no ratios for equal that differ, it is found feasible. -/
theorem solve_feasible_iff_values (valid : problem.validate = .ok count)
    (standard : settings.epsilon = Settings.defaultEpsilon) :
    ∃ solution, problem.solve settings false = .ok solution ∧
      (solution.status = .optimal →
        (∃ verdict, problem.isFeasible answerTolerance solution.decision = .ok verdict) ∧
        (problem.KeepsConstraints settings →
          solution.slack = problem.leftOver solution.decision ∧
          (problem.isFeasible answerTolerance solution.decision = .ok true ↔
            (∀ value ∈ solution.decision, -answerTolerance ≤ value) ∧
              ∀ value ∈ solution.slack, -answerTolerance ≤ value) ∧
          (problem.TestsRatios settings →
            problem.isFeasible answerTolerance solution.decision = .ok true))) := by
  have tolerance : 0 ≤ settings.epsilon := by
    rw [standard]
    decide +kernel
  have small : settings.epsilon ≤ 1 := by
    rw [standard]
    decide +kernel
  have below : -answerTolerance ≤ 0 := by decide +kernel
  obtain ⟨solution, answer, values⟩ := slack_eq_leftOver valid tolerance small
  refine ⟨solution, answer, fun optimal => ?_⟩
  obtain ⟨long, kept⟩ := values optimal
  have verdict := isFeasible_eq valid long answerTolerance
  refine ⟨⟨_, verdict⟩, fun keeps => ?_⟩
  obtain ⟨surplus, nonneg⟩ := kept keeps
  have checked : problem.isFeasible answerTolerance solution.decision = .ok true ↔
      (∀ value ∈ solution.decision, -answerTolerance ≤ value) ∧
        ∀ value ∈ solution.slack, -answerTolerance ≤ value := by
    rw [verdict, Except.ok.injEq, decide_eq_true_eq, surplus]
  refine ⟨surplus, checked, fun tests => checked.mpr ?_⟩
  obtain ⟨decision, slack⟩ := nonneg tests
  exact ⟨fun value member => below.trans (decision value member),
    fun value member => below.trans (slack value member)⟩

/-- The standard tolerance loses nothing in the run of this problem, and its answer is
found feasible. -/
theorem solve_feasible_iff_values_twoLimits :
    ∃ solution, twoLimits.solve Settings.standard false = .ok solution ∧
      solution.status = .optimal ∧
        twoLimits.isFeasible answerTolerance solution.decision = .ok true := by
  have tolerance : 0 ≤ (Settings.standard : Settings Rat).epsilon := by decide +kernel
  have reported : (twoLimits.solve Settings.standard false).toOption.map (·.status) =
      some .optimal := by decide +kernel
  have standard : (Settings.standard : Settings Rat).epsilon = Settings.defaultEpsilon := rfl
  obtain ⟨solution, answer, feasible⟩ := solve_feasible_iff_values validate_twoLimits standard
  have optimal := eq_of_seen answer reported
  obtain ⟨-, kept⟩ := feasible optimal
  obtain ⟨-, -, found⟩ := kept (fineRun_twoLimits.keepsConstraints tolerance)
  exact ⟨solution, answer, optimal,
    found (fineRun_twoLimits.testsRatios validate_twoLimits tolerance)⟩

/-! ## Answers that are not feasible -/

/-- The first constraint only allows zero, but its coefficient does not exceed the tolerance
and the ratio test passes over it. -/
def passedRow : Problem Rat where
  direction := .maximize
  variableCount := .integer 1
  objective := [1]
  constraints := [⟨[1 / 10 ^ 9], .atMost, 0⟩, ⟨[1], .atMost, 10 ^ 6⟩]

/-- The second constraint is the tighter one, but by so little that the ratios count as
equal and the first row leaves. -/
def closeRatios : Problem Rat where
  direction := .maximize
  variableCount := .integer 1
  objective := [1]
  constraints := [⟨[1], .atMost, 1⟩, ⟨[10 ^ 4], .atMost, 10 ^ 4 - 1 / 10 ^ 5⟩]

/-- The first variable gets a value below the tolerance, which is set to zero, but the
second constraint has been solved for the value it had. -/
def lostCell : Problem Rat where
  direction := .maximize
  variableCount := .integer 2
  objective := [1, 1]
  constraints := [⟨[10 ^ 10, 0], .atMost, 1⟩, ⟨[-10 ^ 7, 1], .atMost, 0⟩]

/-- A problem that is accepted and whose optimal answer is not feasible. -/
def AnswersInfeasibly (problem : Problem Rat) : Prop :=
  (∃ count, problem.validate = .ok count) ∧
    ∃ solution, problem.solve Settings.standard false = .ok solution ∧
      solution.status = .optimal ∧
        problem.isFeasible answerTolerance solution.decision = .ok false

/-- Whether a problem is answered so can be seen by solving it. -/
theorem answersInfeasibly_of_seen {problem : Problem Rat}
    (accepted : problem.validate.toOption.isSome)
    (seen : ∃ solution ∈ (problem.solve Settings.standard false).toOption,
      solution.status = .optimal ∧
        (problem.isFeasible answerTolerance solution.decision).toOption = some false) :
    problem.AnswersInfeasibly := by
  obtain ⟨count, valid⟩ := Option.isSome_iff_exists.mp accepted
  obtain ⟨solution, answer, optimal, verdict⟩ := seen
  exact ⟨⟨count, ok_of_toOption valid⟩, solution, ok_of_toOption answer, optimal,
    ok_of_toOption verdict⟩

/-- **Optimal answers need not be feasible.** Each use of the standard tolerance in a
constraint row makes one of these answers violate a constraint by more than the
tolerance of the check. -/
theorem infeasible_optima : passedRow.AnswersInfeasibly ∧ closeRatios.AnswersInfeasibly ∧
    lostCell.AnswersInfeasibly := by
  refine ⟨answersInfeasibly_of_seen ?_ ?_, answersInfeasibly_of_seen ?_ ?_,
    answersInfeasibly_of_seen ?_ ?_⟩
  all_goals decide +kernel

end Problem

end SimplexSolver
