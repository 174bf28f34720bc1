import SimplexSolver.Problem.StandardForm
import SimplexSolver.Tableau.Basic

/-!
# The starting tableau

A problem in standard form gets one slack variable for each constraint. In the
starting tableau each constraint row holds the coefficients of the constraint, a
one in the column of its slack variable and the right-hand side; the objective
row holds the coefficients of the objective, negated for a maximisation. The slack
variables are the first basis.

That a problem which passes the check has coefficient lists of the right length
(`Problem.lengths_of_validate`) is what makes the rows fit the columns.
-/

set_option autoImplicit false

namespace SimplexSolver

variable {α : Type} [Scalar α]

/-! ## What the check guarantees -/

/-- A constraint that passes the check has one coefficient for each variable and is an
upper bound that is not negative. -/
theorem Constraint.parts_of_validate {constraint : Constraint α} {size index : Nat}
    {expected : String} (valid : constraint.validate size expected index = .ok ()) :
    constraint.coefficients.length = size ∧ constraint.relation = .atMost ∧
      Scalar.lt constraint.bound 0 = false := by
  unfold Constraint.validate at valid
  split at valid
  · simp at valid
  · rename_i same
    split at valid
    · simp at valid
    · split at valid
      · simp at valid
      · rename_i upper
        split at valid
        · simp at valid
        · rename_i nonneg
          exact ⟨Decidable.not_not.mp same, Decidable.not_not.mp upper, by simpa using nonneg⟩

/-- Checking constraints checks each of them. -/
theorem validate_of_validateFrom {size : Nat} {expected : String} :
    ∀ {constraints : List (Constraint α)} {index : Nat},
      validateFrom size expected index constraints = .ok () → ∀ constraint ∈ constraints,
        ∃ place, constraint.validate size expected place = .ok ()
  | [], _, _ => by simp
  | head :: rest, index, valid => by
    unfold validateFrom at valid
    cases first : head.validate size expected index with
    | error cause => simp [first, bind, Except.bind] at valid
    | ok _ =>
      simp only [first, bind, Except.bind] at valid
      intro constraint member
      rcases List.mem_cons.mp member with rfl | later
      · exact ⟨index, first⟩
      · exact validate_of_validateFrom valid constraint later

/-- A problem that passes the check has a known direction, at least one variable, one
objective coefficient for each, and constraints that pass theirs. -/
theorem Problem.parts_of_validate {problem : Problem α} {count : Count}
    (valid : problem.validate = .ok count) :
    (∀ name, problem.direction ≠ .unknown name) ∧ 0 < count.toInt ∧
      problem.objective.length = count.toNat ∧ ∀ constraint ∈ problem.constraints,
        ∃ expected place, constraint.validate count.toNat expected place = .ok () := by
  unfold Problem.validate at valid
  split at valid
  · simp at valid
  · rename_i known
    split at valid
    · simp at valid
    · rename_i found counted
      split at valid
      · simp at valid
      · rename_i same
        split at valid
        · simp at valid
        · cases checked : validateFrom found.toNat problem.variableCount.toText 1
            problem.constraints with
          | error cause => simp [checked, Except.map] at valid
          | ok _ =>
            simp only [checked, Except.map, Except.ok.injEq] at valid
            subst valid
            refine ⟨known, ?_, Decidable.not_not.mp same, fun constraint member => ?_⟩
            · exact of_decide_eq_true (Option.filter_eq_some_iff.mp counted).2
            · exact ⟨_, validate_of_validateFrom checked constraint member⟩

/-- **A problem that passes the check has one coefficient for each variable**, in
the objective and in every constraint. -/
theorem Problem.lengths_of_validate {problem : Problem α} {count : Count}
    (valid : problem.validate = .ok count) :
    problem.objective.length = count.toNat ∧
      ∀ constraint ∈ problem.constraints, constraint.coefficients.length = count.toNat := by
  obtain ⟨-, -, objective, constraints⟩ := Problem.parts_of_validate valid
  refine ⟨objective, fun constraint member => ?_⟩
  obtain ⟨expected, place, passed⟩ := constraints constraint member
  exact (Constraint.parts_of_validate passed).1

/-! ## Rows of the starting tableau -/

namespace Tableau

/-- The slack part of the row of a constraint: a one in its own column. -/
def unitRow (length index : Nat) : List α :=
  (List.range length).map fun column => if column = index then 1 else 0

@[simp] theorem length_unitRow (length index : Nat) :
    (unitRow length index : List α).length = length := by simp [unitRow]

/-- The row of a constraint among `total` constraints. -/
def constraintRow (total index : Nat) (constraint : Constraint α) : List α :=
  constraint.coefficients ++ unitRow total index ++ [constraint.bound]

/-- The objective row: the coefficients, negated for a maximisation, without
negative zeros. -/
def startingObjective (direction : Direction) (total : Nat) (objective : List α) : List α :=
  objective.map (if direction = .maximize then opposite else (· + 0)) ++
    List.replicate total 0 ++ [0]

end Tableau

namespace Problem

open Tableau

/-- The rows of the starting tableau. -/
def startingCells (problem : Problem α) : List (List α) :=
  problem.constraints.mapIdx (constraintRow problem.constraints.length) ++
    [startingObjective problem.direction problem.constraints.length problem.objective]

/-- The labels of the slack variables. -/
def slackLabels (problem : Problem α) : List String :=
  (List.range problem.constraints.length).map slackName

/-- The labels of all columns, for a number of decision variables. -/
def startingLabels (problem : Problem α) (size : Nat) : List String :=
  (List.range size).map decisionName ++ problem.slackLabels ++ [boundLabel]

/-- The starting tableau of a problem in standard form. -/
def startingTableau (problem : Problem α) : Except Rejection (Tableau α) :=
  match valid : problem.validate with
  | .error cause => .error cause
  | .ok count =>
    .ok {
      cells := problem.startingCells
      rowLabels := problem.slackLabels
      columnLabels := problem.startingLabels count.toNat
      variableCount := count
      direction := problem.direction
      mark := none
      labelled := by simp [startingCells, slackLabels]
      rectangular := by
        obtain ⟨objective, constraints⟩ := lengths_of_validate valid
        intro row member
        simp only [startingCells, List.mem_append, List.mem_mapIdx, List.mem_singleton] at member
        rcases member with ⟨index, inside, rfl⟩ | rfl
        · simp [constraintRow, startingLabels, slackLabels,
            constraints _ (List.getElem_mem inside)]
        · simp [startingObjective, startingLabels, slackLabels, objective] }

end Problem

end SimplexSolver
