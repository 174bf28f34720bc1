import Mathlib.Algebra.BigOperators.Field
import Mathlib.Tactic.Ring
import SimplexSolver.Problem.Feasibility
import SimplexSolver.Proofs.Basis

/-!
# A tableau as a system of equations

A constraint row says that the variables, multiplied by its cells, add up to its
right-hand side. A point gives every variable a value, and `gap` is by how much it
misses the equation of a row. The gap in the objective row is the opposite of the
objective of the maximisation form, as the tableau computes it from the variables
that are not basic.

A pivot combines equations, so in rows that are swept exactly the gaps after a
pivot are combinations of the gaps before it. Two consequences carry everything
that is shown about runs: the constraint rows keep their solutions
(`satisfies_iff`), and at a solution the gap in the objective row does not change
(`gap_objective_eq`).

The solutions of the starting tableau are the points of the problem, together with
what each constraint leaves over (`Problem.satisfies_valuesAt`,
`Problem.admits_of_satisfies`).
-/

set_option autoImplicit false

namespace SimplexSolver

open Tableau

namespace Tableau

/-- By how much a point misses the equation of a row. -/
def gap (tableau : Tableau Rat) (point : Nat → Rat) (row : Nat) : Rat :=
  ∑ column ∈ Finset.range tableau.width, tableau.cell row column * point column -
    tableau.rightSide row

/-- A point that satisfies the equations of all constraint rows. -/
def Satisfies (tableau : Tableau Rat) (point : Nat → Rat) : Prop :=
  ∀ row < tableau.constraintCount, tableau.gap point row = 0

/-! ## Points made from the basis -/

section Spread

variable {tableau : Tableau Rat}

/-- A sum over all columns in which only basic columns count is a sum over the rows. -/
theorem sum_mul_spread (canonical : tableau.Canonical) (weights values : Nat → Rat) :
    ∑ column ∈ Finset.range tableau.width, weights column * tableau.spread values column =
      ∑ row ∈ Finset.range tableau.constraintCount,
        weights (tableau.basicColumn row) * values row := by
  simp only [spread, Finset.mul_sum]
  rw [Finset.sum_comm]
  refine Finset.sum_congr rfl fun row inside => ?_
  rw [Finset.sum_eq_single (tableau.basicColumn row)]
  · rw [if_pos rfl]
  · intro column _ different
    rw [if_neg different.symm, mul_zero]
  · intro outside
    exact absurd (Finset.mem_range.mpr (canonical.inside row (Finset.mem_range.mp inside))) outside

/-- A constraint row picks the value of its own basic variable. -/
theorem sum_cell_mul_spread (canonical : tableau.Canonical) (values : Nat → Rat) {row : Nat}
    (inside : row < tableau.constraintCount) :
    ∑ column ∈ Finset.range tableau.width,
      tableau.cell row column * tableau.spread values column = values row := by
  rw [sum_mul_spread canonical, Finset.sum_eq_single row]
  · rw [canonical.unit row inside row inside.le, if_pos rfl, one_mul]
  · intro other within different
    rw [canonical.unit other (Finset.mem_range.mp within) row inside.le, if_neg different.symm,
      zero_mul]
  · exact fun outside => absurd (Finset.mem_range.mpr inside) outside

/-- The objective row does not see the basic variables. -/
theorem sum_objective_mul_spread (canonical : tableau.Canonical) (values : Nat → Rat) :
    ∑ column ∈ Finset.range tableau.width,
      tableau.cell tableau.constraintCount column * tableau.spread values column = 0 := by
  rw [sum_mul_spread canonical]
  refine Finset.sum_eq_zero fun row inside => ?_
  have low := Finset.mem_range.mp inside
  rw [canonical.unit row low _ le_rfl, if_neg low.ne', zero_mul]

/-- The basic solution satisfies the constraint rows. -/
theorem satisfies_basicValue (canonical : tableau.Canonical) :
    tableau.Satisfies tableau.basicValue := by
  intro row inside
  rw [gap, basicValue, sum_cell_mul_spread canonical _ inside, sub_self]

/-- At the basic solution the gap in the objective row is the opposite of its right-hand
side. -/
theorem gap_objective_basicValue (canonical : tableau.Canonical) :
    tableau.gap tableau.basicValue tableau.constraintCount =
      -tableau.rightSide tableau.constraintCount := by
  rw [gap, basicValue, sum_objective_mul_spread canonical, zero_sub]

/-- The direction in which the variable of a column grows while all others that are not
basic stay. -/
def ray (tableau : Tableau Rat) (entering column : Nat) : Rat :=
  (if column = entering then 1 else 0) - tableau.spread (tableau.cell · entering) column

/-- A sum over the columns of a direction. -/
theorem sum_mul_ray (weights : Nat → Rat) {entering : Nat} (inside : entering < tableau.width) :
    ∑ column ∈ Finset.range tableau.width, weights column * tableau.ray entering column =
      weights entering - ∑ column ∈ Finset.range tableau.width,
        weights column * tableau.spread (tableau.cell · entering) column := by
  simp only [ray, mul_sub, mul_ite, mul_one, mul_zero, Finset.sum_sub_distrib]
  rw [Finset.sum_ite_eq' (Finset.range tableau.width) entering,
    if_pos (Finset.mem_range.mpr inside)]

/-- Going along a direction changes the gap of a row by the same amount at every point. -/
theorem gap_add_smul (point direction : Nat → Rat) (amount : Rat) (row : Nat) :
    tableau.gap (fun column => point column + amount * direction column) row =
      tableau.gap point row + amount *
        ∑ column ∈ Finset.range tableau.width, tableau.cell row column * direction column := by
  simp only [gap, mul_add, Finset.sum_add_distrib, Finset.mul_sum]
  have same : ∑ column ∈ Finset.range tableau.width,
      tableau.cell row column * (amount * direction column) =
        ∑ column ∈ Finset.range tableau.width,
          amount * (tableau.cell row column * direction column) :=
    Finset.sum_congr rfl fun column _ => by ring
  rw [same]
  ring

/-- Going from the basic solution along a direction keeps the constraint rows
satisfied. -/
theorem satisfies_add_ray (canonical : tableau.Canonical) {entering : Nat}
    (inside : entering < tableau.width) (amount : Rat) :
    tableau.Satisfies fun column =>
      tableau.basicValue column + amount * tableau.ray entering column := by
  intro row low
  have along : ∑ column ∈ Finset.range tableau.width,
      tableau.cell row column * tableau.ray entering column = 0 := by
    rw [sum_mul_ray _ inside, sum_cell_mul_spread canonical _ low, sub_self]
  rw [gap_add_smul, satisfies_basicValue canonical row low, along, mul_zero, add_zero]

/-- The gap in the objective row changes by the cell of the entering column. -/
theorem gap_objective_add_ray (canonical : tableau.Canonical) {entering : Nat}
    (inside : entering < tableau.width) (amount : Rat) :
    tableau.gap (fun column => tableau.basicValue column + amount * tableau.ray entering column)
      tableau.constraintCount = -tableau.rightSide tableau.constraintCount +
        amount * tableau.cell tableau.constraintCount entering := by
  have along : ∑ column ∈ Finset.range tableau.width,
      tableau.cell tableau.constraintCount column * tableau.ray entering column =
        tableau.cell tableau.constraintCount entering := by
    rw [sum_mul_ray _ inside, sum_objective_mul_spread canonical, sub_zero]
  rw [gap_add_smul, gap_objective_basicValue canonical, along]

/-- Going along a column without positive cells keeps all values non-negative. -/
theorem add_ray_nonneg (canonical : tableau.Canonical) {entering : Nat}
    (free : ¬ tableau.IsBasic entering)
    (nonneg : ∀ row < tableau.constraintCount, 0 ≤ tableau.rightSide row)
    (blocked : ∀ row < tableau.constraintCount, tableau.cell row entering ≤ 0) {amount : Rat}
    (forward : 0 ≤ amount) (column : Nat) :
    0 ≤ tableau.basicValue column + amount * tableau.ray entering column := by
  by_cases basic : tableau.IsBasic column
  · obtain ⟨row, inside, rfl⟩ := basic
    have apart : tableau.basicColumn row ≠ entering := fun same => free ⟨row, inside, same⟩
    rw [basicValue, ray, if_neg apart, spread_basicColumn canonical _ inside,
      spread_basicColumn canonical _ inside]
    have gained := mul_nonneg forward (neg_nonneg.mpr (blocked row inside))
    linarith [nonneg row inside]
  · rw [basicValue, ray, spread_of_not_isBasic _ basic, spread_of_not_isBasic _ basic, zero_add,
      sub_zero]
    refine mul_nonneg forward ?_
    split
    · exact zero_le_one
    · exact le_rfl

end Spread

/-! ## Gaps after a pivot -/

section Pivot

variable {tableau next : Tableau Rat} {leaving column : Nat}

/-- The gap in the leaving row is divided by the pivot element. -/
theorem gap_leaving (wide : next.width = tableau.width)
    (exact : ExactRow tableau next leaving column leaving) (point : Nat → Rat) :
    next.gap point leaving = tableau.gap point leaving / tableau.cell leaving column := by
  have swept : ∀ index, next.cell leaving index =
      tableau.cell leaving index / tableau.cell leaving column := fun index => by
    rw [exact index, sweptCell, if_pos rfl]
  simp only [gap, rightSide, wide, swept, sub_div, Finset.sum_div, div_mul_eq_mul_div]

/-- The gap in another row loses a multiple of the gap in the leaving row. -/
theorem gap_other (wide : next.width = tableau.width) {row : Nat} (other : row ≠ leaving)
    (exact : ExactRow tableau next leaving column row) (point : Nat → Rat) :
    next.gap point row = tableau.gap point row -
      tableau.cell row column * (tableau.gap point leaving / tableau.cell leaving column) := by
  have swept : ∀ index, next.cell row index = tableau.cell row index - tableau.cell row column *
      (tableau.cell leaving index / tableau.cell leaving column) := fun index => by
    rw [exact index, sweptCell, if_neg other]
  have sums : ∑ index ∈ Finset.range tableau.width, (tableau.cell row index -
      tableau.cell row column * (tableau.cell leaving index / tableau.cell leaving column)) *
        point index = ∑ index ∈ Finset.range tableau.width, tableau.cell row index * point index -
          tableau.cell row column * ((∑ index ∈ Finset.range tableau.width,
            tableau.cell leaving index * point index) / tableau.cell leaving column) := by
    rw [Finset.sum_div, Finset.mul_sum, ← Finset.sum_sub_distrib]
    exact Finset.sum_congr rfl fun index _ => by ring
  simp only [gap, rightSide, wide, swept, sums]
  ring

/-- **Exact constraint rows keep their solutions.** -/
theorem satisfies_iff (rows : next.constraintCount = tableau.constraintCount)
    (wide : next.width = tableau.width) (inside : leaving < tableau.constraintCount)
    (element : tableau.cell leaving column ≠ 0)
    (exact : ∀ row < tableau.constraintCount, ExactRow tableau next leaving column row)
    (point : Nat → Rat) : next.Satisfies point ↔ tableau.Satisfies point := by
  have own := gap_leaving wide (exact leaving inside) point
  constructor
  · intro satisfied row low
    have zero : tableau.gap point leaving = 0 := by
      have gone := satisfied leaving (rows ▸ inside)
      rw [own, div_eq_zero_iff] at gone
      exact gone.resolve_right element
    by_cases here : row = leaving
    · rw [here, zero]
    · have gone := satisfied row (rows ▸ low)
      rwa [gap_other wide here (exact row low), zero, zero_div, mul_zero, sub_zero] at gone
  · intro satisfied row low
    rw [rows] at low
    have zero := satisfied leaving inside
    by_cases here : row = leaving
    · rw [here, own, zero, zero_div]
    · rw [gap_other wide here (exact row low), zero, zero_div, mul_zero, sub_zero,
        satisfied row low]

/-- **An exact objective row keeps its gap at every solution.** -/
theorem gap_objective_eq (rows : next.constraintCount = tableau.constraintCount)
    (wide : next.width = tableau.width) (inside : leaving < tableau.constraintCount)
    (exact : ExactRow tableau next leaving column tableau.constraintCount) {point : Nat → Rat}
    (satisfied : tableau.Satisfies point) :
    next.gap point next.constraintCount = tableau.gap point tableau.constraintCount := by
  rw [rows, gap_other wide inside.ne' exact, satisfied leaving inside, zero_div, mul_zero,
    sub_zero]

end Pivot

end Tableau

/-! ## The equations of a problem -/

theorem foldl_zipWith_mul (left right : List Rat) (same : left.length = right.length)
    (initial : Rat) : (List.zipWith (· * ·) left right).foldl (· + ·) initial =
      initial + ∑ index ∈ Finset.range left.length, left.getD index 0 * right.getD index 0 := by
  induction left generalizing right initial with
  | nil => simp
  | cons first rest ih =>
      cases right with
      | nil => simp at same
      | cons other others =>
          rw [List.zipWith_cons_cons, List.foldl_cons, ih others (Nat.succ.inj same),
            List.length_cons, Finset.sum_range_succ']
          simp only [List.getD_cons_zero, List.getD_cons_succ]
          ring

/-- The sum of the products of two lists, by index. -/
theorem dot_eq_sum {left right : List Rat} (same : left.length = right.length) :
    Scalar.dot left right =
      ∑ index ∈ Finset.range left.length, left.getD index 0 * right.getD index 0 := by
  have sum := foldl_zipWith_mul left right same 0
  rw [zero_add] at sum
  exact sum

/-- The sum of the products with a list given by its values. -/
theorem dot_map_range {coefficients : List Rat} {size : Nat} (long : coefficients.length = size)
    (values : Nat → Rat) : Scalar.dot coefficients ((List.range size).map values) =
      ∑ index ∈ Finset.range size, coefficients.getD index 0 * values index := by
  rw [dot_eq_sum (by simp [long]), long]
  exact Finset.sum_congr rfl fun index within => by
    rw [getD_map_range (Finset.mem_range.mp within)]

namespace Problem

/-- A point of a problem: no value is negative, and every constraint holds exactly. -/
structure Admits (problem : Problem Rat) (point : List Rat) : Prop where
  length : point.length = problem.objective.length
  nonneg : ∀ value ∈ point, 0 ≤ value
  satisfied : ∀ constraint ∈ problem.constraints,
    Scalar.dot constraint.coefficients point ≤ constraint.bound

/-- What each constraint leaves over at a point. -/
def leftOver (problem : Problem Rat) (point : List Rat) : List Rat :=
  problem.constraints.map fun constraint =>
    constraint.bound - Scalar.dot constraint.coefficients point

/-- A point as values for all columns: the decision variables, then the slack
variables. -/
def valuesAt (problem : Problem Rat) (point : List Rat) (column : Nat) : Rat :=
  (point ++ problem.leftOver point).getD column 0

/-- An objective as the maximisation form counts it. -/
def gain (problem : Problem Rat) (value : Rat) : Rat :=
  if problem.direction = .maximize then value else -value

theorem gain_gain (problem : Problem Rat) (value : Rat) :
    problem.gain (problem.gain value) = value := by
  unfold gain
  split
  · rfl
  · exact neg_neg value

variable {problem : Problem Rat} {count : Count} {start : Tableau Rat}

section Start

variable (valid : problem.validate = .ok count) (built : problem.startingTableau = .ok start)
include valid built

/-- The gap of a constraint in the starting tableau. -/
theorem gap_start {row : Nat} (inside : row < problem.constraints.length) (point : Nat → Rat) :
    start.gap point row = ∑ index ∈ Finset.range count.toNat,
      problem.constraints[row].coefficients.getD index 0 * point index +
        point (count.toNat + row) - problem.constraints[row].bound := by
  have decisions : ∑ index ∈ Finset.range count.toNat, start.cell row index * point index =
      ∑ index ∈ Finset.range count.toNat,
        problem.constraints[row].coefficients.getD index 0 * point index :=
    Finset.sum_congr rfl fun index within => by
      rw [cell_start_decision valid built inside (Finset.mem_range.mp within)]
  have slacks : ∑ index ∈ Finset.range problem.constraints.length,
      start.cell row (count.toNat + index) * point (count.toNat + index) =
        point (count.toNat + row) := by
    rw [Finset.sum_eq_single row]
    · rw [cell_start_slack valid built inside inside, if_pos rfl, one_mul]
    · intro index within different
      rw [cell_start_slack valid built inside (Finset.mem_range.mp within), if_neg different,
        zero_mul]
    · exact fun outside => absurd (Finset.mem_range.mpr inside) outside
  rw [gap, (frames_start valid built).width_eq, Finset.sum_range_add, decisions, slacks,
    rightSide_start valid built inside]

/-- The gap of the objective row of the starting tableau. -/
theorem gap_start_objective (point : Nat → Rat) :
    start.gap point start.constraintCount =
      -problem.gain (∑ index ∈ Finset.range count.toNat,
        problem.objective.getD index 0 * point index) := by
  have frames := frames_start valid built
  have decisions : ∑ index ∈ Finset.range count.toNat,
      start.cell problem.constraints.length index * point index =
        -problem.gain (∑ index ∈ Finset.range count.toNat,
          problem.objective.getD index 0 * point index) := by
    rw [Finset.sum_congr rfl fun index within => by
      rw [cell_start_objective valid built (Finset.mem_range.mp within)]]
    unfold gain
    split
    · simp only [neg_mul, Finset.sum_neg_distrib]
    · exact (neg_neg _).symm
  have slacks : ∑ index ∈ Finset.range problem.constraints.length,
      start.cell problem.constraints.length (count.toNat + index) *
        point (count.toNat + index) = 0 :=
    Finset.sum_eq_zero fun index _ => by
      rw [cell_start_objective_slack valid built, zero_mul]
  rw [gap, rightSide, frames.width_eq, frames.rows, Finset.sum_range_add, decisions, slacks,
    cell_start_objective_slack valid built, add_zero, sub_zero]

end Start

/-! ## Points of a problem -/

section Points

variable {point : List Rat}

theorem valuesAt_decision {index : Nat} (inside : index < point.length) :
    problem.valuesAt point index = point.getD index 0 :=
  List.getD_append _ _ _ _ inside

theorem valuesAt_slack {row : Nat} (inside : row < problem.constraints.length) :
    problem.valuesAt point (point.length + row) = problem.constraints[row].bound -
      Scalar.dot problem.constraints[row].coefficients point := by
  rw [valuesAt, List.getD_append_right _ _ _ _ (Nat.le_add_right _ _), Nat.add_sub_cancel_left,
    List.getD_eq_getElem _ _ (by simpa [leftOver] using inside)]
  simp [leftOver]

/-- A point whose values are not negative gives no column a negative value. -/
theorem Admits.valuesAt_nonneg (admits : problem.Admits point) (column : Nat) :
    0 ≤ problem.valuesAt point column := by
  have all : ∀ value ∈ point ++ problem.leftOver point, 0 ≤ value := by
    intro value member
    rcases List.mem_append.mp member with decision | slack
    · exact admits.nonneg value decision
    · obtain ⟨constraint, inside, rfl⟩ := List.mem_map.mp slack
      exact sub_nonneg.mpr (admits.satisfied constraint inside)
  rcases Nat.lt_or_ge column (point ++ problem.leftOver point).length with inside | outside
  · rw [valuesAt, List.getD_eq_getElem _ _ inside]
    exact all _ (List.getElem_mem inside)
  · rw [valuesAt, List.getD_eq_default _ _ outside]

variable (valid : problem.validate = .ok count) (built : problem.startingTableau = .ok start)
include valid built

/-- **A point of the problem, with what its constraints leave over, satisfies the
starting tableau.** -/
theorem satisfies_valuesAt (long : point.length = count.toNat) :
    start.Satisfies (problem.valuesAt point) := by
  intro row low
  rw [(frames_start valid built).rows] at low
  have coefficients := (lengths_of_validate valid).2 _ (List.getElem_mem low)
  have sum : Scalar.dot problem.constraints[row].coefficients point =
      ∑ index ∈ Finset.range count.toNat,
        problem.constraints[row].coefficients.getD index 0 * problem.valuesAt point index := by
    rw [dot_eq_sum (coefficients.trans long.symm), coefficients]
    exact Finset.sum_congr rfl fun index within => by
      rw [valuesAt_decision (long ▸ Finset.mem_range.mp within)]
  rw [gap_start valid built low, ← sum, ← long, valuesAt_slack low]
  ring

/-- The gap in the objective row at a point of the problem. -/
theorem gap_start_valuesAt (long : point.length = count.toNat) :
    start.gap (problem.valuesAt point) start.constraintCount =
      -problem.gain (Scalar.dot problem.objective point) := by
  have coefficients := (lengths_of_validate valid).1
  rw [gap_start_objective valid built, dot_eq_sum (coefficients.trans long.symm), coefficients]
  exact congrArg (fun sum => -problem.gain sum) (Finset.sum_congr rfl fun index within => by
    rw [valuesAt_decision (long ▸ Finset.mem_range.mp within)])

/-- Values that satisfy the starting tableau are a point with what its constraints
leave over. -/
theorem leftOver_of_satisfies {values : Nat → Rat} (satisfied : start.Satisfies values) :
    problem.leftOver ((List.range count.toNat).map values) =
      (List.range problem.constraints.length).map fun row => values (count.toNat + row) := by
  refine List.ext_getElem (by simp [leftOver]) fun row first second => ?_
  have low : row < problem.constraints.length := by simpa using second
  have coefficients := (lengths_of_validate valid).2 _ (List.getElem_mem low)
  have zero := satisfied row ((frames_start valid built).rows ▸ low)
  rw [gap_start valid built low] at zero
  simp only [leftOver, List.getElem_map, List.getElem_range, dot_map_range coefficients]
  linarith

/-- **Values that satisfy the starting tableau and are not negative are a point of the
problem.** -/
theorem admits_of_satisfies {values : Nat → Rat} (satisfied : start.Satisfies values)
    (nonneg : ∀ column < count.toNat + problem.constraints.length, 0 ≤ values column) :
    problem.Admits ((List.range count.toNat).map values) := by
  refine ⟨by simp [(lengths_of_validate valid).1], ?_, ?_⟩
  · intro value member
    obtain ⟨column, inside, rfl⟩ := List.mem_map.mp member
    exact nonneg column (Nat.lt_add_right _ (List.mem_range.mp inside))
  · intro constraint member
    have surplus : constraint.bound - Scalar.dot constraint.coefficients
        ((List.range count.toNat).map values) ∈
          problem.leftOver ((List.range count.toNat).map values) :=
      List.mem_map_of_mem member
    rw [leftOver_of_satisfies valid built satisfied] at surplus
    obtain ⟨row, inside, same⟩ := List.mem_map.mp surplus
    have slack := nonneg (count.toNat + row) (Nat.add_lt_add_left (List.mem_range.mp inside) _)
    rw [same] at slack
    exact sub_nonneg.mp slack

/-- The objective at the decision values of a solution of the starting tableau. -/
theorem dot_objective_of_values (values : Nat → Rat) :
    Scalar.dot problem.objective ((List.range count.toNat).map values) =
      problem.gain (-start.gap values start.constraintCount) := by
  have coefficients := (lengths_of_validate valid).1
  rw [gap_start_objective valid built, neg_neg, gain_gain, dot_map_range coefficients]

end Points

end Problem

end SimplexSolver
