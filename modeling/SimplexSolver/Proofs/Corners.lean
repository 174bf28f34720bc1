import Mathlib.Tactic.LinearCombination
import SimplexSolver.Graph.Vertices
import SimplexSolver.Proofs.Courses
import SimplexSolver.Proofs.FeasibleAnswers
import SimplexSolver.Proofs.Roundings

/-!
# Which points are corners

The corners of a problem with two variables are collected while going through all
pairs of boundary lines: a pair adds the rounded point in which its lines meet, if the
lines are not nearly parallel, the point is feasible, and it was not found before.
For an accepted problem none of these steps fails, and what is found in the end no
longer depends on the order of the pairs: a point is a corner exactly if some pair
adds it (`mem_vertices_iff`). Neither removing repetitions nor sorting changes this.

The test of a pair is stated without the formula of the meeting point: a point is the
crossing of two lines exactly if it lies on both and the determinant of the lines is not
below the tolerance (`crossing?_eq_some_iff`).
-/

set_option autoImplicit false

namespace SimplexSolver.Graph

/-! ## Rounded points -/

theorem abs_rounded_sub_le (p : Point Rat) :
    |p.rounded.x - p.x| ≤ 1 / 2000000000 ∧ |p.rounded.y - p.y| ≤ 1 / 2000000000 := by
  have unit : (1 : Rat) / (2 * (tenPower 9 : Nat)) = 1 / 2000000000 := by decide +kernel
  simp only [Point.rounded, add_zero, ← unit]
  exact ⟨Scalar.abs_roundTo_sub_le 9 p.x, Scalar.abs_roundTo_sub_le 9 p.y⟩

/-- Rounding a point changes the left-hand side of a line only a little. -/
theorem abs_moved_le (a b : Rat) (p : Point Rat) :
    |a * (p.rounded.x - p.x) + b * (p.rounded.y - p.y)| ≤ (|a| + |b|) * (1 / 2000000000) := by
  obtain ⟨first, second⟩ := abs_rounded_sub_le p
  calc |a * (p.rounded.x - p.x) + b * (p.rounded.y - p.y)|
      ≤ |a * (p.rounded.x - p.x)| + |b * (p.rounded.y - p.y)| := abs_add_le _ _
    _ = |a| * |p.rounded.x - p.x| + |b| * |p.rounded.y - p.y| := by rw [abs_mul, abs_mul]
    _ ≤ |a| * (1 / 2000000000) + |b| * (1 / 2000000000) := by gcongr
    _ = (|a| + |b|) * (1 / 2000000000) := by ring

/-! ## Lines and their crossings -/

/-- Whether a point lies on a line. -/
def Line.Passes (line : Line Rat) (p : Point Rat) : Prop :=
  line.a * p.x + line.b * p.y = line.rhs

/-- Whether two lines meet in a point. -/
def Meet (pair : Line Rat × Line Rat) (p : Point Rat) : Prop :=
  pair.1.Passes p ∧ pair.2.Passes p

/-- The determinant of two lines; it is zero if they have the same direction. -/
def determinant (pair : Line Rat × Line Rat) : Rat :=
  pair.1.a * pair.2.b - pair.2.a * pair.1.b

theorem tolerance_eq : (tolerance : Rat) = 1 / 1000000 := by decide +kernel

theorem tolerance_pos : (0 : Rat) < tolerance := by decide +kernel

/-- Lines with different directions meet in one point. -/
theorem meet_iff {pair : Line Rat × Line Rat} (apart : determinant pair ≠ 0) {p : Point Rat} :
    Meet pair p ↔
      p.x = (pair.1.rhs * pair.2.b - pair.2.rhs * pair.1.b) / determinant pair ∧
        p.y = (pair.1.a * pair.2.rhs - pair.2.a * pair.1.rhs) / determinant pair := by
  rw [eq_div_iff apart, eq_div_iff apart, determinant, Meet, Line.Passes, Line.Passes]
  constructor
  · rintro ⟨first, second⟩
    constructor
    · rw [← first, ← second]
      ring
    · rw [← first, ← second]
      ring
  · rintro ⟨first, second⟩
    rw [determinant] at apart
    constructor
    · refine mul_left_cancel₀ apart ?_
      linear_combination pair.1.a * first + pair.1.b * second
    · refine mul_left_cancel₀ apart ?_
      linear_combination pair.2.a * first + pair.2.b * second

/-- **The crossing of two lines that are not nearly parallel is the point on both.** -/
theorem crossing?_eq_some_iff {pair : Line Rat × Line Rat} {p : Point Rat} :
    crossing? pair.1 pair.2 = some p ↔ tolerance ≤ |determinant pair| ∧ Meet pair p := by
  have test : Scalar.lt (Scalar.magnitude (pair.1.a * pair.2.b - pair.2.a * pair.1.b))
      tolerance = true ↔ ¬ tolerance ≤ |determinant pair| := by
    simp [determinant]
  unfold crossing?
  simp only
  by_cases steep : tolerance ≤ |determinant pair|
  · have apart : determinant pair ≠ 0 := abs_pos.mp (tolerance_pos.trans_le steep)
    rw [if_neg fun flat => test.mp flat steep, Option.some.injEq, meet_iff apart,
      and_iff_right steep]
    cases p
    rw [Point.mk.injEq]
    exact and_congr eq_comm eq_comm
  · rw [if_pos (test.mpr steep)]
    simp [steep]

/-! ## Pairs of a list -/

/-- Two items of a list, the earlier one first, are one of its pairs. -/
theorem mem_pairs {β : Type} {items : List β} {first second : Nat} (order : first < second)
    {earlier later : β} (here : items[first]? = some earlier)
    (there : items[second]? = some later) : (earlier, later) ∈ pairs items := by
  induction items generalizing first second with
  | nil => simp at here
  | cons head rest ih =>
      rw [pairs, List.mem_append]
      cases second with
      | zero => omega
      | succ next =>
          rw [List.getElem?_cons_succ] at there
          cases first with
          | zero =>
              rw [List.getElem?_cons_zero, Option.some.injEq] at here
              subst here
              exact .inl (List.mem_map_of_mem (List.mem_of_getElem? there))
          | succ before =>
              rw [List.getElem?_cons_succ] at here
              exact .inr (ih (Nat.lt_of_succ_lt_succ order) here there)

/-! ## Corners -/

/-- The line of a constraint with two coefficients. -/
def lineOf (constraint : Constraint Rat) : Line Rat :=
  ⟨constraint.coefficients.getD 0 0, constraint.coefficients.getD 1 0, constraint.bound⟩

/-- The boundary lines of a problem: those of its constraints, then the axes. -/
def boundaryLines (problem : Problem Rat) : List (Line Rat) :=
  problem.constraints.map lineOf ++ axes

/-- Two boundary lines add a point to the corners. -/
def Adds (problem : Problem Rat) (pair : Line Rat × Line Rat) (p : Point Rat) : Prop :=
  ∃ meeting, crossing? pair.1 pair.2 = some meeting ∧ p = meeting.rounded ∧
    problem.isFeasible tolerance [p.x, p.y] = .ok true

theorem same_iff {p q : Point Rat} : p.same q = true ↔ p = q := by
  cases p
  cases q
  simp [Point.same]

section Accepted

variable {problem : Problem Rat} {count : Count} (valid : problem.validate = .ok count)
  (plane : count.toNat = 2)
include valid plane

theorem coefficients_eq {constraint : Constraint Rat} (member : constraint ∈ problem.constraints) :
    constraint.coefficients = [(lineOf constraint).a, (lineOf constraint).b] := by
  have long := (Problem.lengths_of_validate valid).2 constraint member
  obtain ⟨first, second, items⟩ := List.length_eq_two.mp (long.trans plane)
  simp [lineOf, items]

theorem mapM_boundary : problem.constraints.mapM boundary =
    (.ok (problem.constraints.map lineOf) : Except Failure (List (Line Rat))) := by
  have each : ∀ constraint ∈ problem.constraints,
      boundary constraint = .ok (lineOf constraint) := by
    intro constraint member
    rw [boundary, coefficients_eq valid plane member]
    rfl
  exact mapM_eq_ok_map each

/-- The check of a point of the plane gives a verdict. -/
theorem exists_verdict (p : Point Rat) :
    ∃ verdict, problem.isFeasible tolerance [p.x, p.y] = .ok verdict :=
  ⟨_, Problem.isFeasible_eq valid (by rw [plane]; rfl) tolerance⟩

/-- One pair of lines adds its corner, and nothing else changes. -/
theorem mem_addCorner (corners : List (Point Rat)) (pair : Line Rat × Line Rat) :
    ∃ result, addCorner problem corners pair = .ok result ∧
      ∀ p, p ∈ result ↔ p ∈ corners ∨ Adds problem pair p := by
  unfold addCorner
  cases met : crossing? pair.1 pair.2 with
  | none => exact ⟨corners, rfl, by simp [Adds, met]⟩
  | some meeting =>
      have adds : ∀ p, Adds problem pair p ↔ p = meeting.rounded ∧
          problem.isFeasible tolerance [p.x, p.y] = .ok true := by
        simp [Adds, met]
      simp only [adds]
      split
      · -- A point that was found before passed the check then; here it needs no second one.
        rename_i found
        obtain ⟨other, member, same⟩ := List.any_eq_true.mp found
        obtain rfl := same_iff.mp same
        refine ⟨corners, rfl, fun p => ⟨.inl, ?_⟩⟩
        rintro (old | ⟨rfl, -⟩)
        · exact old
        · exact member
      · obtain ⟨verdict, checked⟩ := exists_verdict valid plane meeting.rounded
        rw [checked, Except.map]
        refine ⟨_, rfl, fun p => ?_⟩
        cases verdict with
        | true =>
            rw [if_pos rfl, List.mem_append, List.mem_singleton]
            refine or_congr Iff.rfl ⟨?_, And.left⟩
            rintro rfl
            exact ⟨rfl, checked⟩
        | false =>
            rw [if_neg Bool.false_ne_true]
            refine ⟨.inl, ?_⟩
            rintro (old | ⟨rfl, passed⟩)
            · exact old
            · rw [checked] at passed
              cases passed

/-- Going through pairs of lines adds the corners of all of them. -/
theorem mem_foldlM_addCorner (all : List (Line Rat × Line Rat)) (corners : List (Point Rat)) :
    ∃ result, all.foldlM (addCorner problem) corners = .ok result ∧
      ∀ p, p ∈ result ↔ p ∈ corners ∨ ∃ pair ∈ all, Adds problem pair p := by
  induction all generalizing corners with
  | nil => exact ⟨corners, rfl, by simp⟩
  | cons pair rest ih =>
      obtain ⟨added, step, mem_added⟩ := mem_addCorner valid plane corners pair
      obtain ⟨result, run, mem_result⟩ := ih added
      refine ⟨result, by rw [List.foldlM_cons]; exact bind_eq_ok step run, fun p => ?_⟩
      rw [mem_result, mem_added, or_assoc]
      simp only [List.exists_mem_cons_iff]

/-- **The corners of an accepted problem with two variables are found, and they are the
points that two boundary lines add.** -/
theorem mem_vertices_iff :
    ∃ corners, vertices problem = .ok corners ∧
      ∀ p, p ∈ corners ↔ ∃ pair ∈ pairs (boundaryLines problem), Adds problem pair p := by
  obtain ⟨found, run, mem_found⟩ :=
    mem_foldlM_addCorner valid plane (pairs (boundaryLines problem)) []
  refine ⟨_, bind_eq_ok (mapM_boundary valid plane) (bind_eq_ok run rfl), fun p => ?_⟩
  have sorted : p ∈ (if 2 < found.length then aroundMean found else found) ↔ p ∈ found := by
    split
    · exact List.mem_mergeSort
    · exact Iff.rfl
  rw [sorted, mem_found]
  simp

end Accepted

end SimplexSolver.Graph
