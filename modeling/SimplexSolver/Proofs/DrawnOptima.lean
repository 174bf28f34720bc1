import SimplexSolver.Graph.Drawing
import SimplexSolver.Proofs.Corners
import SimplexSolver.Proofs.Cycling

/-!
# The optimum in a drawing

Two algorithms look for the best corner of a problem with two variables. The simplex
method ends in a basic solution, and the drawing collects the points in which boundary
lines meet and marks those that are close to the decision values of the answer.

**They look at the same lines.** The tableau of a problem with two variables has two
columns that are not basic. Each column belongs to a boundary line: an axis for a decision
variable, the line of a constraint for its slack variable. A point lies on the lines of the
two free columns exactly if it is the basic solution (`Problem.eq_decision_iff`), so these
lines meet in the optimum and nowhere else (`exists_meeting_lines`).

**They need not find the same points.** The drawing leaves out lines whose determinant is
below its tolerance, whatever their angle is, and it checks a corner only after rounding
it. Both depend on the size of the coefficients, and each of them alone can lose the
optimum (`unmarked_optima`). `optimum_marked_iff` says when it is found.
-/

set_option autoImplicit false

namespace SimplexSolver

open Tableau

/-! ## The optimum and the free columns -/

namespace Problem

section Last

variable {problem : Problem Rat} {settings : Settings Rat} {count : Count}
  (valid : problem.validate = .ok count) (tolerance : 0 ≤ settings.epsilon)
  (fine : problem.FineRun settings) {done : Nat} {last : Tableau Rat}
  (here : problem.tableauAt settings done = some last)
include valid tolerance fine here

/-- The basic solution is what its decision values, with what the constraints leave over,
give to the columns. -/
theorem valuesAt_basicValue {column : Nat} (inside : column < last.width) :
    problem.valuesAt ((List.range count.toNat).map last.basicValue) column =
      last.basicValue column := by
  obtain ⟨start, built, -⟩ := exists_startingTableau valid
  have satisfied := (satisfies_tableauAt_iff valid tolerance built
    (fine.keepsConstraints tolerance) _ done last here).mp
      (satisfies_basicValue (fine.canonical valid tolerance done last here))
  have values : (List.range count.toNat).map last.basicValue ++
      ((List.range problem.constraints.length).map fun row =>
        last.basicValue (count.toNat + row)) =
      (List.range (count.toNat + problem.constraints.length)).map last.basicValue := by
    rw [List.range_add, List.map_append, List.map_map, Function.comp_def]
  rw [(frames_tableauAt valid done last here).width_eq] at inside
  rw [valuesAt, leftOver_of_satisfies valid built satisfied, values, getD_map_range inside]

/-- **The basic solution is the one point that leaves nothing in the free columns.** -/
theorem eq_decision_iff {point : List Rat} (long : point.length = count.toNat) :
    point = (List.range count.toNat).map last.basicValue ↔
      ∀ column, column < last.width ∧ ¬ last.IsBasic column →
        problem.valuesAt point column = 0 := by
  constructor
  · rintro rfl column ⟨inside, free⟩
    rw [valuesAt_basicValue valid tolerance fine here inside]
    exact spread_of_not_isBasic _ free
  · intro zero
    obtain ⟨start, built, -⟩ := exists_startingTableau valid
    have width := (frames_tableauAt valid done last here).width_eq
    have satisfied := (satisfies_tableauAt_iff valid tolerance built
      (fine.keepsConstraints tolerance) _ done last here).mpr
        (satisfies_valuesAt valid built long)
    have same := eq_basicValue_of_satisfies (fine.canonical valid tolerance done last here)
      satisfied fun column free => by
        rcases Nat.lt_or_ge column last.width with inside | outside
        · exact zero column ⟨inside, free⟩
        · refine List.getD_eq_default _ _ ?_
          simp only [List.length_append, long, leftOver, List.length_map, ← width]
          exact outside
    refine List.ext_getElem (by simp [long]) fun index first second => ?_
    rw [List.getElem_map, List.getElem_range, ← congrFun same index, valuesAt_decision first,
      List.getD_eq_getElem _ _ first]

end Last

/-- The number of variables of an accepted problem is what was entered. -/
theorem count?_of_validate {problem : Problem Rat} {count : Count}
    (valid : problem.validate = .ok count) : problem.variableCount.count? = some count := by
  unfold validate at valid
  split at valid
  · simp at valid
  · split at valid
    · simp at valid
    · rename_i found counted
      split at valid
      · simp at valid
      · split at valid
        · simp at valid
        · rw [← eq_of_map_const valid]
          exact (Option.filter_eq_some_iff.mp counted).1

end Problem

/-- A tableau with two columns more than rows has two free columns. -/
theorem Tableau.Canonical.exists_free {tableau : Tableau Rat} (canonical : tableau.Canonical)
    (wide : tableau.width = tableau.constraintCount + 2) :
    ∃ first second, first ≠ second ∧ ∀ column,
      column < tableau.width ∧ ¬ tableau.IsBasic column ↔ column = first ∨ column = second := by
  obtain ⟨inside, size⟩ := Finset.mem_powersetCard.mp canonical.basicColumns_mem
  have two : (Finset.range tableau.width \ tableau.basicColumns).card = 2 := by
    rw [Finset.card_sdiff_of_subset inside, size, Finset.card_range, wide]
    omega
  obtain ⟨first, second, different, free⟩ := Finset.card_eq_two.mp two
  refine ⟨first, second, different, fun column => ?_⟩
  rw [← mem_basicColumns_iff, ← Finset.mem_range, ← Finset.mem_sdiff, free, Finset.mem_insert,
    Finset.mem_singleton]

namespace Graph

/-! ## Boundary lines through the optimum -/

/-- Lines that meet in one point only have different directions. -/
theorem determinant_ne_zero {pair : Line Rat × Line Rat} {p : Point Rat}
    (meets : ∀ q, Meet pair q ↔ q = p) : determinant pair ≠ 0 := by
  intro flat
  rw [determinant] at flat
  -- Along a direction of both lines there is a second point.
  have along (u v : Rat) (first : pair.1.a * u + pair.1.b * v = 0)
      (second : pair.2.a * u + pair.2.b * v = 0) : u = 0 ∧ v = 0 := by
    obtain ⟨here, there⟩ := (meets p).mpr rfl
    have moved : Meet pair ⟨p.x + u, p.y + v⟩ := by
      constructor
      · rw [Line.Passes] at here ⊢
        linear_combination here + first
      · rw [Line.Passes] at there ⊢
        linear_combination there + second
    have same := (meets _).mp moved
    constructor
    · linarith [congrArg Point.x same]
    · linarith [congrArg Point.y same]
  obtain ⟨b, a⟩ := along (-pair.1.b) pair.1.a (by ring) (by linear_combination flat)
  obtain ⟨b', a'⟩ := along (-pair.2.b) pair.2.a (by linear_combination -flat) (by ring)
  rw [neg_eq_zero] at b b'
  simpa using along 1 0 (by rw [a, b]; ring) (by rw [a', b']; ring)

/-- The place, among the boundary lines, of the line on which the variable of a column is
zero. The axes come after the lines of the constraints. -/
def linePlace (problem : Problem Rat) (column : Nat) : Nat :=
  if column < 2 then problem.constraints.length + column else column - 2

section Accepted

variable {problem : Problem Rat} {count : Count} (valid : problem.validate = .ok count)
  (plane : count.toNat = 2)
include valid plane

theorem dot_eq_line {constraint : Constraint Rat} (member : constraint ∈ problem.constraints)
    (p : Point Rat) : Scalar.dot constraint.coefficients [p.x, p.y] =
      (lineOf constraint).a * p.x + (lineOf constraint).b * p.y := by
  rw [coefficients_eq valid plane member]
  simp [Scalar.dot]

/-- The variable of a column is zero on a boundary line. -/
theorem exists_line {column : Nat} (inside : column < 2 + problem.constraints.length) :
    ∃ line, (boundaryLines problem)[linePlace problem column]? = some line ∧
      ∀ p : Point Rat, line.Passes p ↔ problem.valuesAt [p.x, p.y] column = 0 := by
  rcases Nat.lt_or_ge column 2 with axis | slack
  · rw [linePlace, if_pos axis, boundaryLines, List.getElem?_append_right (by simp),
      List.length_map, Nat.add_sub_cancel_left]
    have cases : column = 0 ∨ column = 1 := by omega
    rcases cases with rfl | rfl
    · exact ⟨⟨1, 0, 0⟩, rfl, fun p => by simp [Line.Passes, Problem.valuesAt]⟩
    · exact ⟨⟨0, 1, 0⟩, rfl, fun p => by simp [Line.Passes, Problem.valuesAt]⟩
  · obtain ⟨row, rfl⟩ := Nat.exists_eq_add_of_le slack
    have low : row < problem.constraints.length := by omega
    have place : linePlace problem (2 + row) = row := by
      rw [linePlace, if_neg (by omega), Nat.add_sub_cancel_left]
    refine ⟨lineOf problem.constraints[row], ?_, fun p => ?_⟩
    · rw [place, boundaryLines, List.getElem?_append_left (by simpa using low),
        List.getElem?_map, List.getElem?_eq_getElem low, Option.map_some]
    · have left := @Problem.valuesAt_slack problem [p.x, p.y] row low
      rw [List.length_cons, List.length_singleton] at left
      rw [left, dot_eq_line valid plane (List.getElem_mem low), sub_eq_zero, eq_comm]
      rfl

/-- **Two boundary lines meet in the optimum and nowhere else.** They are the lines of the
two free columns. -/
theorem exists_meeting_lines {settings : Settings Rat} (nonneg : 0 ≤ settings.epsilon)
    (fine : problem.FineRun settings) {done : Nat} {last : Tableau Rat}
    (here : problem.tableauAt settings done = some last) :
    ∃ pair ∈ pairs (boundaryLines problem), ∀ p : Point Rat,
      Meet pair p ↔ p = ⟨last.basicValue 0, last.basicValue 1⟩ := by
  have frames := Problem.frames_tableauAt valid done last here
  have width : last.width = 2 + problem.constraints.length := plane ▸ frames.width_eq
  obtain ⟨first, second, different, free⟩ :=
    (fine.canonical valid nonneg done last here).exists_free
      (by rw [width, frames.rows, Nat.add_comm])
  have meets (p : Point Rat) : (problem.valuesAt [p.x, p.y] first = 0 ∧
      problem.valuesAt [p.x, p.y] second = 0) ↔
        p = ⟨last.basicValue 0, last.basicValue 1⟩ := by
    have same := Problem.eq_decision_iff valid nonneg fine here
      (show [p.x, p.y].length = count.toNat from plane.symm)
    simp only [free, forall_eq_or_imp, forall_eq] at same
    rw [← same, plane]
    cases p
    simp [List.range_succ]
  have within : first < 2 + problem.constraints.length := width ▸ ((free first).mpr (.inl rfl)).1
  have inside : second < 2 + problem.constraints.length := width ▸ ((free second).mpr (.inr rfl)).1
  obtain ⟨line, there, passes⟩ := exists_line valid plane within
  obtain ⟨other, elsewhere, passes'⟩ := exists_line valid plane inside
  have apart : linePlace problem first ≠ linePlace problem second := by
    unfold linePlace
    split <;> split <;> omega
  -- The earlier of the two lines is the first one of their pair.
  rcases lt_or_gt_of_ne apart with before | after
  · refine ⟨(line, other), mem_pairs before there elsewhere, fun p => ?_⟩
    rw [← meets, ← passes, ← passes', Meet]
  · refine ⟨(other, line), mem_pairs after elsewhere there, fun p => ?_⟩
    rw [← meets, ← passes, ← passes', Meet, and_comm]

end Accepted

/-! ## The drawing -/

theorem isOptimum_iff {optimum corner : Point Rat} :
    isOptimum (some optimum) corner = true ↔
      |corner.x - optimum.x| < tolerance ∧ |corner.y - optimum.y| < tolerance := by
  simp [isOptimum]

/-- A rounded point is close to the point itself. -/
theorem isOptimum_rounded (p : Point Rat) : isOptimum (some p) p.rounded = true := by
  obtain ⟨first, second⟩ := abs_rounded_sub_le p
  rw [isOptimum_iff, tolerance_eq]
  constructor
  · linarith
  · linarith

section Drawing

variable {problem : Problem Rat} {count : Count} (valid : problem.validate = .ok count)
  (plane : count.toNat = 2)
include valid plane

theorem isPlane_of_validate : isPlane problem = true := by
  have counted := Problem.count?_of_validate valid
  rw [isPlane]
  cases given : problem.variableCount with
  | integer number =>
      rw [given, Value.count?, Option.some.injEq] at counted
      subst counted
      have two : number = 2 := by
        rw [Count.toNat, Count.toInt] at plane
        omega
      subst two
      decide +kernel
  | flag on =>
      rw [given, Value.count?, Option.some.injEq] at counted
      subst counted
      cases on <;> simp [Count.toNat, Count.toInt, flagNumber] at plane
  | _ => simp [given, Value.count?] at counted

theorem twoItems_constraint {constraint : Constraint Rat}
    (member : constraint ∈ problem.constraints) :
    twoItems constraint.coefficients = .ok ((lineOf constraint).a, (lineOf constraint).b) := by
  rw [coefficients_eq valid plane member]
  rfl

theorem exists_objectiveLine (value : Option Rat) :
    ∃ line, objectiveLine problem.objective value = .ok line := by
  have long := (Problem.lengths_of_validate valid).1
  obtain ⟨first, second, items⟩ := List.length_eq_two.mp (long.trans plane)
  rw [objectiveLine, items]
  by_cases flat : Scalar.same second 0 = true
  · exact ⟨_, by rw [twoItems]; simp only [bind, Except.bind, if_pos flat]; rfl⟩
  · exact ⟨_, by rw [twoItems]; simp only [bind, Except.bind, if_neg flat]; rfl⟩

/-- An optimal answer to a problem with two variables can be drawn. The corners of the
region are those of the problem, and those close to the optimum are marked. -/
theorem exists_drawing {solution : Solution Rat} (optimal : solution.status = .optimal)
    {optimum : Point Rat} (decision : solution.decision = [optimum.x, optimum.y]) :
    ∃ picture corners, drawing (some problem) (some solution) = .ok (some picture) ∧
      vertices problem = .ok corners ∧
        picture.region = corners.map fun corner => ⟨corner, isOptimum (some optimum) corner⟩ := by
  obtain ⟨corners, found, -⟩ := mem_vertices_iff valid plane
  have sides := mapM_eq_ok_map fun (constraint : Constraint Rat) member =>
    twoItems_constraint valid plane member
  have kept : (some solution).filter (·.isOptimal) = some solution := by
    simp [Solution.isOptimal, optimal]
  have point : (some solution).mapM (fun answer => optimumPoint answer.decision) =
      (.ok (some optimum) : Except Failure (Option (Point Rat))) := by
    rw [Option.mapM_some, decision]
    rfl
  obtain ⟨line, objective⟩ := exists_objectiveLine valid plane
    ((some solution).map (·.objective))
  have drawn : ∃ picture, draw problem (some solution) = .ok picture ∧
      picture.region = corners.map fun corner => ⟨corner, isOptimum (some optimum) corner⟩ := by
    rw [draw, kept, found, sides]
    simp only [bind, Except.bind, point, objective, pure, Except.pure]
    exact ⟨_, rfl, rfl⟩
  obtain ⟨picture, made, region⟩ := drawn
  refine ⟨picture, corners, ?_, found, region⟩
  rw [drawing, if_pos (isPlane_of_validate valid plane), made, Except.map]

/-- **Which corners of a drawing are marked.** -/
theorem exists_marked_iff {picture : Drawing Rat} {corners : List (Point Rat)}
    {optimum : Point Rat} (found : vertices problem = .ok corners)
    (region : picture.region =
      corners.map fun corner => ⟨corner, isOptimum (some optimum) corner⟩) :
    (∃ corner ∈ picture.region, corner.isOptimal = true) ↔
      ∃ pair ∈ pairs (boundaryLines problem), ∃ p : Point Rat,
        tolerance ≤ |determinant pair| ∧ Meet pair p ∧
          problem.isFeasible tolerance [p.rounded.x, p.rounded.y] = .ok true ∧
            isOptimum (some optimum) p.rounded = true := by
  obtain ⟨same, known, mem_corners⟩ := mem_vertices_iff valid plane
  obtain rfl := Except.ok.inj (found.symm.trans known)
  rw [region]
  constructor
  · rintro ⟨corner, member, marked⟩
    obtain ⟨place, inside, rfl⟩ := List.mem_map.mp member
    obtain ⟨pair, among, p, met, rfl, feasible⟩ := (mem_corners place).mp inside
    obtain ⟨steep, meets⟩ := crossing?_eq_some_iff.mp met
    exact ⟨pair, among, p, steep, meets, feasible, marked⟩
  · rintro ⟨pair, among, p, steep, meets, feasible, marked⟩
    have inside := (mem_corners p.rounded).mpr
      ⟨pair, among, p, crossing?_eq_some_iff.mpr ⟨steep, meets⟩, rfl, feasible⟩
    exact ⟨_, List.mem_map_of_mem inside, marked⟩

/-- A point of a problem with moderate coefficients stays feasible when it is rounded. -/
theorem isFeasible_rounded {p : Point Rat} (admits : problem.Admits [p.x, p.y])
    (moderate : ∀ constraint ∈ problem.constraints,
      |(lineOf constraint).a| + |(lineOf constraint).b| ≤ 2000) :
    problem.isFeasible tolerance [p.rounded.x, p.rounded.y] = .ok true := by
  rw [Problem.isFeasible_eq valid (show [p.rounded.x, p.rounded.y].length = count.toNat from
    plane.symm), Except.ok.injEq, decide_eq_true_eq]
  have values : ∀ value ∈ [p.rounded.x, p.rounded.y], 0 ≤ value := by
    have own := admits.nonneg
    simp only [List.forall_mem_cons, List.not_mem_nil, false_implies, implies_true, and_true,
      Point.rounded, add_zero] at own ⊢
    exact ⟨Scalar.roundTo_nonneg 9 own.1, Scalar.roundTo_nonneg 9 own.2⟩
  refine ⟨fun value member => ?_, ?_⟩
  · linarith [values value member, tolerance_pos]
  · rw [Problem.leftOver, List.forall_mem_map]
    intro constraint member
    have satisfied := admits.satisfied constraint member
    have bounded := moderate constraint member
    rw [dot_eq_line valid plane member] at satisfied ⊢
    have moved := (le_abs_self _).trans
      (abs_moved_le (lineOf constraint).a (lineOf constraint).b p)
    rw [tolerance_eq]
    linarith

end Drawing

/-! ## Which optima are marked -/

section Optima

variable {problem : Problem Rat} {settings : Settings Rat} {count : Count}

/-- **When the drawing of an optimal answer marks the optimum.** Let a problem with two
variables be accepted, and let the tolerance of its solve be fine for the run. If the
answer is optimal, it can be drawn, and the optimum is the point in which two boundary
lines of different directions meet. A corner is marked exactly if two boundary lines whose
determinant is not below the tolerance of the drawing meet in a point which, rounded to
nine decimal places, is feasible and close to the optimum.

The optimum itself is such a point if two of the lines through it have such a determinant
and it stays feasible when it is rounded. It stays feasible if the sizes of the two
coefficients of a constraint never add up to more than two thousand. -/
theorem optimum_marked_iff (valid : problem.validate = .ok count) (plane : count.toNat = 2)
    (nonneg : 0 ≤ settings.epsilon) (fine : problem.FineRun settings) :
    ∃ solution, problem.solve settings false = .ok solution ∧
      (solution.status = .optimal → ∃ (picture : Drawing Rat) (optimum : Point Rat),
        drawing (some problem) (some solution) = .ok (some picture) ∧
        solution.decision = [optimum.x, optimum.y] ∧
        (∃ pair ∈ pairs (boundaryLines problem), determinant pair ≠ 0 ∧ Meet pair optimum) ∧
        ((∃ corner ∈ picture.region, corner.isOptimal = true) ↔
          ∃ pair ∈ pairs (boundaryLines problem), ∃ p : Point Rat,
            tolerance ≤ |determinant pair| ∧ Meet pair p ∧
              problem.isFeasible tolerance [p.rounded.x, p.rounded.y] = .ok true ∧
                |p.rounded.x - optimum.x| < tolerance ∧
                  |p.rounded.y - optimum.y| < tolerance) ∧
        ((∃ pair ∈ pairs (boundaryLines problem),
            tolerance ≤ |determinant pair| ∧ Meet pair optimum) →
          problem.isFeasible tolerance [optimum.rounded.x, optimum.rounded.y] = .ok true →
            ∃ corner ∈ picture.region, corner.isOptimal = true) ∧
        ((∀ constraint ∈ problem.constraints,
            |(lineOf constraint).a| + |(lineOf constraint).b| ≤ 2000) →
          problem.isFeasible tolerance [optimum.rounded.x, optimum.rounded.y] =
            .ok true)) := by
  obtain ⟨solution, limit, done, last, message, answer, -, here, -, values⟩ :=
    Problem.solve_answers valid nonneg (fine.canonical valid nonneg)
  refine ⟨solution, answer, fun optimal => ?_⟩
  obtain ⟨pair, among, meets⟩ := exists_meeting_lines valid plane nonneg fine here
  set optimum : Point Rat := ⟨last.basicValue 0, last.basicValue 1⟩
  have decision : solution.decision = [optimum.x, optimum.y] := by
    rw [(values optimal).1, plane]
    rfl
  obtain ⟨picture, corners, drawn, found, region⟩ := exists_drawing valid plane optimal decision
  have marked := exists_marked_iff valid plane found region
  refine ⟨picture, optimum, drawn, decision,
    ⟨pair, among, determinant_ne_zero meets, (meets _).mpr rfl⟩, ?_, ?_, fun moderate => ?_⟩
  · simpa only [isOptimum_iff] using marked
  · rintro ⟨pair, among, steep, meets⟩ feasible
    exact marked.mpr ⟨pair, among, optimum, steep, meets, feasible, isOptimum_rounded optimum⟩
  · obtain ⟨admits, -⟩ := Problem.admits_basicValue valid nonneg fine here
    rw [← (values optimal).1, decision] at admits
    exact isFeasible_rounded valid plane admits moderate

/-- The optimum of `twoLimits` is marked in its drawing. -/
theorem optimum_marked_iff_twoLimits :
    ∃ solution picture, Problem.twoLimits.solve Settings.standard false = .ok solution ∧
      solution.status = .optimal ∧
        drawing (some Problem.twoLimits) (some solution) = .ok (some picture) ∧
          ∃ corner ∈ picture.region, corner.isOptimal = true := by
  have reported : (Problem.twoLimits.solve Settings.standard false).toOption.map (fun solution =>
      (solution.status, solution.decision)) = some (.optimal, [2, 2]) := by decide +kernel
  obtain ⟨solution, answer, marks⟩ := optimum_marked_iff Problem.validate_twoLimits rfl
    (by decide +kernel) Problem.fineRun_twoLimits
  have shown := eq_of_seen answer reported
  obtain ⟨optimal, decision⟩ := Prod.mk.inj shown
  obtain ⟨picture, optimum, drawn, same, -, -, marked, stays⟩ := marks optimal
  refine ⟨solution, picture, answer, optimal, drawn, marked ?_ (stays (by decide +kernel))⟩
  rw [decision] at same
  obtain ⟨x, y⟩ : 2 = optimum.x ∧ 2 = optimum.y := by simpa using same
  refine ⟨(⟨1, 1, 4⟩, ⟨1, 0, 2⟩), List.mem_cons_self, by decide +kernel, ?_, ?_⟩
  · rw [Line.Passes, ← x, ← y]
    decide +kernel
  · rw [Line.Passes, ← x, ← y]
    decide +kernel

/-! ## Optima that are not marked -/

/-- The corners of a problem were checked one by one, and none of them is close to the
optimum. -/
theorem exists_unmarked {optimum : Point Rat} (valid : problem.validate = .ok count)
    (plane : count.toNat = 2)
    (reported : (problem.solve settings false).toOption.map (fun solution =>
      (solution.status, solution.decision)) = some (.optimal, [optimum.x, optimum.y]))
    (missed : ∀ pair ∈ pairs (boundaryLines problem), ∀ p ∈ crossing? pair.1 pair.2,
      (problem.isFeasible tolerance [p.rounded.x, p.rounded.y]).toOption = some true →
        isOptimum (some optimum) p.rounded = false) :
    ∃ solution picture, problem.solve settings false = .ok solution ∧
      solution.status = .optimal ∧
        drawing (some problem) (some solution) = .ok (some picture) ∧
          ∀ corner ∈ picture.region, corner.isOptimal = false := by
  obtain ⟨solution, seen, values⟩ := Option.map_eq_some_iff.mp reported
  obtain ⟨optimal, decision⟩ := Prod.mk.inj values
  obtain ⟨picture, corners, drawn, found, region⟩ := exists_drawing valid plane optimal decision
  refine ⟨solution, picture, ok_of_toOption seen, optimal, drawn, ?_⟩
  by_contra marked
  simp only [not_forall, exists_prop, Bool.not_eq_false] at marked
  obtain ⟨pair, among, p, steep, meets, feasible, close⟩ :=
    (exists_marked_iff valid plane found region).mp marked
  have far := missed pair among p (crossing?_eq_some_iff.mpr ⟨steep, meets⟩) (by rw [feasible]; rfl)
  rw [close] at far
  cases far

/-- Two limits that are far away: both variables are to become large while neither is more
than two thousand, written with small coefficients. -/
def farLimits : Problem Rat where
  direction := .maximize
  variableCount := .integer 2
  objective := [1, 1]
  constraints := [⟨[1 / 2000, 0], .atMost, 1⟩, ⟨[0, 1 / 2000], .atMost, 1⟩]

/-- A limit that no decimal number meets: `6000 x1` is at most four thousand. -/
def finerLimit : Problem Rat where
  direction := .maximize
  variableCount := .integer 2
  objective := [1, 1]
  constraints := [⟨[6000, 0], .atMost, 4000⟩, ⟨[0, 1], .atMost, 1⟩]

/-- **The optimum need not be marked.** The lines of `farLimits` are perpendicular, but their
determinant is below the tolerance, and their meeting point is left out. The optimum of
`finerLimit` is found, but rounding it breaks the limit by more than the tolerance. -/
theorem unmarked_optima :
    (farLimits.validate = .ok (.whole 2) ∧ farLimits.FineRun Settings.standard ∧
      ∃ solution picture, farLimits.solve Settings.standard false = .ok solution ∧
        solution.status = .optimal ∧
          drawing (some farLimits) (some solution) = .ok (some picture) ∧
            ∀ corner ∈ picture.region, corner.isOptimal = false) ∧
    (finerLimit.validate = .ok (.whole 2) ∧ finerLimit.FineRun Settings.standard ∧
      ∃ solution picture, finerLimit.solve Settings.standard false = .ok solution ∧
        solution.status = .optimal ∧
          drawing (some finerLimit) (some solution) = .ok (some picture) ∧
            ∀ corner ∈ picture.region, corner.isOptimal = false) := by
  have far : farLimits.validate = .ok (.whole 2) := rfl
  have finer : finerLimit.validate = .ok (.whole 2) := rfl
  refine ⟨⟨far, ?_, ?_⟩, ⟨finer, ?_, ?_⟩⟩
  · exact @Problem.fineRun_of_checked farLimits Settings.standard (.whole 2) far 3
      (by decide +kernel) (by decide +kernel) (by decide +kernel)
  · exact @exists_unmarked farLimits Settings.standard (.whole 2) ⟨2000, 2000⟩ far rfl
      (by decide +kernel) (by decide +kernel)
  · exact @Problem.fineRun_of_checked finerLimit Settings.standard (.whole 2) finer 3
      (by decide +kernel) (by decide +kernel) (by decide +kernel)
  · exact @exists_unmarked finerLimit Settings.standard (.whole 2) ⟨2 / 3, 1⟩ finer rfl
      (by decide +kernel) (by decide +kernel)

end Optima

end Graph

end SimplexSolver
