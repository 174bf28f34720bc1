import SimplexSolver.Proofs.Corners

/-!
# Lines cut off at the box

A line is drawn between the points in which it leaves the box. The drawing looks for them on the
lines through the four sides. What it finds there lies on the line (`mem_sidePoints_iff`), and
only rounding moves it away again, so that every point that is drawn is close to the line and to
the box.

**Nothing of the line is lost.** If a line passes through the inside of the box, then it does so
in a chord between two points (`exists_isChord`). An end of this chord lies on the line and in
the box, but not inside. It therefore has a coordinate of one of the sides, and the line cannot
run along this side, because it also passes through the inside (`IsChord.mem_sidePoints`). As
long as the coefficients are large enough to divide by, both ends are found, and rounding keeps
them apart unless they are very close to each other.
-/

set_option autoImplicit false

namespace SimplexSolver.Graph

/-! ## Points in order -/

/-- Whether a point comes before another one, from left to right and then from bottom to top. -/
def Precedes (p q : Point Rat) : Prop := p.x < q.x ∨ p.x = q.x ∧ p.y < q.y

theorem before_iff {p q : Point Rat} : p.before q = true ↔ Precedes p q := by
  simp only [Point.before, Scalar.same_rat, Scalar.lt_rat, Precedes]
  grind

theorem Precedes.trans {p q r : Point Rat} (first : Precedes p q) (second : Precedes q r) :
    Precedes p r := by
  simp only [Precedes] at first second ⊢
  grind

/-- Of two different points one comes before the other. -/
theorem precedes_of_ne {p q : Point Rat} (different : p ≠ q) : Precedes p q ∨ Precedes q p := by
  obtain ⟨px, py⟩ := p
  obtain ⟨qx, qy⟩ := q
  simp only [ne_eq, Point.mk.injEq, Precedes] at different ⊢
  grind

theorem mem_addNew {points : List (Point Rat)} {p q : Point Rat} :
    q ∈ Point.addNew points p ↔ q ∈ points ∨ q = p := by
  rw [Point.addNew]
  split
  · rename_i found
    obtain ⟨other, member, same⟩ := List.any_eq_true.mp found
    obtain rfl := same_iff.mp same
    grind
  · rw [List.mem_append, List.mem_singleton]

theorem nodup_addNew {points : List (Point Rat)} (distinct : points.Nodup) (p : Point Rat) :
    (Point.addNew points p).Nodup := by
  rw [Point.addNew]
  split
  · exact distinct
  · rename_i new
    have absent : p ∉ points := by
      intro member
      exact new (List.any_eq_true.mpr ⟨p, member, same_iff.mpr rfl⟩)
    rw [List.nodup_append_comm, List.singleton_append, List.nodup_cons]
    exact ⟨absent, distinct⟩

theorem mem_foldl_addNew {points found : List (Point Rat)} {p : Point Rat} :
    p ∈ points.foldl Point.addNew found ↔ p ∈ found ∨ p ∈ points := by
  induction points generalizing found with
  | nil => simp
  | cons q points ih => rw [List.foldl_cons, ih, mem_addNew, List.mem_cons, or_assoc]

theorem nodup_foldl_addNew (points : List (Point Rat)) {found : List (Point Rat)}
    (distinct : found.Nodup) : (points.foldl Point.addNew found).Nodup := by
  induction points generalizing found with
  | nil => exact distinct
  | cons q points ih => exact ih (nodup_addNew distinct q)

/-! ## The points that are drawn -/

/-- Whether a point lies in the box, widened by a margin on each side. -/
def InBox (xMax yMax margin : Rat) (p : Point Rat) : Prop :=
  (-margin ≤ p.x ∧ p.x ≤ xMax + margin) ∧ (-margin ≤ p.y ∧ p.y ≤ yMax + margin)

section Drawn

variable {line : Line Rat} {xMax yMax : Rat} {p : Point Rat}

theorem eq_above_iff (upright : line.b ≠ 0) {x : Rat} :
    p = ⟨x, (line.rhs - line.a * x) / line.b⟩ ↔ line.Passes p ∧ p.x = x := by
  obtain ⟨px, py⟩ := p
  rw [Point.mk.injEq, eq_div_iff upright, Line.Passes]
  constructor
  · rintro ⟨rfl, height⟩
    exact ⟨by linarith, rfl⟩
  · rintro ⟨passes, rfl⟩
    exact ⟨rfl, by linarith⟩

theorem eq_beside_iff (level : line.a ≠ 0) {y : Rat} :
    p = ⟨(line.rhs - line.b * y) / line.a, y⟩ ↔ line.Passes p ∧ p.y = y := by
  obtain ⟨px, py⟩ := p
  rw [Point.mk.injEq, eq_div_iff level, Line.Passes]
  constructor
  · rintro ⟨width, rfl⟩
    exact ⟨by linarith, rfl⟩
  · rintro ⟨passes, rfl⟩
    exact ⟨by linarith, rfl⟩

theorem isSteep_iff {coefficient : Rat} :
    isSteep coefficient = true ↔ tolerance < |coefficient| := by
  rw [isSteep, Scalar.lt_rat, Scalar.magnitude_rat, decide_eq_true_eq]

theorem ne_zero_of_isSteep {coefficient : Rat} (steep : isSteep coefficient = true) :
    coefficient ≠ 0 :=
  abs_pos.mp (tolerance_pos.trans (isSteep_iff.mp steep))

/-- **The points at the sides lie on the line**, and they are all points of the line with a
coordinate of a side, as far as the line is steep enough towards this side. -/
theorem mem_sidePoints_iff : p ∈ sidePoints line.a line.b line.rhs xMax yMax ↔
    line.Passes p ∧ (isSteep line.b = true ∧ (p.x = 0 ∨ p.x = xMax) ∨
      isSteep line.a = true ∧ (p.y = 0 ∨ p.y = yMax)) := by
  have upright : p ∈ (if isSteep line.b then [0, xMax].map fun x =>
      (⟨x, (line.rhs - line.a * x) / line.b⟩ : Point Rat) else []) ↔
        line.Passes p ∧ isSteep line.b = true ∧ (p.x = 0 ∨ p.x = xMax) := by
    split
    · rename_i steep
      simp only [List.map_cons, List.map_nil, List.mem_cons, List.not_mem_nil, or_false,
        eq_above_iff (ne_zero_of_isSteep steep), steep, true_and, and_or_left]
    · simp_all
  have level : p ∈ (if isSteep line.a then [0, yMax].map fun y =>
      (⟨(line.rhs - line.b * y) / line.a, y⟩ : Point Rat) else []) ↔
        line.Passes p ∧ isSteep line.a = true ∧ (p.y = 0 ∨ p.y = yMax) := by
    split
    · rename_i steep
      simp only [List.map_cons, List.map_nil, List.mem_cons, List.not_mem_nil, or_false,
        eq_beside_iff (ne_zero_of_isSteep steep), steep, true_and, and_or_left]
    · simp_all
  rw [sidePoints, List.mem_append, upright, level, ← and_or_left]

theorem isWithin_iff {bound coordinate : Rat} : isWithin bound coordinate = true ↔
    -tolerance ≤ coordinate ∧ coordinate ≤ bound + tolerance := by
  rw [isWithin, Bool.and_eq_true, Scalar.le_rat, Scalar.le_rat, decide_eq_true_eq,
    decide_eq_true_eq]

/-- **What is drawn of a line** are its points at the sides that lie in the box, rounded. -/
theorem mem_segment_iff : p ∈ segment line.a line.b line.rhs xMax yMax ↔
    ∃ q ∈ sidePoints line.a line.b line.rhs xMax yMax,
      InBox xMax yMax tolerance q ∧ q.rounded = p := by
  simp only [segment, List.mem_mergeSort, mem_foldl_addNew, List.not_mem_nil, false_or,
    List.mem_map, List.mem_filter, Bool.and_eq_true, isWithin_iff, and_assoc, InBox]

/-- The points that are drawn are in order, and none of them is drawn twice. -/
theorem pairwise_segment (a b rhs xMax yMax : Rat) :
    (segment a b rhs xMax yMax).Pairwise Precedes := by
  unfold segment
  simp only
  generalize (sidePoints a b rhs xMax yMax).filter _ = inside
  have distinct := nodup_foldl_addNew (inside.map Point.rounded) List.nodup_nil
  generalize (inside.map Point.rounded).foldl Point.addNew [] = found at distinct ⊢
  have sorted : (found.mergeSort fun p q => !q.before p).Pairwise
      (fun p q => (!q.before p) = true) := by
    refine List.pairwise_mergeSort ?_ ?_ found
    · intro p q r first second
      simp only [Bool.not_eq_true', ← Bool.not_eq_true, before_iff] at first second ⊢
      intro back
      by_cases same : q = r
      · exact first (same ▸ back)
      · exact first (((precedes_of_ne same).resolve_right second).trans back)
    · intro p q
      simp only [Bool.or_eq_true, Bool.not_eq_true', ← Bool.not_eq_true, before_iff, Precedes]
      grind
  have different : (found.mergeSort fun p q => !q.before p).Pairwise (· ≠ ·) :=
    (List.mergeSort_perm _ _).nodup_iff.mpr distinct
  refine (sorted.and different).imp ?_
  rintro p q ⟨order, apart⟩
  simp only [Bool.not_eq_true', ← Bool.not_eq_true, before_iff] at order
  exact (precedes_of_ne apart).resolve_right order

end Drawn

/-! ## The chord of a line -/

/-- Whether a point lies strictly inside the box. -/
def Inside (xMax yMax : Rat) (p : Point Rat) : Prop :=
  (0 < p.x ∧ p.x < xMax) ∧ (0 < p.y ∧ p.y < yMax)

/-- The point at a part of the way from one point to another. -/
def between (p q : Point Rat) (part : Rat) : Point Rat :=
  ⟨p.x + part * (q.x - p.x), p.y + part * (q.y - p.y)⟩

/-- A line passes through the inside of the box in the chord between two points: the points of
the line that lie inside are those strictly between the two ends. -/
structure IsChord (line : Line Rat) (xMax yMax : Rat) (p q : Point Rat) : Prop where
  apart : p ≠ q
  inside_iff : ∀ m, line.Passes m ∧ Inside xMax yMax m ↔
    ∃ part, 0 < part ∧ part < 1 ∧ m = between p q part

/-- What is positive strictly between two ends is not negative at an end. -/
theorem nonneg_of_between {u v : Rat}
    (positive : ∀ part, 0 < part → part < 1 → 0 < u + part * (v - u)) : 0 ≤ u := by
  by_contra! negative
  have half := positive (1 / 2) (by norm_num) (by norm_num)
  have rises : 0 < v - u := by linarith
  -- On the way from a negative end to a positive one there is a zero in between.
  have zero := positive (-u / (v - u)) (div_pos (neg_pos.mpr negative) rises)
    ((div_lt_one rises).mpr (by linarith))
  rw [div_mul_cancel₀ _ rises.ne'] at zero
  linarith

namespace IsChord

variable {line : Line Rat} {xMax yMax : Rat} {p q : Point Rat}

theorem symm (chord : IsChord line xMax yMax p q) : IsChord line xMax yMax q p := by
  refine ⟨chord.apart.symm, fun m => (chord.inside_iff m).trans ⟨?_, ?_⟩⟩
  · rintro ⟨part, low, high, rfl⟩
    refine ⟨1 - part, by linarith, by linarith, ?_⟩
    simp only [between, Point.mk.injEq]
    constructor <;> ring
  · rintro ⟨part, low, high, rfl⟩
    refine ⟨1 - part, by linarith, by linarith, ?_⟩
    simp only [between, Point.mk.injEq]
    constructor <;> ring

section Ends

variable (chord : IsChord line xMax yMax p q)
include chord

theorem between_inside {part : Rat} (low : 0 < part) (high : part < 1) :
    line.Passes (between p q part) ∧ Inside xMax yMax (between p q part) :=
  (chord.inside_iff _).mpr ⟨part, low, high, rfl⟩

/-- The ends of a chord lie on the line. -/
theorem passes : line.Passes p := by
  have near := (chord.between_inside (by norm_num : (0 : Rat) < 1 / 3) (by norm_num)).1
  have far := (chord.between_inside (by norm_num : (0 : Rat) < 2 / 3) (by norm_num)).1
  simp only [Line.Passes, between] at near far ⊢
  linear_combination 2 * near - far

/-- The ends of a chord lie in the box. -/
theorem inBox : InBox xMax yMax 0 p := by
  have inside (part : Rat) (low : 0 < part) (high : part < 1) :=
    (chord.between_inside low high).2
  have left : 0 ≤ p.x := nonneg_of_between fun part low high => (inside part low high).1.1
  have bottom : 0 ≤ p.y := nonneg_of_between fun part low high => (inside part low high).2.1
  have right : 0 ≤ xMax - p.x := nonneg_of_between (v := xMax - q.x) fun part low high => by
    have bounded := (inside part low high).1.2
    simp only [between] at bounded
    linarith
  have top : 0 ≤ yMax - p.y := nonneg_of_between (v := yMax - q.y) fun part low high => by
    have bounded := (inside part low high).2.2
    simp only [between] at bounded
    linarith
  simp only [InBox]
  exact ⟨⟨by linarith, by linarith⟩, by linarith, by linarith⟩

/-- The ends of a chord do not lie inside the box. -/
theorem not_inside : ¬ Inside xMax yMax p := by
  intro inside
  obtain ⟨part, low, -, same⟩ := (chord.inside_iff p).mp ⟨chord.passes, inside⟩
  refine chord.apart ?_
  obtain ⟨px, py⟩ := p
  obtain ⟨qx, qy⟩ := q
  simp only [between, Point.mk.injEq, left_eq_add, mul_eq_zero, low.ne', false_or,
    sub_eq_zero] at same ⊢
  exact ⟨same.1.symm, same.2.symm⟩

/-- The ends of a chord have a coordinate of one of the sides. -/
theorem at_side : (p.x = 0 ∨ p.x = xMax) ∨ p.y = 0 ∨ p.y = yMax := by
  have box := chord.inBox
  have outside := chord.not_inside
  simp only [InBox, Inside] at box outside
  grind

/-- **The ends of a chord are points at the sides.** A line that passes through the inside does
not run along a side, so its coefficient towards a side that it reaches is not zero. -/
theorem mem_sidePoints (first : line.a = 0 ∨ tolerance < |line.a|)
    (second : line.b = 0 ∨ tolerance < |line.b|) (proper : line.a ≠ 0 ∨ line.b ≠ 0) :
    p ∈ sidePoints line.a line.b line.rhs xMax yMax := by
  obtain ⟨crosses, inside⟩ :=
    chord.between_inside (by norm_num : (0 : Rat) < 1 / 2) (by norm_num)
  generalize between p q (1 / 2) = m at crosses inside
  have passes := chord.passes
  simp only [Line.Passes, Inside] at crosses passes inside
  rw [mem_sidePoints_iff, isSteep_iff, isSteep_iff]
  refine ⟨chord.passes, chord.at_side.imp ?_ ?_⟩
  · intro side
    refine ⟨second.resolve_left fun flat => ?_, side⟩
    have steep : line.a ≠ 0 := proper.resolve_right (not_not.mpr flat)
    have same : p.x = m.x := mul_left_cancel₀ steep <| by
      linear_combination passes - crosses - (p.y - m.y) * flat
    rcases side with zero | bound
    · linarith
    · linarith
  · intro side
    refine ⟨first.resolve_left fun flat => ?_, side⟩
    have steep : line.b ≠ 0 := proper.resolve_left (not_not.mpr flat)
    have same : p.y = m.y := mul_left_cancel₀ steep <| by
      linear_combination passes - crosses - (p.x - m.x) * flat
    rcases side with zero | bound
    · linarith
    · linarith

end Ends

end IsChord

/-! ## Lines through the inside -/

/-- The point of a line that is reached from another one by going a distance along the line, in
units of its direction. -/
def Line.along (line : Line Rat) (m : Point Rat) (distance : Rat) : Point Rat :=
  ⟨m.x + distance * line.b, m.y - distance * line.a⟩

section Through

variable {line : Line Rat} {xMax yMax : Rat} {m : Point Rat} (proper : line.a ≠ 0 ∨ line.b ≠ 0)
include proper

/-- From one of its points all points of a line are reached. -/
theorem passes_iff_along (passes : line.Passes m) {p : Point Rat} :
    line.Passes p ↔ ∃ distance, p = line.along m distance := by
  have square : line.a * line.a + line.b * line.b ≠ 0 := by
    rcases proper with first | second
    · nlinarith [mul_self_pos.mpr first, mul_self_nonneg line.b]
    · nlinarith [mul_self_pos.mpr second, mul_self_nonneg line.a]
  obtain ⟨px, py⟩ := p
  simp only [Line.Passes, Line.along, Point.mk.injEq] at passes ⊢
  constructor
  · intro also
    obtain ⟨distance, reaches⟩ : ∃ distance : Rat, distance *
        (line.a * line.a + line.b * line.b) = (px - m.x) * line.b - (py - m.y) * line.a :=
      ⟨_, div_mul_cancel₀ _ square⟩
    refine ⟨distance, mul_left_cancel₀ square ?_, mul_left_cancel₀ square ?_⟩
    · linear_combination line.a * also - line.a * passes - line.b * reaches
    · linear_combination line.b * also - line.b * passes + line.a * reaches
  · rintro ⟨distance, rfl, rfl⟩
    linear_combination passes

omit proper in
/-- A coordinate that changes along a line stays between its bounds for an interval of
distances. -/
theorem exists_span {start pace bound : Rat} (low : 0 < start) (high : start < bound)
    (moves : pace ≠ 0) : ∃ back ahead, back < 0 ∧ 0 < ahead ∧ ∀ distance,
      (0 < start + distance * pace ∧ start + distance * pace < bound) ↔
        back < distance ∧ distance < ahead := by
  rcases lt_or_gt_of_ne moves with falls | rises
  · refine ⟨(bound - start) / pace, -start / pace, div_neg_of_pos_of_neg (by linarith) falls,
      div_pos_of_neg_of_neg (by linarith) falls, fun distance => ?_⟩
    rw [div_lt_iff_of_neg falls, lt_div_iff_of_neg falls]
    constructor <;> rintro ⟨first, second⟩ <;> constructor <;> linarith
  · refine ⟨-start / pace, (bound - start) / pace, div_neg_of_neg_of_pos (by linarith) rises,
      div_pos (by linarith) rises, fun distance => ?_⟩
    rw [div_lt_iff₀ rises, lt_div_iff₀ rises]
    constructor <;> rintro ⟨first, second⟩ <;> constructor <;> linarith

/-- The inside of the box holds a line for an interval of distances. -/
theorem exists_span_inside (inside : Inside xMax yMax m) :
    ∃ back ahead, back < 0 ∧ 0 < ahead ∧ ∀ distance,
      Inside xMax yMax (line.along m distance) ↔ back < distance ∧ distance < ahead := by
  obtain ⟨⟨left, right⟩, bottom, top⟩ := inside
  have horizontal (moves : line.b ≠ 0) := exists_span left right moves
  have vertical (moves : line.a ≠ 0) := exists_span bottom top (neg_ne_zero.mpr moves)
  simp only [mul_neg, ← sub_eq_add_neg] at vertical
  simp only [Inside, Line.along]
  by_cases upright : line.b = 0
  · have steep : line.a ≠ 0 := proper.resolve_right (not_not.mpr upright)
    obtain ⟨back, ahead, behind, before, span⟩ := vertical steep
    refine ⟨back, ahead, behind, before, fun distance => ?_⟩
    rw [span, upright, mul_zero, add_zero, and_iff_right ⟨left, right⟩]
  · obtain ⟨back, ahead, behind, before, span⟩ := horizontal upright
    by_cases level : line.a = 0
    · refine ⟨back, ahead, behind, before, fun distance => ?_⟩
      rw [span, level, mul_zero, sub_zero, and_iff_left ⟨bottom, top⟩]
    · obtain ⟨back', ahead', behind', before', span'⟩ := vertical level
      refine ⟨max back back', min ahead ahead', max_lt behind behind', lt_min before before',
        fun distance => ?_⟩
      rw [span, span', max_lt_iff, lt_min_iff, and_and_and_comm]

/-- **A line that passes through the inside does so in a chord.** -/
theorem exists_isChord (passes : line.Passes m) (inside : Inside xMax yMax m) :
    ∃ p q, IsChord line xMax yMax p q := by
  obtain ⟨back, ahead, behind, before, span⟩ := exists_span_inside proper inside
  have wide : 0 < ahead - back := by linarith
  have part_eq (part : Rat) : between (line.along m back) (line.along m ahead) part =
      line.along m (back + part * (ahead - back)) := by
    simp only [between, Line.along, Point.mk.injEq]
    constructor <;> ring
  refine ⟨line.along m back, line.along m ahead, ?_, fun p => ?_⟩
  · intro same
    simp only [Line.along, Point.mk.injEq] at same
    have distances {coefficient : Rat} (some : coefficient ≠ 0)
        (same : (ahead - back) * coefficient = 0) : False :=
      (mul_ne_zero wide.ne' some) same
    rcases proper with first | second
    · exact distances first (by linear_combination same.2)
    · exact distances second (by linear_combination -same.1)
  · simp only [part_eq]
    constructor
    · rintro ⟨also, within⟩
      obtain ⟨distance, rfl⟩ := (passes_iff_along proper passes).mp also
      obtain ⟨low, high⟩ := (span distance).mp within
      refine ⟨(distance - back) / (ahead - back), div_pos (by linarith) wide,
        (div_lt_one wide).mpr (by linarith), ?_⟩
      rw [div_mul_cancel₀ _ wide.ne', add_sub_cancel]
    · rintro ⟨part, low, high, rfl⟩
      refine ⟨(passes_iff_along proper passes).mpr ⟨_, rfl⟩, (span _).mpr ⟨?_, ?_⟩⟩
      · nlinarith
      · nlinarith

end Through

/-! ## What is drawn of a line -/

/-- A drawn point is close to its line and to the box, because only rounding moves it away. -/
theorem near_of_mem_segment {line : Line Rat} {xMax yMax : Rat} {p : Point Rat}
    (drawn : p ∈ segment line.a line.b line.rhs xMax yMax) :
    |line.a * p.x + line.b * p.y - line.rhs| ≤ (|line.a| + |line.b|) * (5 / 10000000000) ∧
      InBox xMax yMax (1 / 1000000 + 5 / 10000000000) p := by
  obtain ⟨q, side, ⟨⟨left, right⟩, bottom, top⟩, rfl⟩ := mem_segment_iff.mp drawn
  have passes := (mem_sidePoints_iff.mp side).1
  rw [Line.Passes] at passes
  constructor
  · have moved := abs_moved_le line.a line.b q
    calc |line.a * q.rounded.x + line.b * q.rounded.y - line.rhs|
        = |line.a * (q.rounded.x - q.x) + line.b * (q.rounded.y - q.y)| := by
          congr 1
          linear_combination passes
      _ ≤ (|line.a| + |line.b|) * (5 / 10000000000) := by linarith
  · obtain ⟨first, second⟩ := abs_rounded_sub_le q
    rw [abs_le] at first second
    rw [tolerance_eq] at left right bottom top
    exact ⟨⟨by linarith, by linarith⟩, by linarith, by linarith⟩

/-- Points that are apart by more than two roundings stay apart when they are rounded. -/
theorem rounded_ne {p q : Point Rat}
    (apart : 1 / 1000000000 < |p.x - q.x| ∨ 1 / 1000000000 < |p.y - q.y|) :
    p.rounded ≠ q.rounded := by
  intro same
  obtain ⟨firstX, firstY⟩ := abs_rounded_sub_le p
  obtain ⟨secondX, secondY⟩ := abs_rounded_sub_le q
  rw [same] at firstX firstY
  rw [abs_sub_comm] at firstX firstY
  refine apart.elim (fun far => ?_) fun far => ?_
  · have near := abs_sub_le p.x q.rounded.x q.x
    linarith
  · have near := abs_sub_le p.y q.rounded.y q.y
    linarith

theorem IsChord.rounded_mem_segment {line : Line Rat} {xMax yMax : Rat} {p q : Point Rat}
    (chord : IsChord line xMax yMax p q) (first : line.a = 0 ∨ tolerance < |line.a|)
    (second : line.b = 0 ∨ tolerance < |line.b|) (proper : line.a ≠ 0 ∨ line.b ≠ 0) :
    p.rounded ∈ segment line.a line.b line.rhs xMax yMax := by
  refine mem_segment_iff.mpr ⟨p, chord.mem_sidePoints first second proper, ?_, rfl⟩
  obtain ⟨⟨left, right⟩, bottom, top⟩ := chord.inBox
  have margin := tolerance_pos
  exact ⟨⟨by linarith, by linarith⟩, by linarith, by linarith⟩

/-- **Lines are drawn from end to end.** Let each coefficient of a line be zero or large enough
to divide by, and not both of them zero.

Every point that is drawn is on the line up to the error of rounding, and in the box up to this
error and the tolerance. The points are in order from left to right and from bottom to top,
without repetition. If the line passes through the inside of the box, it does so in a chord, and
both ends of a chord are drawn, rounded. They are two points at least, unless the ends agree in
both coordinates up to nine decimal places. -/
theorem segment_draws_chord (line : Line Rat) (xMax yMax : Rat)
    (first : line.a = 0 ∨ 1 / 1000000 < |line.a|) (second : line.b = 0 ∨ 1 / 1000000 < |line.b|)
    (proper : line.a ≠ 0 ∨ line.b ≠ 0) :
    (∀ p ∈ segment line.a line.b line.rhs xMax yMax,
      |line.a * p.x + line.b * p.y - line.rhs| ≤ (|line.a| + |line.b|) * (5 / 10000000000) ∧
      InBox xMax yMax (1 / 1000000 + 5 / 10000000000) p) ∧
    (segment line.a line.b line.rhs xMax yMax).Pairwise Precedes ∧
    (∀ m, line.Passes m → Inside xMax yMax m → ∃ p q, IsChord line xMax yMax p q) ∧
    ∀ p q, IsChord line xMax yMax p q →
      p.rounded ∈ segment line.a line.b line.rhs xMax yMax ∧
      q.rounded ∈ segment line.a line.b line.rhs xMax yMax ∧
      (1 / 1000000000 < |p.x - q.x| ∨ 1 / 1000000000 < |p.y - q.y| →
        2 ≤ (segment line.a line.b line.rhs xMax yMax).length) := by
  rw [← tolerance_eq] at first second
  refine ⟨fun p => near_of_mem_segment, pairwise_segment _ _ _ _ _,
    fun m => exists_isChord proper, fun p q chord => ?_⟩
  have start := chord.rounded_mem_segment first second proper
  have stop := chord.symm.rounded_mem_segment first second proper
  refine ⟨start, stop, fun apart => ?_⟩
  have pair : [p.rounded, q.rounded].Nodup := by simpa using rounded_ne apart
  exact (pair.subperm (by simp [start, stop])).length_le

/-- A line through a corner of the box, which it reaches at two sides at once. -/
def cornerLine : Line Rat := ⟨1, -3, 0⟩

theorem isChord_cornerLine : IsChord cornerLine 10 20 ⟨0, 0⟩ ⟨10, 10 / 3⟩ where
  apart := by simp
  inside_iff := by
    rintro ⟨x, y⟩
    simp only [Line.Passes, cornerLine, Inside, between, Point.mk.injEq]
    constructor
    · rintro ⟨passes, ⟨left, right⟩, -⟩
      exact ⟨x / 10, by linarith, by linarith, by ring, by linarith⟩
    · rintro ⟨part, low, high, rfl, rfl⟩
      exact ⟨by ring, ⟨by linarith, by linarith⟩, by linarith, by linarith⟩

theorem segment_draws_chord_cornerLine :
    (cornerLine.a = 0 ∨ 1 / 1000000 < |cornerLine.a|) ∧
    (cornerLine.b = 0 ∨ 1 / 1000000 < |cornerLine.b|) ∧
    (cornerLine.a ≠ 0 ∨ cornerLine.b ≠ 0) ∧
    IsChord cornerLine 10 20 ⟨0, 0⟩ ⟨10, 10 / 3⟩ ∧
    ⟨10, 3333333333 / 1000000000⟩ ∈ segment (1 : Rat) (-3) 0 10 20 ∧
    |cornerLine.a * 10 + cornerLine.b * (3333333333 / 1000000000) - cornerLine.rhs| ≤
      (|cornerLine.a| + |cornerLine.b|) * (5 / 10000000000) ∧
    2 ≤ (segment (1 : Rat) (-3) 0 10 20).length := by
  have first : cornerLine.a = 0 ∨ 1 / 1000000 < |cornerLine.a| := .inr (by decide +kernel)
  have second : cornerLine.b = 0 ∨ 1 / 1000000 < |cornerLine.b| := .inr (by decide +kernel)
  have proper : cornerLine.a ≠ 0 ∨ cornerLine.b ≠ 0 := .inl (by decide +kernel)
  obtain ⟨sound, -, -, complete⟩ := segment_draws_chord cornerLine 10 20 first second proper
  obtain ⟨-, stop, two⟩ := complete _ _ isChord_cornerLine
  have rounded : Point.rounded ⟨10, 10 / 3⟩ = (⟨10, 3333333333 / 1000000000⟩ : Point Rat) := by
    rw [Point.rounded, Point.mk.injEq]
    decide +kernel
  rw [rounded] at stop
  exact ⟨first, second, proper, isChord_cornerLine, stop, (sound _ stop).1,
    two (.inl (by norm_num))⟩

end SimplexSolver.Graph
