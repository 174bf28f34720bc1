import SimplexSolver.Graph.Segment
import SimplexSolver.Index
import SimplexSolver.Problem.Feasibility

/-!
# Corners of the feasible region

The corners of the region of a problem with two variables are the feasible points
in which two boundary lines meet: the lines of the constraints and the two axes.
Lines that are nearly parallel are left out. Corners are rounded to nine decimal
places, and more than two of them are put in counter-clockwise order around their
mean.
-/

set_option autoImplicit false

namespace SimplexSolver.Graph

variable {α : Type} [Scalar α]

/-- The line `a x + b y = rhs`. -/
structure Line (α : Type) where
  a : α
  b : α
  rhs : α

/-- The line of a constraint, by its first two coefficients. -/
def boundary (constraint : Constraint α) : Except Failure (Line α) := do
  let a ← itemAt constraint.coefficients 0
  let b ← itemAt constraint.coefficients 1
  return ⟨a, b, constraint.bound⟩

/-- The lines `x = 0` and `y = 0`. -/
def axes : List (Line α) := [⟨1, 0, 0⟩, ⟨0, 1, 0⟩]

/-- The point in which two lines meet, unless they are nearly parallel. -/
def crossing? (first second : Line α) : Option (Point α) :=
  let determinant := first.a * second.b - second.a * first.b
  if Scalar.lt (Scalar.magnitude determinant) tolerance then none
  else some ⟨(first.rhs * second.b - second.rhs * first.b) / determinant,
    (first.a * second.rhs - second.a * first.rhs) / determinant⟩

/-- All pairs of an earlier and a later item, in the order of the earlier ones. -/
def pairs {β : Type} : List β → List (β × β)
  | [] => []
  | item :: rest => rest.map (item, ·) ++ pairs rest

/-- Adds the corner of two lines to the corners found before. -/
def addCorner (problem : Problem α) (corners : List (Point α)) (lines : Line α × Line α) :
    Except Failure (List (Point α)) :=
  match crossing? lines.1 lines.2 with
  | none => .ok corners
  | some p =>
    let p := p.rounded
    if corners.any (p.same ·) then .ok corners
    else (problem.isFeasible tolerance [p.x, p.y]).map fun feasible =>
      if feasible then corners ++ [p] else corners

/-- The mean of a list of numbers. -/
def mean (values : List α) : α := values.foldl (· + ·) 0 / Scalar.ofNat values.length

/-- Points in counter-clockwise order around their mean. -/
def aroundMean (points : List (Point α)) : List (Point α) :=
  let cx := mean (points.map (·.x))
  let cy := mean (points.map (·.y))
  points.mergeSort fun p q =>
    !Scalar.turnsBefore (q.x - cx) (q.y - cy) (p.x - cx) (p.y - cy)

/-- The corners of the feasible region. -/
def vertices (problem : Problem α) : Except Failure (List (Point α)) := do
  let boundaries ← problem.constraints.mapM boundary
  let corners ← (pairs (boundaries ++ axes)).foldlM (addCorner problem) []
  return if 2 < corners.length then aroundMean corners else corners

end SimplexSolver.Graph
