import SimplexSolver.Number.Scalar

/-!
# Lines cut off at a box

The line `a x + b y = rhs` is drawn inside the box from the origin to
`(xMax, yMax)`. It meets the lines through the four sides of the box in at most
four points: two at the left and right side, unless it is vertical, and two at the
lower and upper side, unless it is horizontal. The points that lie in the box, up
to a tolerance, are rounded to nine decimal places, and what is left without
repetition is sorted from left to right and then from bottom to top.
-/

set_option autoImplicit false

namespace SimplexSolver

/-- A point of the plane. -/
structure Point (α : Type) where
  x : α
  y : α

namespace Point

variable {α : Type} [Scalar α]

/-- Whether two points have the same coordinates. -/
def same (p q : Point α) : Bool := Scalar.same p.x q.x && Scalar.same p.y q.y

/-- Whether a point comes strictly before another, by the first coordinate and then
by the second. -/
def before (p q : Point α) : Bool :=
  if Scalar.same p.x q.x then Scalar.lt p.y q.y else Scalar.lt p.x q.x

/-- The point with both coordinates rounded to nine places. -/
def rounded (p : Point α) : Point α := ⟨Scalar.roundTo 9 (p.x + 0), Scalar.roundTo 9 (p.y + 0)⟩

/-- Adds a point at the end unless it is there already. -/
def addNew (points : List (Point α)) (p : Point α) : List (Point α) :=
  if points.any (p.same ·) then points else points ++ [p]

end Point

namespace Graph

variable {α : Type} [Scalar α]

/-- The tolerance of all drawing. -/
def tolerance : α := Scalar.decimal 1 (-6)

/-- Whether a coefficient is large enough to divide by. -/
def isSteep (coefficient : α) : Bool := Scalar.lt tolerance (Scalar.magnitude coefficient)

/-- The points in which a line meets the lines through the sides of the box. -/
def sidePoints (a b rhs xMax yMax : α) : List (Point α) :=
  (if isSteep b then [0, xMax].map fun x => ⟨x, (rhs - a * x) / b⟩ else []) ++
    (if isSteep a then [0, yMax].map fun y => ⟨(rhs - b * y) / a, y⟩ else [])

/-- Whether a coordinate lies between zero and a bound, up to the tolerance. -/
def isWithin (bound coordinate : α) : Bool :=
  Scalar.le (-tolerance) coordinate && Scalar.le coordinate (bound + tolerance)

/-- The ends of the part of a line inside a box. -/
def segment (a b rhs xMax yMax : α) : List (Point α) :=
  let inside := (sidePoints a b rhs xMax yMax).filter fun p =>
    isWithin xMax p.x && isWithin yMax p.y
  ((inside.map Point.rounded).foldl Point.addNew []).mergeSort fun p q => !q.before p

end Graph

end SimplexSolver
