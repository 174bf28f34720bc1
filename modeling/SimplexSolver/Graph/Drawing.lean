import SimplexSolver.Display.Problem
import SimplexSolver.Graph.Vertices
import SimplexSolver.Solve.Solution

/-!
# What is drawn of a problem

A problem with two variables is drawn as the lines of its constraints, the corners
of its feasible region, and the line of the objective at the optimum. The window
starts at the origin and is wide enough for the intercepts of all lines, all
corners and the optimum, with a margin, and never smaller than a default.
-/

set_option autoImplicit false

namespace SimplexSolver.Graph

variable {α : Type} [Scalar α]

/-! ## Which problems can be drawn -/

/-- What kinds of drawing a problem allows, and what to say if there is none. -/
structure Support where
  inPlane : Bool
  inSpace : Bool
  message : String
  deriving DecidableEq, Repr

/-- A way of looking at a solution. -/
structure ViewOption where
  id : String
  name : String
  description : String
  deriving DecidableEq, Repr

/-- Whether a problem has exactly two variables. -/
def isPlane (problem : Problem α) : Bool := problem.variableCount.quantity?.any (·.equals 2)

/-- The drawings a problem allows. Drawing in space is not available. -/
def support : Option (Problem α) → Support
  | none => ⟨false, false, "No problem data to visualize."⟩
  | some problem =>
    if isPlane problem then ⟨true, false, ""⟩
    else ⟨false, false, "This problem cannot be drawn; graphs are only available for " ++
      "problems with 2 variables."⟩

/-- The view of the plane. -/
def planeView : ViewOption where
  id := "2d"
  name := "2D Graph"
  description := "Feasible region, constraint lines and optimal point on the x1-x2 plane."

/-- The view of the tableaux, which every solution has. -/
def tableView : ViewOption where
  id := "iterations"
  name := "Iteration Tables"
  description := "Every simplex tableau with its pivot."

/-- The views of a problem. -/
def viewOptions (problem : Option (Problem α)) : List ViewOption :=
  if (support problem).inPlane then [planeView, tableView] else [tableView]

/-! ## The drawing -/

/-- The visible part of the line of a constraint. -/
structure ConstraintLine (α : Type) where
  id : String
  name : String
  points : List (Point α)
  constraint : Constraint α
  /-- The two coefficients of the constraint. -/
  a : α
  b : α

/-- A corner of the region, and whether it is the optimum. -/
structure Corner (α : Type) where
  point : Point α
  isOptimal : Bool

/-- The line of the objective: its slope, unless it is vertical, and where it meets
the second axis at the optimum. -/
structure ObjectiveLine (α : Type) where
  slope : Option α
  intercept : Option α
  coefficients : List α

/-- All that is drawn of a problem, in a window from the origin. -/
structure Drawing (α : Type) where
  xMax : α
  yMax : α
  lines : List (ConstraintLine α)
  region : List (Corner α)
  objective : ObjectiveLine α

/-- The names of the two variables. -/
def axisNames : String × String := ("x₁", "x₂")

/-- The two items of a list that has to have two. -/
def twoItems (items : List α) : Except Failure (α × α) :=
  match items with
  | [first, second] => .ok (first, second)
  | _ :: _ :: _ => .error (.invalid .tooManyCoefficients)
  | few => .error (.invalid (.tooFewCoefficients few.length))

/-- The first two values of the optimum. -/
def optimumPoint (values : List α) : Except Failure (Point α) := do
  return ⟨← itemAt values 0, ← itemAt values 1⟩

/-- The intercept of a line with an axis, if it is positive. -/
def intercepts (coefficient rhs : α) : List α :=
  if isSteep coefficient && Scalar.lt 0 (rhs / coefficient) then [rhs / coefficient] else []

/-- The smallest window. -/
def defaultRange : α := Scalar.decimal 20 0

/-- The bound of a window that shows all the given coordinates. -/
def windowBound (coordinates : List α) : α :=
  Scalar.larger defaultRange (Scalar.decimal 11 (-1) * coordinates.foldl Scalar.larger 0)

/-- Whether a corner is the optimum, up to the tolerance. -/
def isOptimum (optimum : Option (Point α)) (corner : Point α) : Bool :=
  match optimum with
  | none => false
  | some p =>
    Scalar.lt (Scalar.magnitude (corner.x - p.x)) tolerance &&
      Scalar.lt (Scalar.magnitude (corner.y - p.y)) tolerance

/-- The objective line for an optimal value, if there is one. -/
def objectiveLine (objective : List α) (value : Option α) :
    Except Failure (ObjectiveLine α) := do
  let (first, second) ← twoItems objective
  if Scalar.same second 0 then return ⟨none, none, objective⟩
  else return ⟨some (-first / second), value.map (· / second), objective⟩

/-- The drawing of a problem with two variables. -/
def draw (problem : Problem α) (solution : Option (Solution α)) :
    Except Failure (Drawing α) := do
  let optimal := solution.filter (·.isOptimal)
  let corners ← vertices problem
  let sides ← problem.constraints.mapM fun constraint => twoItems constraint.coefficients
  let optimum ← optimal.mapM fun solution => optimumPoint solution.decision
  let bounds := problem.constraints.map (·.bound)
  let shown := corners ++ optimum.toList
  let xMax := windowBound
    ((sides.zip bounds).flatMap (fun (side, rhs) => intercepts side.1 rhs) ++ shown.map (·.x))
  let yMax := windowBound
    ((sides.zip bounds).flatMap (fun (side, rhs) => intercepts side.2 rhs) ++ shown.map (·.y))
  let lines := (problem.constraints.zip sides).mapIdx fun index (constraint, side) =>
    let number := index + 1
    { id := s!"constraint-{number}"
      name := s!"Constraint {number}"
      points := segment side.1 side.2 constraint.bound xMax yMax
      constraint := constraint
      a := side.1
      b := side.2 : ConstraintLine α }
  let region := corners.map fun corner => ⟨corner, isOptimum optimum corner⟩
  let objective ← objectiveLine problem.objective (optimal.map (·.objective))
  return { xMax, yMax, lines, region, objective }

/-- The drawing of a problem, if it has two variables. -/
def drawing (problem : Option (Problem α)) (solution : Option (Solution α)) :
    Except Failure (Option (Drawing α)) :=
  match problem with
  | none => .ok none
  | some problem =>
    if isPlane problem then (draw problem solution).map some else .ok none

end SimplexSolver.Graph
