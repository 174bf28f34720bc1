import SimplexSolver.Graph.Drawing

/-!
# Figures

A figure lists what a drawing puts on paper, in drawing order: the lines of the
constraints that are visible, the region when it has an area, the line of the
objective at the optimum, and the corners of the region with the optimum set off.
Everything that has a label appears in the legend.
-/

set_option autoImplicit false

namespace SimplexSolver.Graph

variable {α : Type} [Scalar α]

/-- A line on paper. -/
structure FigureLine (α : Type) where
  label : String
  color : String
  style : String
  width : α
  points : List (Point α)

/-- A filled area. -/
structure FigureFill (α : Type) where
  label : String
  outline : List (Point α)

/-- A dot. -/
structure FigureDot (α : Type) where
  label : Option String
  point : Point α
  size : α
  color : String
  layer : Nat

/-- A figure in a window from the origin. -/
structure Figure (α : Type) where
  constraintLines : List (FigureLine α)
  fill : Option (FigureFill α)
  objectiveLine : Option (FigureLine α)
  dots : List (FigureDot α)
  xMax : α
  yMax : α
  title : String

/-- The colors of the constraint lines, used in turn. -/
def lineColors : List String := ["red", "blue", "green", "orange", "purple", "brown"]

/-- The line of a constraint, if at least two points of it are visible. -/
def constraintFigure? (index : Nat) (line : ConstraintLine α) : Option (FigureLine α) :=
  if line.points.length < 2 then none
  else
    let a := Display.coefficientText line.a
    let b := Display.coefficientText line.b
    let relation := line.constraint.relation.symbol
    let rhs := Display.coefficientText line.constraint.bound
    some {
      label := s!"{a}x₁ + {b}x₂ {relation} {rhs}"
      color := lineColors.getD (index % lineColors.length) ""
      style := "-"
      width := Scalar.decimal 2 0
      points := line.points }

/-- The number of points an objective line is drawn through. -/
def sampleCount : Nat := 100

/-- Evenly spaced numbers from zero to a bound, which is the last of them. -/
def samples (bound : α) : List α :=
  let step := bound / Scalar.ofNat (sampleCount - 1)
  (List.range (sampleCount - 1)).map (fun index => Scalar.ofNat index * step) ++ [bound]

/-- The line of the objective, if there is an optimum. -/
def objectiveFigure? (xMax : α) (line : ObjectiveLine α) : Option (FigureLine α) :=
  match line.slope, line.intercept with
  | some slope, some intercept => some {
      label := "Objective at optimum"
      color := "k"
      style := "--"
      width := Scalar.decimal 15 (-1)
      points := (samples xMax).map fun x => ⟨x, slope * x + intercept⟩ }
  | _, _ => none

/-- The region, if it has an area; its outline is closed. -/
def regionFigure? (region : List (Corner α)) : Option (FigureFill α) :=
  if 2 < region.length then
    let outline := region.map (·.point)
    some ⟨"Feasible Region", outline ++ outline.take 1⟩
  else none

/-- A corner of the region. The optimum is large, golden, on top, and labelled. -/
def cornerFigure (corner : Corner α) : FigureDot α :=
  if corner.isOptimal then
    let x := Display.fixedText 2 corner.point.x
    let y := Display.fixedText 2 corner.point.y
    ⟨some s!"Optimal: ({x}, {y})", corner.point, Scalar.decimal 200 0, "#ffd700", 5⟩
  else ⟨none, corner.point, Scalar.decimal 40 0, "#ff0000", 4⟩

namespace Figure

/-- The figure of a drawing. A window has to be finite. -/
def ofDrawing (drawing : Drawing α) (title : Option String) : Except Failure (Figure α) :=
  if Scalar.isFinite drawing.xMax && Scalar.isFinite drawing.yMax then
    .ok {
      constraintLines := (drawing.lines.mapIdx constraintFigure?).filterMap id
      fill := regionFigure? drawing.region
      objectiveLine := objectiveFigure? drawing.xMax drawing.objective
      dots := drawing.region.map cornerFigure
      xMax := drawing.xMax
      yMax := drawing.yMax
      title := title.getD "" }
  else .error (.invalid .unboundedAxis)

/-- All lines, in drawing order. -/
def lines (figure : Figure α) : List (FigureLine α) :=
  figure.constraintLines ++ figure.objectiveLine.toList

/-- The labels in drawing order. -/
def legend (figure : Figure α) : List String :=
  figure.constraintLines.map (·.label) ++ figure.fill.toList.map (·.label) ++
    figure.objectiveLine.toList.map (·.label) ++ figure.dots.filterMap (·.label)

end Figure

end SimplexSolver.Graph
