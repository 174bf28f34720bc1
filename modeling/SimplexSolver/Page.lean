import SimplexSolver.Display.Table
import SimplexSolver.Entry.Form
import SimplexSolver.Graph.Figure
import SimplexSolver.Solve.Run

/-!
# The page

The page asks for a problem, shows how the objective was understood, and, when the
button is pressed, solves the problem and shows every tableau, the solution and a
drawing. It is the list of what is put on it, from top to bottom. Pressing the
button with an objective that is blank, or with a form that cannot be read, ends
the page with an error; otherwise it ends with two examples.

A failure that has no wording is not shown on the page: it ends the whole page.
-/

set_option autoImplicit false

namespace SimplexSolver.Page

/-- The kinds of fields on the page. -/
inductive FieldKind where
  | number
  | line
  | switch
  | menu
  deriving DecidableEq, Repr

/-- What a field holds. -/
inductive Content where
  | number (value : Int)
  | text (value : String)
  deriving DecidableEq, Repr

/-- The kinds of text on the page. -/
inductive TextKind where
  | heading
  | plain
  | notice
  | error
  | remark
  deriving DecidableEq, Repr

/-- Something on the page. -/
inductive Item (α : Type) where
  | field (kind : FieldKind) (key label : String) (content : Content)
  | text (kind : TextKind) (content : String)
  | metric (label value : String)
  | fold (label : String) (isOpen : Bool)
  | example
  /-- A table with the places of its highlighted cells. -/
  | table (content : Display.Table) (highlighted : List (Nat × Nat))
  | figure (content : Graph.Figure α)

/-- What was filled in, and how the page is to be shown. -/
structure Request (α : Type) where
  /-- The fields that were filled in, by their keys. -/
  fields : List (String × Content)
  asFractions : Bool
  pressed : Bool
  /-- Sections of settings, if there is a file of them. -/
  sections : Option (List (String × List (String × Value α)))

/-- What was put on the page, and what the solver reported meanwhile. -/
structure Sheet (α : Type) where
  items : List (Item α)
  log : List LogLine

/-- Work on a page. A failure ends it and leaves what is there. -/
abbrev Build (α : Type) := ExceptT Failure (StateM (Sheet α))

variable {α : Type} [Scalar α]

/-- Puts an item on the page. -/
def put (item : Item α) : Build α Unit :=
  modify fun sheet => { sheet with items := sheet.items ++ [item] }

/-- Adds lines to the log. -/
def report (lines : List LogLine) : Build α Unit :=
  modify fun sheet => { sheet with log := sheet.log ++ lines }

/-- Puts a text on the page. -/
def putText (kind : TextKind) (content : String) : Build α Unit := put (.text kind content)

/-- Puts a field for a number on the page, and gives its number. -/
def numberField (request : Request α) (key label : String) (standard : Int) : Build α Int := do
  let value := match request.fields.lookup key with
    | some (.number value) => value
    | _ => standard
  put (.field .number key label (.number value))
  return value

/-- Puts a field for a text on the page, and gives its text. -/
def textField (request : Request α) (kind : FieldKind) (key label standard : String) :
    Build α String := do
  let value := match request.fields.lookup key with
    | some (.text value) => value
    | _ => standard
  put (.field kind key label (.text value))
  return value

/-! ## Asking for the problem -/

/-- A heading over a part of the page. -/
def subheading (title : String) : String := s!"<div class=\"sub-header\">{title}</div>"

/-- How the objective was understood so far. -/
def preview (variableCount : Int) (direction objective : String) : Build α Unit :=
  if objective.isEmpty then return ()
  else
    match (Entry.coefficients objective variableCount : Except Failure (List α)) with
    | .ok coefficients =>
      let problem : Problem α :=
        ⟨Entry.directionOf direction, .integer variableCount, coefficients, []⟩
      putText .notice ("**Parsed as:** " ++ Display.objectiveText problem)
    | .error failure =>
      match failure.message? with
      | some message => putText .remark ("Not parsed yet: " ++ message)
      | none => throw failure

/-- The three fields of a constraint, counted from zero. -/
def constraintFields (request : Request α) (index : Nat) :
    Build α (String × String × String) := do
  let number := index + 1
  putText .heading s!"**Constraint {number}**"
  let coefficients ← textField request .line s!"coeff_{index}" s!"Coefficients {number}"
    (if index = 0 then "1 1" else "1 0")
  let relation ← textField request .menu s!"ineq_{index}" "Inequality" "<="
  let bound ← textField request .line s!"rhs_{index}" "RHS" (if index = 0 then "4" else "2")
  return (coefficients, relation, bound)

/-- The whole form. -/
def askForm (request : Request α) : Build α (Entry.Form α) := do
  putText .heading (subheading "🔧 Problem Setup")
  let variableCount ← numberField request "num_vars" "Number of Decision Variables" 2
  let constraints ← numberField request "num_constraints" "Number of Constraints" 2
  putText .heading "#### Objective Function"
  let direction ← textField request .switch "obj_type" "Optimization Type:" "max"
  let objective ← textField request .line "obj_input"
    s!"Enter coefficients for x₁ to x{variableCount}:" "3 2"
  preview variableCount direction objective
  putText .heading (subheading "📋 Constraints")
  let fields ← (List.range constraints.toNat).mapM (constraintFields request)
  return {
    variableCount := variableCount
    direction := direction
    objective := objective
    constraints := fields.map (·.1)
    relations := fields.map (·.2.1)
    bounds := fields.map fun field => .text field.2.2 }

/-! ## Showing the answer -/

/-- The problem that is solved. -/
def showProblem (problem : Problem α) (variableCount : Int) : Build α Unit := do
  putText .heading "---"
  putText .heading (subheading "📝 Problem Formulation")
  putText .plain ("**Objective:** " ++ Display.objectiveText problem)
  putText .plain "**Subject to:**"
  problem.constraints.forM fun constraint =>
    putText .plain (Display.constraintText constraint)
  putText .plain
    (", ".intercalate ((List.range variableCount.toNat).map decisionName) ++ " ≥ 0")

/-- A tableau, with its marked cell highlighted. -/
def showTableau (asFractions : Bool) (tableau : Tableau α) : Build α Unit := do
  let cellText : α → String := if asFractions then Display.fractionText else Display.cellText
  let marked ← Display.markedPlace tableau
  put (.table (Display.table cellText tableau) marked.toList)

/-- Every record of a solve; the last one is unfolded. -/
def showHistory (asFractions : Bool) (history : List (Record α)) : Build α Unit := do
  putText .heading "### 📊 Solution Steps"
  history.zipIdx.forM fun (record, index) => do
    put (.fold s!"Iteration {index}" (index + 1 == history.length))
    putText .plain ("**" ++ (← record.description) ++ "**")
    showTableau asFractions record.tableau

/-- The values of variables. -/
def showValues (name : Nat → String) (values : List α) : Build α Unit :=
  values.zipIdx.forM fun (value, index) =>
    put (.metric (name index) (Display.cellText value))

/-- The values of an optimum. -/
def showOptimum (solution : Solution α) : Build α Unit := do
  putText .heading "<div class=\"solution-box\">"
  putText .heading "### ✅ Optimal Solution Found!"
  putText .plain "**Decision Variables:**"
  showValues decisionName solution.decision
  if !solution.slack.isEmpty then
    putText .plain "**Slack Variables:**"
    showValues slackName solution.slack
  put (.metric "**Optimal Objective Value (Z)**" (Display.cellText solution.objective))
  putText .heading "</div>"

/-- The drawing of an optimum, if the problem can be drawn. -/
def showDrawing (problem : Problem α) (solution : Solution α) : Build α Unit := do
  match ← Graph.drawing (some problem) (some solution) with
  | none =>
    putText .notice
      "The graphical view is only available for problems with 2 decision variables."
  | some drawing =>
    putText .heading "### 📈 Graphical Solution"
    put (.figure (← Graph.Figure.ofDrawing drawing (some (Display.objectiveText problem))))

/-- A box with the sentence of a status, and the message of the solve. -/
def showStatus (box sign : String) (solution : Solution α) : Build α Unit := do
  let sentence := solution.status.message
  putText .heading s!"<div class=\"{box}\">{sign} {sentence}</div>"
  putText .plain solution.message

/-- The answer of a solve. -/
def showSolution (asFractions : Bool) (problem : Problem α) (solution : Solution α) :
    Build α Unit := do
  match solution.status with
  | .optimal =>
    showHistory asFractions solution.history
    showOptimum solution
    showDrawing problem solution
  | .unbounded =>
    showStatus "warning-box" "⚠️" solution
    showHistory asFractions solution.history
  | _ =>
    showStatus "error-box" "❌" solution
    if !solution.history.isEmpty then showHistory asFractions solution.history

/-- The settings of the solver, from their section of the settings file. -/
def settings (request : Request α) : Except Failure (Settings α) :=
  Settings.ofFields ((request.sections.bind (·.lookup "solver")).getD [])

/-- Reads the form and the settings, and puts the notice on a normalised problem on
the page. -/
def readForm (request : Request α) (form : Entry.Form α) :
    Build α (Except Failure (Problem α × Settings α)) := do
  match form.read with
  | .error failure => return .error failure
  | .ok read =>
    if read.normalized then putText .notice Entry.normalizedNotice
    return (settings request).map (read.problem, ·)

/-- The two examples at the end of the page. -/
def showExamples : Build α Unit := do
  put (.fold "📚 Example Problems" false)
  putText .heading "**Example 1: Maximization**"
  put .example
  putText .heading "**Example 2: Minimization**"
  put .example

/-- What follows when the button is pressed, and whether the page goes on. -/
def respond (request : Request α) (form : Entry.Form α) : Build α Bool := do
  if (Text.strip form.objective.toList).isEmpty then
    putText .error "❌ Please enter the objective function coefficients."
    return false
  match ← readForm request form with
  | .error failure =>
    match failure.message? with
    | some message =>
      putText .error ("❌ " ++ message)
      return false
    | none => throw failure
  | .ok (problem, settings) =>
    showProblem problem form.variableCount
    putText .heading "---"
    putText .heading (subheading "🔄 Solution Process")
    let run ← problem.run settings false
    report (run.log problem.startingTableau)
    match run.solution with
    | some solution => showSolution request.asFractions problem solution
    | none => throw .absent
    return true

/-- Puts everything on the page. -/
def build (request : Request α) : Build α Unit := do
  putText .heading "<div class=\"main-header\">📊 Simplex Method Solver</div>"
  let form ← askForm request
  if request.pressed then
    if ← respond request form then showExamples
  else showExamples

/-- The page for a request, and the failure that ended it, if any. -/
def render (request : Request α) : Except Failure Unit × Sheet α :=
  (build request).run.run ⟨[], []⟩

end SimplexSolver.Page
