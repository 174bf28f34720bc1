import SimplexSolver.Text.Blank
import SimplexSolver.Text.CaseTable

/-!
# Upper and lower case

Whole texts are mapped, not single characters: some letters have an upper form of
several characters, a dotted capital I has a lower form of two, and a capital
sigma is lowered to its final form when it ends a word. It ends a word when the
nearest character before it, accents and modifiers passed over, is a letter with
case, and the nearest one after it is not.
-/

set_option autoImplicit false

namespace SimplexSolver.Text

/-- The partner of a code point in the first run that holds it. -/
def partner? (runs : List CaseRun) (code : Nat) : Option Nat :=
  (runs.find? (·.holds code)).map fun run => ((code : Int) + run.offset).toNat

/-- The capital sigma. -/
def capitalSigma : Char := 'Σ'

/-- Whether the nearest character that is not passed over is a letter with case. -/
def meetsCased : List Char → Bool
  | [] => false
  | c :: rest =>
    if inRanges passedRanges c.toNat then meetsCased rest else inRanges casedRanges c.toNat

/-- The lower form of a character between the text before it, nearest character
first, and the text after it. -/
def lowerChar (before : List Char) (c : Char) (after : List Char) : List Char :=
  if c = capitalSigma then
    if meetsCased before && !meetsCased after then ['ς'] else ['σ']
  else if c = 'İ' then ['i', Char.ofNat 0x307]
  else match partner? lowerRuns c.toNat with
    | some code => [Char.ofNat code]
    | none => [c]

/-- Lowering a text whose earlier part, nearest character first, is `before`. -/
def lowerFrom (before : List Char) : List Char → List Char
  | [] => []
  | c :: rest => lowerChar before c rest ++ lowerFrom (c :: before) rest

/-- The text in lower case. -/
def lower (text : List Char) : List Char := lowerFrom [] text

/-- The upper form of a character. -/
def upperChar (c : Char) : List Char :=
  match upperExpansions.lookup c.toNat with
  | some codes => codes.map Char.ofNat
  | none => match partner? upperRuns c.toNat with
    | some code => [Char.ofNat code]
    | none => [c]

/-- The text in upper case. -/
def upper (text : List Char) : List Char := text.flatMap upperChar

end SimplexSolver.Text
