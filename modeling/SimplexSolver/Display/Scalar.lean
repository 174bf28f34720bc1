import SimplexSolver.Number.Literal
import SimplexSolver.Number.NearFraction
import SimplexSolver.Value

/-!
# Texts of scalars

Tableau cells are shown either with four decimal places or as short fractions. As
a fraction, a whole number is written without a point, a number that is very
small or very large with four decimal places, a number close to a fraction with a
denominator up to one hundred as that fraction, and any other number with two
decimal places. An undefined number and a missing one are shown by a dash.

Coefficients in problem texts have at most six significant digits.
-/

set_option autoImplicit false

namespace SimplexSolver.Display

variable {α : Type} [Scalar α]

/-- The layout of coefficients: positional below one million, no mark on whole
numbers. -/
def coefficientLayout : Layout where
  positionalFrom := -4
  positionalBelow := 6
  wholeMark := []

/-- A scalar with at most six significant digits. -/
def coefficientChars (value : α) : List Char :=
  (Scalar.reading value).significant 6 coefficientLayout

/-- A scalar with at most six significant digits. -/
def coefficientText (value : α) : String := String.ofList (coefficientChars value)

/-- A scalar with a fixed number of decimal places. -/
def fixedText (places : Nat) (value : α) : String :=
  String.ofList ((Scalar.reading value).fixed places)

/-- A tableau cell with four decimal places. -/
def cellText (value : α) : String := fixedText 4 value

/-! ## Fractions -/

/-- The shortest distance at which a fraction counts as equal to a scalar. -/
def fractionTolerance : Quantity α := .real (Scalar.decimal 1 (-6))

/-- The largest denominator shown, less one. -/
def denominatorBound : Nat := 99

/-- A fraction with its sign; a denominator of one is left out. -/
def signedFraction (negative : Bool) (fraction : NearFraction) : List Char :=
  let sign := if negative && fraction.numerator != 0 then ['-'] else []
  if fraction.denominator = 1 then sign ++ numeral fraction.numerator
  else sign ++ numeral fraction.numerator ++ '/' :: numeral fraction.denominator

/-- The exact value of a fraction with a sign. -/
def fractionValue (negative : Bool) (fraction : NearFraction) : Rat :=
  mkRat (if negative then -(fraction.numerator : Int) else fraction.numerator) fraction.denominator

/-- A scalar as a whole number, a short fraction or a decimal. -/
def fractionChars (tolerance : Quantity α) (value : α) : List Char :=
  match Scalar.reading value with
  | .undefined => ['-']
  | .infinite negative => Reading.infinityText negative
  | .finite negative size =>
    if size.den = 1 then
      (if negative && size.num != 0 then ['-'] else []) ++ numeral size.num.natAbs
    else if Scalar.lt (Scalar.magnitude value) (Scalar.decimal 1 (-3)) ||
        Scalar.lt (Scalar.decimal 10000 0) (Scalar.magnitude value) then
      Reading.fixed 4 (.finite negative size)
    else
      let fraction := NearFraction.nearest size.num.natAbs size.den denominatorBound
      let distance := Scalar.magnitude (value - Scalar.ofRat (fractionValue negative fraction))
      if tolerance.isAbove distance then signedFraction negative fraction
      else Reading.fixed 2 (.finite negative size)

/-- A scalar as a whole number, a short fraction or a decimal. -/
def fractionText (value : α) : String := String.ofList (fractionChars fractionTolerance value)

/-- Any value as a fraction: a text is read as a literal first. -/
def fractionOfValue (tolerance : Quantity α) : Value α → Except Failure String
  | .missing => .ok "-"
  | .flag on => .ok (shown (if on then 1 else 0))
  | .integer number => (Quantity.toScalar (.whole number)).map shown
  | .real number => .ok (shown number)
  | .text content =>
    match Literal.read content.toList with
    | none =>
      .error (.invalid (.notNumeral (String.ofList (Text.quoted content.toList))))
    | some .undefined => .error (.invalid .undefinedRatio)
    | some (.infinite negative) => .ok (String.ofList (Reading.infinityText negative))
    | some (.decimal negative digits exponent) =>
      let size : α := Scalar.decimal digits exponent
      .ok (shown (if negative then -size else size))
  | .list _ | .tuple _ => .error .wrongKind
where
  /-- The fraction of a scalar. -/
  shown (value : α) : String := String.ofList (fractionChars tolerance value)

end SimplexSolver.Display
