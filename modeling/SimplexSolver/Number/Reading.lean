import SimplexSolver.Number.Rounding

/-!
# What a scalar stands for

A scalar of any kind is shown to the rest of the library through one view: it is
undefined, infinite with a sign, or finite with a sign and an exact size. The
sign of a finite reading is kept apart from its size, because a scalar may have
two zeros and both are written out.

A `Layout` fixes where positional notation ends and scientific notation begins.
Given the significant digits of a number and the power of ten of the first one,
`Layout.write` is the text. Two further texts are functions of the reading
alone: a fixed number of decimal places (`Reading.fixed`) and a bounded number of
significant digits (`Reading.significant`). Both round the exact size once, a
half to the even digit, and keep the sign of a number that is rounded to zero.
-/

set_option autoImplicit false

namespace SimplexSolver

/-- The value of a scalar: undefined, infinite, or a sign and an exact size. -/
inductive Reading where
  | undefined
  | infinite (negative : Bool)
  | finite (negative : Bool) (size : Rat)
  deriving DecidableEq, Repr

namespace Reading

/-- The reading of a rational number; zero counts as positive. -/
def ofRat (value : Rat) : Reading :=
  .finite (decide (value < 0)) (if value < 0 then -value else value)

/-- The exact value, if the reading is finite. -/
def toRat? : Reading → Option Rat
  | .finite negative size => some (if negative then -size else size)
  | _ => none

/-- Whether the reading is a whole number. -/
def isWhole : Reading → Bool
  | .finite _ size => size.den == 1
  | _ => false

end Reading

/-! ## Positional and scientific layout -/

/-- Where a number is written positionally, and what marks a whole number. -/
structure Layout where
  /-- The lowest power of ten of a first digit that is written positionally. -/
  positionalFrom : Int
  /-- The power of ten from which on scientific notation is used. -/
  positionalBelow : Int
  /-- What follows a positional number that has no fraction digits. -/
  wholeMark : List Char

namespace Layout

/-- The exponent of scientific notation: a sign and at least two digits. -/
def exponentText (exponent : Int) : List Char :=
  (if exponent < 0 then '-' else '+') :: paddedNumeral 2 exponent.natAbs

/-- The text of the number whose significant digits are `digits`, the first of
them standing for `10 ^ exponent`. -/
def write (layout : Layout) (negative : Bool) (digits : List Char) (exponent : Int) : List Char :=
  let sign := if negative then ['-'] else []
  if layout.positionalFrom ≤ exponent ∧ exponent < layout.positionalBelow then
    if exponent < 0 then
      sign ++ '0' :: '.' :: (List.replicate (exponent.natAbs - 1) '0' ++ digits)
    else
      let whole := exponent.toNat + 1
      if digits.length ≤ whole then
        sign ++ digits ++ List.replicate (whole - digits.length) '0' ++ layout.wholeMark
      else
        sign ++ digits.take whole ++ '.' :: digits.drop whole
  else
    match digits with
    | [] => sign
    | [first] => sign ++ first :: 'e' :: exponentText exponent
    | first :: rest => sign ++ first :: '.' :: (rest ++ 'e' :: exponentText exponent)

end Layout

/-- The digits of a numeral without the zeros at its end; zero keeps one digit. -/
def significantDigits (n : Nat) : List Char :=
  match (numeral n).reverse.dropWhile (· == '0') with
  | [] => ['0']
  | digits => digits.reverse

/-! ## Texts that depend on the reading alone -/

namespace Reading

/-- The words for readings that are not finite. -/
def infinityText (negative : Bool) : List Char :=
  if negative then ['-', 'i', 'n', 'f'] else ['i', 'n', 'f']

/-- The word for an undefined reading. -/
def undefinedText : List Char := ['n', 'a', 'n']

/-- The size, rounded to a number of decimal places, written with all of them. -/
def fixedSize (places : Nat) (size : Rat) : List Char :=
  let units := roundHalfEven (size.num.natAbs * tenPower places) size.den
  if places = 0 then numeral units
  else
    numeral (units / tenPower places) ++ '.' :: paddedNumeral places (units % tenPower places)

/-- The reading with a fixed number of decimal places. The sign is kept when the
size is rounded to zero. -/
def fixed (places : Nat) : Reading → List Char
  | .undefined => undefinedText
  | .infinite negative => infinityText negative
  | .finite negative size => (if negative then ['-'] else []) ++ fixedSize places size

/-- The first `count` significant digits of a positive quotient, rounded, as a
natural number of exactly `count` digits, with the power of ten of the first. -/
def leadingDigits (count num den : Nat) : Nat × Int :=
  let exponent := leadingExponent num den
  let (scaledNum, scaledDen) := scaleByTen num den ((count : Int) - 1 - exponent)
  let units := roundHalfEven scaledNum scaledDen
  if units = tenPower count then (tenPower (count - 1), exponent + 1) else (units, exponent)

/-- The reading with at most `count` significant digits in the given layout. -/
def significant (count : Nat) (layout : Layout) : Reading → List Char
  | .undefined => undefinedText
  | .infinite negative => infinityText negative
  | .finite negative size =>
    if size.num = 0 then layout.write negative ['0'] 0
    else
      let (units, exponent) := leadingDigits count size.num.natAbs size.den
      layout.write negative (significantDigits units) exponent

end Reading

end SimplexSolver
