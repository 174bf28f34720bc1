import SimplexSolver.Number.Reading

/-!
# Scalars

The simplex method needs very little of the numbers in a tableau: the four
operations, negation, absolute value, three comparisons, and whether a result is
finite. `Scalar` collects these, together with what reading and writing numbers
needs: the exact value of a scalar, the nearest scalar to a rational number, and
a text that identifies a scalar.

No law is assumed. Rounded arithmetic satisfies few of the laws of a field, and
the statements that hold whatever the arithmetic is are stated for any scalar.
The rational numbers are the exact instance, given here; double precision is the
instance the programs run on.

Comparisons are Boolean because an undefined scalar compares as false with
everything, itself included.
-/

set_option autoImplicit false

namespace SimplexSolver

/-- Numbers a tableau can be filled with. -/
class Scalar (α : Type) extends Zero α, One α, Add α, Sub α, Mul α, Div α, Neg α where
  /-- The absolute value. -/
  magnitude : α → α
  /-- Strictly below. -/
  lt : α → α → Bool
  /-- Below or equal. -/
  le : α → α → Bool
  /-- Numerically equal: the two zeros are, an undefined scalar is equal to none. -/
  same : α → α → Bool
  /-- Neither infinite nor undefined. -/
  isFinite : α → Bool
  /-- The exact value. -/
  reading : α → Reading
  /-- The scalar nearest to a rational number; infinite when none is near. -/
  ofRat : Rat → α
  /-- The scalar nearest to `digits * 10 ^ exponent`. -/
  decimal : (digits : Nat) → (exponent : Int) → α
  /-- Whether the direction `(x₁, y₁)` comes strictly before the direction
  `(x₂, y₂)` when directions turn counter-clockwise from the negative first axis. -/
  turnsBefore : (x₁ y₁ x₂ y₂ : α) → Bool
  /-- A text that identifies the scalar. -/
  text : α → List Char

namespace Scalar

variable {α : Type} [Scalar α]

/-- Strictly above. -/
@[inline] def gt (a b : α) : Bool := lt b a

/-- Above or equal. -/
@[inline] def ge (a b : α) : Bool := le b a

/-- Whether the scalar is undefined. -/
def isUndefined (value : α) : Bool :=
  match reading value with
  | .undefined => true
  | _ => false

/-- The scalar nearest to a rational number, unless the number is too large. -/
def ofRat? (value : Rat) : Option α :=
  let nearest : α := ofRat value
  if isFinite nearest then some nearest else none

/-- The scalar of an integer, unless the integer is too large. -/
def ofInt? (value : Int) : Option α := ofRat? (value : Rat)

/-- The scalar of a natural number. -/
def ofNat (value : Nat) : α := decimal value 0

/-- The scalar rounded to a number of decimal places, a half to the even digit.
The sign is kept when the result is zero, and a scalar that is not finite stays. -/
def roundTo (places : Nat) (value : α) : α :=
  match reading value with
  | .finite negative size =>
    let units := roundHalfEven (size.num.natAbs * tenPower places) size.den
    let rounded : α := ofRat (mkRat units (tenPower places))
    if negative then -rounded else rounded
  | _ => value

/-- The larger of two scalars; the first one unless the second is strictly above. -/
def larger (a b : α) : α := if lt a b then b else a

/-- The sum of the products of two lists, taken from the left. -/
def dot (left right : List α) : α :=
  (List.zipWith (· * ·) left right).foldl (· + ·) 0

end Scalar

/-! ## Exact scalars -/

namespace Exact

/-- Which of the four parts of a turn a direction lies in: below the first axis,
on its positive half, above it, on its negative half. -/
def turnPart (x y : Rat) : Nat :=
  if y < 0 then 0 else if 0 < y then 2 else if x < 0 then 3 else 1

/-- Directions in one part of a turn are ordered by the sign of their cross
product; otherwise the parts decide. -/
def turnsBefore (x₁ y₁ x₂ y₂ : Rat) : Bool :=
  let first := turnPart x₁ y₁
  let second := turnPart x₂ y₂
  if first = second then decide (0 < x₁ * y₂ - x₂ * y₁) else decide (first < second)

/-- Ten to a signed power. -/
def powerOfTen : Int → Rat
  | .ofNat power => ((tenPower power : Nat) : Rat)
  | .negSucc power => mkRat 1 (tenPower (power + 1))

/-- The numerator, and the denominator when it is not one. -/
def text (value : Rat) : List Char :=
  if value.den = 1 then integerNumeral value.num
  else integerNumeral value.num ++ '/' :: numeral value.den

end Exact

/-- Rational numbers, with exact arithmetic. -/
instance : Scalar Rat where
  zero := 0
  one := 1
  add := (· + ·)
  sub := (· - ·)
  mul := (· * ·)
  div := (· / ·)
  neg := (- ·)
  magnitude value := if value < 0 then -value else value
  lt a b := decide (a < b)
  le a b := decide (a ≤ b)
  same a b := decide (a = b)
  isFinite _ := true
  reading := Reading.ofRat
  ofRat value := value
  decimal digits exponent := (digits : Rat) * Exact.powerOfTen exponent
  turnsBefore := Exact.turnsBefore
  text := Exact.text

end SimplexSolver
