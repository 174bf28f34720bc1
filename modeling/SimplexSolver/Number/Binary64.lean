import SimplexSolver.Number.Scalar
import SimplexSolver.Number.Shortest

/-!
# Double precision scalars

A double is read through its bit pattern: a sign, an exponent field and a
fraction field stand for a whole mantissa times a power of two. In the other
direction a rational number is rounded to the nearest double, a half to the even
mantissa, with gradual loss of digits below the smallest normal number and
infinity above the largest finite one.

Both directions are exact arithmetic on integers. The instance `Scalar Float`
takes the operations from the machine and everything that concerns the value of
a double from here.

Doubles are written with the fewest digits that identify them: positionally when
the first digit stands for `10 ^ -4` up to `10 ^ 15`, and otherwise with an
exponent. A whole number written positionally ends in `.0`.
-/

set_option autoImplicit false

namespace SimplexSolver.Binary64

/-! ## Taking a double apart -/

/-- The mantissa and the exponent of the last mantissa bit of a finite double. -/
structure Parts where
  negative : Bool
  mantissa : Nat
  exponent : Int

/-- Number of stored mantissa bits. -/
def fractionBits : Nat := 52

/-- The exponent of the last bit of the smallest doubles. -/
def lowestExponent : Int := -1074

/-- Sign bit, exponent field and fraction field. -/
def fields (value : Float) : Bool × Nat × Nat :=
  let bits := value.toBits.toNat
  (decide (twoPower 63 ≤ bits), bits / twoPower fractionBits % twoPower 11,
    bits % twoPower fractionBits)

/-- The whole mantissa and exponent of a double whose fields are those of a finite
number. An exponent field of zero has no hidden leading bit. -/
def partsOfFields (negative : Bool) (power fraction : Nat) : Parts where
  negative := negative
  mantissa := if power = 0 then fraction else fraction + twoPower fractionBits
  exponent := (if power = 0 then 1 else power : Nat) + (lowestExponent - 1)

/-- The size of a finite double. -/
def Parts.size (parts : Parts) : Rat :=
  match parts.exponent with
  | .ofNat power => ((parts.mantissa * twoPower power : Nat) : Rat)
  | .negSucc power => mkRat parts.mantissa (twoPower (power + 1))

/-- What a double stands for. -/
def reading (value : Float) : Reading :=
  let (negative, power, fraction) := fields value
  if power = 2047 then
    if fraction = 0 then .infinite negative else .undefined
  else .finite negative (partsOfFields negative power fraction).size

/-! ## The nearest double -/

/-- The bit pattern of positive infinity. -/
def infinityBits : Nat := 2047 * twoPower fractionBits

/-- The exponent of the leading binary digit of a positive quotient. -/
def leadingBit (num den : Nat) : Int :=
  let guess : Int := (num.log2 : Int) - (den.log2 : Int)
  let reached : Bool := match guess with
    | .ofNat power => decide (den * twoPower power ≤ num)
    | .negSucc power => decide (den ≤ num * twoPower (power + 1))
  if reached then guess else guess - 1

/-- The bit pattern of the double nearest to the quotient `num / den`.

The mantissa is the quotient in units of its last place. A mantissa that is
rounded up to the next power of two carries into the exponent field, which is the
right pattern for it. -/
def nearestBits (num den : Nat) : Nat :=
  if num = 0 then 0
  else
    let exponent := max (leadingBit num den) (lowestExponent + fractionBits)
    let mantissa := match exponent - fractionBits with
      | .ofNat power => roundHalfEven num (den * twoPower power)
      | .negSucc power => roundHalfEven (num * twoPower (power + 1)) den
    let field := (exponent - (lowestExponent + fractionBits)).toNat
    min (field * twoPower fractionBits + mantissa) infinityBits

/-- The double nearest to a rational number. -/
def nearest (value : Rat) : Float :=
  let bits := nearestBits value.num.natAbs value.den
  Float.ofBits (UInt64.ofNat (if value.num < 0 then bits + twoPower 63 else bits))

/-- The double nearest to `digits * 10 ^ exponent`. Numbers far outside the range
of doubles are decided by their number of digits. -/
def decimal (digits : Nat) (exponent : Int) : Float :=
  let leading := (numeralLength digits : Int) + exponent
  if digits = 0 || leading < -400 then Float.ofBits 0
  else if 400 < leading then Float.ofBits (UInt64.ofNat infinityBits)
  else
    let (num, den) := scaleByTen digits 1 exponent
    Float.ofBits (UInt64.ofNat (nearestBits num den))

/-! ## Writing doubles -/

/-- The layout of doubles. -/
def layout : Layout where
  positionalFrom := -4
  positionalBelow := 16
  wholeMark := ['.', '0']

/-- The reals that are rounded to a double, in quarters of its last place. Below a
power of two the neighbour is half as far away. -/
def Parts.span (parts : Parts) : Shortest.Span :=
  let atPower := parts.mantissa = twoPower fractionBits ∧ lowestExponent < parts.exponent
  let (num, den) := match parts.exponent - 2 with
    | .ofNat power => (twoPower power, 1)
    | .negSucc power => (1, twoPower (power + 1))
  { low := if atPower then 4 * parts.mantissa - 1 else 4 * parts.mantissa - 2
    mid := 4 * parts.mantissa
    high := 4 * parts.mantissa + 2
    closed := parts.mantissa % 2 == 0
    num := num
    den := den }

/-- The shortest text that identifies a double. -/
def text (value : Float) : List Char :=
  let (negative, power, fraction) := fields value
  if power = 2047 then
    if fraction = 0 then Reading.infinityText negative else Reading.undefinedText
  else
    let parts := partsOfFields negative power fraction
    if parts.mantissa = 0 then layout.write negative ['0'] 0
    else
      let (units, exponent) := parts.span.shortest
      layout.write negative (significantDigits units) exponent

end SimplexSolver.Binary64

namespace SimplexSolver

/-- Doubles, with the arithmetic of the machine. -/
instance : Scalar Float where
  zero := 0.0
  one := 1.0
  add := (· + ·)
  sub := (· - ·)
  mul := (· * ·)
  div := (· / ·)
  neg := (- ·)
  magnitude := Float.abs
  lt a b := decide (a < b)
  le a b := decide (a ≤ b)
  same a b := a == b
  isFinite := Float.isFinite
  reading := Binary64.reading
  ofRat := Binary64.nearest
  decimal := Binary64.decimal
  turnsBefore x₁ y₁ x₂ y₂ := decide (Float.atan2 y₁ x₁ < Float.atan2 y₂ x₂)
  text := Binary64.text

end SimplexSolver
