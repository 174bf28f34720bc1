import SimplexSolver.Number.Reading

/-!
# The fewest digits that identify a number

A rounded number stands for every real in an interval around it. Among the
decimals in that interval the ones with the fewest significant digits are the
shortest names of the number, and the nearest of those is the one written.

The interval is given by three whole multiples `low ≤ mid ≤ high` of one positive
quotient `num / den`; `closed` says whether its ends belong to it. For one digit,
then two, and so on, the two decimals next to the middle are tried. If any
decimal with that many digits lies in the interval, one of these two does, so the
first count with a hit is the least. Everything is decided in natural numbers.
-/

set_option autoImplicit false

namespace SimplexSolver.Shortest

/-- An interval around a number, in multiples of `num / den`. -/
structure Span where
  low : Nat
  mid : Nat
  high : Nat
  closed : Bool
  num : Nat
  den : Nat

/-- Whether `count` steps of the decimal grid lie in the span. Grid and span are
first brought to a common unit: `count * step` is compared with the ends times
`unit`. -/
def Span.covers (span : Span) (unit step count : Nat) : Bool :=
  if span.closed then
    decide (span.low * unit ≤ count * step) && decide (count * step ≤ span.high * unit)
  else
    decide (span.low * unit < count * step) && decide (count * step < span.high * unit)

/-- The nearest of the two multiples of ten to the `power` around the middle that
lie in the span, as a number of steps; an exact tie goes to the even one. -/
def Span.onGrid? (span : Span) (power : Int) : Option Nat :=
  let (gridNum, gridDen) := scaleByTen 1 1 power
  let unit := span.num * gridDen
  let step := gridNum * span.den
  let middle := span.mid * unit
  let below := middle / step
  let above := below + 1
  match span.covers unit step below, span.covers unit step above with
  | true, true =>
    let down := middle - below * step
    let up := above * step - middle
    some (if down < up then below else if up < down then above
      else if below % 2 = 0 then below else above)
  | true, false => some below
  | false, true => some above
  | false, false => none

/-- The most digits a double ever needs. -/
def mostDigits : Nat := 17

/-- The shortest digits in the span, as a whole number together with the power of
ten of its first digit. Past `mostDigits` the middle is cut off. -/
def Span.shortest (span : Span) : Nat × Int :=
  let exponent := leadingExponent (span.mid * span.num) span.den
  let found := (List.range mostDigits).findSome? fun (count : Nat) =>
    (span.onGrid? (exponent - count)).map fun units => (units, count)
  let (units, count) := found.getD
    (let (num, den) := scaleByTen (span.mid * span.num) span.den (mostDigits - exponent)
     (num / den, mostDigits))
  (units, exponent + numeralLength units - (count + 1))

end SimplexSolver.Shortest
