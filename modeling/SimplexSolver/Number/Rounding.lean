/-!
# Rounding a quotient, and the decimal digits of a natural number

Every text this library writes for a number, and every number it reads from a
text, goes through one exact step: a quotient of two natural numbers is replaced
by the nearest natural number, and a quotient that lies exactly half way goes to
the even neighbour. This module holds that step (`roundHalfEven`), the decimal
numeral of a natural number (`numeral`), and the position of the leading decimal
digit of a positive quotient (`leadingExponent`).

All of it is arithmetic on natural numbers, so nothing here depends on how a
scalar is represented.
-/

set_option autoImplicit false

namespace SimplexSolver

/-! ## Nearest integers -/

/-- The natural number nearest to `num / den`; an exact half goes to the even
neighbour. -/
def roundHalfEven (num den : Nat) : Nat :=
  let floor := num / den
  let rest := num % den
  if 2 * rest < den then floor
  else if den < 2 * rest then floor + 1
  else if floor % 2 = 0 then floor
  else floor + 1

/-! ## Powers of ten and two -/

/-- Ten to a power. -/
def tenPower (power : Nat) : Nat := Nat.pow 10 power

/-- Two to a power. -/
def twoPower (power : Nat) : Nat := Nat.pow 2 power

theorem tenPower_zero : tenPower 0 = 1 := rfl

theorem tenPower_succ (power : Nat) : tenPower (power + 1) = tenPower power * 10 := rfl

/-- A power of ten is positive. -/
theorem tenPower_pos (power : Nat) : 0 < tenPower power := Nat.pow_pos (by decide)

/-- A power of two is positive. -/
theorem twoPower_pos (power : Nat) : 0 < twoPower power := Nat.pow_pos (by decide)

/-! ## Scaling by powers of ten -/

/-- The quotient `num / den` multiplied by ten to a signed power, as a quotient. -/
def scaleByTen (num den : Nat) : Int → Nat × Nat
  | .ofNat power => (num * tenPower power, den)
  | .negSucc power => (num, den * tenPower (power + 1))

/-! ## Decimal numerals -/

/-- The decimal numeral of a natural number, without leading zeros. -/
def numeral (n : Nat) : List Char := Nat.toDigits 10 n

/-- The number of digits in the decimal numeral. -/
def numeralLength (n : Nat) : Nat := (numeral n).length

/-- The numeral filled with zeros on the left up to a width. -/
def paddedNumeral (width n : Nat) : List Char :=
  List.replicate (width - numeralLength n) '0' ++ numeral n

/-- The decimal numeral of an integer, with a minus sign when it is negative. -/
def integerNumeral : Int → List Char
  | .ofNat n => numeral n
  | .negSucc n => '-' :: numeral (n + 1)

/-- The power of ten of the leading digit of `num / den`: the largest `e` with
`10 ^ e ≤ num / den`, for positive `num` and `den`.

A quotient of a number of `a` digits by one of `b` digits lies strictly between
`10 ^ (a - b - 1)` and `10 ^ (a - b + 1)`, so only two exponents are possible. -/
def leadingExponent (num den : Nat) : Int :=
  let guess : Int := (numeralLength num : Int) - (numeralLength den : Int)
  let (scaledNum, scaledDen) := scaleByTen num den (-guess)
  if scaledDen ≤ scaledNum then guess else guess - 1

end SimplexSolver
