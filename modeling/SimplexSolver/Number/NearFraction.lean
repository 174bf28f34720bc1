import SimplexSolver.Number.Rounding

/-!
# The nearest fraction with a bounded denominator

For each denominator the nearest numerator is found by rounding. Going through
the denominators from one upwards and keeping the first fraction that is strictly
nearer than all before it gives a nearest fraction in lowest terms, and of two
equally near ones the one with the smaller denominator.

The value is a non-negative quotient `num / den`. The distance of `p / q` from it
is `|num * q - p * den| / (den * q)`, so two distances are compared by their
numerators, each times the other denominator.
-/

set_option autoImplicit false

namespace SimplexSolver

/-- A fraction next to a value: numerator, denominator, and the distance from the
value in units of one over the product of the two denominators. -/
structure NearFraction where
  numerator : Nat
  denominator : Nat
  distance : Nat
  deriving DecidableEq, Repr

namespace NearFraction

/-- The nearest fraction to `num / den` with the given denominator. -/
def atDenominator (num den denominator : Nat) : NearFraction where
  numerator := roundHalfEven (num * denominator) den
  denominator := denominator
  distance :=
    ((num * denominator : Int) - (roundHalfEven (num * denominator) den * den : Int)).natAbs

/-- Whether the first fraction is strictly nearer to the value than the second. -/
def nearer (first second : NearFraction) : Bool :=
  first.distance * second.denominator < second.distance * first.denominator

/-- The nearest fraction to `num / den` among those with a denominator up to
`bound + 1`. -/
def nearest (num den : Nat) : (bound : Nat) → NearFraction
  | 0 => atDenominator num den 1
  | bound + 1 =>
    let best := nearest num den bound
    let candidate := atDenominator num den (bound + 2)
    if nearer candidate best then candidate else best

end NearFraction

end SimplexSolver
