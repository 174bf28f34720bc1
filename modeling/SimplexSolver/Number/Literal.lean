import SimplexSolver.Number.Scalar
import SimplexSolver.Text.Blank
import SimplexSolver.Text.Digit

/-!
# Decimal literals

The grammar of a decimal number as people write it: an optional sign, digits of
any script with at most one point, and an optional power of ten. A low line may
stand between two digits. The words for infinity and for an undefined number are
literals too, in any mixture of cases, and blanks around the literal are dropped.

Reading a literal (`Literal.read`) is separate from choosing a scalar for it
(`Literal.toScalar?`): a literal has an exact value, which may be too large for a
scalar.
-/

set_option autoImplicit false

namespace SimplexSolver

/-- A number as it is written. -/
inductive Literal where
  /-- The number `digits * 10 ^ exponent`, with a sign. -/
  | decimal (negative : Bool) (digits : Nat) (exponent : Int)
  | infinite (negative : Bool)
  | undefined
  deriving DecidableEq, Repr

namespace Literal

open Text

/-- Blanks that may stand around a literal: all but the old separators. -/
def isMargin (c : Char) : Bool := isBlank c && !inRanges [(0x1C, 0x1F)] c.toNat

/-- The text without low lines, each of which has to stand between two digits. -/
def dropLowLines (afterDigit : Bool) : List Char → Option (List Char)
  | [] => some []
  | [c] => if c = '_' then none else some [c]
  | c :: next :: rest =>
    if c = '_' then
      if afterDigit && isDigit next then dropLowLines false (next :: rest) else none
    else (dropLowLines (isDigit c) (next :: rest)).map (c :: ·)

/-- The sign at the front of a text, and what follows it. -/
def takeSign : List Char → Bool × List Char
  | '+' :: rest => (false, rest)
  | '-' :: rest => (true, rest)
  | text => (false, text)

/-- The digits at the front of a text, and what follows them. -/
def takeDigits (text : List Char) : List Char × List Char :=
  (text.takeWhile isDigit, text.dropWhile isDigit)

/-- The power of ten at the end of a literal: nothing, or a mark, an optional sign
and digits. -/
def readExponent : List Char → Option Int
  | [] => some 0
  | mark :: rest =>
    if mark = 'e' || mark = 'E' then
      let (negative, rest) := takeSign rest
      match takeDigits rest with
      | ([], _) => none
      | (digits, []) =>
        let value : Int := digitsValue digits
        some (if negative then -value else value)
      | _ => none
    else none

/-- Digits with at most one point and at least one digit, then a power of ten. -/
def readDecimal (negative : Bool) (text : List Char) : Option Literal :=
  let (whole, rest) := takeDigits text
  let (fraction, rest) := match rest with
    | '.' :: rest => takeDigits rest
    | rest => ([], rest)
  if whole.isEmpty && fraction.isEmpty then none
  else (readExponent rest).map fun exponent =>
    .decimal negative (digitsValue (whole ++ fraction)) (exponent - fraction.length)

/-- Whether a text is one of the words, in any mixture of cases. -/
def isWord (words : List String) (text : List Char) : Bool :=
  words.any fun word => word.toList == text.map Char.toLower

/-- The literal a text is, if it is one. -/
def read (text : List Char) : Option Literal :=
  match dropLowLines false (stripBy isMargin text) with
  | none => none
  | some text =>
    let (negative, rest) := takeSign text
    if isWord ["inf", "infinity"] rest then some (.infinite negative)
    else if isWord ["nan"] rest then some .undefined
    else readDecimal negative rest

/-- The scalar nearest to a literal, unless the literal is not a finite number or
is too large. -/
def toScalar? {α : Type} [Scalar α] : Literal → Option α
  | .decimal negative digits exponent =>
    let size : α := Scalar.decimal digits exponent
    let value := if negative then -size else size
    if Scalar.isFinite value then some value else none
  | _ => none

end Literal

end SimplexSolver
