/-!
# Blank characters

Blanks separate the numbers of a coefficient list and are dropped at both ends of
a number. Besides the characters that print as space, the line and page breaks
and the four separators of old character sets are blank; the characters of width
zero are not.
-/

set_option autoImplicit false

namespace SimplexSolver.Text

/-- The ranges of blank code points, in increasing order. -/
def blankRanges : List (Nat × Nat) := [
  (0x9, 0xD), (0x1C, 0x20), (0x85, 0x85), (0xA0, 0xA0), (0x1680, 0x1680), (0x2000, 0x200A),
  (0x2028, 0x2029), (0x202F, 0x202F), (0x205F, 0x205F), (0x3000, 0x3000)]

/-- Whether a code point lies in one of the ranges. -/
def inRanges (ranges : List (Nat × Nat)) (code : Nat) : Bool :=
  ranges.any fun range => range.1 ≤ code && code ≤ range.2

/-- Whether the character is blank. -/
def isBlank (c : Char) : Bool := inRanges blankRanges c.toNat

/-- The text without the characters at both ends that satisfy the test. -/
def stripBy (test : Char → Bool) (text : List Char) : List Char :=
  ((text.dropWhile test).reverse.dropWhile test).reverse

/-- The text without blanks at both ends. -/
def strip (text : List Char) : List Char := stripBy isBlank text

/-- The words of a text: its longest runs of characters that are not blank.
`current` is the word being read, last character first. -/
def wordsFrom (current : List Char) : List Char → List (List Char)
  | [] => if current.isEmpty then [] else [current.reverse]
  | c :: rest =>
    if isBlank c then
      if current.isEmpty then wordsFrom [] rest else current.reverse :: wordsFrom [] rest
    else wordsFrom (c :: current) rest

/-- The words of a text. -/
def words (text : List Char) : List (List Char) := wordsFrom [] text

end SimplexSolver.Text
