import SimplexSolver.Failure
import SimplexSolver.Number.Scalar
import SimplexSolver.Text.Quoted

/-!
# Values as they arrive

Form fields and solver settings are filled in freely: a field may be missing, a
switch, a whole number, a scalar, a text, or a list of such values. `Value` keeps
what arrived, and each reader decides what it accepts. A value has one text, in
which only the values inside a list are quoted.

A `Quantity` is a value that counts as a number: a switch counts as zero or one.
Quantities are compared by their exact value, so a whole number of any size can
be compared with a scalar. A `Count` is a quantity without a fractional form.
-/

set_option autoImplicit false

namespace SimplexSolver

/-- A value as it arrives from a form or a settings file. -/
inductive Value (α : Type) where
  | missing
  | flag (on : Bool)
  | integer (number : Int)
  | real (number : α)
  | text (content : String)
  | list (items : List (Value α))
  | tuple (items : List (Value α))

instance {α : Type} : Inhabited (Value α) := ⟨.missing⟩

/-- The word for a switch. -/
def flagText (on : Bool) : List Char :=
  if on then ['T', 'r', 'u', 'e'] else ['F', 'a', 'l', 's', 'e']

namespace Value

variable {α : Type} [Scalar α]

mutual

/-- A value inside a list: as its text, with texts in quotes. -/
def shown : Value α → List Char
  | .missing => ['N', 'o', 'n', 'e']
  | .flag on => flagText on
  | .integer number => integerNumeral number
  | .real number => Scalar.text number
  | .text content => Text.quoted content.toList
  | .list items => '[' :: (shownItems items ++ [']'])
  | .tuple [] => ['(', ')']
  | .tuple [item] => '(' :: (shown item ++ [',', ')'])
  | .tuple items => '(' :: (shownItems items ++ [')'])

/-- Values separated by commas. -/
def shownItems : List (Value α) → List Char
  | [] => []
  | [item] => shown item
  | item :: rest => shown item ++ ',' :: ' ' :: shownItems rest

end

/-- The text of a value. -/
def toText (value : Value α) : String :=
  match value with
  | .text content => content
  | other => String.ofList (shown other)

end Value

/-! ## Quantities -/

/-- A value that counts as a number. -/
inductive Quantity (α : Type) where
  | whole (number : Int)
  | flag (on : Bool)
  | real (number : α)

/-- The value as a quantity, if it counts as a number. -/
def Value.quantity? {α : Type} : Value α → Option (Quantity α)
  | .integer number => some (.whole number)
  | .flag on => some (.flag on)
  | .real number => some (.real number)
  | _ => none

/-- A switch as a number. -/
def flagNumber (on : Bool) : Int := if on then 1 else 0

namespace Quantity

variable {α : Type} [Scalar α]

/-- What the quantity stands for. -/
def reading : Quantity α → Reading
  | .whole number => .ofRat number
  | .flag on => .ofRat (flagNumber on)
  | .real number => Scalar.reading number

/-- Whether the quantity is strictly below an integer. -/
def below (quantity : Quantity α) (bound : Int) : Bool :=
  match quantity.reading with
  | .undefined => false
  | .infinite negative => negative
  | .finite negative size => decide ((if negative then -size else size) < (bound : Rat))

/-- Whether the quantity is below or equal to an integer. -/
def atMost (quantity : Quantity α) (bound : Int) : Bool :=
  match quantity.reading with
  | .undefined => false
  | .infinite negative => negative
  | .finite negative size => decide ((if negative then -size else size) ≤ (bound : Rat))

/-- Whether the quantity is equal to an integer. -/
def equals (quantity : Quantity α) (number : Int) : Bool :=
  match quantity.reading with
  | .finite negative size => decide ((if negative then -size else size) = (number : Rat))
  | _ => false

/-- Whether a scalar is strictly below the quantity. -/
def isAbove (quantity : Quantity α) (value : α) : Bool :=
  match quantity with
  | .real number => Scalar.lt value number
  | other => match Scalar.reading value, other.reading.toRat? with
    | .infinite negative, _ => negative
    | .finite negative size, some bound => decide ((if negative then -size else size) < bound)
    | _, _ => false

/-- The quantity as a scalar. -/
def toScalar : Quantity α → Except Failure α
  | .whole number => match Scalar.ofInt? number with
    | some value => .ok value
    | none => .error .tooLarge
  | .flag on => .ok (if on then 1 else 0)
  | .real number => .ok number

/-- The quantity times an integer. -/
def times (quantity : Quantity α) (factor : Int) : Except Failure (Quantity α) :=
  match quantity with
  | .whole number => .ok (.whole (number * factor))
  | .flag on => .ok (.whole (flagNumber on * factor))
  | .real number => do
    let scalar ← toScalar (.whole factor)
    return .real (number * scalar)

/-- The text of a quantity. -/
def toText : Quantity α → String
  | .whole number => String.ofList (integerNumeral number)
  | .flag on => String.ofList (flagText on)
  | .real number => String.ofList (Scalar.text number)

end Quantity

/-! ## Counts -/

/-- A number of things, given as a whole number or as a switch. -/
inductive Count where
  | whole (number : Int)
  | flag (on : Bool)
  deriving DecidableEq, Repr

/-- The number of things. -/
def Count.toInt : Count → Int
  | .whole number => number
  | .flag on => flagNumber on

/-- The number of things, where a negative number counts as zero. -/
def Count.toNat (count : Count) : Nat := count.toInt.toNat

/-- The value as a count, if it is a whole number or a switch. -/
def Value.count? {α : Type} : Value α → Option Count
  | .integer number => some (.whole number)
  | .flag on => some (.flag on)
  | _ => none

end SimplexSolver
