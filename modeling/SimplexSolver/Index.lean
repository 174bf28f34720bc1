import SimplexSolver.Failure

/-!
# Positions in a list

A position is an integer. Positions from zero on count from the front, negative
ones from the end: minus one is the last place. A position outside the list is a
failure.
-/

set_option autoImplicit false

namespace SimplexSolver

/-- The place, counted from the front, that a position means in a list of the
given length. -/
def place? (length : Nat) (position : Int) : Option Nat :=
  match position with
  | .ofNat index => if index < length then some index else none
  | .negSucc back => if back < length then some (length - 1 - back) else none

/-- The place of a position, or a failure. -/
def place (length : Nat) (position : Int) : Except Failure Nat :=
  match place? length position with
  | some index => .ok index
  | none => .error .outOfRange

/-- The item of a list at a position. -/
def itemAt {β : Type} (items : List β) (position : Int) : Except Failure β := do
  let index ← place items.length position
  match items[index]? with
  | some item => return item
  | none => throw .outOfRange

/-- A position within the list means a place within it. -/
theorem place?_lt {length index : Nat} {position : Int}
    (found : place? length position = some index) : index < length := by
  unfold place? at found
  split at found
  · split at found
    · simp only [Option.some.injEq] at found
      omega
    · simp at found
  · split at found
    · simp only [Option.some.injEq] at found
      omega
    · simp at found

/-- A place within the list, as a position, means itself. -/
theorem place?_natCast {length index : Nat} (inside : index < length) :
    place? length (index : Int) = some index := by
  simp [place?, inside]

/-- A place within a list, as a position, is where its item is. -/
theorem itemAt_natCast {β : Type} {items : List β} {index : Nat} (inside : index < items.length) :
    itemAt items (index : Int) = .ok items[index] := by
  simp [itemAt, place, place?_natCast inside, bind, Except.bind, pure, Except.pure, inside]

end SimplexSolver
