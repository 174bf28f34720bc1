/-!
# Causes of failure

A failure is recorded by its cause, and each cause has one wording. Three kinds
carry a message that is shown to the user: a problem that has no starting tableau
(`Rejection`), a pivot that cannot be trusted (`Instability`), and a value that
does not have the form an operation needs (`Complaint`). The remaining kinds are
mistakes in the use of an operation, such as an index outside a table.

The solver turns rejections and instabilities into the status of its answer.
Every other failure ends the operation that met it: computations in turn succeed
exactly if all of them do (`exists_of_bind_eq_ok`, `bind_eq_ok`).
-/

set_option autoImplicit false

namespace SimplexSolver

/-! ## Problems without a starting tableau -/

/-- Why a problem cannot be put into standard form. Constraints are counted from
one. -/
inductive Rejection where
  | unknownDirection (name : String)
  | noVariables
  | objectiveLength (found : Nat) (expected : String)
  | objectiveNotFinite
  | constraintLength (index found : Nat) (expected : String)
  | constraintNotFinite (index : Nat)
  | unsupportedRelation (index : Nat) (symbol : String)
  | negativeBound (index : Nat) (bound : String)
  | noUpperForm (index : Nat) (symbol bound : String)
  | unknownRelation (index : Nat) (symbol : String)
  deriving DecidableEq, Repr

/-- The wording of a rejection. -/
def Rejection.message : Rejection → String
  | unknownDirection name => s!"Unknown optimization direction '{name}'"
  | noVariables => "At least one decision variable is required"
  | objectiveLength found expected => s!"Objective has {found} coefficients, expected {expected}"
  | objectiveNotFinite => "Objective coefficients must be finite numbers"
  | constraintLength index found expected =>
    s!"Constraint {index} has {found} coefficients, expected {expected}"
  | constraintNotFinite index => s!"Constraint {index} values must be finite numbers"
  | unsupportedRelation index symbol =>
    s!"Constraint {index} uses '{symbol}'; only '<=' constraints are supported"
  | negativeBound index bound =>
    s!"Constraint {index} has negative RHS {bound}; " ++
      "negative right-hand sides need a two-phase method"
  | noUpperForm index symbol bound =>
    s!"Constraint {index} ('{symbol}' with RHS {bound}) " ++
      "cannot be rewritten as a '<=' constraint with non-negative RHS"
  | unknownRelation index symbol => s!"Constraint {index} has unknown operator '{symbol}'"

/-! ## Pivots that cannot be trusted -/

/-- Why a pivot was refused. -/
inductive Instability where
  /-- The pivot element is too close to zero. Row and column are counted from one. -/
  | tooSmall (element : String) (row column : Int)
  | notFinite
  deriving DecidableEq, Repr

/-- The wording of an instability. -/
def Instability.message : Instability → String
  | tooSmall element row column =>
    s!"Pivot element np.float64({element}) at row {row}, column {column} is too close to zero"
  | notFinite => "Pivot produced a non-finite tableau value"

/-! ## Values of the wrong form -/

/-- Why a value was not accepted. -/
inductive Complaint where
  | unknownSettings (names : List String)
  | epsilonNotPositive
  | negativeLimit
  | factorBelowOne
  | unknownRule (name : String)
  | listLengths (rows relations bounds : Nat)
  | notTwoDimensional
  | raggedRows (count : Nat)
  | rowLabelCount
  | columnLabelCount
  | incompleteChoice
  | labelNotFound
  | tooManyDigits (count : Nat)
  | notNumeral (quoted : String)
  | undefinedRatio
  | invalidTerm (text : String)
  | invalidCoefficient (text : String)
  | outsideVariables (number : String) (count : Int)
  | coefficientCount (expected : Int) (found : Nat)
  | invalidBound (index : Nat) (text : String)
  | unknownStatus (quoted : String)
  | tooFewCoefficients (found : Nat)
  | tooManyCoefficients
  | misaligned (left right : Nat)
  | unboundedAxis
  deriving DecidableEq, Repr

/-- The longest numeral that is converted to an integer. -/
def digitLimit : Nat := 4300

/-- The wording of a complaint. -/
def Complaint.message : Complaint → String
  | unknownSettings names => "Unknown solver settings: " ++ ", ".intercalate names
  | epsilonNotPositive => "epsilon must be positive"
  | negativeLimit => "max_iterations cannot be negative"
  | factorBelowOne => "iteration_factor must be at least 1"
  | unknownRule name => s!"Unknown pivot rule '{name}', expected one of ('dantzig', 'bland')"
  | listLengths rows relations bounds =>
    s!"Got {rows} coefficient rows, {relations} operators and {bounds} right-hand sides"
  | notTwoDimensional => "tableau values must be two-dimensional"
  | raggedRows count =>
    "setting an array element with a sequence. The requested array has an inhomogeneous " ++
      s!"shape after 1 dimensions. The detected shape was ({count},) + inhomogeneous part."
  | rowLabelCount => "one label is required per constraint row"
  | columnLabelCount => "one label is required per column"
  | incompleteChoice => "pivot needs both an entering column and a leaving row"
  | labelNotFound => "tuple.index(x): x not in tuple"
  | tooManyDigits count =>
    s!"Exceeds the limit ({digitLimit} digits) for integer string conversion: value has " ++
      s!"{count} digits; use sys.set_int_max_str_digits() to increase the limit"
  | notNumeral quoted => s!"could not convert string to float: {quoted}"
  | undefinedRatio => "cannot convert NaN to integer ratio"
  | invalidTerm text => s!"Invalid term '{text}'"
  | invalidCoefficient text => s!"Invalid coefficient '{text}'"
  | outsideVariables number count => s!"x{number} is outside x1..x{count}"
  | coefficientCount expected found => s!"Expected {expected} coefficients, got {found}"
  | invalidBound index text => s!"Constraint {index}: invalid right-hand side '{text}'"
  | unknownStatus quoted => s!"{quoted} is not a valid Status"
  | tooFewCoefficients found => s!"not enough values to unpack (expected 2, got {found})"
  | tooManyCoefficients => "too many values to unpack (expected 2)"
  | misaligned left right =>
    s!"shapes ({left},) and ({right},) not aligned: {left} (dim 0) != {right} (dim 0)"
  | unboundedAxis => "Axis limits cannot be NaN or Inf"

/-! ## All failures -/

/-- What can go wrong in an operation. -/
inductive Failure where
  | rejected (cause : Rejection)
  | unstable (cause : Instability)
  | invalid (cause : Complaint)
  /-- Values of kinds that do not go together. -/
  | wrongKind
  /-- An index outside its table. -/
  | outOfRange
  /-- A number too large for a scalar. -/
  | tooLarge
  /-- Something that was needed is not there. -/
  | absent
  /-- A name nobody has introduced. -/
  | unknownName
  deriving DecidableEq, Repr

/-- The wording shown to the user, for the failures that have one. -/
def Failure.message? : Failure → Option String
  | rejected cause => some cause.message
  | unstable cause => some cause.message
  | invalid cause => some cause.message
  | _ => none

/-! ## Computations that succeed -/

/-- A computation of two parts that succeeds consists of two that succeed. -/
theorem exists_of_bind_eq_ok {ε α β : Type} {first : Except ε α} {second : α → Except ε β}
    {result : β} (succeeds : first >>= second = .ok result) :
    ∃ value, first = .ok value ∧ second value = .ok result := by
  cases first with
  | error failure => cases succeeds
  | ok value => exact ⟨value, rfl, succeeds⟩

/-- Two computations that succeed in turn make one that succeeds. -/
theorem bind_eq_ok {ε α β : Type} {first : Except ε α} {second : α → Except ε β} {value : α}
    {result : β} (succeeds : first = .ok value) (goesOn : second value = .ok result) :
    first >>= second = .ok result := by
  rw [succeeds]
  exact goesOn

/-- A computation whose value is replaced by another one gives that one. -/
theorem eq_of_map_const {ε α β : Type} {first : Except ε α} {value result : β}
    (succeeds : first.map (fun _ => value) = .ok result) : value = result := by
  cases first with
  | error failure => cases succeeds
  | ok _ => exact Except.ok.inj succeeds

/-- A result that can be seen was not a failure. -/
theorem ok_of_toOption {α ε : Type} {result : Except ε α} {value : α}
    (seen : result.toOption = some value) : result = .ok value := by
  cases result with
  | error failure => simp [Except.toOption] at seen
  | ok found => rw [Option.some.inj seen]

/-- What is seen of the result of a computation holds of the value it gives. -/
theorem eq_of_seen {ε α β : Type} {result : Except ε α} {value : α} {view : α → β} {seen : β}
    (succeeds : result = .ok value) (shown : result.toOption.map view = some seen) :
    view value = seen := by
  rw [succeeds] at shown
  exact Option.some.inj shown

end SimplexSolver
