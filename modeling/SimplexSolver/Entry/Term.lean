import SimplexSolver.Number.Literal

/-!
# Terms of a linear expression

A term is an optional sign, an optional coefficient, an optional asterisk, the
letter `x`, and the digits of a variable number. The coefficient is a quotient of
two digit runs or a decimal without an exponent, and may be empty or a lone point
as far as the shape of a term goes.

Digit runs are taken as long as they are: what follows a run has to be a slash, a
point, an asterisk or the letter, never a digit, so a shorter run could not be
continued. The shape at the front of a text is therefore found without search
(`Term.atFront?`), and `Term.first?` finds the first place at which a term
stands, together with the characters before it.
-/

set_option autoImplicit false

namespace SimplexSolver.Entry

open Literal (takeDigits)

/-- A term as it is written. -/
structure Term where
  /-- The sign and the coefficient. -/
  coefficient : List Char
  /-- The digits of the variable number. -/
  variableDigits : List Char
  deriving DecidableEq, Repr

namespace Term

/-- Whether the character is a sign. -/
def isSign (c : Char) : Bool := c == '+' || c == '-'

/-- The letter of a variable, its number, and what follows. -/
def variableAtFront? : List Char → Option (List Char × List Char)
  | 'x' :: rest =>
    match takeDigits rest with
    | ([], _) => none
    | (digits, rest) => some (digits, rest)
  | _ => none

/-- An optional asterisk, then a variable. -/
def factorAtFront? : List Char → Option (List Char × List Char)
  | '*' :: rest => variableAtFront? rest
  | text => variableAtFront? text

/-- The coefficient of a term, without its sign, and what follows it. A quotient
needs digits on both sides of the slash; otherwise the coefficient is made of
digits and at most one point. -/
def coefficientAtFront (text : List Char) : List Char × List Char :=
  match takeDigits text with
  | (whole, '/' :: rest) =>
    match takeDigits rest with
    | ([], _) => (whole, '/' :: rest)
    | (denominator, after) =>
      if whole.isEmpty then (whole, '/' :: rest) else (whole ++ '/' :: denominator, after)
  | (whole, '.' :: rest) => (whole ++ '.' :: (takeDigits rest).1, (takeDigits rest).2)
  | (whole, rest) => (whole, rest)

/-- The sign at the front of a text, if there is one, and what follows it. -/
def signAtFront : List Char → List Char × List Char
  | [] => ([], [])
  | c :: rest => if isSign c then ([c], rest) else ([], c :: rest)

/-- The term at the front of a text, and what follows it. -/
def atFront? (text : List Char) : Option (Term × List Char) :=
  let (sign, unsigned) := signAtFront text
  let (coefficient, factor) := coefficientAtFront unsigned
  (factorAtFront? factor).map fun (digits, rest) => (⟨sign ++ coefficient, digits⟩, rest)

/-- A term found in a text: the characters before it, the term, and the rest. -/
structure Found where
  skipped : List Char
  term : Term
  rest : List Char

/-- The first place in a text at which a term stands. -/
def first? : List Char → Option Found
  | [] => none
  | c :: text =>
    match atFront? (c :: text) with
    | some (term, rest) => some ⟨[], term, rest⟩
    | none => (first? text).map fun found => { found with skipped := c :: found.skipped }

/-! ## A term takes up characters -/

theorem length_dropWhile_le {β : Type} (test : β → Bool) (text : List β) :
    (text.dropWhile test).length ≤ text.length :=
  (List.dropWhile_suffix test).sublist.length_le

theorem length_takeDigits_le (text : List Char) : (takeDigits text).2.length ≤ text.length :=
  length_dropWhile_le _ text

theorem length_variableAtFront? {text digits rest : List Char}
    (found : variableAtFront? text = some (digits, rest)) : rest.length < text.length := by
  unfold variableAtFront? at found
  split at found
  · rename_i tail
    have shorter := length_takeDigits_le tail
    split at found
    · simp at found
    · rename_i run after taken
      simp only [Option.some.injEq, Prod.mk.injEq] at found
      obtain ⟨rfl, rfl⟩ := found
      rw [taken] at shorter
      simp only [List.length_cons] at shorter ⊢
      omega
  · simp at found

theorem length_factorAtFront? {text digits rest : List Char}
    (found : factorAtFront? text = some (digits, rest)) : rest.length < text.length := by
  unfold factorAtFront? at found
  split at found
  · have := length_variableAtFront? found
    simp only [List.length_cons]
    omega
  · exact length_variableAtFront? found

theorem length_coefficientAtFront_le (text : List Char) :
    (coefficientAtFront text).2.length ≤ text.length := by
  have outer := length_takeDigits_le text
  unfold coefficientAtFront
  split
  · rename_i whole rest taken
    rw [taken] at outer
    have inner := length_takeDigits_le rest
    simp only [List.length_cons] at outer
    split
    · simp only [List.length_cons]
      omega
    · rename_i denominator after denominatorTaken
      rw [denominatorTaken] at inner
      split
      · simp only [List.length_cons]
        omega
      · exact Nat.le_trans inner (Nat.le_of_succ_le outer)
  · rename_i whole rest taken
    rw [taken] at outer
    simp only [List.length_cons] at outer
    exact Nat.le_trans (length_takeDigits_le rest) (Nat.le_of_succ_le outer)
  · rename_i whole rest _ _ taken
    rw [taken] at outer
    exact outer

theorem length_signAtFront_le (text : List Char) : (signAtFront text).2.length ≤ text.length := by
  unfold signAtFront
  split
  · simp
  · split <;> simp

/-- What follows a term is shorter than the text the term stands in front of. -/
theorem length_atFront? {text rest : List Char} {term : Term}
    (found : atFront? text = some (term, rest)) : rest.length < text.length := by
  simp only [atFront?, Option.map_eq_some_iff] at found
  obtain ⟨⟨digits, after⟩, factor, same⟩ := found
  simp only [Prod.mk.injEq] at same
  obtain ⟨_, rfl⟩ := same
  have := length_factorAtFront? factor
  have := length_coefficientAtFront_le (signAtFront text).2
  have := length_signAtFront_le text
  omega

/-- What follows the first term of a text is shorter than the text. -/
theorem length_first? {text : List Char} {found : Found} (located : first? text = some found) :
    found.rest.length < text.length := by
  induction text generalizing found with
  | nil => simp [first?] at located
  | cons c text ih =>
    unfold first? at located
    split at located
    · rename_i term rest front
      simp only [Option.some.injEq] at located
      subst located
      exact length_atFront? front
    · simp only [Option.map_eq_some_iff] at located
      obtain ⟨inner, innerFound, rfl⟩ := located
      have := ih innerFound
      simp only [List.length_cons]
      omega

end Term

end SimplexSolver.Entry
