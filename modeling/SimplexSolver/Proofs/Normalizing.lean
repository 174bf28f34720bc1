import SimplexSolver.Problem.Feasibility
import SimplexSolver.Proofs.Equations
import SimplexSolver.Proofs.Histories

/-!
# Normal forms

A problem is normalized constraint by constraint. An upper bound is kept, a lower
bound that is not positive is turned into an upper bound by multiplying it by minus
one, and any other constraint stops the normalization. `Constraint.Normalized` says
what becomes of a constraint without mentioning its position, and
`normalize_eq_ok_iff` that nothing else happens.

**Meaning.** A turned constraint is satisfied by the same points as before, at every
tolerance, because both sides change their sign and the tolerance moves to the other
side. The check of a point does not tell the two problems apart, not even where it
fails because a list has the wrong length (`NormalFormOf.isFeasible_eq`).

**Acceptance.** The check of the standard form looks at the constraints last. What it
says of a problem without its constraints is not touched by normalizing; of the
constraints it can only find fault with a length or with an upper bound that was
negative from the start (`NormalFormOf.cause_of_startingTableau`).
-/

set_option autoImplicit false

namespace SimplexSolver

/-! ## One constraint -/

/-- Over exact scalars the opposite number is the negated one. -/
@[simp] theorem opposite_rat (value : Rat) : opposite value = -value := by
  rw [opposite, add_zero]

/-- The sum of the products changes its sign with the left list. -/
theorem dot_map_neg (left right : List Rat) :
    Scalar.dot (left.map (- ·)) right = -Scalar.dot left right := by
  have products : List.zipWith (· * ·) (left.map (- ·)) right =
      (List.zipWith (· * ·) left right).map (- ·) := by
    simp [List.zipWith_map_left, List.map_zipWith]
  rw [Scalar.dot, Scalar.dot, products, ← List.sum_eq_foldl, ← List.sum_eq_foldl]
  exact (List.sum_neg _).symm

namespace Constraint

/-- What becomes of a constraint when its problem is normalized. -/
inductive Normalized (constraint : Constraint Rat) : Constraint Rat → Prop
  /-- An upper bound is kept. -/
  | kept (upper : constraint.relation = .atMost) : Normalized constraint constraint
  /-- A lower bound that is not positive is multiplied by minus one. -/
  | turned (lower : constraint.relation = .atLeast) (low : constraint.bound ≤ 0) :
      Normalized constraint ⟨constraint.coefficients.map (- ·), .atMost, -constraint.bound⟩

variable {constraint result : Constraint Rat}

theorem normalize_eq_ok_iff (index : Nat) :
    constraint.normalize index = .ok result ↔ constraint.Normalized result := by
  constructor
  · intro made
    cases relation : constraint.relation with
    | atMost =>
        simp only [normalize, relation, Except.ok.injEq] at made
        exact made ▸ .kept relation
    | atLeast =>
        simp only [normalize, relation, Scalar.le_rat, decide_eq_true_eq] at made
        split at made
        · rename_i low
          simp only [Except.ok.injEq, funext opposite_rat, opposite_rat] at made
          exact made ▸ .turned relation low
        · cases made
    | equal => simp [normalize, relation] at made
    | unknown symbol => simp [normalize, relation] at made
  · rintro (upper | ⟨lower, low⟩)
    · simp only [normalize, upper]
    · simp only [normalize, lower, Scalar.le_rat, decide_eq_true low, if_true, opposite_rat,
        funext opposite_rat]

theorem exists_normalized_iff :
    (∃ result, constraint.Normalized result) ↔
      constraint.relation = .atMost ∨ constraint.relation = .atLeast ∧ constraint.bound ≤ 0 := by
  constructor
  · rintro ⟨_, upper | ⟨lower, low⟩⟩
    · exact .inl upper
    · exact .inr ⟨lower, low⟩
  · rintro (upper | ⟨lower, low⟩)
    · exact ⟨_, .kept upper⟩
    · exact ⟨_, .turned lower low⟩

namespace Normalized

theorem relation_eq (normal : constraint.Normalized result) : result.relation = .atMost := by
  cases normal with
  | kept upper => exact upper
  | turned => rfl

theorem length_eq (normal : constraint.Normalized result) :
    result.coefficients.length = constraint.coefficients.length := by
  cases normal with
  | kept => rfl
  | turned => simp

/-- Only a bound that was not a lower one can be negative afterwards. -/
theorem bound_nonneg (normal : constraint.Normalized result)
    (lower : constraint.relation = .atLeast) : 0 ≤ result.bound := by
  cases normal with
  | kept upper => simp [lower] at upper
  | turned _ low => exact neg_nonneg.mpr low

theorem eq_of_atMost (normal : constraint.Normalized result)
    (upper : constraint.relation = .atMost) : result = constraint := by
  cases normal with
  | kept => rfl
  | turned lower => simp [upper] at lower

/-- A negative bound was there before, on an upper bound. -/
theorem eq_of_bound_neg (normal : constraint.Normalized result) (negative : result.bound < 0) :
    constraint.relation = .atMost ∧ result = constraint := by
  cases normal with
  | kept upper => exact ⟨upper, rfl⟩
  | turned lower low => exact absurd negative (not_lt.mpr (neg_nonneg.mpr low))

/-- A normalized constraint is satisfied where the constraint is, at every tolerance,
and its check fails where that of the constraint does. -/
theorem isSatisfied_eq (normal : constraint.Normalized result) (bar : Rat) (point : List Rat) :
    result.isSatisfied bar point = constraint.isSatisfied bar point := by
  cases normal with
  | kept => rfl
  | turned lower low =>
      simp only [isSatisfied, leftSide, product, List.length_map, dot_map_neg]
      split
      · have sides (left : Rat) : -left ≤ -constraint.bound + bar ↔
            constraint.bound - bar ≤ left := by
          constructor <;> intro holds <;> linarith
        simp only [Except.map, holdsAt, lower, Scalar.le_rat, Scalar.ge, sides]
      · rfl

end Normalized

/-- The check of an upper bound fails for two reasons: the number of coefficients is
wrong, or the bound is negative. -/
theorem cause_of_validate {size index : Nat} {expected : String} {cause : Rejection}
    (upper : constraint.relation = .atMost)
    (rejected : constraint.validate size expected index = .error cause) :
    constraint.coefficients.length ≠ size ∧
        cause = .constraintLength index constraint.coefficients.length expected ∨
      constraint.bound < 0 ∧
        cause = .negativeBound index (Display.coefficientText constraint.bound) := by
  have finite : allFinite constraint.coefficients = true := by simp [allFinite]
  simp only [validate, finite, upper, Scalar.isFinite_rat, Scalar.lt_rat] at rejected
  split at rejected
  · rename_i other
    exact .inl ⟨other, (Except.error.inj rejected).symm⟩
  · split at rejected
    · simp at *
    · split at rejected
      · simp at *
      · split at rejected
        · rename_i negative
          exact .inr ⟨of_decide_eq_true negative, (Except.error.inj rejected).symm⟩
        · cases rejected

end Constraint

/-! ## All constraints -/

section Constraints

variable {constraints results : List (Constraint Rat)}

/-- Normalizing constraints normalizes each of them, in their order. -/
theorem normalizeFrom_eq_ok_iff (index : Nat) :
    normalizeFrom index constraints = .ok results ↔
      List.Forall₂ Constraint.Normalized constraints results := by
  induction constraints generalizing index results with
  | nil => simp [normalizeFrom, eq_comm]
  | cons first rest ih =>
      rw [List.forall₂_cons_left_iff, normalizeFrom]
      constructor
      · intro made
        obtain ⟨head, turned, goes⟩ := exists_of_bind_eq_ok made
        obtain ⟨tail, later, same⟩ := exists_of_bind_eq_ok goes
        exact ⟨head, tail, (Constraint.normalize_eq_ok_iff index).mp turned,
          (ih (index + 1)).mp later, (Except.ok.inj same).symm⟩
      · rintro ⟨head, tail, turned, later, rfl⟩
        exact bind_eq_ok ((Constraint.normalize_eq_ok_iff index).mpr turned)
          (bind_eq_ok ((ih (index + 1)).mpr later) rfl)

/-- Constraints can be normalized together if each of them can. -/
theorem exists_forall₂_normalized_iff :
    (∃ results, List.Forall₂ Constraint.Normalized constraints results) ↔
      ∀ constraint ∈ constraints, constraint.relation = .atMost ∨
        constraint.relation = .atLeast ∧ constraint.bound ≤ 0 := by
  simp only [← Constraint.exists_normalized_iff]
  induction constraints with
  | nil => simp
  | cons first rest ih =>
      rw [List.forall_mem_cons, ← ih]
      constructor
      · rintro ⟨_, _ | ⟨head, tail⟩⟩
        exact ⟨⟨_, head⟩, ⟨_, tail⟩⟩
      · rintro ⟨⟨_, head⟩, ⟨_, tail⟩⟩
        exact ⟨_, .cons head tail⟩

/-- Normalized constraints are satisfied together where the constraints are. -/
theorem allSatisfied_eq_of_normalized
    (normal : List.Forall₂ Constraint.Normalized constraints results) (bar : Rat)
    (point : List Rat) : allSatisfied bar point results = allSatisfied bar point constraints := by
  induction normal with
  | nil => rfl
  | cons first _ ih => rw [allSatisfied, allSatisfied, first.isSatisfied_eq, ih]

/-- Every normalized constraint comes from the constraint in its place. -/
theorem exists_of_normalized
    (normal : List.Forall₂ Constraint.Normalized constraints results) {place : Nat}
    {result : Constraint Rat} (here : results[place]? = some result) :
    ∃ constraint : Constraint Rat, constraints[place]? = some constraint ∧
      constraint.Normalized result := by
  obtain ⟨inside, rfl⟩ := List.getElem?_eq_some_iff.mp here
  have within : place < constraints.length := normal.length_eq ▸ inside
  exact ⟨constraints[place], List.getElem?_eq_getElem within, normal.get within inside⟩

/-- Every constraint becomes one of the normalized constraints. -/
theorem exists_normalized_of_mem
    (normal : List.Forall₂ Constraint.Normalized constraints results)
    {constraint : Constraint Rat} (member : constraint ∈ constraints) :
    ∃ result ∈ results, constraint.Normalized result := by
  obtain ⟨place, within, rfl⟩ := List.mem_iff_getElem.mp member
  have inside : place < results.length := normal.length_eq ▸ within
  exact ⟨results[place], List.getElem_mem inside, normal.get within inside⟩

/-- The check of constraints fails at one of them. -/
theorem exists_of_validateFrom {α : Type} [Scalar α] {size : Nat} {expected : String}
    {cause : Rejection} {constraints : List (Constraint α)} (index : Nat)
    (rejected : validateFrom size expected index constraints = .error cause) :
    ∃ (place : Nat) (constraint : Constraint α), constraints[place]? = some constraint ∧
      constraint.validate size expected (index + place) = .error cause := by
  induction constraints generalizing index with
  | nil => cases rejected
  | cons first rest ih =>
      rw [validateFrom] at rejected
      cases checked : first.validate size expected index with
      | error found =>
          rw [checked] at rejected
          exact ⟨0, first, rfl, checked.trans rejected⟩
      | ok _ =>
          rw [checked] at rejected
          obtain ⟨place, constraint, here, failed⟩ := ih (index + 1) rejected
          refine ⟨place + 1, constraint, here, ?_⟩
          rw [← failed]
          congr 1
          omega

end Constraints

/-! ## Problems -/

namespace Problem

/-- The problem without its constraints. -/
def bare {α : Type} (problem : Problem α) : Problem α := { problem with constraints := [] }

/-- The constraints are checked after everything else. -/
theorem validate_eq_bare {α : Type} [Scalar α] (problem : Problem α) :
    problem.validate = problem.bare.validate.bind fun count =>
      (validateFrom count.toNat problem.variableCount.toText 1 problem.constraints).map
        fun _ => count := by
  simp only [validate, bare, positiveCount?, validateFrom]
  split
  · rfl
  · split
    · rfl
    · split
      · rfl
      · split
        · rfl
        · rfl

theorem startingTableau_eq_error_iff {problem : Problem Rat} {cause : Rejection} :
    problem.startingTableau = .error cause ↔ problem.validate = .error cause := by
  refine ⟨fun rejected => ?_, startingTableau_of_rejected⟩
  cases checked : problem.validate with
  | error found =>
      rw [startingTableau_of_rejected checked, Except.error.injEq] at rejected
      rw [rejected]
  | ok count =>
      obtain ⟨start, built, -⟩ := exists_startingTableau checked
      rw [built] at rejected
      cases rejected

theorem exists_startingTableau_iff {problem : Problem Rat} :
    (∃ start, problem.startingTableau = .ok start) ↔ ∃ count, problem.validate = .ok count := by
  constructor
  · rintro ⟨start, built⟩
    cases checked : problem.validate with
    | error cause =>
        rw [startingTableau_of_rejected checked] at built
        cases built
    | ok count => exact ⟨count, rfl⟩
  · rintro ⟨count, valid⟩
    obtain ⟨start, built, -⟩ := exists_startingTableau valid
    exact ⟨start, built⟩

/-- One problem is the normal form of another: the constraints are normalized, and
nothing else is changed. -/
structure NormalFormOf (problem result : Problem Rat) : Prop where
  direction_eq : result.direction = problem.direction
  variableCount_eq : result.variableCount = problem.variableCount
  objective_eq : result.objective = problem.objective
  constraints : List.Forall₂ Constraint.Normalized problem.constraints result.constraints

variable {problem result : Problem Rat}

/-- **Normalizing gives the normal form.** -/
theorem normalize_eq_ok_iff :
    problem.normalize = .ok result ↔ problem.NormalFormOf result := by
  constructor
  · intro made
    cases turned : normalizeFrom 1 problem.constraints with
    | error cause => simp [normalize, turned, Except.map] at made
    | ok constraints =>
        simp only [normalize, turned, Except.map, Except.ok.injEq] at made
        exact made ▸ ⟨rfl, rfl, rfl, (normalizeFrom_eq_ok_iff 1).mp turned⟩
  · rintro ⟨direction, variableCount, objective, constraints⟩
    rw [normalize, (normalizeFrom_eq_ok_iff 1).mpr constraints, Except.map, ← direction,
      ← variableCount, ← objective]

namespace NormalFormOf

theorem relation_eq (normal : problem.NormalFormOf result) :
    ∀ constraint ∈ result.constraints, constraint.relation = .atMost := by
  intro constraint member
  obtain ⟨place, here⟩ := List.mem_iff_getElem?.mp member
  obtain ⟨source, -, turned⟩ := exists_of_normalized normal.constraints here
  exact turned.relation_eq

/-- **The check of a point does not tell a problem from its normal form.** -/
theorem isFeasible_eq (normal : problem.NormalFormOf result) (bar : Rat) (point : List Rat) :
    result.isFeasible bar point = problem.isFeasible bar point := by
  rw [isFeasible, isFeasible, allSatisfied_eq_of_normalized normal.constraints]

/-- A normal form is its own normal form. -/
theorem idem (normal : problem.NormalFormOf result) : result.NormalFormOf result :=
  ⟨rfl, rfl, rfl, List.forall₂_same.mpr fun constraint member =>
    .kept (normal.relation_eq constraint member)⟩

theorem bare_eq (normal : problem.NormalFormOf result) : result.bare = problem.bare := by
  rw [bare, bare, normal.direction_eq, normal.variableCount_eq, normal.objective_eq]

/-- Why a normal form is rejected: either the problem would be rejected without its
constraints, or one of its constraints has the wrong number of coefficients, or one is
an upper bound that is negative. The cause says which, with the position of the
constraint. -/
theorem cause_of_validate (normal : problem.NormalFormOf result) {cause : Rejection}
    (rejected : result.validate = .error cause) :
    problem.bare.validate = .error cause ∨
      ∃ (count : Count) (place : Nat) (constraint : Constraint Rat),
        problem.bare.validate = .ok count ∧ problem.constraints[place]? = some constraint ∧
        (constraint.coefficients.length ≠ count.toNat ∧
            cause = .constraintLength (place + 1) constraint.coefficients.length
              problem.variableCount.toText ∨
          constraint.relation = .atMost ∧ constraint.bound < 0 ∧
            cause = .negativeBound (place + 1) (Display.coefficientText constraint.bound)) := by
  rw [validate_eq_bare, normal.bare_eq, normal.variableCount_eq] at rejected
  cases checked : problem.bare.validate with
  | error found =>
      rw [checked] at rejected
      exact .inl rejected
  | ok count =>
      refine .inr ⟨count, ?_⟩
      rw [checked, Except.bind] at rejected
      cases passed : validateFrom count.toNat problem.variableCount.toText 1
          result.constraints with
      | ok _ => simp [passed, Except.map] at rejected
      | error found =>
          rw [passed] at rejected
          obtain rfl := Except.error.inj rejected
          obtain ⟨place, turned, here, failed⟩ := exists_of_validateFrom 1 passed
          obtain ⟨constraint, there, source⟩ := exists_of_normalized normal.constraints here
          rw [Nat.add_comm] at failed
          refine ⟨place, constraint, rfl, there, ?_⟩
          rcases turned.cause_of_validate source.relation_eq failed with ⟨long, cause⟩ |
            ⟨negative, cause⟩
          · rw [source.length_eq] at long cause
            exact .inl ⟨long, cause⟩
          · obtain ⟨upper, rfl⟩ := source.eq_of_bound_neg negative
            exact .inr ⟨upper, negative, cause⟩

/-- **When a normal form is accepted.** Nothing but the constraints may stop it, and of these
only lengths and upper bounds that are negative. -/
theorem validate_eq_ok_iff (normal : problem.NormalFormOf result) {count : Count} :
    result.validate = .ok count ↔ problem.bare.validate = .ok count ∧
      ∀ constraint ∈ problem.constraints, constraint.coefficients.length = count.toNat ∧
        (constraint.relation = .atMost → 0 ≤ constraint.bound) := by
  constructor
  · intro valid
    obtain ⟨-, -, -, checked⟩ := parts_of_validate valid
    rw [validate_eq_bare, normal.bare_eq] at valid
    obtain ⟨found, bare, goes⟩ := exists_of_bind_eq_ok valid
    obtain rfl := eq_of_map_const goes
    refine ⟨bare, fun constraint member => ?_⟩
    obtain ⟨turned, there, source⟩ := exists_normalized_of_mem normal.constraints member
    obtain ⟨_, _, passed⟩ := checked turned there
    obtain ⟨long, -, nonneg⟩ := Constraint.parts_of_validate passed
    refine ⟨source.length_eq ▸ long, fun upper => ?_⟩
    obtain rfl := source.eq_of_atMost upper
    simpa using nonneg
  · rintro ⟨bare, fits⟩
    cases checked : result.validate with
    | error cause =>
        rcases normal.cause_of_validate checked with other | ⟨found, place, constraint, same, here,
          fault⟩
        · rw [bare] at other
          cases other
        · obtain rfl := Except.ok.inj (bare.symm.trans same)
          obtain ⟨long, nonneg⟩ := fits constraint (List.mem_of_getElem? here)
          rcases fault with ⟨other, -⟩ | ⟨upper, negative, -⟩
          · exact absurd long other
          · exact absurd (nonneg upper) (not_le.mpr negative)
    | ok found =>
        rw [validate_eq_bare, normal.bare_eq, bare, Except.bind] at checked
        exact congrArg _ (eq_of_map_const checked).symm

end NormalFormOf

/-- **Normalizing keeps the meaning of a problem, and succeeds where it can.** A problem is
normalized if each of its constraints is an upper bound or a lower bound that is not
positive. Then nothing but the lower bounds changes: they become upper bounds that are
not negative, in the same places. The check of a point, at any tolerance, finds the same
for both problems, and normalizing again changes nothing.

So the result has a starting tableau if the problem without its constraints has one, all
its constraints have a coefficient for each variable, and none is an upper bound that is
negative; and the cause of a rejection names one of these faults. -/
theorem normalize_keeps_meaning (problem : Problem Rat) :
    ((∃ result, problem.normalize = .ok result) ↔
      ∀ constraint ∈ problem.constraints, constraint.relation = .atMost ∨
        constraint.relation = .atLeast ∧ constraint.bound ≤ 0) ∧
    ∀ result, problem.normalize = .ok result →
      (result.direction = problem.direction ∧ result.variableCount = problem.variableCount ∧
        result.objective = problem.objective ∧
        List.Forall₂ Constraint.Normalized problem.constraints result.constraints) ∧
      (∀ constraint ∈ result.constraints, constraint.relation = .atMost) ∧
      (∀ pair ∈ problem.constraints.zip result.constraints,
        pair.1.relation = .atLeast → 0 ≤ pair.2.bound) ∧
      (∀ bar point, result.isFeasible bar point = problem.isFeasible bar point) ∧
      result.normalize = .ok result ∧
      ((∃ start, result.startingTableau = .ok start) ↔
        ∃ count, problem.bare.validate = .ok count ∧ ∀ constraint ∈ problem.constraints,
          constraint.coefficients.length = count.toNat ∧
            (constraint.relation = .atMost → 0 ≤ constraint.bound)) ∧
      ∀ cause, result.startingTableau = .error cause →
        problem.bare.startingTableau = .error cause ∨
          ∃ (count : Count) (place : Nat) (constraint : Constraint Rat),
            problem.bare.validate = .ok count ∧ problem.constraints[place]? = some constraint ∧
            (constraint.coefficients.length ≠ count.toNat ∧
                cause = .constraintLength (place + 1) constraint.coefficients.length
                  problem.variableCount.toText ∨
              constraint.relation = .atMost ∧ constraint.bound < 0 ∧
                cause = .negativeBound (place + 1)
                  (Display.coefficientText constraint.bound)) := by
  simp only [normalize_eq_ok_iff]
  refine ⟨?_, fun result normal => ⟨⟨normal.direction_eq, normal.variableCount_eq,
    normal.objective_eq, normal.constraints⟩, normal.relation_eq, ?_, normal.isFeasible_eq,
    normal.idem, ?_, ?_⟩⟩
  · rw [← exists_forall₂_normalized_iff]
    constructor
    · rintro ⟨result, normal⟩
      exact ⟨_, normal.constraints⟩
    · rintro ⟨results, normal⟩
      exact ⟨{ problem with constraints := results }, rfl, rfl, rfl, normal⟩
  · exact fun pair member lower =>
      ((List.forall₂_iff_zip.mp normal.constraints).2 member).bound_nonneg lower
  · simp only [← normal.validate_eq_ok_iff, exists_startingTableau_iff]
  · intro cause rejected
    rcases normal.cause_of_validate (startingTableau_eq_error_iff.mp rejected) with bare | fault
    · exact .inl (startingTableau_of_rejected bare)
    · exact .inr fault

/-- An upper bound and a lower bound that is not positive. -/
def twoSides : Problem Rat where
  direction := .minimize
  variableCount := .integer 2
  objective := [1, -1]
  constraints := [⟨[1, 1], .atMost, 4⟩, ⟨[1, -2], .atLeast, -3⟩]

/-- The lower bound of `twoSides` is turned, and the result has a starting tableau. -/
theorem normalize_keeps_meaning_twoSides :
    ∃ result, twoSides.normalize = .ok result ∧ result.constraints.map (·.bound) = [4, 3] ∧
      (∀ bar point, result.isFeasible bar point = twoSides.isFeasible bar point) ∧
      ∃ start, result.startingTableau = .ok start := by
  obtain ⟨result, made⟩ := (normalize_keeps_meaning twoSides).1.mpr (by decide +kernel)
  obtain ⟨-, -, -, meaning, -, accepted, -⟩ :=
    (normalize_keeps_meaning twoSides).2 result made
  refine ⟨result, made, ?_, meaning, accepted.mpr ⟨.whole 2, rfl, by decide +kernel⟩⟩
  cases made
  decide +kernel

end Problem

end SimplexSolver
