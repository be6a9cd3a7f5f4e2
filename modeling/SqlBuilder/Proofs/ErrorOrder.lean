import SqlBuilder.Draft.Delete
import SqlBuilder.Draft.Update

/-!
# The order of errors

A conversion looks at many things on its way: whether lists are empty, whether
integers fit, whether paths have names.  This module writes those checks down as
one flat list, in the order in which they are made, for values, conditions and
the drafts of SELECT, UPDATE and DELETE.

The main theorem says that a conversion succeeds exactly when every check of its
list passes, and that it otherwise gives the error of the first one that does
not.  Sort columns, limits and labels have no check at all.
-/

namespace SqlBuilder

/-- Something that is looked at, and the error it gives where it is not as it should be. -/
structure Check where
  passed : Bool
  error : Error

namespace Check

/-- The check that a condition holds. -/
def require (condition : Prop) [Decidable condition] (error : Error) : Check where
  passed := decide condition
  error := error

/-- A check whose error has its position noted. -/
def noted (note : Error → Error) (check : Check) : Check where
  passed := check.passed
  error := note check.error

/-- The checks of a list's members in order, with the position of each member noted. -/
def notedFrom (note : Nat → Error → Error) (start : Nat) :
    List (List Check) → List Check
  | [] => []
  | checks :: rest => checks.map (noted (note start)) ++ notedFrom note (start + 1) rest

/-- The error of the first check that fails. -/
def firstFailure? (checks : List Check) : Option Error :=
  (checks.find? fun check => !check.passed).map error

@[simp]
theorem firstFailure?_nil : firstFailure? [] = none := rfl

@[simp]
theorem firstFailure?_require_cons
    (condition : Prop) [Decidable condition]
    (error : Error) (rest : List Check) :
    firstFailure? (require condition error :: rest) =
      if condition then firstFailure? rest else some error := by
  by_cases holds : condition <;> simp [firstFailure?, require, holds]

@[simp]
theorem firstFailure?_append (front back : List Check) :
    firstFailure? (front ++ back) = (firstFailure? front).or (firstFailure? back) := by
  simp only [firstFailure?, List.find?_append]
  cases front.find? fun check => !check.passed <;> rfl

@[simp]
theorem firstFailure?_map_noted (note : Error → Error) (checks : List Check) :
    firstFailure? (checks.map (noted note)) = (firstFailure? checks).map note := by
  simp only [firstFailure?, List.find?_map, Option.map_map]
  rfl

/-- No check fails exactly when all of them pass. -/
theorem firstFailure?_eq_none_iff (checks : List Check) :
    firstFailure? checks = none ↔ ∀ check ∈ checks, check.passed = true := by
  simp [firstFailure?]

/-- Without notes, the checks of a list's members simply follow one another. -/
theorem notedFrom_same (start : Nat) (lists : List (List Check)) :
    notedFrom (fun _ cause => cause) start lists = lists.flatten := by
  induction lists generalizing start with
  | nil => rfl
  | cons checks rest ih =>
      have unchanged : checks.map (noted fun cause => cause) = checks := by
        exact List.map_id checks
      simp [notedFrom, unchanged, ih]

end Check

/-! ## The checks of values, conditions and drafts -/

mutual

def Json.checks : Json → List Check
  | .uint value =>
      [.require (value.toNat < 2 ^ (63 : Nat)) (.integerOutOfRange value.toNat.repr)]
  | .array elements => Check.notedFrom .atIndex 0 (Json.checkLists elements)
  | .object _ => [.require False (.unsupportedType "JSON object")]
  | _ => []

def Json.checkLists : List Json → List (List Check)
  | [] => []
  | element :: rest => element.checks :: Json.checkLists rest

end

mutual

/-- The checks of a value. -/
def Value.checks : Value → List Check
  | .uint value =>
      [.require (value.toNat < 2 ^ (63 : Nat)) (.integerOutOfRange value.toNat.repr)]
  | .present value => value.checks
  | .nullable payload valid => if valid then payload.checks else []
  | .wrapped value => value.checks
  | .sequence elements => Check.notedFrom .atIndex 0 (Value.checkLists elements)
  | .json value => value.checks
  | .identifier value => [.require (value.segments ≠ []) .emptyIdentifier]
  | .subquery value => value.checks
  | _ => []

def Value.checkLists : List Value → List (List Check)
  | [] => []
  | value :: rest => value.checks :: Value.checkLists rest

/-- The checks of a condition: its operands from left to right. -/
def Condition.checks : Condition → List Check
  | .group connective members =>
      .require (members ≠ []) (.emptyConditionList connective) ::
        (Condition.checkLists members).flatten
  | .compare _ left right => left.checks ++ right.checks
  | .isNull operand _ => operand.checks
  | .inArray operand elements _ => operand.checks ++ elements.checks
  | .inList operand elements _ =>
      operand.checks ++ (Value.checkLists elements).flatten
  | .inQuery operand query _ => operand.checks ++ query.checks
  | .between operand low high _ => operand.checks ++ low.checks ++ high.checks
  | .wrapped condition => condition.checks
  | .bool _ => []
  | .expr _ => []

def Condition.checkLists : List Condition → List (List Check)
  | [] => []
  | condition :: rest => condition.checks :: Condition.checkLists rest

/-- The checks of a subquery.  Its label has none. -/
def Subquery.checks : Subquery → List Check
  | ⟨_, query, _⟩ => query.checks

def Subquery.checkLists : List Subquery → List (List Check)
  | [] => []
  | subquery :: rest => subquery.checks :: Subquery.checkLists rest

/-- The checks of a SELECT: its columns, its projected subqueries, its conditions. -/
def SelectDraft.checks : SelectDraft → List Check
  | ⟨_, columns, subqueries, conditions, _, _⟩ =>
      .require (columns ≠ []) (.invalid .selectWithoutColumns) ::
        (Subquery.checkLists subqueries).flatten ++
        (Condition.checkLists conditions).flatten

end

/-- The checks of an item to set: its path, then its value. -/
def SetItem.checks (item : SetItem) : List Check :=
  .require (item.target.segments ≠ []) .emptyIdentifier :: item.value.checks

/-- The checks of an UPDATE: both of its lists, its items, its conditions. -/
def UpdateDraft.checks (draft : UpdateDraft) : List Check :=
  .require (draft.items ≠ []) (.invalid .updateWithoutAssignments) ::
    .require (draft.conditions ≠ []) (.invalid .updateWithoutCondition) ::
    draft.items.flatMap SetItem.checks ++
    draft.conditions.flatMap Condition.checks

/-- The checks of a DELETE: its list of conditions, then each of them. -/
def DeleteDraft.checks (draft : DeleteDraft) : List Check :=
  .require (draft.conditions ≠ []) (.invalid .deleteWithoutCondition) ::
    draft.conditions.flatMap Condition.checks

/-! ## Outcomes and their first failing check -/

namespace Outcome

variable {α β : Type}

/-- The error of an outcome, if it is one. -/
def error? : Outcome α → Option Error
  | .ok _ => none
  | .error cause => some cause

@[simp]
theorem error?_ok (result : α) : error? (.ok result) = none := rfl

@[simp]
theorem error?_error (cause : Error) :
    error? (.error cause : Outcome α) = some cause := rfl

@[simp]
theorem error?_map (convert : α → β) (outcome : Outcome α) :
    error? (outcome.map convert) = outcome.error? := by
  cases outcome <;> rfl

/-- What follows a conversion is looked at only where the conversion succeeds. -/
theorem error?_bind
    (outcome : Outcome α) (next : α → Outcome β) (rest : Option Error)
    (following : ∀ result, outcome = .ok result → error? (next result) = rest) :
    error? (outcome >>= next) = outcome.error?.or rest := by
  cases outcome with
  | error cause => rfl
  | ok result =>
      simp only [error?_ok, Option.none_or]
      exact following result rfl

/--
An outcome agrees with a list of checks: it is a result exactly when all of them
pass, and otherwise it is the error of the first one that fails.
-/
def DecidedBy (outcome : Outcome α) (checks : List Check) : Prop :=
  ((∃ result, outcome = .ok result) ↔ ∀ check ∈ checks, check.passed = true) ∧
    ∀ error, outcome = .error error ↔ Check.firstFailure? checks = some error

theorem decidedBy_of_error?_eq
    {outcome : Outcome α} {checks : List Check}
    (same : outcome.error? = Check.firstFailure? checks) :
    outcome.DecidedBy checks := by
  constructor
  · rw [← Check.firstFailure?_eq_none_iff, ← same]
    cases outcome <;> simp
  · intro error
    rw [← same]
    cases outcome <;> simp

/--
Collecting outcomes that agree with their checks one by one agrees with all
those checks together.
-/
theorem error?_collectFrom
    (note : Nat → Error → Error) (start : Nat)
    (outcomes : List (Outcome α)) (lists : List (List Check))
    (agree : outcomes.map error? = lists.map Check.firstFailure?) :
    error? (collectFrom note start outcomes) =
      Check.firstFailure? (Check.notedFrom note start lists) := by
  induction outcomes generalizing start lists with
  | nil =>
      cases lists with
      | nil => rfl
      | cons checks others => simp at agree
  | cons outcome rest ih =>
      cases lists with
      | nil => simp at agree
      | cons checks others =>
          simp only [List.map_cons, List.cons.injEq] at agree
          rcases agree with ⟨headAgrees, tailAgrees⟩
          have tail := ih (start + 1) others tailAgrees
          cases outcome with
          | error cause =>
              simp only [error?_error] at headAgrees
              simp [Check.notedFrom, ← headAgrees]
          | ok result =>
              simp only [error?_ok] at headAgrees
              simp [Check.notedFrom, ← headAgrees, tail]

theorem error?_collect
    (outcomes : List (Outcome α)) (lists : List (List Check))
    (agree : outcomes.map error? = lists.map Check.firstFailure?) :
    error? (collect outcomes) = Check.firstFailure? lists.flatten := by
  rw [← Check.notedFrom_same 0]
  exact error?_collectFrom _ 0 outcomes lists agree

end Outcome

/-- A group agrees with the check that it has a member and the checks of its members. -/
theorem error?_joined
    (connective : Connective) (outcomes : List (Outcome Expr))
    (lists : List (List Check))
    (agree : outcomes.map Outcome.error? = lists.map Check.firstFailure?) :
    (joined connective outcomes).error? =
      if outcomes = [] then some (.emptyConditionList connective)
      else Check.firstFailure? lists.flatten := by
  have members := Outcome.error?_collect outcomes lists agree
  cases outcomes with
  | nil => rfl
  | cons outcome rest =>
      simp only [reduceCtorEq, if_false]
      rw [← members, joined, Outcome.error?_bind _ _ none]
      · exact Option.or_none
      · intro exprs collected
        cases exprs with
        | nil =>
            have impossible :=
              (Outcome.collectFrom_eq_ok_iff _ 0 (outcome :: rest) []).mp collected
            simp at impossible
        | cons first others => rfl

theorem error?_filterOf
    (outcomes : List (Outcome Expr)) (lists : List (List Check))
    (agree : outcomes.map Outcome.error? = lists.map Check.firstFailure?) :
    (filterOf outcomes).error? = Check.firstFailure? lists.flatten := by
  cases outcomes with
  | nil =>
      have empty : lists = [] := by simpa using agree.symm
      subst empty
      rfl
  | cons outcome rest =>
      rw [filterOf, Outcome.error?_map, error?_joined .and _ lists agree]
      · simp
      · simp

/-! ## Conversions agree with their checks -/

theorem Expr.error?_ofUInt64 (value : UInt64) :
    (Expr.ofUInt64 value).error? =
      Check.firstFailure?
        [.require (value.toNat < 2 ^ (63 : Nat)) (.integerOutOfRange value.toNat.repr)] := by
  rw [Expr.ofUInt64, Check.firstFailure?_require_cons]
  split <;> rfl

mutual

theorem Json.error?_toExpr :
    (value : Json) → value.toExpr.error? = Check.firstFailure? value.checks
  | .null => rfl
  | .bool _ => rfl
  | .int _ => rfl
  | .uint value => Expr.error?_ofUInt64 value
  | .float _ => rfl
  | .string _ => rfl
  | .array elements => by
      simp only [Json.toExpr, Json.checks, Outcome.error?_map]
      exact Outcome.error?_collectFrom _ 0 _ _ (Json.error?_outcomes elements)
  | .object _ => rfl

theorem Json.error?_outcomes :
    (elements : List Json) →
      (Json.outcomes elements).map Outcome.error? =
        (Json.checkLists elements).map Check.firstFailure?
  | [] => rfl
  | element :: rest => by
      simp only [Json.outcomes, Json.checkLists, List.map_cons,
        Json.error?_toExpr element, Json.error?_outcomes rest]

end

mutual

theorem Value.error?_toExpr :
    (value : Value) → value.toExpr.error? = Check.firstFailure? value.checks
  | .null => rfl
  | .string _ => rfl
  | .bytes _ => rfl
  | .int _ => rfl
  | .uint value => Expr.error?_ofUInt64 value
  | .bool _ => rfl
  | .float64 _ => rfl
  | .float32 _ => rfl
  | .timestamp _ => rfl
  | .date _ => rfl
  | .uuid _ => rfl
  | .present value => by
      simpa only [Value.toExpr, Value.checks] using Value.error?_toExpr value
  | .nullable payload true => by
      simpa only [Value.toExpr, Value.checks, if_true] using Value.error?_toExpr payload
  | .nullable _ false => rfl
  | .wrapped value => by
      simpa only [Value.toExpr, Value.checks] using Value.error?_toExpr value
  | .sequence elements => by
      simp only [Value.toExpr, Value.checks, Outcome.error?_map]
      exact Outcome.error?_collectFrom _ 0 _ _ (Value.error?_outcomes elements)
  | .dynamic _ => rfl
  | .json value => by
      simpa only [Value.toExpr, Value.checks] using Json.error?_toExpr value
  | .expr _ => rfl
  | .identifier value => by
      by_cases empty : value.segments = [] <;>
        simp [Value.toExpr, Value.checks, Identifier.toExpr, empty]
  | .parameter _ => rfl
  | .subquery value => by
      simpa only [Value.toExpr, Value.checks] using Subquery.error?_toExpr value

theorem Value.error?_outcomes :
    (values : List Value) →
      (Value.outcomes values).map Outcome.error? =
        (Value.checkLists values).map Check.firstFailure?
  | [] => rfl
  | value :: rest => by
      simp only [Value.outcomes, Value.checkLists, List.map_cons,
        Value.error?_toExpr value, Value.error?_outcomes rest]

theorem Condition.error?_toExpr :
    (condition : Condition) →
      condition.toExpr.error? = Check.firstFailure? condition.checks
  | .group connective [] => rfl
  | .group connective (first :: rest) => by
      rw [Condition.toExpr, Condition.checks,
        error?_joined connective _ _ (Condition.error?_outcomes (first :: rest))]
      simp [Condition.outcomes]
  | .compare operator left right => by
      rw [Condition.toExpr, Condition.checks, Check.firstFailure?_append,
        ← Value.error?_toExpr left]
      refine Outcome.error?_bind _ _ _ fun leftExpr _ => ?_
      rw [← Value.error?_toExpr right]
      cases right.toExpr <;> rfl
  | .isNull operand negated => by
      rw [Condition.toExpr, Condition.checks, ← Value.error?_toExpr operand]
      cases operand.toExpr <;> rfl
  | .inArray operand elements negated => by
      rw [Condition.toExpr, Condition.checks, Check.firstFailure?_append,
        ← Value.error?_toExpr operand]
      refine Outcome.error?_bind _ _ _ fun operandExpr _ => ?_
      rw [← Value.error?_toExpr elements]
      cases elements.toExpr <;> rfl
  | .inList operand elements negated => by
      rw [Condition.toExpr, Condition.checks, Check.firstFailure?_append,
        ← Value.error?_toExpr operand]
      refine Outcome.error?_bind _ _ _ fun operandExpr _ => ?_
      rw [← Outcome.error?_collect _ _ (Value.error?_outcomes elements)]
      cases Outcome.collect (Value.outcomes elements) <;> rfl
  | .inQuery operand query negated => by
      rw [Condition.toExpr, Condition.checks, Check.firstFailure?_append,
        ← Value.error?_toExpr operand]
      refine Outcome.error?_bind _ _ _ fun operandExpr _ => ?_
      rw [← SelectDraft.error?_toSelect query]
      cases query.toSelect <;> rfl
  | .between operand low high negated => by
      rw [Condition.toExpr, Condition.checks, List.append_assoc,
        Check.firstFailure?_append, ← Value.error?_toExpr operand]
      refine Outcome.error?_bind _ _ _ fun operandExpr _ => ?_
      rw [Check.firstFailure?_append, ← Value.error?_toExpr low]
      refine Outcome.error?_bind _ _ _ fun lowExpr _ => ?_
      rw [← Value.error?_toExpr high]
      cases high.toExpr <;> rfl
  | .bool _ => rfl
  | .expr _ => rfl
  | .wrapped condition => by
      simpa only [Condition.toExpr, Condition.checks] using
        Condition.error?_toExpr condition

theorem Condition.error?_outcomes :
    (conditions : List Condition) →
      (Condition.outcomes conditions).map Outcome.error? =
        (Condition.checkLists conditions).map Check.firstFailure?
  | [] => rfl
  | condition :: rest => by
      simp only [Condition.outcomes, Condition.checkLists, List.map_cons,
        Condition.error?_toExpr condition, Condition.error?_outcomes rest]

theorem Subquery.error?_toExpr :
    (subquery : Subquery) →
      subquery.toExpr.error? = Check.firstFailure? subquery.checks
  | ⟨form, query, label⟩ => by
      rw [Subquery.toExpr, Subquery.checks, Outcome.error?_map]
      exact SelectDraft.error?_toSelect query

theorem Subquery.error?_toItem :
    (subquery : Subquery) →
      subquery.toItem.error? = Check.firstFailure? subquery.checks
  | ⟨form, query, label⟩ => by
      rw [Subquery.toItem, Subquery.checks, Outcome.error?_map]
      exact SelectDraft.error?_toSelect query

theorem Subquery.error?_outcomes :
    (subqueries : List Subquery) →
      (Subquery.outcomes subqueries).map Outcome.error? =
        (Subquery.checkLists subqueries).map Check.firstFailure?
  | [] => rfl
  | subquery :: rest => by
      simp only [Subquery.outcomes, Subquery.checkLists, List.map_cons,
        Subquery.error?_toItem subquery, Subquery.error?_outcomes rest]

theorem SelectDraft.error?_toSelect :
    (draft : SelectDraft) →
      draft.toSelect.error? = Check.firstFailure? draft.checks
  | ⟨table, [], subqueries, conditions, orderBy, range⟩ => by
      simp [SelectDraft.toSelect, SelectDraft.checks]
  | ⟨table, column :: columns, subqueries, conditions, orderBy, range⟩ => by
      have projected :=
        Outcome.error?_collect _ _ (Subquery.error?_outcomes subqueries)
      have filter := error?_filterOf _ _ (Condition.error?_outcomes conditions)
      rw [SelectDraft.toSelect, SelectDraft.checks, if_neg (List.cons_ne_nil _ _),
        List.cons_append, Check.firstFailure?_require_cons,
        if_pos (List.cons_ne_nil _ _), Check.firstFailure?_append, ← projected]
      refine Outcome.error?_bind _ _ _ fun items _ => ?_
      rw [← filter]
      cases filterOf (Condition.outcomes conditions) <;> rfl

end

theorem SetItem.error?_toAssignment (item : SetItem) :
    item.toAssignment.error? = Check.firstFailure? item.checks := by
  by_cases empty : item.target.segments = []
  · simp [SetItem.toAssignment, SetItem.checks, empty]
  · simp [SetItem.toAssignment, SetItem.checks, empty, Value.error?_toExpr]

/-- The conditions of an UPDATE or a DELETE, of which there is one. -/
theorem error?_joined_conditions
    (conditions : List Condition) (present : conditions ≠ []) :
    (joined .and (conditions.map Condition.toExpr)).error? =
      Check.firstFailure? (conditions.flatMap Condition.checks) := by
  have agree : (conditions.map Condition.toExpr).map Outcome.error? =
      (conditions.map Condition.checks).map Check.firstFailure? := by
    simp [Function.comp_def, Condition.error?_toExpr]
  rw [error?_joined .and _ _ agree, List.flatMap_def]
  simp [present]

theorem UpdateDraft.error?_toUpdate (draft : UpdateDraft) :
    draft.toUpdate.error? = Check.firstFailure? draft.checks := by
  have assignments :
      Outcome.error? (Outcome.collect (draft.items.map SetItem.toAssignment)) =
        Check.firstFailure? (draft.items.flatMap SetItem.checks) := by
    rw [List.flatMap_def]
    refine Outcome.error?_collect _ _ ?_
    simp [Function.comp_def, SetItem.error?_toAssignment]
  by_cases noItems : draft.items = []
  · simp [UpdateDraft.toUpdate, UpdateDraft.checks, noItems]
  by_cases noConditions : draft.conditions = []
  · simp [UpdateDraft.toUpdate, UpdateDraft.checks, noItems, noConditions]
  · have filter := error?_joined_conditions draft.conditions noConditions
    simp only [UpdateDraft.toUpdate, UpdateDraft.checks, List.cons_append,
      Check.firstFailure?_require_cons, ne_eq, noItems, noConditions,
      not_false_eq_true, if_true, if_false, Check.firstFailure?_append]
    rw [← assignments, ← filter]
    refine Outcome.error?_bind _ _ _ fun items _ => ?_
    cases joined .and (draft.conditions.map Condition.toExpr) <;> rfl

theorem DeleteDraft.error?_toDelete (draft : DeleteDraft) :
    draft.toDelete.error? = Check.firstFailure? draft.checks := by
  by_cases noConditions : draft.conditions = []
  · simp [DeleteDraft.toDelete, DeleteDraft.checks, noConditions]
  · have filter := error?_joined_conditions draft.conditions noConditions
    simp only [DeleteDraft.toDelete, DeleteDraft.checks,
      Check.firstFailure?_require_cons, ne_eq, noConditions, not_false_eq_true,
      if_true, if_false]
    rw [← filter]
    cases joined .and (draft.conditions.map Condition.toExpr) <;> rfl

/--
Conditions and the drafts of SELECT, UPDATE and DELETE convert exactly when all
their checks pass, and otherwise give the error of the first check that fails.
-/
theorem conversions_decidedBy_checks :
    (∀ condition : Condition, condition.toExpr.DecidedBy condition.checks) ∧
      (∀ draft : SelectDraft, draft.toSelect.DecidedBy draft.checks) ∧
      (∀ draft : UpdateDraft, draft.toUpdate.DecidedBy draft.checks) ∧
      (∀ draft : DeleteDraft, draft.toDelete.DecidedBy draft.checks) := by
  refine ⟨fun condition => ?_, fun draft => ?_, fun draft => ?_, fun draft => ?_⟩
  · exact Outcome.decidedBy_of_error?_eq condition.error?_toExpr
  · exact Outcome.decidedBy_of_error?_eq draft.error?_toSelect
  · exact Outcome.decidedBy_of_error?_eq draft.error?_toUpdate
  · exact Outcome.decidedBy_of_error?_eq draft.error?_toDelete

end SqlBuilder
