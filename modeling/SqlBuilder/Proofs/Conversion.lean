import Mathlib.Data.List.Forall2
import SqlBuilder.Program
import SqlBuilder.Proofs.Precedence

/-!
# Conversions that succeed

What a conversion that ends with a result has met on its way.  Nothing is said
here about the errors of the others.

The expression of a condition is made of the expressions of its operands by
tests, links and brackets.  So every node of it meets a condition that the
operands' nodes meet and that tests, links and brackets do not break.
-/

namespace SqlBuilder

namespace Outcome

variable {α β : Type}

@[simp]
theorem ok_bind (value : α) (next : α → Outcome β) :
    (.ok value : Outcome α) >>= next = next value := rfl

@[simp]
theorem bind_eq_ok_iff {outcome : Outcome α} {next : α → Outcome β} {result : β} :
    outcome >>= next = .ok result ↔ ∃ value, outcome = .ok value ∧ next value = .ok result := by
  cases outcome with
  | error cause => simp [bind, Except.bind]
  | ok value => simp [bind, Except.bind]

@[simp]
theorem map_eq_ok_iff {outcome : Outcome α} {convert : α → β} {result : β} :
    outcome.map convert = .ok result ↔ ∃ value, outcome = .ok value ∧ convert value = result := by
  cases outcome with
  | error cause => simp [Except.map]
  | ok value => simp [Except.map]

@[simp]
theorem collect_eq_ok_iff {outcomes : List (Outcome α)} {results : List α} :
    collect outcomes = .ok results ↔ outcomes = results.map .ok :=
  collectFrom_eq_ok_iff _ 0 outcomes results

/-- Every result of a list of conversions comes from one of them. -/
theorem exists_of_mem {convert : α → Outcome β} {items : List α} {results : List β}
    (converted : items.map convert = results.map .ok) {result : β} (member : result ∈ results) :
    ∃ item ∈ items, convert item = .ok result := by
  have found : Except.ok result ∈ items.map convert := by
    rw [converted]
    exact List.mem_map_of_mem member
  exact List.mem_map.mp found

end Outcome

/-- A group that converts is the chain of its members, of which there is one. -/
theorem joined_eq_ok_iff {connective : Connective} {outcomes : List (Outcome Expr)}
    {expr : Expr} :
    joined connective outcomes = .ok expr ↔
      ∃ first rest, outcomes = (first :: rest).map .ok ∧ expr = first.chain connective rest := by
  unfold joined
  rw [Outcome.bind_eq_ok_iff]
  constructor
  · rintro ⟨exprs, collected, converted⟩
    cases exprs with
    | nil => cases converted
    | cons first rest =>
        cases converted
        exact ⟨first, rest, Outcome.collect_eq_ok_iff.mp collected, rfl⟩
  · rintro ⟨first, rest, converted, rfl⟩
    exact ⟨first :: rest, Outcome.collect_eq_ok_iff.mpr converted, rfl⟩

theorem filterOf_eq_ok_iff {outcomes : List (Outcome Expr)} {filter : Option Expr} :
    filterOf outcomes = .ok filter ↔
      outcomes = [] ∧ filter = none ∨
        outcomes ≠ [] ∧ ∃ expr, joined .and outcomes = .ok expr ∧ filter = some expr := by
  cases outcomes with
  | nil =>
      simp only [filterOf, Except.ok.injEq, ne_eq, not_true_eq_false, false_and, or_false,
        true_and]
      exact eq_comm
  | cons outcome rest =>
      simp only [filterOf, Outcome.map_eq_ok_iff, reduceCtorEq, false_and, false_or, ne_eq,
        not_false_eq_true, true_and]
      constructor <;>
      · rintro ⟨expr, converted, rfl⟩
        exact ⟨expr, converted, rfl⟩

/-! ## Drafts that convert -/

theorem SelectDraft.of_toSelect {draft : SelectDraft} {query : Select}
    (converted : draft.toSelect = .ok query) :
    ∃ projected filter, draft.subqueries.map Subquery.toItem = projected.map .ok ∧
      filterOf (draft.conditions.map Condition.toExpr) = .ok filter ∧
      query = {
        items := draft.columns.map columnItem ++ projected
        table := draft.table
        filter := filter
        orderBy := draft.orderBy.map SortColumn.toKey
        limit := draft.range.map RowRange.toLimit } := by
  rcases draft with ⟨table, columns, subqueries, conditions, orderBy, range⟩
  rw [SelectDraft.toSelect] at converted
  split at converted
  · cases converted
  · simp only [Outcome.bind_eq_ok_iff, Outcome.collect_eq_ok_iff, Subquery.outcomes_eq_map,
      Condition.outcomes_eq_map] at converted
    rcases converted with ⟨projected, collected, filter, filtered, same⟩
    cases same
    exact ⟨projected, filter, collected, filtered, rfl⟩

theorem InsertDraft.of_toInsert {draft : InsertDraft} {command : Insert}
    (converted : draft.toInsert = .ok command) :
    ∃ cells, (draft.rows.getD []).map (Row.bind draft.columns) = cells.map .ok ∧
      command = ⟨draft.table, draft.columns, cells⟩ := by
  unfold InsertDraft.toInsert at converted
  split at converted
  · cases converted
  · split at converted
    · cases converted
    · cases converted
    · rename_i rows given
      rcases Outcome.bind_eq_ok_iff.mp converted with ⟨cells, collected, same⟩
      cases same
      rw [given]
      exact ⟨cells, (Outcome.collectFrom_eq_ok_iff _ 0 _ cells).mp collected, rfl⟩

theorem UpdateDraft.of_toUpdate {draft : UpdateDraft} {command : Update}
    (converted : draft.toUpdate = .ok command) :
    ∃ assignments filter, draft.items.map SetItem.toAssignment = assignments.map .ok ∧
      draft.conditions ≠ [] ∧ (Condition.all draft.conditions).toExpr = .ok filter ∧
      command = ⟨draft.table, assignments, filter⟩ := by
  unfold UpdateDraft.toUpdate at converted
  split at converted
  · cases converted
  · split at converted
    · cases converted
    · simp only [Outcome.bind_eq_ok_iff, Outcome.collect_eq_ok_iff] at converted
      rcases converted with ⟨assignments, collected, filter, filtered, same⟩
      cases same
      rw [← Condition.outcomes_eq_map] at filtered
      exact ⟨assignments, filter, collected, ‹_›, filtered, rfl⟩

theorem DeleteDraft.of_toDelete {draft : DeleteDraft} {command : Delete}
    (converted : draft.toDelete = .ok command) :
    draft.conditions ≠ [] ∧ ∃ filter,
      (Condition.all draft.conditions).toExpr = .ok filter ∧
        command = ⟨draft.table, filter⟩ := by
  unfold DeleteDraft.toDelete at converted
  split at converted
  · cases converted
  · rcases Outcome.bind_eq_ok_iff.mp converted with ⟨filter, filtered, same⟩
    cases same
    rw [← Condition.outcomes_eq_map] at filtered
    exact ⟨‹_›, filter, filtered, rfl⟩

/-! ## Conditions over values -/

section Over

variable (value : Value → Prop) (query : SelectDraft → Prop)

mutual

/-- Every value that a condition compares or tests meets a condition, and so does every query in it. -/
def Condition.Over : Condition → Prop
  | .group _ members => Condition.OverAll members
  | .compare _ left right => value left ∧ value right
  | .isNull operand _ => value operand
  | .inArray operand elements _ => value operand ∧ value elements
  | .inList operand elements _ => value operand ∧ ∀ element ∈ elements, value element
  | .inQuery operand select _ => value operand ∧ query select
  | .between operand low high _ => value operand ∧ value low ∧ value high
  | .bool _ => True
  | .expr expression => value (.expr expression)
  | .wrapped condition => Condition.Over condition

def Condition.OverAll : List Condition → Prop
  | [] => True
  | condition :: rest => Condition.Over condition ∧ Condition.OverAll rest

end

@[simp]
theorem Condition.overAll_iff (conditions : List Condition) :
    Condition.OverAll value query conditions ↔
      ∀ condition ∈ conditions, condition.Over value query := by
  induction conditions with
  | nil => simp [Condition.OverAll]
  | cons condition rest ih => simp [Condition.OverAll, ih]

end Over

/-! ## Induction over a conversion -/

/-- The cases of an induction over a condition and the expression that it converts to. -/
structure Condition.ConversionCases (motive : Condition → Expr → Prop) : Prop where
  group : ∀ connective members first rest, List.Forall₂ motive members (first :: rest) →
    motive (.group connective members) (first.chain connective rest)
  compare : ∀ operator left right leftExpr rightExpr, left.toExpr = .ok leftExpr →
    right.toExpr = .ok rightExpr →
    motive (.compare operator left right) (.binary operator leftExpr rightExpr)
  isNull : ∀ operand negated tested, operand.toExpr = .ok tested →
    motive (.isNull operand negated) (.isNull tested negated)
  inArray : ∀ operand elements negated tested array, operand.toExpr = .ok tested →
    elements.toExpr = .ok array →
    motive (.inArray operand elements negated) (.isIn tested (.unnest array) negated)
  inList : ∀ operand elements negated tested listed, operand.toExpr = .ok tested →
    elements.map Value.toExpr = listed.map .ok →
    motive (.inList operand elements negated) (membership negated tested listed)
  inQuery : ∀ operand query negated tested select, operand.toExpr = .ok tested →
    query.toSelect = .ok select →
    motive (.inQuery operand query negated) (.isIn tested (.subquery select) negated)
  between : ∀ operand low high negated tested lower upper, operand.toExpr = .ok tested →
    low.toExpr = .ok lower → high.toExpr = .ok upper →
    motive (.between operand low high negated) (.between tested lower upper negated)
  bool : ∀ value, motive (.bool value) (.bool value)
  expr : ∀ expression, motive (.expr expression) expression
  wrapped : ∀ condition result, motive condition result → motive (.wrapped condition) result

mutual

/--
What relates every condition that converts to its expression, given how the parts
of each kind of condition have been converted.
-/
theorem Condition.toExpr_induction {motive : Condition → Expr → Prop}
    (cases : Condition.ConversionCases motive) :
    (condition : Condition) → (result : Expr) → condition.toExpr = .ok result →
      motive condition result
  | .group connective members, result, converted => by
      rw [Condition.toExpr, joined_eq_ok_iff] at converted
      rcases converted with ⟨first, rest, outcomes, rfl⟩
      exact cases.group connective members first rest
        (Condition.outcomes_induction cases members (first :: rest) outcomes)
  | .compare operator left right, result, converted => by
      simp only [Condition.toExpr, Outcome.bind_eq_ok_iff] at converted
      rcases converted with ⟨leftExpr, leftConverted, rightExpr, rightConverted, same⟩
      cases same
      exact cases.compare operator left right leftExpr rightExpr leftConverted rightConverted
  | .isNull operand negated, result, converted => by
      simp only [Condition.toExpr, Outcome.bind_eq_ok_iff] at converted
      rcases converted with ⟨tested, operandConverted, same⟩
      cases same
      exact cases.isNull operand negated tested operandConverted
  | .inArray operand elements negated, result, converted => by
      simp only [Condition.toExpr, Outcome.bind_eq_ok_iff] at converted
      rcases converted with ⟨tested, operandConverted, array, elementsConverted, same⟩
      cases same
      exact cases.inArray operand elements negated tested array operandConverted elementsConverted
  | .inList operand elements negated, result, converted => by
      simp only [Condition.toExpr, Outcome.bind_eq_ok_iff, Outcome.collect_eq_ok_iff,
        Value.outcomes_eq_map] at converted
      rcases converted with ⟨tested, operandConverted, listed, elementsConverted, same⟩
      cases same
      exact cases.inList operand elements negated tested listed operandConverted elementsConverted
  | .inQuery operand query negated, result, converted => by
      simp only [Condition.toExpr, Outcome.bind_eq_ok_iff] at converted
      rcases converted with ⟨tested, operandConverted, select, queryConverted, same⟩
      cases same
      exact cases.inQuery operand query negated tested select operandConverted queryConverted
  | .between operand low high negated, result, converted => by
      simp only [Condition.toExpr, Outcome.bind_eq_ok_iff] at converted
      obtain ⟨tested, operandConverted, lower, lowConverted, upper, highConverted, same⟩ :=
        converted
      cases same
      exact cases.between operand low high negated tested lower upper operandConverted lowConverted
        highConverted
  | .bool value, result, converted => by
      cases converted
      exact cases.bool value
  | .expr expression, result, converted => by
      cases converted
      exact cases.expr expression
  | .wrapped condition, result, converted =>
      cases.wrapped condition result (Condition.toExpr_induction cases condition result converted)

theorem Condition.outcomes_induction {motive : Condition → Expr → Prop}
    (cases : Condition.ConversionCases motive) :
    (conditions : List Condition) → (results : List Expr) →
      Condition.outcomes conditions = results.map .ok →
        List.Forall₂ motive conditions results
  | [], results, converted => by
      obtain rfl : results = [] := by simpa [Condition.outcomes] using converted.symm
      exact .nil
  | condition :: rest, results, converted => by
      cases results with
      | nil => simp [Condition.outcomes] at converted
      | cons first others =>
          simp only [Condition.outcomes, List.map_cons, List.cons.injEq] at converted
          exact .cons (Condition.toExpr_induction cases condition first converted.1)
            (Condition.outcomes_induction cases rest others converted.2)

end

/-! ## The nodes of a converted condition -/

namespace Expr

variable {expr : Expr} {connective : Connective}

theorem grouped_standsBeside (connective : Connective) (expr : Expr) :
    (expr.grouped connective).StandsBeside connective := by
  rintro rfl top
  unfold grouped at top
  split at top
  · split at top
    · rename_i inner found same
      rw [top] at found
      cases found
      cases same
    · cases top
  · rename_i other
    exact other .or top

theorem logical_standsBeside (connective : Connective) (left right : Expr) :
    (binary (.logical connective) left right).StandsBeside connective := by
  rintro rfl top
  cases top

section Nodes

variable {node : Expr → Prop} {query : Select → Prop}
variable (paren : ∀ inner, node (.paren inner))
variable (link : ∀ connective left right, Expr.StandsBeside connective left →
  Expr.StandsBeside connective right → node (.binary (.logical connective) left right))

include paren

theorem every_grouped (every : expr.Every node query) (connective : Connective) :
    (expr.grouped connective).Every node query := by
  unfold grouped
  split
  · split
    · exact every
    · exact ⟨paren expr, every⟩
  · exact every

include link

theorem every_foldl_link {rest : List Expr} (beside : expr.StandsBeside connective)
    (first : expr.Every node query) (others : ∀ next ∈ rest, next.Every node query) :
    (rest.foldl (Expr.link connective) expr).Every node query := by
  induction rest generalizing expr with
  | nil => exact first
  | cons next later ih =>
      rw [List.forall_mem_cons] at others
      apply ih
      · exact logical_standsBeside connective _ _
      · refine ⟨?_, first, every_grouped paren others.1 connective⟩
        exact link connective _ _ beside (grouped_standsBeside connective next)
      · exact others.2

theorem every_chain {rest : List Expr} (first : expr.Every node query)
    (others : ∀ next ∈ rest, next.Every node query) :
    (expr.chain connective rest).Every node query := by
  cases rest with
  | nil => exact first
  | cons next later =>
      have grouped := every_grouped paren first connective
      exact every_foldl_link paren link (grouped_standsBeside connective expr) grouped others

end Nodes

end Expr

section Every

variable {node : Expr → Prop} {query : Select → Prop}
variable (bool : ∀ value, node (.bool value)) (paren : ∀ inner, node (.paren inner))
variable (test : ∀ expr : Expr, expr.IsTest → node expr)
variable (link : ∀ connective left right, Expr.StandsBeside connective left →
  Expr.StandsBeside connective right → node (.binary (.logical connective) left right))

include bool paren test link

/--
Every node of a converted condition meets a condition, if those of its operands
and of its queries do.
-/
theorem Condition.every_toExpr {condition : Condition} {result : Expr}
    (covered : condition.Over
      (fun value => ∀ expr, value.toExpr = .ok expr → expr.IsOperand ∧ expr.Every node query)
      (fun draft => ∀ select, draft.toSelect = .ok select → select.Every node query))
    (converted : condition.toExpr = .ok result) : result.Every node query := by
  revert covered
  refine Condition.toExpr_induction
    (motive := fun condition result => condition.Over _ _ → result.Every node query)
    ?_ condition result converted
  constructor
  case group =>
    intro connective members first rest each covered
    have members := (Condition.overAll_iff _ _ _).mp covered
    -- The pairs of members and results are followed together, from a list of any length.
    have every : ∀ result ∈ first :: rest, result.Every node query := by
      clear covered
      generalize first :: rest = results at each ⊢
      induction each with
      | nil => simp
      | cons head _ ih =>
          rw [List.forall_mem_cons] at members ⊢
          exact ⟨head members.1, ih members.2⟩
    rw [List.forall_mem_cons] at every
    exact Expr.every_chain paren link every.1 every.2
  case compare =>
    intro operator left right leftExpr rightExpr leftConverted rightConverted covered
    rcases covered.1 leftExpr leftConverted with ⟨first, inFirst⟩
    rcases covered.2 rightExpr rightConverted with ⟨second, inSecond⟩
    refine ⟨?_, inFirst, inSecond⟩
    cases operator with
    | logical connective =>
        exact link connective _ _ (first.standsBeside connective)
          (second.standsBeside connective)
    | _ => exact test _ ⟨rfl, first, second⟩
  case isNull =>
    intro operand negated tested converted covered
    rcases covered tested converted with ⟨isOperand, every⟩
    exact ⟨test _ isOperand, every⟩
  case inArray =>
    intro operand elements negated tested array converted elementsConverted covered
    rcases covered.1 tested converted with ⟨isOperand, every⟩
    exact ⟨test _ isOperand, every, (covered.2 array elementsConverted).2⟩
  case inList =>
    intro operand elements negated tested listed converted elementsConverted covered
    rcases covered.1 tested converted with ⟨isOperand, every⟩
    have each : ∀ expr ∈ listed, expr.Every node query := by
      intro expr member
      obtain ⟨element, inside, elementConverted⟩ :=
        Outcome.exists_of_mem elementsConverted member
      exact (covered.2 element inside expr elementConverted).2
    cases listed with
    | nil => exact bool negated
    | cons head tail =>
        exact ⟨test _ isOperand, every, (Expr.everyAll_iff _ _ _).mpr each⟩
  case inQuery =>
    intro operand draft negated tested select converted draftConverted covered
    rcases covered.1 tested converted with ⟨isOperand, every⟩
    exact ⟨test _ isOperand, every, covered.2 select draftConverted⟩
  case between =>
    intro operand low high negated tested lower upper converted lowConverted highConverted covered
    rcases covered.1 tested converted with ⟨first, inFirst⟩
    rcases covered.2.1 lower lowConverted with ⟨second, inSecond⟩
    rcases covered.2.2 upper highConverted with ⟨third, inThird⟩
    exact ⟨test _ ⟨first, second, third⟩, inFirst, inSecond, inThird⟩
  case bool =>
    intro value _
    exact bool value
  case expr =>
    intro expression covered
    exact (covered expression rfl).2
  case wrapped =>
    intro condition result every covered
    exact every covered

end Every

end SqlBuilder
