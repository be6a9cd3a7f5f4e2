import Mathlib.Data.List.Forall2
import SqlBuilder.Proofs.Conversion
import SqlBuilder.Proofs.Formula

/-!
# The truth of conditions

A condition is true, false or unknown, depending on what its comparisons and
tests come to.  The text that it is written as is read with the precedence of
the dialect, and comes to the same, whatever the truth of each comparison and
test is: a leaf of the text has the very tokens of the leaf of the condition in
the same place.
-/

namespace SqlBuilder

/-! ## The formula of a condition -/

def Expr.tokens (expr : Expr) : List SqlToken :=
  TokenTree.flatten expr.trees

/-- The parts of an expression. -/
def Expr.row (expr : Expr) : List (Part Inner) :=
  expr.parts Inner.ofParts

/-- The parts of an expression have the expression's tokens. -/
theorem Expr.tokens_row (expr : Expr) : expr.row.flatMap Part.tokens = expr.tokens :=
  TokenTree.tokens_parts expr.trees

/--
The formula of an operand that stands for a truth value itself.  An expression in
brackets comes to what stands in the brackets.
-/
def Expr.operandFormula : Expr → Formula
  | .null => .constant .unknown
  | .bool value => .constant (.ofBool value)
  | .paren inner =>
      (Formula.ofParts? inner.row).getD (.leaf (Expr.paren inner).tokens)
  | expr => .leaf expr.tokens

/-- The tokens that a conversion ends with. -/
def Outcome.tokens : Outcome Expr → List SqlToken
  | .ok expr => expr.tokens
  | .error _ => []

@[simp]
theorem Outcome.tokens_ok (expr : Expr) : Outcome.tokens (.ok expr) = expr.tokens := rfl

/-- The formula of an operand that is converted first. -/
def Outcome.operandFormula : Outcome Expr → Formula
  | .ok expr => expr.operandFormula
  | .error _ => .leaf []

@[simp]
theorem Outcome.operandFormula_ok (expr : Expr) :
    Outcome.operandFormula (.ok expr) = expr.operandFormula := rfl

mutual

/--
The formula of a condition.  A comparison by a connective joins its two operands,
and an operand that is looked up among no values has a fixed truth value.
-/
def Condition.formula : Condition → Formula
  | .group connective members => .chain connective (Condition.formulas members)
  | .compare (.logical connective) left right =>
      .join connective (Outcome.operandFormula left.toExpr)
        (Outcome.operandFormula right.toExpr)
  | .inList _ [] negated => .constant (.ofBool negated)
  | .bool value => .constant (.ofBool value)
  | .expr expression => expression.operandFormula
  | .wrapped condition => condition.formula
  | test => .leaf (Outcome.tokens test.toExpr)

def Condition.formulas : List Condition → List Formula
  | [] => []
  | condition :: rest => condition.formula :: Condition.formulas rest

end

@[simp]
theorem Condition.formulas_eq_map (conditions : List Condition) :
    Condition.formulas conditions = conditions.map Condition.formula := by
  induction conditions with
  | nil => rfl
  | cons condition rest ih => simp [Condition.formulas, ih]

/-! ## Expressions that mean a formula -/

namespace Expr

variable {expr left right : Expr} {formula other : Formula}

/--
The row of an expression comes to the same as a formula, read at the level of
the expression's top operator.
-/
def Means (expr : Expr) (formula : Formula) : Prop :=
  match expr.topOperator? with
  | some (.logical connective) => connective.RowMeans expr.row formula
  | _ => FactorMeans expr.row formula

theorem Means.disjunction (means : expr.Means formula) :
    Connective.or.RowMeans expr.row formula := by
  unfold Means at means
  split at means
  · exact means.disjunction
  · exact means.rowMeans .or

theorem row_paren (inner : Expr) :
    (paren inner).row = [.group .round (Inner.ofParts inner.row)] := by
  simp [row, parts, trees]

/-- An expression in brackets is a factor. -/
theorem Means.paren (means : Connective.or.RowMeans expr.row formula) :
    FactorMeans (Expr.paren expr).row formula := by
  rcases means.ofParts? with ⟨reading, read, same⟩
  have inside : (Inner.ofParts expr.row).reading = some reading := read
  rw [row_paren]
  refine ⟨Part.IsFactor.of_ordinary ?_, reading, ?_, same⟩
  · simp only [List.mem_singleton, forall_eq]
    exact ⟨rfl, rfl, rfl⟩
  · simp [Formula.factor?, Part.inExpr, inside]

/-- What is put in brackets for a connective is a row of the connective's level. -/
theorem Means.grouped (means : expr.Means formula) (connective : Connective) :
    connective.RowMeans (expr.grouped connective).row formula := by
  unfold Means at means
  unfold Expr.grouped
  cases top : expr.topOperator? with
  | none =>
      rw [top] at means
      exact means.rowMeans connective
  | some operator =>
      rw [top] at means
      cases operator with
      | logical inner =>
          by_cases same : inner = connective
          · subst same
            simpa using means
          · simpa [same] using (Means.paren means.disjunction).rowMeans connective
      | _ => exact means.rowMeans connective

theorem row_logical (connective : Connective) (left right : Expr) :
    (Expr.binary (.logical connective) left right).row =
      left.row ++ .word (.keyword connective.sql) :: right.row := by
  simp [Expr.row, Expr.parts_binary, Operator.words]

theorem rowMeans_logical {connective : Connective}
    (first : connective.RowMeans left.row formula)
    (second : connective.RowMeans right.row other) :
    connective.RowMeans (Expr.binary (.logical connective) left right).row
      (.join connective formula other) := by
  rw [row_logical]
  exact first.join second

theorem rowMeans_foldl_link {connective : Connective} {rest : List Expr}
    {formulas : List Formula} (first : connective.RowMeans expr.row formula)
    (others : List.Forall₂ Expr.Means rest formulas) :
    connective.RowMeans (rest.foldl (Expr.link connective) expr).row
      (formulas.foldl (.join connective) formula) := by
  induction others generalizing expr formula with
  | nil => exact first
  | cons next _ ih => exact ih (rowMeans_logical first (next.grouped connective))

theorem topOperator?_foldl_link (connective : Connective) (rest : List Expr)
    (next : Expr) (chain : Expr) :
    ((next :: rest).foldl (Expr.link connective) chain).topOperator? =
      some (.logical connective) := by
  induction rest generalizing next chain with
  | nil => rfl
  | cons later others ih => exact ih later (Expr.link connective chain next)

theorem means_chain {connective : Connective} {rest : List Expr} {formulas : List Formula}
    (first : expr.Means formula) (others : List.Forall₂ Expr.Means rest formulas) :
    (expr.chain connective rest).Means (.chain connective (formula :: formulas)) := by
  cases others with
  | nil => exact first
  | cons next later =>
      have row := rowMeans_foldl_link (first.grouped connective) (.cons next later)
      unfold Means
      rw [Expr.chain, topOperator?_foldl_link]
      · exact row
      · exact List.cons_ne_nil _ _

end Expr

/-! ## Operands and tests -/

theorem truth?_floatWord (digits : String) : (floatWord digits).truth? = none := by
  unfold floatWord
  split <;> rfl

namespace Expr

variable {expr : Expr} {formula : Formula}

theorem isOpaque_select (query : Select) :
    (Part.group .round
      (Inner.ofParts (query.trees.map (TokenTree.part Inner.ofParts)))).IsOpaque := by
  rcases query with ⟨items, table, filter, orderBy, limit⟩
  simp [Part.IsOpaque, Inner.ofParts, Select.trees, Formula.ofParts?_select]

theorem isFactor_of_isOperand (operand : expr.IsOperand) : Part.IsFactor expr.row :=
  .of_ordinary fun part member => (inTest_parts Inner.ofParts operand part member).ordinary

theorem factorMeans_of_isOpaque (operand : expr.IsOperand)
    (closed : ∀ tree ∈ expr.trees, (tree.part Inner.ofParts).IsOpaque) :
    FactorMeans expr.row (.leaf expr.tokens) := by
  have read := Formula.factor?_of_isOpaque (parts_ne_nil Inner.ofParts operand)
    (inExpr_parts Inner.ofParts expr) (List.forall_mem_map.mpr closed)
  rw [← tokens_row]
  exact ⟨isFactor_of_isOperand operand, _, read, .refl _⟩

/-- Brackets come to what stands in them. -/
theorem factorMeans_paren (inner : Expr) :
    FactorMeans (paren inner).row (paren inner).operandFormula := by
  have operand : (paren inner).IsOperand := trivial
  refine ⟨isFactor_of_isOperand operand, _, ?_, .refl _⟩
  have whole := tokens_row (.paren inner)
  rw [row_paren] at whole ⊢
  simp only [List.flatMap_cons, List.flatMap_nil, List.append_nil] at whole
  simp [Formula.factor?, Part.inExpr, operandFormula, Inner.ofParts, ← whole]

/-- An operand that stands for a truth value is a factor. -/
theorem factorMeans_operandFormula (operand : expr.IsOperand) :
    FactorMeans expr.row expr.operandFormula := by
  cases expr with
  | null => exact ⟨isFactor_of_isOperand operand, _, rfl, .refl _⟩
  | bool value => cases value <;> exact ⟨isFactor_of_isOperand operand, _, rfl, .refl _⟩
  | paren inner => exact factorMeans_paren inner
  | integer digits =>
      apply factorMeans_of_isOpaque operand
      have words := forall_mem_signedWords (fun word => word.truth? = none) .integer
        rfl rfl (fun _ => rfl) digits.toList
      simpa [trees, integerWords, Part.IsOpaque] using words
  | float digits =>
      apply factorMeans_of_isOpaque operand
      have words := forall_mem_signedWords (fun word => word.truth? = none) floatWord
        rfl rfl truth?_floatWord digits.toList
      simpa [trees, floatWords, Part.IsOpaque] using words
  | path segments =>
      apply factorMeans_of_isOpaque operand
      intro tree member
      have words := forall_mem_pathTrees (fun word => word.truth? = none)
        rfl (fun _ => rfl) segments
      rcases words tree member with ⟨word, rfl, closed⟩
      simpa [Part.IsOpaque] using closed
  | subquery form query =>
      apply factorMeans_of_isOpaque operand
      have closed := isOpaque_select query
      cases form with
      | scalar => simpa [trees] using closed
      | array => simpa [trees, Part.IsOpaque, Word.truth?] using closed
  | binary => exact operand.elim
  | isNull => exact operand.elim
  | isIn => exact operand.elim
  | between => exact operand.elim
  | _ =>
      apply factorMeans_of_isOpaque operand
      simp [trees, Part.IsOpaque, Word.truth?]

/-- An expression without a connective at its top means what its row means as a factor. -/
theorem means_of_factor
    (noConnective : ∀ connective, expr.topOperator? ≠ some (.logical connective))
    (means : FactorMeans expr.row formula) : expr.Means formula := by
  unfold Means
  split
  · rename_i connective top
    exact absurd top (noConnective connective)
  · exact means

theorem means_operandFormula (operand : expr.IsOperand) : expr.Means expr.operandFormula := by
  refine means_of_factor (fun connective => ?_) (factorMeans_operandFormula operand)
  simp [operand.topOperator?_eq_none]

theorem means_test (test : expr.IsTest) : expr.Means (.leaf expr.tokens) := by
  have read := Formula.factor?_of_two_le (two_le_length_parts Inner.ofParts test)
    (inExpr_parts Inner.ofParts expr)
  refine means_of_factor (fun connective top => ?_) ?_
  · cases expr with
    | binary operator left right =>
        obtain rfl : operator = .logical connective := by simpa using top
        cases test.1
    | _ => cases top
  · rw [← tokens_row]
    exact ⟨isFactor_of_isTest Inner.ofParts test, _, read, .refl _⟩

end Expr

/-! ## Conditions over operands -/

/-- A value converts, where it converts, to a well-spelled operand. -/
def Value.IsAtomic (value : Value) : Prop :=
  ∀ expr, value.toExpr = .ok expr → expr.IsOperand ∧ expr.WellSpelled

/-- A condition compares and tests atomic values, and the queries in it are well spelled. -/
def Condition.IsAtomic (condition : Condition) : Prop :=
  condition.Over Value.IsAtomic fun query =>
    ∀ select, query.toSelect = .ok select → select.WellSpelled

namespace Condition

variable {left right operand low high : Value} {tested lower upper : Expr}

/-- A comparison by a connective joins its operands; every other one is a leaf. -/
theorem means_compare {operator : Operator} {leftExpr rightExpr : Expr}
    (first : leftExpr.IsOperand) (second : rightExpr.IsOperand)
    (leftConverted : left.toExpr = .ok leftExpr)
    (rightConverted : right.toExpr = .ok rightExpr) :
    (Expr.binary operator leftExpr rightExpr).Means
      (Condition.compare operator left right).formula := by
  have leaf (comparison : operator.isLogical = false) :
      (Expr.binary operator leftExpr rightExpr).Means
        (.leaf (Expr.binary operator leftExpr rightExpr).tokens) :=
    Expr.means_test ⟨comparison, first, second⟩
  cases operator with
  | logical connective =>
      have leftRow := (Expr.factorMeans_operandFormula first).rowMeans connective
      have rightRow := (Expr.factorMeans_operandFormula second).rowMeans connective
      have row := Expr.rowMeans_logical leftRow rightRow
      simpa [Condition.formula, leftConverted, rightConverted, Expr.Means] using row
  | _ =>
      simpa [Condition.formula, Condition.toExpr, leftConverted, rightConverted] using leaf rfl

/-- Among no values an operand has a fixed truth value; among others its test is a leaf. -/
theorem means_membership {elements : List Value} {negated : Bool} {listed : List Expr}
    (first : tested.IsOperand) (converted : operand.toExpr = .ok tested)
    (elementsConverted : elements.map Value.toExpr = listed.map .ok) :
    (membership negated tested listed).Means
      (Condition.inList operand elements negated).formula := by
  cases elements with
  | nil =>
      obtain rfl : listed = [] := by simpa using elementsConverted.symm
      have constant : (Expr.bool negated).IsOperand := trivial
      exact Expr.means_operandFormula constant
  | cons element rest =>
      cases listed with
      | nil => simp at elementsConverted
      | cons head tail =>
          have test : (Expr.isIn tested (.values (head :: tail)) negated).IsTest := first
          have collected : Outcome.collect (element.toExpr :: rest.map Value.toExpr) =
              .ok (head :: tail) := Outcome.collect_eq_ok_iff.mpr elementsConverted
          simpa [Condition.formula, Condition.toExpr, converted, collected, membership] using
            Expr.means_test test

theorem forall₂_means {members : List Condition} {results : List Expr}
    (each : List.Forall₂
      (fun condition result => condition.IsAtomic → result.Means condition.formula)
      members results)
    (atomic : ∀ member ∈ members, member.IsAtomic) :
    List.Forall₂ Expr.Means results (Condition.formulas members) := by
  induction each with
  | nil => exact .nil
  | cons head _ ih =>
      rw [List.forall_mem_cons] at atomic
      exact .cons (head atomic.1) (ih atomic.2)

/-- What a condition converts to means the condition's formula. -/
theorem means {condition : Condition} {result : Expr} (atomic : condition.IsAtomic)
    (converted : condition.toExpr = .ok result) : result.Means condition.formula := by
  revert atomic
  refine Condition.toExpr_induction
    (motive := fun condition result => condition.IsAtomic → result.Means condition.formula)
    ?_ condition result converted
  constructor
  case group =>
    intro connective members first rest each atomic
    have meant := forall₂_means each ((Condition.overAll_iff _ _ _).mp atomic)
    rw [Condition.formula]
    -- A chain of formulas may be empty, a chain of expressions may not.
    generalize Condition.formulas members = formulas at meant ⊢
    cases meant with
    | cons head tail => exact Expr.means_chain head tail
  case compare =>
    intro operator left right leftExpr rightExpr leftConverted rightConverted atomic
    exact means_compare (atomic.1 leftExpr leftConverted).1 (atomic.2 rightExpr rightConverted).1
      leftConverted rightConverted
  case isNull =>
    intro operand negated tested converted atomic
    have test : (Expr.isNull tested negated).IsTest := (atomic tested converted).1
    simpa [Condition.formula, Condition.toExpr, converted] using Expr.means_test test
  case inArray =>
    intro operand elements negated tested array converted elementsConverted atomic
    have test : (Expr.isIn tested (.unnest array) negated).IsTest :=
      (atomic.1 tested converted).1
    simpa [Condition.formula, Condition.toExpr, converted, elementsConverted] using
      Expr.means_test test
  case inList =>
    intro operand elements negated tested listed converted elementsConverted atomic
    exact means_membership (atomic.1 tested converted).1 converted elementsConverted
  case inQuery =>
    intro operand query negated tested select converted queryConverted atomic
    have test : (Expr.isIn tested (.subquery select) negated).IsTest :=
      (atomic.1 tested converted).1
    simpa [Condition.formula, Condition.toExpr, converted, queryConverted] using
      Expr.means_test test
  case between =>
    intro operand low high negated tested lower upper converted lowConverted highConverted atomic
    have test : (Expr.between tested lower upper negated).IsTest :=
      ⟨(atomic.1 tested converted).1, (atomic.2.1 lower lowConverted).1,
        (atomic.2.2 upper highConverted).1⟩
    simpa [Condition.formula, Condition.toExpr, converted, lowConverted, highConverted] using
      Expr.means_test test
  case bool =>
    intro value _
    have operand : (Expr.bool value).IsOperand := trivial
    exact Expr.means_operandFormula operand
  case expr =>
    intro expression atomic
    exact Expr.means_operandFormula (atomic expression rfl).1
  case wrapped =>
    intro condition result means atomic
    exact means atomic

end Condition

theorem Condition.wellSpelled {condition : Condition} {result : Expr}
    (atomic : condition.IsAtomic) (converted : condition.toExpr = .ok result) :
    result.WellSpelled := by
  refine Condition.every_toExpr (fun _ => trivial) (fun _ => trivial) (fun expr test => ?_)
    (fun _ _ _ _ _ => trivial) atomic converted
  cases expr <;> first | exact trivial | exact test.elim

/-! ## The text of a condition -/

/-- The text of a well-spelled expression comes to what the expression means. -/
theorem Expr.Means.evaluatesTo {expr : Expr} {formula : Formula} (means : expr.Means formula)
    (spelled : expr.WellSpelled) : expr.text.EvaluatesTo formula := by
  rcases means.disjunction.ofParts? with ⟨reading, read, same⟩
  refine ⟨reading, ?_, same⟩
  rw [Text.formula?, (expr.spells spelled).tokenize?_eq]
  simpa [Expr.row, Expr.parts] using read

theorem Condition.text_evaluatesTo {condition : Condition} {expr : Expr}
    (atomic : condition.IsAtomic) (converted : condition.toExpr = .ok expr) :
    expr.text.EvaluatesTo condition.formula :=
  (Condition.means atomic converted).evaluatesTo (Condition.wellSpelled atomic converted)

/-! ## The filter of a statement -/

/-- The filter of a statement, if it has one. -/
def Statement.filter? : Statement → Option Expr
  | .select query => query.filter
  | .insert _ => none
  | .update command => some command.filter
  | .delete command => some command.filter

/-- The conditions that a draft has to hold. -/
def Draft.conditions : Draft → List Condition
  | .select draft => draft.conditions
  | .insert _ => []
  | .update draft => draft.conditions
  | .delete draft => draft.conditions

/-- The conditions that a call adds. -/
def Call.conditions : Call → List Condition
  | .andWhere condition => [.wrapped condition]
  | .andWhereAll conditions => conditions
  | _ => []

theorem Draft.conditions_call {draft next : Draft} {call : Call}
    (called : draft.call? call = some next) :
    next.conditions = draft.conditions ++ call.conditions := by
  cases draft with
  | select inner =>
      rcases Option.map_eq_some_iff.mp called with ⟨after, made, rfl⟩
      cases call <;> simp only [SelectDraft.call?, Option.some.injEq, reduceCtorEq] at made
      all_goals
        subst made
        simp [Draft.conditions, Call.conditions, SelectDraft.andWhere, SelectDraft.andWhereAll,
          SelectDraft.project, SelectDraft.sortBy, SelectDraft.limitTo]
  | insert inner =>
      rcases Option.map_eq_some_iff.mp called with ⟨after, made, rfl⟩
      cases call <;> simp only [InsertDraft.call?, Option.some.injEq, reduceCtorEq] at made
      all_goals rfl
  | update inner =>
      rcases Option.map_eq_some_iff.mp called with ⟨after, made, rfl⟩
      cases call <;> simp only [UpdateDraft.call?, Option.some.injEq, reduceCtorEq] at made
      all_goals
        subst made
        simp [Draft.conditions, Call.conditions, UpdateDraft.andWhere, UpdateDraft.andWhereAll,
          UpdateDraft.assign]
  | delete inner =>
      rcases Option.map_eq_some_iff.mp called with ⟨after, made, rfl⟩
      cases call <;> simp only [DeleteDraft.call?, Option.some.injEq, reduceCtorEq] at made
      all_goals
        subst made
        simp [Draft.conditions, Call.conditions, DeleteDraft.andWhere, DeleteDraft.andWhereAll]

/-- Calls one after another add their conditions in order. -/
theorem Draft.conditions_calls {draft next : Draft} {calls : List Call}
    (called : calls.foldlM Draft.call? draft = some next) :
    next.conditions = draft.conditions ++ calls.flatMap Call.conditions := by
  induction calls generalizing draft with
  | nil =>
      cases called
      simp
  | cons call rest ih =>
      rw [List.foldlM_cons] at called
      rcases Option.bind_eq_some_iff.mp called with ⟨after, made, others⟩
      rw [ih others, Draft.conditions_call made]
      simp

/-- The filter of a statement is the conversion of all the conditions of its draft together. -/
theorem Draft.filter?_toStatement {draft : Draft} {statement : Statement}
    (converted : draft.toStatement = .ok statement) :
    draft.conditions = [] ∧ statement.filter? = none ∨
      draft.conditions ≠ [] ∧ ∃ filter, statement.filter? = some filter ∧
        (Condition.all draft.conditions).toExpr = .ok filter := by
  cases draft with
  | select inner =>
      rcases Outcome.map_eq_ok_iff.mp converted with ⟨query, made, rfl⟩
      rcases SelectDraft.of_toSelect made with ⟨projected, filter, _, filtered, rfl⟩
      rw [← Condition.outcomes_eq_map] at filtered
      rcases filterOf_eq_ok_iff.mp filtered with ⟨empty, rfl⟩ | ⟨present, expr, joined, rfl⟩
      · have none : inner.conditions = [] := by simpa using empty
        exact Or.inl ⟨none, rfl⟩
      · have some : inner.conditions ≠ [] := by simpa using present
        exact Or.inr ⟨some, expr, rfl, joined⟩
  | insert inner =>
      rcases Outcome.map_eq_ok_iff.mp converted with ⟨command, _, rfl⟩
      exact Or.inl ⟨rfl, rfl⟩
  | update inner =>
      rcases Outcome.map_eq_ok_iff.mp converted with ⟨command, made, rfl⟩
      rcases UpdateDraft.of_toUpdate made with ⟨assignments, filter, _, present, filtered, rfl⟩
      exact Or.inr ⟨present, filter, rfl, filtered⟩
  | delete inner =>
      rcases Outcome.map_eq_ok_iff.mp converted with ⟨command, made, rfl⟩
      rcases DeleteDraft.of_toDelete made with ⟨present, filter, filtered, rfl⟩
      exact Or.inr ⟨present, filter, rfl, filtered⟩

theorem Statement.text_filter {statement : Statement} {filter : Expr}
    (present : statement.filter? = some filter) :
    ∃ before after,
      statement.text = before ++ clause "WHERE" (some filter.text) ++ after := by
  cases statement with
  | select query =>
      rcases query with ⟨items, table, condition, orderBy, limit⟩
      obtain rfl : condition = some filter := present
      refine ⟨"SELECT ".toList ++ Text.commaSeparated (SelectItem.texts items) ++
        " FROM ".toList ++ identifier table,
        clause "ORDER BY" (listBody (OrderKey.texts orderBy)) ++
          clause "LIMIT" (Limit.text? limit), ?_⟩
      rw [← List.append_assoc]
      rfl
  | insert command => cases present
  | update command =>
      cases present
      exact ⟨_, [], (List.append_nil _).symm⟩
  | delete command =>
      cases present
      exact ⟨_, [], (List.append_nil _).symm⟩

/--
The text of a condition comes to what the condition does, whatever the truth of
its comparisons and tests.  The filter of a statement comes to what all the
conditions together do that its draft has been given by any calls, and there is
no filter exactly where there are none.
-/
theorem text_evaluatesTo_formula :
    (∀ (condition : Condition) (expr : Expr), condition.IsAtomic →
      condition.toExpr = .ok expr → expr.text.EvaluatesTo condition.formula) ∧
    ∀ (start draft : Draft) (calls : List Call) (statement : Statement),
      calls.foldlM Draft.call? start = some draft →
      draft.toStatement = .ok statement →
      (∀ condition ∈ start.conditions ++ calls.flatMap Call.conditions, condition.IsAtomic) →
      (statement.filter? = none ↔
        start.conditions ++ calls.flatMap Call.conditions = []) ∧
      ∀ filter, statement.filter? = some filter →
        filter.text.EvaluatesTo
          (.chain .and ((start.conditions ++ calls.flatMap Call.conditions).map
            Condition.formula)) ∧
        ∃ before after,
          statement.text = before ++ clause "WHERE" (some filter.text) ++ after := by
  constructor
  · intro condition expr atomic converted
    exact Condition.text_evaluatesTo atomic converted
  · intro start draft calls statement called converted atomic
    rw [← Draft.conditions_calls called] at atomic ⊢
    rcases Draft.filter?_toStatement converted with
      ⟨empty, absent⟩ | ⟨present, filter, found, joined⟩
    · refine ⟨iff_of_true absent empty, ?_⟩
      intro filter found
      rw [absent] at found
      cases found
    · refine ⟨iff_of_false (by simp [found]) present, ?_⟩
      intro other same
      obtain rfl : filter = other := Option.some.inj (found.symm.trans same)
      refine ⟨?_, Statement.text_filter found⟩
      have together : (Condition.all draft.conditions).IsAtomic :=
        (Condition.overAll_iff _ _ _).mpr atomic
      have evaluates := Condition.text_evaluatesTo together joined
      rwa [Condition.all, Condition.formula, Condition.formulas_eq_map] at evaluates

/-! ## A filter of several levels -/

theorem Value.isAtomic_int (value : Int64) : (Value.int value).IsAtomic := by
  intro expr converted
  cases converted
  exact ⟨trivial, value, rfl⟩

theorem Value.isAtomic_identifier (identifier : Identifier) :
    (Value.identifier identifier).IsAtomic := by
  intro expr converted
  rw [Value.toExpr, Identifier.toExpr] at converted
  split at converted
  · cases converted
  · cases converted
    exact ⟨‹_›, trivial⟩

/-- Each connective below the other, with a BETWEEN and an empty list of values. -/
def nestedCondition : Condition :=
  .any
    [.all
      [.between (.identifier ⟨["a"]⟩) (.int 1) (.int 2) false,
        .any [.isNull (.identifier ⟨["b"]⟩) true, .inList (.identifier ⟨["c"]⟩) [] true]],
      .compare .less (.identifier ⟨["d"]⟩) (.int 3)]

theorem nestedCondition_isAtomic : nestedCondition.IsAtomic := by
  have number := Value.isAtomic_int
  have name := Value.isAtomic_identifier
  exact
    ⟨⟨⟨name _, number _, number _⟩,
      ⟨name _, ⟨name _, fun _ member => absurd member List.not_mem_nil⟩, trivial⟩, trivial⟩,
      ⟨name _, number _⟩, trivial⟩

theorem nestedCondition_evaluatesTo :
    (∃ expr, nestedCondition.toExpr = .ok expr ∧
      expr.text.EvaluatesTo nestedCondition.formula) ∧
    ∃ statement filter,
      (Draft.delete ⟨"t", [nestedCondition, nestedCondition]⟩).toStatement = .ok statement ∧
      statement.filter? = some filter ∧
      filter.text.EvaluatesTo
        (.chain .and [nestedCondition.formula, nestedCondition.formula]) := by
  constructor
  · exact ⟨_, rfl, text_evaluatesTo_formula.1 _ _ nestedCondition_isAtomic rfl⟩
  · have each : ∀ condition ∈ [.wrapped nestedCondition, nestedCondition],
        condition.IsAtomic := by
      rw [List.forall_mem_cons, List.forall_mem_singleton]
      exact ⟨nestedCondition_isAtomic, nestedCondition_isAtomic⟩
    have filtered := text_evaluatesTo_formula.2 (.delete (.ofTable "t")) _
      [.andWhere nestedCondition, .andWhereAll [nestedCondition]] _ rfl rfl each
    exact ⟨_, _, rfl, rfl, (filtered.2 _ rfl).1⟩

end SqlBuilder
