import SqlBuilder.Value.Basic

/-!
# Conversion

Values and conditions convert to expressions, drafts of SELECT to queries.  The
operands of a condition are converted from left to right, and the first error is
the error of the whole.  Only the elements of a sequence have their position
noted in the error.

A condition with an empty list of values to be among has a fixed truth value,
but its operand is converted all the same.
-/

namespace SqlBuilder

/-- A column of the table as a projected item. -/
def columnItem (column : String) : SelectItem :=
  ⟨.name column, none⟩

/-- The sort key of a column. -/
def SortColumn.toKey (sort : SortColumn) : OrderKey :=
  ⟨.name sort.column, some sort.direction⟩

/-- The limit of a row range, in INT64 literals. -/
def RowRange.toLimit (range : RowRange) : Limit :=
  ⟨.ofInt64 range.count, range.offset.map Expr.ofInt64⟩

/-- A membership test among converted values: fixed where there are none. -/
def membership (negated : Bool) (operand : Expr) : List Expr → Expr
  | [] => .bool negated
  | elements => .isIn operand (.values elements) negated

mutual

/-- The expression of a value. -/
def Value.toExpr : Value → Outcome Expr
  | .null => .ok .null
  | .string content => .ok (.string content)
  | .bytes content => .ok (.bytes content)
  | .int value => .ok (.ofInt64 value)
  | .uint value => Expr.ofUInt64 value
  | .bool value => .ok (.bool value)
  | .float64 value => .ok (.ofFloat value)
  | .float32 value => .ok (.ofFloat value)
  | .timestamp value => .ok (.ofTimestamp value)
  | .date value => .ok (.ofDate value)
  | .uuid value => .ok (.ofUuid value)
  | .present value => value.toExpr
  | .nullable payload valid => if valid then payload.toExpr else .ok .null
  | .wrapped value => value.toExpr
  | .sequence elements =>
      (Outcome.collectNoting .atIndex (Value.outcomes elements)).map .array
  | .dynamic value => .ok value.toExpr
  | .json value => value.toExpr
  | .expr expression => .ok expression
  | .identifier value => value.toExpr
  | .parameter value => .ok value.toExpr
  | .subquery value => value.toExpr

/-- The expressions of a list of values, each on its own. -/
def Value.outcomes : List Value → List (Outcome Expr)
  | [] => []
  | value :: rest => value.toExpr :: Value.outcomes rest

/-- The expression of a condition. -/
def Condition.toExpr : Condition → Outcome Expr
  | .group connective members => joined connective (Condition.outcomes members)
  | .compare operator left right => do
      let left ← left.toExpr
      let right ← right.toExpr
      return .binary operator left right
  | .isNull operand negated => do
      let operand ← operand.toExpr
      return .isNull operand negated
  | .inArray operand elements negated => do
      let operand ← operand.toExpr
      let elements ← elements.toExpr
      return .isIn operand (.unnest elements) negated
  | .inList operand elements negated => do
      let operand ← operand.toExpr
      let elements ← Outcome.collect (Value.outcomes elements)
      return membership negated operand elements
  | .inQuery operand query negated => do
      let operand ← operand.toExpr
      let query ← query.toSelect
      return .isIn operand (.subquery query) negated
  | .between operand low high negated => do
      let operand ← operand.toExpr
      let low ← low.toExpr
      let high ← high.toExpr
      return .between operand low high negated
  | .bool value => .ok (.bool value)
  | .expr expression => .ok expression
  | .wrapped condition => condition.toExpr

/-- The expressions of a list of conditions, each on its own. -/
def Condition.outcomes : List Condition → List (Outcome Expr)
  | [] => []
  | condition :: rest => condition.toExpr :: Condition.outcomes rest

/-- The expression of a subquery.  The name of its column is left aside. -/
def Subquery.toExpr : Subquery → Outcome Expr
  | ⟨form, query, _⟩ => query.toSelect.map (.subquery form)

/-- The projected item of a subquery, with the name of its column. -/
def Subquery.toItem : Subquery → Outcome SelectItem
  | ⟨form, query, label⟩ => query.toSelect.map fun query => ⟨.subquery form query, label⟩

/-- The projected items of a list of subqueries, each on its own. -/
def Subquery.outcomes : List Subquery → List (Outcome SelectItem)
  | [] => []
  | subquery :: rest => subquery.toItem :: Subquery.outcomes rest

/--
The query of a draft, which has to have a column.  Projected subqueries are
converted before conditions.
-/
def SelectDraft.toSelect : SelectDraft → Outcome Select
  | ⟨table, columns, subqueries, conditions, orderBy, range⟩ =>
      if columns = [] then
        .error (.invalid .selectWithoutColumns)
      else do
        let projected ← Outcome.collect (Subquery.outcomes subqueries)
        let filter ← filterOf (Condition.outcomes conditions)
        return {
          items := columns.map columnItem ++ projected
          table := table
          filter := filter
          orderBy := orderBy.map SortColumn.toKey
          limit := range.map RowRange.toLimit }

end

@[simp]
theorem Value.outcomes_eq_map (values : List Value) :
    Value.outcomes values = values.map Value.toExpr := by
  induction values with
  | nil => rfl
  | cons value rest ih => simp [Value.outcomes, ih]

@[simp]
theorem Condition.outcomes_eq_map (conditions : List Condition) :
    Condition.outcomes conditions = conditions.map Condition.toExpr := by
  induction conditions with
  | nil => rfl
  | cons condition rest ih => simp [Condition.outcomes, ih]

@[simp]
theorem Subquery.outcomes_eq_map (subqueries : List Subquery) :
    Subquery.outcomes subqueries = subqueries.map Subquery.toItem := by
  induction subqueries with
  | nil => rfl
  | cons subquery rest ih => simp [Subquery.outcomes, ih]

end SqlBuilder
