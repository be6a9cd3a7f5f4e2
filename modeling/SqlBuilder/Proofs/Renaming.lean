import SqlBuilder.Program
import SqlBuilder.Proofs.RecordColumns
import SqlBuilder.Proofs.Traversal

/-!
# Parameters under other names

Everything that holds parameters can be given other names for them: an
expression, a value, a condition, a row, a draft.  Nothing else about it changes,
and conversion does not look at the names.  So it makes no difference whether
parameters are renamed before a conversion or after it, and what fails under one
choice of names fails under every other with the same error.
-/

namespace SqlBuilder

/-- Changed items convert to changed results if each of them does. -/
theorem Outcome.map_changed {α β : Type} {change : α → α} {convert : α → Outcome β}
    {result : β → β} (each : ∀ item, convert (change item) = (convert item).map result)
    (items : List α) :
    (items.map change).map convert = (items.map convert).map (Except.map result) := by
  rw [List.map_map, List.map_map]
  exact List.map_congr_left fun item _ => each item

section Renaming

variable (rename : String → String)

/-! ## Expressions and statements -/

/-- A parameter under its new name.  Every other node stays as it is. -/
def Expr.withNewName : Expr → Expr
  | .parameter name => .parameter (rename name)
  | expr => expr

/-- An expression with new names for its parameters. -/
def Expr.renamed (expr : Expr) : Expr :=
  expr.rebuild (Expr.withNewName rename) id

def Candidates.renamed (candidates : Candidates) : Candidates :=
  candidates.rebuild (Expr.withNewName rename) id

def SelectItem.renamed (item : SelectItem) : SelectItem :=
  item.rebuild (Expr.withNewName rename) id

def Select.renamed (query : Select) : Select :=
  query.rebuild (Expr.withNewName rename) id

/-- A statement with new names for its parameters. -/
def Statement.renamed (statement : Statement) : Statement :=
  statement.rebuild (Expr.withNewName rename) id

@[simp]
theorem Expr.renamed_array (elements : List Expr) :
    (Expr.array elements).renamed rename = .array (elements.map (Expr.renamed rename)) := by
  rw [renamed, rebuild, rebuildAll_eq_map]
  rfl

@[simp]
theorem Expr.renamed_path (segments : List String) :
    (Expr.path segments).renamed rename = .path segments := by
  rw [renamed, rebuild, List.map_id]
  rfl

@[simp]
theorem Candidates.renamed_values (elements : List Expr) :
    (Candidates.values elements).renamed rename = .values (elements.map (Expr.renamed rename)) := by
  rw [renamed, rebuild, Expr.rebuildAll_eq_map]
  rfl

@[simp]
theorem SelectItem.renamed_mk (expr : Expr) (label : Option String) :
    (SelectItem.mk expr label).renamed rename = ⟨expr.renamed rename, label⟩ := by
  rw [renamed, rebuild, Option.map_id]
  rfl

theorem Select.renamed_mk (items : List SelectItem) (table : String) (filter : Option Expr)
    (orderBy : List OrderKey) (limit : Option Limit) :
    (Select.mk items table filter orderBy limit).renamed rename =
      ⟨items.map (SelectItem.renamed rename), table, filter.map (Expr.renamed rename),
        orderBy.map (OrderKey.rebuild (Expr.withNewName rename) id),
        limit.map (Limit.rebuild (Expr.withNewName rename) id)⟩ := by
  rw [renamed, rebuild, SelectItem.rebuildAll_eq_map, Expr.rebuild?_eq_map,
    OrderKey.rebuildAll_eq_map, Limit.rebuild?_eq_map]
  rfl

/-! ## Values, conditions and queries -/

/-- A parameter under its new name. -/
def Parameter.renamed (parameter : Parameter) : Parameter :=
  ⟨rename parameter.name⟩

mutual

/-- A dynamic value with new names for the parameters in its ready expressions. -/
def Datum.renamed : Datum → Datum
  | .array elements => .array (Datum.renamedAll elements)
  | .expr expression => .expr (expression.renamed rename)
  | datum => datum

def Datum.renamedAll : List Datum → List Datum
  | [] => []
  | datum :: rest => Datum.renamed datum :: Datum.renamedAll rest

end

mutual

/-- A value with new names for its parameters. -/
def Value.renamed : Value → Value
  | .present value => .present (Value.renamed value)
  | .nullable payload valid => .nullable (Value.renamed payload) valid
  | .wrapped value => .wrapped (Value.renamed value)
  | .sequence elements => .sequence (Value.renamedAll elements)
  | .dynamic datum => .dynamic (datum.renamed rename)
  | .expr expression => .expr (expression.renamed rename)
  | .parameter parameter => .parameter (parameter.renamed rename)
  | .subquery subquery => .subquery (Subquery.renamed subquery)
  | value => value

def Value.renamedAll : List Value → List Value
  | [] => []
  | value :: rest => Value.renamed value :: Value.renamedAll rest

/-- A condition with new names for its parameters. -/
def Condition.renamed : Condition → Condition
  | .group connective members => .group connective (Condition.renamedAll members)
  | .compare operator left right =>
      .compare operator (Value.renamed left) (Value.renamed right)
  | .isNull operand negated => .isNull (Value.renamed operand) negated
  | .inArray operand elements negated =>
      .inArray (Value.renamed operand) (Value.renamed elements) negated
  | .inList operand elements negated =>
      .inList (Value.renamed operand) (Value.renamedAll elements) negated
  | .inQuery operand query negated =>
      .inQuery (Value.renamed operand) (SelectDraft.renamed query) negated
  | .between operand low high negated =>
      .between (Value.renamed operand) (Value.renamed low) (Value.renamed high) negated
  | .bool value => .bool value
  | .expr expression => .expr (expression.renamed rename)
  | .wrapped condition => .wrapped (Condition.renamed condition)

def Condition.renamedAll : List Condition → List Condition
  | [] => []
  | condition :: rest => Condition.renamed condition :: Condition.renamedAll rest

def Subquery.renamed : Subquery → Subquery
  | ⟨form, query, label⟩ => ⟨form, SelectDraft.renamed query, label⟩

def Subquery.renamedAll : List Subquery → List Subquery
  | [] => []
  | subquery :: rest => Subquery.renamed subquery :: Subquery.renamedAll rest

/-- A draft of a SELECT with new names for its parameters. -/
def SelectDraft.renamed : SelectDraft → SelectDraft
  | ⟨table, columns, subqueries, conditions, orderBy, range⟩ =>
      ⟨table, columns, Subquery.renamedAll subqueries, Condition.renamedAll conditions, orderBy,
        range⟩

end

/-! ## Rows and drafts -/

/-- A record whose fields convert as before, with new names for their parameters. -/
def Record.renamed (record : Record) : Record :=
  { record with
    fieldExpr := fun position => (record.fieldExpr position).map (Expr.renamed rename) }

/-- A row with new names for its parameters.  A JSON value holds none. -/
def Row.renamed : Row → Row
  | .sequence cells => .sequence (cells.map (Value.renamed rename))
  | .tuple cells => .tuple (cells.map (Value.renamed rename))
  | .dynamic value => .dynamic (value.renamed rename)
  | .json value => .json value
  | .record value => .record (value.renamed rename)
  | .wrapped row => .wrapped (Row.renamed row)

def InsertDraft.renamed (draft : InsertDraft) : InsertDraft :=
  { draft with rows := draft.rows.map (List.map (Row.renamed rename)) }

def UpdateDraft.renamed (draft : UpdateDraft) : UpdateDraft :=
  { draft with
    items := draft.items.map fun item => ⟨item.target, item.value.renamed rename⟩
    conditions := draft.conditions.map (Condition.renamed rename) }

def DeleteDraft.renamed (draft : DeleteDraft) : DeleteDraft :=
  { draft with conditions := draft.conditions.map (Condition.renamed rename) }

/-- A draft with new names for its parameters. -/
def Draft.renamed : Draft → Draft
  | .select draft => .select (draft.renamed rename)
  | .insert draft => .insert (draft.renamed rename)
  | .update draft => .update (draft.renamed rename)
  | .delete draft => .delete (draft.renamed rename)

/-! ## Joining and testing -/

theorem Expr.topOperator?_renamed (expr : Expr) :
    (expr.renamed rename).topOperator? = expr.topOperator? := by
  cases expr <;> rfl

theorem Expr.renamed_grouped (connective : Connective) (expr : Expr) :
    (expr.grouped connective).renamed rename = (expr.renamed rename).grouped connective := by
  rw [grouped, grouped, topOperator?_renamed]
  cases expr.topOperator? with
  | none => rfl
  | some operator =>
      cases operator with
      | logical inner => exact apply_ite (Expr.renamed rename) _ _ _
      | _ => rfl

theorem Expr.renamed_foldl_link (connective : Connective) (front : Expr) (rest : List Expr) :
    (rest.foldl (link connective) front).renamed rename =
      (rest.map (Expr.renamed rename)).foldl (link connective) (front.renamed rename) := by
  induction rest generalizing front with
  | nil => rfl
  | cons next later ih =>
      have linked : (link connective front next).renamed rename =
          link connective (front.renamed rename) (next.renamed rename) := by
        rw [link, link, ← renamed_grouped]
        rfl
      rw [List.foldl_cons, ih, linked, List.map_cons, List.foldl_cons]

theorem Expr.renamed_chain (connective : Connective) (first : Expr) (rest : List Expr) :
    (first.chain connective rest).renamed rename =
      (first.renamed rename).chain connective (rest.map (Expr.renamed rename)) := by
  cases rest with
  | nil => rfl
  | cons next later =>
      rw [chain, renamed_foldl_link, renamed_grouped, List.map_cons, chain]
      · exact List.cons_ne_nil _ _
      · exact List.cons_ne_nil _ _

theorem joined_renamed (connective : Connective) (outcomes : List (Outcome Expr)) :
    joined connective (outcomes.map (Except.map (Expr.renamed rename))) =
      (joined connective outcomes).map (Expr.renamed rename) := by
  rw [joined, joined, Outcome.collect_map_map]
  cases Outcome.collect outcomes with
  | error cause => rfl
  | ok exprs =>
      cases exprs with
      | nil => rfl
      | cons first rest =>
          exact congrArg Except.ok (Expr.renamed_chain rename connective first rest).symm

theorem filterOf_renamed (outcomes : List (Outcome Expr)) :
    filterOf (outcomes.map (Except.map (Expr.renamed rename))) =
      (filterOf outcomes).map (Option.map (Expr.renamed rename)) := by
  cases outcomes with
  | nil => rfl
  | cons outcome rest =>
      show (joined .and ((outcome :: rest).map (Except.map (Expr.renamed rename)))).map some = _
      rw [joined_renamed, filterOf]
      · cases joined .and (outcome :: rest) <;> rfl
      · exact List.cons_ne_nil _ _

theorem membership_renamed (negated : Bool) (operand : Expr) (elements : List Expr) :
    membership negated (operand.renamed rename) (elements.map (Expr.renamed rename)) =
      (membership negated operand elements).renamed rename := by
  cases elements with
  | nil => rfl
  | cons first rest =>
      show Expr.isIn (operand.renamed rename) (.values ((first :: rest).map (Expr.renamed rename)))
          negated =
        .isIn (operand.renamed rename) ((Candidates.values (first :: rest)).renamed rename) negated
      rw [Candidates.renamed_values]

/-- Columns, sort keys and limits hold no parameters. -/
theorem Select.renamed_built (table : String) (columns : List String)
    (projected : List SelectItem) (filter : Option Expr) (orderBy : List SortColumn)
    (range : Option RowRange) :
    (Select.mk (columns.map columnItem ++ projected) table filter
        (orderBy.map SortColumn.toKey) (range.map RowRange.toLimit)).renamed rename =
      ⟨columns.map columnItem ++ projected.map (SelectItem.renamed rename), table,
        filter.map (Expr.renamed rename), orderBy.map SortColumn.toKey,
        range.map RowRange.toLimit⟩ := by
  have items : (columns.map columnItem).map (SelectItem.renamed rename) =
      columns.map columnItem := by
    rw [List.map_map]
    exact List.map_congr_left fun column _ => by
      show (SelectItem.mk (.path [column]) none).renamed rename = _
      rw [SelectItem.renamed_mk, Expr.renamed_path]
      rfl
  have keys : (orderBy.map SortColumn.toKey).map (OrderKey.rebuild (Expr.withNewName rename) id) =
      orderBy.map SortColumn.toKey := by
    rw [List.map_map]
    exact List.map_congr_left fun _ _ => rfl
  have limit : (range.map RowRange.toLimit).map (Limit.rebuild (Expr.withNewName rename) id) =
      range.map RowRange.toLimit := by
    rcases range with _ | ⟨count, offset⟩
    · rfl
    · cases offset <;> rfl
  rw [Select.renamed_mk, List.map_append, items, keys, limit]

/-! ## Conversion -/

mutual

theorem Datum.toExpr_renamed :
    (datum : Datum) → (datum.renamed rename).toExpr = datum.toExpr.renamed rename
  | .null => rfl
  | .string _ => rfl
  | .bytes _ => rfl
  | .int64 _ => rfl
  | .bool _ => rfl
  | .float64 _ => rfl
  | .timestamp _ => rfl
  | .date _ => rfl
  | .array elements => by
      rw [Datum.renamed, Datum.toExpr, Datum.toExpr, Datum.toExprs_renamed elements,
        Expr.renamed_array]
  | .expr _ => rfl

theorem Datum.toExprs_renamed :
    (data : List Datum) →
      Datum.toExprs (Datum.renamedAll rename data) =
        (Datum.toExprs data).map (Expr.renamed rename)
  | [] => rfl
  | datum :: rest => by
      rw [Datum.renamedAll, Datum.toExprs, Datum.toExprs, Datum.toExpr_renamed datum,
        Datum.toExprs_renamed rest, List.map_cons]

end

mutual

/-- No parameter comes from a JSON value. -/
theorem Json.map_renamed_toExpr :
    (json : Json) → json.toExpr.map (Expr.renamed rename) = json.toExpr
  | .null => rfl
  | .bool _ => rfl
  | .int _ => rfl
  | .uint value => by
      rw [Json.toExpr, Expr.ofUInt64]
      split <;> rfl
  | .float _ => rfl
  | .string _ => rfl
  | .array elements => by
      have same := congrArg (Outcome.collectNoting .atIndex) (Json.map_renamed_outcomes elements)
      rw [Outcome.collectNoting_map_map] at same
      rw [Json.toExpr]
      conv_rhs => rw [← same]
      cases Outcome.collectNoting .atIndex (Json.outcomes elements) with
      | error cause => rfl
      | ok exprs => exact congrArg Except.ok (Expr.renamed_array rename exprs)
  | .object _ => rfl

theorem Json.map_renamed_outcomes :
    (jsons : List Json) →
      (Json.outcomes jsons).map (Except.map (Expr.renamed rename)) = Json.outcomes jsons
  | [] => rfl
  | json :: rest => by
      rw [Json.outcomes, List.map_cons, Json.map_renamed_toExpr json,
        Json.map_renamed_outcomes rest]

end

mutual

/-- A value converts to what it converted to before, under the new names. -/
theorem Value.toExpr_renamed :
    (value : Value) →
      (value.renamed rename).toExpr = value.toExpr.map (Expr.renamed rename)
  | .null => rfl
  | .string _ => rfl
  | .bytes _ => rfl
  | .int _ => rfl
  | .uint value => by
      rw [Value.renamed, Value.toExpr, Expr.ofUInt64]
      · split <;> rfl
      all_goals exact nofun
  | .bool _ => rfl
  | .float64 _ => rfl
  | .float32 _ => rfl
  | .timestamp _ => rfl
  | .date _ => rfl
  | .uuid _ => rfl
  | .present value => by
      rw [Value.renamed, Value.toExpr, Value.toExpr, Value.toExpr_renamed value]
  | .nullable payload valid => by
      rw [Value.renamed, Value.toExpr, Value.toExpr, Value.toExpr_renamed payload]
      cases valid <;> rfl
  | .wrapped value => by
      rw [Value.renamed, Value.toExpr, Value.toExpr, Value.toExpr_renamed value]
  | .sequence elements => by
      rw [Value.renamed, Value.toExpr, Value.toExpr, Value.outcomes_renamed elements,
        Outcome.collectNoting_map_map]
      cases Outcome.collectNoting .atIndex (Value.outcomes elements) with
      | error cause => rfl
      | ok exprs => exact congrArg Except.ok (Expr.renamed_array rename exprs).symm
  | .dynamic datum => congrArg Except.ok (datum.toExpr_renamed rename)
  | .json json => (json.map_renamed_toExpr rename).symm
  | .expr _ => rfl
  | .identifier value => by
      rw [Value.renamed, Value.toExpr, Identifier.toExpr]
      · split
        · rfl
        · exact congrArg Except.ok (Expr.renamed_path rename value.segments).symm
      all_goals exact nofun
  | .parameter _ => rfl
  | .subquery ⟨form, query, label⟩ => by
      rw [Value.renamed, Subquery.renamed, Value.toExpr, Value.toExpr, Subquery.toExpr,
        Subquery.toExpr, SelectDraft.toSelect_renamed query]
      cases query.toSelect <;> rfl

theorem Value.outcomes_renamed :
    (values : List Value) →
      Value.outcomes (Value.renamedAll rename values) =
        (Value.outcomes values).map (Except.map (Expr.renamed rename))
  | [] => rfl
  | value :: rest => by
      rw [Value.renamedAll, Value.outcomes, Value.outcomes, Value.toExpr_renamed value,
        Value.outcomes_renamed rest, List.map_cons]

/-- A condition converts to what it converted to before, under the new names. -/
theorem Condition.toExpr_renamed :
    (condition : Condition) →
      (condition.renamed rename).toExpr = condition.toExpr.map (Expr.renamed rename)
  | .group connective members => by
      rw [Condition.renamed, Condition.toExpr, Condition.toExpr,
        Condition.outcomes_renamed members, joined_renamed]
  | .compare operator left right => by
      rw [Condition.renamed, Condition.toExpr, Condition.toExpr, Value.toExpr_renamed left,
        Value.toExpr_renamed right]
      cases left.toExpr <;> cases right.toExpr <;> rfl
  | .isNull operand negated => by
      rw [Condition.renamed, Condition.toExpr, Condition.toExpr, Value.toExpr_renamed operand]
      cases operand.toExpr <;> rfl
  | .inArray operand elements negated => by
      rw [Condition.renamed, Condition.toExpr, Condition.toExpr, Value.toExpr_renamed operand,
        Value.toExpr_renamed elements]
      cases operand.toExpr <;> cases elements.toExpr <;> rfl
  | .inList operand elements negated => by
      rw [Condition.renamed, Condition.toExpr, Condition.toExpr, Value.toExpr_renamed operand,
        Value.outcomes_renamed elements, Outcome.collect_map_map]
      cases operand.toExpr with
      | error cause => rfl
      | ok tested =>
          cases Outcome.collect (Value.outcomes elements) with
          | error cause => rfl
          | ok listed => exact congrArg Except.ok (membership_renamed rename negated tested listed)
  | .inQuery operand query negated => by
      rw [Condition.renamed, Condition.toExpr, Condition.toExpr, Value.toExpr_renamed operand,
        SelectDraft.toSelect_renamed query]
      cases operand.toExpr <;> cases query.toSelect <;> rfl
  | .between operand low high negated => by
      rw [Condition.renamed, Condition.toExpr, Condition.toExpr, Value.toExpr_renamed operand,
        Value.toExpr_renamed low, Value.toExpr_renamed high]
      cases operand.toExpr <;> cases low.toExpr <;> cases high.toExpr <;> rfl
  | .bool _ => rfl
  | .expr _ => rfl
  | .wrapped condition => by
      rw [Condition.renamed, Condition.toExpr, Condition.toExpr,
        Condition.toExpr_renamed condition]

theorem Condition.outcomes_renamed :
    (conditions : List Condition) →
      Condition.outcomes (Condition.renamedAll rename conditions) =
        (Condition.outcomes conditions).map (Except.map (Expr.renamed rename))
  | [] => rfl
  | condition :: rest => by
      rw [Condition.renamedAll, Condition.outcomes, Condition.outcomes,
        Condition.toExpr_renamed condition, Condition.outcomes_renamed rest, List.map_cons]

theorem Subquery.outcomes_renamed :
    (subqueries : List Subquery) →
      Subquery.outcomes (Subquery.renamedAll rename subqueries) =
        (Subquery.outcomes subqueries).map (Except.map (SelectItem.renamed rename))
  | [] => rfl
  | ⟨form, query, label⟩ :: rest => by
      rw [Subquery.renamedAll, Subquery.renamed, Subquery.outcomes, Subquery.outcomes,
        Subquery.toItem, Subquery.toItem, SelectDraft.toSelect_renamed query,
        Subquery.outcomes_renamed rest, List.map_cons]
      cases query.toSelect with
      | error cause => rfl
      | ok select =>
          exact congrArg (fun item => Except.ok item :: _)
            (SelectItem.renamed_mk rename (.subquery form select) label).symm

/-- A draft of a SELECT becomes the query it became before, under the new names. -/
theorem SelectDraft.toSelect_renamed :
    (draft : SelectDraft) →
      (draft.renamed rename).toSelect = draft.toSelect.map (Select.renamed rename)
  | ⟨table, columns, subqueries, conditions, orderBy, range⟩ => by
      rw [SelectDraft.renamed, SelectDraft.toSelect, SelectDraft.toSelect,
        Subquery.outcomes_renamed subqueries, Condition.outcomes_renamed conditions,
        Outcome.collect_map_map, filterOf_renamed]
      split
      · rfl
      · cases Outcome.collect (Subquery.outcomes subqueries) with
        | error cause => rfl
        | ok projected =>
            cases filterOf (Condition.outcomes conditions) with
            | error cause => rfl
            | ok filter =>
                exact congrArg Except.ok
                  (Select.renamed_built rename table columns projected filter orderBy range).symm

end

/-! ## Rows and statements -/

theorem positional_renamed (cells : List Value) :
    positional (cells.map (Value.renamed rename)) =
      (positional cells).map (List.map (Expr.renamed rename)) := by
  rw [positional, positional, Outcome.map_changed (Value.toExpr_renamed rename),
    Outcome.collect_map_map]

theorem Datum.bind_renamed (datum : Datum) :
    (datum.renamed rename).bind = datum.bind.map (List.map (Expr.renamed rename)) := by
  cases datum with
  | array elements =>
      have converted := Datum.toExprs_renamed rename elements
      rw [toExprs_eq_map, toExprs_eq_map] at converted
      exact congrArg Except.ok converted
  | _ => rfl

theorem Json.map_renamed_bind (columns : List String) (json : Json) :
    (json.bind columns).map (List.map (Expr.renamed rename)) = json.bind columns := by
  have cells {α : Type} (convert : α → Outcome Expr)
      (same : ∀ item, (convert item).map (Expr.renamed rename) = convert item) (items : List α) :
      (Outcome.collect (items.map convert)).map (List.map (Expr.renamed rename)) =
        Outcome.collect (items.map convert) := by
    rw [← Outcome.collect_map_map, List.map_map]
    exact congrArg Outcome.collect (List.map_congr_left fun item _ => same item)
  cases json with
  | array elements => exact cells Json.toExpr (Json.map_renamed_toExpr rename) elements
  | object members =>
      refine cells (Json.cell members) (fun column => ?_) columns
      rw [Json.cell]
      split
      · exact Json.map_renamed_toExpr rename _
      · rfl
  | _ => rfl

theorem Record.bind_renamed (columns : List String) (record : Record) :
    (record.renamed rename).bind columns =
      (record.bind columns).map (List.map (Expr.renamed rename)) := by
  rw [Record.bind, Record.bind, ← Outcome.collect_map_map, List.map_map]
  refine congrArg Outcome.collect (List.map_congr_left fun column _ => ?_)
  show (record.renamed rename).cell column = (record.cell column).map (Expr.renamed rename)
  rw [Record.cell_eq_elim, Record.cell_eq_elim]
  show (FieldSpec.position? record.fields column).elim _ _ = _
  cases FieldSpec.position? record.fields column <;> rfl

theorem Row.bind_renamed (columns : List String) (row : Row) :
    (row.renamed rename).bind columns = (row.bind columns).map (List.map (Expr.renamed rename)) := by
  induction row with
  | sequence cells => exact positional_renamed rename cells
  | tuple cells => exact positional_renamed rename cells
  | dynamic value => exact value.bind_renamed rename
  | json value => exact (value.map_renamed_bind rename columns).symm
  | record value => exact value.bind_renamed rename columns
  | wrapped row ih => exact ih

theorem Statement.renamed_insert (table : String) (columns : List String)
    (rows : List (List Expr)) :
    (Statement.insert ⟨table, columns, rows⟩).renamed rename =
      .insert ⟨table, columns, rows.map (List.map (Expr.renamed rename))⟩ := by
  rw [renamed, rebuild, List.map_id]
  rfl

theorem Statement.renamed_update (table : String) (assignments : List Assignment)
    (filter : Expr) :
    (Statement.update ⟨table, assignments, filter⟩).renamed rename =
      .update ⟨table,
        assignments.map fun assignment => ⟨assignment.target, assignment.value.renamed rename⟩,
        filter.renamed rename⟩ := by
  simp only [renamed, rebuild, List.map_id]
  rfl

theorem InsertDraft.toStatement_renamed (draft : InsertDraft) :
    (draft.renamed rename).toInsert.map .insert =
      (draft.toInsert.map .insert).map (Statement.renamed rename) := by
  rcases draft with ⟨table, columns, rows⟩
  rw [InsertDraft.renamed, toInsert, toInsert]
  split
  · rfl
  rcases rows with _ | _ | ⟨first, rest⟩
  · rfl
  · rfl
  · have bound := Outcome.map_changed (fun row => row.bind_renamed rename columns) (first :: rest)
    simp only [Option.map_some, List.map_cons] at bound ⊢
    rw [bound, ← List.map_cons, Outcome.collectNoting_map_map]
    cases Outcome.collectNoting .inRow (Row.bind columns first :: rest.map (Row.bind columns)) with
    | error cause => rfl
    | ok cells => exact congrArg Except.ok (Statement.renamed_insert rename table columns cells).symm

theorem SetItem.toAssignment_renamed (item : SetItem) :
    SetItem.toAssignment ⟨item.target, item.value.renamed rename⟩ =
      item.toAssignment.map fun assignment =>
        ⟨assignment.target, assignment.value.renamed rename⟩ := by
  rw [toAssignment, toAssignment, Value.toExpr_renamed]
  split
  · rfl
  · cases item.value.toExpr <;> rfl

theorem UpdateDraft.toStatement_renamed (draft : UpdateDraft) :
    (draft.renamed rename).toUpdate.map .update =
      (draft.toUpdate.map .update).map (Statement.renamed rename) := by
  rcases draft with ⟨table, items, conditions⟩
  rw [UpdateDraft.renamed, toUpdate, toUpdate]
  simp only [List.map_eq_nil_iff]
  split
  · rfl
  split
  · rfl
  rw [Outcome.map_changed (SetItem.toAssignment_renamed rename), Outcome.collect_map_map,
    Outcome.map_changed (Condition.toExpr_renamed rename), joined_renamed]
  cases Outcome.collect (items.map SetItem.toAssignment) with
  | error cause => rfl
  | ok assignments =>
      cases joined .and (conditions.map Condition.toExpr) with
      | error cause => rfl
      | ok filter =>
          exact congrArg Except.ok
            (Statement.renamed_update rename table assignments filter).symm

theorem DeleteDraft.toStatement_renamed (draft : DeleteDraft) :
    (draft.renamed rename).toDelete.map .delete =
      (draft.toDelete.map .delete).map (Statement.renamed rename) := by
  rcases draft with ⟨table, conditions⟩
  rw [DeleteDraft.renamed, toDelete, toDelete]
  simp only [List.map_eq_nil_iff]
  split
  · rfl
  rw [Outcome.map_changed (Condition.toExpr_renamed rename), joined_renamed]
  cases joined .and (conditions.map Condition.toExpr) <;> rfl

/-- A draft becomes the statement it became before, under the new names. -/
theorem Draft.toStatement_renamed (draft : Draft) :
    (draft.renamed rename).toStatement = draft.toStatement.map (Statement.renamed rename) := by
  cases draft with
  | select draft =>
      rw [Draft.renamed, toStatement, toStatement, SelectDraft.toSelect_renamed]
      cases draft.toSelect <;> rfl
  | insert draft => exact draft.toStatement_renamed rename
  | update draft => exact draft.toStatement_renamed rename
  | delete draft => exact draft.toStatement_renamed rename

end Renaming

end SqlBuilder
