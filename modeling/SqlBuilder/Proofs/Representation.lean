import SqlBuilder.Proofs.FirstFailure
import SqlBuilder.Value.Convert
import SqlBuilder.Value.Dynamic

/-!
# Representations of a value

One value can be held in many ways: in wrappers, as one that might have been absent,
as a payload that is valid, in a dynamic value or in JSON.  A payload that is not
valid is null, and a list of values is the same list in whatever holds it.

Values that differ in this respect alone, at any depth, are alike.  Each value has one
form in which nothing is left of how it was held, its erasure, and two values are alike
exactly when they have the same erasure.  The main statement is that values which are
alike have the same expression, or fail with the same error at the same positions; so
have a value and its erasure, and a value and its dynamic form.
-/

namespace SqlBuilder

/-- A plain value, and the dynamic value that holds it. -/
inductive Datum.Holds : Datum → Value → Prop where
  | null : Holds .null .null
  | string (content : String) : Holds (.string content) (.string content)
  | bytes (content : List UInt8) : Holds (.bytes content) (.bytes content)
  | int (value : Int64) : Holds (.int64 value) (.int value)
  | bool (value : Bool) : Holds (.bool value) (.bool value)
  | float64 (value : Double) : Holds (.float64 value) (.float64 value)
  | timestamp (value : Timestamp) : Holds (.timestamp value) (.timestamp value)
  | date (value : Date) : Holds (.date value) (.date value)
  | expr (expression : Expr) : Holds (.expr expression) (.expr expression)
  | parameter (value : Parameter) : Holds (.expr value.toExpr) (.parameter value)

/-- A plain value, and the JSON value that holds it. -/
inductive Json.Holds : Json → Value → Prop where
  | null : Holds .null .null
  | bool (value : Bool) : Holds (.bool value) (.bool value)
  | int (value : Int64) : Holds (.int value) (.int value)
  | uint (value : UInt64) : Holds (.uint value) (.uint value)
  | float (value : Double) : Holds (.float value) (.float64 value)
  | string (content : String) : Holds (.string content) (.string content)

mutual

/-- Two values differ at most in how they, and the values within them, are held. -/
inductive Value.Alike : Value → Value → Prop where
  | refl (value : Value) : Value.Alike value value
  | symm {value other : Value} (alike : Value.Alike value other) : Value.Alike other value
  | trans {value middle other : Value} (first : Value.Alike value middle)
      (second : Value.Alike middle other) : Value.Alike value other
  /-- A wrapper adds nothing to what it holds. -/
  | unwrap (value : Value) : Value.Alike (.wrapped value) value
  | take (value : Value) : Value.Alike (.present value) value
  | valid (payload : Value) : Value.Alike (.nullable payload true) payload
  /-- A payload that is not valid is null, whatever it is. -/
  | invalid (payload : Value) : Value.Alike (.nullable payload false) .null
  | ofDatum {datum : Datum} {value : Value} (holds : datum.Holds value) :
      Value.Alike (.dynamic datum) value
  | ofJson {json : Json} {value : Value} (holds : json.Holds value) : Value.Alike (.json json) value
  /-- An array is the same list of elements in whatever holds it. -/
  | ofDynamicArray (elements : List Datum) :
      Value.Alike (.dynamic (.array elements)) (.sequence (elements.map .dynamic))
  | ofJsonArray (elements : List Json) :
      Value.Alike (.json (.array elements)) (.sequence (elements.map .json))
  | sequence {elements others : List Value} (each : Value.AllAlike elements others) :
      Value.Alike (.sequence elements) (.sequence others)
  | subquery {query other : SelectDraft} (alike : SelectDraft.Alike query other)
      (form : SubqueryForm) (label : Option String) :
      Value.Alike (.subquery ⟨form, query, label⟩) (.subquery ⟨form, other, label⟩)

/-- Two lists hold values that are alike, one by one. -/
inductive Value.AllAlike : List Value → List Value → Prop where
  | nil : Value.AllAlike [] []
  | cons {value other : Value} {rest others : List Value} (alike : Value.Alike value other)
      (each : Value.AllAlike rest others) : Value.AllAlike (value :: rest) (other :: others)

/-- Two conditions differ at most in how they, and the values within them, are held. -/
inductive Condition.Alike : Condition → Condition → Prop where
  | refl (condition : Condition) : Condition.Alike condition condition
  | symm {condition other : Condition} (alike : Condition.Alike condition other) :
      Condition.Alike other condition
  | trans {condition middle other : Condition} (first : Condition.Alike condition middle)
      (second : Condition.Alike middle other) : Condition.Alike condition other
  | unwrap (condition : Condition) : Condition.Alike (.wrapped condition) condition
  | group {members others : List Condition} (connective : Connective)
      (each : Condition.AllAlike members others) :
      Condition.Alike (.group connective members) (.group connective others)
  | compare {left right left' right' : Value} (operator : Operator)
      (alikeLeft : Value.Alike left left') (alikeRight : Value.Alike right right') :
      Condition.Alike (.compare operator left right) (.compare operator left' right')
  | isNull {operand other : Value} (alike : Value.Alike operand other) (negated : Bool) :
      Condition.Alike (.isNull operand negated) (.isNull other negated)
  | inArray {operand operand' elements elements' : Value}
      (alike : Value.Alike operand operand') (alikeElements : Value.Alike elements elements')
      (negated : Bool) :
      Condition.Alike (.inArray operand elements negated) (.inArray operand' elements' negated)
  | inList {operand operand' : Value} {elements elements' : List Value}
      (alike : Value.Alike operand operand') (each : Value.AllAlike elements elements')
      (negated : Bool) :
      Condition.Alike (.inList operand elements negated) (.inList operand' elements' negated)
  | inQuery {operand operand' : Value} {query query' : SelectDraft}
      (alike : Value.Alike operand operand') (alikeQuery : SelectDraft.Alike query query')
      (negated : Bool) :
      Condition.Alike (.inQuery operand query negated) (.inQuery operand' query' negated)
  | between {operand low high operand' low' high' : Value}
      (alike : Value.Alike operand operand') (alikeLow : Value.Alike low low')
      (alikeHigh : Value.Alike high high') (negated : Bool) :
      Condition.Alike (.between operand low high negated) (.between operand' low' high' negated)

/-- Two lists hold conditions that are alike, one by one. -/
inductive Condition.AllAlike : List Condition → List Condition → Prop where
  | nil : Condition.AllAlike [] []
  | cons {condition other : Condition} {rest others : List Condition}
      (alike : Condition.Alike condition other) (each : Condition.AllAlike rest others) :
      Condition.AllAlike (condition :: rest) (other :: others)

/-- Two lists hold subqueries whose queries are alike, one by one. -/
inductive Subquery.AllAlike : List Subquery → List Subquery → Prop where
  | nil : Subquery.AllAlike [] []
  | cons {query other : SelectDraft} {rest others : List Subquery}
      (alike : SelectDraft.Alike query other) (form : SubqueryForm) (label : Option String)
      (each : Subquery.AllAlike rest others) :
      Subquery.AllAlike (⟨form, query, label⟩ :: rest) (⟨form, other, label⟩ :: others)

/-- Two drafts of SELECT differ at most in how the values within them are held. -/
inductive SelectDraft.Alike : SelectDraft → SelectDraft → Prop where
  | of {subqueries subqueries' : List Subquery} {conditions conditions' : List Condition}
      (table : String) (columns : List String)
      (eachSubquery : Subquery.AllAlike subqueries subqueries')
      (eachCondition : Condition.AllAlike conditions conditions')
      (orderBy : List SortColumn) (range : Option RowRange) :
      SelectDraft.Alike ⟨table, columns, subqueries, conditions, orderBy, range⟩
        ⟨table, columns, subqueries', conditions', orderBy, range⟩

end

/-! ## Erasure -/

mutual

/-- The value that a dynamic value holds. -/
def Datum.erased : Datum → Value
  | .null => .null
  | .string content => .string content
  | .bytes content => .bytes content
  | .int64 value => .int value
  | .bool value => .bool value
  | .float64 value => .float64 value
  | .timestamp value => .timestamp value
  | .date value => .date value
  | .array elements => .sequence (Datum.allErased elements)
  | .expr expression => .expr expression

/-- The values that a list of dynamic values holds. -/
def Datum.allErased : List Datum → List Value
  | [] => []
  | datum :: rest => datum.erased :: Datum.allErased rest

end

mutual

/-- The value that a JSON value holds.  An object holds none. -/
def Json.erased : Json → Value
  | .null => .null
  | .bool value => .bool value
  | .int value => .int value
  | .uint value => .uint value
  | .float value => .float64 value
  | .string content => .string content
  | .array elements => .sequence (Json.allErased elements)
  | .object members => .json (.object members)

/-- The values that a list of JSON values holds. -/
def Json.allErased : List Json → List Value
  | [] => []
  | json :: rest => json.erased :: Json.allErased rest

end

mutual

/-- A value without anything that only holds it, and so every value within it. -/
def Value.erased : Value → Value
  | .present value => value.erased
  | .wrapped value => value.erased
  | .nullable payload true => payload.erased
  | .nullable _ false => .null
  | .sequence elements => .sequence (Value.allErased elements)
  | .dynamic datum => datum.erased
  | .json json => json.erased
  | .parameter value => .expr value.toExpr
  | .subquery subquery => .subquery subquery.erased
  | value => value

def Value.allErased : List Value → List Value
  | [] => []
  | value :: rest => value.erased :: Value.allErased rest

/-- A condition without what only holds it or the values within it. -/
def Condition.erased : Condition → Condition
  | .group connective members => .group connective (Condition.allErased members)
  | .compare operator left right => .compare operator left.erased right.erased
  | .isNull operand negated => .isNull operand.erased negated
  | .inArray operand elements negated => .inArray operand.erased elements.erased negated
  | .inList operand elements negated =>
      .inList operand.erased (Value.allErased elements) negated
  | .inQuery operand query negated => .inQuery operand.erased query.erased negated
  | .between operand low high negated =>
      .between operand.erased low.erased high.erased negated
  | .wrapped condition => condition.erased
  | condition => condition

def Condition.allErased : List Condition → List Condition
  | [] => []
  | condition :: rest => condition.erased :: Condition.allErased rest

def Subquery.erased : Subquery → Subquery
  | ⟨form, query, label⟩ => ⟨form, query.erased, label⟩

def Subquery.allErased : List Subquery → List Subquery
  | [] => []
  | subquery :: rest => subquery.erased :: Subquery.allErased rest

/-- A draft whose values are without anything that only holds them. -/
def SelectDraft.erased : SelectDraft → SelectDraft
  | ⟨table, columns, subqueries, conditions, orderBy, range⟩ =>
      ⟨table, columns, Subquery.allErased subqueries, Condition.allErased conditions, orderBy,
        range⟩

end

/-!
## What is alike converts alike

The recursion is on how two values came to be alike, not on the values: neither need be
a part of the other where they stand on the two sides of a wrapper or of an array.
-/

theorem Datum.Holds.toExpr_eq {datum : Datum} {value : Value} (holds : datum.Holds value) :
    value.toExpr = .ok datum.toExpr := by
  cases holds <;> rw [Value.toExpr, Datum.toExpr]

theorem Json.Holds.toExpr_eq {json : Json} {value : Value} (holds : json.Holds value) :
    value.toExpr = json.toExpr := by
  cases holds <;> rw [Value.toExpr, Json.toExpr]

theorem Value.toExpr_sequence (elements : List Value) :
    (Value.sequence elements).toExpr =
      (Outcome.collectNoting .atIndex (elements.map Value.toExpr)).map .array := by
  rw [Value.toExpr, Value.outcomes_eq_map]

theorem Value.toExpr_comp_dynamic : Value.toExpr ∘ Value.dynamic = Except.ok ∘ Datum.toExpr := by
  funext datum
  exact Value.toExpr.eq_def _

theorem Value.toExpr_comp_json : Value.toExpr ∘ Value.json = Json.toExpr := by
  funext json
  exact Value.toExpr.eq_def _

theorem Value.toExpr_dynamicArray (elements : List Datum) :
    (Value.dynamic (.array elements)).toExpr = (Value.sequence (elements.map .dynamic)).toExpr := by
  rw [Value.toExpr_sequence, List.map_map, Value.toExpr_comp_dynamic, ← List.map_map,
    Outcome.collectNoting_map_ok, Value.toExpr, Datum.toExpr, Datum.toExprs_eq_map]
  rfl

theorem Value.toExpr_jsonArray (elements : List Json) :
    (Value.json (.array elements)).toExpr = (Value.sequence (elements.map .json)).toExpr := by
  rw [Value.toExpr_sequence, List.map_map, Value.toExpr_comp_json, Value.toExpr, Json.toExpr,
    Json.outcomes_eq_map]

mutual

theorem Value.Alike.toExpr_eq :
    ∀ {value other : Value}, value.Alike other → value.toExpr = other.toExpr
  | _, _, .refl _ => rfl
  | _, _, .symm alike => alike.toExpr_eq.symm
  | _, _, .trans first second => first.toExpr_eq.trans second.toExpr_eq
  | _, _, .unwrap value => by rw [Value.toExpr]
  | _, _, .take value => by rw [Value.toExpr]
  | _, _, .valid payload => by rw [Value.toExpr, if_pos rfl]
  | _, _, .invalid payload => by rw [Value.toExpr, Value.toExpr, if_neg Bool.false_ne_true]
  | _, _, .ofDatum holds => by rw [Value.toExpr, holds.toExpr_eq]
  | _, _, .ofJson holds => by rw [Value.toExpr, holds.toExpr_eq]
  | _, _, .ofDynamicArray elements => Value.toExpr_dynamicArray elements
  | _, _, .ofJsonArray elements => Value.toExpr_jsonArray elements
  | _, _, .sequence each => by rw [Value.toExpr, Value.toExpr, each.outcomes_eq]
  | _, _, .subquery alike form label => by
      rw [Value.toExpr, Value.toExpr, Subquery.toExpr, Subquery.toExpr, alike.toSelect_eq]

theorem Value.AllAlike.outcomes_eq :
    ∀ {values others : List Value}, Value.AllAlike values others →
      Value.outcomes values = Value.outcomes others
  | _, _, .nil => rfl
  | _, _, .cons alike each => by
      rw [Value.outcomes, Value.outcomes, alike.toExpr_eq, each.outcomes_eq]

theorem Condition.Alike.toExpr_eq :
    ∀ {condition other : Condition}, condition.Alike other → condition.toExpr = other.toExpr
  | _, _, .refl _ => rfl
  | _, _, .symm alike => alike.toExpr_eq.symm
  | _, _, .trans first second => first.toExpr_eq.trans second.toExpr_eq
  | _, _, .unwrap condition => by rw [Condition.toExpr]
  | _, _, .group connective each => by
      rw [Condition.toExpr, Condition.toExpr, each.outcomes_eq]
  | _, _, .compare operator left right => by
      rw [Condition.toExpr, Condition.toExpr, left.toExpr_eq, right.toExpr_eq]
  | _, _, .isNull alike negated => by
      rw [Condition.toExpr, Condition.toExpr, alike.toExpr_eq]
  | _, _, .inArray alike elements negated => by
      rw [Condition.toExpr, Condition.toExpr, alike.toExpr_eq, elements.toExpr_eq]
  | _, _, .inList alike each negated => by
      rw [Condition.toExpr, Condition.toExpr, alike.toExpr_eq, each.outcomes_eq]
  | _, _, .inQuery alike query negated => by
      rw [Condition.toExpr, Condition.toExpr, alike.toExpr_eq, query.toSelect_eq]
  | _, _, .between alike low high negated => by
      rw [Condition.toExpr, Condition.toExpr, alike.toExpr_eq, low.toExpr_eq, high.toExpr_eq]

theorem Condition.AllAlike.outcomes_eq :
    ∀ {conditions others : List Condition}, Condition.AllAlike conditions others →
      Condition.outcomes conditions = Condition.outcomes others
  | _, _, .nil => rfl
  | _, _, .cons alike each => by
      rw [Condition.outcomes, Condition.outcomes, alike.toExpr_eq, each.outcomes_eq]

theorem Subquery.AllAlike.outcomes_eq :
    ∀ {subqueries others : List Subquery}, Subquery.AllAlike subqueries others →
      Subquery.outcomes subqueries = Subquery.outcomes others
  | _, _, .nil => rfl
  | _, _, .cons alike form label each => by
      rw [Subquery.outcomes, Subquery.outcomes, Subquery.toItem, Subquery.toItem,
        alike.toSelect_eq, each.outcomes_eq]

theorem SelectDraft.Alike.toSelect_eq :
    ∀ {query other : SelectDraft}, query.Alike other → query.toSelect = other.toSelect
  | _, _, .of table columns subqueries conditions orderBy range => by
      rw [SelectDraft.toSelect, SelectDraft.toSelect, subqueries.outcomes_eq,
        conditions.outcomes_eq]

end

/-!
## Erasures decide what is alike

A value is alike to its own erasure, and what is alike has one erasure.  So the rules
above say neither less nor more than the equality of erasures.
-/

@[simp]
theorem Datum.allErased_eq_map (data : List Datum) :
    Datum.allErased data = data.map Datum.erased := by
  induction data with
  | nil => rfl
  | cons datum rest ih => rw [Datum.allErased, List.map_cons, ih]

@[simp]
theorem Json.allErased_eq_map (jsons : List Json) :
    Json.allErased jsons = jsons.map Json.erased := by
  induction jsons with
  | nil => rfl
  | cons json rest ih => rw [Json.allErased, List.map_cons, ih]

@[simp]
theorem Value.allErased_eq_map (values : List Value) :
    Value.allErased values = values.map Value.erased := by
  induction values with
  | nil => rfl
  | cons value rest ih => rw [Value.allErased, List.map_cons, ih]

mutual

theorem Datum.alike_erased : ∀ datum : Datum, (Value.dynamic datum).Alike datum.erased
  | .null => .ofDatum .null
  | .string content => .ofDatum (.string content)
  | .bytes content => .ofDatum (.bytes content)
  | .int64 value => .ofDatum (.int value)
  | .bool value => .ofDatum (.bool value)
  | .float64 value => .ofDatum (.float64 value)
  | .timestamp value => .ofDatum (.timestamp value)
  | .date value => .ofDatum (.date value)
  | .array elements =>
      .trans (.ofDynamicArray elements) (.sequence (Datum.allAlike_erased elements))
  | .expr expression => .ofDatum (.expr expression)

theorem Datum.allAlike_erased :
    ∀ data : List Datum, Value.AllAlike (data.map .dynamic) (Datum.allErased data)
  | [] => .nil
  | datum :: rest => .cons datum.alike_erased (Datum.allAlike_erased rest)

end

mutual

theorem Json.alike_erased : ∀ json : Json, (Value.json json).Alike json.erased
  | .null => .ofJson .null
  | .bool value => .ofJson (.bool value)
  | .int value => .ofJson (.int value)
  | .uint value => .ofJson (.uint value)
  | .float value => .ofJson (.float value)
  | .string content => .ofJson (.string content)
  | .array elements =>
      .trans (.ofJsonArray elements) (.sequence (Json.allAlike_erased elements))
  | .object members => .refl (.json (.object members))

theorem Json.allAlike_erased :
    ∀ jsons : List Json, Value.AllAlike (jsons.map .json) (Json.allErased jsons)
  | [] => .nil
  | json :: rest => .cons json.alike_erased (Json.allAlike_erased rest)

end

mutual

theorem Value.alike_erased : ∀ value : Value, value.Alike value.erased
  | .null => .refl _
  | .string _ => .refl _
  | .bytes _ => .refl _
  | .int _ => .refl _
  | .uint _ => .refl _
  | .bool _ => .refl _
  | .float64 _ => .refl _
  | .float32 _ => .refl _
  | .timestamp _ => .refl _
  | .date _ => .refl _
  | .uuid _ => .refl _
  | .expr _ => .refl _
  | .identifier _ => .refl _
  | .present value => .trans (.take value) value.alike_erased
  | .wrapped value => .trans (.unwrap value) value.alike_erased
  | .nullable payload true => .trans (.valid payload) payload.alike_erased
  | .nullable payload false => .invalid payload
  | .sequence elements => .sequence (Value.allAlike_erased elements)
  | .dynamic datum => datum.alike_erased
  | .json json => json.alike_erased
  | .parameter value => .trans (.symm (.ofDatum (.parameter value))) (.ofDatum (.expr _))
  | .subquery ⟨form, query, label⟩ => .subquery query.alike_erased form label

theorem Value.allAlike_erased :
    ∀ values : List Value, Value.AllAlike values (Value.allErased values)
  | [] => .nil
  | value :: rest => .cons value.alike_erased (Value.allAlike_erased rest)

theorem Condition.alike_erased : ∀ condition : Condition, condition.Alike condition.erased
  | .bool _ => .refl _
  | .expr _ => .refl _
  | .group connective members => .group connective (Condition.allAlike_erased members)
  | .compare operator left right => .compare operator left.alike_erased right.alike_erased
  | .isNull operand negated => .isNull operand.alike_erased negated
  | .inArray operand elements negated =>
      .inArray operand.alike_erased elements.alike_erased negated
  | .inList operand elements negated =>
      .inList operand.alike_erased (Value.allAlike_erased elements) negated
  | .inQuery operand query negated =>
      .inQuery operand.alike_erased query.alike_erased negated
  | .between operand low high negated =>
      .between operand.alike_erased low.alike_erased high.alike_erased negated
  | .wrapped condition => .trans (.unwrap condition) condition.alike_erased

theorem Condition.allAlike_erased :
    ∀ conditions : List Condition,
      Condition.AllAlike conditions (Condition.allErased conditions)
  | [] => .nil
  | condition :: rest => .cons condition.alike_erased (Condition.allAlike_erased rest)

theorem Subquery.allAlike_erased :
    ∀ subqueries : List Subquery, Subquery.AllAlike subqueries (Subquery.allErased subqueries)
  | [] => .nil
  | ⟨form, query, label⟩ :: rest =>
      .cons query.alike_erased form label (Subquery.allAlike_erased rest)

theorem SelectDraft.alike_erased : ∀ query : SelectDraft, query.Alike query.erased
  | ⟨table, columns, subqueries, conditions, orderBy, range⟩ =>
      .of table columns (Subquery.allAlike_erased subqueries)
        (Condition.allAlike_erased conditions) orderBy range

end

theorem Datum.Holds.erased_eq {datum : Datum} {value : Value} (holds : datum.Holds value) :
    datum.erased = value.erased := by
  cases holds <;> simp [Datum.erased, Value.erased]

theorem Json.Holds.erased_eq {json : Json} {value : Value} (holds : json.Holds value) :
    json.erased = value.erased := by
  cases holds <;> simp [Json.erased, Value.erased]

mutual

theorem Value.Alike.erased_eq :
    ∀ {value other : Value}, value.Alike other → value.erased = other.erased
  | _, _, .refl _ => rfl
  | _, _, .symm alike => alike.erased_eq.symm
  | _, _, .trans first second => first.erased_eq.trans second.erased_eq
  | _, _, .unwrap value => by rw [Value.erased]
  | _, _, .take value => by rw [Value.erased]
  | _, _, .valid payload => by rw [Value.erased]
  | _, _, .invalid payload => by simp [Value.erased]
  | _, _, .ofDatum holds => by rw [Value.erased, holds.erased_eq]
  | _, _, .ofJson holds => by rw [Value.erased, holds.erased_eq]
  | _, _, .ofDynamicArray elements => by simp [Value.erased, Datum.erased]
  | _, _, .ofJsonArray elements => by simp [Value.erased, Json.erased]
  | _, _, .sequence each => by rw [Value.erased, Value.erased, each.erased_eq]
  | _, _, .subquery alike form label => by
      rw [Value.erased, Value.erased, Subquery.erased, Subquery.erased, alike.erased_eq]

theorem Value.AllAlike.erased_eq :
    ∀ {values others : List Value}, Value.AllAlike values others →
      Value.allErased values = Value.allErased others
  | _, _, .nil => rfl
  | _, _, .cons alike each => by
      rw [Value.allErased, Value.allErased, alike.erased_eq, each.erased_eq]

theorem Condition.Alike.erased_eq :
    ∀ {condition other : Condition}, condition.Alike other → condition.erased = other.erased
  | _, _, .refl _ => rfl
  | _, _, .symm alike => alike.erased_eq.symm
  | _, _, .trans first second => first.erased_eq.trans second.erased_eq
  | _, _, .unwrap condition => by rw [Condition.erased]
  | _, _, .group connective each => by
      rw [Condition.erased, Condition.erased, each.erased_eq]
  | _, _, .compare operator left right => by
      rw [Condition.erased, Condition.erased, left.erased_eq, right.erased_eq]
  | _, _, .isNull alike negated => by
      rw [Condition.erased, Condition.erased, alike.erased_eq]
  | _, _, .inArray alike elements negated => by
      rw [Condition.erased, Condition.erased, alike.erased_eq, elements.erased_eq]
  | _, _, .inList alike each negated => by
      rw [Condition.erased, Condition.erased, alike.erased_eq, each.erased_eq]
  | _, _, .inQuery alike query negated => by
      rw [Condition.erased, Condition.erased, alike.erased_eq, query.erased_eq]
  | _, _, .between alike low high negated => by
      rw [Condition.erased, Condition.erased, alike.erased_eq, low.erased_eq, high.erased_eq]

theorem Condition.AllAlike.erased_eq :
    ∀ {conditions others : List Condition}, Condition.AllAlike conditions others →
      Condition.allErased conditions = Condition.allErased others
  | _, _, .nil => rfl
  | _, _, .cons alike each => by
      rw [Condition.allErased, Condition.allErased, alike.erased_eq, each.erased_eq]

theorem Subquery.AllAlike.erased_eq :
    ∀ {subqueries others : List Subquery}, Subquery.AllAlike subqueries others →
      Subquery.allErased subqueries = Subquery.allErased others
  | _, _, .nil => rfl
  | _, _, .cons alike form label each => by
      rw [Subquery.allErased, Subquery.allErased, Subquery.erased, Subquery.erased,
        alike.erased_eq, each.erased_eq]

theorem SelectDraft.Alike.erased_eq :
    ∀ {query other : SelectDraft}, query.Alike other → query.erased = other.erased
  | _, _, .of table columns subqueries conditions orderBy range => by
      rw [SelectDraft.erased, SelectDraft.erased, subqueries.erased_eq, conditions.erased_eq]

end

/-- Two values are alike exactly when nothing tells them apart but how they are held. -/
theorem Value.alike_iff_erased_eq {value other : Value} :
    value.Alike other ↔ value.erased = other.erased := by
  constructor
  · exact Value.Alike.erased_eq
  · intro same
    have back : value.erased.Alike other := same ▸ .symm other.alike_erased
    exact value.alike_erased.trans back

/-! ## Dynamic forms -/

mutual

/-- The dynamic form of a value is alike to the value. -/
theorem Value.alike_of_toDatum? :
    ∀ {value : Value} {datum : Datum}, value.toDatum? = some datum →
      (Value.dynamic datum).Alike value
  | .null, _, rfl => .ofDatum .null
  | .string content, _, rfl => .ofDatum (.string content)
  | .bytes content, _, rfl => .ofDatum (.bytes content)
  | .int value, _, rfl => .ofDatum (.int value)
  | .bool value, _, rfl => .ofDatum (.bool value)
  | .float64 value, _, rfl => .ofDatum (.float64 value)
  | .timestamp value, _, rfl => .ofDatum (.timestamp value)
  | .date value, _, rfl => .ofDatum (.date value)
  | .expr expression, _, rfl => .ofDatum (.expr expression)
  | .parameter value, _, rfl => .ofDatum (.parameter value)
  | .dynamic datum, _, rfl => .refl (.dynamic datum)
  | .present value, datum, known => by
      rw [Value.toDatum?] at known
      exact (Value.alike_of_toDatum? known).trans (.symm (.take value))
  | .sequence elements, datum, known => by
      rw [Value.toDatum?] at known
      obtain ⟨data, held, rfl⟩ := Option.map_eq_some_iff.mp known
      exact .trans (.ofDynamicArray data) (.sequence (Value.allAlike_of_toData? held))

theorem Value.allAlike_of_toData? :
    ∀ {values : List Value} {data : List Datum}, Value.toData? values = some data →
      Value.AllAlike (data.map .dynamic) values
  | [], _, rfl => .nil
  | value :: rest, data, known => by
      rw [Value.toData?] at known
      simp only [Option.bind_eq_bind, Option.bind_eq_some_iff, Option.pure_def,
        Option.some.injEq] at known
      obtain ⟨datum, first, others, held, rfl⟩ := known
      exact .cons (Value.alike_of_toDatum? first) (Value.allAlike_of_toData? held)

end

/--
A value and its erasure have the same expression, or fail with the same error behind
the same positions.  So have any two values that differ at most in how they, and the
values within them, are held, and these are the values with the same erasure:
wrappers, validity, dynamic values and JSON never show, and the payload of a null
never matters.  In particular the dynamic form of a value has the expression of the
value.
-/
theorem Value.alike_convertsAlike :
    (∀ value : Value, value.erased.toExpr = value.toExpr) ∧
      (∀ value other : Value, value.Alike other ↔ value.erased = other.erased) ∧
      (∀ value other : Value, value.Alike other → value.toExpr = other.toExpr) ∧
      ∀ (value : Value) (datum : Datum), value.toDatum? = some datum →
        (Value.dynamic datum).toExpr = value.toExpr :=
  ⟨fun value => value.alike_erased.toExpr_eq.symm,
    fun _ _ => Value.alike_iff_erased_eq,
    fun _ _ alike => alike.toExpr_eq,
    fun _ _ known => (Value.alike_of_toDatum? known).toExpr_eq⟩

/-- A list in wrappers, with a payload that has no expression and does not count. -/
def wrappedList : Value :=
  .wrapped (.sequence
    [.present (.wrapped (.string "a")),
      .nullable (.uint 18446744073709551615) false,
      .json (.array [.int 1, .object []])])

/-- The same list as dynamic values, but for the element that has no dynamic form. -/
def dynamicList : Value :=
  .sequence
    [.dynamic (.string "a"), .dynamic .null,
      .nullable (.sequence [.dynamic (.int64 1), .json (.object [])]) true]

/-- A list of values that might have been absent, and an instant in a zone of its own. -/
def optionalList : Value :=
  .present (.sequence
    [.present (.int 7), .null, .sequence [.present (.bool true)],
      .timestamp ⟨1700000000, 5, 19800⟩])

def optionalDatum : Datum :=
  .array [.int64 7, .null, .array [.bool true], .timestamp ⟨1700000000, 5, 19800⟩]

/-- The element without an expression is reported at its place, however the list is held. -/
theorem wrappedList_convertsAlike :
    wrappedList.Alike dynamicList ∧
      wrappedList.erased =
        .sequence [.string "a", .null, .sequence [.int 1, .json (.object [])]] ∧
      wrappedList.toExpr =
        .error (.atIndex 2 (.atIndex 1 (.unsupportedType "JSON object"))) ∧
      wrappedList.toExpr = dynamicList.toExpr ∧
      wrappedList.erased.toExpr = wrappedList.toExpr ∧
      optionalList.toDatum? = some optionalDatum ∧
      (Value.dynamic optionalDatum).toExpr = optionalList.toExpr := by
  obtain ⟨erased, alike_iff, alike, dynamic⟩ := Value.alike_convertsAlike
  have related : wrappedList.Alike dynamicList := (alike_iff _ _).mpr (by rfl)
  have known : optionalList.toDatum? = some optionalDatum := by rfl
  exact ⟨related, by rfl, by rfl, alike _ _ related, erased _, known, dynamic _ _ known⟩

end SqlBuilder
