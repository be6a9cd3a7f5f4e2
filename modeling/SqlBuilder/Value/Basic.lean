import SqlBuilder.Datum
import SqlBuilder.Expr.Join
import SqlBuilder.Identifier
import SqlBuilder.Json
import SqlBuilder.Nullable

/-!
# Values, conditions and queries to be built

Nothing here has been converted yet.  A value may be a subquery, a subquery is a
draft of a SELECT, a draft has conditions, and a condition compares values; so
the three are defined together.

A draft is a plain value.  Adding a part to it gives another draft and leaves
the first as it was, so drafts can be kept and continued in several ways.
-/

namespace SqlBuilder

/-- A column to sort by. -/
structure SortColumn where
  column : String
  direction : Direction
deriving DecidableEq

/-- How many rows to return, and how many to pass over first. -/
structure RowRange where
  count : Int64
  offset : Option Int64
deriving DecidableEq

mutual

/-- A value as a caller holds it. -/
inductive Value where
  | null
  | string (content : String)
  | bytes (content : List UInt8)
  | int (value : Int64)
  | uint (value : UInt64)
  | bool (value : Bool)
  | float64 (value : Double)
  | float32 (value : Single)
  | timestamp (value : Timestamp)
  | date (value : Date)
  | uuid (value : Uuid)
  /-- A value that might have been absent. -/
  | present (value : Value)
  /-- A payload that counts as null unless it is valid. -/
  | nullable (payload : Value) (valid : Bool)
  /-- A value in a wrapper that adds nothing to it. -/
  | wrapped (value : Value)
  | sequence (elements : List Value)
  | dynamic (value : Datum)
  | json (value : Json)
  | expr (expression : Expr)
  | identifier (value : Identifier)
  | parameter (value : Parameter)
  | subquery (value : Subquery)

/-- A condition as a caller holds it. -/
inductive Condition where
  | group (connective : Connective) (members : List Condition)
  | compare (operator : Operator) (left right : Value)
  | isNull (operand : Value) (negated : Bool)
  /-- The operand is among the elements of an array. -/
  | inArray (operand elements : Value) (negated : Bool)
  /-- The operand is among the values listed. -/
  | inList (operand : Value) (elements : List Value) (negated : Bool)
  /-- The operand is among the rows of a query. -/
  | inQuery (operand : Value) (query : SelectDraft) (negated : Bool)
  | between (operand low high : Value) (negated : Bool)
  | bool (value : Bool)
  | expr (expression : Expr)
  /-- A condition in a wrapper that adds nothing to it. -/
  | wrapped (condition : Condition)

/-- A SELECT that stands for a value, and the name of its column where it is projected. -/
structure Subquery where
  form : SubqueryForm
  query : SelectDraft
  label : Option String

/-- A SELECT to be built. -/
structure SelectDraft where
  table : String
  columns : List String
  subqueries : List Subquery
  conditions : List Condition
  orderBy : List SortColumn
  range : Option RowRange

end

namespace Value

/-- A value that may be absent: null without one. -/
def ofOption : Option Value → Value
  | none => .null
  | some value => .present value

/-- A nullable payload as a value. -/
def ofNullable (nullable : Nullable Value) : Value :=
  .nullable nullable.payload nullable.valid

end Value

namespace Condition

/-- All of the conditions hold. -/
def all (members : List Condition) : Condition :=
  .group .and members

/-- One of the conditions holds. -/
def any (members : List Condition) : Condition :=
  .group .or members

end Condition

end SqlBuilder
