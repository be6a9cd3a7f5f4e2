import SqlBuilder.Literal

/-!
# Dynamic values

A datum is a value whose type is known only when the program runs.  Every datum
has an expression.
-/

namespace SqlBuilder

/-- A value of one of the column types, an array of values, or a ready expression. -/
inductive Datum where
  | null
  | string (content : String)
  | bytes (content : List UInt8)
  | int64 (value : Int64)
  | bool (value : Bool)
  | float64 (value : Double)
  | timestamp (value : Timestamp)
  | date (value : Date)
  | array (elements : List Datum)
  | expr (expression : Expr)

namespace Datum

/-- What a datum is called in an error. -/
def kind : Datum → String
  | .null => "NULL"
  | .string _ => "STRING"
  | .bytes _ => "BYTES"
  | .int64 _ => "INT64"
  | .bool _ => "BOOL"
  | .float64 _ => "FLOAT64"
  | .timestamp _ => "TIMESTAMP"
  | .date _ => "DATE"
  | .array _ => "ARRAY"
  | .expr _ => "expression"

mutual

/-- The expression of a datum. -/
def toExpr : Datum → Expr
  | .null => .null
  | .string content => .string content
  | .bytes content => .bytes content
  | .int64 value => .ofInt64 value
  | .bool value => .bool value
  | .float64 value => .ofFloat value
  | .timestamp value => .ofTimestamp value
  | .date value => .ofDate value
  | .array elements => .array (toExprs elements)
  | .expr expression => expression

/-- The expressions of a list of data. -/
def toExprs : List Datum → List Expr
  | [] => []
  | datum :: rest => datum.toExpr :: toExprs rest

end

@[simp]
theorem toExprs_eq_map (data : List Datum) :
    toExprs data = data.map toExpr := by
  induction data with
  | nil => rfl
  | cons datum rest ih => simp [toExprs, ih]

end Datum

end SqlBuilder
