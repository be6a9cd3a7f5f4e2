import SqlBuilder.Record.Basic
import SqlBuilder.Value.Convert

/-!
# Rows

A row of an INSERT is given either by position, as a sequence of values, or by
name, as a record or a JSON object.  A row by position is taken as it is, and is
not checked against the columns.
-/

namespace SqlBuilder

/-- A row as a caller holds it. -/
inductive Row where
  | sequence (cells : List Value)
  | tuple (cells : List Value)
  | dynamic (value : Datum)
  | json (value : Json)
  | record (value : Record)
  /-- A row in a wrapper that adds nothing to it. -/
  | wrapped (row : Row)

/-- The cells of a row given by position. -/
def positional (cells : List Value) : Outcome (List Expr) :=
  Outcome.collect (cells.map Value.toExpr)

/-- The cells of a dynamic value, which has to be an array. -/
def Datum.bind : Datum → Outcome (List Expr)
  | .array elements => .ok (elements.map Datum.toExpr)
  | other => .error (.unsupportedRowShape (other.kind ++ " value"))

/-- The expression of the member that a column name takes. -/
def Json.cell (members : Members Json) (column : String) : Outcome Expr :=
  match members.forColumn? column with
  | some value => value.toExpr
  | none => .error (.columnNotFound "JSON object" column)

/-- The cells of a JSON value: of an array by position, of an object by name. -/
def Json.bind (columns : List String) : Json → Outcome (List Expr)
  | .array elements => Outcome.collect (elements.map Json.toExpr)
  | .object members => Outcome.collect (columns.map (Json.cell members))
  | _ => .error (.unsupportedRowShape "JSON scalar")

/-- The cells of a row for a list of columns. -/
def Row.bind (columns : List String) : Row → Outcome (List Expr)
  | .sequence cells => positional cells
  | .tuple cells => positional cells
  | .dynamic value => value.bind
  | .json value => value.bind columns
  | .record value => value.bind columns
  | .wrapped row => row.bind columns

end SqlBuilder
