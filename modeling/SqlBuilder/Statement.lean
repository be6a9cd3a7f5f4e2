import SqlBuilder.Expr.Render

/-!
# Statements

A statement is a SELECT, an INSERT, an UPDATE or a DELETE.  INSERT names its
columns and holds its rows cell by cell; UPDATE and DELETE always have a filter.
-/

namespace SqlBuilder

/-- An INSERT statement: rows of cells, in the order of the columns. -/
structure Insert where
  table : String
  columns : List String
  rows : List (List Expr)

/-- One assignment of an UPDATE: the column's path and its new value. -/
structure Assignment where
  target : List String
  value : Expr

/-- An UPDATE statement. -/
structure Update where
  table : String
  assignments : List Assignment
  filter : Expr

/-- A DELETE statement. -/
structure Delete where
  table : String
  filter : Expr

/-- A statement of any kind. -/
inductive Statement where
  | select (query : Select)
  | insert (command : Insert)
  | update (command : Update)
  | delete (command : Delete)

/-- The text of one row of cells. -/
def rowText (cells : List Expr) : Text :=
  Text.parenthesised (Text.commaSeparated (cells.map Expr.text))

/-- The text of an INSERT statement. -/
def Insert.text (command : Insert) : Text :=
  "INSERT INTO ".toList ++ identifier command.table ++ ' ' ::
    Text.parenthesised (Text.commaSeparated (command.columns.map identifier)) ++
    " VALUES ".toList ++ Text.commaSeparated (command.rows.map rowText)

/-- The text of an assignment. -/
def Assignment.text (assignment : Assignment) : Text :=
  path assignment.target ++ " = ".toList ++ assignment.value.text

/-- The text of an UPDATE statement. -/
def Update.text (command : Update) : Text :=
  "UPDATE ".toList ++ identifier command.table ++ " SET ".toList ++
    Text.commaSeparated (command.assignments.map Assignment.text) ++
    clause "WHERE" (some command.filter.text)

/-- The text of a DELETE statement. -/
def Delete.text (command : Delete) : Text :=
  "DELETE FROM ".toList ++ identifier command.table ++
    clause "WHERE" (some command.filter.text)

namespace Statement

/-- The kind of a statement. -/
def kind : Statement → StatementKind
  | .select _ => .select
  | .insert _ => .insert
  | .update _ => .update
  | .delete _ => .delete

/-- The text of a statement. -/
def text : Statement → Text
  | .select query => query.text
  | .insert command => command.text
  | .update command => command.text
  | .delete command => command.text

/-- The SQL text of a statement. -/
def sql (statement : Statement) : String :=
  String.ofList statement.text

end Statement

end SqlBuilder
