import SqlBuilder.Row
import SqlBuilder.Statement

/-!
# Building an INSERT

Rows may be added one at a time or set all at once.  A draft whose rows were
never given is told apart from one that was given an empty list of rows.  The
error of a row has its position noted.
-/

namespace SqlBuilder

/-- An INSERT to be built. -/
structure InsertDraft where
  table : String
  columns : List String
  rows : Option (List Row)

namespace InsertDraft

/-- The draft that fills columns of a table, without rows. -/
def ofColumns (table : String) (columns : List String) : InsertDraft where
  table := table
  columns := columns
  rows := none

/-- The draft with its rows set, in place of any rows before. -/
def withRows (draft : InsertDraft) (rows : List Row) : InsertDraft :=
  { draft with rows := some rows }

/-- The draft with one more row. -/
def addRow (draft : InsertDraft) (row : Row) : InsertDraft :=
  { draft with rows := some (draft.rows.getD [] ++ [row]) }

/-- The statement of a draft.  Its columns and rows are checked before any row is bound. -/
def toInsert (draft : InsertDraft) : Outcome Insert :=
  if draft.columns = [] then
    .error (.invalid .insertWithoutColumns)
  else
    match draft.rows with
    | none => .error (.invalid .insertWithoutValues)
    | some [] => .error (.invalid .insertWithoutRows)
    | some rows => do
        let cells ← Outcome.collectNoting .inRow (rows.map (Row.bind draft.columns))
        return {
          table := draft.table
          columns := draft.columns
          rows := cells }

end InsertDraft

end SqlBuilder
