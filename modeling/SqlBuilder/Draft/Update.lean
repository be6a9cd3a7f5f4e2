import SqlBuilder.Statement
import SqlBuilder.Value.Convert

/-!
# Building an UPDATE

An UPDATE has to set something and has to have a condition.  Assignments are
converted in order, and before the conditions.
-/

namespace SqlBuilder

/-- A column and the value it is to be given. -/
structure SetItem where
  target : Identifier
  value : Value

/-- The assignment of an item, whose column has to have a name. -/
def SetItem.toAssignment (item : SetItem) : Outcome Assignment :=
  if item.target.segments = [] then
    .error .emptyIdentifier
  else
    item.value.toExpr.map fun value => ⟨item.target.segments, value⟩

/-- An UPDATE to be built. -/
structure UpdateDraft where
  table : String
  items : List SetItem
  conditions : List Condition

namespace UpdateDraft

/-- The draft for a table, which sets nothing yet. -/
def ofTable (table : String) : UpdateDraft where
  table := table
  items := []
  conditions := []

/-- The draft with one more column to set. -/
def assign (draft : UpdateDraft) (item : SetItem) : UpdateDraft :=
  { draft with items := draft.items ++ [item] }

/-- The draft with more conditions to hold. -/
def andWhereAll (draft : UpdateDraft) (conditions : List Condition) : UpdateDraft :=
  { draft with conditions := draft.conditions ++ conditions }

/-- The draft with one more condition to hold, which is kept in a wrapper. -/
def andWhere (draft : UpdateDraft) (condition : Condition) : UpdateDraft :=
  draft.andWhereAll [.wrapped condition]

/-- The statement of a draft. -/
def toUpdate (draft : UpdateDraft) : Outcome Update :=
  if draft.items = [] then
    .error (.invalid .updateWithoutAssignments)
  else if draft.conditions = [] then
    .error (.invalid .updateWithoutCondition)
  else do
    let assignments ← Outcome.collect (draft.items.map SetItem.toAssignment)
    let filter ← joined .and (draft.conditions.map Condition.toExpr)
    return {
      table := draft.table
      assignments := assignments
      filter := filter }

end UpdateDraft

end SqlBuilder
