import SqlBuilder.Statement
import SqlBuilder.Value.Convert

/-!
# Building a DELETE

A DELETE has to have a condition, so that a whole table is never emptied by
leaving one out.
-/

namespace SqlBuilder

/-- A DELETE to be built. -/
structure DeleteDraft where
  table : String
  conditions : List Condition

namespace DeleteDraft

/-- The draft for a table, without conditions. -/
def ofTable (table : String) : DeleteDraft where
  table := table
  conditions := []

/-- The draft with more conditions to hold. -/
def andWhereAll (draft : DeleteDraft) (conditions : List Condition) : DeleteDraft :=
  { draft with conditions := draft.conditions ++ conditions }

/-- The draft with one more condition to hold, which is kept in a wrapper. -/
def andWhere (draft : DeleteDraft) (condition : Condition) : DeleteDraft :=
  draft.andWhereAll [.wrapped condition]

/-- The statement of a draft. -/
def toDelete (draft : DeleteDraft) : Outcome Delete :=
  if draft.conditions = [] then
    .error (.invalid .deleteWithoutCondition)
  else do
    let filter ← joined .and (draft.conditions.map Condition.toExpr)
    return {
      table := draft.table
      filter := filter }

end DeleteDraft

end SqlBuilder
