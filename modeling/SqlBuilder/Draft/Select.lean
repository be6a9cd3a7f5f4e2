import SqlBuilder.Value.Convert

/-!
# Building a SELECT

Conditions, subqueries and sort columns are added behind those that are there.
A limit replaces the limit before it, together with its offset.
-/

namespace SqlBuilder

namespace SelectDraft

/-- The draft that projects columns of a table. -/
def ofColumns (table : String) (columns : List String) : SelectDraft where
  table := table
  columns := columns
  subqueries := []
  conditions := []
  orderBy := []
  range := none

/-- The draft with more conditions to hold. -/
def andWhereAll (draft : SelectDraft) (conditions : List Condition) : SelectDraft :=
  { draft with conditions := draft.conditions ++ conditions }

/-- The draft with one more condition to hold, which is kept in a wrapper. -/
def andWhere (draft : SelectDraft) (condition : Condition) : SelectDraft :=
  draft.andWhereAll [.wrapped condition]

/-- The draft with a subquery projected behind its columns. -/
def project (draft : SelectDraft) (subquery : Subquery) : SelectDraft :=
  { draft with subqueries := draft.subqueries ++ [subquery] }

/-- The draft with one more column to sort by. -/
def sortBy (draft : SelectDraft) (sort : SortColumn) : SelectDraft :=
  { draft with orderBy := draft.orderBy ++ [sort] }

/-- The draft with its limit and offset set. -/
def limitTo (draft : SelectDraft) (range : RowRange) : SelectDraft :=
  { draft with range := some range }

end SelectDraft

end SqlBuilder
