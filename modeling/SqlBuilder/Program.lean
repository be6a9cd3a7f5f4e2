import SqlBuilder.Draft.Delete
import SqlBuilder.Draft.Insert
import SqlBuilder.Draft.Select
import SqlBuilder.Draft.Update

/-!
# Programs

A program makes drafts one after another.  Each step opens a new draft or
continues an earlier one by a call; the earlier draft stays as it is, so several
steps may continue the same draft.  A call that the draft's kind of statement
does not know, or that continues a draft not made yet, is no step of a program.
-/

namespace SqlBuilder

/-- A statement to be built, of any kind. -/
inductive Draft where
  | select (draft : SelectDraft)
  | insert (draft : InsertDraft)
  | update (draft : UpdateDraft)
  | delete (draft : DeleteDraft)

namespace Draft

/-- The kind of statement a draft becomes. -/
def kind : Draft → StatementKind
  | .select _ => .select
  | .insert _ => .insert
  | .update _ => .update
  | .delete _ => .delete

/-- The statement of a draft. -/
def toStatement : Draft → Outcome Statement
  | .select draft => draft.toSelect.map .select
  | .insert draft => draft.toInsert.map .insert
  | .update draft => draft.toUpdate.map .update
  | .delete draft => draft.toDelete.map .delete

/-- The SQL text of a draft. -/
def toSql (draft : Draft) : Outcome String :=
  draft.toStatement.map Statement.sql

end Draft

/-- A call that continues a draft. -/
inductive Call where
  | andWhere (condition : Condition)
  | andWhereAll (conditions : List Condition)
  | project (subquery : Subquery)
  | sortBy (sort : SortColumn)
  | limitTo (range : RowRange)
  | addRow (row : Row)
  | withRows (rows : List Row)
  | assign (item : SetItem)

/-- The draft of a SELECT after a call, if a SELECT knows the call. -/
def SelectDraft.call? (draft : SelectDraft) : Call → Option SelectDraft
  | .andWhere condition => some (draft.andWhere condition)
  | .andWhereAll conditions => some (draft.andWhereAll conditions)
  | .project subquery => some (draft.project subquery)
  | .sortBy sort => some (draft.sortBy sort)
  | .limitTo range => some (draft.limitTo range)
  | _ => none

/-- The draft of an INSERT after a call, if an INSERT knows the call. -/
def InsertDraft.call? (draft : InsertDraft) : Call → Option InsertDraft
  | .addRow row => some (draft.addRow row)
  | .withRows rows => some (draft.withRows rows)
  | _ => none

/-- The draft of an UPDATE after a call, if an UPDATE knows the call. -/
def UpdateDraft.call? (draft : UpdateDraft) : Call → Option UpdateDraft
  | .andWhere condition => some (draft.andWhere condition)
  | .andWhereAll conditions => some (draft.andWhereAll conditions)
  | .assign item => some (draft.assign item)
  | _ => none

/-- The draft of a DELETE after a call, if a DELETE knows the call. -/
def DeleteDraft.call? (draft : DeleteDraft) : Call → Option DeleteDraft
  | .andWhere condition => some (draft.andWhere condition)
  | .andWhereAll conditions => some (draft.andWhereAll conditions)
  | _ => none

/-- The draft after a call, if its kind of statement knows the call. -/
def Draft.call? (draft : Draft) (call : Call) : Option Draft :=
  match draft with
  | .select draft => (draft.call? call).map .select
  | .insert draft => (draft.call? call).map .insert
  | .update draft => (draft.call? call).map .update
  | .delete draft => (draft.call? call).map .delete

/-- The draft of a SELECT after a list of calls. -/
def SelectDraft.calls? (draft : SelectDraft) (calls : List Call) : Option SelectDraft :=
  calls.foldlM SelectDraft.call? draft

/-- One step of a program: a new draft, or a call on the draft made at a position. -/
inductive Step where
  | start (draft : Draft)
  | extend (position : Nat) (call : Call)

/-- The draft that a step makes, given those made before it. -/
def Step.draft? (made : List Draft) : Step → Option Draft
  | .start draft => some draft
  | .extend position call => do
      let draft ← made[position]?
      draft.call? call

/-- Steps that are taken in order. -/
abbrev Program := List Step

namespace Program

/-- The drafts made by a program, behind those made before it. -/
def draftsFrom? (made : List Draft) : Program → Option (List Draft)
  | [] => some made
  | step :: rest => do
      let draft ← step.draft? made
      draftsFrom? (made ++ [draft]) rest

/-- The drafts that a program makes, one for each step in order. -/
def drafts? (program : Program) : Option (List Draft) :=
  draftsFrom? [] program

end Program

end SqlBuilder
