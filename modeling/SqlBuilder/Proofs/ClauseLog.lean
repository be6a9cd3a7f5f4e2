import Mathlib.Data.List.DropRight
import SqlBuilder.Program
import SqlBuilder.Proofs.ConditionTruth

/-!
# Drafts and the logs of their clauses

A draft of a program goes back to one that was opened empty, along a line of
calls.  The calls on the line are sorted by clause: the subqueries, the
conditions, the sort columns, the last limit, the rows since they were last set,
and the assignments.  Within a clause they keep their order; how the clauses are
interleaved, and how conditions are split among calls, is forgotten.

The main theorem says that the statement of a draft, or its error, is that of a
draft with the logged parts put in at once.  Conditions are logged without the
wrappers around them, so it does not matter which call has kept them in one.
-/

namespace SqlBuilder

/-! ## Lines of calls -/

/-- How a draft is opened: the kind of its statement, its table and its columns. -/
inductive Opening where
  | select (table : String) (columns : List String)
  | insert (table : String) (columns : List String)
  | update (table : String)
  | delete (table : String)

/-- The draft that is opened, without any part yet. -/
def Opening.draft : Opening → Draft
  | .select table columns => .select (.ofColumns table columns)
  | .insert table columns => .insert (.ofColumns table columns)
  | .update table => .update (.ofTable table)
  | .delete table => .delete (.ofTable table)

namespace Program

/-- Every draft that a program starts is empty. -/
def OpensEmpty (program : Program) : Prop :=
  ∀ draft, Step.start draft ∈ program → ∃ opening : Opening, opening.draft = draft

/-- The draft that the draft made at a position goes back to, and the calls in between. -/
inductive Line (program : Program) : Nat → Draft → List Call → Prop where
  | start {position : Nat} {draft : Draft}
      (step : program[position]? = some (.start draft)) :
      Line program position draft []
  | extend {position earlier : Nat} {draft : Draft} {calls : List Call} {call : Call}
      (step : program[position]? = some (.extend earlier call))
      (line : Line program earlier draft calls) :
      Line program position draft (calls ++ [call])

/-- The draft that a program makes at a position goes back to an opening by a line of calls. -/
def Makes (program : Program) (position : Nat) (opening : Opening) (calls : List Call)
    (draft : Draft) : Prop :=
  ∃ drafts, program.drafts? = some drafts ∧ drafts[position]? = some draft ∧
    program.Line position opening.draft calls

/-- Each step makes its draft from those before it, and later steps leave it as it is. -/
theorem draft?_of_draftsFrom? {program : Program} {made drafts : List Draft}
    (run : draftsFrom? made program = some drafts) :
    drafts.length = made.length + program.length ∧ made <+: drafts ∧
      ∀ index step, program[index]? = some step →
        step.draft? (drafts.take (made.length + index)) = drafts[made.length + index]? := by
  induction program generalizing made with
  | nil =>
      cases run
      simp
  | cons first rest ih =>
      rcases Option.bind_eq_some_iff.mp run with ⟨draft, opened, others⟩
      rcases ih others with ⟨size, ⟨later, rfl⟩, following⟩
      refine ⟨?_, ?_, ?_⟩
      · simp only [List.length_append, List.length_cons, List.length_nil] at size ⊢
        omega
      · simp
      · intro index step found
        cases index with
        | zero =>
            obtain rfl : first = step := Option.some.inj found
            simpa using opened
        | succ index =>
            have shifted := following index step found
            rw [List.length_append, List.length_singleton, Nat.add_right_comm] at shifted
            exact shifted

section Run

variable {program : Program} {drafts : List Draft} (run : program.drafts? = some drafts)
include run

theorem length_drafts? : drafts.length = program.length := by
  simpa using (draft?_of_draftsFrom? run).1

theorem getElem?_of_start {position : Nat} {draft : Draft}
    (step : program[position]? = some (.start draft)) : drafts[position]? = some draft := by
  have made := (draft?_of_draftsFrom? run).2.2 position _ step
  rw [List.length_nil, Nat.zero_add] at made
  exact made.symm

/-- A call continues a draft that was made before. -/
theorem getElem?_of_extend {position earlier : Nat} {call : Call}
    (step : program[position]? = some (.extend earlier call)) :
    earlier < position ∧ (drafts[earlier]?).bind (Draft.call? · call) = drafts[position]? := by
  have inside : position < drafts.length := by
    rw [length_drafts? run]
    exact (List.getElem?_eq_some_iff.mp step).1
  have made := (draft?_of_draftsFrom? run).2.2 position _ step
  rw [List.length_nil, Nat.zero_add] at made
  have made : ((drafts.take position)[earlier]?).bind (Draft.call? · call) = drafts[position]? :=
    made
  by_cases behind : earlier < position
  · rw [List.getElem?_take_of_lt behind] at made
    exact ⟨behind, made⟩
  · rw [List.getElem?_take_eq_none (Nat.le_of_not_lt behind), Option.bind_none,
      List.getElem?_eq_getElem inside] at made
    cases made

/-- A draft that has been made goes back to one that was started. -/
theorem exists_line (position : Nat) (inside : position < drafts.length) :
    ∃ draft calls, Step.start draft ∈ program ∧ program.Line position draft calls := by
  induction position using Nat.strongRecOn with
  | ind position ih =>
      obtain ⟨step, found⟩ : ∃ step, program[position]? = some step :=
        ⟨_, List.getElem?_eq_getElem (length_drafts? run ▸ inside)⟩
      cases step with
      | start draft => exact ⟨draft, [], List.mem_of_getElem? found, .start found⟩
      | extend earlier call =>
          have behind := (getElem?_of_extend run found).1
          rcases ih earlier behind (behind.trans inside) with ⟨draft, calls, member, line⟩
          exact ⟨draft, calls ++ [call], member, .extend found line⟩

/-- The draft at the end of a line is made by the calls on the line alone. -/
theorem Line.calls? {position : Nat} {start : Draft} {calls : List Call}
    (line : program.Line position start calls) :
    calls.foldlM Draft.call? start = drafts[position]? := by
  induction line with
  | start step => exact (getElem?_of_start run step).symm
  | extend step line ih =>
      rw [List.foldlM_append, ih, ← (getElem?_of_extend run step).2]
      simp

end Run

end Program

/-! ## Clauses -/

/-- A condition without the wrappers around it. -/
def Condition.bare : Condition → Condition
  | .wrapped condition => condition.bare
  | condition => condition

/-- Wrappers add nothing to the expression of a condition. -/
theorem Condition.toExpr_bare (condition : Condition) :
    condition.bare.toExpr = condition.toExpr := by
  fun_induction Condition.bare condition with
  | case1 condition ih => rw [ih, Condition.toExpr]
  | case2 => rfl

theorem Condition.toExpr_comp_bare : Condition.toExpr ∘ Condition.bare = Condition.toExpr :=
  funext Condition.toExpr_bare

namespace Call

/-- The subquery that a call projects. -/
def subquery? : Call → Option Subquery
  | .project subquery => some subquery
  | _ => none

/-- The column that a call adds to sort by. -/
def sortColumn? : Call → Option SortColumn
  | .sortBy sort => some sort
  | _ => none

/-- The limit that a call sets. -/
def range? : Call → Option RowRange
  | .limitTo range => some range
  | _ => none

/-- The assignment that a call adds. -/
def item? : Call → Option SetItem
  | .assign item => some item
  | _ => none

/-- The row that a call adds. -/
def addedRow? : Call → Option Row
  | .addRow row => some row
  | _ => none

/-- The rows that a call sets in place of all before. -/
def rows? : Call → Option (List Row)
  | .withRows rows => some rows
  | _ => none

/-- Whether a call gives rows in either way. -/
def givesRows (call : Call) : Bool :=
  call.addedRow?.isSome || call.rows?.isSome

end Call

/-- What the calls on a line come to, clause by clause. -/
structure ClauseLog where
  subqueries : List Subquery
  conditions : List Condition
  sortColumns : List SortColumn
  range : Option RowRange
  rows : Option (List Row)
  items : List SetItem

namespace ClauseLog

/--
The rows of the last call that sets them all, and behind them those that later
calls add.  There are none, not even an empty list, where no call gives rows.
-/
def rowsOf (calls : List Call) : Option (List Row) :=
  if calls.any Call.givesRows then
    some ((calls.filterMap Call.rows?).getLast?.getD [] ++
      (calls.rtakeWhile fun call => call.rows?.isNone).filterMap Call.addedRow?)
  else
    none

/-- The log of a list of calls.  Of the limits only the last one counts. -/
def ofCalls (calls : List Call) : ClauseLog where
  subqueries := calls.filterMap Call.subquery?
  conditions := (calls.flatMap Call.conditions).map Condition.bare
  sortColumns := calls.filterMap Call.sortColumn?
  range := (calls.filterMap Call.range?).getLast?
  rows := rowsOf calls
  items := calls.filterMap Call.item?

/-- The log with one more call. -/
def add (log : ClauseLog) : Call → ClauseLog
  | .andWhere condition => { log with conditions := log.conditions ++ [condition.bare] }
  | .andWhereAll conditions =>
      { log with conditions := log.conditions ++ conditions.map Condition.bare }
  | .project subquery => { log with subqueries := log.subqueries ++ [subquery] }
  | .sortBy sort => { log with sortColumns := log.sortColumns ++ [sort] }
  | .limitTo range => { log with range := some range }
  | .addRow row => { log with rows := some (log.rows.getD [] ++ [row]) }
  | .withRows rows => { log with rows := some rows }
  | .assign item => { log with items := log.items ++ [item] }

/-- A line without a call that gives rows has no rows to add either. -/
theorem rowsOf_getD (calls : List Call) :
    (rowsOf calls).getD [] =
      (calls.filterMap Call.rows?).getLast?.getD [] ++
        (calls.rtakeWhile fun call => call.rows?.isNone).filterMap Call.addedRow? := by
  by_cases given : calls.any Call.givesRows
  · simp [rowsOf, given]
  · have noRows : ∀ call ∈ calls, call.addedRow? = none ∧ call.rows? = none := by
      simpa [Call.givesRows] using given
    have later : ∀ call ∈ calls.rtakeWhile fun call => call.rows?.isNone,
        call.addedRow? = none :=
      fun call member => (noRows call ((List.rtakeWhile_suffix _ _).mem member)).1
    rw [rowsOf, if_neg given, List.filterMap_eq_nil_iff.mpr fun call member =>
      (noRows call member).2, List.filterMap_eq_nil_iff.mpr later]
    rfl

/-- A call that gives no rows leaves the rows as they are. -/
theorem rowsOf_concat_of_not_givesRows (calls : List Call) {call : Call}
    (other : call.givesRows = false) : rowsOf (calls ++ [call]) = rowsOf calls := by
  rw [Call.givesRows, Bool.or_eq_false_iff, Option.isSome_eq_false_iff,
    Option.isSome_eq_false_iff, Option.isNone_iff_eq_none, Option.isNone_iff_eq_none] at other
  simp [rowsOf, Call.givesRows, other]

theorem ofCalls_concat (calls : List Call) (call : Call) :
    ofCalls (calls ++ [call]) = (ofCalls calls).add call := by
  cases call with
  | addRow row =>
      have rows : rowsOf (calls ++ [.addRow row]) = some ((rowsOf calls).getD [] ++ [row]) := by
        rw [rowsOf_getD]
        simp [rowsOf, Call.givesRows, Call.addedRow?, Call.rows?]
      simp [ofCalls, add, rows, Call.conditions, Call.subquery?, Call.sortColumn?, Call.range?,
        Call.item?]
  | withRows given =>
      have rows : rowsOf (calls ++ [.withRows given]) = some given := by
        simp [rowsOf, Call.givesRows, Call.addedRow?, Call.rows?]
      simp [ofCalls, add, rows, Call.conditions, Call.subquery?, Call.sortColumn?, Call.range?,
        Call.item?]
  | _ =>
      simp [ofCalls, add, rowsOf_concat_of_not_givesRows, Call.givesRows, Call.addedRow?,
        Call.rows?, Call.conditions, Call.subquery?, Call.sortColumn?, Call.range?, Call.item?,
        Condition.bare]

end ClauseLog

/-! ## Drafts filled from a log -/

/-- The draft of an opening with all parts of a log put in at once. -/
def Opening.filled (log : ClauseLog) : Opening → Draft
  | .select table columns =>
      .select ⟨table, columns, log.subqueries, log.conditions, log.sortColumns, log.range⟩
  | .insert table columns => .insert ⟨table, columns, log.rows⟩
  | .update table => .update ⟨table, log.items, log.conditions⟩
  | .delete table => .delete ⟨table, log.conditions⟩

namespace Draft

/-- A draft whose conditions have no wrappers around them. -/
def bare : Draft → Draft
  | .select draft => .select { draft with conditions := draft.conditions.map Condition.bare }
  | .insert draft => .insert draft
  | .update draft => .update { draft with conditions := draft.conditions.map Condition.bare }
  | .delete draft => .delete { draft with conditions := draft.conditions.map Condition.bare }

/-- Wrappers add nothing to the statement of a draft, nor to its error. -/
theorem toSql_bare (draft : Draft) : draft.bare.toSql = draft.toSql := by
  cases draft with
  | select draft =>
      rcases draft with ⟨table, columns, subqueries, conditions, orderBy, range⟩
      simp [bare, toSql, toStatement, SelectDraft.toSelect, Condition.toExpr_comp_bare]
  | insert draft => rfl
  | update draft =>
      simp [bare, toSql, toStatement, UpdateDraft.toUpdate, Condition.toExpr_comp_bare]
  | delete draft =>
      simp [bare, toSql, toStatement, DeleteDraft.toDelete, Condition.toExpr_comp_bare]

/-- One call adds to a draft what it adds to the log. -/
theorem bare_of_call? {opening : Opening} {log : ClauseLog} {draft next : Draft} {call : Call}
    (filled : draft.bare = opening.filled log) (called : draft.call? call = some next) :
    next.bare = opening.filled (log.add call) := by
  cases draft with
  | select inner =>
      rcases Option.map_eq_some_iff.mp called with ⟨after, made, rfl⟩
      cases opening with
      | select table columns =>
          simp only [bare, Opening.filled, Draft.select.injEq, SelectDraft.mk.injEq] at filled
          cases call <;> simp only [SelectDraft.call?, Option.some.injEq, reduceCtorEq] at made
          all_goals
            subst made
            simp [bare, Opening.filled, filled, ClauseLog.add, SelectDraft.andWhere,
              SelectDraft.andWhereAll, SelectDraft.project, SelectDraft.sortBy,
              SelectDraft.limitTo, Condition.bare]
      | _ => cases filled
  | insert inner =>
      rcases Option.map_eq_some_iff.mp called with ⟨after, made, rfl⟩
      cases opening with
      | insert table columns =>
          simp only [bare, Opening.filled, Draft.insert.injEq] at filled
          cases call <;> simp only [InsertDraft.call?, Option.some.injEq, reduceCtorEq] at made
          all_goals
            subst made
            simp [bare, Opening.filled, filled, ClauseLog.add, InsertDraft.addRow,
              InsertDraft.withRows]
      | _ => cases filled
  | update inner =>
      rcases Option.map_eq_some_iff.mp called with ⟨after, made, rfl⟩
      cases opening with
      | update table =>
          simp only [bare, Opening.filled, Draft.update.injEq, UpdateDraft.mk.injEq] at filled
          cases call <;> simp only [UpdateDraft.call?, Option.some.injEq, reduceCtorEq] at made
          all_goals
            subst made
            simp [bare, Opening.filled, filled, ClauseLog.add, UpdateDraft.andWhere,
              UpdateDraft.andWhereAll, UpdateDraft.assign, Condition.bare]
      | _ => cases filled
  | delete inner =>
      rcases Option.map_eq_some_iff.mp called with ⟨after, made, rfl⟩
      cases opening with
      | delete table =>
          simp only [bare, Opening.filled, Draft.delete.injEq, DeleteDraft.mk.injEq] at filled
          cases call <;> simp only [DeleteDraft.call?, Option.some.injEq, reduceCtorEq] at made
          all_goals
            subst made
            simp [bare, Opening.filled, filled, ClauseLog.add, DeleteDraft.andWhere,
              DeleteDraft.andWhereAll, Condition.bare]
      | _ => cases filled

/-- A line of calls from an opening makes the draft that its log is put into at once. -/
theorem bare_of_calls? {opening : Opening} {calls : List Call} {draft : Draft}
    (called : calls.foldlM Draft.call? opening.draft = some draft) :
    draft.bare = opening.filled (.ofCalls calls) := by
  induction calls using List.reverseRecOn generalizing draft with
  | nil =>
      cases called
      cases opening <;> rfl
  | append_singleton calls call ih =>
      rw [List.foldlM_append] at called
      rcases Option.bind_eq_some_iff.mp called with ⟨before, made, last⟩
      rw [ClauseLog.ofCalls_concat]
      exact bare_of_call? (ih made) (by simpa using last)

/-- The result of a draft is that of the draft which its log is put into at once. -/
theorem toSql_of_makes {program : Program} {position : Nat} {opening : Opening}
    {calls : List Call} {draft : Draft} (makes : program.Makes position opening calls draft) :
    draft.toSql = (opening.filled (.ofCalls calls)).toSql := by
  rcases makes with ⟨drafts, run, found, line⟩
  rw [← bare_of_calls? ((line.calls? run).trans found), toSql_bare]

end Draft

/-- In a program that opens its drafts empty, every draft goes back to an opening. -/
theorem Program.OpensEmpty.exists_makes {program : Program} (empty : program.OpensEmpty)
    {drafts : List Draft} (run : program.drafts? = some drafts)
    {position : Nat} {draft : Draft} (found : drafts[position]? = some draft) :
    ∃ opening calls, program.Makes position opening calls draft := by
  have inside := (List.getElem?_eq_some_iff.mp found).1
  rcases exists_line run position inside with ⟨start, calls, member, line⟩
  rcases empty start member with ⟨opening, rfl⟩
  exact ⟨opening, calls, drafts, run, found, line⟩

/--
Every draft of a program goes back to an opening by a line of calls, and its
statement, or its error, is that of the opening with the log of the line put in
at once.  So two drafts, of one program or of two, come to the same result where
they have the same opening and their lines have the same log.
-/
theorem toSql_decidedBy_clauseLog :
    (∀ (program : Program) (drafts : List Draft),
      program.OpensEmpty → program.drafts? = some drafts →
      ∀ position draft, drafts[position]? = some draft →
        ∃ opening calls, program.Makes position opening calls draft ∧
          draft.toSql = (opening.filled (.ofCalls calls)).toSql) ∧
    ∀ (left right : Program) (leftPosition rightPosition : Nat) (opening : Opening)
      (leftCalls rightCalls : List Call) (leftDraft rightDraft : Draft),
      left.Makes leftPosition opening leftCalls leftDraft →
      right.Makes rightPosition opening rightCalls rightDraft →
      ClauseLog.ofCalls leftCalls = ClauseLog.ofCalls rightCalls →
      leftDraft.toSql = rightDraft.toSql := by
  constructor
  · intro program drafts empty run position draft found
    rcases empty.exists_makes run found with ⟨opening, calls, makes⟩
    exact ⟨opening, calls, makes, Draft.toSql_of_makes makes⟩
  · intro left right leftPosition rightPosition opening leftCalls rightCalls leftDraft rightDraft
      leftMakes rightMakes same
    rw [Draft.toSql_of_makes leftMakes, Draft.toSql_of_makes rightMakes, same]

/-- A SELECT whose conditions come one by one, between other calls and beside a branch. -/
def scatteredRun : Program :=
  [.start (Opening.draft (.select "t" ["a"])),
    .extend 0 (.andWhere (.bool true)),
    .extend 0 (.limitTo ⟨9, none⟩),
    .extend 1 (.limitTo ⟨1, some 2⟩),
    .extend 3 (.sortBy ⟨"b", .descending⟩),
    .extend 4 (.andWhereAll [.isNull (.identifier (.ofName "b")) true, .bool false]),
    .extend 5 (.limitTo ⟨3, none⟩)]

/-- A SELECT with the same conditions, all given at once behind an empty list. -/
def gatheredRun : Program :=
  [.start (Opening.draft (.select "t" ["a"])),
    .extend 0 (.limitTo ⟨3, none⟩),
    .extend 1 (.andWhereAll []),
    .extend 2 (.andWhereAll
      [.bool true, .isNull (.identifier (.ofName "b")) true, .bool false]),
    .extend 3 (.sortBy ⟨"b", .descending⟩)]

theorem scatteredRun_decidedBy_clauseLog :
    (scatteredRun.OpensEmpty ∧ ∃ drafts, scatteredRun.drafts? = some drafts ∧
      ∃ draft, drafts[6]? = some draft ∧
        ∃ opening calls, scatteredRun.Makes 6 opening calls draft ∧
          draft.toSql = (opening.filled (.ofCalls calls)).toSql) ∧
    ∃ leftCalls rightCalls left right,
      scatteredRun.Makes 6 (.select "t" ["a"]) leftCalls left ∧
      gatheredRun.Makes 4 (.select "t" ["a"]) rightCalls right ∧
      ClauseLog.ofCalls leftCalls = ClauseLog.ofCalls rightCalls ∧
      left.toSql = right.toSql ∧
      right.toSql =
        .ok "SELECT a FROM t WHERE TRUE AND b IS NOT NULL AND FALSE ORDER BY b DESC LIMIT 3" := by
  have empty : scatteredRun.OpensEmpty := by
    intro draft member
    exact ⟨.select "t" ["a"], by simpa [scatteredRun, eq_comm] using member⟩
  refine ⟨⟨empty, _, rfl, _, rfl, ?_⟩, ?_⟩
  · exact toSql_decidedBy_clauseLog.1 _ _ empty rfl _ _ rfl
  · have scattered : scatteredRun.Makes 6 (.select "t" ["a"]) _ _ :=
      ⟨_, rfl, rfl,
        .extend rfl (.extend rfl (.extend rfl (.extend rfl (.extend rfl (.start rfl)))))⟩
    have gathered : gatheredRun.Makes 4 (.select "t" ["a"]) _ _ :=
      ⟨_, rfl, rfl, .extend rfl (.extend rfl (.extend rfl (.extend rfl (.start rfl))))⟩
    exact ⟨_, _, _, _, scattered, gathered, rfl,
      toSql_decidedBy_clauseLog.2 _ _ _ _ _ _ _ _ _ scattered gathered rfl,
      congrArg Except.ok (by decide +kernel)⟩

end SqlBuilder
