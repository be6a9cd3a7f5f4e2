import SqlBuilder.Proofs.Conversion
import SqlBuilder.Proofs.ReadBack

/-!
# From drafts to text and back

A draft is readable when the values it compares, projects, inserts and assigns
are atoms: literals with finite numbers, arrays of atoms, columns, parameters with
plain names, and subqueries of readable drafts.  Ready expressions and dynamic
values have to be such atoms themselves.

The statement of a readable draft is read back from its text, up to the way in
which chains of one connective are put together.
-/

namespace SqlBuilder

/-- An operand that is read back. -/
def Expr.IsAtom (expr : Expr) : Prop :=
  expr.IsOperand ∧ expr.IsReadable

/-! ## Readable drafts -/

mutual

/-- A value that is an atom once it has been converted. -/
def Value.IsReadable : Value → Prop
  | .float64 value => value.IsFinite
  | .float32 value => value.IsFinite
  | .present value => Value.IsReadable value
  | .nullable payload valid => valid = true → Value.IsReadable payload
  | .wrapped value => Value.IsReadable value
  | .sequence elements => Value.AllReadable elements
  | .dynamic value => value.toExpr.IsAtom
  | .json value => ∀ expr, value.toExpr = .ok expr → expr.IsAtom
  | .expr expression => expression.IsAtom
  | .parameter value => IsPlain value.name
  | .subquery ⟨_, query, _⟩ => SelectDraft.IsReadable query
  | _ => True

def Value.AllReadable : List Value → Prop
  | [] => True
  | value :: rest => Value.IsReadable value ∧ Value.AllReadable rest

/-- A condition over readable values and queries. -/
def Condition.IsReadable : Condition → Prop
  | .group _ members => Condition.AllReadable members
  | .compare _ left right => Value.IsReadable left ∧ Value.IsReadable right
  | .isNull operand _ => Value.IsReadable operand
  | .inArray operand elements _ => Value.IsReadable operand ∧ Value.IsReadable elements
  | .inList operand elements _ => Value.IsReadable operand ∧ Value.AllReadable elements
  | .inQuery operand query _ => Value.IsReadable operand ∧ SelectDraft.IsReadable query
  | .between operand low high _ =>
      Value.IsReadable operand ∧ Value.IsReadable low ∧ Value.IsReadable high
  | .bool _ => True
  | .expr expression => expression.IsAtom
  | .wrapped condition => Condition.IsReadable condition

def Condition.AllReadable : List Condition → Prop
  | [] => True
  | condition :: rest => Condition.IsReadable condition ∧ Condition.AllReadable rest

def Subquery.AllReadable : List Subquery → Prop
  | [] => True
  | ⟨_, query, _⟩ :: rest => SelectDraft.IsReadable query ∧ Subquery.AllReadable rest

/-- A draft of a SELECT with readable subqueries and conditions. -/
def SelectDraft.IsReadable : SelectDraft → Prop
  | ⟨_, _, subqueries, conditions, _, _⟩ =>
      Subquery.AllReadable subqueries ∧ Condition.AllReadable conditions

end

/-- A row of readable cells. -/
def Row.IsReadable (columns : List String) : Row → Prop
  | .sequence cells => ∀ cell ∈ cells, cell.IsReadable
  | .tuple cells => ∀ cell ∈ cells, cell.IsReadable
  | .wrapped row => row.IsReadable columns
  | row => ∀ cells, row.bind columns = .ok cells → ∀ cell ∈ cells, cell.IsAtom

/-- A draft with readable values, conditions and rows. -/
def Draft.IsReadable : Draft → Prop
  | .select draft => draft.IsReadable
  | .insert draft => ∀ row ∈ draft.rows.getD [], row.IsReadable draft.columns
  | .update draft =>
      (∀ item ∈ draft.items, item.value.IsReadable) ∧
        ∀ condition ∈ draft.conditions, condition.IsReadable
  | .delete draft => ∀ condition ∈ draft.conditions, condition.IsReadable

/-! ## Conversion of readable values -/

theorem isIntegerText_repr {number : Nat} (small : number < 2 ^ (63 : Nat)) :
    IsIntegerText number.repr := by
  refine ⟨Int64.ofNat number, ?_⟩
  rw [Int64.toInt_ofNat_of_lt small]
  rfl

theorem Expr.isAtom_of_ok {expr : Expr} (atom : expr.IsAtom) :
    ∀ result, (.ok expr : Outcome Expr) = .ok result → result.IsAtom := by
  rintro result ⟨⟩
  exact atom

/-- What a readable value converts to, and what a readable draft converts to, is readable. -/
def Condition.OverReadable (condition : Condition) : Prop :=
  condition.Over (fun value => ∀ expr, value.toExpr = .ok expr → expr.IsAtom)
    fun draft => ∀ query, draft.toSelect = .ok query → query.IsReadable

theorem Condition.OverReadable.toExpr {condition : Condition} {expr : Expr}
    (covered : condition.OverReadable) (converted : condition.toExpr = .ok expr) :
    expr.IsReadable := by
  apply Condition.every_toExpr _ _ _ _ covered converted
  · intro value
    trivial
  · intro inner
    trivial
  · intro expr test
    cases expr with
    | binary operator left right =>
        rcases test with ⟨comparison, operands⟩
        cases operator with
        | logical connective => cases comparison
        | _ => exact operands
    | isNull => exact test
    | isIn => exact test
    | between => exact test
    | _ => exact test.elim
  · intro connective left right beside following
    exact ⟨beside, following⟩

theorem Condition.OverReadable.all {conditions : List Condition} {expr : Expr}
    (covered : ∀ condition ∈ conditions, condition.OverReadable)
    (converted : (Condition.all conditions).toExpr = .ok expr) : expr.IsReadable := by
  refine Condition.OverReadable.toExpr ?_ converted
  exact (Condition.overAll_iff _ _ _).mpr covered

theorem columnItem_isReadable (column : String) : (columnItem column).expr.IsReadable :=
  List.cons_ne_nil _ _

/-- A SELECT over readable conditions and queries is readable. -/
theorem SelectDraft.isReadable_of_parts {draft : SelectDraft} {query : Select}
    (subqueries : ∀ subquery ∈ draft.subqueries, ∀ inner,
      subquery.query.toSelect = .ok inner → inner.IsReadable)
    (conditions : ∀ condition ∈ draft.conditions, condition.OverReadable)
    (converted : draft.toSelect = .ok query) : query.IsReadable := by
  rcases SelectDraft.of_toSelect converted with ⟨projected, filter, collected, filtered, rfl⟩
  refine ⟨?_, ?_, ?_, ?_, ?_⟩
  · intro limit member
    rcases Option.map_eq_some_iff.mp member with ⟨range, _, rfl⟩
    trivial
  · rw [SelectItem.everyAll_iff, List.forall_mem_append, List.forall_mem_map]
    refine ⟨fun column _ => columnItem_isReadable column, fun item member => ?_⟩
    rcases Outcome.exists_of_mem collected member with ⟨⟨form, inner, label⟩, inside, made⟩
    rcases Outcome.map_eq_ok_iff.mp made with ⟨select, selected, rfl⟩
    exact ⟨trivial, subqueries _ inside select selected⟩
  · rw [Expr.every?_iff]
    rintro expr ⟨⟩
    rw [← Condition.outcomes_eq_map] at filtered
    rcases filterOf_eq_ok_iff.mp filtered with ⟨_, absent⟩ | ⟨_, found, joined, same⟩
    · cases absent
    · cases same
      exact Condition.OverReadable.all conditions joined
  · rw [OrderKey.everyAll_iff, List.forall_mem_map]
    exact fun sort _ => List.cons_ne_nil _ _
  · rw [Limit.every?_iff]
    intro limit member
    rcases Option.map_eq_some_iff.mp member with ⟨range, _, rfl⟩
    refine ⟨⟨range.count, rfl⟩, fun offset inside => ?_⟩
    rcases Option.map_eq_some_iff.mp inside with ⟨value, _, rfl⟩
    exact ⟨value, rfl⟩

mutual

theorem Value.isAtom :
    (value : Value) → value.IsReadable → ∀ expr, value.toExpr = .ok expr → expr.IsAtom
  | .null, _ => Expr.isAtom_of_ok ⟨trivial, trivial⟩
  | .string _, _ => Expr.isAtom_of_ok ⟨trivial, trivial⟩
  | .bytes _, _ => Expr.isAtom_of_ok ⟨trivial, trivial⟩
  | .int value, _ => Expr.isAtom_of_ok ⟨trivial, value, rfl⟩
  | .uint value, _ => by
      intro expr converted
      rw [Value.toExpr, Expr.ofUInt64] at converted
      split at converted
      · cases converted
        exact ⟨trivial, isIntegerText_repr ‹_›⟩
      · cases converted
  | .bool _, _ => Expr.isAtom_of_ok ⟨trivial, trivial⟩
  | .float64 value, finite => Expr.isAtom_of_ok ⟨trivial, _, value, finite, rfl⟩
  | .float32 value, finite => Expr.isAtom_of_ok ⟨trivial, _, value, finite, rfl⟩
  | .timestamp _, _ => Expr.isAtom_of_ok ⟨trivial, trivial⟩
  | .date _, _ => Expr.isAtom_of_ok ⟨trivial, trivial⟩
  | .uuid _, _ => Expr.isAtom_of_ok ⟨trivial, trivial⟩
  | .present value, readable => Value.isAtom value readable
  | .nullable payload true, readable => Value.isAtom payload (readable rfl)
  | .nullable _ false, _ => Expr.isAtom_of_ok ⟨trivial, trivial⟩
  | .wrapped value, readable => Value.isAtom value readable
  | .sequence elements, readable => by
      intro expr converted
      rcases Outcome.map_eq_ok_iff.mp converted with ⟨exprs, collected, rfl⟩
      rw [Value.outcomes_eq_map] at collected
      have each := (Outcome.collectFrom_eq_ok_iff _ 0 _ _).mp collected
      refine ⟨trivial, trivial, (Expr.everyAll_iff _ _ _).mpr fun element member => ?_⟩
      rcases Outcome.exists_of_mem each member with ⟨value, inside, made⟩
      exact (Value.isAtom_list elements readable value inside element made).2
  | .dynamic _, atom => Expr.isAtom_of_ok atom
  | .json _, atom => atom
  | .expr _, atom => Expr.isAtom_of_ok atom
  | .identifier value, _ => by
      intro expr converted
      rw [Value.toExpr, Identifier.toExpr] at converted
      split at converted
      · cases converted
      · cases converted
        exact ⟨‹_›, ‹_›⟩
  | .parameter _, plain => Expr.isAtom_of_ok ⟨trivial, plain⟩
  | .subquery ⟨form, draft, _⟩, readable => by
      intro expr converted
      rcases Outcome.map_eq_ok_iff.mp converted with ⟨query, made, rfl⟩
      exact ⟨trivial, trivial, SelectDraft.isReadable_toSelect draft readable query made⟩

theorem Value.isAtom_list :
    (values : List Value) → Value.AllReadable values →
      ∀ value ∈ values, ∀ expr, value.toExpr = .ok expr → expr.IsAtom
  | [], _ => fun _ member => absurd member List.not_mem_nil
  | value :: rest, readable =>
      List.forall_mem_cons.mpr
        ⟨Value.isAtom value readable.1, Value.isAtom_list rest readable.2⟩

theorem Condition.overReadable :
    (condition : Condition) → condition.IsReadable → condition.OverReadable
  | .group _ members, readable =>
      (Condition.overAll_iff _ _ _).mpr (Condition.overReadable_list members readable)
  | .compare _ left right, readable =>
      ⟨Value.isAtom left readable.1, Value.isAtom right readable.2⟩
  | .isNull operand _, readable => Value.isAtom operand readable
  | .inArray operand elements _, readable =>
      ⟨Value.isAtom operand readable.1, Value.isAtom elements readable.2⟩
  | .inList operand elements _, readable =>
      ⟨Value.isAtom operand readable.1, Value.isAtom_list elements readable.2⟩
  | .inQuery operand draft _, readable =>
      ⟨Value.isAtom operand readable.1, SelectDraft.isReadable_toSelect draft readable.2⟩
  | .between operand low high _, readable =>
      ⟨Value.isAtom operand readable.1, Value.isAtom low readable.2.1,
        Value.isAtom high readable.2.2⟩
  | .bool _, _ => trivial
  | .expr _, atom => Expr.isAtom_of_ok atom
  | .wrapped condition, readable => Condition.overReadable condition readable

theorem Condition.overReadable_list :
    (conditions : List Condition) → Condition.AllReadable conditions →
      ∀ condition ∈ conditions, condition.OverReadable
  | [], _ => fun _ member => absurd member List.not_mem_nil
  | condition :: rest, readable =>
      List.forall_mem_cons.mpr
        ⟨Condition.overReadable condition readable.1,
          Condition.overReadable_list rest readable.2⟩

theorem Subquery.isReadable_list :
    (subqueries : List Subquery) → Subquery.AllReadable subqueries →
      ∀ subquery ∈ subqueries, ∀ query, subquery.query.toSelect = .ok query → query.IsReadable
  | [], _ => fun _ member => absurd member List.not_mem_nil
  | ⟨_, draft, _⟩ :: rest, readable =>
      List.forall_mem_cons.mpr
        ⟨SelectDraft.isReadable_toSelect draft readable.1,
          Subquery.isReadable_list rest readable.2⟩

theorem SelectDraft.isReadable_toSelect :
    (draft : SelectDraft) → draft.IsReadable →
      ∀ query, draft.toSelect = .ok query → query.IsReadable
  | ⟨_, _, subqueries, conditions, _, _⟩, readable => fun _ converted =>
      SelectDraft.isReadable_of_parts (Subquery.isReadable_list subqueries readable.1)
        (Condition.overReadable_list conditions readable.2) converted

end

theorem Row.isAtom_of_bind {columns : List String} {row : Row} (readable : row.IsReadable columns)
    {cells : List Expr} (bound : row.bind columns = .ok cells) :
    ∀ cell ∈ cells, cell.IsAtom := by
  have ofValues {values : List Value} (each : ∀ value ∈ values, value.IsReadable)
      (collected : positional values = .ok cells) : ∀ cell ∈ cells, cell.IsAtom := by
    intro cell member
    obtain ⟨value, inside, made⟩ :=
      Outcome.exists_of_mem (Outcome.collect_eq_ok_iff.mp collected) member
    exact Value.isAtom value (each value inside) cell made
  induction row with
  | sequence values => exact ofValues readable bound
  | tuple values => exact ofValues readable bound
  | wrapped row ih => exact ih readable bound
  | dynamic => exact readable cells bound
  | json => exact readable cells bound
  | record => exact readable cells bound

/-- A readable draft converts to a readable statement. -/
theorem Draft.isReadable_toStatement {draft : Draft} {statement : Statement}
    (readable : draft.IsReadable) (converted : draft.toStatement = .ok statement) :
    statement.IsReadable := by
  have together {conditions : List Condition} {filter : Expr}
      (each : ∀ condition ∈ conditions, condition.IsReadable)
      (joined : (Condition.all conditions).toExpr = .ok filter) : filter.IsReadable :=
    Condition.OverReadable.all
      (fun condition member => condition.overReadable (each condition member)) joined
  cases draft with
  | select inner =>
      rcases Outcome.map_eq_ok_iff.mp converted with ⟨query, made, rfl⟩
      exact ⟨inner.isReadable_toSelect readable query made, trivial⟩
  | insert inner =>
      rcases Outcome.map_eq_ok_iff.mp converted with ⟨command, made, rfl⟩
      rcases InsertDraft.of_toInsert made with ⟨rows, bound, rfl⟩
      refine ⟨fun cells member cell inside => ?_, trivial⟩
      rcases Outcome.exists_of_mem bound member with ⟨row, given, same⟩
      exact (Row.isAtom_of_bind (readable row given) same cell inside).2
  | update inner =>
      rcases Outcome.map_eq_ok_iff.mp converted with ⟨command, made, rfl⟩
      rcases UpdateDraft.of_toUpdate made with ⟨assignments, filter, collected, _, joined, rfl⟩
      have each : ∀ assignment ∈ assignments,
          assignment.target ≠ [] ∧ assignment.value.IsReadable := by
        intro assignment member
        rcases Outcome.exists_of_mem collected member with ⟨item, inside, assigned⟩
        rw [SetItem.toAssignment] at assigned
        split at assigned
        · cases assigned
        · rcases Outcome.map_eq_ok_iff.mp assigned with ⟨value, valued, rfl⟩
          exact ⟨‹_›, (item.value.isAtom (readable.1 item inside) value valued).2⟩
      refine ⟨⟨fun assignment member => (each assignment member).2, ?_⟩, ?_⟩
      · exact together readable.2 joined
      · exact fun assignment member => (each assignment member).1
  | delete inner =>
      rcases Outcome.map_eq_ok_iff.mp converted with ⟨command, made, rfl⟩
      rcases DeleteDraft.of_toDelete made with ⟨_, filter, joined, rfl⟩
      exact ⟨together readable joined, trivial⟩

/-! ## Reading the text of a draft -/

theorem Draft.toSql_eq_ok {draft : Draft} {statement : Statement}
    (converted : draft.toStatement = .ok statement) : draft.toSql = .ok statement.sql := by
  rw [Draft.toSql, converted]
  rfl

/--
The text of a readable draft is read as the draft's statement, up to the way in
which chains of one connective are put together.  So two readable drafts have the
same text exactly where they have the same statement up to that.
-/
theorem parse?_toSql :
    (∀ (draft : Draft) (statement : Statement), draft.IsReadable →
      draft.toStatement = .ok statement →
      ∃ sql, draft.toSql = .ok sql ∧ Statement.parse? sql = some statement.leftChained) ∧
    ∀ (first second : Draft) (statement other : Statement), first.IsReadable →
      second.IsReadable → first.toStatement = .ok statement →
      second.toStatement = .ok other →
      (first.toSql = second.toSql ↔ statement.leftChained = other.leftChained) := by
  constructor
  · intro draft statement readable converted
    refine ⟨statement.sql, Draft.toSql_eq_ok converted, ?_⟩
    exact Statement.parse?_sql (Draft.isReadable_toStatement readable converted)
  · intro first second statement other readable another converted made
    rw [Draft.toSql_eq_ok converted, Draft.toSql_eq_ok made]
    constructor
    · intro same
      have read := Statement.parse?_sql (Draft.isReadable_toStatement readable converted)
      have reread := Statement.parse?_sql (Draft.isReadable_toStatement another made)
      rw [Except.ok.inj same] at read
      exact Option.some.inj (read.symm.trans reread)
    · intro same
      -- Brackets are nodes of their own, so moving the links of a chain moves no text.
      rw [Statement.sql, Statement.sql, ← statement.text_leftChained, same,
        other.text_leftChained]

/-! ## Two ways to the same text -/

/-- A test of a column whose name is a word of a clause, and of an array of a subquery's values. -/
def nestedTest : Condition :=
  .any
    [.compare .less (.identifier ⟨["offset"]⟩) (.int (-3)),
      .inArray (.identifier ⟨["t", "id"]⟩)
        (.subquery ⟨.array, .ofColumns "select" ["id"], none⟩) true]

/-- The conditions of a draft, grouped in front or at the end. -/
def groupedFirst : SelectDraft where
  table := "t"
  columns := ["date", "values"]
  subqueries := [⟨.scalar, .ofColumns "u" ["order"], some "limit"⟩]
  conditions := [.all [nestedTest, .isNull (.identifier ⟨["a"]⟩) true], .bool true]
  orderBy := [⟨"date", .descending⟩]
  range := some ⟨10, some 5⟩

def groupedLast : SelectDraft :=
  { groupedFirst with
    conditions := [nestedTest, .all [.isNull (.identifier ⟨["a"]⟩) true, .bool true]] }

theorem groupedFirst_isReadable : groupedFirst.IsReadable := by
  refine ⟨⟨⟨trivial, trivial⟩, trivial⟩, ?_⟩
  exact ⟨⟨⟨⟨trivial, trivial⟩, ⟨trivial, ⟨trivial, trivial⟩⟩, trivial⟩, trivial, trivial⟩,
    trivial, trivial⟩

theorem groupedLast_isReadable : groupedLast.IsReadable := by
  refine ⟨⟨⟨trivial, trivial⟩, trivial⟩, ?_⟩
  exact ⟨⟨⟨trivial, trivial⟩, ⟨trivial, ⟨trivial, trivial⟩⟩, trivial⟩,
    ⟨trivial, trivial, trivial⟩, trivial⟩

theorem groupedFirst_readBack :
    (∃ statement sql, (Draft.select groupedFirst).toStatement = .ok statement ∧
      (Draft.select groupedFirst).toSql = .ok sql ∧
      Statement.parse? sql = some statement.leftChained) ∧
    (Draft.select groupedFirst).toSql = (Draft.select groupedLast).toSql := by
  constructor
  · obtain ⟨sql, written, read⟩ :=
      parse?_toSql.1 (.select groupedFirst) _ groupedFirst_isReadable rfl
    exact ⟨_, sql, rfl, written, read⟩
  · exact (parse?_toSql.2 (.select groupedFirst) (.select groupedLast) _ _
      groupedFirst_isReadable groupedLast_isReadable rfl rfl).mpr rfl

end SqlBuilder
