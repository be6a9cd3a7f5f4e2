import SqlBuilder.Statement

/-!
# Going through an expression

An expression may hold queries, and a query holds expressions.  A condition on
single nodes is asked of every node of an expression, however deep it stands,
and an expression is rebuilt node by node from the innermost ones outwards.  What
is true of every expression is shown by one induction for both.
-/

namespace SqlBuilder

/-! ## Induction -/

/-- An expression that holds no other expression. -/
def Expr.IsLeaf : Expr → Prop
  | .array _ => False
  | .binary _ _ _ => False
  | .isNull _ _ => False
  | .isIn _ _ _ => False
  | .between _ _ _ _ => False
  | .subquery _ _ => False
  | .paren _ => False
  | _ => True

/-- The cases of an induction over expressions, the right sides of IN and queries within them. -/
structure Expr.Cases (motive : Expr → Prop) (ofCandidates : Candidates → Prop)
    (ofQuery : Select → Prop) : Prop where
  leaf : ∀ expr : Expr, expr.IsLeaf → motive expr
  array : ∀ elements, (∀ element ∈ elements, motive element) → motive (.array elements)
  binary : ∀ operator left right, motive left → motive right →
    motive (.binary operator left right)
  isNull : ∀ operand negated, motive operand → motive (.isNull operand negated)
  isIn : ∀ operand candidates negated, motive operand → ofCandidates candidates →
    motive (.isIn operand candidates negated)
  between : ∀ operand low high negated, motive operand → motive low → motive high →
    motive (.between operand low high negated)
  subquery : ∀ form query, ofQuery query → motive (.subquery form query)
  paren : ∀ inner, motive inner → motive (.paren inner)
  values : ∀ elements, (∀ element ∈ elements, motive element) →
    ofCandidates (.values elements)
  unnest : ∀ elements, motive elements → ofCandidates (.unnest elements)
  rows : ∀ query, ofQuery query → ofCandidates (.subquery query)
  query : ∀ items table filter orderBy limit, (∀ item ∈ items, motive item.expr) →
    (∀ expr ∈ filter, motive expr) → (∀ key ∈ orderBy, motive key.expr) →
    (∀ range ∈ limit, motive range.count ∧ ∀ offset ∈ range.offset, motive offset) →
    ofQuery ⟨items, table, filter, orderBy, limit⟩

namespace Expr.Cases

variable {motive : Expr → Prop} {ofCandidates : Candidates → Prop} {ofQuery : Select → Prop}

mutual

theorem ofExpr (cases : Expr.Cases motive ofCandidates ofQuery) : (expr : Expr) → motive expr
  | .null => cases.leaf .null trivial
  | .string content => cases.leaf (.string content) trivial
  | .bytes content => cases.leaf (.bytes content) trivial
  | .integer digits => cases.leaf (.integer digits) trivial
  | .bool value => cases.leaf (.bool value) trivial
  | .float digits => cases.leaf (.float digits) trivial
  | .timestamp content => cases.leaf (.timestamp content) trivial
  | .date content => cases.leaf (.date content) trivial
  | .array elements => cases.array elements (cases.ofList elements)
  | .path segments => cases.leaf (.path segments) trivial
  | .parameter name => cases.leaf (.parameter name) trivial
  | .binary operator left right =>
      cases.binary operator left right (cases.ofExpr left) (cases.ofExpr right)
  | .isNull operand negated => cases.isNull operand negated (cases.ofExpr operand)
  | .isIn operand candidates negated =>
      cases.isIn operand candidates negated (cases.ofExpr operand) (cases.ofRight candidates)
  | .between operand low high negated =>
      cases.between operand low high negated (cases.ofExpr operand) (cases.ofExpr low)
        (cases.ofExpr high)
  | .subquery form inner => cases.subquery form inner (cases.ofSelect inner)
  | .paren inner => cases.paren inner (cases.ofExpr inner)

theorem ofList (cases : Expr.Cases motive ofCandidates ofQuery) :
    (exprs : List Expr) → ∀ expr ∈ exprs, motive expr
  | [] => fun _ member => absurd member List.not_mem_nil
  | expr :: rest => List.forall_mem_cons.mpr ⟨cases.ofExpr expr, cases.ofList rest⟩

theorem ofOption (cases : Expr.Cases motive ofCandidates ofQuery) :
    (expr : Option Expr) → ∀ part ∈ expr, motive part
  | none => fun _ member => absurd member (Option.not_mem_none _)
  | some expr => fun _ member => Option.mem_some.mp member ▸ cases.ofExpr expr

theorem ofRight (cases : Expr.Cases motive ofCandidates ofQuery) :
    (candidates : Candidates) → ofCandidates candidates
  | .values elements => cases.values elements (cases.ofList elements)
  | .unnest elements => cases.unnest elements (cases.ofExpr elements)
  | .subquery inner => cases.rows inner (cases.ofSelect inner)

theorem ofItems (cases : Expr.Cases motive ofCandidates ofQuery) :
    (items : List SelectItem) → ∀ item ∈ items, motive item.expr
  | [] => fun _ member => absurd member List.not_mem_nil
  | ⟨expr, _⟩ :: rest => List.forall_mem_cons.mpr ⟨cases.ofExpr expr, cases.ofItems rest⟩

theorem ofKeys (cases : Expr.Cases motive ofCandidates ofQuery) :
    (keys : List OrderKey) → ∀ key ∈ keys, motive key.expr
  | [] => fun _ member => absurd member List.not_mem_nil
  | ⟨expr, _⟩ :: rest => List.forall_mem_cons.mpr ⟨cases.ofExpr expr, cases.ofKeys rest⟩

theorem ofLimit (cases : Expr.Cases motive ofCandidates ofQuery) :
    (limit : Option Limit) →
      ∀ range ∈ limit, motive range.count ∧ ∀ offset ∈ range.offset, motive offset
  | none => fun _ member => absurd member (Option.not_mem_none _)
  | some ⟨count, offset⟩ => fun _ member =>
      Option.mem_some.mp member ▸ ⟨cases.ofExpr count, cases.ofOption offset⟩

theorem ofSelect (cases : Expr.Cases motive ofCandidates ofQuery) :
    (select : Select) → ofQuery select
  | ⟨items, table, filter, orderBy, limit⟩ =>
      cases.query items table filter orderBy limit (cases.ofItems items)
        (cases.ofOption filter) (cases.ofKeys orderBy) (cases.ofLimit limit)

end

/--
What holds of every expression, right side of IN and query, given that it holds of
each whose parts it holds of.
-/
theorem all (cases : Expr.Cases motive ofCandidates ofQuery) :
    (∀ expr, motive expr) ∧ (∀ candidates, ofCandidates candidates) ∧
      ∀ select, ofQuery select :=
  ⟨cases.ofExpr, cases.ofRight, cases.ofSelect⟩

end Expr.Cases

/-! ## A condition on every node -/

section Every

variable (node : Expr → Prop) (query : Select → Prop)

mutual

/-- Every expression and every query within an expression, itself included, meets a condition. -/
def Expr.Every : Expr → Prop
  | .array elements => node (.array elements) ∧ Expr.EveryAll elements
  | .binary operator left right =>
      node (.binary operator left right) ∧ Expr.Every left ∧ Expr.Every right
  | .isNull operand negated => node (.isNull operand negated) ∧ Expr.Every operand
  | .isIn operand candidates negated =>
      node (.isIn operand candidates negated) ∧ Expr.Every operand ∧
        Candidates.Every candidates
  | .between operand low high negated =>
      node (.between operand low high negated) ∧ Expr.Every operand ∧ Expr.Every low ∧
        Expr.Every high
  | .subquery form inner => node (.subquery form inner) ∧ Select.Every inner
  | .paren inner => node (.paren inner) ∧ Expr.Every inner
  | leaf => node leaf

def Expr.EveryAll : List Expr → Prop
  | [] => True
  | expr :: rest => Expr.Every expr ∧ Expr.EveryAll rest

def Expr.Every? : Option Expr → Prop
  | none => True
  | some expr => Expr.Every expr

def Candidates.Every : Candidates → Prop
  | .values elements => Expr.EveryAll elements
  | .unnest elements => Expr.Every elements
  | .subquery inner => Select.Every inner

def SelectItem.Every : SelectItem → Prop
  | ⟨expr, _⟩ => Expr.Every expr

def SelectItem.EveryAll : List SelectItem → Prop
  | [] => True
  | item :: rest => SelectItem.Every item ∧ SelectItem.EveryAll rest

def OrderKey.Every : OrderKey → Prop
  | ⟨expr, _⟩ => Expr.Every expr

def OrderKey.EveryAll : List OrderKey → Prop
  | [] => True
  | key :: rest => OrderKey.Every key ∧ OrderKey.EveryAll rest

def Limit.Every : Limit → Prop
  | ⟨count, offset⟩ => Expr.Every count ∧ Expr.Every? offset

def Limit.Every? : Option Limit → Prop
  | none => True
  | some limit => Limit.Every limit

def Select.Every : Select → Prop
  | ⟨items, table, filter, orderBy, limit⟩ =>
      query ⟨items, table, filter, orderBy, limit⟩ ∧ SelectItem.EveryAll items ∧
        Expr.Every? filter ∧ OrderKey.EveryAll orderBy ∧ Limit.Every? limit

end

/-- A leaf is the only node of itself. -/
theorem Expr.every_of_isLeaf {expr : Expr} (isLeaf : expr.IsLeaf) (meets : node expr) :
    expr.Every node query := by
  cases expr with
  | array => exact isLeaf.elim
  | binary => exact isLeaf.elim
  | isNull => exact isLeaf.elim
  | isIn => exact isLeaf.elim
  | between => exact isLeaf.elim
  | subquery => exact isLeaf.elim
  | paren => exact isLeaf.elim
  | _ => exact meets

@[simp]
theorem Expr.everyAll_iff (exprs : List Expr) :
    Expr.EveryAll node query exprs ↔ ∀ expr ∈ exprs, expr.Every node query := by
  induction exprs with
  | nil => simp [Expr.EveryAll]
  | cons expr rest ih => simp [Expr.EveryAll, ih]

@[simp]
theorem Expr.every?_iff (expr : Option Expr) :
    Expr.Every? node query expr ↔ ∀ part ∈ expr, part.Every node query := by
  cases expr <;> simp [Expr.Every?]

@[simp]
theorem SelectItem.everyAll_iff (items : List SelectItem) :
    SelectItem.EveryAll node query items ↔ ∀ item ∈ items, item.expr.Every node query := by
  induction items with
  | nil => simp [SelectItem.EveryAll]
  | cons item rest ih =>
      rcases item with ⟨expr, label⟩
      simp [SelectItem.EveryAll, SelectItem.Every, ih]

@[simp]
theorem OrderKey.everyAll_iff (keys : List OrderKey) :
    OrderKey.EveryAll node query keys ↔ ∀ key ∈ keys, key.expr.Every node query := by
  induction keys with
  | nil => simp [OrderKey.EveryAll]
  | cons key rest ih =>
      rcases key with ⟨expr, direction⟩
      simp [OrderKey.EveryAll, OrderKey.Every, ih]

@[simp]
theorem Limit.every?_iff (limit : Option Limit) :
    Limit.Every? node query limit ↔
      ∀ range ∈ limit, range.count.Every node query ∧
        ∀ offset ∈ range.offset, offset.Every node query := by
  cases limit with
  | none => simp [Limit.Every?]
  | some range =>
      rcases range with ⟨count, offset⟩
      simp [Limit.Every?, Limit.Every]

/-- What every node meets, each of them meets as well. -/
theorem Expr.Every.self {expr : Expr} (every : expr.Every node query) : node expr := by
  cases expr <;> first | exact every | exact every.1

/-- The condition for every expression of a statement. -/
def Statement.Every : Statement → Prop
  | .select inner => inner.Every node query
  | .insert command => ∀ cells ∈ command.rows, ∀ cell ∈ cells, cell.Every node query
  | .update command =>
      (∀ assignment ∈ command.assignments, assignment.value.Every node query) ∧
        command.filter.Every node query
  | .delete command => command.filter.Every node query

end Every

section Mono

variable {first second other : Expr → Prop} {front back another : Select → Prop}

/-- What follows at each node from two conditions is met by every node that meets both. -/
theorem Expr.Every.both_all (nodes : ∀ expr, first expr → second expr → other expr)
    (queries : ∀ select, front select → back select → another select) :
    (∀ expr : Expr,
      expr.Every first front → expr.Every second back → expr.Every other another) ∧
      (∀ candidates : Candidates, candidates.Every first front → candidates.Every second back →
        candidates.Every other another) ∧
      ∀ select : Select,
        select.Every first front → select.Every second back → select.Every other another := by
  apply Expr.Cases.all
  constructor
  case leaf =>
    intro expr isLeaf one two
    exact Expr.every_of_isLeaf _ _ isLeaf (nodes expr one.self two.self)
  case array =>
    intro elements ih one two
    have inOne := (Expr.everyAll_iff _ _ _).mp one.2
    have inTwo := (Expr.everyAll_iff _ _ _).mp two.2
    refine ⟨nodes _ one.1 two.1, (Expr.everyAll_iff _ _ _).mpr fun element member => ?_⟩
    exact ih element member (inOne element member) (inTwo element member)
  case binary =>
    intro operator left right ofLeft ofRight one two
    exact ⟨nodes _ one.1 two.1, ofLeft one.2.1 two.2.1, ofRight one.2.2 two.2.2⟩
  case isNull =>
    intro operand negated ih one two
    exact ⟨nodes _ one.1 two.1, ih one.2 two.2⟩
  case isIn =>
    intro operand candidates negated ofOperand ofCandidates one two
    exact ⟨nodes _ one.1 two.1, ofOperand one.2.1 two.2.1, ofCandidates one.2.2 two.2.2⟩
  case between =>
    intro operand low high negated ofOperand ofLow ofHigh one two
    exact ⟨nodes _ one.1 two.1, ofOperand one.2.1 two.2.1, ofLow one.2.2.1 two.2.2.1,
      ofHigh one.2.2.2 two.2.2.2⟩
  case subquery =>
    intro form select ih one two
    exact ⟨nodes _ one.1 two.1, ih one.2 two.2⟩
  case paren =>
    intro inner ih one two
    exact ⟨nodes _ one.1 two.1, ih one.2 two.2⟩
  case values =>
    intro elements ih one two
    have inOne := (Expr.everyAll_iff _ _ _).mp one
    have inTwo := (Expr.everyAll_iff _ _ _).mp two
    refine (Expr.everyAll_iff _ _ _).mpr fun element member => ?_
    exact ih element member (inOne element member) (inTwo element member)
  case unnest =>
    intro elements ih one two
    exact ih one two
  case rows =>
    intro select ih one two
    exact ih one two
  case query =>
    intro items table filter orderBy limit ofItems ofFilter ofKeys ofLimit one two
    rcases one with ⟨holds, inItems, inFilter, inKeys, inLimit⟩
    rcases two with ⟨holdsToo, itemsToo, filterToo, keysToo, limitToo⟩
    simp only [SelectItem.everyAll_iff, Expr.every?_iff, OrderKey.everyAll_iff,
      Limit.every?_iff] at inItems inFilter inKeys inLimit itemsToo filterToo keysToo limitToo
    refine ⟨queries _ holds holdsToo, ?_, ?_, ?_, ?_⟩
    · exact (SelectItem.everyAll_iff _ _ _).mpr fun item member =>
        ofItems item member (inItems item member) (itemsToo item member)
    · exact (Expr.every?_iff _ _ _).mpr fun expr member =>
        ofFilter expr member (inFilter expr member) (filterToo expr member)
    · exact (OrderKey.everyAll_iff _ _ _).mpr fun key member =>
        ofKeys key member (inKeys key member) (keysToo key member)
    · refine (Limit.every?_iff _ _ _).mpr fun range member => ?_
      rcases ofLimit range member with ⟨counted, skipped⟩
      rcases inLimit range member with ⟨count, offset⟩
      rcases limitToo range member with ⟨countToo, offsetToo⟩
      exact ⟨counted count countToo, fun part inside =>
        skipped part inside (offset part inside) (offsetToo part inside)⟩

theorem Statement.Every.both (nodes : ∀ expr, first expr → second expr → other expr)
    (queries : ∀ select, front select → back select → another select) {statement : Statement}
    (one : statement.Every first front) (two : statement.Every second back) :
    statement.Every other another := by
  rcases Expr.Every.both_all nodes queries with ⟨exprs, _, selects⟩
  cases statement with
  | select inner => exact selects inner one two
  | insert command =>
      exact fun cells member cell inside =>
        exprs cell (one cells member cell inside) (two cells member cell inside)
  | update command =>
      exact ⟨fun assignment member =>
        exprs _ (one.1 assignment member) (two.1 assignment member), exprs _ one.2 two.2⟩
  | delete command => exact exprs _ one two

/-- A weaker condition is met by every node that meets the first one. -/
theorem Expr.Every.mono_all (nodes : ∀ expr, first expr → other expr)
    (queries : ∀ select, front select → another select) :
    (∀ expr : Expr, expr.Every first front → expr.Every other another) ∧
      (∀ candidates : Candidates,
        candidates.Every first front → candidates.Every other another) ∧
      ∀ select : Select, select.Every first front → select.Every other another := by
  rcases Expr.Every.both_all (fun expr holds (_ : first expr) => nodes expr holds)
    (fun select holds (_ : front select) => queries select holds) with ⟨exprs, lists, selects⟩
  exact ⟨fun expr every => exprs expr every every,
    fun candidates every => lists candidates every every,
    fun select every => selects select every every⟩

theorem Statement.Every.mono (nodes : ∀ expr, first expr → other expr)
    (queries : ∀ select, front select → another select) {statement : Statement}
    (every : statement.Every first front) : statement.Every other another :=
  every.both (fun expr holds (_ : first expr) => nodes expr holds)
    (fun select holds (_ : front select) => queries select holds) every

end Mono

/-! ## Rebuilding -/

section Rebuild

variable (node : Expr → Expr) (name : String → String)

mutual

/-- The expression with `node` applied to every node, inner ones first, and `name` to every name. -/
def Expr.rebuild : Expr → Expr
  | .array elements => node (.array (Expr.rebuildAll elements))
  | .path segments => node (.path (segments.map name))
  | .binary operator left right =>
      node (.binary operator (Expr.rebuild left) (Expr.rebuild right))
  | .isNull operand negated => node (.isNull (Expr.rebuild operand) negated)
  | .isIn operand candidates negated =>
      node (.isIn (Expr.rebuild operand) (Candidates.rebuild candidates) negated)
  | .between operand low high negated =>
      node (.between (Expr.rebuild operand) (Expr.rebuild low) (Expr.rebuild high) negated)
  | .subquery form inner => node (.subquery form (Select.rebuild inner))
  | .paren inner => node (.paren (Expr.rebuild inner))
  | leaf => node leaf

def Expr.rebuildAll : List Expr → List Expr
  | [] => []
  | expr :: rest => Expr.rebuild expr :: Expr.rebuildAll rest

def Expr.rebuild? : Option Expr → Option Expr
  | none => none
  | some expr => some (Expr.rebuild expr)

def Candidates.rebuild : Candidates → Candidates
  | .values elements => .values (Expr.rebuildAll elements)
  | .unnest elements => .unnest (Expr.rebuild elements)
  | .subquery inner => .subquery (Select.rebuild inner)

def SelectItem.rebuild : SelectItem → SelectItem
  | ⟨expr, label⟩ => ⟨Expr.rebuild expr, label.map name⟩

def SelectItem.rebuildAll : List SelectItem → List SelectItem
  | [] => []
  | item :: rest => SelectItem.rebuild item :: SelectItem.rebuildAll rest

def OrderKey.rebuild : OrderKey → OrderKey
  | ⟨expr, direction⟩ => ⟨Expr.rebuild expr, direction⟩

def OrderKey.rebuildAll : List OrderKey → List OrderKey
  | [] => []
  | key :: rest => OrderKey.rebuild key :: OrderKey.rebuildAll rest

def Limit.rebuild : Limit → Limit
  | ⟨count, offset⟩ => ⟨Expr.rebuild count, Expr.rebuild? offset⟩

def Limit.rebuild? : Option Limit → Option Limit
  | none => none
  | some limit => some (Limit.rebuild limit)

def Select.rebuild : Select → Select
  | ⟨items, table, filter, orderBy, limit⟩ =>
      ⟨SelectItem.rebuildAll items, name table, Expr.rebuild? filter,
        OrderKey.rebuildAll orderBy, Limit.rebuild? limit⟩

end

@[simp]
theorem Expr.rebuildAll_eq_map (exprs : List Expr) :
    Expr.rebuildAll node name exprs = exprs.map (Expr.rebuild node name) := by
  induction exprs with
  | nil => rfl
  | cons expr rest ih => simp [Expr.rebuildAll, ih]

@[simp]
theorem Expr.rebuild?_eq_map (expr : Option Expr) :
    Expr.rebuild? node name expr = expr.map (Expr.rebuild node name) := by
  cases expr <;> rfl

@[simp]
theorem SelectItem.rebuildAll_eq_map (items : List SelectItem) :
    SelectItem.rebuildAll node name items = items.map (SelectItem.rebuild node name) := by
  induction items with
  | nil => rfl
  | cons item rest ih => simp [SelectItem.rebuildAll, ih]

@[simp]
theorem OrderKey.rebuildAll_eq_map (keys : List OrderKey) :
    OrderKey.rebuildAll node name keys = keys.map (OrderKey.rebuild node name) := by
  induction keys with
  | nil => rfl
  | cons key rest ih => simp [OrderKey.rebuildAll, ih]

@[simp]
theorem Limit.rebuild?_eq_map (limit : Option Limit) :
    Limit.rebuild? node name limit = limit.map (Limit.rebuild node name) := by
  cases limit <;> rfl

/-- A statement with its expressions rebuilt. -/
def Statement.rebuild : Statement → Statement
  | .select inner => .select (inner.rebuild node name)
  | .insert command =>
      .insert {
        table := name command.table
        columns := command.columns.map name
        rows := command.rows.map (List.map (Expr.rebuild node name)) }
  | .update command =>
      .update {
        table := name command.table
        assignments := command.assignments.map fun assignment =>
          ⟨assignment.target.map name, assignment.value.rebuild node name⟩
        filter := command.filter.rebuild node name }
  | .delete command =>
      .delete {
        table := name command.table
        filter := command.filter.rebuild node name }

end Rebuild

/-! ## A condition on the leaves of what was rebuilt -/

section Leaves

variable {node : Expr → Expr} {name : String → String} {before after : Expr → Prop}
variable
  (leaves : ∀ expr : Expr, expr.IsLeaf →
    ((expr.rebuild node name).Every after (fun _ => True) ↔ before expr))
  (inner : ∀ expr : Expr, ¬ expr.IsLeaf → before expr ∧ after expr)
  (kept : ∀ expr : Expr, ¬ expr.IsLeaf →
    ((node expr).Every after (fun _ => True) ↔ expr.Every after fun _ => True))

include leaves inner kept

/--
Where only leaves matter, a condition on what was rebuilt is the condition on the
leaves from which it was rebuilt.
-/
theorem Expr.every_rebuild_all :
    (∀ expr : Expr, (expr.rebuild node name).Every after (fun _ => True) ↔
      expr.Every before fun _ => True) ∧
    (∀ candidates : Candidates, (candidates.rebuild node name).Every after (fun _ => True) ↔
      candidates.Every before fun _ => True) ∧
    ∀ query : Select, (query.rebuild node name).Every after (fun _ => True) ↔
      query.Every before fun _ => True := by
  -- At an inner node both conditions hold, whatever has been rebuilt below it.
  have free {expr other : Expr} (isInner : ¬ expr.IsLeaf) (isInnerToo : ¬ other.IsLeaf) :
      after expr ↔ before other :=
    iff_of_true (inner expr isInner).2 (inner other isInnerToo).1
  apply Expr.Cases.all
  constructor
  case leaf =>
    intro expr isLeaf
    exact (leaves expr isLeaf).trans ⟨Expr.every_of_isLeaf _ _ isLeaf, Expr.Every.self _ _⟩
  case array =>
    intro elements ih
    have each : Expr.EveryAll after (fun _ => True) (Expr.rebuildAll node name elements) ↔
        Expr.EveryAll before (fun _ => True) elements := by
      rw [Expr.everyAll_iff, Expr.everyAll_iff, Expr.rebuildAll_eq_map, List.forall_mem_map]
      exact forall₂_congr ih
    exact (kept _ id).trans (and_congr (free id id) each)
  case binary =>
    intro operator left right first second
    exact (kept _ id).trans (and_congr (free id id) (and_congr first second))
  case isNull =>
    intro operand negated ih
    exact (kept _ id).trans (and_congr (free id id) ih)
  case isIn =>
    intro operand candidates negated first second
    exact (kept _ id).trans (and_congr (free id id) (and_congr first second))
  case between =>
    intro operand low high negated first second third
    exact (kept _ id).trans
      (and_congr (free id id) (and_congr first (and_congr second third)))
  case subquery =>
    intro form query ih
    exact (kept _ id).trans (and_congr (free id id) ih)
  case paren =>
    intro inner ih
    exact (kept _ id).trans (and_congr (free id id) ih)
  case values =>
    intro elements ih
    show Expr.EveryAll after (fun _ => True) (Expr.rebuildAll node name elements) ↔
      Expr.EveryAll before (fun _ => True) elements
    rw [Expr.everyAll_iff, Expr.everyAll_iff, Expr.rebuildAll_eq_map, List.forall_mem_map]
    exact forall₂_congr ih
  case unnest =>
    intro elements ih
    exact ih
  case rows =>
    intro query ih
    exact ih
  case query =>
    intro items table filter orderBy limit ofItems ofFilter ofKeys ofLimit
    refine and_congr Iff.rfl (and_congr ?_ (and_congr ?_ (and_congr ?_ ?_)))
    · rw [SelectItem.everyAll_iff, SelectItem.everyAll_iff, SelectItem.rebuildAll_eq_map,
        List.forall_mem_map]
      refine forall₂_congr ?_
      rintro ⟨expr, label⟩ member
      exact ofItems _ member
    · cases filter with
      | none => exact Iff.rfl
      | some expr => exact ofFilter expr rfl
    · rw [OrderKey.everyAll_iff, OrderKey.everyAll_iff, OrderKey.rebuildAll_eq_map,
        List.forall_mem_map]
      refine forall₂_congr ?_
      rintro ⟨expr, direction⟩ member
      exact ofKeys _ member
    · cases limit with
      | none => exact Iff.rfl
      | some range =>
          obtain ⟨count, offset⟩ := range
          obtain ⟨counted, skipped⟩ := ofLimit _ rfl
          refine and_congr counted ?_
          cases offset with
          | none => exact Iff.rfl
          | some expr => exact skipped expr rfl

theorem Statement.every_rebuild (statement : Statement) :
    (statement.rebuild node name).Every after (fun _ => True) ↔
      statement.Every before fun _ => True := by
  rcases Expr.every_rebuild_all leaves inner kept with ⟨exprs, _, queries⟩
  cases statement with
  | select query => exact queries query
  | insert command => simp [rebuild, Every, exprs]
  | update command => simp [rebuild, Every, exprs]
  | delete command => exact exprs command.filter

end Leaves

/-! ## Rebuilding without a change of text -/

section Parts

variable {node : Expr → Expr}

theorem Expr.texts_rebuild {exprs : List Expr}
    (each : ∀ expr ∈ exprs, (expr.rebuild node id).text = expr.text) :
    Expr.texts (Expr.rebuildAll node id exprs) = Expr.texts exprs := by
  rw [Expr.texts_eq_map, Expr.texts_eq_map, Expr.rebuildAll_eq_map, List.map_map]
  exact List.map_congr_left each

theorem Expr.text?_rebuild {part : Option Expr}
    (each : ∀ expr ∈ part, (expr.rebuild node id).text = expr.text) :
    Expr.text? (Expr.rebuild? node id part) = Expr.text? part := by
  cases part with
  | none => rfl
  | some expr => exact congrArg some (each expr rfl)

theorem SelectItem.texts_rebuild {items : List SelectItem}
    (each : ∀ item ∈ items, (item.expr.rebuild node id).text = item.expr.text) :
    SelectItem.texts (SelectItem.rebuildAll node id items) = SelectItem.texts items := by
  rw [SelectItem.texts_eq_map, SelectItem.texts_eq_map, SelectItem.rebuildAll_eq_map,
    List.map_map]
  refine List.map_congr_left fun item member => ?_
  have text := each item member
  rcases item with ⟨expr, label⟩
  cases label with
  | none => exact text
  | some label => exact congrArg (fun front => front ++ " AS ".toList ++ identifier label) text

theorem OrderKey.texts_rebuild {keys : List OrderKey}
    (each : ∀ key ∈ keys, (key.expr.rebuild node id).text = key.expr.text) :
    OrderKey.texts (OrderKey.rebuildAll node id keys) = OrderKey.texts keys := by
  rw [OrderKey.texts_eq_map, OrderKey.texts_eq_map, OrderKey.rebuildAll_eq_map, List.map_map]
  refine List.map_congr_left fun key member => ?_
  have text := each key member
  rcases key with ⟨expr, direction⟩
  cases direction with
  | none => exact text
  | some direction => exact congrArg (fun front => front ++ ' ' :: direction.sql.toList) text

theorem Limit.text?_rebuild {limit : Option Limit}
    (each : ∀ range ∈ limit, (range.count.rebuild node id).text = range.count.text ∧
      ∀ offset ∈ range.offset, (offset.rebuild node id).text = offset.text) :
    Limit.text? (Limit.rebuild? node id limit) = Limit.text? limit := by
  cases limit with
  | none => rfl
  | some range =>
      rcases range with ⟨count, offset⟩
      rcases each _ rfl with ⟨counted, skipped⟩
      show some ((count.rebuild node id).text ++
          clause "OFFSET" (Expr.text? (Expr.rebuild? node id offset))) =
        some (count.text ++ clause "OFFSET" (Expr.text? offset))
      rw [counted, Expr.text?_rebuild skipped]

end Parts

section Text

variable {node : Expr → Expr} (same : ∀ expr, (node expr).text = expr.text)

include same

theorem Expr.text_rebuild_all :
    (∀ expr : Expr, (expr.rebuild node id).text = expr.text) ∧
      (∀ candidates : Candidates, (candidates.rebuild node id).text = candidates.text) ∧
      ∀ query : Select, (query.rebuild node id).text = query.text := by
  apply Expr.Cases.all
  constructor
  case leaf =>
    intro expr isLeaf
    cases expr with
    | path segments =>
        refine (same _).trans ?_
        rw [List.map_id]
    | array => exact isLeaf.elim
    | binary => exact isLeaf.elim
    | isNull => exact isLeaf.elim
    | isIn => exact isLeaf.elim
    | between => exact isLeaf.elim
    | subquery => exact isLeaf.elim
    | paren => exact isLeaf.elim
    | _ => exact same _
  case array =>
    intro elements ih
    refine (same _).trans ?_
    exact congrArg
      (fun inner => "ARRAY[".toList ++ Text.commaSeparated inner ++ [']']) (Expr.texts_rebuild ih)
  case binary =>
    intro operator left right first second
    refine (same _).trans ?_
    show (left.rebuild node id).text ++ ' ' :: operator.sql.toList ++ ' ' ::
        (right.rebuild node id).text =
      left.text ++ ' ' :: operator.sql.toList ++ ' ' :: right.text
    rw [first, second]
  case isNull =>
    intro operand negated ih
    refine (same _).trans ?_
    exact congrArg (fun front => front ++ " IS ".toList ++ predicateWord "NULL" negated) ih
  case isIn =>
    intro operand candidates negated first second
    refine (same _).trans ?_
    show (operand.rebuild node id).text ++ ' ' :: predicateWord "IN" negated ++ ' ' ::
        (candidates.rebuild node id).text =
      operand.text ++ ' ' :: predicateWord "IN" negated ++ ' ' :: candidates.text
    rw [first, second]
  case between =>
    intro operand low high negated first second third
    refine (same _).trans ?_
    show (operand.rebuild node id).text ++ ' ' :: predicateWord "BETWEEN" negated ++ ' ' ::
        (low.rebuild node id).text ++ " AND ".toList ++ (high.rebuild node id).text =
      operand.text ++ ' ' :: predicateWord "BETWEEN" negated ++ ' ' :: low.text ++
        " AND ".toList ++ high.text
    rw [first, second, third]
  case subquery =>
    intro form query ih
    refine (same _).trans ?_
    cases form with
    | scalar => exact congrArg Text.parenthesised ih
    | array => exact congrArg (fun inner => "ARRAY".toList ++ Text.parenthesised inner) ih
  case paren =>
    intro inner ih
    exact (same _).trans (congrArg Text.parenthesised ih)
  case values =>
    intro elements ih
    exact congrArg (fun inner => Text.parenthesised (Text.commaSeparated inner)) (Expr.texts_rebuild ih)
  case unnest =>
    intro elements ih
    exact congrArg (fun inner => "UNNEST".toList ++ Text.parenthesised inner) ih
  case rows =>
    intro query ih
    exact congrArg Text.parenthesised ih
  case query =>
    intro items table filter orderBy limit ofItems ofFilter ofKeys ofLimit
    show "SELECT ".toList ++
        Text.commaSeparated (SelectItem.texts (SelectItem.rebuildAll node id items)) ++
        " FROM ".toList ++ identifier table ++
        clause "WHERE" (Expr.text? (Expr.rebuild? node id filter)) ++
        clause "ORDER BY" (listBody (OrderKey.texts (OrderKey.rebuildAll node id orderBy))) ++
        clause "LIMIT" (Limit.text? (Limit.rebuild? node id limit)) =
      Select.text ⟨items, table, filter, orderBy, limit⟩
    rw [SelectItem.texts_rebuild ofItems, Expr.text?_rebuild ofFilter,
      OrderKey.texts_rebuild ofKeys, Limit.text?_rebuild ofLimit]
    rfl

/-- A statement is written as it was if each of its nodes is. -/
theorem Statement.text_rebuild (statement : Statement) :
    (statement.rebuild node id).text = statement.text := by
  rcases Expr.text_rebuild_all same with ⟨exprs, _, queries⟩
  cases statement with
  | select query => exact queries query
  | insert command =>
      have rows : (command.rows.map (List.map (Expr.rebuild node id))).map rowText =
          command.rows.map rowText := by
        rw [List.map_map]
        refine List.map_congr_left fun cells _ => ?_
        have texts : (cells.map (Expr.rebuild node id)).map Expr.text = cells.map Expr.text := by
          rw [List.map_map]
          exact List.map_congr_left fun cell _ => exprs cell
        exact congrArg (fun inner => Text.parenthesised (Text.commaSeparated inner)) texts
      have columns : command.columns.map id = command.columns := List.map_id _
      show "INSERT INTO ".toList ++ identifier command.table ++ ' ' ::
          Text.parenthesised (Text.commaSeparated ((command.columns.map id).map identifier)) ++
          " VALUES ".toList ++
          Text.commaSeparated ((command.rows.map (List.map (Expr.rebuild node id))).map rowText) =
        command.text
      rw [rows, columns]
      rfl
  | update command =>
      have assignments :
          (command.assignments.map fun assignment =>
            (⟨assignment.target.map id, assignment.value.rebuild node id⟩ : Assignment)).map
              Assignment.text = command.assignments.map Assignment.text := by
        rw [List.map_map]
        refine List.map_congr_left fun assignment _ => ?_
        show path (assignment.target.map id) ++ " = ".toList ++
            (assignment.value.rebuild node id).text =
          path assignment.target ++ " = ".toList ++ assignment.value.text
        rw [List.map_id, exprs]
      show "UPDATE ".toList ++ identifier command.table ++ " SET ".toList ++
          Text.commaSeparated ((command.assignments.map fun assignment =>
            (⟨assignment.target.map id, assignment.value.rebuild node id⟩ : Assignment)).map
              Assignment.text) ++
          clause "WHERE" (some (command.filter.rebuild node id).text) =
        command.text
      rw [assignments, exprs]
      rfl
  | delete command =>
      exact congrArg
        (fun filter => "DELETE FROM ".toList ++ identifier command.table ++
          clause "WHERE" (some filter)) (exprs command.filter)

end Text

end SqlBuilder
