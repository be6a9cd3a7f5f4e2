import SqlBuilder.Proofs.ExprTokens

/-!
# Injection safety

What STRING and BYTES literals, timestamps and dates hold, and how tables,
columns and labels are called, comes from outside.  None of it may decide how
the text of a statement falls into tokens.

The shape of an expression or a statement is what remains when all of that is
erased.  Two of the same shape are read as the same kinds of tokens in the same
order, whatever characters they hold.
-/

namespace SqlBuilder

/-! ## Shapes -/

/-- A literal without what it holds.  Every other node stays as it is. -/
def Expr.withoutContent : Expr → Expr
  | .string _ => .string ""
  | .bytes _ => .bytes []
  | .timestamp _ => .timestamp ""
  | .date _ => .date ""
  | expr => expr

/-- The name that stands in a shape for every name. -/
def anyName (_ : String) : String := ""

/-- An expression without the contents of its literals and without its names. -/
def Expr.shape (expr : Expr) : Expr :=
  expr.rebuild Expr.withoutContent anyName

def Statement.shape (statement : Statement) : Statement :=
  statement.rebuild Expr.withoutContent anyName

/-! ## Kinds -/

/-- The kinds of the tokens of a text, if it has tokens. -/
def Text.kinds? (text : Text) : Option (List TokenKind) :=
  (tokenize? text).map (List.map SqlToken.kind)

namespace TokenTree

def kinds (trees : List TokenTree) : List TokenKind :=
  (flatten trees).map SqlToken.kind

@[simp]
theorem kinds_nil : kinds [] = [] := rfl

@[simp]
theorem kinds_leaf (word : Word) (rest : List TokenTree) :
    kinds (.leaf word :: rest) = word.kind :: kinds rest := by
  simp [kinds, SqlToken.kind]

@[simp]
theorem kinds_group (bracket : Bracket) (inner rest : List TokenTree) :
    kinds (.group bracket inner :: rest) =
      .opening bracket :: (kinds inner ++ .closing bracket :: kinds rest) := by
  simp [kinds, SqlToken.kind]

@[simp]
theorem kinds_append (front back : List TokenTree) :
    kinds (front ++ back) = kinds front ++ kinds back := by
  simp [kinds]

/-- The kinds of rows with a symbol between them depend on the kinds of each row alone. -/
@[simp]
theorem kinds_separated (mark : String) (rows : List (List TokenTree)) :
    kinds (separated mark rows) = List.intercalate [.symbol mark] (rows.map kinds) := by
  induction rows with
  | nil => rfl
  | cons row rest ih =>
      cases rest with
      | nil => simp [List.intercalate]
      | cons next others =>
          rw [separated_cons_cons, kinds_append, kinds_leaf, ih]
          simp [List.intercalate, Word.kind]

end TokenTree

open TokenTree (kinds)

@[simp]
theorem kind_nameWord (name : String) : (nameWord name).kind = .name := rfl

@[simp]
theorem kinds_pathTrees (segments : List String) :
    kinds (pathTrees segments) = List.intercalate [.symbol "."] (segments.map fun _ => [.name]) := by
  simp [pathTrees, Function.comp_def]

section Clause

variable {α : Type} (words : List Word) (left right : α → List TokenTree)

theorem kinds_clause_congr (part : Option α)
    (same : ∀ item ∈ part, kinds (left item) = kinds (right item)) :
    kinds (clauseTrees words (part.map left)) = kinds (clauseTrees words (part.map right)) := by
  cases part with
  | none => rfl
  | some item => simp [clauseTrees, same item rfl]

theorem kinds_listClause_congr (items : List α)
    (same : ∀ item ∈ items, kinds (left item) = kinds (right item)) :
    kinds (clauseTrees words (listTrees (items.map left))) =
      kinds (clauseTrees words (listTrees (items.map right))) := by
  have rows := List.map_congr_left same
  cases items with
  | nil => rfl
  | cons item rest =>
      have body := congrArg (List.intercalate [TokenKind.symbol ","]) rows
      simpa [clauseTrees, listTrees, Function.comp_def] using body

end Clause

theorem Text.Spells.kinds?_eq {text : Text} {trees : List TokenTree}
    (spells : Text.Spells text trees) : text.kinds? = some (kinds trees) := by
  rw [Text.kinds?, spells.tokenize?_eq]
  rfl

/-! ## Erasing keeps the kinds -/

theorem SelectItem.kinds_rebuild {item : SelectItem}
    (same : kinds (item.expr.rebuild Expr.withoutContent anyName).trees = kinds item.expr.trees) :
    kinds (item.rebuild Expr.withoutContent anyName).trees = kinds item.trees := by
  rcases item with ⟨expr, label⟩
  cases label <;> simp [SelectItem.rebuild, SelectItem.trees, same]

theorem OrderKey.kinds_rebuild {key : OrderKey}
    (same : kinds (key.expr.rebuild Expr.withoutContent anyName).trees = kinds key.expr.trees) :
    kinds (key.rebuild Expr.withoutContent anyName).trees = kinds key.trees := by
  rcases key with ⟨expr, direction⟩
  cases direction <;> simp [OrderKey.rebuild, OrderKey.trees, same]

theorem Limit.kinds_rebuild {limit : Limit}
    (counted : kinds (limit.count.rebuild Expr.withoutContent anyName).trees =
      kinds limit.count.trees)
    (skipped : ∀ offset ∈ limit.offset,
      kinds (offset.rebuild Expr.withoutContent anyName).trees = kinds offset.trees) :
    kinds (limit.rebuild Expr.withoutContent anyName).trees = kinds limit.trees := by
  rcases limit with ⟨count, offset⟩
  have clause := kinds_clause_congr [.name "OFFSET" false] _ _ offset skipped
  simp [Limit.rebuild, Limit.trees, Function.comp_def, counted, clause]

/-- No step of the walk through an expression changes the kinds of its tokens. -/
theorem Expr.kinds_rebuild :
    (∀ expr : Expr,
      kinds (expr.rebuild Expr.withoutContent anyName).trees = kinds expr.trees) ∧
    (∀ candidates : Candidates,
      kinds (candidates.rebuild Expr.withoutContent anyName).trees = kinds candidates.trees) ∧
    ∀ query : Select,
      kinds (query.rebuild Expr.withoutContent anyName).trees = kinds query.trees := by
  apply Expr.Cases.all
  constructor
  case leaf =>
    intro expr isLeaf
    cases expr with
    | bool value => cases value <;> rfl
    | path segments => simp [Expr.rebuild, Expr.withoutContent, Expr.trees, Function.comp_def]
    | _ => first | rfl | exact isLeaf.elim
  case array =>
    intro elements ih
    have same := List.map_congr_left ih
    simp [Expr.rebuild, Expr.withoutContent, Expr.trees, Function.comp_def, same]
  case binary =>
    intro operator left right first second
    simp [Expr.rebuild, Expr.withoutContent, Expr.trees, first, second]
  case isNull =>
    intro operand negated ih
    simp [Expr.rebuild, Expr.withoutContent, Expr.trees, ih]
  case isIn =>
    intro operand candidates negated first second
    simp [Expr.rebuild, Expr.withoutContent, Expr.trees, first, second]
  case between =>
    intro operand low high negated first second third
    simp [Expr.rebuild, Expr.withoutContent, Expr.trees, first, second, third]
  case subquery =>
    intro form query ih
    cases form <;> simp [Expr.rebuild, Expr.withoutContent, Expr.trees, ih]
  case paren =>
    intro inner ih
    simp [Expr.rebuild, Expr.withoutContent, Expr.trees, ih]
  case values =>
    intro elements ih
    have same := List.map_congr_left ih
    simp [Candidates.rebuild, Candidates.trees, Function.comp_def, same]
  case unnest =>
    intro elements ih
    simp [Candidates.rebuild, Candidates.trees, ih]
  case rows =>
    intro query ih
    simp [Candidates.rebuild, Candidates.trees, ih]
  case query =>
    intro items table filter orderBy limit ofItems ofFilter ofKeys ofLimit
    have projected := List.map_congr_left fun item member =>
      SelectItem.kinds_rebuild (ofItems item member)
    have filtered := kinds_clause_congr [.keyword "WHERE"] _ _ filter ofFilter
    have sorted := kinds_listClause_congr [.keyword "ORDER", .keyword "BY"] _ _ orderBy
      fun key member => OrderKey.kinds_rebuild (ofKeys key member)
    have limited := kinds_clause_congr [.keyword "LIMIT"] _ _ limit fun range member =>
      Limit.kinds_rebuild (ofLimit range member).1 (ofLimit range member).2
    simp [Select.rebuild, Select.trees, Function.comp_def, projected, filtered, sorted, limited]

theorem Expr.kinds_shape (expr : Expr) : kinds expr.shape.trees = kinds expr.trees :=
  Expr.kinds_rebuild.1 expr

theorem Statement.kinds_shape (statement : Statement) :
    kinds statement.shape.trees = kinds statement.trees := by
  cases statement with
  | select query => exact Expr.kinds_rebuild.2.2 query
  | insert command =>
      have rows : ∀ cells ∈ command.rows,
          kinds (rowTrees (cells.map (Expr.rebuild Expr.withoutContent anyName))) =
            kinds (rowTrees cells) := by
        intro cells _
        have same := List.map_congr_left fun cell (_ : cell ∈ cells) => Expr.kinds_rebuild.1 cell
        simp [rowTrees, Function.comp_def, same]
      have same := List.map_congr_left rows
      simp [Statement.shape, Statement.rebuild, Statement.trees, Insert.trees,
        Function.comp_def, same]
  | update command =>
      simp [Statement.shape, Statement.rebuild, Statement.trees, Update.trees, clauseTrees,
        Assignment.trees, Function.comp_def, Expr.kinds_rebuild.1]
  | delete command =>
      simp [Statement.shape, Statement.rebuild, Statement.trees, Delete.trees, clauseTrees,
        Expr.kinds_rebuild.1]

/-! ## Erasing keeps the spelling -/

/-- Erasing leaves alone what a number or a parameter is written as. -/
theorem Expr.spelled_leaf_shape (expr : Expr) (isLeaf : expr.IsLeaf) :
    (expr.rebuild Expr.withoutContent anyName).WellSpelled ↔ expr.IsSpelled := by
  cases expr <;> first | exact isLeaf.elim | exact Iff.rfl

theorem Expr.isSpelled_of_inner (expr : Expr) (isInner : ¬ expr.IsLeaf) :
    expr.IsSpelled ∧ expr.IsSpelled := by
  cases expr <;> first | exact ⟨trivial, trivial⟩ | exact absurd trivial isInner

theorem Expr.spelled_withoutContent (expr : Expr) :
    expr.withoutContent.WellSpelled ↔ expr.WellSpelled := by
  cases expr <;> exact Iff.rfl

theorem Expr.spelled_shape (expr : Expr) :
    (expr.rebuild Expr.withoutContent anyName).WellSpelled ↔ expr.WellSpelled :=
  (every_rebuild_all spelled_leaf_shape isSpelled_of_inner fun inner _ =>
    inner.spelled_withoutContent).1 expr

theorem Statement.spelled_shape (statement : Statement) :
    statement.shape.WellSpelled ↔ statement.WellSpelled :=
  statement.every_rebuild Expr.spelled_leaf_shape Expr.isSpelled_of_inner fun inner _ =>
    inner.spelled_withoutContent

/-! ## The tokens of one shape -/

/--
Two expressions, or two statements, that differ only in what their literals hold
and in how things are called have texts with the same kinds of tokens in the
same order.
-/
theorem kinds_eq_of_shape_eq :
    (∀ left right : Expr, left.shape = right.shape → left.WellSpelled →
      ∃ kinds, left.text.kinds? = some kinds ∧ right.text.kinds? = some kinds) ∧
    (∀ left right : Statement, left.shape = right.shape → left.WellSpelled →
      ∃ kinds, left.text.kinds? = some kinds ∧ right.text.kinds? = some kinds) := by
  constructor
  · intro left right same spelled
    -- Numbers and parameters are part of the shape, so the other side is spelled well too.
    have other : right.WellSpelled := by
      rw [← Expr.spelled_shape right]
      show right.shape.WellSpelled
      rw [← same]
      exact (Expr.spelled_shape left).mpr spelled
    have agree : kinds right.trees = kinds left.trees := by
      rw [← Expr.kinds_shape right, ← Expr.kinds_shape left]
      exact congrArg (fun shape => kinds shape.trees) same.symm
    refine ⟨kinds left.trees, (left.spells spelled).kinds?_eq, ?_⟩
    rw [(right.spells other).kinds?_eq, agree]
  · intro left right same spelled
    have other : right.WellSpelled := by
      rw [← right.spelled_shape, ← same]
      exact left.spelled_shape.mpr spelled
    have agree : kinds right.trees = kinds left.trees := by
      rw [← right.kinds_shape, ← left.kinds_shape, same]
    refine ⟨kinds left.trees, (left.spells spelled).kinds?_eq, ?_⟩
    rw [(right.spells other).kinds?_eq, agree]

/-- A value that tries to close its literal and a table that is no plain name change no token. -/
theorem kinds_of_hostile_content :
    (∃ kinds,
      (Expr.string "Ann").text.kinds? = some kinds ∧
        (Expr.string "\" OR TRUE --").text.kinds? = some kinds) ∧
    ∃ kinds,
      (Statement.delete ⟨"users", .binary .equal (.path ["name"]) (.string "Ann")⟩).text.kinds? =
          some kinds ∧
        (Statement.delete
          ⟨"or 1 = 1", .binary .equal (.path ["SELECT"]) (.string "\n/*")⟩).text.kinds? =
          some kinds :=
  ⟨kinds_eq_of_shape_eq.1 _ _ rfl trivial,
    kinds_eq_of_shape_eq.2 _ _ rfl ⟨trivial, trivial, trivial⟩⟩

end SqlBuilder
