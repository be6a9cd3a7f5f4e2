import SqlBuilder.Proofs.InjectionSafety
import SqlBuilder.Proofs.Renaming
import SqlBuilder.Proofs.WordAlone

/-!
# Parameters as tokens

A parameter is written as its name behind an at sign, and the name is written as
it is.  A text is read with each of its parameters as one token, which carries the
whole name, exactly where every parameter has a plain name.  Then nothing but the
names changes among the tokens when the parameters get other plain names.  With a
name that is not plain the text is read in another way, or not at all.
-/

namespace SqlBuilder

/-! ## Tokens under other names -/

section Tokens

variable (rename : String → String)

/-- A parameter under its new name.  Every other word stays as it is. -/
def Word.renamed : Word → Word
  | .parameter spelling => .parameter (rename spelling)
  | word => word

/-- A token with a new name if it is a parameter. -/
def SqlToken.renamed : SqlToken → SqlToken
  | .word content => .word (content.renamed rename)
  | bracket => bracket

@[simp]
theorem SqlToken.kind_renamed (token : SqlToken) : (token.renamed rename).kind = token.kind := by
  cases token with
  | word content => cases content <;> rfl
  | _ => rfl

/-- The second trees are the first ones with new names for their parameters. -/
def TokenTree.RenamesTo (before after : List TokenTree) : Prop :=
  flatten after = (flatten before).map (SqlToken.renamed rename)

variable {rename}

namespace TokenTree.RenamesTo

variable {front back first second : List TokenTree}

theorem nil : RenamesTo rename [] [] := rfl

theorem append (ofFront : RenamesTo rename front first) (ofBack : RenamesTo rename back second) :
    RenamesTo rename (front ++ back) (first ++ second) := by
  unfold RenamesTo at ofFront ofBack ⊢
  rw [flatten_append, flatten_append, List.map_append, ofFront, ofBack]

theorem words (words : List Word) (same : words.map (Word.renamed rename) = words) :
    RenamesTo rename (words.map .leaf) (words.map .leaf) := by
  unfold RenamesTo
  rw [flatten_map_leaf, List.map_map]
  have tokens := congrArg (List.map SqlToken.word) same
  rw [List.map_map] at tokens
  exact tokens.symm

theorem leaf (word : Word) (same : word.renamed rename = word) :
    RenamesTo rename [.leaf word] [.leaf word] :=
  words [word] (congrArg (fun found => [found]) same)

theorem group (bracket : Bracket) (inner : RenamesTo rename first second) :
    RenamesTo rename [.group bracket first] [.group bracket second] := by
  unfold RenamesTo at inner ⊢
  simp [inner, SqlToken.renamed]

section Lists

variable {α : Type} {before after : α → List TokenTree}

theorem separated (mark : String) (items : List α)
    (each : ∀ item ∈ items, RenamesTo rename (before item) (after item)) :
    RenamesTo rename (TokenTree.separated mark (items.map before))
      (TokenTree.separated mark (items.map after)) := by
  induction items with
  | nil => exact nil
  | cons item rest ih =>
      rw [List.forall_mem_cons] at each
      cases rest with
      | nil => simpa using each.1
      | cons next later =>
          exact each.1.append ((leaf (.symbol mark) rfl).append (ih each.2))

theorem clause (keywords : List Word) (same : keywords.map (Word.renamed rename) = keywords)
    (part : Option α) (each : ∀ item ∈ part, RenamesTo rename (before item) (after item)) :
    RenamesTo rename (clauseTrees keywords (part.map before))
      (clauseTrees keywords (part.map after)) := by
  cases part with
  | none => exact nil
  | some item => exact (words keywords same).append (each item rfl)

theorem listClause (keywords : List Word) (same : keywords.map (Word.renamed rename) = keywords)
    (items : List α) (each : ∀ item ∈ items, RenamesTo rename (before item) (after item)) :
    RenamesTo rename (clauseTrees keywords (listTrees (items.map before)))
      (clauseTrees keywords (listTrees (items.map after))) := by
  cases items with
  | nil => exact nil
  | cons item rest => exact (words keywords same).append (separated "," (item :: rest) each)

end Lists

theorem path (segments : List String) :
    RenamesTo rename (pathTrees segments) (pathTrees segments) :=
  separated "." segments fun segment _ => leaf (nameWord segment) rfl

theorem predicate (word : String) (negated : Bool) :
    RenamesTo rename ((predicateWords word negated).map .leaf)
      ((predicateWords word negated).map .leaf) :=
  words _ (by cases negated <;> rfl)

theorem operator (operator : Operator) :
    RenamesTo rename (operator.words.map .leaf) (operator.words.map .leaf) :=
  words _ (by cases operator <;> rfl)

theorem signed (number : String → Word) (text : Text)
    (same : ∀ digits, (number digits).renamed rename = number digits) :
    RenamesTo rename ((signedWords number text).map .leaf)
      ((signedWords number text).map .leaf) := by
  refine words _ ?_
  unfold signedWords
  split
  · rw [List.map_cons, List.map_singleton, same]
    rfl
  · rw [List.map_cons, List.map_singleton, same]
    rfl
  · rw [List.map_singleton, same]

end TokenTree.RenamesTo

theorem SelectItem.renamesTo {item : SelectItem}
    (inner : TokenTree.RenamesTo rename item.expr.trees (item.expr.renamed rename).trees) :
    TokenTree.RenamesTo rename item.trees (item.renamed rename).trees := by
  rcases item with ⟨expr, label⟩
  rw [SelectItem.renamed_mk]
  cases label with
  | none => exact inner
  | some label => exact inner.append (.words [.keyword "AS", nameWord label] rfl)

theorem OrderKey.renamesTo {key : OrderKey}
    (inner : TokenTree.RenamesTo rename key.expr.trees (key.expr.renamed rename).trees) :
    TokenTree.RenamesTo rename key.trees
      (key.rebuild (Expr.withNewName rename) id).trees := by
  rcases key with ⟨expr, direction⟩
  cases direction with
  | none => exact inner
  | some direction => exact inner.append (.leaf _ rfl)

theorem Limit.renamesTo {limit : Limit}
    (counted : TokenTree.RenamesTo rename limit.count.trees (limit.count.renamed rename).trees)
    (skipped : ∀ offset ∈ limit.offset,
      TokenTree.RenamesTo rename offset.trees (offset.renamed rename).trees) :
    TokenTree.RenamesTo rename limit.trees
      (limit.rebuild (Expr.withNewName rename) id).trees := by
  rcases limit with ⟨count, offset⟩
  rw [Limit.rebuild, Limit.trees, Limit.trees, Expr.trees?_eq_map, Expr.trees?_eq_map,
    Expr.rebuild?_eq_map, Option.map_map]
  exact counted.append (.clause [.name "OFFSET" false] rfl offset skipped)

/-- Renaming the parameters of an expression renames them among its tokens and does no more. -/
theorem Expr.renamesTo_all :
    (∀ expr : Expr, TokenTree.RenamesTo rename expr.trees (expr.renamed rename).trees) ∧
    (∀ candidates : Candidates,
      TokenTree.RenamesTo rename candidates.trees (candidates.renamed rename).trees) ∧
    ∀ query : Select, TokenTree.RenamesTo rename query.trees (query.renamed rename).trees := by
  apply Expr.Cases.all
  constructor
  case leaf =>
    intro expr isLeaf
    cases expr with
    | integer digits => exact .signed .integer _ fun _ => rfl
    | float digits =>
        refine .signed floatWord _ fun digits => ?_
        unfold floatWord
        split <;> rfl
    | bool value => cases value <;> exact .leaf _ rfl
    | path segments =>
        rw [Expr.renamed_path]
        exact .path segments
    | _ => first | exact isLeaf.elim | rfl
  case array =>
    intro elements ih
    rw [Expr.renamed_array, trees, trees, treeLists_eq_map, treeLists_eq_map, List.map_map]
    exact (TokenTree.RenamesTo.leaf _ rfl).append (.group .square (.separated "," elements ih))
  case binary =>
    intro operator left right first second
    exact (first.append (.operator operator)).append second
  case isNull =>
    intro operand negated ih
    exact ih.append ((TokenTree.RenamesTo.leaf _ rfl).append (.predicate "NULL" negated))
  case isIn =>
    intro operand candidates negated first second
    exact (first.append (.predicate "IN" negated)).append second
  case between =>
    intro operand low high negated first second third
    exact ((first.append (.predicate "BETWEEN" negated)).append second).append
      ((TokenTree.RenamesTo.leaf _ rfl).append third)
  case subquery =>
    intro form query ih
    cases form with
    | scalar => exact .group .round ih
    | array => exact (TokenTree.RenamesTo.leaf _ rfl).append (.group .round ih)
  case paren =>
    intro inner ih
    exact .group .round ih
  case values =>
    intro elements ih
    rw [Candidates.renamed_values, Candidates.trees, Candidates.trees, treeLists_eq_map,
      treeLists_eq_map, List.map_map]
    exact .group .round (.separated "," elements ih)
  case unnest =>
    intro elements ih
    exact (TokenTree.RenamesTo.leaf _ rfl).append (.group .round ih)
  case rows =>
    intro query ih
    exact .group .round ih
  case query =>
    intro items table filter orderBy limit ofItems ofFilter ofKeys ofLimit
    rw [Select.renamed_mk, Select.trees, Select.trees, SelectItem.treeLists_eq_map,
      SelectItem.treeLists_eq_map, List.map_map, trees?_eq_map, trees?_eq_map, Option.map_map,
      OrderKey.treeLists_eq_map, OrderKey.treeLists_eq_map, List.map_map, Limit.trees?_eq_map,
      Limit.trees?_eq_map, Option.map_map]
    have projected := TokenTree.RenamesTo.separated "," items fun item member =>
      SelectItem.renamesTo (ofItems item member)
    have source : TokenTree.RenamesTo rename _ _ :=
      .words [.keyword "FROM", nameWord table] rfl
    have sorted := TokenTree.RenamesTo.listClause [.keyword "ORDER", .keyword "BY"] rfl orderBy
      fun key member => OrderKey.renamesTo (ofKeys key member)
    have limited := TokenTree.RenamesTo.clause [.keyword "LIMIT"] rfl limit fun range member =>
      Limit.renamesTo (ofLimit range member).1 (ofLimit range member).2
    exact (((((TokenTree.RenamesTo.leaf _ rfl).append projected).append source).append
      (.clause [.keyword "WHERE"] rfl filter ofFilter)).append sorted).append limited

theorem rowTrees_renamesTo (cells : List Expr) :
    TokenTree.RenamesTo rename (rowTrees cells)
      (rowTrees (cells.map (Expr.renamed rename))) := by
  rw [rowTrees, rowTrees, List.map_map]
  exact .group .round (.separated "," cells fun cell _ => Expr.renamesTo_all.1 cell)

theorem Insert.renamesTo (table : String) (columns : List String) (rows : List (List Expr)) :
    TokenTree.RenamesTo rename (Insert.trees ⟨table, columns, rows⟩)
      (Insert.trees ⟨table, columns, rows.map (List.map (Expr.renamed rename))⟩) := by
  rw [Insert.trees, Insert.trees, List.map_map]
  have target : TokenTree.RenamesTo rename _ _ :=
    .words [.name "INSERT" false, .keyword "INTO", nameWord table] rfl
  have named : TokenTree.RenamesTo rename _ _ :=
    .separated "," columns fun column _ => .leaf (nameWord column) rfl
  have values : TokenTree.RenamesTo rename _ _ := .leaf (.name "VALUES" false) rfl
  exact ((target.append (.group .round named)).append values).append
    (.separated "," rows fun cells _ => rowTrees_renamesTo cells)

theorem Assignment.renamesTo (assignment : Assignment) :
    TokenTree.RenamesTo rename assignment.trees
      (Assignment.trees ⟨assignment.target, assignment.value.renamed rename⟩) :=
  (TokenTree.RenamesTo.path assignment.target).append
    ((TokenTree.RenamesTo.leaf _ rfl).append (Expr.renamesTo_all.1 assignment.value))

theorem Update.renamesTo (table : String) (assignments : List Assignment) (filter : Expr) :
    TokenTree.RenamesTo rename (Update.trees ⟨table, assignments, filter⟩)
      (Update.trees ⟨table,
        assignments.map fun assignment => ⟨assignment.target, assignment.value.renamed rename⟩,
        filter.renamed rename⟩) := by
  rw [Update.trees, Update.trees, List.map_map]
  have target : TokenTree.RenamesTo rename _ _ :=
    .words [.name "UPDATE" false, nameWord table, .keyword "SET"] rfl
  exact (target.append
    (.separated "," assignments fun assignment _ => assignment.renamesTo)).append
      ((TokenTree.RenamesTo.leaf (.keyword "WHERE") rfl).append (Expr.renamesTo_all.1 filter))

theorem Delete.renamesTo (table : String) (filter : Expr) :
    TokenTree.RenamesTo rename (Delete.trees ⟨table, filter⟩)
      (Delete.trees ⟨table, filter.renamed rename⟩) := by
  have target : TokenTree.RenamesTo rename _ _ :=
    .words [.name "DELETE" false, .keyword "FROM", nameWord table] rfl
  exact target.append
    ((TokenTree.RenamesTo.leaf (.keyword "WHERE") rfl).append (Expr.renamesTo_all.1 filter))

theorem Statement.renamesTo (statement : Statement) :
    TokenTree.RenamesTo rename statement.trees (statement.renamed rename).trees := by
  cases statement with
  | select query => exact Expr.renamesTo_all.2.2 query
  | insert command =>
      rw [renamed_insert]
      exact Insert.renamesTo command.table command.columns command.rows
  | update command =>
      rw [renamed_update]
      exact Update.renamesTo command.table command.assignments command.filter
  | delete command => exact Delete.renamesTo command.table command.filter

end Tokens

/-! ## Parameters among tokens -/

section Parameters

variable {allowed : String → Prop}

/-- A parameter has a name that is allowed.  Every other node is free. -/
def Expr.IsNamed (allowed : String → Prop) : Expr → Prop
  | .parameter name => allowed name
  | _ => True

/-- Every parameter within an expression has a name that is allowed. -/
def Expr.EachParameter (allowed : String → Prop) (expr : Expr) : Prop :=
  expr.Every (Expr.IsNamed allowed) fun _ => True

def Statement.EachParameter (allowed : String → Prop) (statement : Statement) : Prop :=
  statement.Every (Expr.IsNamed allowed) fun _ => True

/-- Every parameter among the tokens of trees has a name that is allowed. -/
def TokenTree.EachParameter (allowed : String → Prop) (trees : List TokenTree) : Prop :=
  ∀ name, .word (.parameter name) ∈ flatten trees → allowed name

namespace TokenTree.EachParameter

variable {front back inner : List TokenTree}

theorem left (each : EachParameter allowed (front ++ back)) : EachParameter allowed front :=
  fun name member => each name (by simp [member])

theorem right (each : EachParameter allowed (front ++ back)) : EachParameter allowed back :=
  fun name member => each name (by simp [member])

theorem tail {tree : TokenTree} (each : EachParameter allowed (tree :: back)) :
    EachParameter allowed back := by
  rw [← List.singleton_append] at each
  exact each.right

theorem within {bracket : Bracket} (each : EachParameter allowed [.group bracket inner]) :
    EachParameter allowed inner :=
  fun name member => each name (by simp [member])

section Lists

variable {α : Type} {read : α → List TokenTree}

theorem separated {mark : String} {items : List α}
    (each : EachParameter allowed (TokenTree.separated mark (items.map read))) :
    ∀ item ∈ items, EachParameter allowed (read item) := by
  induction items with
  | nil => exact fun _ member => absurd member List.not_mem_nil
  | cons item rest ih =>
      cases rest with
      | nil => simpa using each
      | cons next later =>
          rw [List.map_cons, List.map_cons, separated_cons_cons] at each
          rw [List.forall_mem_cons]
          exact ⟨each.left, ih each.right.tail⟩

theorem clause {keywords : List Word} {part : Option α}
    (each : EachParameter allowed (clauseTrees keywords (part.map read))) :
    ∀ item ∈ part, EachParameter allowed (read item) := by
  rintro item rfl
  have body : EachParameter allowed (keywords.map .leaf ++ read item) := each
  exact body.right

theorem listClause {keywords : List Word} {items : List α}
    (each : EachParameter allowed (clauseTrees keywords (listTrees (items.map read)))) :
    ∀ item ∈ items, EachParameter allowed (read item) := by
  cases items with
  | nil => exact fun _ member => absurd member List.not_mem_nil
  | cons item rest =>
      have body : EachParameter allowed (keywords.map .leaf ++
          TokenTree.separated "," ((item :: rest).map read)) := each
      exact body.right.separated

end Lists

end TokenTree.EachParameter

theorem SelectItem.eachParameter {item : SelectItem}
    (each : TokenTree.EachParameter allowed item.trees) :
    TokenTree.EachParameter allowed item.expr.trees := by
  rcases item with ⟨expr, label⟩
  cases label with
  | none => exact each
  | some label => exact each.left

theorem OrderKey.eachParameter {key : OrderKey}
    (each : TokenTree.EachParameter allowed key.trees) :
    TokenTree.EachParameter allowed key.expr.trees := by
  rcases key with ⟨expr, direction⟩
  cases direction with
  | none => exact each
  | some direction => exact each.left

/-- Every parameter within an expression is one of the tokens. -/
theorem Expr.eachParameter_all :
    (∀ expr : Expr,
      TokenTree.EachParameter allowed expr.trees → expr.EachParameter allowed) ∧
    (∀ candidates : Candidates, TokenTree.EachParameter allowed candidates.trees →
      candidates.Every (IsNamed allowed) fun _ => True) ∧
    ∀ query : Select, TokenTree.EachParameter allowed query.trees →
      query.Every (IsNamed allowed) fun _ => True := by
  apply Expr.Cases.all
  constructor
  case leaf =>
    intro expr isLeaf each
    refine every_of_isLeaf _ _ isLeaf ?_
    cases expr with
    | parameter name => exact each name (by simp [trees])
    | _ => trivial
  case array =>
    intro elements ih each
    rw [trees, treeLists_eq_map] at each
    refine ⟨trivial, (everyAll_iff _ _ _).mpr fun element member => ?_⟩
    exact ih element member (each.tail.within.separated element member)
  case binary =>
    intro operator left right first second each
    exact ⟨trivial, first each.left.left, second each.right⟩
  case isNull =>
    intro operand negated ih each
    exact ⟨trivial, ih each.left⟩
  case isIn =>
    intro operand candidates negated first second each
    exact ⟨trivial, first each.left.left, second each.right⟩
  case between =>
    intro operand low high negated first second third each
    exact ⟨trivial, first each.left.left.left, second each.left.right, third each.right.tail⟩
  case subquery =>
    intro form query ih each
    cases form with
    | scalar => exact ⟨trivial, ih each.within⟩
    | array => exact ⟨trivial, ih each.tail.within⟩
  case paren =>
    intro inner ih each
    exact ⟨trivial, ih each.within⟩
  case values =>
    intro elements ih each
    rw [Candidates.trees, treeLists_eq_map] at each
    refine (everyAll_iff _ _ _).mpr fun element member => ?_
    exact ih element member (each.within.separated element member)
  case unnest =>
    intro elements ih each
    exact ih each.tail.within
  case rows =>
    intro query ih each
    exact ih each.within
  case query =>
    intro items table filter orderBy limit ofItems ofFilter ofKeys ofLimit each
    rw [Select.trees, SelectItem.treeLists_eq_map, trees?_eq_map, OrderKey.treeLists_eq_map,
      Limit.trees?_eq_map] at each
    have projected := each.left.left.left.left.tail.separated
    have filtered := each.left.left.right.clause
    have sorted := each.left.right.listClause
    have limited := each.right.clause
    refine ⟨trivial, ?_, ?_, ?_, ?_⟩
    · exact (SelectItem.everyAll_iff _ _ _).mpr fun item member =>
        ofItems item member (SelectItem.eachParameter (projected item member))
    · exact (every?_iff _ _ _).mpr fun expr member => ofFilter expr member (filtered expr member)
    · exact (OrderKey.everyAll_iff _ _ _).mpr fun key member =>
        ofKeys key member (OrderKey.eachParameter (sorted key member))
    · refine (Limit.every?_iff _ _ _).mpr ?_
      rintro ⟨count, offset⟩ member
      have each := limited ⟨count, offset⟩ member
      rw [Limit.trees, trees?_eq_map] at each
      exact ⟨(ofLimit _ member).1 each.left, fun part inside =>
        (ofLimit _ member).2 part inside (each.right.clause part inside)⟩

theorem Statement.eachParameter (statement : Statement)
    (each : TokenTree.EachParameter allowed statement.trees) :
    statement.EachParameter allowed := by
  rcases @Expr.eachParameter_all allowed with ⟨exprs, _, queries⟩
  cases statement with
  | select query => exact queries query each
  | insert command =>
      intro cells member cell inside
      have row := each.right.separated cells member
      exact exprs cell (row.within.separated cell inside)
  | update command =>
      refine ⟨fun assignment member => ?_, exprs _ each.right.tail⟩
      have change := each.left.right.separated assignment member
      exact exprs _ change.right.tail
  | delete command => exact exprs _ each.right.tail

end Parameters

/-! ## Numbers and plain names -/

/-- A number is read as its words wherever it stands.  Every other node is free. -/
def Expr.IsReadNumber : Expr → Prop
  | .integer digits => Text.Spells digits.toList ((integerWords digits).map .leaf)
  | .float digits => Text.Spells digits.toList ((floatWords digits).map .leaf)
  | _ => True

/-- Every number within an expression is read as its words wherever it stands. -/
def Expr.NumbersRead (expr : Expr) : Prop :=
  expr.Every Expr.IsReadNumber fun _ => True

def Statement.NumbersRead (statement : Statement) : Prop :=
  statement.Every Expr.IsReadNumber fun _ => True

/-- The numbers that literals are written with are read wherever they stand. -/
theorem Expr.IsSpelled.isReadNumber (expr : Expr) (spelled : expr.IsSpelled) :
    expr.IsReadNumber := by
  cases expr with
  | integer digits => exact .words fun _ stop => readsAs_integer spelled stop
  | float digits => exact .words fun _ stop => readsAs_float spelled stop
  | _ => trivial

theorem Expr.WellSpelled.numbersRead {expr : Expr} (spelled : expr.WellSpelled) :
    expr.NumbersRead :=
  (Every.mono_all IsSpelled.isReadNumber fun _ _ => trivial).1 expr spelled

theorem Statement.WellSpelled.numbersRead {statement : Statement}
    (spelled : statement.WellSpelled) : statement.NumbersRead :=
  spelled.mono Expr.IsSpelled.isReadNumber fun _ _ => trivial

section Standing

variable {rename : String → String}

theorem Expr.standsForWords_renamed (expr : Expr) (number : expr.IsReadNumber)
    (plain : expr.IsNamed fun name => IsPlain (rename name)) :
    (expr.withNewName rename).StandsForWords := by
  cases expr with
  | integer digits => exact number
  | float digits => exact number
  | parameter name => exact plain
  | _ => trivial

theorem Expr.standsForWords_leaf_renamed (expr : Expr) (isLeaf : expr.IsLeaf) :
    ((expr.renamed rename).Every Expr.StandsForWords fun _ => True) ↔
      (expr.withNewName rename).StandsForWords := by
  cases expr <;> first | exact isLeaf.elim | exact Iff.rfl

theorem Expr.withNewName_of_not_isLeaf (expr : Expr) (isInner : ¬ expr.IsLeaf) :
    expr.withNewName rename = expr := by
  cases expr <;> first | rfl | exact absurd trivial isInner

theorem Expr.standsForWords_of_inner (expr : Expr) (isInner : ¬ expr.IsLeaf) :
    (expr.withNewName rename).StandsForWords ∧ expr.StandsForWords := by
  rw [expr.withNewName_of_not_isLeaf isInner]
  exact and_self_iff.mpr (expr.standsForWords_of_not_isLeaf isInner)

theorem Expr.every_withNewName_of_inner (expr : Expr) (isInner : ¬ expr.IsLeaf) :
    ((expr.withNewName rename).Every Expr.StandsForWords fun _ => True) ↔
      expr.Every Expr.StandsForWords fun _ => True := by
  rw [expr.withNewName_of_not_isLeaf isInner]

/-- Under plain names an expression stands for its tokens, if its numbers do. -/
theorem Expr.spells_renamed (expr : Expr) (numbers : expr.NumbersRead)
    (plain : expr.EachParameter fun name => IsPlain (rename name)) :
    Text.Spells (expr.renamed rename).text (expr.renamed rename).trees := by
  have every := (Every.both_all standsForWords_renamed fun _ _ _ => trivial).1 expr numbers plain
  refine (expr.renamed rename).spells_of_leaves ?_
  exact ((every_rebuild_all standsForWords_leaf_renamed standsForWords_of_inner
    every_withNewName_of_inner).1 expr).mpr every

theorem Statement.spells_renamed (statement : Statement) (numbers : statement.NumbersRead)
    (plain : statement.EachParameter fun name => IsPlain (rename name)) :
    Text.Spells (statement.renamed rename).text (statement.renamed rename).trees := by
  have every := numbers.both Expr.standsForWords_renamed (fun _ _ _ => trivial) plain
  refine (statement.renamed rename).spells_of_leaves ?_
  exact (statement.every_rebuild Expr.standsForWords_leaf_renamed Expr.standsForWords_of_inner
    Expr.every_withNewName_of_inner).mpr every

end Standing

/-! ## Parameters that stay whole -/

/--
A text with new names is read as the tokens of trees, each parameter among them
carrying its whole new name, exactly where the names are plain; and then its tokens
are of the kinds that the trees have.
-/
structure KeepsParametersWhole (rename : String → String) (trees : List TokenTree) (text : Text)
    (plain : Prop) : Prop where
  tokenize?_iff :
    tokenize? text = some ((TokenTree.flatten trees).map (SqlToken.renamed rename)) ↔ plain
  kinds?_eq : plain → text.kinds? = some (TokenTree.kinds trees)

theorem KeepsParametersWhole.of_renamesTo {rename : String → String}
    {trees others : List TokenTree} {text : Text} {plain : Prop}
    (renames : TokenTree.RenamesTo rename trees others) (spells : plain → Text.Spells text others)
    (each : TokenTree.EachParameter (fun name => IsPlain (rename name)) trees → plain) :
    KeepsParametersWhole rename trees text plain where
  tokenize?_iff := by
    constructor
    · intro read
      -- Whatever text a parameter is read from, its name is plain.
      refine each fun name member => ?_
      have token : .word (.parameter (rename name)) ∈
          (TokenTree.flatten trees).map (SqlToken.renamed rename) :=
        List.mem_map_of_mem member
      exact Word.standsAlone_of_tokenize? read _ token
    · intro plain
      rw [(spells plain).tokenize?_eq, renames]
  kinds?_eq plain := by
    rw [(spells plain).kinds?_eq, TokenTree.kinds, renames, List.map_map]
    exact congrArg some (List.map_congr_left fun token _ => token.kind_renamed rename)

theorem Expr.keepsParametersWhole (rename : String → String) (expr : Expr)
    (numbers : expr.NumbersRead) :
    KeepsParametersWhole rename expr.trees (expr.renamed rename).text
      (expr.EachParameter fun name => IsPlain (rename name)) :=
  .of_renamesTo (renamesTo_all.1 expr) (expr.spells_renamed numbers) (eachParameter_all.1 expr)

theorem Statement.keepsParametersWhole (rename : String → String) (statement : Statement)
    (numbers : statement.NumbersRead) :
    KeepsParametersWhole rename statement.trees (statement.renamed rename).text
      (statement.EachParameter fun name => IsPlain (rename name)) :=
  .of_renamesTo statement.renamesTo (statement.spells_renamed numbers) statement.eachParameter

/--
A condition or a draft whose parameters get other names converts as before, and in
its text each parameter is one token with its whole name exactly where all the new
names are plain.  The kinds of the tokens are the same for all choices of plain
names.  Numbers in ready expressions have to be read as numbers.
-/
theorem parameters_whole_iff_plain (rename : String → String) :
    (∀ (condition : Condition) (expr : Expr), condition.toExpr = .ok expr → expr.NumbersRead →
      ∃ named, (condition.renamed rename).toExpr = .ok named ∧
        KeepsParametersWhole rename expr.trees named.text
          (expr.EachParameter fun name => IsPlain (rename name))) ∧
    ∀ (draft : Draft) (statement : Statement), draft.toStatement = .ok statement →
      statement.NumbersRead →
      ∃ named, (draft.renamed rename).toStatement = .ok named ∧
        KeepsParametersWhole rename statement.trees named.text
          (statement.EachParameter fun name => IsPlain (rename name)) := by
  constructor
  · intro condition expr converted numbers
    refine ⟨expr.renamed rename, ?_, expr.keepsParametersWhole rename numbers⟩
    rw [condition.toExpr_renamed, converted]
    rfl
  · intro draft statement converted numbers
    refine ⟨statement.renamed rename, ?_, statement.keepsParametersWhole rename numbers⟩
    rw [draft.toStatement_renamed, converted]
    rfl

/-- A comparison of a column with a parameter, beside one with a number. -/
def namedAdult : Condition :=
  .group .and [
    .compare .equal (.identifier (.ofName "id")) (.parameter ⟨"id"⟩),
    .compare .greaterEqual (.identifier (.ofName "age")) (.int 18)]

/-- An UPDATE with parameters as the new value and in the condition. -/
def birthday : Draft :=
  .update ⟨"users", [⟨.ofName "age", .parameter ⟨"age"⟩⟩],
    [.compare .equal (.identifier (.ofName "id")) (.parameter ⟨"id"⟩)]⟩

/-- A reserved word is a plain name and changes no kind; a name with blanks is no token. -/
theorem renamedParameters_read :
    (∃ expr named, namedAdult.toExpr = .ok expr ∧ expr.NumbersRead ∧
      (namedAdult.renamed fun _ => "select").toExpr = .ok named ∧
      named.text.kinds? = some (TokenTree.kinds expr.trees)) ∧
    ∃ statement named, birthday.toStatement = .ok statement ∧ statement.NumbersRead ∧
      (birthday.renamed fun _ => "id WHERE TRUE --").toStatement = .ok named ∧
      tokenize? named.text ≠ some ((TokenTree.flatten statement.trees).map
        (SqlToken.renamed fun _ => "id WHERE TRUE --")) := by
  constructor
  · have plain : IsPlain "select" := by decide
    have numbers : (Expr.binary (.logical .and)
        (.binary .equal (.name "id") (.parameter "id"))
        (.binary .greaterEqual (.name "age") (.ofInt64 18))).NumbersRead := by
      have named : IsPlain "id" := by decide
      exact Expr.WellSpelled.numbersRead
        ⟨trivial, ⟨trivial, trivial, named⟩, trivial, trivial, 18, rfl⟩
    obtain ⟨named, converted, whole⟩ :=
      (parameters_whole_iff_plain fun _ => "select").1 namedAdult _ rfl numbers
    exact ⟨_, named, rfl, numbers, converted,
      whole.kinds?_eq ⟨trivial, ⟨trivial, trivial, plain⟩, trivial, trivial, trivial⟩⟩
  · have hostile : ¬ IsPlain "id WHERE TRUE --" := by decide
    have numbers : (Statement.update ⟨"users", [⟨["age"], .parameter "age"⟩],
        .binary .equal (.name "id") (.parameter "id")⟩).NumbersRead :=
      ⟨List.forall_mem_singleton.mpr trivial, trivial, trivial, trivial⟩
    obtain ⟨named, converted, whole⟩ :=
      (parameters_whole_iff_plain fun _ => "id WHERE TRUE --").2 birthday _ rfl numbers
    refine ⟨_, named, rfl, numbers, converted, fun read => ?_⟩
    exact hostile (whole.tokenize?_iff.mp read).2.2.2

/-- A name with a connective in it adds the connective, a condition and a comment. -/
theorem kinds?_hostileName :
    (Expr.binary .equal (.name "id") (.parameter "p OR TRUE --")).text.kinds? =
      some [.name, .symbol "=", .parameter, .keyword "OR", .keyword "TRUE"] := by
  decide +kernel

/-- A ready number with a comment in it takes the parameter away. -/
theorem kinds?_hostileNumber :
    (Expr.binary .equal (.integer "1 --") (.parameter "p")).text.kinds? = some [.integer] := by
  decide +kernel

/-- Not every name stays whole, and beside numbers that are not read as numbers no name has to. -/
theorem not_forall_keepsParametersWhole :
    (¬ ∀ (rename : String → String) (condition : Condition) (expr : Expr),
      condition.toExpr = .ok expr → expr.NumbersRead →
      ∃ named, (condition.renamed rename).toExpr = .ok named ∧
        KeepsParametersWhole rename expr.trees named.text True) ∧
    ¬ ∀ (rename : String → String) (condition : Condition) (expr : Expr),
      condition.toExpr = .ok expr → (expr.EachParameter fun name => IsPlain (rename name)) →
      ∃ named, (condition.renamed rename).toExpr = .ok named ∧
        KeepsParametersWhole rename expr.trees named.text True := by
  constructor
  · intro every
    obtain ⟨named, converted, whole⟩ := every (fun _ => "p OR TRUE --")
      (.compare .equal (.identifier (.ofName "id")) (.parameter ⟨"p"⟩))
      (.binary .equal (.name "id") (.parameter "p")) rfl ⟨trivial, trivial, trivial⟩
    cases converted
    have kinds := kinds?_hostileName.symm.trans (whole.kinds?_eq trivial)
    exact absurd kinds (by decide)
  · intro every
    have plain : IsPlain "p" := by decide
    obtain ⟨named, converted, whole⟩ := every id
      (.compare .equal (.expr (.integer "1 --")) (.parameter ⟨"p"⟩))
      (.binary .equal (.integer "1 --") (.parameter "p")) rfl ⟨trivial, trivial, plain⟩
    cases converted
    have kinds := kinds?_hostileNumber.symm.trans (whole.kinds?_eq trivial)
    exact absurd kinds (by decide)

end SqlBuilder
