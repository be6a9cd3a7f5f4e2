import SqlBuilder.Proofs.NumberText
import SqlBuilder.Proofs.Traversal

/-!
# The tokens of expressions and statements

The token trees that an expression, a query or a statement stands for, and the
proof that its text is read as these.  Numbers have to be texts that literals
are written with, and parameters have to have plain names; names, STRING and
BYTES literals, timestamps and dates may hold any characters.

Whatever follows a text that is read this way has to be at a break.  Every text
is put together with blanks, commas and brackets between its parts, so its parts
are at a break as well.
-/

namespace SqlBuilder

/-! ## Token trees -/

namespace TokenTree

/-- Rows of trees with a symbol between neighbours. -/
def separated (mark : String) (rows : List (List TokenTree)) : List TokenTree :=
  List.intercalate [.leaf (.symbol mark)] rows

@[simp]
theorem separated_nil (mark : String) : separated mark [] = [] := rfl

@[simp]
theorem separated_singleton (mark : String) (row : List TokenTree) :
    separated mark [row] = row := by
  simp [separated, List.intercalate]

@[simp]
theorem separated_cons_cons
    (mark : String) (row next : List TokenTree) (rest : List (List TokenTree)) :
    separated mark (row :: next :: rest) =
      row ++ .leaf (.symbol mark) :: separated mark (next :: rest) := by
  simp [separated, List.intercalate]

@[simp]
theorem flatten_map_leaf (words : List Word) :
    flatten (words.map .leaf) = words.map .word := by
  induction words with
  | nil => rfl
  | cons word rest ih => simp [ih]

end TokenTree

/-- The trees of a path. -/
def pathTrees (segments : List String) : List TokenTree :=
  TokenTree.separated "." (segments.map fun segment => [.leaf (nameWord segment)])

/-- The words of a predicate, with NOT in front when it is negated. -/
def predicateWords (word : String) (negated : Bool) : List Word :=
  if negated then [.keyword "NOT", .keyword word] else [.keyword word]

/-- The trees of a clause behind its keywords, or nothing where the clause is absent. -/
def clauseTrees (keywords : List Word) : Option (List TokenTree) → List TokenTree
  | none => []
  | some body => keywords.map .leaf ++ body

/-- The trees of a list as the body of a clause. -/
def listTrees : List (List TokenTree) → Option (List TokenTree)
  | [] => none
  | rows => some (TokenTree.separated "," rows)

/-- The words of an operator. -/
def Operator.words : Operator → List Word
  | .like => [.keyword "LIKE"]
  | .notLike => [.keyword "NOT", .keyword "LIKE"]
  | .logical connective => [.keyword connective.sql]
  | operator => [.symbol operator.sql]

mutual

/-- The trees of an expression. -/
def Expr.trees : Expr → List TokenTree
  | .null => [.leaf (.keyword "NULL")]
  | .string content => [.leaf (.string content)]
  | .bytes content => [.leaf (.bytes content)]
  | .integer digits => (integerWords digits).map .leaf
  | .bool true => [.leaf (.keyword "TRUE")]
  | .bool false => [.leaf (.keyword "FALSE")]
  | .float digits => (floatWords digits).map .leaf
  | .timestamp content => [.leaf (.name "TIMESTAMP" false), .leaf (.string content)]
  | .date content => [.leaf (.name "DATE" false), .leaf (.string content)]
  | .array elements =>
      [.leaf (.keyword "ARRAY"), .group .square (TokenTree.separated "," (Expr.treeLists elements))]
  | .path segments => pathTrees segments
  | .parameter name => [.leaf (.parameter name)]
  | .binary operator left right => left.trees ++ operator.words.map .leaf ++ right.trees
  | .isNull operand negated =>
      operand.trees ++ .leaf (.keyword "IS") :: (predicateWords "NULL" negated).map .leaf
  | .isIn operand candidates negated =>
      operand.trees ++ (predicateWords "IN" negated).map .leaf ++ candidates.trees
  | .between operand low high negated =>
      operand.trees ++ (predicateWords "BETWEEN" negated).map .leaf ++ low.trees ++
        .leaf (.keyword "AND") :: high.trees
  | .subquery .scalar query => [.group .round query.trees]
  | .subquery .array query => [.leaf (.keyword "ARRAY"), .group .round query.trees]
  | .paren inner => [.group .round inner.trees]

def Expr.treeLists : List Expr → List (List TokenTree)
  | [] => []
  | expr :: rest => expr.trees :: Expr.treeLists rest

def Expr.trees? : Option Expr → Option (List TokenTree)
  | none => none
  | some expr => some expr.trees

def Candidates.trees : Candidates → List TokenTree
  | .values elements => [.group .round (TokenTree.separated "," (Expr.treeLists elements))]
  | .unnest elements => [.leaf (.keyword "UNNEST"), .group .round elements.trees]
  | .subquery query => [.group .round query.trees]

def SelectItem.trees : SelectItem → List TokenTree
  | ⟨expr, none⟩ => expr.trees
  | ⟨expr, some label⟩ => expr.trees ++ [.leaf (.keyword "AS"), .leaf (nameWord label)]

def SelectItem.treeLists : List SelectItem → List (List TokenTree)
  | [] => []
  | item :: rest => item.trees :: SelectItem.treeLists rest

def OrderKey.trees : OrderKey → List TokenTree
  | ⟨expr, none⟩ => expr.trees
  | ⟨expr, some direction⟩ => expr.trees ++ [.leaf (.keyword direction.sql)]

def OrderKey.treeLists : List OrderKey → List (List TokenTree)
  | [] => []
  | key :: rest => key.trees :: OrderKey.treeLists rest

/-- The trees of a limit behind its keyword. -/
def Limit.trees : Limit → List TokenTree
  | ⟨count, offset⟩ => count.trees ++ clauseTrees [.name "OFFSET" false] (Expr.trees? offset)

def Limit.trees? : Option Limit → Option (List TokenTree)
  | none => none
  | some limit => some limit.trees

def Select.trees : Select → List TokenTree
  | ⟨items, table, filter, orderBy, limit⟩ =>
      .leaf (.keyword "SELECT") :: TokenTree.separated "," (SelectItem.treeLists items) ++
        [.leaf (.keyword "FROM"), .leaf (nameWord table)] ++
        clauseTrees [.keyword "WHERE"] (Expr.trees? filter) ++
        clauseTrees [.keyword "ORDER", .keyword "BY"]
          (listTrees (OrderKey.treeLists orderBy)) ++
        clauseTrees [.keyword "LIMIT"] (Limit.trees? limit)

end

@[simp]
theorem Expr.treeLists_eq_map (exprs : List Expr) :
    Expr.treeLists exprs = exprs.map Expr.trees := by
  induction exprs with
  | nil => rfl
  | cons expr rest ih => simp [Expr.treeLists, ih]

@[simp]
theorem Expr.trees?_eq_map (expr : Option Expr) :
    Expr.trees? expr = expr.map Expr.trees := by
  cases expr <;> rfl

@[simp]
theorem SelectItem.treeLists_eq_map (items : List SelectItem) :
    SelectItem.treeLists items = items.map SelectItem.trees := by
  induction items with
  | nil => rfl
  | cons item rest ih => simp [SelectItem.treeLists, ih]

@[simp]
theorem OrderKey.treeLists_eq_map (keys : List OrderKey) :
    OrderKey.treeLists keys = keys.map OrderKey.trees := by
  induction keys with
  | nil => rfl
  | cons key rest ih => simp [OrderKey.treeLists, ih]

@[simp]
theorem Limit.trees?_eq_map (limit : Option Limit) :
    Limit.trees? limit = limit.map Limit.trees := by
  cases limit <;> rfl

/-- The trees of one row of cells. -/
def rowTrees (cells : List Expr) : List TokenTree :=
  [.group .round (TokenTree.separated "," (cells.map Expr.trees))]

def Insert.trees (command : Insert) : List TokenTree :=
  [.leaf (.name "INSERT" false), .leaf (.keyword "INTO"), .leaf (nameWord command.table),
    .group .round (TokenTree.separated "," (command.columns.map fun column => [.leaf (nameWord column)])),
    .leaf (.name "VALUES" false)] ++
    TokenTree.separated "," (command.rows.map rowTrees)

def Assignment.trees (assignment : Assignment) : List TokenTree :=
  pathTrees assignment.target ++ .leaf (.symbol "=") :: assignment.value.trees

def Update.trees (command : Update) : List TokenTree :=
  [.leaf (.name "UPDATE" false), .leaf (nameWord command.table), .leaf (.keyword "SET")] ++
    TokenTree.separated "," (command.assignments.map Assignment.trees) ++
    clauseTrees [.keyword "WHERE"] (some command.filter.trees)

def Delete.trees (command : Delete) : List TokenTree :=
  [.leaf (.name "DELETE" false), .leaf (.keyword "FROM"), .leaf (nameWord command.table)] ++
    clauseTrees [.keyword "WHERE"] (some command.filter.trees)

/-- The trees of a statement. -/
def Statement.trees : Statement → List TokenTree
  | .select query => query.trees
  | .insert command => command.trees
  | .update command => command.trees
  | .delete command => command.trees

/-! ## Well-spelled expressions and statements -/

/-- A number is the text of a literal, and a parameter has a plain name. -/
def Expr.IsSpelled : Expr → Prop
  | .integer digits => IsIntegerText digits
  | .float digits => IsFloatText digits
  | .parameter name => IsPlain name
  | _ => True

/-- Every number within an expression is the text of a literal, every parameter has a plain name. -/
def Expr.WellSpelled (expr : Expr) : Prop :=
  expr.Every Expr.IsSpelled fun _ => True

def Select.WellSpelled (query : Select) : Prop :=
  query.Every Expr.IsSpelled fun _ => True

/-- The expressions of a statement are well spelled. -/
def Statement.WellSpelled (statement : Statement) : Prop :=
  statement.Every Expr.IsSpelled fun _ => True

/-! ## Texts that spell trees -/

/-- A text is read as the tokens of trees, with any text at a break behind it. -/
def Text.Spells (text : Text) (trees : List TokenTree) : Prop :=
  ∀ rest, AtBreak rest → Text.ReadsAs text (TokenTree.flatten trees) rest

namespace Text.Spells

variable {text front back : Text} {trees first second : List TokenTree}

theorem tokenize?_eq (spells : Text.Spells text trees) :
    tokenize? text = some (TokenTree.flatten trees) :=
  (spells [] AtBreak.nil).tokenize?_eq

theorem word {word : Word}
    (reads : ∀ rest, AtBreak rest → Text.ReadsAs text [.word word] rest) :
    Text.Spells text [.leaf word] := by
  intro rest stop
  simpa using reads rest stop

theorem words {words : List Word}
    (reads : ∀ rest, AtBreak rest → Text.ReadsAs text (words.map .word) rest) :
    Text.Spells text (words.map .leaf) := by
  intro rest stop
  simpa using reads rest stop

theorem keyword (word : String) (written : word ∈ writtenKeywords) :
    Text.Spells word.toList [.leaf (.keyword word)] :=
  .word fun _ stop => readsAs_keyword written stop.endsWord

theorem writtenName (word : String) (written : word ∈ writtenNames) :
    Text.Spells word.toList [.leaf (.name word false)] :=
  .word fun _ stop => readsAs_bareName (isBare_of_mem_writtenNames word written) stop.endsWord

theorem identifier (name : String) :
    Text.Spells (SqlBuilder.identifier name) [.leaf (nameWord name)] :=
  .word fun _ stop => readsAs_identifier name stop.endsWord

theorem stringLiteral (content : String) :
    Text.Spells (SqlBuilder.stringLiteral content) [.leaf (.string content)] :=
  .word fun _ stop => readsAs_stringLiteral content stop.endsWord

/-- Two texts with a blank between them. -/
theorem spaced (reads : Text.Spells front first) (others : Text.Spells back second) :
    Text.Spells (front ++ ' ' :: back) (first ++ second) := by
  intro rest stop
  rw [TokenTree.flatten_append]
  have blank := (readsAs_blank (back ++ rest)).append (others rest stop)
  exact (reads (' ' :: back ++ rest) (by simp)).append blank

/-- A text between brackets, right behind a word that a bracket may follow. -/
theorem group {bracket : Bracket} (square : bracket ≠ .curly)
    (reads : Text.Spells text trees) (rest : Text) :
    Text.ReadsAs (bracket.opener :: text ++ [bracket.closer])
      (TokenTree.flatten [.group bracket trees]) rest := by
  have closes : AtBreak (bracket.closer :: rest) := by
    cases bracket with
    | round => simp [Bracket.closer]
    | square => simp [Bracket.closer]
    | curly => exact absurd rfl square
  have inside := (reads _ closes).append (readsAs_closing bracket rest)
  simpa using (readsAs_opening bracket _).append inside

theorem parenthesised (reads : Text.Spells text trees) :
    Text.Spells (Text.parenthesised text) [.group .round trees] :=
  fun rest _ => reads.group (show Bracket.round ≠ .curly by decide) rest

theorem keyword_group (word : String) (bracket : Bracket)
    (written : word ∈ writtenKeywords) (square : bracket ≠ .curly)
    (reads : Text.Spells text trees) :
    Text.Spells (word.toList ++ (bracket.opener :: text ++ [bracket.closer]))
      [.leaf (.keyword word), .group bracket trees] := by
  intro rest _
  -- There is no blank behind the keyword; the bracket itself has to end it.
  have ends : EndsWord (bracket.opener :: text ++ [bracket.closer] ++ rest) := by
    intro c member
    obtain rfl : bracket.opener = c := by simpa using member
    cases bracket <;> decide
  exact (readsAs_keyword written ends).append (reads.group square rest)

theorem commaSeparated {α : Type} {write : α → Text} {read : α → List TokenTree}
    (items : List α) (each : ∀ item ∈ items, Text.Spells (write item) (read item)) :
    Text.Spells (Text.commaSeparated (items.map write))
      (TokenTree.separated "," (items.map read)) := by
  induction items with
  | nil =>
      intro rest stop
      exact Text.ReadsAs.nil rest
  | cons item others ih =>
      cases others with
      | nil => simpa using each
      | cons next others =>
          intro rest stop
          have tail := ih (fun later member => each later (List.mem_cons_of_mem _ member))
          have gap := (readsAs_blank _).append (tail rest stop)
          have comma := (readsAs_comma _).append gap
          have head := each item (List.mem_cons_self ..)
          have whole := (head _ (by simp)).append comma
          simpa using whole

section Clause

variable {α : Type} {write : α → Text} {read : α → List TokenTree}
variable {keywords : String}

/-- A text in front of a clause that may be absent. -/
theorem clause (reads : Text.Spells text trees) (words : List Word)
    (fixed : Text.Spells keywords.toList (words.map .leaf)) (part : Option α)
    (each : ∀ item ∈ part, Text.Spells (write item) (read item)) :
    Text.Spells (text ++ SqlBuilder.clause keywords (part.map write))
      (trees ++ clauseTrees words (part.map read)) := by
  cases part with
  | none => simpa [clauseTrees] using reads
  | some item => simpa [clauseTrees] using reads.spaced (fixed.spaced (each item rfl))

/-- A text in front of a clause with a list, which is absent where the list is empty. -/
theorem listClause (reads : Text.Spells text trees) (words : List Word)
    (fixed : Text.Spells keywords.toList (words.map .leaf)) (items : List α)
    (each : ∀ item ∈ items, Text.Spells (write item) (read item)) :
    Text.Spells (text ++ SqlBuilder.clause keywords (listBody (items.map write)))
      (trees ++ clauseTrees words (listTrees (items.map read))) := by
  cases items with
  | nil => simpa [clauseTrees, listBody, listTrees] using reads
  | cons item others =>
      have body := Text.Spells.commaSeparated (item :: others) each
      simpa [clauseTrees, listBody, listTrees] using reads.spaced (fixed.spaced body)

end Clause

end Text.Spells

/-! ## Paths and operators -/

/-- No name opens with a digit. -/
theorem identifier_head?_not_isDigit (name : String) (rest : Text) :
    (identifier name ++ rest).head?.any Char.isDigit = false := by
  by_cases bare : IsBare name
  · have plain := bare.1
    unfold IsPlain at plain
    rw [identifier, if_pos bare]
    cases letters : name.toList with
    | nil => simp [letters, IsPlainText] at plain
    | cons first others =>
        rw [letters] at plain
        exact (Bool.not_eq_true _).mp fun digit => not_isNameStart_of_isDigit digit plain.1
  · rw [identifier, if_neg bare]
    rfl

@[simp]
theorem path_cons_cons (segment next : String) (rest : List String) :
    path (segment :: next :: rest) = identifier segment ++ '.' :: path (next :: rest) := by
  simp [path, List.intercalate]

@[simp]
theorem pathTrees_cons_cons (segment next : String) (rest : List String) :
    pathTrees (segment :: next :: rest) =
      .leaf (nameWord segment) :: .leaf (.symbol ".") :: pathTrees (next :: rest) := by
  simp [pathTrees]

theorem spells_path (segments : List String) :
    Text.Spells (path segments) (pathTrees segments) := by
  induction segments with
  | nil =>
      intro rest stop
      exact Text.ReadsAs.nil rest
  | cons segment others ih =>
      cases others with
      | nil => simpa [path, pathTrees, List.intercalate] using Text.Spells.identifier segment
      | cons next others =>
          intro rest stop
          have ends : EndsWord ('.' :: (path (next :: others) ++ rest)) := by
            intro c member
            obtain rfl : '.' = c := by simpa using member
            decide
          have opens : ∃ tail, path (next :: others) = identifier next ++ tail := by
            cases others with
            | nil => exact ⟨[], by simp [path, List.intercalate]⟩
            | cons later others => exact ⟨_, path_cons_cons next later others⟩
          rcases opens with ⟨tail, split⟩
          have noDigit : (path (next :: others) ++ rest).head?.any Char.isDigit = false := by
            rw [split, List.append_assoc]
            exact identifier_head?_not_isDigit next (tail ++ rest)
          have behind := (readsAs_point noDigit).append (ih rest stop)
          have whole := (readsAs_identifier segment ends).append behind
          simpa using whole

/-- A comparison of one character is no longer symbol at a break. -/
theorem spells_comparison (mark : Char) (known : mark ∈ ['=', '<', '>']) :
    Text.Spells [mark] [.leaf (.symbol (String.ofList [mark]))] := by
  refine .word fun rest stop => ?_
  have noPair : mark :: rest.take 1 ∉ pairSymbols := by
    intro pair
    have second : ∀ symbol ∈ pairSymbols,
        symbol[1]?.any (fun c => decide (c ∉ [' ', ',', ')', ']'])) = true := by
      decide
    rcases (Option.any_eq_true _ _).mp (second _ pair) with ⟨c, opens, other⟩
    exact of_decide_eq_true other (stop c (by simpa [List.head?_eq_getElem?] using opens))
  simp only [List.mem_cons, List.not_mem_nil, or_false] at known
  rcases known with rfl | rfl | rfl <;>
    exact readsAs_symbol rfl ⟨rfl, rfl⟩ noPair (by decide)

theorem spells_pair (first second : Char)
    (read : ∀ rest, readPiece? first (second :: rest) =
      some (some (.word (.symbol (String.ofList [first, second]))), rest)) :
    Text.Spells [first, second] [.leaf (.symbol (String.ofList [first, second]))] :=
  .word fun rest _ => Text.ReadsAs.of_readPiece? (some _) (read rest)

theorem spells_operator (operator : Operator) :
    Text.Spells operator.sql.toList (operator.words.map .leaf) := by
  cases operator with
  | equal => exact spells_comparison '=' (by simp)
  | notEqual => exact spells_pair '!' '=' fun _ => rfl
  | less => exact spells_comparison '<' (by simp)
  | greater => exact spells_comparison '>' (by simp)
  | lessEqual => exact spells_pair '<' '=' fun _ => rfl
  | greaterEqual => exact spells_pair '>' '=' fun _ => rfl
  | like => exact .keyword "LIKE" (by decide)
  | notLike =>
      have negation := Text.Spells.keyword "NOT" (by decide)
      exact negation.spaced (.keyword "LIKE" (by decide))
  | logical connective => cases connective <;> exact .keyword _ (by decide)

theorem spells_predicate (word : String) (written : word ∈ writtenKeywords) (negated : Bool) :
    Text.Spells (predicateWord word negated) ((predicateWords word negated).map .leaf) := by
  cases negated with
  | true =>
      have negation := Text.Spells.keyword "NOT" (by decide)
      exact negation.spaced (.keyword word written)
  | false => exact .keyword word written

/-! ## The text of an expression -/

/-- A number is read as its words wherever it stands, and a parameter has a plain name. -/
def Expr.StandsForWords : Expr → Prop
  | .integer digits => Text.Spells digits.toList ((integerWords digits).map .leaf)
  | .float digits => Text.Spells digits.toList ((floatWords digits).map .leaf)
  | .parameter name => IsPlain name
  | _ => True

theorem Expr.IsSpelled.standsForWords (expr : Expr) (spelled : expr.IsSpelled) :
    expr.StandsForWords := by
  cases expr with
  | integer digits => exact .words fun _ stop => readsAs_integer spelled stop
  | float digits => exact .words fun _ stop => readsAs_float spelled stop
  | parameter name => exact spelled
  | _ => trivial

theorem Expr.standsForWords_of_not_isLeaf (expr : Expr) (inner : ¬ expr.IsLeaf) :
    expr.StandsForWords := by
  cases expr with
  | integer => exact absurd trivial inner
  | float => exact absurd trivial inner
  | parameter => exact absurd trivial inner
  | _ => trivial

mutual

theorem Expr.spells_of_leaves :
    (expr : Expr) → expr.Every Expr.StandsForWords (fun _ => True) →
      Text.Spells expr.text expr.trees
  | .null, _ => .keyword "NULL" (by decide)
  | .string content, _ => .stringLiteral content
  | .bytes content, _ => .word fun _ stop => readsAs_bytesLiteral content stop.endsWord
  | .integer _, spelled => spelled
  | .bool true, _ => .keyword "TRUE" (by decide)
  | .bool false, _ => .keyword "FALSE" (by decide)
  | .float _, spelled => spelled
  | .timestamp content, _ =>
      (Text.Spells.writtenName "TIMESTAMP" (by decide)).spaced (.stringLiteral content)
  | .date content, _ =>
      (Text.Spells.writtenName "DATE" (by decide)).spaced (.stringLiteral content)
  | .array elements, spelled => by
      have inner := Text.Spells.commaSeparated elements (Expr.spells_all elements spelled.2)
      rw [← Expr.texts_eq_map, ← Expr.treeLists_eq_map] at inner
      exact inner.keyword_group "ARRAY" .square (by decide) (by decide)
  | .path segments, _ => spells_path segments
  | .parameter _, spelled => .word fun _ stop => readsAs_parameter spelled stop.endsWord
  | .binary operator left right, spelled => by
      have tail := (spells_operator operator).spaced (Expr.spells_of_leaves right spelled.2.2)
      have whole := (Expr.spells_of_leaves left spelled.2.1).spaced tail
      show Text.Spells (left.text ++ ' ' :: operator.sql.toList ++ ' ' :: right.text)
        (left.trees ++ operator.words.map .leaf ++ right.trees)
      simpa using whole
  | .isNull operand negated, spelled => by
      have test := (Text.Spells.keyword "IS" (by decide)).spaced
        (spells_predicate "NULL" (by decide) negated)
      have whole := (Expr.spells_of_leaves operand spelled.2).spaced test
      show Text.Spells (operand.text ++ " IS ".toList ++ predicateWord "NULL" negated)
        (operand.trees ++ .leaf (.keyword "IS") :: (predicateWords "NULL" negated).map .leaf)
      simpa using whole
  | .isIn operand candidates negated, spelled => by
      have test := (spells_predicate "IN" (by decide) negated).spaced
        (Candidates.spells candidates spelled.2.2)
      have whole := (Expr.spells_of_leaves operand spelled.2.1).spaced test
      show Text.Spells
        (operand.text ++ ' ' :: predicateWord "IN" negated ++ ' ' :: candidates.text)
        (operand.trees ++ (predicateWords "IN" negated).map .leaf ++ candidates.trees)
      simpa using whole
  | .between operand low high negated, spelled => by
      have range := (Expr.spells_of_leaves low spelled.2.2.1).spaced
        ((Text.Spells.keyword "AND" (by decide)).spaced (Expr.spells_of_leaves high spelled.2.2.2))
      have test := (spells_predicate "BETWEEN" (by decide) negated).spaced range
      have whole := (Expr.spells_of_leaves operand spelled.2.1).spaced test
      show Text.Spells
        (operand.text ++ ' ' :: predicateWord "BETWEEN" negated ++ ' ' :: low.text ++
          " AND ".toList ++ high.text)
        (operand.trees ++ (predicateWords "BETWEEN" negated).map .leaf ++ low.trees ++
          .leaf (.keyword "AND") :: high.trees)
      simpa using whole
  | .subquery .scalar query, spelled => (Select.spells_of_leaves query spelled.2).parenthesised
  | .subquery .array query, spelled =>
      (Select.spells_of_leaves query spelled.2).keyword_group "ARRAY" .round (by decide) (by decide)
  | .paren inner, spelled => (Expr.spells_of_leaves inner spelled.2).parenthesised

theorem Expr.spells_all :
    (exprs : List Expr) → Expr.EveryAll Expr.StandsForWords (fun _ => True) exprs →
      ∀ expr ∈ exprs, Text.Spells expr.text expr.trees
  | [], _ => fun _ member => absurd member List.not_mem_nil
  | expr :: rest, spelled => by
      rw [List.forall_mem_cons]
      exact ⟨Expr.spells_of_leaves expr spelled.1, Expr.spells_all rest spelled.2⟩

theorem Expr.spells? :
    (expr : Option Expr) → Expr.Every? Expr.StandsForWords (fun _ => True) expr →
      ∀ part ∈ expr, Text.Spells part.text part.trees
  | none, _ => fun _ member => absurd member (Option.not_mem_none _)
  | some expr, spelled => fun _ member => by
      cases member
      exact Expr.spells_of_leaves expr spelled

theorem Candidates.spells :
    (candidates : Candidates) → candidates.Every Expr.StandsForWords (fun _ => True) →
      Text.Spells candidates.text candidates.trees
  | .values elements, spelled => by
      have inner := Text.Spells.commaSeparated elements (Expr.spells_all elements spelled)
      rw [← Expr.texts_eq_map, ← Expr.treeLists_eq_map] at inner
      exact inner.parenthesised
  | .unnest elements, spelled =>
      (Expr.spells_of_leaves elements spelled).keyword_group "UNNEST" .round (by decide) (by decide)
  | .subquery query, spelled => (Select.spells_of_leaves query spelled).parenthesised

theorem SelectItem.spells_all :
    (items : List SelectItem) → SelectItem.EveryAll Expr.StandsForWords (fun _ => True) items →
      ∀ item ∈ items, Text.Spells item.text item.trees
  | [], _ => fun _ member => absurd member List.not_mem_nil
  | ⟨expr, label⟩ :: rest, spelled => by
      rw [List.forall_mem_cons]
      refine ⟨?_, SelectItem.spells_all rest spelled.2⟩
      have head := Expr.spells_of_leaves expr spelled.1
      cases label with
      | none => exact head
      | some label =>
          have named := (Text.Spells.keyword "AS" (by decide)).spaced (.identifier label)
          have whole := head.spaced named
          show Text.Spells (expr.text ++ " AS ".toList ++ identifier label)
            (expr.trees ++ [.leaf (.keyword "AS"), .leaf (nameWord label)])
          simpa using whole

theorem OrderKey.spells_all :
    (keys : List OrderKey) → OrderKey.EveryAll Expr.StandsForWords (fun _ => True) keys →
      ∀ key ∈ keys, Text.Spells key.text key.trees
  | [], _ => fun _ member => absurd member List.not_mem_nil
  | ⟨expr, direction⟩ :: rest, spelled => by
      rw [List.forall_mem_cons]
      refine ⟨?_, OrderKey.spells_all rest spelled.2⟩
      have head := Expr.spells_of_leaves expr spelled.1
      cases direction with
      | none => exact head
      | some direction => cases direction <;> exact head.spaced (.keyword _ (by decide))

theorem Limit.spells? :
    (limit : Option Limit) → Limit.Every? Expr.StandsForWords (fun _ => True) limit →
      ∀ part ∈ limit, Text.Spells part.text part.trees
  | none, _ => fun _ member => absurd member (Option.not_mem_none _)
  | some ⟨count, offset⟩, spelled => fun _ member => by
      cases member
      have keyword := Text.Spells.writtenName "OFFSET" (by decide)
      have whole := (Expr.spells_of_leaves count spelled.1).clause [.name "OFFSET" false] keyword offset
        (Expr.spells? offset spelled.2)
      rw [← Expr.text?_eq_map, ← Expr.trees?_eq_map] at whole
      exact whole

theorem Select.spells_of_leaves :
    (query : Select) → query.Every Expr.StandsForWords (fun _ => True) →
      Text.Spells query.text query.trees
  | ⟨items, table, filter, orderBy, limit⟩, spelled => by
      rcases spelled with ⟨_, spelledItems, spelledFilter, spelledKeys, spelledLimit⟩
      have projected := Text.Spells.commaSeparated items (SelectItem.spells_all items spelledItems)
      have source := (Text.Spells.keyword "FROM" (by decide)).spaced (.identifier table)
      have opening := (Text.Spells.keyword "SELECT" (by decide)).spaced (projected.spaced source)
      have order : Text.Spells "ORDER BY".toList
          ([.keyword "ORDER", .keyword "BY"].map .leaf) :=
        (Text.Spells.keyword "ORDER" (by decide)).spaced (.keyword "BY" (by decide))
      have filtered := opening.clause [.keyword "WHERE"] (.keyword "WHERE" (by decide)) filter
        (Expr.spells? filter spelledFilter)
      have sorted := filtered.listClause [.keyword "ORDER", .keyword "BY"] order orderBy
        (OrderKey.spells_all orderBy spelledKeys)
      have limited := sorted.clause [.keyword "LIMIT"] (.keyword "LIMIT" (by decide)) limit
        (Limit.spells? limit spelledLimit)
      show Text.Spells
        ("SELECT ".toList ++ Text.commaSeparated (SelectItem.texts items) ++
          " FROM ".toList ++ identifier table ++
          clause "WHERE" (Expr.text? filter) ++
          clause "ORDER BY" (listBody (OrderKey.texts orderBy)) ++
          clause "LIMIT" (Limit.text? limit))
        (.leaf (.keyword "SELECT") :: TokenTree.separated "," (SelectItem.treeLists items) ++
          [.leaf (.keyword "FROM"), .leaf (nameWord table)] ++
          clauseTrees [.keyword "WHERE"] (Expr.trees? filter) ++
          clauseTrees [.keyword "ORDER", .keyword "BY"]
            (listTrees (OrderKey.treeLists orderBy)) ++
          clauseTrees [.keyword "LIMIT"] (Limit.trees? limit))
      simpa using limited

end

/-- The text of a well-spelled expression is read as the expression's tokens. -/
theorem Expr.spells (expr : Expr) (spelled : expr.WellSpelled) :
    Text.Spells expr.text expr.trees :=
  expr.spells_of_leaves
    ((Expr.Every.mono_all Expr.IsSpelled.standsForWords fun _ _ => trivial).1 expr spelled)

theorem Select.spells (query : Select) (spelled : query.WellSpelled) :
    Text.Spells query.text query.trees :=
  query.spells_of_leaves
    ((Expr.Every.mono_all Expr.IsSpelled.standsForWords fun _ _ => trivial).2.2 query spelled)

/-! ## The text of a statement -/

theorem Insert.spells_of_leaves (command : Insert)
    (spelled : ∀ cells ∈ command.rows, ∀ cell ∈ cells,
      cell.Every Expr.StandsForWords fun _ => True) :
    Text.Spells command.text command.trees := by
  have row : ∀ cells ∈ command.rows, Text.Spells (rowText cells) (rowTrees cells) := by
    intro cells member
    refine Text.Spells.parenthesised (Text.Spells.commaSeparated cells ?_)
    exact fun cell inside => cell.spells_of_leaves (spelled cells member cell inside)
  have columns := Text.Spells.commaSeparated command.columns fun column _ =>
    Text.Spells.identifier column
  have rows := Text.Spells.commaSeparated command.rows row
  have values := (Text.Spells.writtenName "VALUES" (by decide)).spaced rows
  have target := (Text.Spells.identifier command.table).spaced
    (columns.parenthesised.spaced values)
  have whole := (Text.Spells.writtenName "INSERT" (by decide)).spaced
    ((Text.Spells.keyword "INTO" (by decide)).spaced target)
  show Text.Spells
    ("INSERT INTO ".toList ++ identifier command.table ++ ' ' ::
      Text.parenthesised (Text.commaSeparated (command.columns.map identifier)) ++
      " VALUES ".toList ++ Text.commaSeparated (command.rows.map rowText))
    command.trees
  simpa [Insert.trees] using whole

theorem Assignment.spells_of_leaves (assignment : Assignment)
    (spelled : assignment.value.Every Expr.StandsForWords fun _ => True) :
    Text.Spells assignment.text assignment.trees := by
  have value :=
    (spells_comparison '=' (by simp)).spaced (assignment.value.spells_of_leaves spelled)
  have whole := (spells_path assignment.target).spaced value
  show Text.Spells (path assignment.target ++ " = ".toList ++ assignment.value.text)
    assignment.trees
  simpa [Assignment.trees] using whole

theorem Update.spells_of_leaves (command : Update)
    (assignments : ∀ assignment ∈ command.assignments,
      assignment.value.Every Expr.StandsForWords fun _ => True)
    (filter : command.filter.Every Expr.StandsForWords fun _ => True) :
    Text.Spells command.text command.trees := by
  have changes := Text.Spells.commaSeparated command.assignments fun assignment member =>
    assignment.spells_of_leaves (assignments assignment member)
  have target := (Text.Spells.identifier command.table).spaced
    ((Text.Spells.keyword "SET" (by decide)).spaced changes)
  have opening := (Text.Spells.writtenName "UPDATE" (by decide)).spaced target
  have whole := opening.clause [.keyword "WHERE"] (.keyword "WHERE" (by decide))
    (some command.filter) fun _ member => by
      cases member
      exact command.filter.spells_of_leaves filter
  show Text.Spells
    ("UPDATE ".toList ++ identifier command.table ++ " SET ".toList ++
      Text.commaSeparated (command.assignments.map Assignment.text) ++
      clause "WHERE" (some command.filter.text))
    command.trees
  simpa [Update.trees] using whole

theorem Delete.spells_of_leaves (command : Delete)
    (filter : command.filter.Every Expr.StandsForWords fun _ => True) :
    Text.Spells command.text command.trees := by
  have target := (Text.Spells.keyword "FROM" (by decide)).spaced (.identifier command.table)
  have opening := (Text.Spells.writtenName "DELETE" (by decide)).spaced target
  have whole := opening.clause [.keyword "WHERE"] (.keyword "WHERE" (by decide))
    (some command.filter) fun _ member => by
      cases member
      exact command.filter.spells_of_leaves filter
  show Text.Spells
    ("DELETE FROM ".toList ++ identifier command.table ++
      clause "WHERE" (some command.filter.text))
    command.trees
  simpa [Delete.trees] using whole

theorem Statement.spells_of_leaves (statement : Statement)
    (spelled : statement.Every Expr.StandsForWords fun _ => True) :
    Text.Spells statement.text statement.trees := by
  cases statement with
  | select query => exact query.spells_of_leaves spelled
  | insert command => exact command.spells_of_leaves spelled
  | update command => exact command.spells_of_leaves spelled.1 spelled.2
  | delete command => exact command.spells_of_leaves spelled

/-- The text of a well-spelled statement is read as the statement's tokens. -/
theorem Statement.spells (statement : Statement) (spelled : statement.WellSpelled) :
    Text.Spells statement.text statement.trees :=
  statement.spells_of_leaves (spelled.mono Expr.IsSpelled.standsForWords fun _ _ => trivial)

end SqlBuilder
