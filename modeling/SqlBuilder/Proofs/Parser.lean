import SqlBuilder.Proofs.Precedence

/-!
# Reading statements

A reader of the dialect, from text to the syntax trees of statements.  Groups are
read from the innermost ones outwards, so that a row of parts has its groups read
already: a group holds a query, or a list of expressions with commas between
them.  What a list stands for depends on where it is found.  It may be the
elements of an array, the values behind IN, the cells of a row, the columns of an
INSERT or a single expression in brackets.

DATE, TIMESTAMP, OFFSET, VALUES and the words that open INSERT, UPDATE and DELETE
are not reserved.  They are told apart from names by their place: a name in
backticks is never such a word.
-/

namespace SqlBuilder

namespace Part

variable {α φ : Type}

/-- Whether a part is a certain symbol. -/
def isSymbol (spelling : String) : Part α → Bool
  | .word (.symbol other) => other = spelling
  | _ => false

/-- Whether a part is a certain word that is not reserved. -/
def isBareWord (spelling : String) : Part α → Bool
  | .word (.name other false) => SameName spelling other
  | _ => false

/-- The parts in front of the first mark and, if there is a mark, the parts behind it. -/
def cut (isMark : Part α → Bool) (parts : List (Part α)) :
    List (Part α) × Option (List (Part α)) :=
  (parts.takeWhile fun part => !isMark part, (parts.dropWhile fun part => !isMark part).tail?)

/-- The members of a row with commas between them. -/
def members? (read? : List (Part α) → Option φ) : List (Part α) → Option (List φ)
  | [] => some []
  | parts => (parts.splitOnP (isSymbol ",")).mapM read?

/-- Whether a row opens with NOT, and the row behind it. -/
def negation : List (Part α) → Bool × List (Part α)
  | [] => (false, [])
  | part :: rest => if part.isKeyword "NOT" then (true, rest) else (false, part :: rest)

section Cut

variable {isMark : Part α → Bool} {front : List (Part α)}

theorem cut_of_absent (absent : ∀ part ∈ front, isMark part = false) :
    cut isMark front = (front, none) := by
  have kept : ∀ part ∈ front, (!isMark part) = true := by simpa using absent
  have stop : ∀ part ∈ ([] : List (Part α)).head?, (!isMark part) = false := by simp
  rcases takeWhile_append_of_stop kept stop with ⟨taken, dropped⟩
  rw [List.append_nil] at taken dropped
  simp [cut, taken, dropped]

theorem cut_append_cons {mark : Part α} (absent : ∀ part ∈ front, isMark part = false)
    (opens : isMark mark = true) (back : List (Part α)) :
    cut isMark (front ++ mark :: back) = (front, some back) := by
  have kept : ∀ part ∈ front, (!isMark part) = true := by simpa using absent
  have stop : ∀ part ∈ (mark :: back).head?, (!isMark part) = false := by simp [opens]
  rcases takeWhile_append_of_stop kept stop with ⟨taken, dropped⟩
  simp [cut, taken, dropped]

end Cut

/-- No part of a row of trees is a certain mark. -/
def Lacks (read : List (Part α) → α) (isMark : Part α → Bool) (trees : List TokenTree) : Prop :=
  ∀ part ∈ trees.map (TokenTree.part read), isMark part = false

namespace Lacks

variable {read : List (Part α) → α} {isMark : Part α → Bool}
variable {front back : List TokenTree}

@[simp]
theorem nil : Lacks read isMark [] := by
  simp [Lacks]

@[simp]
theorem leaf_cons (word : Word) (rest : List TokenTree) :
    Lacks read isMark (.leaf word :: rest) ↔
      isMark (.word word) = false ∧ Lacks read isMark rest := by
  simp [Lacks]

@[simp]
theorem append :
    Lacks read isMark (front ++ back) ↔ Lacks read isMark front ∧ Lacks read isMark back := by
  simp [Lacks, or_imp, forall_and]

theorem words {words : List Word} (each : ∀ word ∈ words, isMark (.word word) = false) :
    Lacks read isMark (words.map .leaf) := by
  simpa [Lacks] using each

theorem separated {mark : String} {rows : List (List TokenTree)}
    (between : isMark (.word (.symbol mark)) = false)
    (each : ∀ row ∈ rows, Lacks read isMark row) :
    Lacks read isMark (TokenTree.separated mark rows) := by
  induction rows with
  | nil => simp
  | cons row rest ih =>
      rw [List.forall_mem_cons] at each
      cases rest with
      | nil => simpa using each.1
      | cons next others =>
          rw [TokenTree.separated_cons_cons, append, leaf_cons]
          exact ⟨each.1, between, ih each.2⟩

theorem clause {keywords : List Word} {body : Option (List TokenTree)}
    (opens : ∀ word ∈ keywords, isMark (.word word) = false)
    (inside : ∀ trees ∈ body, Lacks read isMark trees) :
    Lacks read isMark (clauseTrees keywords body) := by
  cases body with
  | none => simp [clauseTrees]
  | some trees => exact append.mpr ⟨words opens, inside trees rfl⟩

/-- What lacks the mark is cut off in front of a clause that opens with it. -/
theorem cut_clause (lacks : Lacks read isMark front) (mark : Word) (others : List Word)
    (body : Option (List TokenTree)) (opens : isMark (.word mark) = true) :
    cut isMark ((front ++ clauseTrees (mark :: others) body).map (TokenTree.part read)) =
      (front.map (TokenTree.part read),
        body.map fun trees => others.map .word ++ trees.map (TokenTree.part read)) := by
  cases body with
  | none => simpa [clauseTrees] using cut_of_absent lacks
  | some trees =>
      have whole := cut_append_cons lacks opens
        (others.map .word ++ trees.map (TokenTree.part read))
      simpa [clauseTrees, Function.comp_def] using whole

end Lacks

/-- The rows of a list are its members again. -/
theorem splitOnP_separated (read : List (Part α) → α) (first : List TokenTree)
    (rest : List (List TokenTree))
    (whole : ∀ row ∈ first :: rest, Lacks read (isSymbol ",") row) :
    ((TokenTree.separated "," (first :: rest)).map (TokenTree.part read)).splitOnP
        (isSymbol ",") =
      (first :: rest).map (List.map (TokenTree.part read)) := by
  induction rest generalizing first with
  | nil =>
      rw [List.forall_mem_singleton] at whole
      simpa using List.splitOnP_eq_singleton whole
  | cons next others ih =>
      rw [List.forall_mem_cons] at whole
      have head := List.splitOnP_eq_singleton whole.1
      rw [TokenTree.separated_cons_cons, List.map_append, List.map_cons, TokenTree.part_leaf,
        List.splitOnP_append_cons _ _ rfl, head, ih next whole.2]
      rfl

section Members

variable {ι : Type} {read : List (Part α) → α} {write : ι → List TokenTree}
variable {read? : List (Part α) → Option φ} {result : ι → φ}

theorem mapM_eq_some_map {β : Type} {convert : β → Option φ} {result : β → φ} {items : List β}
    (each : ∀ item ∈ items, convert item = some (result item)) :
    items.mapM convert = some (items.map result) := by
  induction items with
  | nil => rfl
  | cons item rest ih =>
      rw [List.forall_mem_cons] at each
      simp [each.1, ih each.2]

theorem members?_separated (items : List ι) (present : ∀ item ∈ items, write item ≠ [])
    (whole : ∀ item ∈ items, Lacks read (isSymbol ",") (write item))
    (each : ∀ item ∈ items,
      read? ((write item).map (TokenTree.part read)) = some (result item)) :
    members? read? ((TokenTree.separated "," (items.map write)).map (TokenTree.part read)) =
      some (items.map result) := by
  cases items with
  | nil => rfl
  | cons first rest =>
      have split := splitOnP_separated read (write first) (rest.map write)
        (by simpa using whole)
      rw [← List.map_cons] at split
      have nonempty : (TokenTree.separated "," ((first :: rest).map write)).map
          (TokenTree.part read) ≠ [] := by
        have head := present first (List.mem_cons_self ..)
        cases rest <;> simp [head]
      have converted : (((first :: rest).map write).map
          (List.map (TokenTree.part read))).mapM read? = some ((first :: rest).map result) := by
        rw [List.map_map, List.mapM_map]
        exact mapM_eq_some_map each
      rw [members?.eq_def]
      split
      · contradiction
      · rw [split, converted]

end Members

end Part

/-- What has been read between two brackets. -/
inductive Content where
  | query (query : Select)
  | list (elements : List Expr)

/-- A word, or a group with its content, if it could be read. -/
abbrev Piece := Part (Option Content)

/-! ## Operands -/

/-- The names behind the first one of a path. -/
def pathRest? : List Piece → Option (List String)
  | [] => some []
  | .word (.symbol ".") :: .word (.name segment _) :: rest =>
      (pathRest? rest).map (segment :: ·)
  | _ => none

/-- The names of a path. -/
def path? : List Piece → Option (List String)
  | .word (.name segment _) :: rest => (pathRest? rest).map (segment :: ·)
  | _ => none

namespace Expr

/-- The number behind a hyphen. -/
def ofNegative? : List Piece → Option Expr
  | [.word (.integer digits)] => some (.integer ("-" ++ digits))
  | [.word (.float digits)] => some (.float ("-" ++ digits))
  | _ => none

/-- The literal of a type that is named in front of a string. -/
def ofTyped? (type content : String) : Option Expr :=
  if SameName "TIMESTAMP" type then some (.timestamp content)
  else if SameName "DATE" type then some (.date content)
  else none

/-- An operand that opens with a name: a path, or a literal behind its type. -/
def ofName? (name : String) (quoted : Bool) (rest : List Piece) : Option Expr :=
  match rest with
  | [.word (.string content)] => if quoted then none else ofTyped? name content
  | rest => (pathRest? rest).map fun segments => .path (name :: segments)

/-- An operand that opens with a reserved word. -/
def ofKeyword? (word : String) : List Piece → Option Expr
  | [] =>
      if word = "NULL" then some .null
      else if word = "TRUE" then some (.bool true)
      else if word = "FALSE" then some (.bool false)
      else none
  | [.group .square (some (.list elements))] =>
      if word = "ARRAY" then some (.array elements) else none
  | [.group .round (some (.query query))] =>
      if word = "ARRAY" then some (.subquery .array query) else none
  | _ => none

/-- The operand that a row of parts is. -/
def ofOperand? : List Piece → Option Expr
  | .word (.keyword word) :: rest => ofKeyword? word rest
  | .word (.name name quoted) :: rest => ofName? name quoted rest
  | .word (.symbol sign) :: rest => if sign = "-" then ofNegative? rest else none
  | [.word (.string content)] => some (.string content)
  | [.word (.bytes content)] => some (.bytes content)
  | [.word (.integer digits)] => some (.integer digits)
  | [.word (.float digits)] => some (.float digits)
  | [.word (.parameter name)] => some (.parameter name)
  | [.group .round (some (.query query))] => some (.subquery .scalar query)
  | [.group .round (some (.list [inner]))] => some (.paren inner)
  | _ => none

end Expr

/-! ## Comparisons and tests -/

/-- The comparison that a symbol stands for. -/
def Operator.ofSymbol? (spelling : String) : Option Operator :=
  [Operator.equal, .notEqual, .less, .greater, .lessEqual, .greaterEqual].find?
    fun operator => operator.sql = spelling

/-- The right side of IN. -/
def Candidates.ofParts? : List Piece → Option Candidates
  | [.group .round (some (.list elements))] => some (.values elements)
  | [.group .round (some (.query query))] => some (.subquery query)
  | [.word (.keyword "UNNEST"), .group .round (some (.list [elements]))] =>
      some (.unnest elements)
  | _ => none

namespace Expr

/-- The test of an operand by LIKE, IN or BETWEEN. -/
def ofPredicate? (operand : Expr) (negated : Bool) (word : String) (rest : List Piece) :
    Option Expr :=
  if word = "LIKE" then
    (ofOperand? rest).map (.binary (if negated then .notLike else .like) operand)
  else if word = "IN" then
    (Candidates.ofParts? rest).map fun candidates => .isIn operand candidates negated
  else if word = "BETWEEN" then do
    let low ← ofOperand? (rest.takeWhile Part.inOperand)
    match rest.dropWhile Part.inOperand with
    | .word (.keyword "AND") :: rest =>
        let high ← ofOperand? rest
        return .between operand low high negated
    | _ => none
  else
    none

/-- The test of an operand that is told by the parts behind it; the operand alone without any. -/
def ofTest? (operand : Expr) : List Piece → Option Expr
  | [] => some operand
  | .word (.symbol spelling) :: rest => do
      let operator ← Operator.ofSymbol? spelling
      let right ← ofOperand? rest
      return .binary operator operand right
  | .word (.keyword "IS") :: rest =>
      match Part.negation rest with
      | (negated, [.word (.keyword "NULL")]) => some (.isNull operand negated)
      | _ => none
  | rest =>
      match Part.negation rest with
      | (negated, .word (.keyword word) :: rest) => ofPredicate? operand negated word rest
      | _ => none

/-- The factor of a conjunction: an operand, or a comparison or test of one. -/
def ofFactor? (parts : List Piece) : Option Expr := do
  let operand ← ofOperand? (parts.takeWhile Part.inOperand)
  ofTest? operand (parts.dropWhile Part.inOperand)

/-- The expression that a row of parts is. -/
def ofParts? (parts : List Piece) : Option Expr :=
  Part.read? ofFactor? (fun connective => .binary (.logical connective)) parts

end Expr

/-! ## Queries -/

/-- A projected item, with the name that AS gives to it. -/
def SelectItem.ofParts? (parts : List Piece) : Option SelectItem := do
  let expr ← Expr.ofParts? (parts.takeWhile Part.inExpr)
  match parts.dropWhile Part.inExpr with
  | [] => return ⟨expr, none⟩
  | [.word (.keyword "AS"), .word (.name label _)] => return ⟨expr, some label⟩
  | _ => none

/-- The direction that a reserved word stands for. -/
def Direction.ofWord? (word : String) : Option Direction :=
  [Direction.ascending, .descending].find? fun direction => direction.sql = word

/-- A sort key, with its direction. -/
def OrderKey.ofParts? (parts : List Piece) : Option OrderKey := do
  let expr ← Expr.ofParts? (parts.takeWhile Part.inExpr)
  match parts.dropWhile Part.inExpr with
  | [] => return ⟨expr, none⟩
  | [.word (.keyword word)] =>
      let direction ← Direction.ofWord? word
      return ⟨expr, some direction⟩
  | _ => none

/-- The sort keys of a clause, which may be absent. -/
def OrderKey.ofClause? : Option (List Piece) → Option (List OrderKey)
  | none => some []
  | some (.word (.keyword "BY") :: keys) => Part.members? OrderKey.ofParts? keys
  | some _ => none

/-- A limit, with the rows that OFFSET passes over. -/
def Limit.ofParts? (parts : List Piece) : Option Limit := do
  let (front, back) := Part.cut (Part.isBareWord "OFFSET") parts
  let count ← Expr.ofParts? front
  let offset ← back.mapM Expr.ofParts?
  return ⟨count, offset⟩

/-- The query that the parts behind SELECT are.  Its clauses are cut off from the last one on. -/
def Select.ofParts? (parts : List Piece) : Option Select := do
  let (parts, limit) := Part.cut (Part.isKeyword "LIMIT") parts
  let (parts, order) := Part.cut (Part.isKeyword "ORDER") parts
  let (parts, filter) := Part.cut (Part.isKeyword "WHERE") parts
  let (parts, source) := Part.cut (Part.isKeyword "FROM") parts
  let items ← Part.members? SelectItem.ofParts? parts
  let some [.word (.name table _)] := source | none
  let filter ← filter.mapM Expr.ofParts?
  let orderBy ← OrderKey.ofClause? order
  let limit ← limit.mapM Limit.ofParts?
  return ⟨items, table, filter, orderBy, limit⟩

/-- The content of a group: a query, or a list of expressions. -/
def Content.ofParts? : List Piece → Option Content
  | .word (.keyword "SELECT") :: rest => (Select.ofParts? rest).map .query
  | parts => (Part.members? Expr.ofParts? parts).map .list

/-! ## Statements -/

/-- The name that a path of one segment is. -/
def Expr.name? : Expr → Option String
  | .path [segment] => some segment
  | _ => none

/-- The cells of a row. -/
def cells? : List Piece → Option (List Expr)
  | [.group .round (some (.list cells))] => some cells
  | _ => none

/-- The INSERT that the parts behind its first word are. -/
def Insert.ofParts? : List Piece → Option Insert
  | .word (.keyword "INTO") :: .word (.name table _) ::
      .group .round (some (.list columns)) :: part :: rest => do
      if part.isBareWord "VALUES" then
        let columns ← columns.mapM Expr.name?
        let rows ← Part.members? cells? rest
        return ⟨table, columns, rows⟩
      else
        none
  | _ => none

/-- An assignment. -/
def Assignment.ofParts? (parts : List Piece) : Option Assignment := do
  let (front, back) := Part.cut (Part.isSymbol "=") parts
  let target ← path? front
  let value ← Expr.ofParts? (← back)
  return ⟨target, value⟩

/-- The UPDATE that the parts behind its first word are. -/
def Update.ofParts? : List Piece → Option Update
  | .word (.name table _) :: .word (.keyword "SET") :: rest => do
      let (front, back) := Part.cut (Part.isKeyword "WHERE") rest
      let assignments ← Part.members? Assignment.ofParts? front
      let filter ← Expr.ofParts? (← back)
      return ⟨table, assignments, filter⟩
  | _ => none

/-- The DELETE that the parts behind its first word are. -/
def Delete.ofParts? : List Piece → Option Delete
  | .word (.keyword "FROM") :: .word (.name table _) :: .word (.keyword "WHERE") :: rest => do
      let filter ← Expr.ofParts? rest
      return ⟨table, filter⟩
  | _ => none

namespace Statement

/-- The statement that a row of parts is. -/
def ofParts? : List Piece → Option Statement
  | [] => none
  | part :: rest =>
      if part.isKeyword "SELECT" then (Select.ofParts? rest).map .select
      else if part.isBareWord "INSERT" then (Insert.ofParts? rest).map .insert
      else if part.isBareWord "UPDATE" then (Update.ofParts? rest).map .update
      else if part.isBareWord "DELETE" then (Delete.ofParts? rest).map .delete
      else none

/-- The statement that SQL text is read as. -/
def parse? (sql : String) : Option Statement := do
  let tokens ← tokenize? sql.toList
  let trees ← TokenTree.group? tokens
  ofParts? (trees.map (TokenTree.part Content.ofParts?))

end Statement

end SqlBuilder
