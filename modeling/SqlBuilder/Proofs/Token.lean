import SqlBuilder.Declaration.Lexeme
import SqlBuilder.Lexical.Keyword

/-!
# Tokens of SQL text

SQL text is a sequence of tokens: words and brackets.  A word is a keyword, a
name, a literal, a parameter or a symbol; it carries what it means and not how
it was spelled, save that a name remembers whether it was quoted.  The kind of a
token forgets what literals, names and parameters hold.

Brackets nest, so tokens form trees.  A group of brackets always holds the
tokens between an opening bracket and the closing one that belongs to it.
Putting the trees in a row gives the tokens back, and the tokens determine the
trees.
-/

namespace SqlBuilder

/-- A token that is no bracket. -/
inductive Word where
  /-- A reserved word, in upper case. -/
  | keyword (spelling : String)
  | name (spelling : String) (quoted : Bool)
  | string (content : String)
  | bytes (content : List UInt8)
  | integer (digits : String)
  | float (digits : String)
  | parameter (name : String)
  /-- A punctuation mark or an operator. -/
  | symbol (spelling : String)
deriving DecidableEq

/-- A word, or one of the two ends of a group. -/
inductive SqlToken where
  | word (word : Word)
  | opening (bracket : Bracket)
  | closing (bracket : Bracket)
deriving DecidableEq

/-- What a token is, whatever a literal, a name or a parameter holds. -/
inductive TokenKind where
  | keyword (spelling : String)
  | name
  | string
  | bytes
  | integer
  | float
  | parameter
  | symbol (spelling : String)
  | opening (bracket : Bracket)
  | closing (bracket : Bracket)
deriving DecidableEq

/-- The kind of a word. -/
def Word.kind : Word → TokenKind
  | .keyword spelling => .keyword spelling
  | .name _ _ => .name
  | .string _ => .string
  | .bytes _ => .bytes
  | .integer _ => .integer
  | .float _ => .float
  | .parameter _ => .parameter
  | .symbol spelling => .symbol spelling

/-- The kind of a token. -/
def SqlToken.kind : SqlToken → TokenKind
  | .word content => content.kind
  | .opening bracket => .opening bracket
  | .closing bracket => .closing bracket

/-- The word that bare letters spell: a keyword if they are reserved, and a name otherwise. -/
def Word.ofSpelling (spelling : String) : Word :=
  match reservedWords.find? fun word => decide (SameName word spelling) with
  | some word => .keyword word
  | none => .name spelling false

theorem Word.ofSpelling_of_not_isReserved {spelling : String}
    (free : ¬ IsReserved spelling) :
    Word.ofSpelling spelling = .name spelling false := by
  have missing :
      (reservedWords.find? fun word => decide (SameName word spelling)) = none := by
    rw [List.find?_eq_none]
    intro word member agrees
    exact free ⟨word, member, of_decide_eq_true agrees⟩
  rw [Word.ofSpelling, missing]

/-! ## Trees of tokens -/

/-- A word, or a pair of brackets with what stands between them. -/
inductive TokenTree where
  | leaf (word : Word)
  | group (bracket : Bracket) (inner : List TokenTree)

namespace TokenTree

mutual

/-- The tokens of a tree. -/
def tokens : TokenTree → List SqlToken
  | .leaf word => [.word word]
  | .group bracket inner => .opening bracket :: flatten inner ++ [.closing bracket]

/-- The tokens of trees in a row. -/
def flatten : List TokenTree → List SqlToken
  | [] => []
  | tree :: rest => tree.tokens ++ flatten rest

end

@[simp]
theorem flatten_nil : flatten [] = [] := by
  simp [flatten]

@[simp]
theorem flatten_leaf (word : Word) (rest : List TokenTree) :
    flatten (.leaf word :: rest) = .word word :: flatten rest := by
  simp [flatten, tokens]

@[simp]
theorem flatten_group (bracket : Bracket) (inner rest : List TokenTree) :
    flatten (.group bracket inner :: rest) =
      .opening bracket :: (flatten inner ++ .closing bracket :: flatten rest) := by
  simp [flatten, tokens]

@[simp]
theorem flatten_append (front back : List TokenTree) :
    flatten (front ++ back) = flatten front ++ flatten back := by
  induction front with
  | nil => simp
  | cons tree rest ih => simp [flatten, ih]

/--
The trees of tokens, given the trees read so far in the group that is open and,
for each group around it, its bracket and the trees in front of it.
-/
def groupFrom? (outer : List (Bracket × List TokenTree)) (current : List TokenTree) :
    List SqlToken → Option (List TokenTree)
  | [] => if outer.isEmpty then some current else none
  | .word word :: rest => groupFrom? outer (current ++ [.leaf word]) rest
  | .opening bracket :: rest => groupFrom? ((bracket, current) :: outer) [] rest
  | .closing bracket :: rest =>
      match outer with
      | [] => none
      | (opened, before) :: outer =>
          if opened = bracket then
            groupFrom? outer (before ++ [.group bracket current]) rest
          else
            none

/-- The trees of tokens, if the brackets match. -/
def group? (tokens : List SqlToken) : Option (List TokenTree) :=
  groupFrom? [] [] tokens

mutual

theorem groupFrom?_tokens :
    (tree : TokenTree) → (outer : List (Bracket × List TokenTree)) →
      (current : List TokenTree) → (rest : List SqlToken) →
      groupFrom? outer current (tree.tokens ++ rest) =
        groupFrom? outer (current ++ [tree]) rest
  | .leaf word, outer, current, rest => by
      simp [tokens, groupFrom?]
  | .group bracket inner, outer, current, rest => by
      -- The inner trees are read with this group open, hence for any groups around.
      have inside :=
        groupFrom?_flatten inner ((bracket, current) :: outer) []
          (.closing bracket :: rest)
      simp only [tokens, List.cons_append, List.append_assoc, List.nil_append, groupFrom?]
      rw [inside]
      simp [groupFrom?]

theorem groupFrom?_flatten :
    (trees : List TokenTree) → (outer : List (Bracket × List TokenTree)) →
      (current : List TokenTree) → (rest : List SqlToken) →
      groupFrom? outer current (flatten trees ++ rest) =
        groupFrom? outer (current ++ trees) rest
  | [], outer, current, rest => by
      simp
  | tree :: others, outer, current, rest => by
      simp only [flatten, List.append_assoc]
      rw [groupFrom?_tokens tree, groupFrom?_flatten others]
      simp

end

/-- Trees put in a row are found again. -/
@[simp]
theorem group?_flatten (trees : List TokenTree) : group? (flatten trees) = some trees := by
  have read := groupFrom?_flatten trees [] [] []
  simpa [group?, groupFrom?] using read

end TokenTree

end SqlBuilder
