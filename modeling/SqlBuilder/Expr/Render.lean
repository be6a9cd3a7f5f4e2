import SqlBuilder.Expr.Basic
import SqlBuilder.Lexical.Quoted

/-!
# The text of expressions and queries

Operands are written as they are, without brackets of their own: an expression
carries the brackets it needs as `paren` nodes.  Keywords are upper case, list
elements are separated by a comma and a blank, and the clauses of a query follow
one another with one blank between them.
-/

namespace SqlBuilder

/-- A clause behind its keyword, or nothing where the clause is absent. -/
def clause (keyword : String) : Option Text → Text
  | none => []
  | some body => ' ' :: keyword.toList ++ ' ' :: body

@[simp]
theorem clause_none (keyword : String) : clause keyword none = [] := rfl

@[simp]
theorem clause_some (keyword : String) (body : Text) :
    clause keyword (some body) = ' ' :: keyword.toList ++ ' ' :: body := rfl

/-- A list as the body of a clause: an empty list leaves the clause out. -/
def listBody : List Text → Option Text
  | [] => none
  | pieces => some (Text.commaSeparated pieces)

/-- A predicate word, with NOT in front when it is negated. -/
def predicateWord (word : String) (negated : Bool) : Text :=
  if negated then "NOT ".toList ++ word.toList else word.toList

mutual

/-- The text of an expression. -/
def Expr.text : Expr → Text
  | .null => "NULL".toList
  | .string content => stringLiteral content
  | .bytes content => bytesLiteral content
  | .integer digits => digits.toList
  | .bool true => "TRUE".toList
  | .bool false => "FALSE".toList
  | .float digits => digits.toList
  | .timestamp content => "TIMESTAMP ".toList ++ stringLiteral content
  | .date content => "DATE ".toList ++ stringLiteral content
  | .array elements =>
      "ARRAY[".toList ++ Text.commaSeparated (Expr.texts elements) ++ [']']
  | .path segments => path segments
  | .parameter name => '@' :: name.toList
  | .binary operator left right =>
      left.text ++ ' ' :: operator.sql.toList ++ ' ' :: right.text
  | .isNull operand negated =>
      operand.text ++ " IS ".toList ++ predicateWord "NULL" negated
  | .isIn operand candidates negated =>
      operand.text ++ ' ' :: predicateWord "IN" negated ++ ' ' :: candidates.text
  | .between operand low high negated =>
      operand.text ++ ' ' :: predicateWord "BETWEEN" negated ++ ' ' :: low.text ++
        " AND ".toList ++ high.text
  | .subquery .scalar query => Text.parenthesised query.text
  | .subquery .array query => "ARRAY".toList ++ Text.parenthesised query.text
  | .paren inner => Text.parenthesised inner.text

/-- The texts of a list of expressions. -/
def Expr.texts : List Expr → List Text
  | [] => []
  | expr :: rest => expr.text :: Expr.texts rest

/-- The text of an expression that may be absent. -/
def Expr.text? : Option Expr → Option Text
  | none => none
  | some expr => some expr.text

/-- The text of the right side of IN. -/
def Candidates.text : Candidates → Text
  | .values elements =>
      Text.parenthesised (Text.commaSeparated (Expr.texts elements))
  | .unnest elements => "UNNEST".toList ++ Text.parenthesised elements.text
  | .subquery query => Text.parenthesised query.text

/-- The text of a projected item. -/
def SelectItem.text : SelectItem → Text
  | ⟨expr, none⟩ => expr.text
  | ⟨expr, some label⟩ => expr.text ++ " AS ".toList ++ identifier label

/-- The texts of a list of projected items. -/
def SelectItem.texts : List SelectItem → List Text
  | [] => []
  | item :: rest => item.text :: SelectItem.texts rest

/-- The text of a sort key. -/
def OrderKey.text : OrderKey → Text
  | ⟨expr, none⟩ => expr.text
  | ⟨expr, some direction⟩ => expr.text ++ ' ' :: direction.sql.toList

/-- The texts of a list of sort keys. -/
def OrderKey.texts : List OrderKey → List Text
  | [] => []
  | key :: rest => key.text :: OrderKey.texts rest

/-- The text of a limit behind its keyword. -/
def Limit.text : Limit → Text
  | ⟨count, offset⟩ => count.text ++ clause "OFFSET" (Expr.text? offset)

/-- The text of a limit that may be absent. -/
def Limit.text? : Option Limit → Option Text
  | none => none
  | some limit => some limit.text

/-- The text of a SELECT query. -/
def Select.text : Select → Text
  | ⟨items, table, filter, orderBy, limit⟩ =>
      "SELECT ".toList ++ Text.commaSeparated (SelectItem.texts items) ++
        " FROM ".toList ++ identifier table ++
        clause "WHERE" (Expr.text? filter) ++
        clause "ORDER BY" (listBody (OrderKey.texts orderBy)) ++
        clause "LIMIT" (Limit.text? limit)

end

@[simp]
theorem Expr.texts_eq_map (exprs : List Expr) :
    Expr.texts exprs = exprs.map Expr.text := by
  induction exprs with
  | nil => rfl
  | cons expr rest ih => simp [Expr.texts, ih]

@[simp]
theorem Expr.text?_eq_map (expr : Option Expr) :
    Expr.text? expr = expr.map Expr.text := by
  cases expr <;> rfl

@[simp]
theorem SelectItem.texts_eq_map (items : List SelectItem) :
    SelectItem.texts items = items.map SelectItem.text := by
  induction items with
  | nil => rfl
  | cons item rest ih => simp [SelectItem.texts, ih]

@[simp]
theorem OrderKey.texts_eq_map (keys : List OrderKey) :
    OrderKey.texts keys = keys.map OrderKey.text := by
  induction keys with
  | nil => rfl
  | cons key rest ih => simp [OrderKey.texts, ih]

@[simp]
theorem Limit.text?_eq_map (limit : Option Limit) :
    Limit.text? limit = limit.map Limit.text := by
  cases limit <;> rfl

/-- The SQL text of an expression. -/
def Expr.sql (expr : Expr) : String :=
  String.ofList expr.text

/-- The SQL text of a SELECT query. -/
def Select.sql (query : Select) : String :=
  String.ofList query.text

end SqlBuilder
