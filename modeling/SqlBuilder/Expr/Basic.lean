import SqlBuilder.Operator

/-!
# Expressions

The syntax trees of expressions and of the SELECT queries they contain.  The two
are defined together, because a query holds expressions and an expression may
hold a query.

Numbers, dates and timestamps are kept as the text they are written with.
STRING and BYTES literals, names and paths are kept as what they mean, and are
quoted when the tree is written.
-/

namespace SqlBuilder

mutual

/-- An expression that stands for a value. -/
inductive Expr where
  | null
  | string (content : String)
  | bytes (content : List UInt8)
  | integer (digits : String)
  | bool (value : Bool)
  | float (digits : String)
  | timestamp (content : String)
  | date (content : String)
  | array (elements : List Expr)
  | path (segments : List String)
  | parameter (name : String)
  | binary (operator : Operator) (left right : Expr)
  | isNull (operand : Expr) (negated : Bool)
  | isIn (operand : Expr) (candidates : Candidates) (negated : Bool)
  | between (operand low high : Expr) (negated : Bool)
  | subquery (form : SubqueryForm) (query : Select)
  | paren (inner : Expr)

/-- What an operand is looked up in: a list, the elements of an array, or the rows of a query. -/
inductive Candidates where
  | values (elements : List Expr)
  | unnest (elements : Expr)
  | subquery (query : Select)

/-- A projected expression and the name given to its column, if any. -/
structure SelectItem where
  expr : Expr
  label : Option String

/-- A sort key and the direction given for it, if any. -/
structure OrderKey where
  expr : Expr
  direction : Option Direction

/-- How many rows to return, and how many to pass over first. -/
structure Limit where
  count : Expr
  offset : Option Expr

/-- A SELECT query. -/
structure Select where
  items : List SelectItem
  table : String
  filter : Option Expr
  orderBy : List OrderKey
  limit : Option Limit

end

namespace Expr

/-- A path of one segment. -/
def name (segment : String) : Expr :=
  .path [segment]

/-- The operator at the top of an expression, if it is a binary one. -/
def topOperator? : Expr → Option Operator
  | .binary operator _ _ => some operator
  | _ => none

@[simp]
theorem topOperator?_binary (operator : Operator) (left right : Expr) :
    (binary operator left right).topOperator? = some operator := rfl

end Expr

end SqlBuilder
