import SqlBuilder.Text

/-!
# Operators and other fixed words

The two connectives join conditions.  Every other binary operator compares two
operands.  A connective counts as a binary operator as well, so an expression
has one kind of binary node.
-/

namespace SqlBuilder

/-- The logical operators that join conditions. -/
inductive Connective where
  | and
  | or
deriving DecidableEq

/-- The word a connective is written as. -/
def Connective.sql : Connective → String
  | .and => "AND"
  | .or => "OR"

/-- The operators that stand between two operands. -/
inductive Operator where
  | equal
  | notEqual
  | less
  | greater
  | lessEqual
  | greaterEqual
  | like
  | notLike
  | logical (connective : Connective)
deriving DecidableEq

namespace Operator

/-- The spelling of an operator. -/
def sql : Operator → String
  | .equal => "="
  | .notEqual => "!="
  | .less => "<"
  | .greater => ">"
  | .lessEqual => "<="
  | .greaterEqual => ">="
  | .like => "LIKE"
  | .notLike => "NOT LIKE"
  | .logical connective => connective.sql

/-- Whether an operator is a connective. -/
def isLogical : Operator → Bool
  | .logical _ => true
  | _ => false

@[simp]
theorem isLogical_logical (connective : Connective) :
    (Operator.logical connective).isLogical = true := rfl

end Operator

/-- The two orders in which an ORDER BY key may run. -/
inductive Direction where
  | ascending
  | descending
deriving DecidableEq

/-- The word a direction is written as. -/
def Direction.sql : Direction → String
  | .ascending => "ASC"
  | .descending => "DESC"

/-- The two forms in which a SELECT stands for a value: one value, or an array of values. -/
inductive SubqueryForm where
  | scalar
  | array
deriving DecidableEq

/-- The four kinds of statement. -/
inductive StatementKind where
  | select
  | insert
  | update
  | delete
deriving DecidableEq

/-- The word a kind of statement opens with. -/
def StatementKind.sql : StatementKind → String
  | .select => "SELECT"
  | .insert => "INSERT"
  | .update => "UPDATE"
  | .delete => "DELETE"

end SqlBuilder
