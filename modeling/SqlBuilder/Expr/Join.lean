import SqlBuilder.Expr.Basic
import SqlBuilder.Outcome

/-!
# Joining conditions

Conditions are joined into a chain that associates to the left.  A condition
whose top operator is the other connective is put in brackets; one with the same
connective is not, since a longer chain means the same.
-/

namespace SqlBuilder

namespace Expr

/-- An expression in brackets if its top operator is the other connective, and as it is otherwise. -/
def grouped (connective : Connective) (expr : Expr) : Expr :=
  match expr.topOperator? with
  | some (.logical inner) => if inner = connective then expr else .paren expr
  | _ => expr

/-- A chain with one more link at its end. -/
def link (connective : Connective) (chain next : Expr) : Expr :=
  .binary (.logical connective) chain (next.grouped connective)

/-- The chain of a first expression and the rest.  A lone expression is its own chain. -/
def chain (connective : Connective) (first : Expr) : List Expr → Expr
  | [] => first
  | rest => rest.foldl (link connective) (first.grouped connective)

end Expr

/-- The chain of converted conditions, of which there has to be one. -/
def joined (connective : Connective) (outcomes : List (Outcome Expr)) : Outcome Expr := do
  match ← Outcome.collect outcomes with
  | [] => .error (.emptyConditionList connective)
  | first :: rest => .ok (first.chain connective rest)

/-- The filter that demands all conditions, or no filter where there are none. -/
def filterOf : List (Outcome Expr) → Outcome (Option Expr)
  | [] => .ok none
  | outcomes => (joined .and outcomes).map some

end SqlBuilder
