import SqlBuilder.Expr.Basic
import SqlBuilder.Outcome

/-!
# Identifiers and parameters

An identifier names a column, with the names that qualify it in front.  A
parameter stands for a value that is supplied when the statement runs.
-/

namespace SqlBuilder

/-- A column reference: its segments from the outermost qualifier to the column. -/
structure Identifier where
  segments : List String
deriving DecidableEq

namespace Identifier

/-- The identifier of one segment. -/
def ofName (name : String) : Identifier :=
  ⟨[name]⟩

/-- The identifier with one more segment at its end. -/
def child (identifier : Identifier) (name : String) : Identifier :=
  ⟨identifier.segments ++ [name]⟩

@[simp]
theorem segments_child (identifier : Identifier) (name : String) :
    (identifier.child name).segments = identifier.segments ++ [name] := rfl

/-- The expression of an identifier, which needs a segment. -/
def toExpr (identifier : Identifier) : Outcome Expr :=
  if identifier.segments = [] then
    .error .emptyIdentifier
  else
    .ok (.path identifier.segments)

end Identifier

/-- A named parameter. -/
structure Parameter where
  name : String
deriving DecidableEq

/-- The expression of a parameter. -/
def Parameter.toExpr (parameter : Parameter) : Expr :=
  .parameter parameter.name

end SqlBuilder
