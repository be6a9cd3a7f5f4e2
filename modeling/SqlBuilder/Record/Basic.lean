import SqlBuilder.Value.Convert

/-!
# Records

A record has fields in a fixed order.  A field binds to a column by its name, up
to ASCII letter case; a field that states a column name binds to that column
only, and exactly; a skipped field binds to none.

For a column, fields that state a column name come before fields that do not.
Among equals the one declared first is taken.
-/

namespace SqlBuilder

/-- How a field of a record binds to columns. -/
structure FieldSpec where
  name : String
  column : Option String
  skip : Bool
deriving DecidableEq

namespace FieldSpec

/-- A field binds to a column it states, or without one to a column of its own name. -/
def Matches (field : FieldSpec) (column : String) : Prop :=
  field.skip = false ∧
    match field.column with
    | some stated => stated = column
    | none => SameName field.name column

instance (field : FieldSpec) (column : String) : Decidable (field.Matches column) := by
  unfold Matches
  cases field.column <;> exact inferInstance

/-- A field that states the column it binds to. -/
def MatchesStated (field : FieldSpec) (column : String) : Prop :=
  field.column.isSome = true ∧ field.Matches column

instance (field : FieldSpec) (column : String) : Decidable (field.MatchesStated column) :=
  inferInstanceAs (Decidable (_ ∧ _))

/-- The position of the field that binds to a column. -/
def position? (fields : List FieldSpec) (column : String) : Option Nat :=
  (fields.findIdx? fun field => decide (field.MatchesStated column)).or
    (fields.findIdx? fun field => decide (field.Matches column))

end FieldSpec

/-- A record: the name of its type, its fields, and the expression of the field at a position. -/
structure Record where
  typeName : String
  fields : List FieldSpec
  fieldExpr : Nat → Outcome Expr

namespace Record

/-- The expression of the field that binds to a column. -/
def cell (record : Record) (column : String) : Outcome Expr :=
  match FieldSpec.position? record.fields column with
  | some position => record.fieldExpr position
  | none => .error (.columnNotFound record.typeName column)

/-- The cells of a record, one for each column in order. -/
def bind (record : Record) (columns : List String) : Outcome (List Expr) :=
  Outcome.collect (columns.map record.cell)

/-- The error for a position that has no field, or a skipped one. -/
def noField (typeName : String) (position : Nat) : Error :=
  .columnNotFound typeName ("#" ++ position.repr)

/-- The record of a type whose fields are given together with their values. -/
def ofFields (typeName : String) (entries : List (FieldSpec × Value)) : Record where
  typeName := typeName
  fields := entries.map Prod.fst
  fieldExpr := fun position =>
    match entries[position]? with
    | some (field, value) =>
        if field.skip then .error (noField typeName position) else value.toExpr
    | none => .error (noField typeName position)

end Record

end SqlBuilder
