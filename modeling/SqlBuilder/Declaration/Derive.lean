import SqlBuilder.Declaration.Attribute
import SqlBuilder.Declaration.TypeText
import SqlBuilder.Record.Basic
import SqlBuilder.Value.Convert

/-!
# Record types from declarations

A declaration with named fields gives a record type: a field specification for
every declared field, and the expression of every field that is not skipped.
Fields keep the positions at which they are declared, so the positions of the
bound fields have gaps where fields are skipped.
-/

namespace SqlBuilder

/-- The kinds of type that a declaration may be of. -/
inductive DeclarationKind where
  | namedStruct
  | tupleStruct
  | unitStruct
  | enumeration
  | union
deriving DecidableEq

/-- A field as it is declared. -/
structure FieldDeclaration where
  source : String
  type : String
  attributes : List Attribute
deriving DecidableEq

/-- A type as it is declared. -/
structure TypeDeclaration where
  kind : DeclarationKind
  name : String
  parameters : List String
  fields : List FieldDeclaration
deriving DecidableEq

/-- A declared field together with its options. -/
structure DeclaredField where
  declaration : FieldDeclaration
  options : FieldOptions
deriving DecidableEq

/-- A name without the mark that lets a keyword stand as a name. -/
def plainName (source : String) : String :=
  match source.toList with
  | 'r' :: '#' :: name => String.ofList name
  | _ => source

namespace FieldDeclaration

/-- The field with its name freed from layout. -/
def withBareName (field : FieldDeclaration) : FieldDeclaration :=
  { field with source := Lexeme.nameOf field.source }

/-- The field with its options. -/
def declared (field : FieldDeclaration) : Except DeclarationError DeclaredField :=
  (FieldOptions.ofAttributes field.attributes).map fun options => ⟨field.withBareName, options⟩

/-- The type of a field, in canonical form. -/
def typeText (field : FieldDeclaration) : String :=
  String.ofList (canonicalType field.type.toList)

end FieldDeclaration

/-- How a declared field binds to columns. -/
def DeclaredField.spec (field : DeclaredField) : FieldSpec where
  name := plainName field.declaration.source
  column := field.options.column
  skip := field.options.skip

/-- A record type: how its fields bind, and which field stands at which position. -/
structure RecordType where
  name : String
  parameters : List String
  fields : List DeclaredField
deriving DecidableEq

namespace TypeDeclaration

/-- The record type of a declaration. -/
def derive (declaration : TypeDeclaration) : Except DeclarationError RecordType :=
  match declaration.kind with
  | .namedStruct =>
      (Outcome.collect (declaration.fields.map FieldDeclaration.declared)).map fun fields =>
        ⟨Lexeme.nameOf declaration.name, declaration.parameters.map Lexeme.nameOf, fields⟩
  | .tupleStruct => .error .unnamedFields
  | .unitStruct => .error .unnamedFields
  | .enumeration => .error .notAStruct
  | .union => .error .notAStruct

end TypeDeclaration

namespace RecordType

/-- The name of the type with its parameters. -/
def selfType (recordType : RecordType) : String :=
  match recordType.parameters with
  | [] => recordType.name
  | parameters => recordType.name ++ "<" ++ String.intercalate "," parameters ++ ">"

/-- The specifications of all fields. -/
def specs (recordType : RecordType) : List FieldSpec :=
  recordType.fields.map DeclaredField.spec

/-- The types that have to have expressions: those of the fields that are not skipped. -/
def boundTypes (recordType : RecordType) : List String :=
  (recordType.fields.filter fun field => !field.options.skip).map fun field =>
    field.declaration.typeText

/-- The positions of the fields that are not skipped, each with the field's name in the source. -/
def arms (recordType : RecordType) : List (Nat × String) :=
  (recordType.fields.zipIdx.filter fun entry => !entry.1.options.skip).map fun entry =>
    (entry.2, entry.1.declaration.source)

/-- The expression of the field at a position, given the values of fields by source name. -/
def fieldExpr
    (recordType : RecordType) (valueOf : String → Value) (position : Nat) :
    Outcome Expr :=
  match recordType.arms.lookup position with
  | some source => (valueOf source).toExpr
  | none => .error (Record.noField recordType.name position)

/-- The record of a type that holds the given values. -/
def record (recordType : RecordType) (valueOf : String → Value) : Record where
  typeName := recordType.name
  fields := recordType.specs
  fieldExpr := recordType.fieldExpr valueOf

end RecordType

end SqlBuilder
