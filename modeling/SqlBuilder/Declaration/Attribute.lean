import SqlBuilder.Declaration.Keyword
import SqlBuilder.Declaration.Lexer

/-!
# Field attributes

The declaration of a record type may carry attributes on its fields.  The
attribute of this library holds options in brackets, round, square or curly ones,
separated by commas, with a comma allowed at the end:

* `skip` leaves the field out of every row;
* `column = "name"` states the column that the field binds to.

An option may be given more than once, and a field may carry the attribute more
than once.  A field is skipped if any option says so, and the last column stated
is the one that counts.
-/

namespace SqlBuilder

/-- A token between the brackets of an attribute. -/
inductive Token where
  | word (name : String)
  | string (content : String)
  | integer (digits : String)
  | punctuation (symbol : Char)
  /-- A token of any other kind: a further literal, a lifetime, or tokens in brackets. -/
  | other (source : String)
deriving DecidableEq

/-- What follows the path of an attribute. -/
inductive AttributeArguments where
  /-- Tokens in brackets; round, square and curly ones are read alike. -/
  | bracketed (tokens : List Token)
  /-- Nothing. -/
  | absent
  /-- An equals sign and a value. -/
  | assigned
deriving DecidableEq

/-- An attribute of a field. -/
structure Attribute where
  path : String
  arguments : AttributeArguments
deriving DecidableEq

/-- Why a declaration has no record type. -/
inductive DeclarationError where
  | notAStruct
  | unnamedFields
  | expectedWord
  | reservedWord (word : String)
  | unknownOption (name : String)
  | expectedEquals
  | missingString
  | expectedString
  | emptyColumn
  | expectedComma
  | missingArguments
  | missingBrackets
deriving DecidableEq

/-- The wording of a declaration's error. -/
def DeclarationError.message : DeclarationError → String
  | .notAStruct => "ToRow can only be derived for structs"
  | .unnamedFields =>
      "ToRow can only be derived for structs with named fields; use a tuple for positional rows"
  | .expectedWord => "expected identifier"
  | .reservedWord word => "expected identifier, found keyword `" ++ word ++ "`"
  | .unknownOption name =>
      "unknown spanner attribute `" ++ name ++ "`, expected `column` or `skip`"
  | .expectedEquals => "expected `=`"
  | .missingString => "unexpected end of input, expected string literal"
  | .expectedString => "expected string literal"
  | .emptyColumn => "column name must not be empty"
  | .expectedComma => "expected `,`"
  | .missingArguments =>
      "expected attribute arguments in parentheses: #[spanner(...)]"
  | .missingBrackets => "expected parentheses: #[spanner(...)]"

/-- The options of a field. -/
structure FieldOptions where
  column : Option String
  skip : Bool
deriving DecidableEq

namespace FieldOptions

/-- No options. -/
def empty : FieldOptions where
  column := none
  skip := false

/-- Options and the options given after them. -/
def merge (earlier later : FieldOptions) : FieldOptions where
  column := later.column.or earlier.column
  skip := earlier.skip || later.skip

/-- Options with the field left out. -/
def skipped (options : FieldOptions) : FieldOptions :=
  options.merge ⟨none, true⟩

/-- Options with a column stated. -/
def stating (options : FieldOptions) (column : String) : FieldOptions :=
  options.merge ⟨some column, false⟩

mutual

/-- Read options up to the end of the tokens, adding them to those read before. -/
def read (options : FieldOptions) : List Token → Except DeclarationError FieldOptions
  | [] => .ok options
  | .word name :: rest =>
      if name ∈ declarationKeywords then
        .error (.reservedWord name)
      else if name = "skip" then
        readSeparator options.skipped rest
      else if name = "column" then
        match rest with
        | .punctuation '=' :: .string column :: rest =>
            if column = "" then
              .error .emptyColumn
            else
              readSeparator (options.stating column) rest
        | [.punctuation '='] => .error .missingString
        | .punctuation '=' :: _ => .error .expectedString
        | _ => .error .expectedEquals
      else
        .error (.unknownOption name)
  | _ :: _ => .error .expectedWord

/-- Read what follows an option: the end of the tokens, or a comma and further options. -/
def readSeparator (options : FieldOptions) :
    List Token → Except DeclarationError FieldOptions
  | [] => .ok options
  | .punctuation ',' :: rest => read options rest
  | _ :: _ => .error .expectedComma

end

/-- The path of the attribute that holds options. -/
def attributePath : String := "spanner"

/-- The options of an attribute. -/
def ofAttribute (given : Attribute) : Except DeclarationError FieldOptions :=
  match given.arguments with
  | .bracketed tokens => read empty tokens
  | .absent => .error .missingArguments
  | .assigned => .error .missingBrackets

/--
Options and those of a further attribute.  Attributes with another path have
none; layout does not belong to a path.
-/
def addAttribute (options : FieldOptions) (given : Attribute) :
    Except DeclarationError FieldOptions :=
  if Lexeme.nameOf given.path = attributePath then
    (ofAttribute given).map options.merge
  else
    .ok options

/-- The options of all attributes of a field. -/
def ofAttributes (attributes : List Attribute) : Except DeclarationError FieldOptions :=
  attributes.foldlM addAttribute empty

end FieldOptions

end SqlBuilder
