import SqlBuilder.Operator

/-!
# Errors

A builder fails for a cause: a value that has no SQL form, a row that does not
fit its columns, a statement that lacks a part.  On the way out a cause may be
given the positions at which it arose: the indices of array elements and of
rows, outermost first.
-/

namespace SqlBuilder

/-- The parts that a statement cannot do without, and rules that a caller adds. -/
inductive Violation where
  | selectWithoutColumns
  | insertWithoutColumns
  | insertWithoutValues
  | insertWithoutRows
  | updateWithoutAssignments
  | updateWithoutCondition
  | deleteWithoutCondition
  | custom (reason : String)
deriving DecidableEq

/-- What a violated rule asks for. -/
def Violation.message : Violation → String
  | .selectWithoutColumns => "SELECT requires at least one column"
  | .insertWithoutColumns => "INSERT requires at least one column"
  | .insertWithoutValues => "INSERT requires VALUES"
  | .insertWithoutRows => "INSERT requires at least one row"
  | .updateWithoutAssignments => "UPDATE requires at least one SET item"
  | .updateWithoutCondition => "UPDATE requires a WHERE condition"
  | .deleteWithoutCondition => "DELETE requires a WHERE condition"
  | .custom reason => reason

/-- Why a value, a condition, a row or a statement could not be turned into SQL. -/
inductive Error where
  | unsupportedType (subject : String)
  | unsupportedRowShape (subject : String)
  | columnNotFound (source column : String)
  | emptyIdentifier
  | emptyConditionList (connective : Connective)
  | invalid (violation : Violation)
  | integerOutOfRange (digits : String)
  | atIndex (index : Nat) (cause : Error)
  | inRow (index : Nat) (cause : Error)
deriving DecidableEq

namespace Error

/-- The wording of an error, with its positions in front. -/
def message : Error → String
  | .unsupportedType subject => "can't convert " ++ subject ++ " into SQL expr"
  | .unsupportedRowShape subject => "can't convert " ++ subject ++ " into SQL row"
  | .columnNotFound source column => "column '" ++ column ++ "' not found in " ++ source
  | .emptyIdentifier => "identifier must have at least one name"
  | .emptyConditionList connective =>
      connective.sql ++ " requires at least one condition"
  | .invalid violation => "validation error: " ++ violation.message
  | .integerOutOfRange digits => "integer " ++ digits ++ " out of INT64 range"
  | .atIndex index cause => "at index " ++ index.repr ++ ": " ++ cause.message
  | .inRow index cause => "row " ++ index.repr ++ ": " ++ cause.message

/-- An error without its positions. -/
def rootCause : Error → Error
  | .atIndex _ cause => cause.rootCause
  | .inRow _ cause => cause.rootCause
  | cause => cause

@[simp]
theorem rootCause_atIndex (index : Nat) (cause : Error) :
    (atIndex index cause).rootCause = cause.rootCause := rfl

@[simp]
theorem rootCause_inRow (index : Nat) (cause : Error) :
    (inRow index cause).rootCause = cause.rootCause := rfl

/-- Whether an error is a violated rule about statements, with no position in front of it. -/
def isViolation : Error → Bool
  | .invalid _ => true
  | _ => false

/-- Whether the root of an error is a value without a SQL form. -/
def isUnsupportedType (error : Error) : Bool :=
  match error.rootCause with
  | .unsupportedType _ => true
  | _ => false

/-- Whether the root of an error is a column that nothing binds to. -/
def isColumnNotFound (error : Error) : Bool :=
  match error.rootCause with
  | .columnNotFound _ _ => true
  | _ => false

end Error

end SqlBuilder
