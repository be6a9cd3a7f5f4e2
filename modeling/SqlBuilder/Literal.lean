import SqlBuilder.Calendar.Timestamp
import SqlBuilder.Expr.Basic
import SqlBuilder.Numeric.FloatText
import SqlBuilder.Outcome

/-!
# Literals

The expressions that plain values are written as.  INT64 holds the integers of
64 bits with a sign, so an unsigned integer beyond them has no literal.  A UUID
is written as a STRING.
-/

namespace SqlBuilder

/-- A universally unique identifier, as its 128 bits. -/
structure Uuid where
  bits : BitVec 128
deriving DecidableEq

/-- The lengths of the groups of digits in the text of a UUID. -/
def Uuid.groupLengths : List Nat := [8, 4, 4, 4, 12]

/-- Text cut into pieces of the given lengths. -/
def Text.pieces : List Nat → Text → List Text
  | [], _ => []
  | length :: rest, text => text.take length :: pieces rest (text.drop length)

/-- The 32 digits of a UUID in groups, with hyphens between them. -/
def Uuid.text (uuid : Uuid) : Text :=
  List.intercalate ['-']
    (Text.pieces Uuid.groupLengths (Text.hexadecimal 32 uuid.bits.toNat))

namespace Expr

/-- An INT64 literal. -/
def ofInt64 (value : Int64) : Expr :=
  .integer value.toInt.repr

/-- An INT64 literal for an unsigned integer, which has to be below two to the power of 63. -/
def ofUInt64 (value : UInt64) : Outcome Expr :=
  if value.toNat < 2 ^ (63 : Nat) then
    .ok (.integer value.toNat.repr)
  else
    .error (.integerOutOfRange value.toNat.repr)

/-- A FLOAT64 literal, with the digits that identify the value in its own format. -/
def ofFloat {format : BinaryFormat} (value : BinaryFloat format) : Expr :=
  .float (String.ofList value.text)

/-- A TIMESTAMP literal. -/
def ofTimestamp (timestamp : Timestamp) : Expr :=
  .timestamp (String.ofList timestamp.text)

/-- A DATE literal. -/
def ofDate (date : Date) : Expr :=
  .date (String.ofList date.text)

/-- A STRING literal that holds the text of a UUID. -/
def ofUuid (uuid : Uuid) : Expr :=
  .string (String.ofList uuid.text)

end Expr

end SqlBuilder
