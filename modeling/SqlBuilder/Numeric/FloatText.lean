import SqlBuilder.Numeric.Shortest
import SqlBuilder.Text

/-!
# The text of floating-point values

A finite value is written in scientific notation with the fewest digits that
read back as the value: one digit before the point, the rest behind it, and an
exponent with a sign and at least two digits.  Zero keeps its sign.  The values
that are not finite have a word each.
-/

namespace SqlBuilder

/-- The sign in front of a number. -/
def signText (negative : Bool) : Text :=
  if negative then ['-'] else []

/-- A decimal exponent behind its mark, with a sign and at least two digits. -/
def exponentText (exponent : Int) : Text :=
  'e' :: (if exponent < 0 then '-' else '+') :: Text.decimal 2 exponent.natAbs

/-- A decimal in scientific notation, without the zeros at the end of its digits. -/
def Decimal.scientific (decimal : Decimal) : Text :=
  match Nat.toDigits 10 decimal.digits with
  | [] => []
  | first :: rest =>
      first :: Text.fraction rest ++
        exponentText (decimal.exponent + (rest.length : Int))

namespace BinaryFloat

variable {format : BinaryFormat}

/-- The decimal that a finite value is written as, without its sign. -/
def shortest (value : BinaryFloat format) : Decimal :=
  if value.significand = 0 then ⟨0, 0⟩ else value.magnitude.shortest

/-- The text of a value. -/
def text (value : BinaryFloat format) : Text :=
  if value.IsFinite then
    signText value.negative ++ value.shortest.scientific
  else if value.fraction ≠ 0 then
    "NaN".toList
  else if value.negative then
    "-Inf".toList
  else
    "+Inf".toList

end BinaryFloat

end SqlBuilder
