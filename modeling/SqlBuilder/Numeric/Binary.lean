/-!
# Binary floating point

A floating-point value is held as the bits that store it, so every value has
one representation and its parts are plain natural numbers.  A format has a sign
bit, a biased exponent and a fraction.  A finite value is a significand times a
power of two; the least exponent belongs to the subnormal values as well.
-/

namespace SqlBuilder

-- Powers mean the same whichever other libraries are imported.
scoped instance (priority := 2000) naturalPower : Pow Nat Nat := instPowNat

/-- The sizes of the two fields that follow the sign bit of a format. -/
structure BinaryFormat where
  exponentBits : Nat
  fractionBits : Nat
deriving DecidableEq

namespace BinaryFormat

/-- The 32-bit format. -/
def single : BinaryFormat := ⟨8, 23⟩

/-- The 64-bit format. -/
def double : BinaryFormat := ⟨11, 52⟩

/-- The number of bits of a value. -/
def width (format : BinaryFormat) : Nat :=
  format.exponentBits + format.fractionBits + 1

/-- The exponent field of the values from one to two. -/
def bias (format : BinaryFormat) : Nat :=
  2 ^ (format.exponentBits - 1) - 1

/-- The exponent field that marks what is not a finite number. -/
def specialField (format : BinaryFormat) : Nat :=
  2 ^ format.exponentBits - 1

/-- The exponent of the least positive value, and of all subnormal values. -/
def leastExponent (format : BinaryFormat) : Int :=
  1 - (format.bias : Int) - (format.fractionBits : Int)

end BinaryFormat

/-- A floating-point value of a format, as its bits. -/
structure BinaryFloat (format : BinaryFormat) where
  bits : BitVec format.width

/-- A 32-bit floating-point value. -/
abbrev Single := BinaryFloat .single

/-- A 64-bit floating-point value. -/
abbrev Double := BinaryFloat .double

namespace BinaryFloat

variable {format : BinaryFormat}

/-- The value put together from its sign, exponent field and fraction. -/
def ofFields
    (format : BinaryFormat) (negative : Bool) (field fraction : Nat) :
    BinaryFloat format :=
  let sign := if negative then 2 ^ (format.exponentBits + format.fractionBits) else 0
  ⟨BitVec.ofNat format.width (sign + field * 2 ^ format.fractionBits + fraction)⟩

/-- Whether the sign bit is set. -/
def negative (value : BinaryFloat format) : Bool :=
  decide (2 ^ (format.exponentBits + format.fractionBits) ≤ value.bits.toNat)

/-- The exponent field. -/
def field (value : BinaryFloat format) : Nat :=
  value.bits.toNat / 2 ^ format.fractionBits % 2 ^ format.exponentBits

/-- The fraction field. -/
def fraction (value : BinaryFloat format) : Nat :=
  value.bits.toNat % 2 ^ format.fractionBits

/-- A finite value has an exponent field other than the special one. -/
def IsFinite (value : BinaryFloat format) : Prop :=
  value.field ≠ format.specialField

instance (value : BinaryFloat format) : Decidable value.IsFinite :=
  inferInstanceAs (Decidable (_ ≠ _))

/-- A value that is not a number has the special exponent field and some fraction. -/
def IsNaN (value : BinaryFloat format) : Prop :=
  value.field = format.specialField ∧ value.fraction ≠ 0

instance (value : BinaryFloat format) : Decidable value.IsNaN :=
  inferInstanceAs (Decidable (_ ∧ _))

/-- The significand of a finite value: normal values have a leading one above the fraction. -/
def significand (value : BinaryFloat format) : Nat :=
  if value.field = 0 then value.fraction else 2 ^ format.fractionBits + value.fraction

/-- The exponent of a finite value's significand. -/
def exponent (value : BinaryFloat format) : Int :=
  format.leastExponent + (value.field - 1 : Nat)

/--
The value with a given sign, significand and exponent, for a positive
significand that fits the fraction of the format and an exponent within its
normal range.
-/
def ofScaled
    (format : BinaryFormat) (negative : Bool) (significand : Nat) (exponent : Int) :
    BinaryFloat format :=
  let shift := format.fractionBits - significand.log2
  let field := exponent - shift - format.leastExponent + 1
  ofFields format negative field.toNat
    (significand * 2 ^ shift - 2 ^ format.fractionBits)

/-- Positive zero. -/
instance : Inhabited (BinaryFloat format) :=
  ⟨⟨0⟩⟩

/--
Equality of numbers: a value that is not a number equals nothing, and the two
zeros are equal.
-/
instance : BEq (BinaryFloat format) where
  beq left right :=
    !decide left.IsNaN && !decide right.IsNaN &&
      (left.bits == right.bits ||
        (left.field == 0 && left.fraction == 0 && right.field == 0 && right.fraction == 0))

end BinaryFloat

/-- The 64-bit value of a finite 32-bit value; nothing is rounded. -/
def Single.widen (value : Single) : Double :=
  if value.significand = 0 then
    BinaryFloat.ofFields .double value.negative 0 0
  else
    BinaryFloat.ofScaled .double value.negative value.significand value.exponent

end SqlBuilder
