import SqlBuilder.Numeric.Binary

/-!
# Shortest decimals

The reals that round to a floating-point value form an interval around it: it
reaches half-way to either neighbour, and its ends belong to it exactly when the
significand is even.  A decimal in the interval reads back as the value.

Among the decimals that read back, the shortest has the fewest digits; of two
equally short ones it is the one nearer to the value, and the greater one when
both are equally near.  They are found by looking at the two neighbours of the
value on the grid of one digit, then of two digits, and so on.
-/

namespace SqlBuilder

/-- The decimal number `digits * 10 ^ exponent`. -/
structure Decimal where
  digits : Nat
  exponent : Int
deriving DecidableEq

/-- The positive real `significand * 2 ^ exponent`, with the spacing of its neighbours. -/
structure Magnitude where
  significand : Nat
  exponent : Int
  /-- The neighbour below is half as far away as the neighbour above. -/
  narrowBelow : Bool
deriving DecidableEq

/-- The magnitude of a finite value. -/
def BinaryFloat.magnitude {format : BinaryFormat} (value : BinaryFloat format) : Magnitude where
  significand := value.significand
  exponent := value.exponent
  narrowBelow := decide (value.fraction = 0 ∧ 1 < value.field)

namespace Decimal

/-- The left side of a comparison of a decimal with `count * 2 ^ scale`, in whole numbers. -/
def scaledDigits (decimal : Decimal) (scale : Int) : Nat :=
  decimal.digits * 10 ^ decimal.exponent.toNat * 2 ^ (-scale).toNat

/-- The right side of a comparison of a decimal with `count * 2 ^ scale`, in whole numbers. -/
def scaledCount (decimal : Decimal) (count : Nat) (scale : Int) : Nat :=
  count * 2 ^ scale.toNat * 10 ^ (-decimal.exponent).toNat

/-- A decimal below `count * 2 ^ scale`. -/
def Below (decimal : Decimal) (count : Nat) (scale : Int) : Prop :=
  decimal.scaledDigits scale < decimal.scaledCount count scale

/-- A decimal above `count * 2 ^ scale`. -/
def Above (decimal : Decimal) (count : Nat) (scale : Int) : Prop :=
  decimal.scaledCount count scale < decimal.scaledDigits scale

instance (decimal : Decimal) (count : Nat) (scale : Int) :
    Decidable (decimal.Below count scale) :=
  inferInstanceAs (Decidable (_ < _))

instance (decimal : Decimal) (count : Nat) (scale : Int) :
    Decidable (decimal.Above count scale) :=
  inferInstanceAs (Decidable (_ < _))

end Decimal

namespace Magnitude

/-- The lower end of the rounding interval, in quarters of the significand's unit. -/
def lowerQuarters (value : Magnitude) : Nat :=
  if value.narrowBelow then 4 * value.significand - 1 else 4 * value.significand - 2

/-- The upper end of the rounding interval, in quarters of the significand's unit. -/
def upperQuarters (value : Magnitude) : Nat :=
  4 * value.significand + 2

/-- A decimal reads back as a value when it lies in the value's rounding interval. -/
def ReadsBack (value : Magnitude) (decimal : Decimal) : Prop :=
  if value.significand % 2 = 0 then
    ¬ decimal.Below value.lowerQuarters (value.exponent - 2) ∧
      ¬ decimal.Above value.upperQuarters (value.exponent - 2)
  else
    decimal.Above value.lowerQuarters (value.exponent - 2) ∧
      decimal.Below value.upperQuarters (value.exponent - 2)

instance (value : Magnitude) (decimal : Decimal) : Decidable (value.ReadsBack decimal) := by
  unfold ReadsBack
  infer_instance

/-- The number of decimal digits of a natural number. -/
def digitCount (number : Nat) : Nat :=
  (Nat.toDigits 10 number).length

/-- The least power of ten above the value, as its exponent. -/
def leadingPower (value : Magnitude) : Int :=
  let shift := (-value.exponent).toNat
  let whole := value.significand * 2 ^ value.exponent.toNat / 2 ^ shift
  if whole = 0 then
    1 - (digitCount ((2 ^ shift - 1) / value.significand) : Int)
  else
    digitCount whole

/-- The value divided by `10 ^ grid`, as a numerator and a denominator. -/
def onGrid (value : Magnitude) (grid : Int) : Nat × Nat :=
  (value.significand * 2 ^ value.exponent.toNat * 10 ^ (-grid).toNat,
    2 ^ (-value.exponent).toNat * 10 ^ grid.toNat)

/--
The neighbour of the value on the grid of multiples of `10 ^ grid` that reads
back.  Of two such neighbours it is the nearer one, and the upper one when they
are equally near.
-/
def neighbour? (value : Magnitude) (grid : Int) : Option Decimal :=
  let (numerator, denominator) := value.onGrid grid
  let lower : Decimal := ⟨numerator / denominator, grid⟩
  let upper : Decimal := ⟨numerator / denominator + 1, grid⟩
  if value.ReadsBack lower then
    if value.ReadsBack upper ∧ (2 * lower.digits + 1) * denominator ≤ 2 * numerator then
      some upper
    else
      some lower
  else if value.ReadsBack upper then
    some upper
  else
    none

/-- The value itself, as a decimal of as many digits as it takes. -/
def exactDecimal (value : Magnitude) : Decimal :=
  let shift := (-value.exponent).toNat
  ⟨value.significand * 2 ^ value.exponent.toNat * 5 ^ shift, -(shift : Int)⟩

/-- The greatest number of digits that is tried before the exact value is taken. -/
def digitLimit : Nat := 17

/-- The shortest decimal that reads back as the value. -/
def shortest (value : Magnitude) : Decimal :=
  let found :=
    (List.range digitLimit).findSome? fun extra =>
      value.neighbour? (value.leadingPower - (extra + 1 : Nat))
  found.getD value.exactDecimal

end Magnitude

end SqlBuilder
