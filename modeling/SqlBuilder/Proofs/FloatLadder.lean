import Mathlib.Algebra.Order.Field.Basic
import Mathlib.Data.Rat.Cast.Order
import Mathlib.Order.Monotone.Basic
import Mathlib.Tactic.FieldSimp
import Mathlib.Tactic.Linarith
import Mathlib.Tactic.NormNum
import Mathlib.Tactic.Ring
import SqlBuilder.Numeric.FloatText
import SqlBuilder.Proofs.ScientificText

/-!
# The ladder of floating-point values

The values of a format that are not negative form a ladder: each has a rank, and the
distance from one rung to the next depends on the exponent field alone.  A number
rounds to the value on a rung when it lies between the middle of the step below and
the middle of the step above.  It may lie on a middle only where the rank is even.

The whole numbers by which a shortest decimal is found compare it with these two
middles, so the decimal that a value is written as rounds to the value's rung.
-/

namespace SqlBuilder

namespace BinaryFormat

variable (format : BinaryFormat)

/-! ## The ladder of values -/

/-- The distance from a value with an exponent field to the next greater one. -/
def spacing (field : Nat) : ℚ :=
  2 ^ (format.leastExponent + (field - 1 : Nat))

/-- The value of a rank.  Ranks count the values that are not negative, from zero on. -/
def rung (rank : Nat) : ℚ :=
  let field := rank / 2 ^ format.fractionBits
  let fraction := rank % 2 ^ format.fractionBits
  (if field = 0 then fraction else 2 ^ format.fractionBits + fraction : Nat) *
    format.spacing field

theorem spacing_pos (field : Nat) : 0 < format.spacing field :=
  zpow_pos (by norm_num) _

/-- The values of the least normal exponent are as close as the subnormal ones. -/
theorem spacing_one : format.spacing 1 = format.spacing 0 := rfl

theorem spacing_succ {field : Nat} (normal : 0 < field) :
    format.spacing (field + 1) = 2 * format.spacing field := by
  have exponent : format.leastExponent + ((field + 1 - 1 : Nat) : Int) =
      1 + (format.leastExponent + ((field - 1 : Nat) : Int)) := by omega
  rw [spacing, exponent, zpow_add₀ (by norm_num), zpow_one, spacing]

theorem two_pow_fractionBits_mod_two (wide : 0 < format.fractionBits) :
    2 ^ format.fractionBits % 2 = 0 := by
  obtain ⟨bits, width⟩ := Nat.exists_eq_add_one_of_ne_zero wide.ne'
  rw [width, pow_succ, Nat.mul_mod_left]

/-- The value of an exponent field and a fraction. -/
theorem rung_fields {field fraction : Nat} (fits : fraction < 2 ^ format.fractionBits) :
    format.rung (field * 2 ^ format.fractionBits + fraction) =
      (if field = 0 then fraction else 2 ^ format.fractionBits + fraction : Nat) *
        format.spacing field := by
  have quotient : (field * 2 ^ format.fractionBits + fraction) / 2 ^ format.fractionBits =
      field := by
    rw [Nat.mul_comm, Nat.mul_add_div (Nat.two_pow_pos _), Nat.div_eq_of_lt fits, Nat.add_zero]
  have remainder : (field * 2 ^ format.fractionBits + fraction) % 2 ^ format.fractionBits =
      fraction := by
    rw [Nat.mul_add_mod', Nat.mod_eq_of_lt fits]
  simp only [rung, quotient, remainder]

@[simp]
theorem rung_zero : format.rung 0 = 0 := by
  simp [rung]

/-- The next value is one spacing away. -/
theorem rung_succ {field fraction : Nat} (fits : fraction < 2 ^ format.fractionBits) :
    format.rung (field * 2 ^ format.fractionBits + fraction + 1) =
      format.rung (field * 2 ^ format.fractionBits + fraction) + format.spacing field := by
  rw [rung_fields _ fits]
  by_cases last : fraction + 1 = 2 ^ format.fractionBits
  · have carried : field * 2 ^ format.fractionBits + fraction + 1 =
        (field + 1) * 2 ^ format.fractionBits + 0 := by
      rw [Nat.add_assoc, last]
      ring
    have width : (2 : ℚ) ^ format.fractionBits = fraction + 1 := by
      exact_mod_cast last.symm
    rw [carried, rung_fields _ (Nat.two_pow_pos _), if_neg (Nat.succ_ne_zero field)]
    rcases Nat.eq_zero_or_pos field with rfl | normal
    · rw [if_pos rfl, spacing_one]
      push_cast [width]
      ring
    · rw [if_neg normal.ne', spacing_succ _ normal]
      push_cast [width]
      ring
  · have next : fraction + 1 < 2 ^ format.fractionBits := Nat.lt_of_le_of_ne fits last
    rw [Nat.add_assoc, rung_fields _ next]
    split <;> push_cast <;> ring

theorem rung_strictMono : StrictMono format.rung :=
  strictMono_nat_of_lt_succ fun rank => by
    have fits : rank % 2 ^ format.fractionBits < 2 ^ format.fractionBits :=
      Nat.mod_lt _ (Nat.two_pow_pos _)
    rw [← Nat.div_add_mod' rank (2 ^ format.fractionBits), rung_succ _ fits]
    exact lt_add_of_pos_right _ (format.spacing_pos _)

theorem rung_nonneg (rank : Nat) : 0 ≤ format.rung rank := by
  rw [← format.rung_zero]
  exact format.rung_strictMono.monotone (Nat.zero_le rank)

/-! ## Numbers around a rung -/

/--
A number from the middle of the step below a rung to the middle of the step above it.  An
odd rank leaves both middles to its neighbours.
-/
structure IsAround (rank : Nat) (number : ℚ) : Prop where
  below : ∀ lower, lower + 1 = rank →
    format.rung lower + format.rung rank ≤ 2 * number ∧
      (rank % 2 = 1 → format.rung lower + format.rung rank < 2 * number)
  above : 2 * number ≤ format.rung rank + format.rung (rank + 1) ∧
    (rank % 2 = 1 → 2 * number < format.rung rank + format.rung (rank + 1))

end BinaryFormat

section Middle

variable {lower upper : ℚ} (number : ℚ) (ordered : lower < upper)

include ordered

/-- Of two points the upper one is nearer to what lies above their middle. -/
theorem abs_sub_upper_lt_iff :
    |number - upper| < |number - lower| ↔ lower + upper < 2 * number := by
  have squares : (number - lower) ^ 2 - (number - upper) ^ 2 =
      (upper - lower) * (2 * number - (lower + upper)) := by ring
  rw [← sq_lt_sq, ← sub_pos, squares, mul_pos_iff_of_pos_left (sub_pos.mpr ordered), sub_pos]

/-- Of two points the lower one is nearer to what lies below their middle. -/
theorem abs_sub_lower_lt_iff :
    |number - lower| < |number - upper| ↔ 2 * number < lower + upper := by
  have squares : (number - upper) ^ 2 - (number - lower) ^ 2 =
      (upper - lower) * (lower + upper - 2 * number) := by ring
  rw [← sq_lt_sq, ← sub_pos, squares, mul_pos_iff_of_pos_left (sub_pos.mpr ordered), sub_pos]

end Middle

namespace BinaryFormat.IsAround

variable {format : BinaryFormat} {rank other : Nat} {number : ℚ}

theorem add_lower_le (around : format.IsAround rank number) (lower : other < rank) :
    format.rung other + format.rung rank ≤ 2 * number := by
  obtain ⟨before, rfl⟩ := Nat.exists_eq_add_one_of_ne_zero (Nat.ne_zero_of_lt lower)
  have reach := format.rung_strictMono.monotone (Nat.le_of_lt_succ lower)
  linarith [(around.below before rfl).1]

theorem le_add_upper (around : format.IsAround rank number) (upper : rank < other) :
    2 * number ≤ format.rung rank + format.rung other := by
  have reach := format.rung_strictMono.monotone (Nat.succ_le_of_lt upper)
  linarith [around.above.1]

theorem add_lower_lt (around : format.IsAround rank number) (lower : other < rank)
    (parity : rank % 2 = 0 → other % 2 = 0) :
    format.rung other + format.rung rank < 2 * number := by
  have mono := format.rung_strictMono
  obtain ⟨before, rfl⟩ := Nat.exists_eq_add_one_of_ne_zero (Nat.ne_zero_of_lt lower)
  obtain ⟨middle, middleOdd⟩ := around.below before rfl
  by_cases odd : (before + 1) % 2 = 1
  · have reach := mono.monotone (Nat.le_of_lt_succ lower)
    linarith [middleOdd odd]
  · have even := parity (Nat.mod_two_ne_one.mp odd)
    have reach : format.rung other < format.rung before := mono (by omega)
    linarith

theorem lt_add_upper (around : format.IsAround rank number) (upper : rank < other)
    (parity : rank % 2 = 0 → other % 2 = 0) :
    2 * number < format.rung rank + format.rung other := by
  have mono := format.rung_strictMono
  obtain ⟨middle, middleOdd⟩ := around.above
  by_cases odd : rank % 2 = 1
  · have reach := mono.monotone (Nat.succ_le_of_lt upper)
    linarith [middleOdd odd]
  · have even := parity (Nat.mod_two_ne_one.mp odd)
    have reach : format.rung (rank + 1) < format.rung other := mono (by omega)
    linarith

/-- No rung is nearer. -/
theorem distance_le (around : format.IsAround rank number) (other : Nat) :
    |number - format.rung rank| ≤ |number - format.rung other| := by
  have mono := format.rung_strictMono
  rcases Nat.lt_trichotomy other rank with lower | rfl | upper
  · rw [← not_lt, abs_sub_lower_lt_iff _ (mono lower), not_lt]
    exact around.add_lower_le lower
  · exact le_refl _
  · rw [← not_lt, abs_sub_upper_lt_iff _ (mono upper), not_lt]
    exact around.le_add_upper upper

/--
Only a neighbour can be as near, and only where the rank is even: no other rung is as near
if the rank is odd, or if both ranks are even.
-/
theorem distance_lt (around : format.IsAround rank number) (differs : other ≠ rank)
    (parity : rank % 2 = 0 → other % 2 = 0) :
    |number - format.rung rank| < |number - format.rung other| := by
  have mono := format.rung_strictMono
  rcases Nat.lt_or_gt_of_ne differs with lower | upper
  · rw [abs_sub_upper_lt_iff _ (mono lower)]
    exact around.add_lower_lt lower parity
  · rw [abs_sub_lower_lt_iff _ (mono upper)]
    exact around.lt_add_upper upper parity

end BinaryFormat.IsAround

namespace BinaryFloat

variable {format : BinaryFormat} (value : BinaryFloat format)

/-! ## Values and ranks -/

/-- The rank of a value without its sign. -/
def rank : Nat :=
  value.field * 2 ^ format.fractionBits + value.fraction

/-- A finite value without its sign, exactly. -/
def size : ℚ :=
  value.significand * 2 ^ value.exponent

theorem size_eq : value.size = value.significand * format.spacing value.field := rfl

theorem fraction_lt : value.fraction < 2 ^ format.fractionBits :=
  Nat.mod_lt _ (Nat.two_pow_pos _)

theorem rung_rank : format.rung value.rank = value.size :=
  format.rung_fields value.fraction_lt

theorem size_nonneg : 0 ≤ value.size :=
  value.rung_rank ▸ format.rung_nonneg value.rank

theorem significand_mod_two (wide : 0 < format.fractionBits) :
    value.significand % 2 = value.rank % 2 := by
  have even := format.two_pow_fractionBits_mod_two wide
  rw [rank, Nat.add_mod, Nat.mul_mod, even, significand]
  split
  · simp
  · rw [Nat.add_mod, even]
    simp

/-- The bits of a value are its sign bit and its rank. -/
theorem toNat_bits :
    value.bits.toNat =
      (if value.negative then 2 ^ (format.exponentBits + format.fractionBits) else 0) +
        value.rank := by
  have low : value.rank = value.bits.toNat % 2 ^ (format.exponentBits + format.fractionBits) := by
    rw [Nat.add_comm format.exponentBits, pow_add, Nat.mod_mul, rank, field, fraction,
      Nat.mul_comm, Nat.add_comm]
  have bound : value.bits.toNat < 2 ^ (format.exponentBits + format.fractionBits) * 2 := by
    rw [← pow_succ]
    exact value.bits.isLt
  rw [low, negative]
  by_cases sign : 2 ^ (format.exponentBits + format.fractionBits) ≤ value.bits.toNat
  · rw [decide_eq_true sign, if_pos rfl, Nat.mod_eq_sub_mod sign, Nat.mod_eq_of_lt (by omega)]
    omega
  · rw [decide_eq_false sign, if_neg Bool.false_ne_true, Nat.mod_eq_of_lt (by omega), Nat.zero_add]

/-- A value is its sign and its rank. -/
theorem eq_of_rank_eq {left right : BinaryFloat format} (sign : left.negative = right.negative)
    (rank : left.rank = right.rank) : left = right := by
  have bits : left.bits.toNat = right.bits.toNat := by
    rw [toNat_bits, toNat_bits, sign, rank]
  cases left
  cases right
  exact congrArg BinaryFloat.mk (BitVec.eq_of_toNat_eq bits)

/-- Of the finite values, the ranks end below the special exponent field. -/
theorem IsFinite.rank_lt {value : BinaryFloat format} (finite : value.IsFinite) :
    value.rank < format.specialField * 2 ^ format.fractionBits := by
  have bound : value.field < 2 ^ format.exponentBits := Nat.mod_lt _ (Nat.two_pow_pos _)
  have ordinary : value.field + 1 ≤ format.specialField := by
    rw [IsFinite] at finite
    rw [BinaryFormat.specialField] at finite ⊢
    omega
  calc value.rank
      < (value.field + 1) * 2 ^ format.fractionBits := by
        rw [rank, Nat.succ_mul]
        exact Nat.add_lt_add_left value.fraction_lt _
    _ ≤ format.specialField * 2 ^ format.fractionBits := Nat.mul_le_mul_right _ ordinary

end BinaryFloat

/-! ## Decimals compared in whole numbers -/

theorem zpow_eq_div {base : ℚ} (nonzero : base ≠ 0) (exponent : Int) :
    base ^ exponent = base ^ exponent.toNat / base ^ (-exponent).toNat := by
  have split : exponent = (exponent.toNat : Int) - ((-exponent).toNat : Int) := by omega
  rw [← zpow_natCast, ← zpow_natCast, ← zpow_sub₀ nonzero, ← split]

namespace Decimal

variable (decimal : Decimal) (count : Nat) (scale : Int)

theorem cast_scaledDigits :
    (decimal.scaledDigits scale : ℚ) =
      decimal.toRat * (10 ^ (-decimal.exponent).toNat * 2 ^ (-scale).toNat) := by
  rw [scaledDigits, toRat, zpow_eq_div (by norm_num) decimal.exponent]
  push_cast
  field_simp

theorem cast_scaledCount :
    (decimal.scaledCount count scale : ℚ) =
      count * 2 ^ scale * (10 ^ (-decimal.exponent).toNat * 2 ^ (-scale).toNat) := by
  rw [scaledCount, zpow_eq_div (by norm_num) scale]
  push_cast
  field_simp

theorem below_iff : decimal.Below count scale ↔ decimal.toRat < count * 2 ^ scale := by
  have cast : decimal.Below count scale ↔
      (decimal.scaledDigits scale : ℚ) < decimal.scaledCount count scale := Nat.cast_lt.symm
  rw [cast, cast_scaledDigits, cast_scaledCount]
  exact mul_lt_mul_iff_left₀ (by positivity)

theorem above_iff : decimal.Above count scale ↔ count * 2 ^ scale < decimal.toRat := by
  have cast : decimal.Above count scale ↔
      (decimal.scaledCount count scale : ℚ) < decimal.scaledDigits scale := Nat.cast_lt.symm
  rw [cast, cast_scaledDigits, cast_scaledCount]
  exact mul_lt_mul_iff_left₀ (by positivity)

theorem toRat_nonneg : 0 ≤ decimal.toRat :=
  mul_nonneg (Nat.cast_nonneg _) (zpow_nonneg (by norm_num) _)

end Decimal

namespace BinaryFloat

variable {format : BinaryFormat} (value : BinaryFloat format)

/-! ## The ends of the rounding interval -/

/-- The distance to the next smaller value. -/
def gapBelow : ℚ :=
  if value.fraction = 0 ∧ 1 < value.field then
    format.spacing value.field / 2
  else
    format.spacing value.field

theorem rung_add_gapBelow {lower : Nat} (next : lower + 1 = value.rank) :
    format.rung lower + value.gapBelow = value.size := by
  rw [← rung_rank, ← next]
  have fits := value.fraction_lt
  rw [rank] at next
  by_cases fraction : value.fraction = 0
  · -- The value opens a row of fractions, so the smaller one is the last of the row before.
    rw [fraction, Nat.add_zero] at next
    obtain ⟨row, opened⟩ : ∃ row, value.field = row + 1 := by
      refine Nat.exists_eq_add_one_of_ne_zero fun subnormal => ?_
      rw [subnormal, Nat.zero_mul] at next
      exact Nat.succ_ne_zero lower next
    have last : lower = row * 2 ^ format.fractionBits + (2 ^ format.fractionBits - 1) := by
      rw [opened, Nat.succ_mul] at next
      omega
    rw [last, format.rung_succ (by omega), gapBelow, opened]
    rcases Nat.eq_zero_or_pos row with rfl | normal
    · rw [if_neg (by omega), format.spacing_one]
    · rw [if_pos ⟨fraction, by omega⟩, format.spacing_succ normal,
        mul_div_cancel_left₀ _ (two_ne_zero' ℚ)]
  · have same : lower = value.field * 2 ^ format.fractionBits + (value.fraction - 1) := by omega
    rw [same, format.rung_succ (by omega), gapBelow, if_neg fun narrow => fraction narrow.1]

theorem two_zpow_exponent_sub (value : BinaryFloat format) :
    (2 : ℚ) ^ (value.exponent - 2) = format.spacing value.field / 4 := by
  rw [zpow_sub₀ (by norm_num), exponent, BinaryFormat.spacing]
  norm_num

theorem significand_pos (positive : 0 < value.rank) : 0 < value.significand := by
  rw [significand]
  split
  · next subnormal =>
      rwa [rank, subnormal, Nat.zero_mul, Nat.zero_add] at positive
  · exact Nat.add_pos_left (Nat.two_pow_pos _) _

theorem cast_lowerQuarters (positive : 0 < value.rank) :
    2 * (value.magnitude.lowerQuarters * 2 ^ (value.exponent - 2) : ℚ) =
      2 * value.size - value.gapBelow := by
  have significand := value.significand_pos positive
  rw [two_zpow_exponent_sub, size_eq, gapBelow]
  by_cases narrow : value.fraction = 0 ∧ 1 < value.field
  · have quarters : value.magnitude.lowerQuarters = 4 * value.significand - 1 :=
      if_pos (decide_eq_true narrow)
    rw [if_pos narrow, quarters, Nat.cast_sub (by omega)]
    push_cast
    ring
  · have quarters : value.magnitude.lowerQuarters = 4 * value.significand - 2 :=
      if_neg fun wrong => narrow (of_decide_eq_true wrong)
    rw [if_neg narrow, quarters, Nat.cast_sub (by omega)]
    push_cast
    ring

theorem cast_upperQuarters :
    2 * (value.magnitude.upperQuarters * 2 ^ (value.exponent - 2) : ℚ) =
      2 * value.size + format.spacing value.field := by
  have quarters : value.magnitude.upperQuarters = 4 * value.significand + 2 := rfl
  rw [two_zpow_exponent_sub, size_eq, quarters]
  push_cast
  ring

/-- A decimal in the rounding interval of a value lies between the middles around its rung. -/
theorem isAround_of_readsBack (wide : 0 < format.fractionBits) {decimal : Decimal}
    (reads : value.magnitude.ReadsBack decimal) :
    format.IsAround value.rank decimal.toRat := by
  have lowerEnd {lower : Nat} (next : lower + 1 = value.rank) :
      format.rung lower + format.rung value.rank =
        2 * (value.magnitude.lowerQuarters * 2 ^ (value.exponent - 2) : ℚ) := by
    rw [value.cast_lowerQuarters (next ▸ Nat.succ_pos lower), rung_rank]
    linarith [value.rung_add_gapBelow next]
  have upperEnd : format.rung value.rank + format.rung (value.rank + 1) =
      2 * (value.magnitude.upperQuarters * 2 ^ (value.exponent - 2) : ℚ) := by
    rw [value.cast_upperQuarters, rank, format.rung_succ value.fraction_lt, ← rank, rung_rank]
    ring
  have parity : value.magnitude.significand % 2 = value.rank % 2 :=
    value.significand_mod_two wide
  rw [Magnitude.ReadsBack, parity] at reads
  by_cases even : value.rank % 2 = 0
  · rw [if_pos even, Decimal.below_iff, Decimal.above_iff, not_lt, not_lt] at reads
    have noOdd : value.rank % 2 ≠ 1 := by omega
    refine ⟨fun lower next => ?_, ?_⟩
    · rw [lowerEnd next]
      exact ⟨mul_le_mul_of_nonneg_left reads.1 (by norm_num), fun odd => absurd odd noOdd⟩
    · rw [upperEnd]
      exact ⟨mul_le_mul_of_nonneg_left reads.2 (by norm_num), fun odd => absurd odd noOdd⟩
  · rw [if_neg even, Decimal.below_iff, Decimal.above_iff] at reads
    refine ⟨fun lower next => ?_, ?_⟩
    · rw [lowerEnd next]
      have inside := mul_lt_mul_of_pos_left reads.1 (two_pos : (0 : ℚ) < 2)
      exact ⟨inside.le, fun _ => inside⟩
    · rw [upperEnd]
      have inside := mul_lt_mul_of_pos_left reads.2 (two_pos : (0 : ℚ) < 2)
      exact ⟨inside.le, fun _ => inside⟩

end BinaryFloat

namespace Magnitude

variable {value : Magnitude}

theorem readsBack_of_neighbour? {grid : Int} {decimal : Decimal}
    (found : value.neighbour? grid = some decimal) : value.ReadsBack decimal := by
  simp only [neighbour?] at found
  split_ifs at found with lower upper upper <;> cases found
  · exact upper.1
  · exact lower
  · exact upper

theorem toRat_exactDecimal (value : Magnitude) :
    value.exactDecimal.toRat = value.significand * 2 ^ value.exponent := by
  have tens : (10 : ℚ) ^ (-value.exponent).toNat =
      5 ^ (-value.exponent).toNat * 2 ^ (-value.exponent).toNat := by
    rw [← mul_pow]
    norm_num
  rw [exactDecimal, Decimal.toRat, zpow_eq_div (by norm_num) value.exponent, zpow_neg,
    zpow_natCast, tens]
  push_cast
  field_simp

/-- A shortest decimal reads back, or is exact. -/
theorem shortest_cases (value : Magnitude) :
    value.ReadsBack value.shortest ∨ value.shortest = value.exactDecimal := by
  simp only [shortest]
  cases search : (List.range digitLimit).findSome? fun extra =>
      value.neighbour? (value.leadingPower - (extra + 1 : Nat)) with
  | none => exact .inr rfl
  | some decimal =>
      obtain ⟨_, _, found⟩ := List.exists_of_findSome?_eq_some search
      exact .inl (readsBack_of_neighbour? found)

end Magnitude

namespace BinaryFloat

variable {format : BinaryFormat} (value : BinaryFloat format)

theorem isAround_size : format.IsAround value.rank value.size := by
  rw [← rung_rank]
  refine ⟨fun lower next => ?_, ?_⟩
  · have step : format.rung lower < format.rung value.rank :=
      format.rung_strictMono (Nat.lt_of_succ_le next.le)
    exact ⟨by linarith, fun _ => by linarith⟩
  · have step := format.rung_strictMono (Nat.lt_succ_self value.rank)
    exact ⟨by linarith, fun _ => by linarith⟩

/-- The decimal that a value is written as rounds to the value. -/
theorem isAround_shortest (wide : 0 < format.fractionBits) :
    format.IsAround value.rank value.shortest.toRat := by
  rw [shortest]
  split
  · next zero =>
      have nothing : (⟨0, 0⟩ : Decimal).toRat = value.size := by
        rw [size, zero]
        simp [Decimal.toRat]
      rw [nothing]
      exact value.isAround_size
  · rcases value.magnitude.shortest_cases with reads | itself
    · exact value.isAround_of_readsBack wide reads
    · rw [itself, Magnitude.toRat_exactDecimal]
      exact value.isAround_size

end BinaryFloat

end SqlBuilder
