import SqlBuilder.Proofs.FloatLadder

/-!
# Floating-point values read from text

A reader of numbers rounds what a text denotes to the nearest value of a format, of two
that are equally near to the even one, and keeps the sign that is written.  Numbers
half-way beyond the greatest finite value, or more, overflow.

The text of a finite value is read as the value itself.  In particular no other finite
value has that text.
-/

namespace SqlBuilder

/-! ## Signs -/

section Sign

variable {left right negative : Bool} {first second : ℚ}

theorem withSign_injective (negative : Bool) : Function.Injective (withSign negative) := by
  cases negative with
  | true => exact neg_injective
  | false => exact fun _ _ same => same

theorem abs_withSign : |withSign negative first| = |first| := by
  cases negative with
  | true => exact abs_neg first
  | false => rfl

theorem abs_withSign_sub_withSign :
    |withSign negative first - withSign negative second| = |first - second| := by
  cases negative with
  | true => rw [withSign, withSign, if_pos rfl, if_pos rfl, neg_sub_neg, abs_sub_comm]
  | false => rfl

/-- Numbers with different signs are as far apart as both are from zero. -/
theorem abs_withSign_sub_of_ne (differ : left ≠ right) :
    |withSign left first - withSign right second| = |first + second| := by
  cases left <;> cases right
  · exact absurd rfl differ
  · exact congrArg abs (sub_neg_eq_add first second)
  · rw [← abs_neg]
    simp [withSign, add_comm]
  · exact absurd rfl differ

end Sign

/-! ## The nearest value -/

/-- Numbers from here on are half-way beyond the greatest finite value, or more. -/
def BinaryFormat.overflow (format : BinaryFormat) : ℚ :=
  let beyond := format.specialField * 2 ^ format.fractionBits
  (format.rung (beyond - 1) + format.rung beyond) / 2

namespace BinaryFloat

variable {format : BinaryFormat}

/-- A finite value, exactly. -/
def toRat (value : BinaryFloat format) : ℚ :=
  withSign value.negative value.size

/--
A finite value nearest to a number that does not overflow.  Of two different values equally
near it is the one with an even significand.
-/
structure IsNearest (value : BinaryFloat format) (number : ℚ) : Prop where
  isFinite : value.IsFinite
  inRange : |number| < format.overflow
  nearest : ∀ other : BinaryFloat format, other.IsFinite →
    |number - value.toRat| ≤ |number - other.toRat|
  even : ∀ other : BinaryFloat format, other.IsFinite → other.toRat ≠ value.toRat →
    |number - other.toRat| = |number - value.toRat| → value.significand % 2 = 0

/-- A value that a text is rounded to: it has the sign that is written, a zero too. -/
def IsReadFrom (value : BinaryFloat format) (text : Text) : Prop :=
  ∃ number, Text.scientific? text = some (value.negative, number) ∧ value.IsNearest number

variable {value : BinaryFloat format} {number : ℚ}

/-- Values with the number's own sign are as far from it as without their signs. -/
theorem abs_sub_toRat (other : BinaryFloat format) {negative : Bool}
    (sign : other.negative = negative) (number : ℚ) :
    |withSign negative number - other.toRat| = |number - format.rung other.rank| := by
  rw [toRat, sign, abs_withSign_sub_withSign, rung_rank]

/-- No value is nearer than the best of the rungs on the number's own side of zero. -/
theorem exists_rung_distance_le (nonneg : 0 ≤ number) (other : BinaryFloat format)
    (negative : Bool) :
    ∃ rank, |number - format.rung rank| ≤ |withSign negative number - other.toRat| ∧
      (rank = 0 ∨ other.toRat = withSign negative (format.rung rank)) := by
  by_cases sign : other.negative = negative
  · refine ⟨other.rank, (other.abs_sub_toRat sign number).ge, .inr ?_⟩
    rw [toRat, rung_rank, sign]
  · refine ⟨0, ?_, .inl rfl⟩
    have sizeNonneg := other.size_nonneg
    rw [toRat, abs_withSign_sub_of_ne (Ne.symm sign), format.rung_zero, sub_zero, abs_of_nonneg nonneg,
      abs_of_nonneg (add_nonneg nonneg sizeNonneg)]
    exact le_add_of_nonneg_right sizeNonneg

/-- A number around the rung of a finite value does not overflow. -/
theorem lt_overflow_of_isAround (wide : 0 < format.fractionBits) (finite : value.IsFinite)
    (around : format.IsAround value.rank number) : number < format.overflow := by
  have bound := finite.rank_lt
  have even : format.specialField * 2 ^ format.fractionBits % 2 = 0 := by
    rw [Nat.mul_mod, format.two_pow_fractionBits_mod_two wide, Nat.mul_zero, Nat.zero_mod]
  rw [BinaryFormat.overflow, lt_div_iff₀ two_pos, mul_comm]
  generalize format.specialField * 2 ^ format.fractionBits = beyond at bound even
  by_cases greatest : value.rank + 1 = beyond
  · -- The greatest rank is odd, so what lies half-way beyond it overflows.
    have odd : value.rank % 2 = 1 := by omega
    rw [← greatest]
    exact around.above.2 odd
  · have smaller : format.rung value.rank < format.rung (beyond - 1) :=
      format.rung_strictMono (by omega)
    linarith [around.le_add_upper bound]

theorem isNearest_of_isAround (wide : 0 < format.fractionBits) (finite : value.IsFinite)
    (around : format.IsAround value.rank number) (nonneg : 0 ≤ number) :
    value.IsNearest (withSign value.negative number) := by
  have distance := value.abs_sub_toRat rfl number
  refine ⟨finite, ?_, fun other _ => ?_, fun other _ differs tie => ?_⟩
  · rw [abs_withSign, abs_of_nonneg nonneg]
    exact lt_overflow_of_isAround wide finite around
  · obtain ⟨rank, nearer, -⟩ := exists_rung_distance_le nonneg other value.negative
    rw [distance]
    exact (around.distance_le rank).trans nearer
  · obtain ⟨rank, nearer, own⟩ := exists_rung_distance_le nonneg other value.negative
    rw [value.significand_mod_two wide]
    by_contra odd
    have elsewhere : rank ≠ value.rank := by
      rintro rfl
      rcases own with zero | same
      · rw [zero] at odd
        exact odd rfl
      · rw [rung_rank] at same
        exact differs same
    have closer := around.distance_lt elsewhere fun even => absurd even odd
    rw [tie, distance] at nearer
    exact absurd nearer (not_le.mpr closer)

/-- A number around the rung of a finite value has no other nearest value of that sign. -/
theorem IsNearest.eq_of_isAround {other : BinaryFloat format}
    (nearest : other.IsNearest (withSign value.negative number))
    (sign : other.negative = value.negative) (wide : 0 < format.fractionBits)
    (finite : value.IsFinite) (around : format.IsAround value.rank number) :
    other = value := by
  have distance := value.abs_sub_toRat rfl number
  have otherDistance := other.abs_sub_toRat sign number
  refine eq_of_rank_eq sign ?_
  by_contra differs
  have apart : value.toRat ≠ other.toRat := by
    rw [toRat, toRat, sign, ← rung_rank, ← rung_rank]
    exact fun same => differs (format.rung_strictMono.injective (withSign_injective _ same)).symm
  have notFarther := nearest.nearest value finite
  have notNearer := around.distance_le other.rank
  rw [otherDistance, distance] at notFarther
  have even : other.significand % 2 = 0 := by
    refine nearest.even value finite apart ?_
    rw [otherDistance, distance]
    exact le_antisymm notNearer notFarther
  rw [other.significand_mod_two wide] at even
  exact absurd notFarther (not_le.mpr (around.distance_lt differs fun _ => even))

theorem scientific?_text (finite : value.IsFinite) :
    Text.scientific? value.text =
      some (value.negative, withSign value.negative value.shortest.toRat) := by
  rw [text, if_pos finite, Decimal.scientific?_scientific]

/-- The text of a finite value is read as that value and no other. -/
theorem isReadFrom_text_iff (wide : 0 < format.fractionBits) (finite : value.IsFinite)
    (other : BinaryFloat format) : other.IsReadFrom value.text ↔ other = value := by
  have around := value.isAround_shortest wide
  constructor
  · rintro ⟨number, read, nearest⟩
    rw [scientific?_text finite] at read
    obtain ⟨sign, rfl⟩ := Prod.mk.inj (Option.some.inj read)
    exact nearest.eq_of_isAround sign.symm wide finite around
  · rintro rfl
    exact ⟨_, scientific?_text finite,
      isNearest_of_isAround wide finite around (Decimal.toRat_nonneg _)⟩

/--
The text of a finite value is in scientific notation with a sign and two digits at least of
the exponent, and a reader that rounds to the nearest value, the even one of two, gets the
value back from it, sign and all.  So different finite values have different texts.
The text is a shortest decimal with a plain exponent that is then given its sign and its
digits, which keeps the number that any such text denotes.
-/
theorem text_keepsValue (wide : 0 < format.fractionBits) (finite : value.IsFinite) :
    Text.IsScientific value.text ∧
      (∀ other : BinaryFloat format, other.IsReadFrom value.text ↔ other = value) ∧
      (∀ other : BinaryFloat format, other.IsFinite → other.text = value.text → other = value) ∧
      value.text =
        Text.normalizeExponent (signText value.negative ++ value.shortest.plainScientific) ∧
      ∀ (negative : Bool) (decimal : Decimal),
        Text.scientific? (signText negative ++ decimal.plainScientific) =
            some (negative, withSign negative decimal.toRat) ∧
          Text.scientific?
              (Text.normalizeExponent (signText negative ++ decimal.plainScientific)) =
            some (negative, withSign negative decimal.toRat) := by
  have read := isReadFrom_text_iff wide finite
  refine ⟨?_, read, fun other otherFinite same => ?_, ?_, fun negative decimal => ⟨?_, ?_⟩⟩
  · rw [text, if_pos finite]
    exact Decimal.isScientific_scientific _ _
  · rw [← read, ← same, isReadFrom_text_iff wide otherFinite]
  · rw [text, if_pos finite, Decimal.normalizeExponent_plainScientific]
  · exact decimal.scientific?_plainScientific negative
  · rw [Decimal.normalizeExponent_plainScientific]
    exact decimal.scientific?_scientific negative

/-- One tenth has the same short text in both formats. -/
theorem tenth_keepsValue :
    (0 < BinaryFormat.single.fractionBits ∧ 0 < BinaryFormat.double.fractionBits) ∧
      ((ofFields .single false 123 5033165).IsFinite ∧
        (ofFields .single false 123 5033165).text = "1e-01".toList ∧
        ∀ other : Single, other.IsReadFrom "1e-01".toList ↔
          other = ofFields .single false 123 5033165) ∧
      (ofFields .double false 1019 2702159776422298).IsFinite ∧
        (ofFields .double false 1019 2702159776422298).text = "1e-01".toList ∧
        ∀ other : Double, other.IsReadFrom "1e-01".toList ↔
          other = ofFields .double false 1019 2702159776422298 := by
  have wideSingle : 0 < BinaryFormat.single.fractionBits := by decide
  have wideDouble : 0 < BinaryFormat.double.fractionBits := by decide
  have finiteSingle : (ofFields .single false 123 5033165).IsFinite := by decide +kernel
  have finiteDouble : (ofFields .double false 1019 2702159776422298).IsFinite := by
    decide +kernel
  have textSingle : (ofFields .single false 123 5033165).text = "1e-01".toList := by
    decide +kernel
  have textDouble : (ofFields .double false 1019 2702159776422298).text = "1e-01".toList := by
    decide +kernel
  obtain ⟨-, single, -⟩ := text_keepsValue wideSingle finiteSingle
  obtain ⟨-, double, -⟩ := text_keepsValue wideDouble finiteDouble
  rw [textSingle] at single
  rw [textDouble] at double
  exact ⟨⟨wideSingle, wideDouble⟩, ⟨finiteSingle, textSingle, single⟩,
    finiteDouble, textDouble, double⟩

end BinaryFloat

end SqlBuilder
