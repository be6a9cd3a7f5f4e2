import Mathlib.Algebra.Order.Field.Basic
import Mathlib.Tactic.FieldSimp
import Mathlib.Tactic.IntervalCases
import Mathlib.Tactic.LinearCombination
import Mathlib.Tactic.NormNum
import SqlBuilder.Numeric.FloatText
import SqlBuilder.Proofs.DecimalText

/-!
# Scientific notation

A number in scientific notation is an optional minus sign, one digit, an optional
fraction, and an exponent behind the letter e.  It denotes a rational number, exactly.

A decimal may be written with a plain exponent, which has a sign only below zero and
no zeros in front.  Giving the exponent a sign and two digits at least leaves the
number as it is, and makes the text the one that the decimal is written as.
-/

namespace SqlBuilder

/-- The exact value of a decimal. -/
def Decimal.toRat (decimal : Decimal) : ℚ :=
  decimal.digits * 10 ^ decimal.exponent

/-- A number, or its negative behind a minus sign. -/
def withSign (negative : Bool) (number : ℚ) : ℚ :=
  if negative then -number else number

namespace Text

/-! ## Reading -/

/-- The whole number that a text of digits stands for. -/
def natural? (text : Text) : Option Nat :=
  if text ≠ [] ∧ text.all Char.isDigit = true then
    some (Nat.ofDigitChars 10 text 0)
  else
    none

/-- The whole number that a text of digits stands for, perhaps behind a sign. -/
def integer? : Text → Option Int
  | '-' :: digits => (natural? digits).map fun size : Nat => -(size : Int)
  | '+' :: digits => (natural? digits).map fun size : Nat => (size : Int)
  | digits => (natural? digits).map fun size : Nat => (size : Int)

/-- The number without a sign that a text in scientific notation denotes. -/
def magnitude? (text : Text) : Option ℚ := do
  let (digit, text) ← number? 1 text
  let (fraction, text) ← fraction? text
  let text ← mark? 'e' text
  let exponent ← integer? text
  return ((digit : ℚ) + fraction) * 10 ^ exponent

/-- The number that a text in scientific notation denotes, and whether it has a minus sign. -/
def scientific? : Text → Option (Bool × ℚ)
  | '-' :: text => (magnitude? text).map fun size => (true, withSign true size)
  | text => (magnitude? text).map fun size => (false, withSign false size)

/--
Scientific notation with a sign and at least two digits of the exponent, no zero in front of
more than two, and no zero at the end of the fraction.
-/
def IsScientific (text : Text) : Prop :=
  ∃ (negative : Bool) (digit : Char) (fraction : Text) (sign : Char) (exponent : Text),
    text = signText negative ++ digit :: (fraction ++ 'e' :: sign :: exponent) ∧
      digit.isDigit = true ∧
      (fraction = [] ∨ ∃ places, fraction = '.' :: places ∧ ArePlaces places) ∧
      (sign = '+' ∨ sign = '-') ∧
      (∀ c ∈ exponent, c.isDigit = true) ∧ 2 ≤ exponent.length ∧
      (2 < exponent.length → exponent.head? ≠ some '0')

/-! ## Plain exponents -/

/-- A decimal exponent behind its mark, with a sign only below zero. -/
def plainExponent (exponent : Int) : Text :=
  'e' :: (signText (decide (exponent < 0)) ++ Nat.toDigits 10 exponent.natAbs)

/-- Digits of an exponent behind its sign, of which a plus may be left out. -/
def signedExponent : Text → Text
  | '-' :: digits => '-' :: digits.leftpad 2 '0'
  | digits => '+' :: digits.leftpad 2 '0'

/--
Text whose exponent is given a sign and at least two digits.  Text without an exponent stays
as it is.
-/
def normalizeExponent (text : Text) : Text :=
  match text.dropWhile (· ≠ 'e') with
  | [] => text
  | mark :: exponent => text.takeWhile (· ≠ 'e') ++ mark :: signedExponent exponent

end Text

/-- A decimal in scientific notation with a plain exponent. -/
def Decimal.plainScientific (decimal : Decimal) : Text :=
  match Nat.toDigits 10 decimal.digits with
  | [] => []
  | first :: rest =>
      first :: Text.fraction rest ++
        Text.plainExponent (decimal.exponent + (rest.length : Int))

namespace Text

/-! ## What is written is read back -/

section Digit

variable {text : Text} (digit : ∀ c ∈ text.head?, c.isDigit = true)

include digit

theorem integer?_of_digit :
    integer? text = (natural? text).map fun size : Nat => (size : Int) := by
  unfold integer?
  split
  · exact absurd (digit '-' rfl) (by decide)
  · exact absurd (digit '+' rfl) (by decide)
  · rfl

theorem scientific?_of_digit :
    scientific? text = (magnitude? text).map fun size => (false, withSign false size) := by
  unfold scientific?
  split
  · exact absurd (digit '-' rfl) (by decide)
  · rfl

theorem signedExponent_of_digit : signedExponent text = '+' :: text.leftpad 2 '0' := by
  unfold signedExponent
  split
  · exact absurd (digit '-' rfl) (by decide)
  · rfl

end Digit

theorem natural?_toDigits (number : Nat) : natural? (Nat.toDigits 10 number) = some number := by
  have each : (Nat.toDigits 10 number).all Char.isDigit = true :=
    List.all_eq_true.mpr fun _ => isDigit_of_mem_toDigits
  rw [natural?, if_pos ⟨Nat.toDigits_ne_nil, each⟩,
    Nat.ofDigitChars_toDigits (by decide) (by decide)]

theorem natural?_decimal (width number : Nat) :
    natural? (decimal width number) = some number := by
  have each : (decimal width number).all Char.isDigit = true :=
    List.all_eq_true.mpr fun _ => isDigit_of_mem_decimal
  rw [natural?, if_pos ⟨decimal_ne_nil width number, each⟩, ofDigitChars_decimal]

theorem head?_toDigits (number : Nat) : ∀ c ∈ (Nat.toDigits 10 number).head?, c.isDigit = true :=
  fun _ opens => isDigit_of_mem_toDigits (List.mem_of_mem_head? opens)

/-- A plain exponent is given a sign and two digits at least. -/
theorem signedExponent_plain (exponent : Int) :
    signedExponent (signText (decide (exponent < 0)) ++ Nat.toDigits 10 exponent.natAbs) =
      (if exponent < 0 then '-' else '+') :: decimal 2 exponent.natAbs := by
  by_cases negative : exponent < 0
  · rw [decide_eq_true negative, if_pos negative]
    rfl
  · rw [decide_eq_false negative, if_neg negative]
    exact signedExponent_of_digit (head?_toDigits _)

theorem integer?_plain (exponent : Int) :
    integer? (signText (decide (exponent < 0)) ++ Nat.toDigits 10 exponent.natAbs) =
      some exponent := by
  by_cases negative : exponent < 0
  · have magnitude : -(exponent.natAbs : Int) = exponent := by omega
    simp only [decide_eq_true negative, signText, if_true, List.singleton_append, integer?,
      natural?_toDigits, Option.map_some, magnitude]
  · have magnitude : (exponent.natAbs : Int) = exponent := by omega
    simp only [decide_eq_false negative, signText, Bool.false_eq_true, if_false, List.nil_append,
      integer?_of_digit (head?_toDigits _), natural?_toDigits, Option.map_some, magnitude]

theorem integer?_signed (exponent : Int) :
    integer? ((if exponent < 0 then '-' else '+') :: decimal 2 exponent.natAbs) =
      some exponent := by
  by_cases negative : exponent < 0
  · have magnitude : -(exponent.natAbs : Int) = exponent := by omega
    simp only [if_pos negative, integer?, natural?_decimal, Option.map_some, magnitude]
  · have magnitude : (exponent.natAbs : Int) = exponent := by omega
    simp only [if_neg negative, integer?, natural?_decimal, Option.map_some, magnitude]

theorem number?_one {digit : Char} (isDigit : digit.isDigit = true) (rest : Text) :
    number? 1 (digit :: rest) = some (digit.toNat - '0'.toNat, rest) := by
  simp [number?, isDigit, Nat.ofDigitChars]

end Text

namespace Decimal

variable {decimal : Decimal} {first : Char} {rest : Text}

/-- The digits of a decimal, with a point behind the first of them. -/
theorem toRat_eq (written : Nat.toDigits 10 decimal.digits = first :: rest) :
    ((first.toNat - '0'.toNat : Nat) + Text.fractionValue rest) *
      10 ^ (decimal.exponent + (rest.length : Int)) = decimal.toRat := by
  have value := Text.fractionValue_eq (first :: rest)
  rw [← written, Nat.ofDigitChars_toDigits (by decide) (by decide), written, Text.fractionValue,
    List.length_cons, pow_succ] at value
  have digits : ((first.toNat - '0'.toNat : Nat) : ℚ) + Text.fractionValue rest =
      decimal.digits / 10 ^ rest.length := by
    field_simp at value ⊢
    linear_combination value
  rw [digits, zpow_add₀ (by norm_num), zpow_natCast, toRat]
  field_simp

/-- The digits of a decimal and an exponent that fits denote the decimal. -/
theorem magnitude?_digits (written : Nat.toDigits 10 decimal.digits = first :: rest)
    {exponent : Text}
    (read : Text.integer? exponent = some (decimal.exponent + (rest.length : Int))) :
    Text.magnitude? (first :: (Text.fraction rest ++ 'e' :: exponent)) = some decimal.toRat := by
  have each : ∀ c ∈ first :: rest, c.isDigit = true :=
    fun c member => isDigit_of_mem_toDigits (written ▸ member)
  obtain ⟨digit, others⟩ := List.forall_mem_cons.mp each
  have fraction : Text.fraction? (Text.fraction rest ++ 'e' :: exponent) =
      some (Text.fractionValue rest, 'e' :: exponent) := by
    refine Text.fraction?_fraction others ?_ (by simp)
    rintro c ⟨⟩
    rfl
  simp only [Text.magnitude?, Text.number?_one digit, fraction, Text.mark?_cons, read,
    Option.bind_eq_bind, Option.bind_some, toRat_eq written]
  rfl

end Decimal

/-! ## A decimal and its text -/

namespace Text

/-- The digits of a positive number have no zero in front. -/
theorem head?_toDigits_ne_zero {number : Nat} (positive : 0 < number) :
    (Nat.toDigits 10 number).head? ≠ some '0' := by
  induction number using Nat.strong_induction_on with
  | _ number shorter =>
      by_cases small : number < 10
      · rw [Nat.toDigits_of_lt_base small]
        interval_cases number <;> decide
      · have large : 10 ≤ number := Nat.not_lt.mp small
        have front : 0 < number / 10 := Nat.div_pos large (by decide)
        rw [Nat.toDigits_of_base_le (by decide) large,
          List.head?_append_of_ne_nil _ Nat.toDigits_ne_nil]
        exact shorter _ (Nat.div_lt_self positive (by decide)) front

/-- More than two digits of an exponent have no zero in front. -/
theorem head?_decimal_two_ne_zero {number : Nat} (long : 2 < (decimal 2 number).length) :
    (decimal 2 number).head? ≠ some '0' := by
  have digits : 2 < (Nat.toDigits 10 number).length := by
    rw [decimal, List.length_leftpad] at long
    omega
  have positive : 0 < number := by
    rcases Nat.eq_zero_or_pos number with rfl | positive
    · exact absurd digits (by decide)
    · exact positive
  have unpadded : decimal 2 number = Nat.toDigits 10 number := by
    rw [decimal, List.leftpad, Nat.sub_eq_zero_of_le (Nat.le_of_lt digits), List.replicate_zero,
      List.nil_append]
  rw [unpadded]
  exact head?_toDigits_ne_zero positive

/-- The mark of an exponent is none of the characters in front of it. -/
theorem ne_mark_of_mem_digits {first : Char} {rest : Text}
    (each : ∀ c ∈ first :: rest, c.isDigit = true) {c : Char}
    (member : c ∈ first :: fraction rest) : decide (c ≠ 'e') = true := by
  have noMark {c : Char} (digit : c.isDigit = true) : decide (c ≠ 'e') = true := by
    refine decide_eq_true ?_
    rintro rfl
    exact absurd digit (by decide)
  obtain ⟨digit, others⟩ := List.forall_mem_cons.mp each
  rcases List.mem_cons.mp member with rfl | inside
  · exact noMark digit
  rcases fraction_eq others with ⟨nothing, _⟩ | ⟨places, shown, arePlaces, _, _⟩
  · rw [nothing] at inside
    exact absurd inside List.not_mem_nil
  · rw [shown] at inside
    rcases List.mem_cons.mp inside with rfl | place
    · decide
    · exact noMark (arePlaces.each _ place)

end Text

namespace Decimal

variable (decimal : Decimal) (negative : Bool)

theorem digits_cons : ∃ first rest, Nat.toDigits 10 decimal.digits = first :: rest ∧
    ∀ c ∈ first :: rest, c.isDigit = true := by
  obtain ⟨first, rest, written⟩ :=
    List.exists_cons_of_ne_nil (@Nat.toDigits_ne_nil decimal.digits 10)
  exact ⟨first, rest, written, fun c member => isDigit_of_mem_toDigits (written ▸ member)⟩

theorem scientific_eq {first : Char} {rest : Text}
    (written : Nat.toDigits 10 decimal.digits = first :: rest) :
    decimal.scientific = first :: (Text.fraction rest ++
      exponentText (decimal.exponent + (rest.length : Int))) := by
  simp only [scientific, written, List.cons_append]

theorem plainScientific_eq {first : Char} {rest : Text}
    (written : Nat.toDigits 10 decimal.digits = first :: rest) :
    decimal.plainScientific = first :: (Text.fraction rest ++
      Text.plainExponent (decimal.exponent + (rest.length : Int))) := by
  simp only [plainScientific, written, List.cons_append]

/-- The digits of a decimal and an exponent that fits denote the decimal, behind a sign as well. -/
theorem scientific?_digits {decimal : Decimal} {first : Char} {rest exponent : Text}
    (written : Nat.toDigits 10 decimal.digits = first :: rest)
    (read : Text.integer? exponent = some (decimal.exponent + (rest.length : Int))) :
    Text.scientific? (signText negative ++ first :: (Text.fraction rest ++ 'e' :: exponent)) =
      some (negative, withSign negative decimal.toRat) := by
  have size := magnitude?_digits written read
  cases negative with
  | true => simp only [signText, if_true, List.singleton_append, Text.scientific?, size,
      Option.map_some]
  | false =>
      have digit : first.isDigit = true :=
        isDigit_of_mem_toDigits (written ▸ List.mem_cons_self ..)
      simp only [signText, Bool.false_eq_true, if_false, List.nil_append]
      rw [Text.scientific?_of_digit (by simpa using digit), size, Option.map_some]

/-- The text of a decimal denotes the decimal. -/
theorem scientific?_scientific :
    Text.scientific? (signText negative ++ decimal.scientific) =
      some (negative, withSign negative decimal.toRat) := by
  obtain ⟨first, rest, written, -⟩ := decimal.digits_cons
  rw [scientific_eq _ written]
  exact scientific?_digits negative written (Text.integer?_signed _)

/-- With a plain exponent, the text of a decimal denotes the decimal as well. -/
theorem scientific?_plainScientific :
    Text.scientific? (signText negative ++ decimal.plainScientific) =
      some (negative, withSign negative decimal.toRat) := by
  obtain ⟨first, rest, written, -⟩ := decimal.digits_cons
  rw [plainScientific_eq _ written]
  exact scientific?_digits negative written (Text.integer?_plain _)

/-- Giving the exponent of a decimal its sign and two digits makes the decimal's own text. -/
theorem normalizeExponent_plainScientific :
    Text.normalizeExponent (signText negative ++ decimal.plainScientific) =
      signText negative ++ decimal.scientific := by
  obtain ⟨first, rest, written, each⟩ := decimal.digits_cons
  have noMark : ∀ c ∈ signText negative ++ first :: Text.fraction rest,
      decide (c ≠ 'e') = true := by
    intro c member
    rcases List.mem_append.mp member with sign | digits
    · cases negative with
      | true => rw [List.mem_singleton.mp sign]; decide
      | false => exact absurd sign List.not_mem_nil
    · exact Text.ne_mark_of_mem_digits each digits
  have mark : ∀ c ∈ (Text.plainExponent (decimal.exponent + (rest.length : Int))).head?,
      decide (c ≠ 'e') = false := by
    rintro c ⟨⟩
    decide
  obtain ⟨front, behind⟩ := takeWhile_append_of_stop noMark mark
  rw [List.append_assoc, List.cons_append] at front behind
  rw [scientific_eq _ written, plainScientific_eq _ written, Text.normalizeExponent, front, behind]
  simp only [Text.plainExponent, Text.signedExponent_plain, List.append_assoc, List.cons_append,
    exponentText]

theorem isScientific_scientific : Text.IsScientific (signText negative ++ decimal.scientific) := by
  obtain ⟨first, rest, written, each⟩ := decimal.digits_cons
  obtain ⟨digit, others⟩ := List.forall_mem_cons.mp each
  have fraction : Text.fraction rest = [] ∨
      ∃ places, Text.fraction rest = '.' :: places ∧ Text.ArePlaces places := by
    rcases Text.fraction_eq others with ⟨nothing, _⟩ | ⟨places, shown, arePlaces, _, _⟩
    · exact .inl nothing
    · exact .inr ⟨places, shown, arePlaces⟩
  have sign (exponent : Int) :
      (if exponent < 0 then '-' else '+') = '+' ∨ (if exponent < 0 then '-' else '+') = '-' := by
    split
    · exact .inr rfl
    · exact .inl rfl
  exact ⟨negative, first, Text.fraction rest, _, _, by rw [scientific_eq _ written]; rfl,
    digit, fraction, sign _, fun _ => isDigit_of_mem_decimal, Text.le_length_decimal ..,
    Text.head?_decimal_two_ne_zero⟩

end Decimal

end SqlBuilder
