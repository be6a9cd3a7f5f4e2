import Mathlib.Data.List.TakeWhile
import Mathlib.Tactic.FieldSimp
import Mathlib.Tactic.Ring
import SqlBuilder.Proofs.NumberText

/-!
# Numbers read from text

Readers for the parts that dates, times and numbers are written with: a fixed count
of digits, a mark, and digits behind a decimal point.  Each reads back what it is
written as, whatever follows.

A fraction is written without zeros at its end, and not at all where it is zero.
-/

namespace SqlBuilder

namespace Text

/-! ## Readers -/

/-- The number that a fixed count of digits stands for, and the text behind them. -/
def number? (count : Nat) (text : Text) : Option (Nat × Text) :=
  let digits := text.take count
  if digits.length = count ∧ digits.all Char.isDigit = true then
    some (Nat.ofDigitChars 10 digits 0, text.drop count)
  else
    none

/-- The text behind a mark. -/
def mark? (mark : Char) : Text → Option Text
  | [] => none
  | c :: rest => if c = mark then some rest else none

/-- What digits behind a decimal point stand for. -/
def fractionValue : Text → ℚ
  | [] => 0
  | digit :: rest => (((digit.toNat - '0'.toNat : Nat) : ℚ) + fractionValue rest) / 10

/-- The fraction at the front of a text, zero without a point, and the text behind it. -/
def fraction? : Text → Option (ℚ × Text)
  | '.' :: rest =>
      let digits := rest.takeWhile Char.isDigit
      if digits = [] then
        none
      else
        some (fractionValue digits, rest.dropWhile Char.isDigit)
  | text => some (0, text)

/-- The digits behind a decimal point.  There is one at least, and the last one is not zero. -/
structure ArePlaces (digits : Text) : Prop where
  present : digits ≠ []
  each : ∀ c ∈ digits, c.isDigit = true
  trimmed : digits.getLast? ≠ some '0'

/-! ## What is written is read back -/

@[simp]
theorem mark?_cons (mark : Char) (rest : Text) : mark? mark (mark :: rest) = some rest := by
  simp [mark?]

theorem le_length_decimal (width number : Nat) : width ≤ (decimal width number).length := by
  rw [decimal, List.length_leftpad]
  exact Nat.le_max_left ..

theorem length_decimal {width number : Nat} (wide : 0 < width) (fits : number < 10 ^ width) :
    (decimal width number).length = width := by
  have bounded : (Nat.toDigits 10 number).length ≤ width :=
    (Nat.length_toDigits_le_iff (by decide) wide).mpr fits
  simp [decimal, List.leftpad, Nat.sub_add_cancel bounded]

theorem ofDigitChars_decimal (width number : Nat) :
    Nat.ofDigitChars 10 (decimal width number) 0 = number := by
  rw [decimal, List.leftpad, Nat.ofDigitChars_append, Nat.ofDigitChars_replicate_zero,
    Nat.mul_zero, Nat.ofDigitChars_toDigits (by decide) (by decide)]

/-- A number written with enough digits is read back, whatever follows. -/
theorem number?_decimal {width number : Nat} (wide : 0 < width) (fits : number < 10 ^ width)
    (rest : Text) :
    number? width (decimal width number ++ rest) = some (number, rest) := by
  have length := length_decimal wide fits
  have front : (decimal width number ++ rest).take width = decimal width number :=
    List.take_left' length
  have behind : (decimal width number ++ rest).drop width = rest := List.drop_left' length
  have digits : (decimal width number).all Char.isDigit = true :=
    List.all_eq_true.mpr fun _ => isDigit_of_mem_decimal
  simp only [number?, front, behind, length, digits, and_self, ↓reduceIte,
    ofDigitChars_decimal]

/-- Two digits are read back, whatever follows. -/
theorem number?_two {number : Nat} (short : number < 100) (rest : Text) :
    number? 2 (decimal 2 number ++ rest) = some (number, rest) :=
  number?_decimal (by decide) short rest

theorem fractionValue_append_zeros (digits : Text) {zeros : Text} (each : ∀ c ∈ zeros, c = '0') :
    fractionValue (digits ++ zeros) = fractionValue digits := by
  induction digits with
  | nil =>
      induction zeros with
      | nil => rfl
      | cons zero rest ih =>
          obtain ⟨rfl, others⟩ := List.forall_mem_cons.mp each
          have nothing : fractionValue rest = 0 := ih others
          simp [fractionValue, nothing]
  | cons digit rest ih => rw [List.cons_append, fractionValue, fractionValue, ih]

theorem fractionValue_trimZeros (digits : Text) :
    fractionValue (trimZeros digits) = fractionValue digits := by
  have whole : trimZeros digits ++ (digits.reverse.takeWhile (· = '0')).reverse = digits := by
    rw [trimZeros, ← List.reverse_append, List.takeWhile_append_dropWhile, List.reverse_reverse]
  have zeros : ∀ c ∈ (digits.reverse.takeWhile (· = '0')).reverse, c = '0' := by
    intro c member
    simpa using List.mem_takeWhile_imp (List.mem_reverse.mp member)
  calc fractionValue (trimZeros digits)
      = fractionValue (trimZeros digits ++ (digits.reverse.takeWhile (· = '0')).reverse) :=
        (fractionValue_append_zeros _ zeros).symm
    _ = fractionValue digits := by rw [whole]

/-- Digits behind a point stand for their number, over a power of ten for each of them. -/
theorem fractionValue_eq (digits : Text) :
    fractionValue digits = (Nat.ofDigitChars 10 digits 0 : ℚ) / 10 ^ digits.length := by
  induction digits with
  | nil => simp [fractionValue, Nat.ofDigitChars]
  | cons digit rest ih =>
      have leading : Nat.ofDigitChars 10 rest (10 * 0 + (digit.toNat - '0'.toNat)) =
          10 ^ rest.length * (10 * 0 + (digit.toNat - '0'.toNat)) +
            Nat.ofDigitChars 10 rest 0 :=
        Nat.ofDigitChars_eq_ofDigitChars_zero
      rw [fractionValue, ih, Nat.ofDigitChars_cons, leading, List.length_cons]
      push_cast
      field_simp
      ring

theorem getLast?_trimZeros (digits : Text) : (trimZeros digits).getLast? ≠ some '0' := by
  rw [trimZeros, List.getLast?_reverse]
  intro last
  have kept := List.head?_dropWhile_not (· = '0') digits.reverse
  rw [last] at kept
  exact absurd kept (by decide)

/-- Digits are written as a fraction where they are not all zero, with as many places at most. -/
theorem fraction_eq {digits : Text} (each : ∀ c ∈ digits, c.isDigit = true) :
    fraction digits = [] ∧ fractionValue digits = 0 ∨
      ∃ places, fraction digits = '.' :: places ∧ ArePlaces places ∧
        places.length ≤ digits.length ∧ fractionValue places = fractionValue digits := by
  have value := fractionValue_trimZeros digits
  have last := getLast?_trimZeros digits
  have digit : ∀ c ∈ trimZeros digits, c.isDigit = true :=
    fun c member => each c (mem_of_mem_trimZeros member)
  have shorter : (trimZeros digits).length ≤ digits.length := by
    rw [trimZeros, List.length_reverse]
    exact (List.dropWhile_sublist _).length_le.trans_eq List.length_reverse
  rw [fraction]
  cases trimmed : trimZeros digits with
  | nil =>
      rw [trimmed] at value
      exact .inl ⟨rfl, value.symm⟩
  | cons first others =>
      rw [trimmed] at value last digit shorter
      exact .inr ⟨_, rfl, ⟨List.cons_ne_nil _ _, digit, last⟩, shorter, value⟩

theorem fraction?_of_no_point {text : Text} (noPoint : text.head? ≠ some '.') :
    fraction? text = some (0, text) := by
  unfold fraction?
  split
  · exact absurd rfl noPoint
  · rfl

/-- A fraction written without the zeros at its end stands for the same, whatever follows. -/
theorem fraction?_fraction {digits rest : Text} (each : ∀ c ∈ digits, c.isDigit = true)
    (noDigit : ∀ c ∈ rest.head?, c.isDigit = false) (noPoint : rest.head? ≠ some '.') :
    fraction? (fraction digits ++ rest) = some (fractionValue digits, rest) := by
  rw [← fractionValue_trimZeros, fraction]
  cases trimmed : trimZeros digits with
  | nil => exact fraction?_of_no_point noPoint
  | cons first others =>
      have kept : ∀ c ∈ first :: others, c.isDigit = true := by
        intro c member
        rw [← trimmed] at member
        exact each c (mem_of_mem_trimZeros member)
      obtain ⟨taken, dropped⟩ := takeWhile_append_of_stop kept noDigit
      simp only [List.cons_append] at taken dropped
      simp [fraction?, taken, dropped]

end Text

end SqlBuilder
