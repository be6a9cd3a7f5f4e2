import Mathlib.Data.List.TakeWhile
import Mathlib.Tactic.NormNum
import SqlBuilder.Literal
import SqlBuilder.Proofs.DayNumber
import SqlBuilder.Proofs.DecimalText

/-!
# The wall clock of a timestamp

In front of its offset, the text of a timestamp shows what calendar and clock show
where it is written: a date, the time of day and a fraction of the second.  Years
before 0 and after 9999 have a sign, so that dates of all years can be read.

The calendar and the clock that are read back count to the timestamp's seconds and
its offset together, whether or not the offset is a whole number of minutes.  The
fraction is exact, and the date is written as a DATE literal writes it.
-/

namespace SqlBuilder

/-! ## Dates of all years -/

/-- The number at the front of a text that has at least so many digits, and the text behind it. -/
def Text.digits? (least : Nat) (text : Text) : Option (Nat × Text) :=
  let digits := text.takeWhile Char.isDigit
  if least ≤ digits.length then
    some (Nat.ofDigitChars 10 digits 0, text.dropWhile Char.isDigit)
  else
    none

namespace Date

/--
The year at the front of a text, and the text behind it: four digits, or at least four
behind a minus sign, or a plus sign and a number that four digits cannot hold.
-/
def year? : Text → Option (Int × Text)
  | '-' :: text => do
      let (year, text) ← Text.digits? 4 text
      if 0 < year then some (-(year : Int), text) else none
  | '+' :: text => do
      let (year, text) ← Text.digits? 5 text
      if 9999 < year then some ((year : Int), text) else none
  | text => (Text.number? 4 text).map fun (year, text) => ((year : Int), text)

/-- The date of any year at the front of a text, and the text behind it. -/
def ofAnyYear? (text : Text) : Option (Date × Text) := do
  let (year, text) ← year? text
  let text ← Text.mark? '-' text
  let (month, text) ← Text.number? 2 text
  let text ← Text.mark? '-' text
  let (day, text) ← Text.number? 2 text
  let date : Date := ⟨year, month, day⟩
  if date.IsValid then some (date, text) else none

end Date

/-- A calendar and a clock, which show a date and the time of day. -/
structure WallClock where
  date : Date
  hour : Nat
  minute : Nat
  second : Nat
deriving DecidableEq

namespace WallClock

/-- A date of the calendar and a time of the day. -/
structure IsValid (clock : WallClock) : Prop where
  date : clock.date.IsValid
  hour : clock.hour < 24
  minute : clock.minute < 60
  second : clock.second < 60

instance (clock : WallClock) : Decidable clock.IsValid :=
  decidable_of_iff
    (clock.date.IsValid ∧ clock.hour < 24 ∧ clock.minute < 60 ∧ clock.second < 60)
    ⟨fun ⟨date, hour, minute, second⟩ => ⟨date, hour, minute, second⟩,
      fun ⟨date, hour, minute, second⟩ => ⟨date, hour, minute, second⟩⟩

/-- The seconds that calendar and clock have counted since the start of 1970. -/
def count (clock : WallClock) : Int :=
  86400 * clock.date.dayNumber + 3600 * clock.hour + 60 * clock.minute + clock.second

/-- Calendar and clock at the front of a text, and the text behind them. -/
def read? (text : Text) : Option (WallClock × Text) := do
  let (date, text) ← Date.ofAnyYear? text
  let text ← Text.mark? 'T' text
  let (hour, text) ← Text.number? 2 text
  let text ← Text.mark? ':' text
  let (minute, text) ← Text.number? 2 text
  let text ← Text.mark? ':' text
  let (second, text) ← Text.number? 2 text
  let clock : WallClock := ⟨date, hour, minute, second⟩
  if clock.IsValid then some (clock, text) else none

end WallClock

/-- What calendar and clock show at a timestamp's offset. -/
def Timestamp.wallClock (timestamp : Timestamp) : WallClock where
  date := timestamp.localDate
  hour := timestamp.secondOfDay / 3600
  minute := timestamp.secondOfDay / 60 % 60
  second := timestamp.secondOfDay % 60

/-! ## Reading calendar and clock -/

namespace Text

/-- A number with digits enough is read back up to what is no digit. -/
theorem digits?_decimal {least width number : Nat}
    (enough : least ≤ (decimal width number).length) {rest : Text}
    (noDigit : ∀ c ∈ rest.head?, c.isDigit = false) :
    digits? least (decimal width number ++ rest) = some (number, rest) := by
  have each : ∀ c ∈ decimal width number, c.isDigit = true := fun _ => isDigit_of_mem_decimal
  obtain ⟨taken, dropped⟩ := takeWhile_append_of_stop each noDigit
  simp only [digits?, taken, dropped, enough, ↓reduceIte, ofDigitChars_decimal]

theorem lt_length_decimal {width number : Nat} (wide : 0 < width) (large : 10 ^ width ≤ number) :
    width < (decimal width number).length := by
  have digits : width < (Nat.toDigits 10 number).length :=
    Nat.lt_of_not_le (mt (Nat.length_toDigits_le_iff (by decide) wide).mp (Nat.not_lt.mpr large))
  rw [decimal, List.length_leftpad]
  exact lt_max_of_lt_right digits

theorem head?_decimal_append (width number : Nat) (rest : Text) :
    ∀ c ∈ (decimal width number ++ rest).head?, c.isDigit = true := by
  intro c opens
  cases written : decimal width number with
  | nil => exact absurd written (decimal_ne_nil width number)
  | cons first others =>
      rw [written] at opens
      cases opens
      exact isDigit_of_mem_decimal (written ▸ List.mem_cons_self ..)

end Text

namespace Date

theorem year?_of_digit {text : Text} (digit : ∀ c ∈ text.head?, c.isDigit = true) :
    year? text = (Text.number? 4 text).map fun (year, text) => ((year : Int), text) := by
  unfold year?
  split
  · exact absurd (digit '-' rfl) (by decide)
  · exact absurd (digit '+' rfl) (by decide)
  · rfl

/-- A year is read back up to the hyphen behind it. -/
theorem year?_yearText (year : Int) (rest : Text) :
    year? (yearText year ++ '-' :: rest) = some (year, '-' :: rest) := by
  have noDigit : ∀ c ∈ ('-' :: rest).head?, c.isDigit = false := by
    rintro c ⟨⟩
    rfl
  rcases lt_or_ge year 0 with beforeZero | afterZero
  · obtain ⟨size, rfl⟩ : ∃ size : Nat, year = -size := ⟨year.natAbs, by omega⟩
    have present : 0 < size := by omega
    rw [yearText, if_pos beforeZero, Int.natAbs_neg, Int.natAbs_natCast]
    simp [year?, Text.digits?_decimal (Text.le_length_decimal 4 size) noDigit, present]
  obtain ⟨size, rfl⟩ : ∃ size : Nat, year = size := Int.eq_ofNat_of_zero_le afterZero
  rw [yearText, if_neg (Int.not_lt.mpr afterZero), Int.natAbs_natCast]
  rcases Nat.lt_or_ge size (10 ^ 4) with short | long
  · have fourDigits : (size : Int) ≤ 9999 := by omega
    rw [if_pos fourDigits, year?_of_digit (Text.head?_decimal_append _ _ _),
      Text.number?_decimal (by decide) short, Option.map_some]
  · have manyDigits : ¬ (size : Int) ≤ 9999 := by omega
    have beyond : 9999 < size := by omega
    rw [if_neg manyDigits]
    simp [year?, Text.digits?_decimal (Text.lt_length_decimal (by decide) long) noDigit, beyond]

/-- A date of the calendar is read back, whatever its year and whatever follows. -/
theorem ofAnyYear?_text {date : Date} (valid : date.IsValid) (rest : Text) :
    ofAnyYear? (date.text ++ rest) = some (date, rest) := by
  have shortMonth : date.month < 100 := lt_of_le_of_lt valid.month_le (by decide)
  have shortDay : date.day < 100 :=
    lt_of_le_of_lt (valid.day_le.trans (monthDays_le ..)) (by decide)
  simp [ofAnyYear?, text, year?_yearText, Text.number?_two shortMonth, Text.number?_two shortDay,
    valid]

/-- A date is written without a letter. -/
theorem ne_letter_of_mem_text {date : Date} {c : Char} (member : c ∈ date.text) : c ≠ 'T' := by
  have ofDigit {width number : Nat} (digit : c ∈ Text.decimal width number) : c ≠ 'T' := by
    rintro rfl
    exact absurd (isDigit_of_mem_decimal digit) (by decide)
  have ofYear (written : c ∈ yearText date.year) : c ≠ 'T' := by
    unfold yearText at written
    split_ifs at written
    · rcases List.mem_cons.mp written with rfl | digit
      exacts [by decide, ofDigit digit]
    · exact ofDigit written
    · rcases List.mem_cons.mp written with rfl | digit
      exacts [by decide, ofDigit digit]
  simp only [text, List.mem_append, List.mem_cons] at member
  rcases member with (year | rfl | month) | rfl | day
  exacts [ofYear year, by decide, ofDigit month, by decide, ofDigit day]

end Date

namespace Timestamp

variable {timestamp : Timestamp}

theorem secondOfDay_lt (timestamp : Timestamp) : timestamp.secondOfDay < 86400 := by
  simp only [secondOfDay, daySeconds]
  omega

theorem isValid_wallClock (timestamp : Timestamp) : timestamp.wallClock.IsValid := by
  have inDay := timestamp.secondOfDay_lt
  refine ⟨Date.isValid_ofDayNumber _, ?_, ?_, ?_⟩ <;> simp only [wallClock] <;> omega

/-- Calendar and clock count the seconds of the timestamp and of its offset. -/
theorem count_wallClock (timestamp : Timestamp) :
    timestamp.wallClock.count = timestamp.seconds + timestamp.offset := by
  simp only [WallClock.count, wallClock, localDate, Date.dayNumber_ofDayNumber, secondOfDay,
    localSeconds, daySeconds]
  omega

/-- Calendar and clock are read back from the text of a timestamp. -/
theorem read?_text (ordinary : timestamp.nanoseconds < secondNanoseconds) :
    WallClock.read? timestamp.text =
      some (timestamp.wallClock, timestamp.fractionText ++ offsetText timestamp.offset) := by
  have valid := timestamp.isValid_wallClock
  have date (rest : Text) := Date.ofAnyYear?_text valid.date rest
  have hour := Text.number?_two (valid.hour.trans (by decide))
  have minute := Text.number?_two (valid.minute.trans (by decide))
  have second := Text.number?_two (valid.second.trans (by decide))
  have noLeapSecond : timestamp.leapSecond = 0 := if_neg (Nat.not_le.mpr ordinary)
  simp only [wallClock] at date hour minute second valid
  simp [WallClock.read?, text, clockText, noLeapSecond, wallClock, date, hour, minute, second,
    valid]

/-- The fraction of a second is written exactly, and not at all where it is zero. -/
theorem fractionText_eq (ordinary : timestamp.nanoseconds < secondNanoseconds) :
    timestamp.nanoseconds = 0 ∧ timestamp.fractionText = [] ∨
      timestamp.nanoseconds ≠ 0 ∧ ∃ places, timestamp.fractionText = '.' :: places ∧
        Text.ArePlaces places ∧ places.length ≤ 9 ∧
        Text.fractionValue places = (timestamp.nanoseconds : ℚ) / 10 ^ 9 := by
  have length : (Text.decimal 9 timestamp.nanoseconds).length = 9 :=
    Text.length_decimal (by decide) ordinary
  have value : Text.fractionValue (Text.decimal 9 timestamp.nanoseconds) =
      (timestamp.nanoseconds : ℚ) / 10 ^ 9 := by
    rw [Text.fractionValue_eq, Text.ofDigitChars_decimal, length]
  rw [fractionText, Nat.mod_eq_of_lt ordinary, ← value]
  have digits : ∀ c ∈ Text.decimal 9 timestamp.nanoseconds, c.isDigit = true :=
    fun _ => isDigit_of_mem_decimal
  rcases Text.fraction_eq digits with
    ⟨absent, zero⟩ | ⟨places, written, arePlaces, shorter, same⟩
  · refine .inl ⟨?_, absent⟩
    rw [zero, eq_comm, div_eq_zero_iff] at value
    exact Nat.cast_eq_zero.mp (value.resolve_right (by norm_num))
  · refine .inr ⟨?_, places, written, arePlaces, length ▸ shorter, same⟩
    intro zero
    rw [zero] at written
    cases written

/-- The date of a timestamp stands in front of the letter T. -/
theorem takeWhile_text (timestamp : Timestamp) :
    timestamp.text.takeWhile (· ≠ 'T') = timestamp.localDate.text := by
  have inFront : ∀ c ∈ timestamp.localDate.text, decide (c ≠ 'T') = true :=
    fun c member => decide_eq_true (Date.ne_letter_of_mem_text member)
  rw [text, List.append_assoc, List.append_assoc]
  refine (takeWhile_append_of_stop inFront ?_).1
  rintro c ⟨⟩
  rfl

/--
In front of its offset, the text of a timestamp shows a date of the calendar and a time of
the day that together count to the timestamp's seconds and its offset.  Behind them stands
the fraction of the second, exactly, unless it is zero.  The date is written as the DATE
literal of that day.
-/
theorem text_showsWallClock (ordinary : timestamp.nanoseconds < secondNanoseconds) :
    ∃ (clock : WallClock) (fraction : Text),
      WallClock.read? timestamp.text = some (clock, fraction ++ offsetText timestamp.offset) ∧
      clock.count = timestamp.seconds + timestamp.offset ∧
      (timestamp.nanoseconds = 0 ∧ fraction = [] ∨
        timestamp.nanoseconds ≠ 0 ∧ ∃ places, fraction = '.' :: places ∧
          Text.ArePlaces places ∧ places.length ≤ 9 ∧
          Text.fractionValue places = (timestamp.nanoseconds : ℚ) / 10 ^ 9) ∧
      ∀ date : Date, date.IsValid →
        date.dayNumber = (timestamp.seconds + timestamp.offset) / 86400 →
        Expr.ofDate date = .date (String.ofList (timestamp.text.takeWhile (· ≠ 'T'))) := by
  refine ⟨timestamp.wallClock, timestamp.fractionText, read?_text ordinary,
    timestamp.count_wallClock, fractionText_eq ordinary, fun date valid sameDay => ?_⟩
  have localDay : date = timestamp.localDate :=
    valid.eq_of_dayNumber_eq (Date.isValid_ofDayNumber _)
      (sameDay.trans (Date.dayNumber_ofDayNumber _).symm)
  rw [localDay, Expr.ofDate, takeWhile_text]

/-- The last second of the year before year 0, on a clock four hours and 56 minutes behind. -/
def farWest : Timestamp :=
  ⟨-62167201439, 250000000, -17762⟩

theorem farWest_wallClock :
    farWest.nanoseconds < secondNanoseconds ∧
      farWest.text = "-0001-12-31T23:59:59.25-04:56".toList ∧
      ∃ (clock : WallClock) (fraction : Text),
        WallClock.read? farWest.text = some (clock, fraction ++ offsetText farWest.offset) ∧
        clock.count = farWest.seconds + farWest.offset ∧
        Expr.ofDate ⟨-1, 12, 31⟩ =
          .date (String.ofList (farWest.text.takeWhile (· ≠ 'T'))) := by
  have ordinary : farWest.nanoseconds < secondNanoseconds := by decide
  obtain ⟨clock, fraction, read, counted, -, date⟩ := text_showsWallClock ordinary
  exact ⟨ordinary, by decide +kernel, clock, fraction, read, counted,
    date _ (by decide) (by decide)⟩

end Timestamp

end SqlBuilder
