import Mathlib.Tactic.Linarith
import Mathlib.Tactic.NormNum
import Mathlib.Tactic.Ring
import SqlBuilder.Calendar.Timestamp
import SqlBuilder.Proofs.DayNumber
import SqlBuilder.Proofs.DecimalText

/-!
# Instants read from text

An RFC 3339 date-time is a local date and time, a fraction of the second and an
offset from UTC in hours and minutes.  It denotes an instant, here as a rational
number of seconds since the start of 1970 in UTC.

The text of a timestamp is such a date-time.  The clock it shows runs at the whole
offset, and the offset behind it lacks seconds; so the instant it denotes is off by
the seconds of the offset, and it is the timestamp's own exactly where the offset
is a whole number of minutes.
-/

namespace SqlBuilder

/-! ## Parts of a date-time -/

/-- The date at the front of a text, and the text behind it. -/
def Date.read? (text : Text) : Option (Date × Text) := do
  let (year, text) ← Text.number? 4 text
  let text ← Text.mark? '-' text
  let (month, text) ← Text.number? 2 text
  let text ← Text.mark? '-' text
  let (day, text) ← Text.number? 2 text
  let date : Date := ⟨year, month, day⟩
  if date.IsValid then some (date, text) else none

namespace Timestamp

/-- The second of the day at the front of a text, and the text behind it. -/
def clock? (text : Text) : Option (Nat × Text) := do
  let (hour, text) ← Text.number? 2 text
  let text ← Text.mark? ':' text
  let (minute, text) ← Text.number? 2 text
  let text ← Text.mark? ':' text
  let (second, text) ← Text.number? 2 text
  if hour < 24 ∧ minute < 60 ∧ second ≤ 60 then
    some (3600 * hour + 60 * minute + second, text)
  else
    none

/-- The hours and minutes of an offset behind its sign, in seconds. -/
def offsetSize? (text : Text) : Option (Nat × Text) := do
  let (hour, text) ← Text.number? 2 text
  let text ← Text.mark? ':' text
  let (minute, text) ← Text.number? 2 text
  if hour < 24 ∧ minute < 60 then
    some (3600 * hour + 60 * minute, text)
  else
    none

/-- The offset at the front of a text in seconds, and the text behind it. -/
def offset? : Text → Option (Int × Text)
  | 'Z' :: rest => some (0, rest)
  | '+' :: rest => (offsetSize? rest).map fun (size, rest) => ((size : Int), rest)
  | '-' :: rest => (offsetSize? rest).map fun (size, rest) => (-(size : Int), rest)
  | _ => none

/-- The instant that a date-time denotes, in seconds since the start of 1970. -/
def instant? (text : Text) : Option ℚ := do
  let (date, text) ← Date.read? text
  let text ← Text.mark? 'T' text
  let (second, text) ← clock? text
  let (fraction, text) ← Text.fraction? text
  let (offset, text) ← offset? text
  if text = [] then
    some (((86400 * date.dayNumber + second - offset : Int) : ℚ) + fraction)
  else
    none

/-- The instant of a timestamp, in seconds since the start of 1970. -/
def instant (timestamp : Timestamp) : ℚ :=
  timestamp.seconds + (timestamp.nanoseconds : ℚ) / secondNanoseconds

end Timestamp

/-! ## The text of a timestamp -/

/-- A date of the calendar in a year of four digits is read back, whatever follows. -/
theorem Date.read?_text {date : Date} (valid : date.IsValid) (afterChrist : 0 ≤ date.year)
    (fourDigits : date.year ≤ 9999) (rest : Text) :
    Date.read? (date.text ++ rest) = some (date, rest) := by
  obtain ⟨year, month, day⟩ := date
  obtain ⟨year, rfl⟩ : ∃ number : Nat, year = number := Int.eq_ofNat_of_zero_le afterChrist
  simp only at fourDigits
  have written : yearText year = Text.decimal 4 year := by
    rw [yearText, if_neg (Int.not_lt.mpr afterChrist), if_pos fourDigits, Int.natAbs_natCast]
  have readYear (behind : Text) :
      Text.number? 4 (Text.decimal 4 year ++ behind) = some (year, behind) :=
    Text.number?_decimal (by decide) (by omega) behind
  have shortMonth : month < 100 := lt_of_le_of_lt valid.month_le (by decide)
  have shortDay : day < 100 :=
    lt_of_le_of_lt (valid.day_le.trans (monthDays_le year month)) (by decide)
  simp [Date.read?, text, written, readYear, Text.number?_two shortMonth,
    Text.number?_two shortDay, valid]

namespace Timestamp

variable {timestamp : Timestamp}

/-- The clock of a timestamp is read back as the second of the local day. -/
theorem clock?_clockText (ordinary : timestamp.nanoseconds < secondNanoseconds) (rest : Text) :
    clock? (timestamp.clockText ++ rest) = some (timestamp.secondOfDay, rest) := by
  have inDay : timestamp.secondOfDay < 86400 := by
    simp only [secondOfDay, daySeconds]
    omega
  have noLeapSecond : timestamp.leapSecond = 0 := if_neg (Nat.not_le.mpr ordinary)
  rw [clockText, noLeapSecond]
  generalize timestamp.secondOfDay = second at inDay
  have hour : second / 3600 < 24 := by omega
  have minute : second / 60 % 60 < 60 := by omega
  have inMinute : second % 60 ≤ 60 := by omega
  have whole : 3600 * (second / 3600) + 60 * (second / 60 % 60) + second % 60 = second := by omega
  simp [clock?, Text.number?_two (hour.trans (by decide)),
    Text.number?_two (minute.trans (by decide)),
    Text.number?_two (lt_of_le_of_lt inMinute (by decide)), hour, minute, inMinute, whole]

/-- The hours and minutes of an offset within a day are read back, without its seconds. -/
theorem offsetSize?_decimal {size : Nat} (withinDay : size < 86400) (rest : Text) :
    offsetSize? (Text.decimal 2 (size / 3600) ++
        ':' :: (Text.decimal 2 (size % 3600 / 60) ++ rest)) =
      some (size - size % 60, rest) := by
  have hour : size / 3600 < 24 := by omega
  have minute : size % 3600 / 60 < 60 := by omega
  have whole : 3600 * (size / 3600) + 60 * (size % 3600 / 60) = size - size % 60 := by omega
  simp [offsetSize?, Text.number?_two (hour.trans (by decide)),
    Text.number?_two (minute.trans (by decide)), hour, minute, whole]

/-- An offset is read back without its seconds. -/
theorem offset?_offsetText {offset : Int} (west : -86400 < offset) (east : offset < 86400) :
    offset? (offsetText offset) = some (offset - offset.tmod 60, []) := by
  have withinDay : offset.natAbs < 86400 := by omega
  have size := offsetSize?_decimal withinDay []
  rw [List.append_nil] at size
  have lessSeconds : ((offset.natAbs - offset.natAbs % 60 : Nat) : Int) =
      offset.natAbs - (offset.natAbs : Int).tmod 60 := by
    rw [Int.tmod_eq_emod_of_nonneg (Int.natCast_nonneg _)]
    omega
  rcases Int.lt_trichotomy offset 0 with negative | rfl | positive
  · have magnitude : offset = -(offset.natAbs : Int) := by omega
    have value : -((offset.natAbs - offset.natAbs % 60 : Nat) : Int) = offset - offset.tmod 60 := by
      rw [lessSeconds]
      conv_rhs => rw [magnitude, Int.neg_tmod]
      omega
    simp [offsetText, offset?, negative, negative.ne, size, value]
  · rfl
  · have magnitude : (offset.natAbs : Int) = offset := by omega
    have value : ((offset.natAbs - offset.natAbs % 60 : Nat) : Int) = offset - offset.tmod 60 := by
      rw [lessSeconds, magnitude]
    simp [offsetText, offset?, positive.ne', Int.not_lt.mpr positive.le, size, value]

/-- Behind a fraction stands an offset, which begins with neither a digit nor a point. -/
theorem head?_offsetText (offset : Int) :
    ∀ c ∈ (offsetText offset).head?, c.isDigit = false ∧ c ≠ '.' := by
  intro c opens
  unfold offsetText at opens
  split_ifs at opens <;> cases opens <;> decide

/-- The fraction of a second is read back as nanoseconds. -/
theorem fraction?_fractionText (ordinary : timestamp.nanoseconds < secondNanoseconds)
    (offset : Int) :
    Text.fraction? (timestamp.fractionText ++ offsetText offset) =
      some ((timestamp.nanoseconds : ℚ) / secondNanoseconds, offsetText offset) := by
  have opens := head?_offsetText offset
  have noPoint : (offsetText offset).head? ≠ some '.' := fun point => (opens '.' point).2 rfl
  have length : (Text.decimal 9 timestamp.nanoseconds).length = 9 :=
    Text.length_decimal (by decide) ordinary
  rw [fractionText, Nat.mod_eq_of_lt ordinary,
    Text.fraction?_fraction (fun _ => isDigit_of_mem_decimal) (fun c first => (opens c first).1)
      noPoint,
    Text.fractionValue_eq, Text.ofDigitChars_decimal, length]
  norm_num [secondNanoseconds]

/-- The local clock, counted from the start of 1970, runs ahead by the offset. -/
theorem localDate_secondOfDay (timestamp : Timestamp) :
    86400 * timestamp.localDate.dayNumber + timestamp.secondOfDay =
      timestamp.seconds + timestamp.offset := by
  rw [localDate, Date.dayNumber_ofDayNumber]
  simp only [secondOfDay, localSeconds, daySeconds]
  omega

/-- The instant that the text of a timestamp denotes is ahead by the seconds of the offset. -/
theorem instant?_text (ordinary : timestamp.nanoseconds < secondNanoseconds)
    (west : -86400 < timestamp.offset) (east : timestamp.offset < 86400)
    (afterChrist : 0 ≤ timestamp.localDate.year) (fourDigits : timestamp.localDate.year ≤ 9999) :
    instant? timestamp.text = some (timestamp.instant + (timestamp.offset.tmod 60 : Int)) := by
  have date (rest : Text) :
      Date.read? (timestamp.localDate.text ++ rest) = some (timestamp.localDate, rest) :=
    Date.read?_text (Date.isValid_ofDayNumber _) afterChrist fourDigits rest
  have counted :
      86400 * timestamp.localDate.dayNumber + timestamp.secondOfDay -
          (timestamp.offset - timestamp.offset.tmod 60) =
        timestamp.seconds + timestamp.offset.tmod 60 := by
    rw [localDate_secondOfDay]
    omega
  have read : instant? timestamp.text =
      some (((86400 * timestamp.localDate.dayNumber + timestamp.secondOfDay -
        (timestamp.offset - timestamp.offset.tmod 60) : Int) : ℚ) +
        (timestamp.nanoseconds : ℚ) / secondNanoseconds) := by
    simp only [instant?, text, List.append_assoc, List.cons_append, date, Option.bind_eq_bind,
      Option.bind_some, Text.mark?_cons, clock?_clockText ordinary,
      fraction?_fractionText ordinary, offset?_offsetText west east, ↓reduceIte]
  rw [read, counted, instant]
  push_cast
  congr 1
  ring

/-- One instant has a text for every offset. -/
example :
    instant? "1969-12-31T19:30:00.50-04:30".toList = some (1 / 2) ∧
      instant? "1970-01-01T00:00:00.5Z".toList = some (1 / 2) := by
  decide +kernel

/--
The text of a timestamp denotes the timestamp's instant moved by the seconds of its
offset, which the text leaves out.  So it denotes the timestamp's own instant
exactly where the offset is a whole number of minutes.
-/
theorem instant?_text_eq_instant_iff
    (ordinary : timestamp.nanoseconds < secondNanoseconds)
    (west : -86400 < timestamp.offset) (east : timestamp.offset < 86400)
    (afterChrist : 0 ≤ timestamp.localDate.year)
    (fourDigits : timestamp.localDate.year ≤ 9999) :
    instant? timestamp.text = some (timestamp.instant + (timestamp.offset.tmod 60 : Int)) ∧
      (instant? timestamp.text = some timestamp.instant ↔ 60 ∣ timestamp.offset) := by
  have read := instant?_text ordinary west east afterChrist fourDigits
  refine ⟨read, ?_⟩
  rw [read, Option.some.injEq, add_eq_left, Int.cast_eq_zero, Int.dvd_iff_tmod_eq_zero]

/-- A moment written at an offset of four hours and a half, to the west. -/
def wholeMinutes : Timestamp :=
  ⟨1670525571, 837583000, -16200⟩

/-- The start of 1970 in UTC, written at the mean local time of a place a little to the east. -/
def meanLocalTime : Timestamp :=
  ⟨0, 0, 1172⟩

theorem wholeMinutes_instant :
    wholeMinutes.text = "2022-12-08T14:22:51.837583-04:30".toList ∧
      instant? wholeMinutes.text = some wholeMinutes.instant := by
  refine ⟨by decide +kernel, ?_⟩
  exact (instant?_text_eq_instant_iff (by decide) (by decide) (by decide)
    (by decide +kernel) (by decide +kernel)).2.mpr (by decide)

/-- At an offset of 19 minutes and 32 seconds the text denotes an instant 32 seconds late. -/
theorem not_forall_instant?_text_eq :
    ¬ ∀ timestamp : Timestamp,
      timestamp.nanoseconds < secondNanoseconds →
      -86400 < timestamp.offset → timestamp.offset < 86400 →
      0 ≤ timestamp.localDate.year → timestamp.localDate.year ≤ 9999 →
      instant? timestamp.text = some timestamp.instant := by
  intro every
  have kept := every meanLocalTime (by decide) (by decide) (by decide)
    (by decide +kernel) (by decide +kernel)
  have read : instant? meanLocalTime.text = some (meanLocalTime.instant + _) :=
    instant?_text (by decide) (by decide) (by decide) (by decide +kernel) (by decide +kernel)
  rw [read, Option.some.injEq, add_eq_left, Int.cast_eq_zero] at kept
  exact absurd kept (by decide)

end Timestamp

end SqlBuilder
