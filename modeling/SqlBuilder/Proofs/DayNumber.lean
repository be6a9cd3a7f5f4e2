import Mathlib.Tactic.IntervalCases
import SqlBuilder.Calendar.Date

/-!
# Dates and days

A date is counted by the rules of the Gregorian calendar: which years are leap
years, how long the months are, how many days lie before a year and before a
month of it.  These rules know nothing of cycles and of years that open in March.

The date found for a day is a date of the calendar, and counting up to it gives
the day again.  No two dates of the calendar are the same day.
-/

namespace SqlBuilder

namespace Date

/-! ## The calendar -/

/-- Every fourth year is a leap year, but of the full centuries only every fourth. -/
def IsLeapYear (year : Int) : Prop :=
  year % 4 = 0 ∧ (year % 100 = 0 → year % 400 = 0)

instance (year : Int) : Decidable (IsLeapYear year) :=
  inferInstanceAs (Decidable (_ ∧ _))

/-- The days of a year. -/
def yearDays (year : Int) : Nat :=
  if IsLeapYear year then 366 else 365

/-- The days of a month; months are counted from 1. -/
def monthDays (year : Int) (month : Nat) : Nat :=
  if month = 2 then
    if IsLeapYear year then 29 else 28
  else if month = 4 ∨ month = 6 ∨ month = 9 ∨ month = 11 then
    30
  else
    31

/-- The days from the first of year 0 to the first of a year. -/
def daysBeforeYear (year : Int) : Int :=
  365 * year + (year + 3) / 4 - (year + 99) / 100 + (year + 399) / 400

/-- The days of a year before a month of it. -/
def daysBeforeMonth (year : Int) (month : Nat) : Nat :=
  ((List.range' 1 (month - 1)).map (monthDays year)).sum

/-- A month of the year and a day of the month. -/
structure IsValid (date : Date) : Prop where
  month_pos : 1 ≤ date.month
  month_le : date.month ≤ 12
  day_pos : 1 ≤ date.day
  day_le : date.day ≤ monthDays date.year date.month

instance (date : Date) : Decidable date.IsValid :=
  decidable_of_iff
    (1 ≤ date.month ∧ date.month ≤ 12 ∧ 1 ≤ date.day ∧
      date.day ≤ monthDays date.year date.month)
    ⟨fun ⟨first, second, third, fourth⟩ => ⟨first, second, third, fourth⟩,
      fun ⟨first, second, third, fourth⟩ => ⟨first, second, third, fourth⟩⟩

/-- The day of a date, counted from 1 January 1970. -/
def dayNumber (date : Date) : Int :=
  daysBeforeYear date.year - daysBeforeYear 1970 +
    daysBeforeMonth date.year date.month + (date.day - 1)

theorem daysBeforeYear_succ (year : Int) :
    daysBeforeYear (year + 1) = daysBeforeYear year + yearDays year := by
  unfold daysBeforeYear yearDays
  by_cases leap : IsLeapYear year
  · rw [if_pos leap]
    unfold IsLeapYear at leap
    omega
  · rw [if_neg leap]
    unfold IsLeapYear at leap
    omega

/-- The months of a year have the days of the year. -/
theorem daysBeforeMonth_thirteen (year : Int) : daysBeforeMonth year 13 = yearDays year := by
  by_cases leap : IsLeapYear year <;>
    simp [daysBeforeMonth, monthDays, yearDays, leap, List.range']

/-! ## Years that open in March -/

/-- A day of a 400-year cycle lies that many years and days into the cycle. -/
theorem yearOfCycle_spec {dayOfCycle : Nat} (inCycle : dayOfCycle < cycleDays) :
    ∃ year dayOfYear, yearOfCycle dayOfCycle = (year, dayOfYear) ∧
      year < 400 ∧
      dayOfCycle + year / 100 = 365 * year + year / 4 + dayOfYear ∧
      dayOfYear ≤ 365 ∧
      (dayOfYear = 365 → IsLeapYear (year + 1)) := by
  refine ⟨_, _, rfl, ?_⟩
  simp only [cycleDays, centuryDays, fourYearDays, commonYearDays] at inCycle ⊢
  -- The last century of a cycle, and the last year of four, may be one day longer.
  obtain ⟨century, dayOfCentury, centuryEq, centuryLe, centuryDay, ordinaryCentury⟩ :
      ∃ century dayOfCentury, min (dayOfCycle / 36524) 3 = century ∧ century ≤ 3 ∧
        dayOfCycle = century * 36524 + dayOfCentury ∧
        dayOfCentury ≤ 36524 ∧ (dayOfCentury = 36524 → century = 3) :=
    ⟨_, dayOfCycle - min (dayOfCycle / 36524) 3 * 36524, rfl, by omega, by omega, by omega,
      by omega⟩
  have restOfCentury : dayOfCycle - century * 36524 = dayOfCentury := by omega
  rw [centuryEq, restOfCentury]
  obtain ⟨group, dayOfGroup, groupEq, restEq, groupDay, dayLt⟩ :
      ∃ group dayOfGroup, dayOfCentury / 1461 = group ∧ dayOfCentury % 1461 = dayOfGroup ∧
        dayOfCentury = 1461 * group + dayOfGroup ∧ dayOfGroup ≤ 1460 :=
    ⟨_, _, rfl, rfl, by omega, by omega⟩
  rw [groupEq, restEq]
  obtain ⟨year, yearEq, yearLe, longYear⟩ :
      ∃ year, min (dayOfGroup / 365) 3 = year ∧ year ≤ 3 ∧ 365 * year ≤ dayOfGroup ∧
        dayOfGroup - 365 * year ≤ 365 ∧ (dayOfGroup - 365 * year = 365 → dayOfGroup = 1460) :=
    ⟨_, rfl, by omega, by omega, by omega, by omega⟩
  rw [yearEq]
  have quarters : (100 * century + 4 * group + year) / 4 = 25 * century + group := by omega
  have centuries : (100 * century + 4 * group + year) / 100 = century := by omega
  rw [quarters, centuries]
  refine ⟨by omega, by omega, by omega, ?_⟩
  intro lastDay
  unfold IsLeapYear
  omega

/-- A day of the year lies in the month whose first day is the last one not after it. -/
theorem monthOfYear_spec {dayOfYear : Nat} (inYear : dayOfYear ≤ 365) :
    ∃ month dayOfMonth, monthOfYear dayOfYear = (month, dayOfMonth) ∧
      month < 12 ∧
      dayOfYear = (153 * month + 2) / 5 + dayOfMonth ∧
      dayOfYear < (153 * (month + 1) + 2) / 5 :=
  ⟨_, _, rfl, by omega, by omega, by omega⟩

/-- The months before March, April and so on, counted from March. -/
theorem daysBeforeMonth_add_three (year : Int) {month : Nat} (sameYear : month < 10) :
    daysBeforeMonth year (month + 3) + 306 = yearDays year + (153 * month + 2) / 5 := by
  by_cases leap : IsLeapYear year <;> interval_cases month <;>
    simp [daysBeforeMonth, monthDays, yearDays, leap, List.range']

theorem daysBeforeMonth_sub_nine (year : Int) {month : Nat} (nextYear : 10 ≤ month)
    (inYear : month < 12) :
    daysBeforeMonth year (month - 9) + 306 = (153 * month + 2) / 5 := by
  interval_cases month <;> simp [daysBeforeMonth, monthDays]

/-- The days before the year that follows one, as the sum of whole cycles and of years. -/
theorem daysBeforeYear_cycle (cycle : Int) (yearInCycle : Nat) (inCycle : yearInCycle < 400) :
    daysBeforeYear (400 * cycle + yearInCycle + 1) =
      366 + 146097 * cycle + 365 * yearInCycle + (yearInCycle / 4 : Nat) -
        (yearInCycle / 100 : Nat) := by
  unfold daysBeforeYear
  omega

/-- The months from March on last until the next one begins; February ends with the year. -/
theorem monthDays_add_three (year : Int) {month : Nat} (sameYear : month < 10) :
    (153 * month + 2) / 5 + monthDays year (month + 3) = (153 * (month + 1) + 2) / 5 := by
  interval_cases month <;> simp [monthDays]

theorem monthDays_sub_nine (year : Int) {month : Nat} (nextYear : 10 ≤ month)
    (inYear : month < 12) :
    min ((153 * (month + 1) + 2) / 5) (yearDays year) =
      (153 * month + 2) / 5 + monthDays year (month - 9) := by
  by_cases leap : IsLeapYear year <;> interval_cases month <;>
    simp [monthDays, yearDays, leap]

theorem monthDays_le (year : Int) (month : Nat) : monthDays year month ≤ 31 := by
  unfold monthDays
  split_ifs <;> omega

/-! ## The date of a day -/

/-- What the date of a day consists of: its year from March on, and the month in that year. -/
theorem ofDayNumber_spec (number : Int) :
    ∃ (year : Int) (month dayOfMonth : Nat),
      month < 12 ∧
      number + 719528 =
        daysBeforeYear (year + 1) + ((153 * month + 2) / 5 : Nat) + dayOfMonth - 306 ∧
      (153 * month + 2) / 5 + dayOfMonth <
        min ((153 * (month + 1) + 2) / 5) (yearDays (year + 1)) ∧
      ofDayNumber number =
        if month < 10 then ⟨year, month + 3, dayOfMonth + 1⟩
        else ⟨year + 1, month - 9, dayOfMonth + 1⟩ := by
  obtain ⟨cycle, dayOfCycle, cycleEq, dayEq, inCycle, whole⟩ :
      ∃ cycle dayOfCycle, (number + epochDays) / (cycleDays : Int) = cycle ∧
        ((number + epochDays) % (cycleDays : Int)).toNat = dayOfCycle ∧
        dayOfCycle < cycleDays ∧ number + epochDays = cycleDays * cycle + dayOfCycle := by
    refine ⟨_, _, rfl, rfl, ?_, ?_⟩ <;> simp only [cycleDays, epochDays] <;> omega
  obtain ⟨yearInCycle, dayOfYear, yearEq, yearLt, yearDay, dayLe, lastDay⟩ :=
    yearOfCycle_spec inCycle
  obtain ⟨month, dayOfMonth, monthEq, monthLt, monthDay, dayLt⟩ := monthOfYear_spec dayLe
  refine ⟨400 * cycle + yearInCycle, month, dayOfMonth, monthLt, ?_, ?_, ?_⟩
  · rw [daysBeforeYear_cycle cycle yearInCycle yearLt]
    simp only [cycleDays, epochDays] at whole
    omega
  · refine lt_min (monthDay ▸ dayLt) ?_
    have leapShift : IsLeapYear (yearInCycle + 1) →
        IsLeapYear (400 * cycle + yearInCycle + 1) := by
      unfold IsLeapYear
      omega
    rw [← monthDay, yearDays]
    split
    · omega
    · rename_i common
      have short : dayOfYear ≠ 365 := fun last => common (leapShift (lastDay last))
      omega
  · simp only [ofDayNumber, cycleEq, dayEq, yearEq, monthEq]

/-- The date of a day is a date of the calendar. -/
theorem isValid_ofDayNumber (number : Int) : (ofDayNumber number).IsValid := by
  obtain ⟨year, month, dayOfMonth, inYear, -, inMonth, date⟩ := ofDayNumber_spec number
  rw [date]
  split
  · rename_i sameYear
    have length := monthDays_add_three year sameYear
    exact ⟨by simp, by simp; omega, by simp, by simp; omega⟩
  · rename_i nextYear
    have length := monthDays_sub_nine (year + 1) (Nat.not_lt.mp nextYear) inYear
    exact ⟨by simp; omega, by simp; omega, by simp, by simp; omega⟩

/-- Counting up to the date of a day gives the day. -/
theorem dayNumber_ofDayNumber (number : Int) : (ofDayNumber number).dayNumber = number := by
  obtain ⟨year, month, dayOfMonth, inYear, counted, -, date⟩ := ofDayNumber_spec number
  have epoch : daysBeforeYear 1970 = 719528 := by decide
  rw [date]
  split
  · rename_i sameYear
    have before := daysBeforeMonth_add_three year sameYear
    have wholeYear := daysBeforeYear_succ year
    simp only [dayNumber, epoch]
    omega
  · rename_i nextYear
    have before := daysBeforeMonth_sub_nine (year + 1) (Nat.not_lt.mp nextYear) inYear
    simp only [dayNumber, epoch]
    omega

/-- Leap days are counted in a century that has one, and not in one that has none. -/
example :
    dayNumber ⟨2000, 3, 1⟩ - dayNumber ⟨2000, 2, 28⟩ = 2 ∧
      dayNumber ⟨1900, 3, 1⟩ - dayNumber ⟨1900, 2, 28⟩ = 1 := by
  decide

/-! ## The day of a date -/

theorem daysBeforeMonth_succ (year : Int) {month : Nat} (first : 1 ≤ month) :
    daysBeforeMonth year (month + 1) = daysBeforeMonth year month + monthDays year month := by
  obtain ⟨before, rfl⟩ : ∃ before, month = before + 1 := ⟨month - 1, by omega⟩
  simp only [daysBeforeMonth, Nat.add_sub_cancel, List.range'_concat, List.map_append,
    List.sum_append, Nat.one_mul, List.map_cons, List.map_nil, List.sum_cons, List.sum_nil,
    Nat.add_zero, Nat.add_comm 1]

/-- A later month begins behind the end of an earlier one. -/
theorem daysBeforeMonth_of_lt (year : Int) {month later : Nat} (first : 1 ≤ month)
    (before : month < later) :
    daysBeforeMonth year month + monthDays year month ≤ daysBeforeMonth year later := by
  induction later, before using Nat.le_induction with
  | base => rw [daysBeforeMonth_succ year first]
  | succ later before ih =>
      rw [daysBeforeMonth_succ year (by omega)]
      exact ih.trans (Nat.le_add_right ..)

/-- A later year begins behind the end of an earlier one. -/
theorem daysBeforeYear_of_lt {year later : Int} (before : year < later) :
    daysBeforeYear year + yearDays year ≤ daysBeforeYear later := by
  rw [← daysBeforeYear_succ]
  unfold daysBeforeYear
  omega

variable {date other : Date}

namespace IsValid

theorem daysBeforeMonth_le (valid : date.IsValid) :
    daysBeforeMonth date.year date.month + date.day ≤ yearDays date.year := by
  rw [← daysBeforeMonth_thirteen]
  exact (Nat.add_le_add_left valid.day_le _).trans
    (daysBeforeMonth_of_lt _ valid.month_pos (Nat.lt_succ_of_le valid.month_le))

/-- A date of an earlier year is counted before one of a later year. -/
theorem dayNumber_lt_of_year_lt (valid : date.IsValid) (also : other.IsValid)
    (before : date.year < other.year) : date.dayNumber < other.dayNumber := by
  have inYear := valid.daysBeforeMonth_le
  have years := daysBeforeYear_of_lt before
  have day := also.day_pos
  unfold dayNumber
  omega

theorem dayNumber_lt_of_month_lt (valid : date.IsValid) (also : other.IsValid)
    (same : date.year = other.year) (before : date.month < other.month) :
    date.dayNumber < other.dayNumber := by
  have months := daysBeforeMonth_of_lt date.year valid.month_pos before
  have inMonth := valid.day_le
  have day := also.day_pos
  unfold dayNumber
  rw [← same]
  omega

/-- No two dates of the calendar are the same day. -/
theorem eq_of_dayNumber_eq (valid : date.IsValid) (also : other.IsValid)
    (sameDay : date.dayNumber = other.dayNumber) : date = other := by
  have sameYear : date.year = other.year := by
    rcases lt_trichotomy date.year other.year with before | same | behind
    · exact absurd sameDay (valid.dayNumber_lt_of_year_lt also before).ne
    · exact same
    · exact absurd sameDay (also.dayNumber_lt_of_year_lt valid behind).ne'
  have sameMonth : date.month = other.month := by
    rcases lt_trichotomy date.month other.month with before | same | behind
    · exact absurd sameDay (valid.dayNumber_lt_of_month_lt also sameYear before).ne
    · exact same
    · exact absurd sameDay (also.dayNumber_lt_of_month_lt valid sameYear.symm behind).ne'
  obtain ⟨year, month, day⟩ := date
  obtain ⟨_, _, otherDay⟩ := other
  obtain rfl : year = _ := sameYear
  obtain rfl : month = _ := sameMonth
  have : day = otherDay := by
    simp only [dayNumber] at sameDay
    omega
  rw [this]

end IsValid

end Date

end SqlBuilder
