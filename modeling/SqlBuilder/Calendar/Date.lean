import SqlBuilder.Text

/-!
# Dates

Dates of the Gregorian calendar, carried on in both directions without end.  A
day is counted from 1 January 1970.

To find the date of a day, the year is taken to open on 1 March, so that a leap
day is the last day of its year.  The calendar repeats every 400 years; within
such a cycle all centuries but the last have the same length, within a century
all groups of four years but the last, and within such a group all years but the
last.
-/

namespace SqlBuilder

/-- A calendar date; year 0 comes before year 1. -/
structure Date where
  year : Int
  month : Nat
  day : Nat
deriving DecidableEq

namespace Date

/-- Days in 400 years. -/
def cycleDays : Nat := 146097

/-- Days in a century that does not end with a leap day. -/
def centuryDays : Nat := 36524

/-- Days in four years that end with a leap day. -/
def fourYearDays : Nat := 1461

/-- Days in a year that does not end with a leap day. -/
def commonYearDays : Nat := 365

/-- Days from 1 March of year 0 to 1 January 1970. -/
def epochDays : Int := 719468

/-- The year of a 400-year cycle that a day of the cycle lies in, and the day of that year. -/
def yearOfCycle (dayOfCycle : Nat) : Nat × Nat :=
  let century := min (dayOfCycle / centuryDays) 3
  let dayOfCentury := dayOfCycle - century * centuryDays
  let group := dayOfCentury / fourYearDays
  let dayOfGroup := dayOfCentury % fourYearDays
  let year := min (dayOfGroup / commonYearDays) 3
  (100 * century + 4 * group + year, dayOfGroup - year * commonYearDays)

/-- The months before a day of the year, and the days before it in its month, from March on. -/
def monthOfYear (dayOfYear : Nat) : Nat × Nat :=
  let month := (5 * dayOfYear + 2) / 153
  (month, dayOfYear - (153 * month + 2) / 5)

/-- The date of a day, counted from 1 January 1970. -/
def ofDayNumber (number : Int) : Date :=
  let fromMarch := number + epochDays
  let cycle := fromMarch / (cycleDays : Int)
  let (yearInCycle, dayOfYear) := yearOfCycle (fromMarch % (cycleDays : Int)).toNat
  let (monthsBefore, daysBefore) := monthOfYear dayOfYear
  let year := 400 * cycle + (yearInCycle : Int)
  if monthsBefore < 10 then
    ⟨year, monthsBefore + 3, daysBefore + 1⟩
  else
    ⟨year + 1, monthsBefore - 9, daysBefore + 1⟩

/--
A year has at least four digits.  Years after 9999 have a plus sign in front,
years before 0 a minus sign.
-/
def yearText (year : Int) : Text :=
  if year < 0 then
    '-' :: Text.decimal 4 year.natAbs
  else if year ≤ 9999 then
    Text.decimal 4 year.natAbs
  else
    '+' :: Text.decimal 4 year.natAbs

/-- Year, month and day with hyphens between them. -/
def text (date : Date) : Text :=
  yearText date.year ++ '-' :: Text.decimal 2 date.month ++ '-' :: Text.decimal 2 date.day

end Date

end SqlBuilder
