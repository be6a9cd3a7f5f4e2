import SqlBuilder.Calendar.Date

/-!
# Timestamps

A timestamp is an instant together with the offset from UTC at which it is
written.  Its text is the local date and time, a fraction of the second where
there is one, and the offset in hours and minutes.
-/

namespace SqlBuilder

/--
An instant and the offset it is written at.

Seconds count from the start of 1 January 1970 in UTC.  Nanoseconds from one
thousand million on lie within a leap second, which follows the second counted.
The offset is in seconds, positive to the east.
-/
structure Timestamp where
  seconds : Int
  nanoseconds : Nat
  offset : Int
deriving DecidableEq

namespace Timestamp

/-- Seconds in a day. -/
def daySeconds : Int := 86400

/-- Nanoseconds in a second. -/
def secondNanoseconds : Nat := 1000000000

/-- The seconds on a clock at the timestamp's offset. -/
def localSeconds (timestamp : Timestamp) : Int :=
  timestamp.seconds + timestamp.offset

/-- The date on a calendar at the timestamp's offset. -/
def localDate (timestamp : Timestamp) : Date :=
  Date.ofDayNumber (timestamp.localSeconds / daySeconds)

/-- The second of the local day, without a leap second. -/
def secondOfDay (timestamp : Timestamp) : Nat :=
  (timestamp.localSeconds % daySeconds).toNat

/-- One within a leap second, and zero otherwise. -/
def leapSecond (timestamp : Timestamp) : Nat :=
  if secondNanoseconds ≤ timestamp.nanoseconds then 1 else 0

/--
Hour, minute and second with colons between them.  A leap second is counted on
from the second before it and never carried into the minute.
-/
def clockText (timestamp : Timestamp) : Text :=
  let second := timestamp.secondOfDay
  Text.decimal 2 (second / 3600) ++
    ':' :: Text.decimal 2 (second / 60 % 60) ++
    ':' :: Text.decimal 2 (second % 60 + timestamp.leapSecond)

/-- The fraction of the second with up to nine digits; nothing when it is zero. -/
def fractionText (timestamp : Timestamp) : Text :=
  Text.fraction (Text.decimal 9 (timestamp.nanoseconds % secondNanoseconds))

/--
The letter Z for no offset, and otherwise the sign, hours and minutes of the
offset.  Seconds of the offset are left out.
-/
def offsetText (offset : Int) : Text :=
  if offset = 0 then
    ['Z']
  else
    (if offset < 0 then '-' else '+') ::
      Text.decimal 2 (offset.natAbs / 3600) ++
      ':' :: Text.decimal 2 (offset.natAbs % 3600 / 60)

/-- The text of a timestamp. -/
def text (timestamp : Timestamp) : Text :=
  timestamp.localDate.text ++ 'T' :: timestamp.clockText ++
    timestamp.fractionText ++ offsetText timestamp.offset

end Timestamp

end SqlBuilder
