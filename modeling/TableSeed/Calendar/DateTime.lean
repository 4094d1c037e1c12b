import TableSeed.Calendar.Date

/-!
# Points in time

A point in time is a day number, a second of the day and a number of nanoseconds. Nanoseconds of
one second and more stand for a leap second, which follows the last second of a minute.
-/

namespace TableSeed.Calendar

/-- A point in time. -/
structure DateTime where
  /-- The days since the first of January 1970. -/
  days : Int
  /-- The second of the day. -/
  second : Nat
  nanosecond : Nat := 0
  deriving DecidableEq, Repr

/-- The number of seconds of a day. -/
def secondsPerDay : Nat := 86400

/-- The number of nanoseconds of a second. -/
def nanosPerSecond : Nat := 1000000000

namespace DateTime

/-- The date. -/
def date (t : DateTime) : Date := Date.ofDays t.days

/-- Whether the time is in a leap second. -/
def isLeapSecond (t : DateTime) : Bool := nanosPerSecond ≤ t.nanosecond

/-- The hour of the day. -/
def hour (t : DateTime) : Nat := t.second / 3600

/-- The minute of the hour. -/
def minute (t : DateTime) : Nat := t.second / 60 % 60

/-- The second of the minute, which a leap second makes 60. -/
def secondOfMinute (t : DateTime) : Nat := t.second % 60 + t.nanosecond / nanosPerSecond

/-- The nanoseconds of the second. -/
def fraction (t : DateTime) : Nat := t.nanosecond % nanosPerSecond

/-- The seconds since the start of 1970. -/
def unixTime (t : DateTime) : Int := t.days * secondsPerDay + t.second

/-- The point in time that many seconds after the start of 1970. -/
def ofUnixTime (n : Int) : DateTime :=
  ⟨n.fdiv secondsPerDay, (n - n.fdiv secondsPerDay * secondsPerDay).toNat, 0⟩

/-- The point in time if its date stands in the calendar. -/
def inRange (t : DateTime) : Option DateTime :=
  if Date.minDays ≤ t.days && t.days ≤ Date.maxDays then some t else none

/-- The time that many seconds later; the nanoseconds, and a leap second with them, stay. -/
def shiftSeconds (t : DateTime) (n : Int) : DateTime :=
  { ofUnixTime (t.unixTime + n) with nanosecond := t.nanosecond }

/-- The greatest number of days that a shift may have. -/
def maxShift : Int := (0x8000000000000000 - 1) / 1000 / secondsPerDay

/-- The time that many days later, if its date stands in the calendar. A leap second ends when the
date changes: going on, it counts as the second before it, and going back as the second after. -/
def addDays (t : DateTime) (n : Int) : Option DateTime :=
  if n < -maxShift || maxShift < n then none
  else if n = 0 then some t
  else
    let start := if t.isLeapSecond then { t with nanosecond := t.nanosecond - nanosPerSecond } else t
    let start := if t.isLeapSecond && n < 0 then start.shiftSeconds 1 else start
    inRange { start with days := start.days + n }

end DateTime

end TableSeed.Calendar
