/-!
# Dates

A date of the Gregorian calendar, carried on in both directions, has a day number: the days since
the first of January 1970. Years count through zero. `Date.ofDays` gives the date of a day number
and `Date.toDays` the day number of a date, by eras of 400 years that start in March.
-/

namespace TableSeed.Calendar

/-- A year, a month from 1 on and a day from 1 on. -/
structure Date where
  year : Int
  month : Nat
  day : Nat
  deriving DecidableEq, Repr

/-- Whether a year has 366 days. -/
def isLeapYear (year : Int) : Bool := year % 4 == 0 && (year % 100 != 0 || year % 400 == 0)

/-- The number of days of a month. -/
def daysInMonth (year : Int) (month : Nat) : Nat :=
  match month with
  | 1 | 3 | 5 | 7 | 8 | 10 | 12 => 31
  | 4 | 6 | 9 | 11 => 30
  | 2 => if isLeapYear year then 29 else 28
  | _ => 0

namespace Date

/-- The first year. -/
def minYear : Int := -262143

/-- The last year. -/
def maxYear : Int := 262142

/-- Whether the date stands in the calendar. -/
def isValid (d : Date) : Bool :=
  minYear ≤ d.year && d.year ≤ maxYear && 1 ≤ d.month && d.month ≤ 12 && 1 ≤ d.day &&
    d.day ≤ daysInMonth d.year d.month

/-- The days between the first of March of the year zero and the first of January 1970. -/
def epochOffset : Int := 719468

/-- The day number of a date. -/
def toDays (d : Date) : Int :=
  let y := if d.month ≤ 2 then d.year - 1 else d.year
  let era := y.fdiv 400
  let yearOfEra := y - era * 400
  let monthFromMarch : Int := (d.month + 9) % 12
  let dayOfYear := (153 * monthFromMarch + 2) / 5 + d.day - 1
  let dayOfEra := yearOfEra * 365 + yearOfEra / 4 - yearOfEra / 100 + dayOfYear
  era * 146097 + dayOfEra - epochOffset

/-- The date of a day number. -/
def ofDays (n : Int) : Date :=
  let z := n + epochOffset
  let era := z.fdiv 146097
  let dayOfEra := z - era * 146097
  let yearOfEra := (dayOfEra - dayOfEra / 1460 + dayOfEra / 36524 - dayOfEra / 146096) / 365
  let dayOfYear := dayOfEra - (365 * yearOfEra + yearOfEra / 4 - yearOfEra / 100)
  let monthFromMarch := (5 * dayOfYear + 2) / 153
  let day := (dayOfYear - (153 * monthFromMarch + 2) / 5 + 1).toNat
  let month := (if monthFromMarch < 10 then monthFromMarch + 3 else monthFromMarch - 9).toNat
  let year := yearOfEra + era * 400
  ⟨if month ≤ 2 then year + 1 else year, month, day⟩

/-- The day number of the first date. -/
def minDays : Int := toDays ⟨minYear, 1, 1⟩

/-- The day number of the last date. -/
def maxDays : Int := toDays ⟨maxYear, 12, 31⟩

/-- The day of the year, from 1 on. -/
def dayOfYear (d : Date) : Nat := (d.toDays - toDays ⟨d.year, 1, 1⟩ + 1).toNat

/-- The day of the week, with Monday as zero. -/
def weekday (d : Date) : Nat := ((d.toDays + 3) % 7).toNat

/-- The number of the week in its year, where the days before the first week start are in week
zero; weeks start on the given day, with Monday as zero. -/
def weekFrom (start : Nat) (d : Date) : Nat :=
  (d.dayOfYear + 6 - (d.weekday + 7 - start) % 7) / 7

/-- The year and the week by the rule that a week belongs to the year of its Thursday. -/
def isoWeek (d : Date) : Int × Nat :=
  let thursday := ofDays (d.toDays - d.weekday + 3)
  (thursday.year, (thursday.dayOfYear - 1) / 7 + 1)

end Date

end TableSeed.Calendar
