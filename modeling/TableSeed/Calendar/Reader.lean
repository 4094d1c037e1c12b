import TableSeed.Calendar.DateTime
import TableSeed.Text.Blank

/-!
# Reading dates

A text is a date in one of several layouts, tried in turn: a date and a time with an offset, which
is taken into account; a date and a time without one, where a `Z` at the end is dropped; and a
date alone, which stands for midnight.
-/

namespace TableSeed.Calendar

namespace Reader

/-- A reader takes what it reads from the front of a text. -/
abbrev Reading (α : Type) := StateT (List Char) Option α

/-- Reads nothing and fails. -/
def fail {α : Type} : Reading α := fun _ => none

/-- At least `least` and at most `most` decimal digits. -/
def number (least most : Nat) : Reading Nat := fun cs =>
  let digits := (cs.take most).takeWhile Char.isDigit
  if digits.length < least then none
  else some (digits.foldl (fun n c => n * 10 + (c.toNat - 48)) 0, cs.drop digits.length)

/-- A number in a range. -/
def numberIn (least most low high : Nat) : Reading Nat := do
  let n ← number least most
  if low ≤ n && n ≤ high then return n else fail

/-- One character. -/
def char (c : Char) : Reading Unit := fun cs =>
  match cs with
  | [] => none
  | d :: rest => if d = c then some ((), rest) else none

/-- One of several characters. -/
def oneOf (options : List Char) : Reading Char := fun cs =>
  match cs with
  | [] => none
  | c :: rest => if options.contains c then some (c, rest) else none

/-- Takes white space away. -/
def blanks : Reading Unit := modify Text.trimStart

/-- Takes decimal digits away. -/
def skipDigits : Reading Unit := modify fun cs => cs.dropWhile Char.isDigit

/-- The nanoseconds that the digits after a point stand for; digits after the ninth are skipped. -/
def fractionDigits : Reading Nat := do
  let before := (← get).length
  let n ← number 1 9
  let count := before - (← get).length
  skipDigits
  return n * Nat.pow 10 (9 - count)

/-- A point with nanoseconds, or nothing. -/
def fraction : Reading Nat := do
  if (← get).head? == some '.' then
    char '.'
    fractionDigits
  else return 0

/-- The minus signs of an offset. -/
def minusSigns : List Char := ['-', '−']

/-- An offset from the time of Greenwich, in seconds. -/
def offset : Reading Int := do
  let c ← oneOf (['Z', 'z', '+'] ++ minusSigns)
  if c = 'Z' || c = 'z' then return 0
  else
    let hours ← numberIn 2 2 0 23
    char ':'
    let minutes ← numberIn 2 2 0 59
    let seconds : Int := (hours * 60 + minutes : Nat) * 60
    return if minusSigns.contains c then -seconds else seconds

/-- The end of the text. -/
def atEnd : Reading Unit := do
  if (← get).isEmpty then return () else fail

/-- A date that stands in the calendar. -/
def checkedDate (year : Int) (month day : Nat) : Reading Date :=
  let d : Date := ⟨year, month, day⟩
  if d.isValid then pure d else fail

/-- A time of the day; second 60 is a leap second. -/
def atTime (d : Date) (hour minute second nanosecond : Nat) : DateTime :=
  let leap := second = 60
  ⟨d.toDays, (hour * 60 + minute) * 60 + (if leap then 59 else second),
    nanosecond + (if leap then nanosPerSecond else 0)⟩

/-- A date and a time with an offset, in fields of fixed width. -/
def withOffset : Reading DateTime := do
  let year ← number 4 4
  char '-'
  let month ← numberIn 2 2 1 12
  char '-'
  let day ← numberIn 2 2 1 31
  let _ ← oneOf ['T', 't', ' ']
  let hour ← numberIn 2 2 0 23
  char ':'
  let minute ← numberIn 2 2 0 59
  char ':'
  let second ← numberIn 2 2 0 60
  let nanosecond ← fraction
  let seconds ← offset
  atEnd
  let d ← checkedDate year month day
  ((atTime d hour minute second nanosecond).shiftSeconds (-seconds)).inRange

/-- A year: up to four digits, or any number of them after a sign. -/
def year : Reading Int := do
  blanks
  let cs ← get
  match cs.head? with
  | some '-' =>
    char '-'
    return -(← number 1 cs.length : Nat)
  | some '+' =>
    char '+'
    return (← number 1 cs.length : Nat)
  | _ => return (← number 1 4 : Nat)

/-- A field of one or two digits in a range, with blanks before it. -/
def field (low high : Nat) : Reading Nat := do
  blanks
  numberIn 1 2 low high

/-- A date with the year first. -/
def yearFirst : Reading Date := do
  let y ← year
  char '-'
  let m ← field 1 12
  char '-'
  let d ← field 1 31
  checkedDate y m d

/-- A date with the day first. -/
def dayFirst : Reading Date := do
  let d ← field 1 31
  char '/'
  let m ← field 1 12
  char '/'
  let y ← year
  checkedDate y m d

/-- A date and a time without an offset, with a given text between them. -/
def withoutOffset (date : Reading Date) (separator : Reading Unit) (second : Reading (Nat × Nat)) :
    Reading DateTime := do
  let d ← date
  separator
  let hour ← field 0 23
  char ':'
  let minute ← field 0 59
  char ':'
  let (second, nanosecond) ← second
  atEnd
  return atTime d hour minute second nanosecond

/-- A second without a fraction. -/
def wholeSecond : Reading (Nat × Nat) := do return (← field 0 60, 0)

/-- A second that may have a fraction. -/
def anySecond : Reading (Nat × Nat) := do
  let second ← field 0 60
  return (second, ← fraction)

/-- A date alone. -/
def alone (date : Reading Date) : Reading DateTime := do
  let d ← date
  atEnd
  return atTime d 0 0 0 0

/-- The text without the letters `Z` at its end. -/
def withoutZ (cs : List Char) : List Char := (cs.reverse.dropWhile (· = 'Z')).reverse

/-- The layouts without an offset, a text without letters `Z` at its end is tried in. -/
def dateTimes : List (Reading DateTime) :=
  [withoutOffset yearFirst (char 'T') anySecond, withoutOffset yearFirst (char 'T') wholeSecond,
   withoutOffset yearFirst blanks wholeSecond, withoutOffset dayFirst blanks wholeSecond]

/-- The layouts of a date alone. -/
def dates : List (Reading DateTime) := [alone yearFirst, alone dayFirst]

/-- The value of the first reader that reads a text. -/
def firstOf (readers : List (Reading DateTime)) (cs : List Char) : Option DateTime :=
  readers.findSome? fun reader => (reader cs).map Prod.fst

end Reader

/-- The point in time that a text names. -/
def DateTime.parse? (text : String) : Option DateTime :=
  let cs := text.toList
  (Reader.firstOf [Reader.withOffset] cs)
    <|> (Reader.firstOf Reader.dateTimes (Reader.withoutZ cs))
    <|> (Reader.firstOf Reader.dates cs)

end TableSeed.Calendar
