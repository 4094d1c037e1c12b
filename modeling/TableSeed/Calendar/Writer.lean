import TableSeed.Calendar.DateTime

/-!
# Writing dates

A format is text with directives. A numeric directive may have its padding changed; a directive
that is unknown, that is cut off, or that needs a time zone has no text.
-/

namespace TableSeed.Calendar

/-- What fills a number up to its width. -/
inductive Padding where
  | none | zero | space
  deriving DecidableEq, Repr

/-- A directive with a number. -/
inductive NumericDirective where
  | year | century | yearOfCentury | isoYear | isoYearOfCentury | quarter | month | day
  | weekFromSunday | weekFromMonday | isoWeek | weekdayFromSunday | weekdayFromMonday | dayOfYear
  | hour | hour12 | minute | second | nanosecond | timestamp
  deriving DecidableEq, Repr

/-- A part of a format. -/
inductive FormatItem where
  | text (cs : List Char)
  | numeric (n : NumericDirective) (padding : Padding)
  | weekdayName (long : Bool)
  | monthName (long : Bool)
  | dayHalf (upper : Bool)
  /-- The fraction of the second with a point, in as many groups of three digits as it needs. -/
  | fraction
  /-- The fraction of the second with a given number of digits. -/
  | fractionDigits (digits : Nat) (point : Bool)
  deriving DecidableEq, Repr

namespace FormatItem

/-- The names of the weekdays from Monday on. -/
def weekdayNames : List String :=
  ["Monday", "Tuesday", "Wednesday", "Thursday", "Friday", "Saturday", "Sunday"]

/-- The names of the months. -/
def monthNames : List String :=
  ["January", "February", "March", "April", "May", "June", "July", "August", "September", "October",
   "November", "December"]

/-- A name, or its first three letters. -/
def nameText (names : List String) (i : Nat) (long : Bool) : List Char :=
  let name := (names.getD i "").toList
  if long then name else name.take 3

/-- Characters filled up to a width. -/
def pad (padding : Padding) (width : Nat) (cs : List Char) : List Char :=
  match padding with
  | .none => cs
  | .zero => List.replicate (width - cs.length) '0' ++ cs
  | .space => List.replicate (width - cs.length) ' ' ++ cs

/-- A number of at least `width` digits. -/
def number (padding : Padding) (width : Nat) (n : Int) : List Char :=
  let digits := Nat.toDigits 10 n.natAbs
  if n < 0 then
    match padding with
    | .zero => '-' :: pad .zero (width - 1) digits
    | p => pad p width ('-' :: digits)
  else pad padding width digits

/-- A year: four digits, and with its sign outside the range of four digits. -/
def yearText (padding : Padding) (y : Int) : List Char :=
  if 0 ≤ y && y < 10000 then number padding 4 y
  else
    let digits := Nat.toDigits 10 y.natAbs
    let sign := if y < 0 then '-' else '+'
    match padding with
    | .zero => sign :: pad .zero 4 digits
    | p => pad p 5 (sign :: digits)

/-- A number of two places, of which the first may exceed nine. -/
def twoPlaces (padding : Padding) (n : Nat) : List Char :=
  let tens := n / 10
  let first := if tens = 0 then
      match padding with
      | .none => []
      | .space => [' ']
      | .zero => ['0']
    else [Char.ofNat (48 + tens)]
  first ++ [Char.ofNat (48 + n % 10)]

/-- A whole number modulo 256. -/
def lowByte (n : Int) : Nat := (n % 256).toNat

/-- The number of a directive. -/
def numericText (t : DateTime) (n : NumericDirective) (padding : Padding) : List Char :=
  let d := t.date
  match n with
  | .year => yearText padding d.year
  | .century => twoPlaces padding (lowByte (d.year.fdiv 100))
  | .yearOfCentury => twoPlaces padding (d.year % 100).toNat
  | .isoYear => yearText padding d.isoWeek.1
  | .isoYearOfCentury => twoPlaces padding (d.isoWeek.1 % 100).toNat
  | .quarter => Nat.toDigits 10 ((d.month - 1) / 3 + 1)
  | .month => twoPlaces padding d.month
  | .day => twoPlaces padding d.day
  | .weekFromSunday => twoPlaces padding (d.weekFrom 6)
  | .weekFromMonday => twoPlaces padding (d.weekFrom 0)
  | .isoWeek => twoPlaces padding d.isoWeek.2
  | .weekdayFromSunday => Nat.toDigits 10 ((d.weekday + 1) % 7)
  | .weekdayFromMonday => Nat.toDigits 10 (d.weekday + 1)
  | .dayOfYear => number padding 3 d.dayOfYear
  | .hour => twoPlaces padding t.hour
  | .hour12 => twoPlaces padding ((t.hour + 11) % 12 + 1)
  | .minute => twoPlaces padding t.minute
  | .second => twoPlaces padding t.secondOfMinute
  | .nanosecond => number padding 9 t.fraction
  | .timestamp => number padding 9 t.unixTime

/-- The fraction of a second in a number of digits. -/
def fractionText (t : DateTime) (digits : Nat) : List Char :=
  pad .zero digits (Nat.toDigits 10 (t.fraction / Nat.pow 10 (9 - digits)))

/-- The text of a part of a format. -/
def write (t : DateTime) : FormatItem → List Char
  | .text cs => cs
  | .numeric n padding => numericText t n padding
  | .weekdayName long => nameText weekdayNames t.date.weekday long
  | .monthName long => nameText monthNames (t.date.month - 1) long
  | .dayHalf upper =>
    let half := if t.hour < 12 then "am" else "pm"
    if upper then half.toList.map Char.toUpper else half.toList
  | .fraction =>
    if t.fraction = 0 then []
    else if t.fraction % 1000000 = 0 then '.' :: fractionText t 3
    else if t.fraction % 1000 = 0 then '.' :: fractionText t 6
    else '.' :: fractionText t 9
  | .fractionDigits digits point => (if point then ['.'] else []) ++ fractionText t digits

/-- A number filled with zeros. -/
def zeros (n : NumericDirective) : FormatItem := .numeric n .zero

/-- One literal character. -/
def literal (c : Char) : FormatItem := .text [c]

/-- Hour, minute and second. -/
def clock : List FormatItem := [zeros .hour, literal ':', zeros .minute, literal ':', zeros .second]

/-- Month, day and year of the century. -/
def shortDate : List FormatItem :=
  [zeros .month, literal '/', zeros .day, literal '/', zeros .yearOfCentury]

/-- The parts that a letter stands for. -/
def ofLetter? (c : Char) : Option (List FormatItem) :=
  match c with
  | 'A' => some [.weekdayName true]
  | 'a' => some [.weekdayName false]
  | 'B' => some [.monthName true]
  | 'b' | 'h' => some [.monthName false]
  | 'C' => some [zeros .century]
  | 'D' | 'x' => some shortDate
  | 'F' => some [zeros .year, literal '-', zeros .month, literal '-', zeros .day]
  | 'G' => some [zeros .isoYear]
  | 'g' => some [zeros .isoYearOfCentury]
  | 'H' => some [zeros .hour]
  | 'I' => some [zeros .hour12]
  | 'M' => some [zeros .minute]
  | 'P' => some [.dayHalf false]
  | 'p' => some [.dayHalf true]
  | 'R' => some [zeros .hour, literal ':', zeros .minute]
  | 'S' => some [zeros .second]
  | 'T' | 'X' => some clock
  | 'U' => some [zeros .weekFromSunday]
  | 'V' => some [zeros .isoWeek]
  | 'W' => some [zeros .weekFromMonday]
  | 'Y' => some [zeros .year]
  | 'c' => some ([.weekdayName false, literal ' ', .monthName false, literal ' ',
      .numeric .day .space, literal ' '] ++ clock ++ [literal ' ', zeros .year])
  | 'd' => some [zeros .day]
  | 'e' => some [.numeric .day .space]
  | 'f' => some [zeros .nanosecond]
  | 'j' => some [zeros .dayOfYear]
  | 'k' => some [.numeric .hour .space]
  | 'l' => some [.numeric .hour12 .space]
  | 'm' => some [zeros .month]
  | 'n' => some [literal '\n']
  | 'q' => some [.numeric .quarter .none]
  | 'r' => some [zeros .hour12, literal ':', zeros .minute, literal ':', zeros .second,
      literal ' ', .dayHalf true]
  | 's' => some [.numeric .timestamp .none]
  | 't' => some [literal '\t']
  | 'u' => some [.numeric .weekdayFromMonday .none]
  | 'v' => some [.numeric .day .space, literal '-', .monthName false, literal '-', zeros .year]
  | 'w' => some [.numeric .weekdayFromSunday .none]
  | 'y' => some [zeros .yearOfCentury]
  | '%' => some [literal '%']
  | _ => none

/-- The padding that a character asks for. -/
def paddingOf? (c : Char) : Option Padding :=
  match c with
  | '-' => some .none
  | '0' => some .zero
  | '_' => some .space
  | _ => none

/-- The number of digits of a fraction that a character asks for. -/
def digitsOf? (c : Char) : Option Nat :=
  match c with
  | '3' => some 3
  | '6' => some 6
  | '9' => some 9
  | _ => none

/-- The parts of a directive after its percent sign and its padding, and the rest. -/
def directive? : List Char → Option (List FormatItem × List Char)
  | '.' :: 'f' :: rest => some ([.fraction], rest)
  | '.' :: d :: 'f' :: rest => (digitsOf? d).map fun n => ([.fractionDigits n true], rest)
  | [] => none
  | c :: rest =>
    match digitsOf? c, rest with
    | some n, 'f' :: rest => some ([.fractionDigits n false], rest)
    | some _, _ => none
    | none, rest => (ofLetter? c).map fun items => (items, rest)

/-- The parts with another padding, which only a single number takes. -/
def repad? (padding : Padding) : List FormatItem → Option (List FormatItem)
  | [.numeric n _] => some [.numeric n padding]
  | _ => none

/-- The parts of a format, from at most `fuel` characters. -/
def ofFormat? : Nat → List Char → Option (List FormatItem)
  | 0, _ => some []
  | _, [] => some []
  | _, ['%'] => none
  | fuel + 1, '%' :: c :: rest => do
    let (items, rest) ← match paddingOf? c with
      | some padding => do
        let (items, rest) ← directive? rest
        some (← repad? padding items, rest)
      | none => directive? (c :: rest)
    some (items ++ (← ofFormat? fuel rest))
  | fuel + 1, c :: rest => do some (literal c :: (← ofFormat? fuel rest))

end FormatItem

namespace DateTime

/-- The point in time as a format lays it out; a format with a faulty directive has no text. -/
def format? (t : DateTime) (format : String) : Option String := do
  let items ← FormatItem.ofFormat? format.toList.length format.toList
  some (String.ofList (items.flatMap (FormatItem.write t)))

/-- Year, month and day, the letter `T`, the time to the second and the letter `Z`. -/
def isoItems : List FormatItem :=
  [.numeric .year .zero, .text ['-'], .numeric .month .zero, .text ['-'], .numeric .day .zero,
   .text ['T'], .numeric .hour .zero, .text [':'], .numeric .minute .zero, .text [':'],
   .numeric .second .zero, .text ['Z']]

/-- The normal form of a point in time. -/
def isoText (t : DateTime) : String := String.ofList (isoItems.flatMap (FormatItem.write t))

end DateTime

end TableSeed.Calendar
