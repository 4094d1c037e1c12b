import TableSeed.Calendar.Date
import TableSeed.Number.Binary64

/-!
# Numbers, truth values and times in TOML

A value that is no text, array or table is a word. Underscores may part the digits of a number. An
integer has no leading zeros, and it fits a signed word of 128 bits. A time may lack its seconds.
-/

namespace TableSeed.Toml

/-- What a word stands for. -/
inductive Scalar where
  | boolean (b : Bool)
  | integer (n : Int)
  | float (x : Binary64)
  /-- A date, a time or both, in the usual spelling. -/
  | moment (text : String)
  deriving DecidableEq

namespace Scalar

/-- The digits of a number in a base; an underscore may stand between two of them. -/
def digits? (base : Nat) (cs : List Char) : Option (List Nat) :=
  let value? (c : Char) : Option Nat :=
    let v :=
      if c.isDigit then some (c.toNat - 48)
      else if 'a' ≤ c && c ≤ 'f' then some (c.toNat - 87)
      else if 'A' ≤ c && c ≤ 'F' then some (c.toNat - 55)
      else none
    v.bind fun d => if d < base then some d else none
  let rec go : List Char → Option (List Nat)
    | [] => none
    | [c] => (value? c).map fun d => [d]
    | c :: '_' :: rest => do return (← value? c) :: (← go rest)
    | c :: rest => do return (← value? c) :: (← go rest)
  go cs

/-- The number of digits. -/
def ofDigits (base : Nat) (ds : List Nat) : Nat := ds.foldl (fun acc d => acc * base + d) 0

/-- Decimal digits without leading zeros. -/
def whole? (cs : List Char) : Option (List Nat) := do
  let ds ← digits? 10 cs
  if ds.head? = some 0 && ds.length > 1 then none else some ds

/-- Whether a word is negative, and the word without its sign. -/
def sign : List Char → Bool × List Char
  | '-' :: rest => (true, rest)
  | '+' :: rest => (false, rest)
  | cs => (false, cs)

/-- An integer that fits. -/
def bounded? (n : Int) : Option Scalar :=
  if -0x80000000000000000000000000000000 ≤ n && n < 0x80000000000000000000000000000000 then some (.integer n) else none

/-- An integer. -/
def integer? (cs : List Char) : Option Scalar :=
  match cs with
  | '0' :: 'x' :: rest => (digits? 16 rest).bind fun ds => bounded? (ofDigits 16 ds)
  | '0' :: 'o' :: rest => (digits? 8 rest).bind fun ds => bounded? (ofDigits 8 ds)
  | '0' :: 'b' :: rest => (digits? 2 rest).bind fun ds => bounded? (ofDigits 2 ds)
  | _ =>
    let (negative, rest) := sign cs
    (whole? rest).bind fun ds =>
      let n := ofDigits 10 ds
      bounded? (if negative then -n else n)

/-- The exponent behind its letter. -/
def exponent? (cs : List Char) : Option Int :=
  let (negative, rest) := sign cs
  (digits? 10 rest).map fun ds =>
    let n := ofDigits 10 ds
    if negative then -n else n

/-- The nearest double, if it is finite. -/
def finite? (negative : Bool) (digits : List Nat) (scale : Int) : Option Scalar :=
  let x := Binary64.ofDecimal (ofDigits 10 digits) scale
  if x.isFinite then some (.float (Binary64.withSign negative x)) else none

/-- A number with a fraction, an exponent or both. -/
def decimal? (negative : Bool) (cs : List Char) : Option Scalar := do
  let isExponent (c : Char) : Bool := c = 'e' || c = 'E'
  let mantissa := cs.takeWhile fun c => !isExponent c
  let whole ← whole? (mantissa.takeWhile (· ≠ '.'))
  let fraction ← match mantissa.dropWhile (· ≠ '.') with
    | [] => some []
    | _ :: rest => digits? 10 rest
  let exponent ← match cs.dropWhile fun c => !isExponent c with
    | [] => if fraction.isEmpty then none else some 0
    | _ :: rest => exponent? rest
  finite? negative (whole ++ fraction) (exponent - fraction.length)

/-- The largest quiet number that is none. -/
def notANumber : Binary64 := ⟨0x7ff8000000000000⟩

/-- A float. -/
def float? (cs : List Char) : Option Scalar :=
  let (negative, rest) := sign cs
  if rest = "inf".toList then some (.float (Binary64.withSign negative Binary64.infinity))
  else if rest = "nan".toList then some (.float (Binary64.withSign negative notANumber))
  else decimal? negative rest

/-- A number of exactly `count` digits, and what follows them. -/
def fixed? (count : Nat) (cs : List Char) : Option (Nat × List Char) :=
  let ds := cs.take count
  if ds.length = count && ds.all Char.isDigit then
    some (ofDigits 10 (ds.map fun c => c.toNat - 48), cs.drop count)
  else none

/-- What follows a character. -/
def after? (c : Char) : List Char → Option (List Char)
  | d :: rest => if d = c then some rest else none
  | [] => none

/-- A date, and what follows it. -/
def date? (cs : List Char) : Option (List Char × List Char) := do
  let (year, rest) ← fixed? 4 cs
  let (month, rest) ← fixed? 2 (← after? '-' rest)
  let (day, rest) ← fixed? 2 (← after? '-' rest)
  if 1 ≤ day && day ≤ Calendar.daysInMonth year month then some (cs.take 10, rest) else none

/-- The digits behind the point of a time in the usual spelling: nine at most, without zeros at the
end, but at least one. -/
def fractionText (ds : List Char) : List Char :=
  let kept := (((ds.take 9).reverse).dropWhile (· = '0')).reverse
  if kept.isEmpty then ['0'] else kept

/-- The seconds of a time in the usual spelling, and what follows them; a time may lack them. -/
def seconds? (cs : List Char) : Option (List Char × List Char) :=
  match cs with
  | ':' :: rest => do
    let (second, rest') ← fixed? 2 rest
    if second > 60 then none
    else
      let text := ':' :: rest.take 2
      match rest' with
      | '.' :: more =>
        let ds := more.takeWhile Char.isDigit
        if ds.isEmpty then none else some (text ++ '.' :: fractionText ds, more.dropWhile Char.isDigit)
      | _ => some (text, rest')
  | _ => some ([], cs)

/-- A time in the usual spelling, and what follows it. -/
def time? (cs : List Char) : Option (List Char × List Char) := do
  let (hour, rest) ← fixed? 2 cs
  let (minute, rest) ← fixed? 2 (← after? ':' rest)
  if hour > 23 || minute > 59 then none
  else
    let (seconds, rest) ← seconds? rest
    some (cs.take 5 ++ seconds, rest)

/-- A distance from universal time in the usual spelling. -/
def offset? (cs : List Char) : Option (List Char) :=
  match cs with
  | [] => some []
  | ['Z'] | ['z'] => some ['Z']
  | mark :: rest =>
    if mark = '+' || mark = '-' then do
      let (hour, rest') ← fixed? 2 rest
      let (minute, rest') ← fixed? 2 (← after? ':' rest')
      if hour > 23 || minute > 59 || !rest'.isEmpty then none
      else if hour = 0 && minute = 0 then some ('+' :: rest)
      else some cs
    else none

/-- A date, a time or both. -/
def moment? (cs : List Char) : Option Scalar :=
  match date? cs with
  | some (date, []) => some (.moment (String.ofList date))
  | some (date, mark :: rest) =>
    if mark = 'T' || mark = 't' || mark = ' ' then do
      let (time, rest) ← time? rest
      let offset ← offset? rest
      some (.moment (String.ofList (date ++ 'T' :: (time ++ offset))))
    else none
  | none =>
    match time? cs with
    | some (time, []) => some (.moment (String.ofList time))
    | _ => none

/-- What a word stands for. -/
def ofWord? (cs : List Char) : Option Scalar :=
  if cs = "true".toList then some (.boolean true)
  else if cs = "false".toList then some (.boolean false)
  else (integer? cs).orElse fun _ => (float? cs).orElse fun _ => moment? cs

/-- The characters of which words are made. -/
def isWordCharacter (c : Char) : Bool :=
  c.isAlphanum || c = '_' || c = '-' || c = '+' || c = '.' || c = ':'

/-- A word and what follows it. A date and the time after it are one word, though a blank may stand
between them. -/
def word (cs : List Char) : List Char × List Char :=
  let first := cs.takeWhile isWordCharacter
  match cs.dropWhile isWordCharacter with
  | ' ' :: c :: rest =>
    if c.isDigit && (date? first).any (·.2.isEmpty) then
      let more := (c :: rest).takeWhile isWordCharacter
      (first ++ ' ' :: more, (c :: rest).dropWhile isWordCharacter)
    else (first, ' ' :: c :: rest)
  | rest => (first, rest)

/-- Reads a word: what it stands for, and what follows it. -/
def read? (cs : List Char) : Option (Scalar × List Char) :=
  let (w, rest) := word cs
  (ofWord? w).map fun s => (s, rest)

end Scalar

end TableSeed.Toml
