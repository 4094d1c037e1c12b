import TableSeed.Number.Decimal

/-!
# Lua numerals

Numerals are read from source text and from strings. A decimal numeral without point and exponent
is an integer when it fits 64 bits and a float otherwise; a hexadecimal one is an integer modulo
`2^64`. A float is written with fourteen significant digits, and as a float: a whole number gets
`.0`.
-/

namespace TableSeed.Lua

/-- A Lua number: a machine integer or a float. -/
inductive Num where
  | integer (n : Int64)
  | float (x : Binary64)
  deriving DecidableEq

namespace Numeral

/-- The blanks that may stand around a numeral. -/
def isBlank (c : Char) : Bool := c = ' ' || (9 ≤ c.toNat && c.toNat ≤ 13)

/-- The value of a decimal digit. -/
def digit? (c : Char) : Option Nat := if c.isDigit then some (c.toNat - 48) else none

/-- The value of a hexadecimal digit. -/
def hexDigit? (c : Char) : Option Nat :=
  if c.isDigit then some (c.toNat - 48)
  else if 'a' ≤ c && c ≤ 'f' then some (c.toNat - 87)
  else if 'A' ≤ c && c ≤ 'F' then some (c.toNat - 55)
  else none

/-- The digits at the start of a text, by their values, and the rest. -/
def digits (value? : Char → Option Nat) : List Char → List Nat × List Char
  | [] => ([], [])
  | c :: rest =>
    match value? c with
    | some d =>
      let (ds, rest) := digits value? rest
      (d :: ds, rest)
    | none => ([], c :: rest)

/-- The number that digits spell in a base. -/
def ofDigits (base : Nat) (ds : List Nat) : Nat := ds.foldl (fun acc d => acc * base + d) 0

/-- A sign and the rest: whether the number is negative. -/
def sign : List Char → Bool × List Char
  | '-' :: rest => (true, rest)
  | '+' :: rest => (false, rest)
  | cs => (false, cs)

/-- An exponent after its mark, when digits follow, and the rest. -/
def exponent? (lower upper : Char) : List Char → Option (Int × List Char)
  | [] => none
  | c :: rest =>
    if c = lower || c = upper then
      let (negative, rest) := sign rest
      match digits digit? rest with
      | ([], _) => none
      | (ds, rest) =>
        let e : Int := ofDigits 10 ds
        some (if negative then -e else e, rest)
    else none

/-- Digits, perhaps with a point and more digits: their value as one number, how many stand after
the point, how many there are, and the rest. -/
def mantissa (base : Nat) (value? : Char → Option Nat) (cs : List Char) :
    Nat × Nat × Nat × Bool × List Char :=
  let (whole, rest) := digits value? cs
  match rest with
  | '.' :: rest' =>
    let (fraction, rest') := digits value? rest'
    (ofDigits base (whole ++ fraction), fraction.length, whole.length + fraction.length, true, rest')
  | _ => (ofDigits base whole, 0, whole.length, false, rest)

/-- A numeral without its sign, and the rest. The least integer has no positive counterpart, so a
decimal numeral that is to be negated may be one larger. -/
def unsigned? (negated : Bool) (cs : List Char) : Option (Num × List Char) :=
  let hexadecimal : Option (List Char) := match cs with
    | '0' :: 'x' :: rest => some rest
    | '0' :: 'X' :: rest => some rest
    | _ => none
  match hexadecimal with
  | some rest =>
    let (m, places, count, point, rest) := mantissa 16 hexDigit? rest
    if count = 0 then none
    else
      match exponent? 'p' 'P' rest with
      | some (e, rest) => some (.float (Binary64.ofBinary m (e - 4 * places)), rest)
      | none =>
        if point then some (.float (Binary64.ofBinary m (-4 * (places : Int))), rest)
        else some (.integer (Int64.ofNat m), rest)
  | none =>
    let (m, places, count, point, rest) := mantissa 10 digit? cs
    if count = 0 then none
    else
      match exponent? 'e' 'E' rest with
      | some (e, rest) => some (.float (Binary64.ofDecimal m (e - places)), rest)
      | none =>
        if point then some (.float (Binary64.ofDecimal m (-(places : Int))), rest)
        else if m < 0x8000000000000000 || (negated && m == 0x8000000000000000) then some (.integer (Int64.ofNat m), rest)
        else some (.float (Binary64.ofDecimal m 0), rest)

/-- The number with the opposite sign. -/
def negate : Num → Num
  | .integer n => .integer (-n)
  | .float x => .float x.negate

/-- The number that a whole string spells, with blanks around it and perhaps a sign. -/
def ofString? (cs : List Char) : Option Num :=
  let (negative, rest) := sign (cs.dropWhile isBlank)
  match unsigned? negative rest with
  | some (n, rest) => if rest.all isBlank then some (if negative then negate n else n) else none
  | none => none

/-- The value of a digit or letter in a base. -/
def digitInBase? (base : Nat) (c : Char) : Option Nat :=
  let d := if c.isDigit then some (c.toNat - 48)
    else if c.isAlpha then some (c.toLower.toNat - 87) else none
  d.filter (· < base)

/-- The integer that a string spells in a base between 2 and 36, modulo `2^64`. -/
def ofStringInBase? (base : Nat) (cs : List Char) : Option Int64 :=
  let (negative, rest) := sign (cs.dropWhile isBlank)
  match digits (digitInBase? base) rest with
  | ([], _) => none
  | (ds, rest) =>
    if rest.all isBlank then
      let n := Int64.ofNat (ofDigits base ds)
      some (if negative then -n else n)
    else none

/-- Floats are positional from `0.0001` to below `10^14`, and an exponent has two digits. -/
def floatLayout : DecimalLayout :=
  { positionalFrom := -4, positionalBelow := 14, keepsFraction := true, exponentPlus := true,
    exponentWidth := 2 }

/-- The number of significant digits of a float's text. -/
def floatDigits : Nat := 14

/-- The text of a float. -/
def floatText (x : Binary64) : List Char :=
  (if x.isNegative then ['-'] else []) ++
    if x.isNaN then ['n', 'a', 'n']
    else if !x.isFinite then ['i', 'n', 'f']
    else floatLayout.write (x.rounded floatDigits).trim

/-- The text of an integer. -/
def integerText (n : Int64) : List Char :=
  let i := n.toInt
  if i < 0 then '-' :: Nat.toDigits 10 i.natAbs else Nat.toDigits 10 i.toNat

/-- The text of a number. -/
def text : Num → List Char
  | .integer n => integerText n
  | .float x => floatText x

end Numeral

end TableSeed.Lua
