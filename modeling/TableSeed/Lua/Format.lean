import TableSeed.Lua.Arithmetic

/-!
# Formatted values

A directive of a format has flags, a width, a precision and a conversion letter, and lays out one
value. The letter decides which flags it takes and what they mean.
-/

namespace TableSeed.Lua

/-- A directive of a format, without its percent sign. -/
structure Directive where
  left : Bool := false
  plus : Bool := false
  space : Bool := false
  alternate : Bool := false
  zero : Bool := false
  width : Nat := 0
  precision : Option Nat := none
  conversion : Char := 's'

namespace Directive

/-- The characters between the percent sign and the conversion letter. -/
def isModifier (c : Char) : Bool := c.isDigit || "-+ #.".toList.contains c

/-- Up to two digits and the rest. -/
def twoDigits : List Char → List Char × List Char
  | a :: b :: rest =>
    if a.isDigit then (if b.isDigit then ([a, b], rest) else ([a], b :: rest)) else ([], a :: b :: rest)
  | [a] => if a.isDigit then ([a], []) else ([], [a])
  | [] => ([], [])

/-- The number that digits spell. -/
def number (ds : List Char) : Nat := Numeral.ofDigits 10 (ds.map fun c => c.toNat - 48)

/-- A directive from its modifiers and its letter: the flags must be among those allowed, a width
does not start with a zero, and a precision stands only where it is allowed. -/
def read? (modifiers : List Char) (conversion : Char) (flags : String) (hasPrecision : Bool) :
    Option Directive :=
  let given := modifiers.takeWhile fun c => flags.toList.contains c
  let rest := modifiers.drop given.length
  let directive : Directive :=
    { left := given.contains '-', plus := given.contains '+', space := given.contains ' ',
      alternate := given.contains '#', zero := given.contains '0', conversion }
  if rest.head? == some '0' then none
  else
    let (width, rest) := twoDigits rest
    let directive := { directive with width := number width }
    match rest with
    | [] => some directive
    | '.' :: rest =>
      if !hasPrecision then none
      else
        let (precision, rest) := twoDigits rest
        if rest.isEmpty then some { directive with precision := some (number precision) } else none
    | _ => none

/-- Puts blanks before a text, or after it, up to the width. -/
def pad (d : Directive) (body : List Char) : List Char :=
  let blanks := List.replicate (d.width - body.length) ' '
  if d.left then body ++ blanks else blanks ++ body

/-- A number by its sign or mark and its digits, with zeros between them up to the width when they
are asked for. -/
def padNumber (d : Directive) (zeros : Bool) (sign digits : List Char) : List Char :=
  if zeros && d.zero && !d.left then
    sign ++ List.replicate (d.width - sign.length - digits.length) '0' ++ digits
  else d.pad (sign ++ digits)

/-- The sign of a number. -/
def sign (d : Directive) (negative : Bool) : List Char :=
  if negative then ['-'] else if d.plus then ['+'] else if d.space then [' '] else []

/-- Digits with zeros in front up to the precision; zero has no digits at precision zero. -/
def atLeast (d : Directive) (isZero : Bool) (digits : List Char) : List Char :=
  match d.precision with
  | some p => if isZero && p = 0 then [] else List.replicate (p - digits.length) '0' ++ digits
  | none => digits

/-- Letters in upper case. -/
def upper (cs : List Char) : List Char := cs.map Char.toUpper

/-- A signed integer in base ten. -/
def signed (d : Directive) (n : Int64) : List Char :=
  let i := n.toInt
  d.padNumber d.precision.isNone (d.sign (i < 0)) (d.atLeast (i == 0) (Nat.toDigits 10 i.natAbs))

/-- The bits of an integer in a base. -/
def bits (d : Directive) (base : Nat) (isUpper : Bool) (n : Int64) : List Char :=
  let i := n.toUInt64.toNat
  let digits := d.atLeast (i == 0) (Nat.toDigits base i)
  let digits := if base == 8 && d.alternate && digits.head? != some '0' then '0' :: digits else digits
  let mark := if base == 16 && d.alternate && i != 0 then ['0', 'x'] else []
  let text := d.padNumber d.precision.isNone mark digits
  if isUpper then upper text else text

/-- A number with a point before its last `places` digits. -/
def withPoint (n places : Nat) (alternate : Bool) : List Char :=
  let digits := DecimalLayout.padded (places + 1) (Nat.toDigits 10 n)
  let whole := digits.take (digits.length - places)
  if places = 0 then whole ++ (if alternate then ['.'] else [])
  else whole ++ '.' :: digits.drop (digits.length - places)

/-- The exponent of a number in scientific form, with two digits at least. -/
def exponentText (mark : Char) (width : Nat) (e : Int) : List Char :=
  mark :: (if e < 0 then '-' else '+') :: DecimalLayout.padded width (Nat.toDigits 10 e.natAbs)

/-- A finite magnitude in scientific form with `places` digits after the point. -/
def scientific (x : Binary64) (places : Nat) (alternate : Bool) : List Char :=
  let d := x.rounded (places + 1)
  let digits := d.digits ++ List.replicate (places + 1 - d.digits.length) '0'
  let e := if x.isZero then 0 else d.leading
  let point := if places > 0 || alternate then ['.'] else []
  digits.take 1 ++ point ++ digits.drop 1 ++ exponentText 'e' 2 e

/-- A number without the zeros at its end, and without a point at its end. -/
def trimZeros (cs : List Char) : List Char :=
  if cs.contains '.' then
    let kept := cs.reverse.dropWhile (· == '0')
    (match kept with
      | '.' :: rest => rest
      | kept => kept).reverse
  else cs

/-- A finite magnitude with `digits` significant digits, in scientific form when its exponent is
below `-4` or not below the number of digits. -/
def general (x : Binary64) (digits : Nat) (alternate : Bool) : List Char :=
  let digits := max digits 1
  let e := if x.isZero then 0 else (x.rounded digits).leading
  if -4 ≤ e && e < digits then
    let places := ((digits : Int) - 1 - e).toNat
    let text := withPoint (x.toPlaces places) places alternate
    if alternate then text else trimZeros text
  else
    let text := scientific x (digits - 1) alternate
    if alternate then text
    else
      let mantissa := text.takeWhile (· != 'e')
      trimZeros mantissa ++ text.drop mantissa.length

/-- A finite magnitude in hexadecimal, with as many digits after the point as it needs, or with a
given number of them. -/
def hexadecimal (x : Binary64) (precision : Option Nat) (alternate : Bool) : List Char :=
  let hasLeadingOne := x.exponentField != 0
  let e : Int := if x.isZero then 0 else if hasLeadingOne then (x.exponentField : Int) - 1023 else -1022
  let (whole, fraction) : Nat × List Char :=
    match precision with
    | none =>
      let digits := DecimalLayout.padded 13 (Nat.toDigits 16 x.fractionField)
      (if hasLeadingOne then 1 else 0, (digits.reverse.dropWhile (· == '0')).reverse)
    | some p =>
      if p ≥ 13 then
        let digits := DecimalLayout.padded 13 (Nat.toDigits 16 x.fractionField)
        (if hasLeadingOne then 1 else 0, digits ++ List.replicate (p - 13) '0')
      else
        let kept := Binary64.roundQuotient x.significand (Nat.pow 2 (52 - 4 * p))
        (kept / Nat.pow 16 p, if p = 0 then [] else DecimalLayout.padded p (Nat.toDigits 16 (kept % Nat.pow 16 p)))
  let point := if fraction.isEmpty && !alternate then [] else ['.']
  Nat.toDigits 16 whole ++ point ++ fraction ++ exponentText 'p' 1 e

/-- A float by the letter of the directive. -/
def float (d : Directive) (x : Binary64) : List Char :=
  let lower := d.conversion.toLower
  let signText := d.sign x.isNegative
  let text :=
    if x.isNaN then d.padNumber false signText "nan".toList
    else if !x.isFinite then d.padNumber false signText "inf".toList
    else
      match lower with
      | 'a' => d.padNumber true (signText ++ ['0', 'x']) (hexadecimal x d.precision d.alternate)
      | 'f' =>
        let places := d.precision.getD 6
        d.padNumber true signText (withPoint (x.toPlaces places) places d.alternate)
      | 'e' => d.padNumber true signText (scientific x (d.precision.getD 6) d.alternate)
      | _ => d.padNumber true signText (general x (d.precision.getD 6) d.alternate)
  if d.conversion.isUpper then upper text else text

end Directive

namespace Format

/-- One byte of a string in quotes, before the byte that follows it. -/
def quoteByte (b : UInt8) (following : Option UInt8) : List Char :=
  let c := Char.ofNat b.toNat
  if c = '"' || c = '\\' || c = '\n' then ['\\', c]
  else if b < 32 || b == 127 then
    let digits := Nat.toDigits 10 b.toNat
    let width := match following with
      | some f => if 48 ≤ f && f ≤ 57 then 3 else 1
      | none => 1
    '\\' :: DecimalLayout.padded width digits
  else [c]

/-- The bytes of a string as they stand between quotes. -/
def quoteBytes : List UInt8 → List Char
  | [] => []
  | b :: rest => quoteByte b rest.head? ++ quoteBytes rest

/-- A value as source text that stands for it, for values that have one. -/
def literal? : Value → Option (List Char)
  | .nil => some "nil".toList
  | .boolean b => some (if b then "true" else "false").toList
  | .integer n =>
    some (if n == Int64.minValue then "0x8000000000000000".toList else Numeral.integerText n)
  | .float x =>
    some (if x.isNaN then "(0/0)".toList
      else if !x.isFinite then (if x.isNegative then "-1e9999" else "1e9999").toList
      else Directive.float { conversion := 'a' } x)
  | .string s => some ('"' :: quoteBytes s.toList ++ ['"'])
  | _ => none

end Format

end TableSeed.Lua
