import TableSeed.Number.Binary64

/-!
# Decimal texts of doubles

A finite double is written in two steps: a decimal `coefficient · 10^scale` is chosen for it,
and a layout decides where the point goes and when an exponent is used. Two choices of decimal
stand here. `Binary64.shortest` has the fewest digits that round back to the double, and among
those the nearest to it. `Binary64.rounded` keeps a given number of significant digits and
`Binary64.toPlaces` a given number of places, both rounding the exact value with ties to even.
-/

namespace TableSeed

/-- The number `coefficient · 10^scale`. -/
structure Decimal where
  /-- The digits, read as one natural number. -/
  coefficient : Nat
  /-- The power of ten of the last digit. -/
  scale : Int
  deriving DecidableEq, Repr

namespace Decimal

/-- The digits of the coefficient, most significant first. -/
def digits (d : Decimal) : List Char := Nat.toDigits 10 d.coefficient

/-- The power of ten of the first digit. -/
def leading (d : Decimal) : Int := d.scale + d.digits.length - 1

/-- The same number without trailing zeros in the coefficient, which loses at most `fuel`. -/
def trimAux : Nat → Nat → Int → Decimal
  | 0, c, s => ⟨c, s⟩
  | fuel + 1, c, s => if c != 0 && c % 10 == 0 then trimAux fuel (c / 10) (s + 1) else ⟨c, s⟩

/-- The same number without trailing zeros in the coefficient. -/
def trim (d : Decimal) : Decimal := trimAux d.digits.length d.coefficient d.scale

end Decimal

/-- How a decimal is laid out as text. -/
structure DecimalLayout where
  /-- The least power of ten of the first digit that is written without an exponent. -/
  positionalFrom : Int
  /-- The power of ten of the first digit from which an exponent is written. -/
  positionalBelow : Int
  /-- Whether a whole number keeps a fraction of one zero when it has no exponent. -/
  keepsFraction : Bool
  /-- Whether a positive exponent has its sign written. -/
  exponentPlus : Bool
  /-- The least number of exponent digits. -/
  exponentWidth : Nat

namespace DecimalLayout

/-- `n` zeros. -/
def zeros (n : Nat) : List Char := List.replicate n '0'

/-- `cs` with zeros in front up to the given length. -/
def padded (width : Nat) (cs : List Char) : List Char := zeros (width - cs.length) ++ cs

/-- Digits whose first has the weight `10^leading`, written without an exponent. -/
def positional (keepsFraction : Bool) (digits : List Char) (leading : Int) : List Char :=
  if leading < 0 then '0' :: '.' :: zeros (-leading - 1).toNat ++ digits
  else
    let whole := leading.toNat + 1
    if digits.length ≤ whole then
      digits ++ zeros (whole - digits.length) ++ (if keepsFraction then ['.', '0'] else [])
    else digits.take whole ++ '.' :: digits.drop whole

/-- The exponent of a number in scientific form, its mark included. -/
def exponentText (layout : DecimalLayout) (e : Int) : List Char :=
  let sign := if e < 0 then ['-'] else if layout.exponentPlus then ['+'] else []
  'e' :: sign ++ padded layout.exponentWidth (Nat.toDigits 10 e.natAbs)

/-- The digits with a point after the first, if more follow. -/
def mantissa : List Char → List Char
  | d :: e :: r => d :: '.' :: e :: r
  | cs => cs

/-- The text of a nonnegative decimal. -/
def write (layout : DecimalLayout) (d : Decimal) : List Char :=
  let e := d.leading
  if layout.positionalFrom ≤ e && e < layout.positionalBelow then
    positional layout.keepsFraction d.digits e
  else mantissa d.digits ++ layout.exponentText e

end DecimalLayout

namespace Binary64

/-- The power `p` with `10^p ≤ num / den < 10^(p+1)`, for a positive ratio. -/
def decimalExponent (num den : Nat) : Int :=
  let guess : Int := (((num.log2 : Int) - den.log2) * 30103).fdiv 100000
  let reaches (p : Int) : Bool :=
    if p ≥ 0 then den * Nat.pow 10 p.toNat ≤ num else den ≤ num * Nat.pow 10 (-p).toNat
  if reaches (guess + 1) then guess + 1 else if reaches guess then guess else guess - 1

/-- The multiples of `10^scale` next to `num / den`: the quotient below, and the ratio
`(num', den')` in units of that power. -/
def onGrid (num den : Nat) (scale : Int) : Nat × Nat × Nat :=
  let (num, den) :=
    if scale ≥ 0 then (num, den * Nat.pow 10 scale.toNat) else (num * Nat.pow 10 (-scale).toNat, den)
  (num / den, num, den)

/-- The reals that round to a finite positive double, in quarters of its last place: the ends
belong to the interval exactly when the significand is even. -/
structure RoundingInterval where
  low : Nat
  value : Nat
  high : Nat
  den : Nat
  closed : Bool

/-- The rounding interval of a finite positive double. Below a power of two the numbers are
twice as dense, so the lower end is half as far away. -/
def roundingInterval (x : Binary64) : RoundingInterval :=
  let m := x.significand
  let q := x.exponent - 2
  let unit := if q ≥ 0 then Nat.pow 2 q.toNat else 1
  let den := if q ≥ 0 then 1 else Nat.pow 2 (-q).toNat
  let gap := if m == 0x10000000000000 && x.exponent > -1074 then 1 else 2
  { low := (4 * m - gap) * unit, value := 4 * m * unit, high := (4 * m + 2) * unit, den,
    closed := m % 2 == 0 }

/-- Whether the decimal `d · 10^scale` lies in the interval. -/
def RoundingInterval.contains (i : RoundingInterval) (d : Nat) (scale : Int) : Bool :=
  let (point, low, high) :=
    if scale ≥ 0 then (d * Nat.pow 10 scale.toNat * i.den, i.low, i.high)
    else (d * i.den, i.low * Nat.pow 10 (-scale).toNat, i.high * Nat.pow 10 (-scale).toNat)
  if i.closed then low ≤ point && point ≤ high else low < point && point < high

/-- The decimal with the fewest digits in the interval, `digits` at least, and of those the one
nearest to the value. Seventeen digits always suffice. -/
def shortestFrom (i : RoundingInterval) (leading : Int) : Nat → Nat → Decimal
  | 0, digits => ⟨(onGrid i.value i.den (leading - digits + 1)).1, leading - digits + 1⟩
  | fuel + 1, digits =>
    let scale := leading - digits + 1
    let (below, num, den) := onGrid i.value i.den scale
    let lower := i.contains below scale
    let upper := i.contains (below + 1) scale
    let rest := num - below * den
    if lower && (!upper || 2 * rest < den || (2 * rest == den && below % 2 == 0)) then
      ⟨below, scale⟩
    else if upper then ⟨below + 1, scale⟩
    else shortestFrom i leading fuel (digits + 1)

/-- The decimal with the fewest digits that rounds to the magnitude of a finite double, and of
those the nearest to it. -/
def shortest (x : Binary64) : Decimal :=
  if x.isZero then ⟨0, 0⟩
  else
    let i := x.roundingInterval
    (shortestFrom i (decimalExponent i.value i.den) 17 1).trim

/-- The magnitude of a finite double to `digits ≥ 1` significant digits, with trailing zeros. -/
def rounded (x : Binary64) (digits : Nat) : Decimal :=
  if x.isZero then ⟨0, 0⟩
  else
    let (num, den) := x.ratio
    let scale := decimalExponent num den - digits + 1
    let (_, num, den) := onGrid num den scale
    let c := roundQuotient num den
    if c == Nat.pow 10 digits then ⟨c / 10, scale + 1⟩ else ⟨c, scale⟩

/-- The magnitude of a finite double in units of `10^-places`. -/
def toPlaces (x : Binary64) (places : Nat) : Nat :=
  let (num, den) := x.ratio
  roundQuotient (num * Nat.pow 10 places) den

end Binary64

end TableSeed
