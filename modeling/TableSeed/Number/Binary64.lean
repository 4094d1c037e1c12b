/-!
# Binary64 numbers

A double is kept as its 64 bits, so that two doubles are equal exactly when they
are the same number with the same sign. A finite double is `(-1)^s · m · 2^q` with
natural `m`; `Binary64.nearest` rounds an exact ratio back to the nearest double,
a tie going to the even significand.
-/

namespace TableSeed

/-- A double by its sign, exponent and fraction bits. -/
structure Binary64 where
  /-- The 64 bits, the sign first. -/
  bits : UInt64
  deriving DecidableEq, Inhabited

namespace Binary64

instance : BEq Binary64 := ⟨fun x y => x.bits == y.bits⟩

/-- The double held by a machine register. -/
@[inline] def ofFloat (x : Float) : Binary64 := ⟨x.toBits⟩

/-- The machine register that holds the double. -/
@[inline] def toFloat (x : Binary64) : Float := Float.ofBits x.bits

/-- Whether the sign bit is set. -/
def isNegative (x : Binary64) : Bool := x.bits >>> 63 == 1

/-- The eleven exponent bits. -/
def exponentField (x : Binary64) : Nat := ((x.bits >>> 52) &&& 0x7ff).toNat

/-- The fifty-two fraction bits. -/
def fractionField (x : Binary64) : Nat := (x.bits &&& 0xfffffffffffff).toNat

/-- Neither an infinity nor a NaN. -/
def isFinite (x : Binary64) : Bool := x.exponentField != 0x7ff

/-- Not a number. -/
def isNaN (x : Binary64) : Bool := x.exponentField == 0x7ff && x.fractionField != 0

/-- The positive or negative zero. -/
def isZero (x : Binary64) : Bool := x.exponentField == 0 && x.fractionField == 0

/-- The significand `m` of a finite double `m · 2^q`. -/
def significand (x : Binary64) : Nat :=
  if x.exponentField == 0 then x.fractionField else x.fractionField + 0x10000000000000

/-- The exponent `q` of a finite double `m · 2^q`. -/
def exponent (x : Binary64) : Int :=
  if x.exponentField == 0 then -1074 else (x.exponentField : Int) - 1075

/-- The double with the opposite sign. -/
def negate (x : Binary64) : Binary64 := ⟨x.bits ^^^ 0x8000000000000000⟩

/-- Positive zero. -/
def zero : Binary64 := ⟨0⟩

/-- Positive infinity. -/
def infinity : Binary64 := ⟨0x7ff0000000000000⟩

/-- The double of a sign and the bits below it. -/
def withSign (negative : Bool) (x : Binary64) : Binary64 :=
  if negative then ⟨x.bits ||| 0x8000000000000000⟩ else x

/-- The nonnegative double with significand `m ≤ 2^53` in binade `q ≥ -1074`; an `m` of `2^53`
belongs to the next binade, and what lies beyond the largest double is infinite. -/
def ofParts (m : Nat) (q : Int) : Binary64 :=
  let (m, q) := if m == 0x20000000000000 then (0x10000000000000, q + 1) else (m, q)
  if m < 0x10000000000000 then ⟨m.toUInt64⟩
  else if q > 971 then infinity
  else ⟨((q + 1075).toNat * 0x10000000000000 + (m - 0x10000000000000)).toUInt64⟩

/-- `num / den` to the nearest natural, a tie going to the even one. -/
def roundQuotient (num den : Nat) : Nat :=
  let q := num / den
  let r := num % den
  if 2 * r > den || (2 * r == den && q % 2 == 1) then q + 1 else q

/-- The binade `q ≥ -1074` with `2^52 ≤ num / (den · 2^q) < 2^53` when there is one. -/
def binade (num den : Nat) : Int :=
  let guess : Int := (num.log2 : Int) - den.log2 - 52
  let below : Bool :=
    if guess ≥ 0 then num < den * Nat.pow 2 (52 + guess.toNat)
    else num * Nat.pow 2 (-guess).toNat < den * 0x10000000000000
  max (if below then guess - 1 else guess) (-1074)

/-- The double nearest to `num / den`, a tie going to the even significand. -/
def nearest (num den : Nat) : Binary64 :=
  if num == 0 || den == 0 then zero
  else
    let q := binade num den
    if q > 971 then infinity
    else if q ≥ 0 then ofParts (roundQuotient num (den * Nat.pow 2 q.toNat)) q
    else ofParts (roundQuotient (num * Nat.pow 2 (-q).toNat) den) q

/-- The double nearest to `digits · 10^scale`. Powers far outside the range of doubles are
decided without computing them. -/
def ofDecimal (digits : Nat) (scale : Int) : Binary64 :=
  let magnitude : Int := (Nat.toDigits 10 digits).length + scale
  if digits == 0 || magnitude < -330 then zero
  else if magnitude > 310 then infinity
  else if scale ≥ 0 then nearest (digits * Nat.pow 10 scale.toNat) 1
  else nearest digits (Nat.pow 10 (-scale).toNat)

/-- The double nearest to `m · 2^scale`. -/
def ofBinary (m : Nat) (scale : Int) : Binary64 :=
  let magnitude : Int := m.log2 + scale
  if m == 0 || magnitude < -1080 then zero
  else if magnitude > 1030 then infinity
  else if scale ≥ 0 then nearest (m * Nat.pow 2 scale.toNat) 1
  else nearest m (Nat.pow 2 (-scale).toNat)

/-- The double nearest to an integer. -/
def ofInt (n : Int) : Binary64 := withSign (n < 0) (nearest n.natAbs 1)

/-- The exact value `num / den` of a finite double's magnitude. -/
def ratio (x : Binary64) : Nat × Nat :=
  if x.exponent ≥ 0 then (x.significand * Nat.pow 2 x.exponent.toNat, 1)
  else (x.significand, Nat.pow 2 (-x.exponent).toNat)

/-- The double nearest to the product of two finite doubles that are not negative. -/
def product (x y : Binary64) : Binary64 :=
  nearest (x.ratio.1 * y.ratio.1) (x.ratio.2 * y.ratio.2)

/-- The double nearest to the quotient of two finite doubles that are not negative. -/
def quotient (x y : Binary64) : Binary64 :=
  nearest (x.ratio.1 * y.ratio.2) (x.ratio.2 * y.ratio.1)

/-- The integer that a finite double is exactly, if it is one. -/
def toInt? (x : Binary64) : Option Int :=
  if !x.isFinite then none
  else
    let (num, den) := x.ratio
    if num % den == 0 then some (if x.isNegative then -(num / den : Nat) else (num / den : Nat))
    else none

end Binary64

end TableSeed
