import TableSeed.Json.Value

/-!
# Reading JSON numbers

A numeral without fraction and exponent is an integer while it fits 64 bits; `-0` is the double
`-0.0`. Every other numeral is a double: its leading digits are gathered for as long as they fit
an unsigned word of 64 bits, and the word is scaled by a power of ten in double arithmetic. The
scaling rounds, so a long numeral may be read as a neighbour of the nearest double.
-/

namespace TableSeed.Json

/-- Why a text is not JSON. -/
inductive Fault where
  /-- A character that cannot stand where it stands. -/
  | malformed
  /-- The text ends too early. -/
  | truncated
  deriving DecidableEq, Repr

/-- The exponent of a numeral. -/
structure ExponentText where
  negative : Bool
  /-- The digits, in order. -/
  digits : List Nat

/-- A numeral as written. -/
structure Numeral where
  negative : Bool
  /-- The digits before the point. -/
  whole : List Nat
  /-- The digits after the point, if there is one. -/
  fraction : Option (List Nat)
  exponent : Option ExponentText

namespace Numeral

/-- Appends digits to a word for as long as it fits 64 bits: the word and the digits left out. -/
def gather (word : Nat) : List Nat → Nat × List Nat
  | [] => (word, [])
  | d :: rest => if word * 10 + d < 0x10000000000000000 then gather (word * 10 + d) rest else (word, d :: rest)

/-- The value of an exponent's digits, or none beyond 31 bits. -/
def smallExponent (acc : Nat) : List Nat → Option Nat
  | [] => some acc
  | d :: rest => if acc * 10 + d < 0x80000000 then smallExponent (acc * 10 + d) rest else none

/-- The largest power of ten that one scaling applies. -/
def maxPower : Nat := 308

/-- `x · 10^exponent` in double arithmetic: one multiplication, or one division after as many
divisions by `10^308` as the exponent needs. None when the result is infinite. -/
def scale (x : Binary64) (exponent : Int) : Nat → Option Binary64
  | 0 => some x
  | fuel + 1 =>
    if exponent.natAbs ≤ maxPower then
      let power := Binary64.ofDecimal 1 exponent.natAbs
      if exponent ≥ 0 then
        let y := x.product power
        if y.isFinite then some y else none
      else some (x.quotient power)
    else if x.isZero then some x
    else if exponent ≥ 0 then none
    else scale (x.quotient (Binary64.ofDecimal 1 maxPower)) (exponent + maxPower) fuel

/-- The double of a word scaled by a power of ten, with a sign. -/
def toDouble (negative : Bool) (word : Nat) (exponent : Int) : Except Fault Number :=
  match scale (Binary64.nearest word 1) exponent (exponent.natAbs / maxPower + 2) with
  | none => .error .malformed
  | some x =>
    match Number.ofDouble? (if negative then x.negate else x) with
    | some n => .ok n
    | none => .error .malformed

/-- An integer numeral that fits a word: `-0` and what is below `-2^63` are doubles. -/
def toInteger (negative : Bool) (word : Nat) : Except Fault Number :=
  if negative then
    match (if word = 0 then none else Number.ofInt? (-word)) with
    | some n => .ok n
    | none => toDouble true word 0
  else
    match Number.ofInt? word with
    | some n => .ok n
    | none => .error .malformed

/-- The number a numeral stands for. A double beyond the finite ones is a fault. -/
def toNumber (t : Numeral) : Except Fault Number :=
  let (word, dropped) := gather 0 t.whole
  match t.fraction, t.exponent with
  | none, none =>
    if dropped.isEmpty then toInteger t.negative word else toDouble t.negative word dropped.length
  | fraction, exponent =>
    let places := fraction.getD []
    let (word, unused) := gather word places
    let start : Int := (dropped.length : Int) - (places.length - unused.length : Nat)
    match exponent with
    | none => toDouble t.negative word start
    | some e =>
      match smallExponent 0 e.digits with
      | some n => toDouble t.negative word (if e.negative then start - n else start + n)
      | none =>
        if word != 0 && !e.negative then .error .malformed else toDouble t.negative 0 0

end Numeral

end TableSeed.Json
