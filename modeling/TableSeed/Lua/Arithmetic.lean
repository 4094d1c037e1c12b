import TableSeed.Lua.Syntax

/-!
# Arithmetic

Integers are 64 bits wide and wrap; mixed operands are computed as floats. Division rounds to the
floor and the remainder has the sign of the divisor. Comparisons between integers and floats are
exact. An invalid operation on floats gives a NaN with its sign bit set, and a NaN operand goes
through with its sign.
-/

namespace TableSeed.Lua

namespace Num

/-- The double nearest to an integer. -/
@[inline] def ofInt64 (n : Int64) : Binary64 := Binary64.ofFloat n.toFloat

/-- The number as a float. -/
@[inline] def toBinary64 : Num → Binary64
  | .integer n => ofInt64 n
  | .float x => x

/-- The integer that the number is exactly. -/
def toInt64? : Num → Option Int64
  | .integer n => some n
  | .float x => floatToInt64? x

/-- The number that a string spells. -/
def ofBytes? (b : Bytes) : Option Num := Numeral.ofString? b.toChars

/-- The text of a number. -/
def toBytes (n : Num) : Bytes := Bytes.ofChars (Numeral.text n)

end Num

/-- The NaN of an invalid operation. -/
def invalid : Binary64 := ⟨0xFFF8000000000000⟩

/-- An operation on floats. -/
@[inline] def floatOp (f : Float → Float → Float) (x y : Binary64) : Binary64 :=
  if x.isNaN then x
  else if y.isNaN then y
  else
    let r := f x.toFloat y.toFloat
    if r.isNaN then invalid else Binary64.ofFloat r

/-- A function of one float. -/
@[inline] def floatMap (f : Float → Float) (x : Binary64) : Binary64 :=
  if x.isNaN then x
  else
    let r := f x.toFloat
    if r.isNaN then invalid else Binary64.ofFloat r

/-- The exact remainder of a truncated division of floats. -/
def floatRem (x y : Binary64) : Binary64 :=
  if x.isNaN then x
  else if y.isNaN then y
  else if !x.isFinite || y.significand = 0 then invalid
  else if !y.isFinite then x
  else
    let e := min x.exponent y.exponent
    let a := x.significand * Nat.pow 2 (x.exponent - e).toNat
    let b := y.significand * Nat.pow 2 (y.exponent - e).toNat
    (Binary64.ofBinary (a % b) e).withSign x.isNegative

/-- The remainder with the sign of the divisor. -/
def floatMod (x y : Binary64) : Binary64 :=
  let r := floatRem x y
  if r.isNaN || r.significand = 0 then r
  else if r.isNegative != y.isNegative then floatOp (· + ·) r y
  else r

/-- A power; the square is a product. -/
def floatPow (x y : Float) : Float := if y == 2 then x * x else Float.pow x y

/-- The shift of an integer to the left, or to the right by a negative amount; far shifts give
zero. -/
def shiftLeft (n amount : Int64) : Int64 :=
  if amount ≤ -64 || amount ≥ 64 then 0
  else if amount ≥ 0 then (n.toUInt64 <<< amount.toUInt64).toInt64
  else (n.toUInt64 >>> (-amount).toUInt64).toInt64

/-- The floored quotient of integers, modulo `2^64`. -/
def floorDiv (a b : Int64) : Int64 := Int64.ofInt (Int.fdiv a.toInt b.toInt)

/-- The remainder of the floored quotient. -/
def floorMod (a b : Int64) : Int64 := Int64.ofInt (Int.fmod a.toInt b.toInt)

/-- Why numbers have no result. -/
inductive ArithmeticFault where
  | divideByZero
  | moduloByZero
  /-- A float that is no integer stands where bits are wanted. -/
  | noInteger
  deriving DecidableEq, Repr

namespace ArithmeticFault

/-- The message of the fault. -/
def message : ArithmeticFault → String
  | .divideByZero => "attempt to perform 'n//0'"
  | .moduloByZero => "attempt to perform 'n%%0'"
  | .noInteger => "number has no integer representation"

end ArithmeticFault

namespace BinaryOp

/-- Whether the operator works on bits. -/
def isBitwise : BinaryOp → Bool
  | .bitAnd | .bitOr | .bitXor | .shiftLeft | .shiftRight => true
  | _ => false

/-- The result of an arithmetic operator on integers, for operators that keep integers. -/
def onIntegers? : BinaryOp → Int64 → Int64 → Option (Except ArithmeticFault Int64)
  | .add, a, b => some (.ok (a + b))
  | .sub, a, b => some (.ok (a - b))
  | .mul, a, b => some (.ok (a * b))
  | .floorDiv, a, b => some (if b = 0 then .error .divideByZero else .ok (Lua.floorDiv a b))
  | .mod, a, b => some (if b = 0 then .error .moduloByZero else .ok (floorMod a b))
  | .bitAnd, a, b => some (.ok (a &&& b))
  | .bitOr, a, b => some (.ok (a ||| b))
  | .bitXor, a, b => some (.ok (a ^^^ b))
  | .shiftLeft, a, b => some (.ok (Lua.shiftLeft a b))
  | .shiftRight, a, b =>
    some (.ok (if b ≤ -64 || b ≥ 64 then 0 else Lua.shiftLeft a (-b)))
  | _, _, _ => none

/-- The result of an arithmetic operator on floats. -/
def onFloats (op : BinaryOp) (x y : Binary64) : Binary64 :=
  match op with
  | .add => floatOp (· + ·) x y
  | .sub => floatOp (· - ·) x y
  | .mul => floatOp (· * ·) x y
  | .div => floatOp (· / ·) x y
  | .floorDiv => floatMap Float.floor (floatOp (· / ·) x y)
  | .mod => floatMod x y
  | .pow =>
    if x.isNaN || y.isNaN then
      if y.significand = 0 && y.isFinite then Binary64.ofFloat 1
      else if x = Binary64.ofFloat 1 then x
      else floatOp floatPow x y
    else floatOp floatPow x y
  | _ => invalid

/-- The result of an arithmetic or bitwise operator on numbers. -/
def onNumbers (op : BinaryOp) (a b : Num) : Except ArithmeticFault Num :=
  if op.isBitwise then
    match a.toInt64?, b.toInt64? with
    | some a, some b =>
      match op.onIntegers? a b with
      | some r => r.map .integer
      | none => .error .noInteger
    | _, _ => .error .noInteger
  else
    match a, b with
    | .integer m, .integer n =>
      match op.onIntegers? m n with
      | some r => r.map .integer
      | none => .ok (.float (op.onFloats (Num.ofInt64 m) (Num.ofInt64 n)))
    | a, b => .ok (.float (op.onFloats a.toBinary64 b.toBinary64))

/-- The name of the operator's metamethod. -/
def event : BinaryOp → String
  | .add => "__add"
  | .sub => "__sub"
  | .mul => "__mul"
  | .mod => "__mod"
  | .pow => "__pow"
  | .div => "__div"
  | .floorDiv => "__idiv"
  | .bitAnd => "__band"
  | .bitOr => "__bor"
  | .bitXor => "__bxor"
  | .shiftLeft => "__shl"
  | .shiftRight => "__shr"
  | .concat => "__concat"
  | .eq | .ne => "__eq"
  | .lt | .gt => "__lt"
  | .le | .ge => "__le"

end BinaryOp

namespace Num

/-- The sign of the difference between an integer and a finite float, exactly. -/
def compareFinite (n : Int) (x : Binary64) : Ordering :=
  let m : Int := if x.isNegative then -(x.significand : Int) else x.significand
  if x.exponent ≥ 0 then compare n (m * Nat.pow 2 x.exponent.toNat)
  else compare (n * Nat.pow 2 (-x.exponent).toNat) m

/-- The order of two numbers; NaN has none. -/
def compare? (a b : Num) : Option Ordering :=
  match a, b with
  | .integer m, .integer n => some (if m < n then .lt else if m = n then .eq else .gt)
  | .float x, .float y =>
    if x.isNaN || y.isNaN then none
    else
      let f := x.toFloat
      let g := y.toFloat
      some (if f < g then .lt else if f == g then .eq else .gt)
  | .integer m, .float y =>
    if y.isNaN then none
    else if y.isFinite then some (compareFinite m.toInt y)
    else some (if y.isNegative then .gt else .lt)
  | .float x, .integer n =>
    if x.isNaN then none
    else if x.isFinite then some (compareFinite n.toInt x).swap
    else some (if x.isNegative then .lt else .gt)

/-- Whether the first number is less. -/
def less (a b : Num) : Bool := compare? a b == some .lt

/-- Whether the first number is less or equal. -/
def lessEqual (a b : Num) : Bool :=
  match compare? a b with
  | some .lt | some .eq => true
  | _ => false

/-- Whether two numbers are equal. -/
def equal (a b : Num) : Bool := compare? a b == some .eq

end Num

namespace Value

/-- The number that a value is. -/
@[inline] def num? : Value → Option Num
  | .integer n => some (.integer n)
  | .float x => some (.float x)
  | _ => none

/-- The number that a value is or spells. -/
def toNum? : Value → Option Num
  | .integer n => some (.integer n)
  | .float x => some (.float x)
  | .string s => Num.ofBytes? s
  | _ => none

/-- The string that a value is, or the text of a number. -/
def toBytes? : Value → Option Bytes
  | .string s => some s
  | .integer n => some (Num.toBytes (.integer n))
  | .float x => some (Num.toBytes (.float x))
  | _ => none

/-- Whether two values are equal without metamethods. -/
def rawEqual (a b : Value) : Bool :=
  match a, b with
  | .integer m, .integer n => m == n
  | .float x, .float y => Num.equal (.float x) (.float y)
  | .integer m, .float y => Num.equal (.integer m) (.float y)
  | .float x, .integer n => Num.equal (.float x) (.integer n)
  | a, b => decide (a = b)

end Value

end TableSeed.Lua
