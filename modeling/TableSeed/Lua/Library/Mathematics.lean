import TableSeed.Lua.Arguments

/-!
# The mathematical library

Functions of integers that have an integer result keep it, and all others compute with floats.
-/

namespace TableSeed.Lua

open TableSeed.Lua.Action

namespace MathFunction

/-- The functions of the library. -/
def all : List MathFunction :=
  [.abs, .acos, .asin, .atan, .ceil, .cos, .cosh, .deg, .exp, .floor, .fmod, .frexp, .ldexp, .log,
   .log10, .max, .min, .modf, .pow, .rad, .random, .randomseed, .sin, .sinh, .sqrt, .tan, .tanh,
   .tointeger, .type, .ult]

/-- The name of a function. -/
def name : MathFunction → String
  | .abs => "abs"
  | .acos => "acos"
  | .asin => "asin"
  | .atan => "atan"
  | .ceil => "ceil"
  | .cos => "cos"
  | .cosh => "cosh"
  | .deg => "deg"
  | .exp => "exp"
  | .floor => "floor"
  | .fmod => "fmod"
  | .frexp => "frexp"
  | .ldexp => "ldexp"
  | .log => "log"
  | .log10 => "log10"
  | .max => "max"
  | .min => "min"
  | .modf => "modf"
  | .pow => "pow"
  | .rad => "rad"
  | .random => "random"
  | .randomseed => "randomseed"
  | .sin => "sin"
  | .sinh => "sinh"
  | .sqrt => "sqrt"
  | .tan => "tan"
  | .tanh => "tanh"
  | .tointeger => "tointeger"
  | .type => "type"
  | .ult => "ult"

end MathFunction

namespace Mathematics

/-- The circle constant. -/
def pi : Binary64 := ⟨0x400921FB54442D18⟩

/-- A function of one float. -/
def ofFloat (f : Float → Float) (args : Arguments) : Action (List Value) := do
  return [.float (floatMap f (← args.float 1))]

/-- A whole float as an integer where it fits. -/
def wholeValue (x : Binary64) : Value :=
  match Num.floatToInt64? x with
  | some n => .integer n
  | none => .float x

/-- A number rounded to a whole one. -/
def round (f : Float → Float) (args : Arguments) : Action (List Value) := do
  match args.value 1 with
  | .integer n => return [.integer n]
  | _ => return [wholeValue (floatMap f (← args.float 1))]

/-- The magnitude of a float. -/
def magnitude (x : Binary64) : Binary64 := if x.isNegative then x.negate else x

/-- The remainder of a truncated division. -/
def fmod (args : Arguments) : Action (List Value) := do
  match args.value 1, args.value 2 with
  | .integer a, .integer b =>
    if b = 0 then args.bad 2 "zero"
    else return [.integer (Int64.ofInt (Int.tmod a.toInt b.toInt))]
  | _, _ =>
    let x ← args.float 1
    let y ← args.float 2
    return [.float (floatRem x y)]

/-- The whole part of a number and the rest. -/
def modf (args : Arguments) : Action (List Value) := do
  match args.value 1 with
  | .integer n => return [.integer n, .float Binary64.zero]
  | _ =>
    let x ← args.float 1
    let whole := floatMap (if x.isNegative then Float.ceil else Float.floor) x
    let rest := if !x.isFinite && !x.isNaN then Binary64.zero
      else if Num.equal (.float x) (.float whole) then Binary64.zero
      else floatOp (· - ·) x whole
    return [.float whole, .float rest]

/-- A logarithm, natural without a base. -/
def log (args : Arguments) : Action (List Value) := do
  let x ← args.float 1
  if args.isAbsent 2 then return [.float (floatMap Float.log x)]
  else
    let base ← args.float 2
    if base = Binary64.ofFloat 2 then return [.float (floatMap Float.log2 x)]
    else if base = Binary64.ofFloat 10 then return [.float (floatMap Float.log10 x)]
    else return [.float (floatOp (· / ·) (floatMap Float.log x) (floatMap Float.log base))]

/-- The first of the arguments that no other one is to take the place of. -/
def best (args : Arguments) (better : Value → Value → Action Bool) : Action (List Value) := do
  let _ ← args.num 1
  let winner ← (List.range (args.values.length - 1)).foldlM (fun winner i => do
    let _ ← args.num (i + 2)
    let v := args.value (i + 2)
    return if ← better v winner then v else winner) (args.value 1)
  return [winner]

/-- A float as a fraction between a half and one and a power of two. -/
def frexp (args : Arguments) : Action (List Value) := do
  let x ← args.float 1
  if !x.isFinite || x.isZero then return [.float x, .integer 0]
  else
    let e := x.exponent + x.significand.log2 + 1
    let fraction := Binary64.ofBinary x.significand (x.exponent - e)
    return [.float (fraction.withSign x.isNegative), .integer (Int64.ofInt e)]

/-- A float times a power of two. -/
def ldexp (args : Arguments) : Action (List Value) := do
  let x ← args.float 1
  let e ← args.int 2
  if !x.isFinite || x.isZero then return [.float x]
  else
    let e := max (-5000) (min 5000 e.toInt)
    return [.float ((Binary64.ofBinary x.significand (x.exponent + e)).withSign x.isNegative)]

/-- A random integer between two others, ends included. -/
def randomBetween (low up : Int64) : Action (List Value) := do
  let n ← request .entropy
  let width := (up.toInt - low.toInt + 1).toNat
  return [.integer (Int64.ofInt (low.toInt + (n.toNat % width : Nat)))]

/-- A random float below one, or a random integer from a range. -/
def random (args : Arguments) : Action (List Value) := do
  match args.values.length with
  | 0 =>
    let n ← request .entropy
    return [.float (Binary64.ofBinary (n.toNat / 2048) (-53))]
  | 1 =>
    let up ← args.int 1
    if up = 0 then return [.integer (← request .entropy).toInt64]
    else if up < 1 then args.bad 1 "interval is empty"
    else randomBetween 1 up
  | 2 =>
    let low ← args.int 1
    let up ← args.int 2
    if low > up then args.bad 2 "interval is empty" else randomBetween low up
  | _ => complain "wrong number of arguments"

/-- Starts the random numbers anew. -/
def randomseed (args : Arguments) : Action (List Value) := do
  if args.values.isEmpty then
    request (.reseed (← request .entropy))
    return []
  else
    let n ← args.num 1
    request (.reseed (match n.toInt64? with
      | some n => n.toUInt64
      | none => n.toBinary64.bits))
    return []

end Mathematics

/-- What a mathematical function does. -/
def MathFunction.run (f : MathFunction) (values : List Value) : Action (List Value) :=
  let args : Arguments := ⟨f.name, values⟩
  match f with
  | .abs =>
    match args.value 1 with
    | .integer n => .done [.integer (if n < 0 then -n else n)]
    | _ => do return [.float (Mathematics.magnitude (← args.float 1))]
  | .acos => Mathematics.ofFloat Float.acos args
  | .asin => Mathematics.ofFloat Float.asin args
  | .atan => do
    let y ← args.float 1
    let x ← if args.isAbsent 2 then pure (Binary64.ofFloat 1) else args.float 2
    return [.float (floatOp Float.atan2 y x)]
  | .ceil => Mathematics.round Float.ceil args
  | .cos => Mathematics.ofFloat Float.cos args
  | .cosh => Mathematics.ofFloat Float.cosh args
  | .deg => do
    return [.float (floatOp (· * ·) (← args.float 1)
      (floatOp (· / ·) (Binary64.ofFloat 180) Mathematics.pi))]
  | .exp => Mathematics.ofFloat Float.exp args
  | .floor => Mathematics.round Float.floor args
  | .fmod => Mathematics.fmod args
  | .frexp => Mathematics.frexp args
  | .ldexp => Mathematics.ldexp args
  | .log => Mathematics.log args
  | .log10 => Mathematics.ofFloat Float.log10 args
  | .max => Mathematics.best args fun v winner => Value.less winner v
  | .min => Mathematics.best args fun v winner => Value.less v winner
  | .modf => Mathematics.modf args
  | .pow => do
    let x ← args.float 1
    let y ← args.float 2
    return [.float (BinaryOp.onFloats .pow x y)]
  | .rad => do
    return [.float (floatOp (· * ·) (← args.float 1)
      (floatOp (· / ·) Mathematics.pi (Binary64.ofFloat 180)))]
  | .random => Mathematics.random args
  | .randomseed => Mathematics.randomseed args
  | .sin => Mathematics.ofFloat Float.sin args
  | .sinh => Mathematics.ofFloat Float.sinh args
  | .sqrt => Mathematics.ofFloat Float.sqrt args
  | .tan => Mathematics.ofFloat Float.tan args
  | .tanh => Mathematics.ofFloat Float.tanh args
  | .tointeger =>
    match (args.value 1).toNum?.bind Num.toInt64? with
    | some n => .done [.integer n]
    | none => do
      let _ ← args.any 1
      return [.nil]
  | .type => do
    match ← args.any 1 with
    | .integer _ => return [.ofText "integer"]
    | .float _ => return [.ofText "float"]
    | _ => return [.nil]
  | .ult => do
    let a ← args.int 1
    let b ← args.int 2
    return [.boolean (a.toUInt64 < b.toUInt64)]

end TableSeed.Lua
