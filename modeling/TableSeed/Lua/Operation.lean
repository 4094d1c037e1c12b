import TableSeed.Lua.Action
import TableSeed.Lua.Arithmetic

/-!
# Operations

What the operators of the language do to values, metamethods included. Indexing a string looks
into the methods of strings; every other value but a table cannot be indexed.
-/

namespace TableSeed.Lua

open TableSeed.Lua.Action

/-- The names of metamethods. -/
inductive Event where
  | index | newIndex | call | length | minus | bitNot | concat | eq | lt | le | close | toText
  | name | pairs | metatable
  deriving DecidableEq, Repr

namespace Event

/-- The field that holds the metamethod. -/
def field : Event → String
  | .index => "__index"
  | .newIndex => "__newindex"
  | .call => "__call"
  | .length => "__len"
  | .minus => "__unm"
  | .bitNot => "__bnot"
  | .concat => "__concat"
  | .eq => "__eq"
  | .lt => "__lt"
  | .le => "__le"
  | .close => "__close"
  | .toText => "__tostring"
  | .name => "__name"
  | .pairs => "__pairs"
  | .metatable => "__metatable"

/-- The key of the field. -/
def key (e : Event) : Key := .ofText e.field

end Event

namespace Value

/-- Whether the value is a function. -/
def isFunction : Value → Bool
  | .closure _ | .builtin _ => true
  | _ => false

/-- The field of a value's metatable, or nil. -/
def metafieldKey (v : Value) (field : Key) : Action Value :=
  match v with
  | .table t => do
    match ← request (.metatable t) with
    | some m => Action.get m field
    | none => return .nil
  | _ => .done .nil

/-- The metamethod of a value for an event, or nil. -/
def metafield (v : Value) (e : Event) : Action Value := metafieldKey v e.key

/-- How many tables an access may go through. -/
def maxChain : Nat := 2000

/-- The value under a key of a value, through at most `fuel` values. -/
def indexWithin : Nat → Value → Value → Action Value
  | 0, _, _ => refuse "'__index' chain too long; possibly a loop"
  | fuel + 1, v, k =>
    match v with
    | .table t => do
      let found ← match k.toKey? with
        | some key => Action.get t key
        | none => pure Value.nil
      if !found.isNil then return found
      else
        let handler ← metafield v .index
        if handler.isNil then return .nil
        else if handler.isFunction then call1 handler [v, k]
        else indexWithin fuel handler k
    | .string _ =>
      match k.toKey? with
      | some key => request (.method key)
      | none => .done .nil
    | v => refuse s!"attempt to index a {v.typeName} value"

/-- The value under a key of a value. -/
def index (v k : Value) : Action Value := indexWithin maxChain v k

/-- Gives a key of a table a value without metamethods. -/
def rawSetIndex (t : TableRef) (k v : Value) : Action Unit :=
  match k.toKey? with
  | some key => Action.set t key v
  | none => refuse (if k.isNil then "index is nil" else "index is NaN")

/-- Gives a key of a value a value, through at most `fuel` values. -/
def setIndexWithin : Nat → Value → Value → Value → Action Unit
  | 0, _, _, _ => refuse "'__newindex' chain too long; possibly a loop"
  | fuel + 1, target, k, v =>
    match target with
    | .table t => do
      let found ← match k.toKey? with
        | some key => Action.get t key
        | none => pure Value.nil
      let handler ← if found.isNil then metafield target .newIndex else pure Value.nil
      if handler.isNil then rawSetIndex t k v
      else if handler.isFunction then do
        let _ ← call handler [target, k, v]
      else setIndexWithin fuel handler k v
    | target => refuse s!"attempt to index a {target.typeName} value"

/-- Gives a key of a value a value. -/
def setIndex (target k v : Value) : Action Unit := setIndexWithin maxChain target k v

/-- The metamethod of the first operand, or of the second. -/
def handler2 (a b : Value) (field : Key) : Action Value := do
  let first ← metafieldKey a field
  if first.isNil then metafieldKey b field else return first

/-- The first operand that has no number, for a message. -/
def culprit (a b : Value) (isRight : Value → Bool) : Value := if isRight a then b else a

/-- The result of an arithmetic or bitwise operator. -/
def arithmetic (op : BinaryOp) (a b : Value) : Action Value :=
  let operand (v : Value) : Option Num := if op.isBitwise then v.num? else v.toNum?
  match operand a, operand b with
  | some m, some n =>
    match op.onNumbers m n with
    | .ok r => .done (.ofNum r)
    | .error fault => refuse fault.message
  | _, _ => do
    let handler ← handler2 a b (.ofText op.event)
    if !handler.isNil then call1 handler [a, b]
    else
      let what := if op.isBitwise then "perform bitwise operation on" else "perform arithmetic on"
      let v := culprit a b fun v => (operand v).isSome
      refuse s!"attempt to {what} a {v.typeName} value"

/-- The greatest number of bytes that a string may have. -/
def maxStringSize : Nat := 256 * 1024 * 1024

/-- Fails as for want of memory. -/
def exhausted {α : Type} : Action α := .fail (.value (.ofText "not enough memory"))

/-- The operands put together. -/
def concat (a b : Value) : Action Value :=
  match a.toBytes?, b.toBytes? with
  | some x, some y =>
    if x.size + y.size > maxStringSize then exhausted else .done (.string (x ++ y))
  | _, _ => do
    let handler ← handler2 a b Event.concat.key
    if !handler.isNil then call1 handler [a, b]
    else
      let v := culprit a b fun v => v.toBytes?.isSome
      refuse s!"attempt to concatenate a {v.typeName} value"

/-- Whether two values are equal. -/
def equals (a b : Value) : Action Bool :=
  match a, b with
  | .table s, .table t => do
    if s = t then return true
    else
      let handler ← handler2 a b Event.eq.key
      if handler.isNil then return false else return (← call1 handler [a, b]).truthy
  | a, b => .done (rawEqual a b)

/-- The order of two numbers or two strings as a comparison wants it. -/
def compareRaw? (a b : Value) (ofNums : Num → Num → Bool) (ofOrder : Ordering → Bool) :
    Option Bool :=
  match a, b with
  | .string x, .string y => some (ofOrder (Bytes.order x y))
  | a, b =>
    match a.num?, b.num? with
    | some m, some n => some (ofNums m n)
    | _, _ => none

/-- Fails because two values have no order. -/
def incomparable {α : Type} (a b : Value) : Action α :=
  if a.typeName = b.typeName then refuse s!"attempt to compare two {a.typeName} values"
  else refuse s!"attempt to compare {a.typeName} with {b.typeName}"

/-- Whether the first value is less. -/
def less (a b : Value) : Action Bool :=
  match compareRaw? a b Num.less (· == .lt) with
  | some r => .done r
  | none => do
    let handler ← handler2 a b Event.lt.key
    if handler.isNil then incomparable a b else return (← call1 handler [a, b]).truthy

/-- Whether the first value is less or equal. Without a metamethod of its own, it is not greater. -/
def lessEqual (a b : Value) : Action Bool :=
  match compareRaw? a b Num.lessEqual (· != .gt) with
  | some r => .done r
  | none => do
    let handler ← handler2 a b Event.le.key
    if !handler.isNil then return (← call1 handler [a, b]).truthy
    else
      let reverse ← handler2 b a Event.lt.key
      if reverse.isNil then incomparable a b else return !(← call1 reverse [b, a]).truthy

/-- The length of a value. -/
def length (v : Value) : Action Value :=
  match v with
  | .string s => .done (.integer (Int64.ofNat s.size))
  | .table t => do
    let handler ← metafield v .length
    if handler.isNil then return .integer (Int64.ofNat (← request (.border t)))
    else call1 handler [v]
  | v => refuse s!"attempt to get length of a {v.typeName} value"

/-- The result of a binary operator. -/
def binary (op : BinaryOp) (a b : Value) : Action Value :=
  match op with
  | .concat => concat a b
  | .eq => do return .boolean (← equals a b)
  | .ne => do return .boolean !(← equals a b)
  | .lt => do return .boolean (← less a b)
  | .gt => do return .boolean (← less b a)
  | .le => do return .boolean (← lessEqual a b)
  | .ge => do return .boolean (← lessEqual b a)
  | op => arithmetic op a b

/-- The negated value. -/
def minus (v : Value) : Action Value :=
  match v.toNum? with
  | some n => .done (.ofNum (Numeral.negate n))
  | none => do
    let handler ← metafield v .minus
    if handler.isNil then refuse s!"attempt to perform arithmetic on a {v.typeName} value"
    else call1 handler [v, v]

/-- The value with every bit flipped. -/
def bitNot (v : Value) : Action Value :=
  match v.num? with
  | some n =>
    match n.toInt64? with
    | some i => .done (.integer (~~~ i))
    | none => refuse ArithmeticFault.noInteger.message
  | none => do
    let handler ← metafield v .bitNot
    if handler.isNil then refuse s!"attempt to perform bitwise operation on a {v.typeName} value"
    else call1 handler [v, v]

/-- The result of a unary operator. -/
def unary (op : UnaryOp) (v : Value) : Action Value :=
  match op with
  | .minus => minus v
  | .bitNot => bitNot v
  | .not => .done (.boolean !v.truthy)
  | .length => length v

/-- The text of a reference, which tells values of one type apart. -/
def addressText (typeName : String) (index : Nat) : String :=
  let digits := Nat.toDigits 16 (0x55550000 + 64 * index)
  s!"{typeName}: 0x{String.ofList digits}"

/-- The text of a value without metamethods. -/
def plainText (v : Value) : Bytes :=
  match v with
  | .nil => Bytes.ofText "nil"
  | .boolean b => Bytes.ofText (if b then "true" else "false")
  | .integer n => Num.toBytes (.integer n)
  | .float x => Num.toBytes (.float x)
  | .string s => s
  | .table r => Bytes.ofText (addressText "table" r.index)
  | .closure r => Bytes.ofText (addressText "function" r.index)
  | .builtin _ => Bytes.ofText "function: builtin"
  | .failure f => Bytes.ofText f.message

/-- The text of a value. -/
def toText (v : Value) : Action Bytes :=
  match v with
  | .table r => do
    let handler ← metafield v .toText
    if !handler.isNil then
      match ← call1 handler [v] with
      | .string s => return s
      | .integer n => return Num.toBytes (.integer n)
      | .float x => return Num.toBytes (.float x)
      | _ => complain "'__tostring' must return a string"
    else
      match ← metafield v .name with
      | .string s => return s ++ Bytes.ofText (addressText "" r.index)
      | _ => return v.plainText
  | v => .done v.plainText

end Value

end TableSeed.Lua
