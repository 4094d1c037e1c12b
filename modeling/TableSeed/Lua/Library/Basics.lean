import TableSeed.Lua.Arguments

/-!
# The basic functions

Printing and warning check their arguments and have no other effect.
-/

namespace TableSeed.Lua

open TableSeed.Lua.Action

namespace BaseFunction

/-- The functions that are there under a name. -/
def all : List BaseFunction :=
  [.assert, .error, .getmetatable, .ipairs, .next, .pairs, .pcall, .print, .rawequal, .rawget,
   .rawlen, .rawset, .select, .setmetatable, .tonumber, .tostring, .type, .warn, .xpcall]

/-- The name of a function. -/
def name : BaseFunction → String
  | .assert => "assert"
  | .error => "error"
  | .getmetatable => "getmetatable"
  | .ipairs | .ipairsStep => "ipairs"
  | .next => "next"
  | .pairs => "pairs"
  | .pcall => "pcall"
  | .print => "print"
  | .rawequal => "rawequal"
  | .rawget => "rawget"
  | .rawlen => "rawlen"
  | .rawset => "rawset"
  | .select => "select"
  | .setmetatable => "setmetatable"
  | .tonumber => "tonumber"
  | .tostring => "tostring"
  | .type => "type"
  | .warn => "warn"
  | .xpcall => "xpcall"

end BaseFunction

namespace Basics

/-- Fails with a value; a text is put after the place of a level above zero. -/
def raise (v : Value) (level : Int64) : Action (List Value) :=
  match v with
  | .string s => do
    if level > 0 then
      let place ← request (.position level.toUInt64.toNat)
      .fail (.value (.string (Bytes.ofText place ++ s)))
    else .fail (.value v)
  | v => .fail (.value v)

/-- Fails unless the first argument is true. -/
def assert (args : Arguments) : Action (List Value) := do
  if (← args.any 1).truthy then return args.values
  else if args.has 2 then raise (args.value 2) 1
  else raise (.ofText "assertion failed!") 1

/-- The metatable of a value, or what it shows in its place. -/
def getmetatable (args : Arguments) : Action (List Value) := do
  match ← args.any 1 with
  | .string _ => return [.boolean false]
  | .table t =>
    match ← request (.metatable t) with
    | none => return [.nil]
    | some m =>
      let shown ← get m Event.metatable.key
      return [if shown.isNil then .table m else shown]
  | _ => return [.nil]

/-- Gives a table a metatable, unless it protects the one it has. -/
def setmetatable (args : Arguments) : Action (List Value) := do
  let t ← args.table 1
  let m ← match args.value 2 with
    | .table m => pure (some m)
    | .nil => if args.has 2 then pure none else args.mismatch 2 "nil or table"
    | _ => args.mismatch 2 "nil or table"
  let shown ← Value.metafield (.table t) .metatable
  if shown.isNil then
    request (.setMetatable t m)
    return [.table t]
  else complain "cannot change a protected metatable"

/-- The entry after a key. -/
def next (args : Arguments) : Action (List Value) := do
  let t ← args.table 1
  let k := args.value 2
  if k.isNil then
    match ← request (.next t none) with
    | some (some (k, v)) => return [k.toValue, v]
    | _ => return [.nil]
  else
    match k.toKey? with
    | none => refuse "invalid key to 'next'"
    | some k =>
      match ← request (.next t (some k)) with
      | some (some (k, v)) => return [k.toValue, v]
      | some none => return [.nil]
      | none => refuse "invalid key to 'next'"

/-- What a loop over all entries needs. -/
def pairs (args : Arguments) : Action (List Value) := do
  let v ← args.any 1
  let handler ← Value.metafield v .pairs
  if handler.isNil then return [.builtin (.base .next), v, .nil]
  else
    let results ← call handler [v]
    return [results.getD 0 .nil, results.getD 1 .nil, results.getD 2 .nil]

/-- The item after a position. -/
def ipairsStep (args : Arguments) : Action (List Value) := do
  let i := (← args.int 2) + 1
  let v ← Value.index (args.value 1) (.integer i)
  return if v.isNil then [.nil] else [.integer i, v]

/-- A value as a number, or a text in a base as an integer. -/
def tonumber (args : Arguments) : Action (List Value) := do
  if args.isAbsent 2 then
    match (← args.any 1).toNum? with
    | some n => return [.ofNum n]
    | none => return [.nil]
  else
    let base ← args.int 2
    match args.value 1 with
    | .string s =>
      if !(2 ≤ base && base ≤ 36) then args.bad 2 "base out of range"
      else
        match Numeral.ofStringInBase? base.toUInt64.toNat s.toChars with
        | some n => return [.integer n]
        | none => return [.nil]
    | _ => args.mismatch 1 "string"

/-- The arguments from a position on, or their number. -/
def select (args : Arguments) : Action (List Value) := do
  let rest := args.values.drop 1
  let wantsCount := match args.value 1 with
    | .string s => Bytes.at! s 0 == 35
    | _ => false
  if wantsCount then return [.integer (Int64.ofNat rest.length)]
  else
    let n := (← args.int 1).toInt
    if n < 0 then
      if -n > rest.length then args.bad 1 "index out of range"
      else return rest.drop (rest.length - n.natAbs)
    else if n = 0 then args.bad 1 "index out of range"
    else return rest.drop (n.toNat - 1)

/-- The number of bytes of a string or a border of a table. -/
def rawlen (args : Arguments) : Action (List Value) := do
  match args.value 1 with
  | .table t => return [.integer (Int64.ofNat (← request (.border t)))]
  | .string s => return [.integer (Int64.ofNat s.size)]
  | _ => args.bad 1 "table or string expected"

/-- The results of a call after its outcome. -/
def attempt (f : Value) (values : List Value) (handler : Option Value) : Action (List Value) := do
  let (succeeded, results) ← request (.attempt f values handler)
  return .boolean succeeded :: results

/-- Checks that every argument has a text. -/
def print (args : Arguments) : Action (List Value) := do
  args.values.forM fun v => do
    let _ ← v.toText
  return []

/-- Checks that every argument is a text. -/
def warn (args : Arguments) : Action (List Value) := do
  let _ ← args.bytes 1
  (List.range args.values.length).forM fun i => do
    let _ ← args.bytes (i + 1)
  return []

end Basics

/-- What a basic function does. -/
def BaseFunction.run (f : BaseFunction) (values : List Value) : Action (List Value) :=
  let args : Arguments := ⟨f.name, values⟩
  match f with
  | .assert => Basics.assert args
  | .error => do Basics.raise (args.value 1) (← args.intOr 2 1)
  | .getmetatable => Basics.getmetatable args
  | .ipairs => do return [.builtin (.base .ipairsStep), ← args.any 1, .integer 0]
  | .ipairsStep => Basics.ipairsStep args
  | .next => Basics.next args
  | .pairs => Basics.pairs args
  | .pcall => do
    let f ← args.any 1
    Basics.attempt f (values.drop 1) none
  | .print => Basics.print args
  | .rawequal => do
    let a ← args.any 1
    let b ← args.any 2
    return [.boolean (Value.rawEqual a b)]
  | .rawget => do
    let t ← args.table 1
    let k ← args.any 2
    match k.toKey? with
    | some k => return [← get t k]
    | none => return [.nil]
  | .rawlen => Basics.rawlen args
  | .rawset => do
    let t ← args.table 1
    let k ← args.any 2
    let v ← args.any 3
    Value.rawSetIndex t k v
    return [.table t]
  | .select => Basics.select args
  | .setmetatable => Basics.setmetatable args
  | .tonumber => Basics.tonumber args
  | .tostring => do return [.string (← (← args.any 1).toText)]
  | .type => do return [.ofText (← args.any 1).typeName]
  | .warn => Basics.warn args
  | .xpcall => do
    if (args.value 2).isFunction then
      Basics.attempt (args.value 1) (values.drop 2) (some (args.value 2))
    else args.mismatch 2 "function"

end TableSeed.Lua
