import TableSeed.Lua.Operation

/-!
# Arguments

How library functions read their arguments. Numbers and strings stand for each other where one of
them is wanted: a string that spells a number is the number, and a number is its text. A missing
argument counts as nil, except where any value is wanted.
-/

namespace TableSeed.Lua

open TableSeed.Lua.Action

/-- The arguments of a call to a library function. -/
structure Arguments where
  /-- The name of the function, for messages. -/
  function : String
  values : List Value

namespace Arguments

/-- The argument at a position from 1 on, or nil. -/
def value (args : Arguments) (i : Nat) : Value := args.values.getD (i - 1) .nil

/-- Whether there is an argument at a position. -/
def has (args : Arguments) (i : Nat) : Bool := i ≤ args.values.length

/-- Whether the argument at a position is nil or missing. -/
def isAbsent (args : Arguments) (i : Nat) : Bool := (args.value i).isNil

/-- What an argument is called in a message. -/
def describe (args : Arguments) (i : Nat) : String :=
  if args.has i then (args.value i).typeName else "no value"

/-- Fails because of an argument. -/
def bad {α : Type} (args : Arguments) (i : Nat) (why : String) : Action α :=
  complain s!"bad argument #{i} to '{args.function}' ({why})"

/-- Fails because an argument has another type. -/
def mismatch {α : Type} (args : Arguments) (i : Nat) (expected : String) : Action α :=
  args.bad i s!"{expected} expected, got {args.describe i}"

/-- Any argument. -/
def any (args : Arguments) (i : Nat) : Action Value :=
  if args.has i then .done (args.value i) else args.bad i "value expected"

/-- A number. -/
def num (args : Arguments) (i : Nat) : Action Num :=
  match (args.value i).toNum? with
  | some n => .done n
  | none => args.mismatch i "number"

/-- An integer, or a number that is one exactly. -/
def int (args : Arguments) (i : Nat) : Action Int64 :=
  match (args.value i).toNum? with
  | some n =>
    match n.toInt64? with
    | some n => .done n
    | none => args.bad i "number has no integer representation"
  | none => args.mismatch i "number"

/-- An integer, with a default. -/
def intOr (args : Arguments) (i : Nat) (default : Int64) : Action Int64 :=
  if args.isAbsent i then .done default else args.int i

/-- A float. -/
def float (args : Arguments) (i : Nat) : Action Binary64 := do return (← args.num i).toBinary64

/-- A string. -/
def bytes (args : Arguments) (i : Nat) : Action Bytes :=
  match (args.value i).toBytes? with
  | some s => .done s
  | none => args.mismatch i "string"

/-- A string, with a default. -/
def bytesOr (args : Arguments) (i : Nat) (default : Bytes) : Action Bytes :=
  if args.isAbsent i then .done default else args.bytes i

/-- A table. -/
def table (args : Arguments) (i : Nat) : Action TableRef :=
  match args.value i with
  | .table t => .done t
  | _ => args.mismatch i "table"

end Arguments

end TableSeed.Lua
