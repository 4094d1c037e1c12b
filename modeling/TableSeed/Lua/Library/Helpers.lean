import TableSeed.Calendar.Reader
import TableSeed.Calendar.Writer
import TableSeed.Lua.Arguments
import TableSeed.Text.Case
import TableSeed.Text.Guid

/-!
# The helper library

Functions for seed documents: GUIDs, dates, texts, checks of types and the log. Text arguments are
UTF-8, and a number stands for its text. A count of days is the whole part of a number, and a text
that spells a number stands for it.
-/

namespace TableSeed.Lua

open TableSeed.Lua.Action
open Calendar (DateTime)

namespace HelperFunction

/-- The functions of the library. -/
def all : List HelperFunction :=
  [.guid, .isGuid, .now, .timestamp, .parseDate, .formatDate, .addDays, .lower, .upper, .trim,
   .split, .contains, .startsWith, .endsWith, .isNil, .isString, .isNumber, .isTable, .isBoolean,
   .log, .warn]

/-- The name of a function. -/
def name : HelperFunction → String
  | .guid => "guid"
  | .isGuid => "is_guid"
  | .now => "now"
  | .timestamp => "timestamp"
  | .parseDate => "parse_date"
  | .formatDate => "format_date"
  | .addDays => "add_days"
  | .lower => "lower"
  | .upper => "upper"
  | .trim => "trim"
  | .split => "split"
  | .contains => "contains"
  | .startsWith => "starts_with"
  | .endsWith => "ends_with"
  | .isNil => "is_nil"
  | .isString => "is_string"
  | .isNumber => "is_number"
  | .isTable => "is_table"
  | .isBoolean => "is_boolean"
  | .log => "log"
  | .warn => "warn"

end HelperFunction

namespace Helpers

/-- Fails because of an argument. -/
def bad {α : Type} (args : Arguments) (i : Nat) (why : String) : Action α :=
  .fail (.value (.failure (.badCall s!"bad argument #{i} to '{args.function}': {why}")))

/-- Fails because a helper cannot go on. -/
def abort {α : Type} : Action α := .fail (.value (.failure .aborted))

/-- An argument as a helper sees it: it cannot go on with the failure of another one. -/
def received (args : Arguments) (i : Nat) : Action Value :=
  if (args.value i).isAborted then abort else .done (args.value i)

/-- A text argument. -/
def text (args : Arguments) (i : Nat) : Action String := do
  let v ← received args i
  match v.toBytes? with
  | some b =>
    match Bytes.toText? b with
    | some s => .done s
    | none => bad args i "invalid utf-8 sequence"
  | none => bad args i s!"error converting Lua {v.typeName} to String"

/-- The whole part of a finite float that fits 64 bits. -/
def wholePart? (x : Binary64) : Option Int64 :=
  if x.isFinite then Num.floatToInt64? (floatMap (if x.isNegative then Float.ceil else Float.floor) x)
  else none

/-- A whole number argument. -/
def whole (args : Arguments) (i : Nat) : Action Int64 := do
  let v ← received args i
  match v.toNum? with
  | some (.integer n) => .done n
  | some (.float x) =>
    match wholePart? x with
    | some n => .done n
    | none => bad args i "out of range"
  | none => bad args i s!"error converting Lua {v.typeName} to i64"

/-- An optional text as a result. -/
def textOrNil : Option String → List Value
  | some s => [.ofText s]
  | none => [.nil]

/-- Whether `part` stands somewhere in a text. -/
def occursIn (part s : String) : Bool :=
  (Bytes.find? (Bytes.ofText s) (Bytes.ofText part) 0).isSome

/-- Whether a text starts with another. -/
def startsWith (s part : String) : Bool := part.toList.isPrefixOf s.toList

/-- Whether a text ends with another. -/
def endsWith (s part : String) : Bool := part.toList.reverse.isPrefixOf s.toList.reverse

/-- The pieces of a text between the places of a separator, from place `i` on and at most `fuel`;
the piece at hand starts at `start`. -/
def piecesFrom (s separator : Bytes) : Nat → Nat → List Bytes
  | 0, start => [s.extract start s.size]
  | fuel + 1, start =>
    match Bytes.find? s separator start with
    | some i => s.extract start i :: piecesFrom s separator fuel (i + separator.size)
    | none => [s.extract start s.size]

/-- The pieces of a text between the places of a separator. An empty separator stands before and
after every character. -/
def pieces (s separator : String) : List Bytes :=
  if separator.isEmpty then
    ByteArray.empty :: s.toList.map (fun c => Bytes.ofText c.toString) ++ [ByteArray.empty]
  else
    let b := Bytes.ofText s
    piecesFrom b (Bytes.ofText separator) b.size 0

/-- Gives the keys from `i` on the values. -/
def fillFrom (t : TableRef) : Nat → List Value → Action Unit
  | _, [] => .done ()
  | i, v :: rest => do
    set t (.integer (Int64.ofNat i)) v
    fillFrom t (i + 1) rest

/-- A list of values as a table. -/
def list (values : List Value) : Action Value := do
  let t ← request (.create values.length 0)
  fillFrom t 1 values
  return .table t

/-- The result of a check of a type. -/
def check (args : Arguments) (names : List String) : Action (List Value) := do
  return [.boolean (names.contains (← received args 1).typeName)]

end Helpers

/-- What a helper does. -/
def HelperFunction.run (f : HelperFunction) (values : List Value) : Action (List Value) :=
  let args : Arguments := ⟨f.name, values⟩
  match f with
  | .guid => do
    let high ← request .entropy
    let low ← request .entropy
    return [.ofText (Text.Guid.ofBits high low)]
  | .isGuid => do
    match ← Helpers.received args 1 with
    | .string b => return [.boolean ((Bytes.toText? b).any Text.Guid.isGuid)]
    | _ => return [.boolean false]
  | .now => do return [.ofText (DateTime.ofUnixTime (← request .clock)).isoText]
  | .timestamp => do return [.integer (Int64.ofInt (← request .clock))]
  | .parseDate => do
    let s ← Helpers.text args 1
    return Helpers.textOrNil ((DateTime.parse? s).map (·.isoText))
  | .formatDate => do
    let s ← Helpers.text args 1
    let format ← Helpers.text args 2
    match DateTime.parse? s with
    | none => return [.nil]
    | some t =>
      match t.format? format with
      | some text => return [.ofText text]
      | none => Helpers.abort
  | .addDays => do
    let s ← Helpers.text args 1
    let n ← Helpers.whole args 2
    return Helpers.textOrNil (((DateTime.parse? s).bind (·.addDays n.toInt)).map (·.isoText))
  | .lower => do return [.ofText (Text.lower (← Helpers.text args 1))]
  | .upper => do return [.ofText (Text.upper (← Helpers.text args 1))]
  | .trim => do return [.ofText (Text.trim (← Helpers.text args 1))]
  | .split => do
    let s ← Helpers.text args 1
    let separator ← Helpers.text args 2
    return [← Helpers.list ((Helpers.pieces s separator).map .string)]
  | .contains => do
    let s ← Helpers.text args 1
    let part ← Helpers.text args 2
    return [.boolean (Helpers.occursIn part s)]
  | .startsWith => do
    let s ← Helpers.text args 1
    let part ← Helpers.text args 2
    return [.boolean (Helpers.startsWith s part)]
  | .endsWith => do
    let s ← Helpers.text args 1
    let part ← Helpers.text args 2
    return [.boolean (Helpers.endsWith s part)]
  | .isNil => Helpers.check args ["nil"]
  | .isString => Helpers.check args ["string"]
  | .isNumber => Helpers.check args ["number"]
  | .isTable => Helpers.check args ["table"]
  | .isBoolean => Helpers.check args ["boolean"]
  | .log => do
    request (.note false (← Helpers.text args 1))
    return []
  | .warn => do
    request (.note true (← Helpers.text args 1))
    return []

end TableSeed.Lua
