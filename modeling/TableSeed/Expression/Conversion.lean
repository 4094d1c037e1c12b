import TableSeed.Json.Value
import TableSeed.Lua.Heap

/-!
# JSON and Lua values

A JSON value becomes a Lua value: null is nil, an integer above the signed range is a float, and
arrays and objects are tables. A Lua value becomes JSON when it is a tree of finite numbers, texts
and tables. A table whose length is the number of its entries is an array; any other table is an
object of its entries under texts and integers.
-/

namespace TableSeed

open Lua (Heap TableRef Key)

/-- Why a Lua value has no JSON form. -/
inductive ConversionError where
  | nonFinite (x : Binary64)
  | notText
  | noForm (typeName : String)
  | tooDeep
  | cyclic
  /-- A helper could not go on, which ends the whole run. -/
  | aborted
  deriving DecidableEq

namespace ConversionError

/-- How many tables may enclose one another. -/
def maxDepth : Nat := 128

/-- The name of a number that is not finite. -/
def nonFiniteText (x : Binary64) : String :=
  if x.isNaN then "NaN" else if x.isNegative then "-inf" else "inf"

/-- The message of the error; bytes that are no text have a wording of their own. -/
def message (notText : String) : ConversionError → String
  | .nonFinite x => s!"cannot convert non-finite number {nonFiniteText x} to JSON"
  | .notText => notText
  | .noForm typeName => s!"cannot convert Lua {typeName} to JSON"
  | .tooDeep => s!"table nesting exceeds {maxDepth} levels"
  | .cyclic => "cannot convert a table that contains itself"
  | .aborted => Lua.Failure.aborted.message

end ConversionError

namespace Conversion

/-- The Lua value of a JSON number. -/
def ofNumber : Json.Number → Lua.Value
  | .integer n _ => if n < 0x8000000000000000 then .integer (Int64.ofInt n) else .float (Binary64.ofInt n)
  | .double x _ => .float x

mutual

/-- The Lua value of a JSON value, and the heap with its tables. -/
def ofJson (h : Heap) : Json.Value → Lua.Value × Heap
  | .null => (.nil, h)
  | .bool b => (.boolean b, h)
  | .number n => (ofNumber n, h)
  | .string s => (.ofText s, h)
  | .array items =>
    let (t, h) := h.newTable {}
    (.table t, ofItems h t 1 items)
  | .object members =>
    let (t, h) := h.newTable {}
    (.table t, ofMembers h t members)

/-- Gives the keys of a table from `i` on the values of items. -/
def ofItems (h : Heap) (t : TableRef) (i : Nat) : List Json.Value → Heap
  | [] => h
  | item :: rest =>
    let (v, h) := ofJson h item
    ofItems (h.set t (.integer (Int64.ofNat i)) v) t (i + 1) rest

/-- Gives the names of members their values in a table. -/
def ofMembers (h : Heap) (t : TableRef) : List (String × Json.Value) → Heap
  | [] => h
  | (name, m) :: rest =>
    let (v, h) := ofJson h m
    ofMembers (h.set t (.ofText name) v) t rest

end

/-- A table of the members of an object, and the heap with it. -/
def ofRecord (h : Heap) (members : Json.Members) : TableRef × Heap :=
  let (t, h) := h.newTable {}
  (t, ofMembers h t members)

/-- The member names that keys are; other keys than texts and integers are none. -/
def memberName? : Key → Option (Except ConversionError String)
  | .string b =>
    some (match Bytes.toText? b with
      | some s => .ok s
      | none => .error .notText)
  | .integer n => some (.ok (toString n.toInt))
  | _ => none

/-- Whether a table is an array: its length is the number of its entries. -/
def isArray (t : Lua.Table) : Bool := t.border > 0 && t.count == t.border

/-- Whether a table has the failure of a helper that could not go on for a key or a value. -/
def isAborted (t : Lua.Table) : Bool :=
  t.entries.any fun e => e.1.toValue.isAborted || e.2.isAborted

/-- The member of an entry, after the members before it. -/
def addMember (convert : Lua.Value → Except ConversionError Json.Value) (members : Json.Members)
    (entry : Key × Lua.Value) : Except ConversionError Json.Members :=
  match memberName? entry.1 with
  | none => .ok members
  | some name => do
    let name ← name
    let v ← convert entry.2
    return Json.Members.put members name v

/-- The JSON form of a value on a path of tables that has room for that many more. -/
def toJsonWithin (h : Heap) : Nat → List TableRef → Lua.Value → Except ConversionError Json.Value
  | room, path, v =>
    match v with
    | .nil => .ok .null
    | .boolean b => .ok (.bool b)
    | .integer n => .ok (.number (.ofInt64 n))
    | .float x =>
      match Json.Number.ofDouble? x with
      | some n => .ok (.number n)
      | none => .error (.nonFinite x)
    | .string b =>
      match Bytes.toText? b with
      | some s => .ok (.string s)
      | none => .error .notText
    | .table r =>
      match room with
      | 0 => .error .tooDeep
      | room + 1 =>
        if path.contains r then .error .cyclic
        else
          let t := h.table r
          let convert := toJsonWithin h room (r :: path)
          if isAborted t then .error .aborted
          else if isArray t then do
            let items ← (List.range t.border).mapM fun i => convert (t.getInt (Int64.ofNat (i + 1)))
            return .array items
          else do
            let members ← t.entries.foldlM (addMember convert) []
            return .object members
    | .closure _ | .builtin _ => .error (.noForm "function")
    | .failure .aborted => .error .aborted
    | .failure _ => .error (.noForm "error")

/-- The JSON form of a value. -/
def toJson (h : Heap) (v : Lua.Value) : Except ConversionError Json.Value :=
  toJsonWithin h ConversionError.maxDepth [] v

end Conversion

end TableSeed
