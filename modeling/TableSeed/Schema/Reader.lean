import TableSeed.Json.Reader
import TableSeed.Json.Writer
import TableSeed.Schema.Basic
import TableSeed.Text.Quoted

/-!
# Reading table schemas

A schema is read straight from the text's tree, in the order of the text, so the first fault or
misfit in reading order is the one reported. A structure may be an object, whose other members
are skipped, or an array of its fields in order.
-/

namespace TableSeed

/-- What a message calls the value that was found. -/
inductive FoundValue where
  | null
  | bool (b : Bool)
  | number (n : Json.Number)
  | text (s : String)
  | sequence
  | map

/-- Why a text is not a table schema. -/
inductive SchemaError where
  | text (fault : Json.Fault)
  | wrongType (found : FoundValue) (expected : String)
  | missingField (name : String)
  | duplicateField (name : String)
  | wrongLength (length : Nat) (expected : String)
  | unknownRole (name : String)

namespace FoundValue

/-- The value in a message. -/
def describe : FoundValue → String
  | .null => "null"
  | .bool b => s!"boolean `{b}`"
  | .number (.integer n _) => s!"integer `{String.ofList (Json.writeInt n)}`"
  | .number (.double x _) => s!"floating point `{String.ofList (Json.writeDouble x)}`"
  | .text s => s!"string {Text.quoted s}"
  | .sequence => "sequence"
  | .map => "map"

end FoundValue

namespace SchemaError

/-- The message of a misfit; a fault of the text has its own wording. -/
def message (faultText : Json.Fault → String) : SchemaError → String
  | .text fault => faultText fault
  | .wrongType found expected => s!"invalid type: {found.describe}, expected {expected}"
  | .missingField name => s!"missing field `{name}`"
  | .duplicateField name => s!"duplicate field `{name}`"
  | .wrongLength length expected => s!"invalid length {length}, expected {expected}"
  | .unknownRole name => s!"unknown variant `{name}`, expected `HASH` or `RANGE`"

end SchemaError

namespace Schema

open Json (Tree Stop Fault)

/-- The result of reading a part of a schema. -/
abbrev Result := Except SchemaError

/-- A fault of the text as an error of the schema. -/
def lift {α : Type} : Except Fault α → Result α
  | .ok a => .ok a
  | .error fault => .error (.text fault)

/-- Where something else stands than what was expected. -/
def mismatch {α : Type} (expected : String) : Tree → Result α
  | .null => .error (.wrongType .null expected)
  | .bool b => .error (.wrongType (.bool b) expected)
  | .number n => do
    let n ← lift n.toNumber
    throw (.wrongType (.number n) expected)
  | .text s => do
    let s ← lift (Tree.readText s)
    throw (.wrongType (.text s) expected)
  | .array _ _ => .error (.wrongType .sequence expected)
  | .object _ _ => .error (.wrongType .map expected)
  | .stopped stop => .error (.text stop.read)

/-- A text. -/
def readString : Tree → Result String
  | .text s => lift (Tree.readText s)
  | t => mismatch "a string" t

/-- The items of a sequence, each read in order. -/
def readAll {α : Type} (read : Tree → Result α) : List Tree → Result (List α)
  | [] => .ok []
  | t :: rest => do
    let a ← read t
    return a :: (← readAll read rest)

/-- A sequence. -/
def readSequence {α : Type} (read : Tree → Result α) : Tree → Result (List α)
  | .array items stop => do
    let as ← readAll read items
    lift (Tree.readStop stop)
    return as
  | t => mismatch "a sequence" t

/-- The end of a structure written as an array: nothing may follow its last field. -/
def readEnd (rest : List Tree) (stop : Option Stop) : Result Unit :=
  if rest.isEmpty then lift (Tree.readStop stop) else .error (.text .malformed)

/-- What is wrong when a structure written as an array has too few items. -/
def tooShort {α : Type} (length : Nat) (expected : String) (stop : Option Stop) : Result α :=
  match stop with
  | some stop => .error (.text stop.read)
  | none => .error (.wrongLength length expected)

/-- A field of a structure that must not have been read before. -/
def once {α : Type} (name : String) (read : Tree → Result α) (seen : Option α) (t : Tree) :
    Result (Option α) :=
  if seen.isSome then .error (.duplicateField name) else do return some (← read t)

/-- A field of a structure that must have been read. -/
def required {α : Type} (name : String) : Option α → Result α
  | some a => .ok a
  | none => .error (.missingField name)

/-- The value of a role written as an object of one member. -/
def readUnit : Tree → Result Unit
  | .null => .ok ()
  | t => mismatch "unit" t

/-- A role by its name. -/
def readRoleName (s : Option String) : Result KeyRole := do
  let s ← lift (Tree.readText s)
  match KeyRole.ofName? s with
  | some role => return role
  | none => throw (.unknownRole s)

/-- A role: its name, or an object with the name as its only member and null as its value. -/
def readRole : Tree → Result KeyRole
  | .text s => readRoleName s
  | .object [] none => .error (.text .malformed)
  | .object [] (some stop) => .error (.text stop.read)
  | .object ((name, t) :: rest) stop => do
    let role ← readRoleName name
    readUnit t
    if rest.isEmpty then
      lift (Tree.readStop stop)
      return role
    else throw (.text .malformed)
  | .stopped stop => .error (.text stop.read)
  | _ => .error (.text .malformed)

/-- The members of a key attribute, with what has been read of it. -/
def readKeyMembers (attr : Option String) (role : Option KeyRole) (stop : Option Stop) :
    List (Option String × Tree) → Result KeyElement
  | [] => do
    lift (Tree.readStop stop)
    let attr ← required "AttributeName" attr
    return ⟨attr, role.getD .hash⟩
  | (name, t) :: rest => do
    match ← lift (Tree.readText name) with
    | "AttributeName" =>
      readKeyMembers (← once "AttributeName" readString attr t) role stop rest
    | "KeyType" => readKeyMembers attr (← once "KeyType" readRole role t) stop rest
    | _ =>
      lift t.skip
      readKeyMembers attr role stop rest

/-- A key attribute. -/
def readKey : Tree → Result KeyElement
  | .object members stop => readKeyMembers none none stop members
  | .array [] stop => tooShort 0 "struct KeyElement with 2 elements" stop
  | .array [attr] stop => do
    let attr ← readString attr
    lift (Tree.readStop stop)
    return ⟨attr, .hash⟩
  | .array (attr :: role :: rest) stop => do
    let attr ← readString attr
    let role ← readRole role
    readEnd rest stop
    return ⟨attr, role⟩
  | t => mismatch "struct KeyElement" t

/-- The members of an attribute type, with what has been read of it. -/
def readAttributeMembers (attr type : Option String) (stop : Option Stop) :
    List (Option String × Tree) → Result AttributeDefinition
  | [] => do
    lift (Tree.readStop stop)
    let attr ← required "AttributeName" attr
    let type ← required "AttributeType" type
    return ⟨attr, type⟩
  | (name, t) :: rest => do
    match ← lift (Tree.readText name) with
    | "AttributeName" =>
      readAttributeMembers (← once "AttributeName" readString attr t) type stop rest
    | "AttributeType" =>
      readAttributeMembers attr (← once "AttributeType" readString type t) stop rest
    | _ =>
      lift t.skip
      readAttributeMembers attr type stop rest

/-- An attribute type. -/
def readAttribute : Tree → Result AttributeDefinition
  | .object members stop => readAttributeMembers none none stop members
  | .array [] stop => tooShort 0 "struct AttributeDefinition with 2 elements" stop
  | .array [attr] stop => do
    let _ ← readString attr
    tooShort 1 "struct AttributeDefinition with 2 elements" stop
  | .array (attr :: type :: rest) stop => do
    let attr ← readString attr
    let type ← readString type
    readEnd rest stop
    return ⟨attr, type⟩
  | t => mismatch "struct AttributeDefinition" t

/-- What has been read of a schema. -/
structure Draft where
  table : Option String := none
  keys : Option (List KeyElement) := none
  attributes : Option (List AttributeDefinition) := none

/-- The members of a schema. -/
def readMembers (draft : Draft) (stop : Option Stop) :
    List (Option String × Tree) → Result TableSchema
  | [] => do
    lift (Tree.readStop stop)
    let table ← required "TableName" draft.table
    let keys ← required "KeySchema" draft.keys
    return ⟨table, keys, draft.attributes.getD []⟩
  | (name, t) :: rest => do
    match ← lift (Tree.readText name) with
    | "TableName" =>
      let table ← once "TableName" readString draft.table t
      readMembers { draft with table } stop rest
    | "KeySchema" =>
      let keys ← once "KeySchema" (readSequence readKey) draft.keys t
      readMembers { draft with keys } stop rest
    | "AttributeDefinitions" =>
      let attributes ← once "AttributeDefinitions" (readSequence readAttribute) draft.attributes t
      readMembers { draft with attributes } stop rest
    | _ =>
      lift t.skip
      readMembers draft stop rest

/-- A schema. -/
def read : Tree → Result TableSchema
  | .object members stop => readMembers {} stop members
  | .array [] stop => tooShort 0 "struct TableSchema with 3 elements" stop
  | .array [table] stop => do
    let _ ← readString table
    tooShort 1 "struct TableSchema with 3 elements" stop
  | .array [table, keys] stop => do
    let table ← readString table
    let keys ← readSequence readKey keys
    lift (Tree.readStop stop)
    return ⟨table, keys, []⟩
  | .array (table :: keys :: attributes :: rest) stop => do
    let table ← readString table
    let keys ← readSequence readKey keys
    let attributes ← readSequence readAttribute attributes
    readEnd rest stop
    return ⟨table, keys, attributes⟩
  | t => mismatch "struct TableSchema" t

end Schema

namespace TableSchema

/-- The schema that a text describes. -/
def parse (text : String) : Except SchemaError TableSchema := do
  let (tree, excess) := Json.Tree.ofText text
  let schema ← Schema.read tree
  if excess then throw (.text .malformed)
  return schema

end TableSchema

end TableSeed
