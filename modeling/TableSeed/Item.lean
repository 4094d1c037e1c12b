import TableSeed.Json.Writer
import TableSeed.Schema.Basic

/-!
# Items

An item is a record parted by the key attributes of its table. The key attributes come out of the
record in the order of the schema, and a record that lacks one has no item. The text of the key
values, as a JSON array, is what tells items apart.
-/

namespace TableSeed

/-- A record parted into its key attributes and the others. -/
structure Item where
  /-- The key attributes, in the order of the schema. -/
  key : Json.Members
  /-- The other attributes, in the order of the record. -/
  data : Json.Members

/-- Why a record has no item in a table. -/
inductive SplitError where
  | missingKeyAttribute (table attr : String)
  deriving DecidableEq, Repr

namespace SplitError

/-- The message of the error. -/
def message : SplitError → String
  | .missingKeyAttribute table attr => s!"record for table '{table}' has no key attribute '{attr}'"

end SplitError

namespace Item

/-- Takes the key attributes out of a record, one after the other. -/
def takeKeys (table : String) (key record : Json.Members) : List String → Except SplitError Item
  | [] => .ok ⟨key, record⟩
  | attr :: rest =>
    match Json.Members.get? attr record with
    | some v =>
      takeKeys table (Json.Members.put key attr v) (Json.Members.erase attr record) rest
    | none => .error (.missingKeyAttribute table attr)

/-- The item of a record in a table. -/
def ofRecord (schema : TableSchema) (record : Json.Members) : Except SplitError Item :=
  takeKeys schema.table [] record schema.keyAttributes

/-- All attributes, the key attributes first. -/
def merged (item : Item) : Json.Members := Json.Members.putAll item.key item.data

/-- The text of the key values, in the order of the schema. -/
def keyText (item : Item) : String := (Json.Value.array (item.key.map Prod.snd)).render

end Item

end TableSeed
