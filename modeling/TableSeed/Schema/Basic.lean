import TableSeed.Json.Writer

/-!
# Table schemas

A schema names a table and its key attributes. Each key attribute has a role; the declared
attribute types are carried along for the store. Written as JSON, an empty list of attribute
types is left out.
-/

namespace TableSeed

/-- The role of a key attribute. -/
inductive KeyRole where
  /-- The partition key. -/
  | hash
  /-- The sort key. -/
  | range
  deriving DecidableEq, Repr

/-- One key attribute. -/
structure KeyElement where
  name : String
  role : KeyRole := .hash
  deriving DecidableEq, Repr

/-- The declared type of an attribute. -/
structure AttributeDefinition where
  name : String
  type : String
  deriving DecidableEq, Repr

/-- A table by its name and its key attributes in order. -/
structure TableSchema where
  table : String
  keys : List KeyElement
  attributes : List AttributeDefinition := []
  deriving DecidableEq, Repr

namespace KeyRole

/-- The role as it is written. -/
def name : KeyRole → String
  | .hash => "HASH"
  | .range => "RANGE"

/-- The role that a text names. -/
def ofName? : String → Option KeyRole
  | "HASH" => some .hash
  | "RANGE" => some .range
  | _ => none

end KeyRole

namespace TableSchema

/-- A table with the given key attributes: the first is its partition key, the others sort keys. -/
def ofKeys (table : String) : List String → TableSchema
  | [] => ⟨table, [], []⟩
  | first :: others => ⟨table, ⟨first, .hash⟩ :: others.map (⟨·, .range⟩), []⟩

/-- The names of the key attributes, in order. -/
def keyAttributes (schema : TableSchema) : List String := schema.keys.map (·.name)

/-- A key attribute as JSON. -/
def keyToJson (k : KeyElement) : Json.Value :=
  .object [("AttributeName", .string k.name), ("KeyType", .string k.role.name)]

/-- An attribute type as JSON. -/
def attributeToJson (a : AttributeDefinition) : Json.Value :=
  .object [("AttributeName", .string a.name), ("AttributeType", .string a.type)]

/-- The schema as JSON. -/
def toJson (schema : TableSchema) : Json.Value :=
  let required : Json.Members :=
    [("TableName", .string schema.table), ("KeySchema", .array (schema.keys.map keyToJson))]
  .object (if schema.attributes.isEmpty then required
    else required ++ [("AttributeDefinitions", .array (schema.attributes.map attributeToJson))])

/-- The schema's text. -/
def render (schema : TableSchema) : String := schema.toJson.render

end TableSchema

end TableSeed
