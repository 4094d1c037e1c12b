import TableSeed.Document.Template
import TableSeed.Json.Reader

/-!
# Seed documents

A document declares the modules that its expressions use and lists groups of entries in the order
in which they are stored. Every member of the document but `_dependencies` is a group, every
member of a group but `_schema` an entry. Reading stops at the first member that has another
shape, and a group without a schema is reported before its entries are looked at.
-/

namespace TableSeed

/-- A module that expressions see under a name. -/
structure Dependency where
  /-- The name that expressions use. -/
  name : String
  /-- The module that the name stands for. -/
  moduleName : String
  deriving DecidableEq, Repr

/-- One record to be stored. -/
structure Entry where
  key : String
  record : RecordTemplate

/-- Entries that go to one table. -/
structure Group where
  name : String
  /-- The reference under which the table's schema is found. -/
  schema : String
  entries : List Entry

/-- A seed document. -/
structure Document where
  dependencies : List Dependency := []
  groups : List Group := []

/-- Why a text is not a seed document. -/
inductive DocumentError where
  | text (fault : Json.Fault)
  | notAnObject
  | dependenciesNotAnObject
  | moduleNotText (name : String)
  | groupNotAnObject (group : String)
  | missingSchema (group : String)
  | entryNotAnObject (group entry : String)
  deriving DecidableEq, Repr

namespace DocumentError

/-- The message of the error; a fault of the text has its own wording. -/
def message (faultText : Json.Fault → String) : DocumentError → String
  | .text fault => faultText fault
  | .notAnObject => "seed document must be a JSON object"
  | .dependenciesNotAnObject => "'_dependencies' must be an object of alias -> module"
  | .moduleNotText name => s!"dependency '{name}' must name a module as a string"
  | .groupNotAnObject group => s!"group '{group}' must be an object"
  | .missingSchema group => s!"group '{group}' has no '_schema' string"
  | .entryNotAnObject group entry => s!"entry '{group}.{entry}' must be an object"

end DocumentError

namespace Document

/-- The member that declares dependencies. -/
def dependenciesName : String := "_dependencies"

/-- The member of a group that names its schema. -/
def schemaName : String := "_schema"

/-- The declared modules, in order. -/
def readDependencies : Json.Members → Except DocumentError (List Dependency)
  | [] => .ok []
  | (name, .string moduleName) :: rest => do
    return ⟨name, moduleName⟩ :: (← readDependencies rest)
  | (name, _) :: _ => .error (.moduleNotText name)

/-- The entries among a group's members, in order. -/
def readEntries (group : String) : Json.Members → Except DocumentError (List Entry)
  | [] => .ok []
  | (key, v) :: rest =>
    if key = schemaName then readEntries group rest
    else match v with
      | .object fields => do
        return ⟨key, RecordTemplate.ofMembers fields⟩ :: (← readEntries group rest)
      | _ => .error (.entryNotAnObject group key)

/-- One group. -/
def readGroup (name : String) : Json.Value → Except DocumentError Group
  | .object members =>
    match Json.Members.get? schemaName members with
    | some (.string schema) => do return ⟨name, schema, ← readEntries name members⟩
    | _ => .error (.missingSchema name)
  | _ => .error (.groupNotAnObject name)

/-- The members of a document, in order. -/
def readMembers (document : Document) : Json.Members → Except DocumentError Document
  | [] => .ok document
  | (name, v) :: rest =>
    if name = dependenciesName then
      match v with
      | .object members => do
        readMembers { document with dependencies := ← readDependencies members } rest
      | _ => .error .dependenciesNotAnObject
    else do
      let group ← readGroup name v
      readMembers { document with groups := document.groups ++ [group] } rest

/-- The document that a JSON value describes. -/
def ofJson : Json.Value → Except DocumentError Document
  | .object members => readMembers {} members
  | _ => .error .notAnObject

/-- The document that a text describes. -/
def parse (text : String) : Except DocumentError Document :=
  match Json.Value.parse text with
  | .ok v => ofJson v
  | .error fault => .error (.text fault)

/-- The number of entries in all groups. -/
def entryCount (document : Document) : Nat := (document.groups.flatMap (·.entries)).length

end Document

end TableSeed
