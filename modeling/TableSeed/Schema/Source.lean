import TableSeed.Files
import TableSeed.Schema.Reader

/-!
# Schema sources

A source finds the schema of a reference, either among registered schemas or as a JSON file under
a directory: the file of that very name, or else the one with `.json` after it.
-/

namespace TableSeed

/-- Where schemas are found. -/
inductive SchemaSource where
  | registered (schemas : List (String × TableSchema))
  | files (tree : FileTree) (base : String)

/-- Why a reference has no schema. -/
inductive SchemaSourceError where
  | notRegistered (reference : String)
  | notFound (reference base : String)
  | unreadable (path : String) (fault : FileFault)
  | invalid (path : String) (e : SchemaError)

namespace SchemaSourceError

/-- The messages of the error and of what caused it, outermost first. Faults of files and of texts
have a wording of their own. -/
def chain (fileText : FileFault → String) (faultText : Json.Fault → String) :
    SchemaSourceError → List String
  | .notRegistered reference => [s!"Schema '{reference}' is not registered"]
  | .notFound reference base => [s!"Schema '{reference}' not found in {base}"]
  | .unreadable path fault => [s!"Failed to read schema file: {path}", fileText fault]
  | .invalid path e => [s!"Invalid schema file: {path}", e.message faultText]

/-- The message of the error. -/
def message (fileText : FileFault → String) (faultText : Json.Fault → String)
    (e : SchemaSourceError) : String :=
  ": ".intercalate (e.chain fileText faultText)

end SchemaSourceError

namespace SchemaSource

/-- The paths under which the file of a reference is looked for. -/
def candidates (base reference : String) : List String :=
  [Path.join base reference, Path.join base (reference ++ ".json")]

/-- The path of a reference's file. -/
def path? (tree : FileTree) (base reference : String) : Option String :=
  (candidates base reference).find? tree.isFile

/-- The schema of a reference. -/
def load (source : SchemaSource) (reference : String) : Except SchemaSourceError TableSchema :=
  match source with
  | .registered schemas =>
    match schemas.lookup reference with
    | some schema => .ok schema
    | none => .error (.notRegistered reference)
  | .files tree base =>
    match path? tree base reference with
    | none => .error (.notFound reference base)
    | some path =>
      match tree.readText path with
      | .error fault => .error (.unreadable path fault)
      | .ok text =>
        match TableSchema.parse text with
        | .ok schema => .ok schema
        | .error e => .error (.invalid path e)

end SchemaSource

end TableSeed
