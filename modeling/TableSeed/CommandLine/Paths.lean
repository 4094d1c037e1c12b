import TableSeed.CommandLine.Basic
import TableSeed.CommandLine.Report

/-!
# The paths of a command

Which files a command looks at shows in two steps: its arguments name the document and the file of
settings, and these two name the schemas, the modules and the database.
-/

namespace TableSeed.CommandLine

/-- The paths of the file of settings. -/
def settingsPaths (settingsDirectory : Option String) (config : Option String) : List String :=
  match config with
  | some path => [path]
  | none => (settingsDirectory.map Settings.ownPath).toList

/-- The paths of a database. -/
def databasePaths (address : String) : List String :=
  match DatabaseAddress.parse address with
  | .ok a => [a.path]
  | .error _ => []

namespace Command

/-- The paths that a command looks at first. -/
def firstPaths (settingsDirectory : Option String) : Command → List String
  | .seed a => a.document :: settingsPaths settingsDirectory a.config
  | .tables a => settingsPaths settingsDirectory a.config

/-- The paths of schemas and modules that a document names. -/
def documentPaths (s : Settings) (d : Document) : List String :=
  let directory : ModuleDirectory := ⟨{}, s.seedOptions.dependencyDir⟩
  d.groups.flatMap (fun g => SchemaSource.candidates s.schemas g.schema) ++
    d.dependencies.map fun dependency => directory.path dependency.moduleName

/-- The paths that a command looks at when it has what stands under the first ones. -/
def laterPaths (host : Host) : Command → List String
  | .seed a =>
    match Settings.load host [] a.config, Document.load host.files a.document with
    | .ok (s, _), .ok d =>
      let s := s.override a.options
      documentPaths s d ++ databasePaths s.database
    | _, _ => []
  | .tables a =>
    match Settings.load host [] a.config with
    | .ok (s, _) => databasePaths (a.database.getD s.database)
    | .error _ => []

end Command

end TableSeed.CommandLine
