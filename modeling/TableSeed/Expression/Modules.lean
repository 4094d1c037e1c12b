import TableSeed.Document.Basic
import TableSeed.Expression.Evaluation
import TableSeed.Files

/-!
# Modules

A dependency binds the value of a module to a name. The module `lib` is the helper library; every
other one is a file of Lua under the module directory, which sees the safe functions and what is
already bound. A name that is bound stays as it is, and the first failure ends the loading.
-/

namespace TableSeed

/-- Why a dependency cannot be bound. -/
inductive DependencyError where
  | notFound (name moduleName path : String)
  | read (name moduleName : String) (fault : FileFault)
  | execution (name moduleName : String) (e : ChunkError)
  /-- The module has no value. -/
  | emptyModule (name moduleName : String)

namespace DependencyError

/-- The name that was to be bound. -/
def name : DependencyError → String
  | .notFound name _ _ => name
  | .read name _ _ => name
  | .execution name _ _ => name
  | .emptyModule name _ => name

/-- The message of the error, where faults of files and errors of the language have a wording of
their own. -/
def message (fileText : FileFault → String) (own : String → String) : DependencyError → String
  | .notFound name moduleName path => s!"dependency '{name}': module '{moduleName}' not found at {path}"
  | .read name moduleName fault =>
    s!"dependency '{name}': failed to read module '{moduleName}': {fileText fault}"
  | .execution name moduleName e => s!"dependency '{name}': module '{moduleName}' failed: {e.message own}"
  | .emptyModule name moduleName => s!"dependency '{name}': module '{moduleName}' did not return a value"

end DependencyError

/-- Where modules are found. -/
structure ModuleDirectory where
  files : FileTree
  /-- The path of the directory. -/
  base : String

namespace ModuleDirectory

/-- The name of the helper library. -/
def helperModule : String := "lib"

/-- The extension of module files. -/
def fileExtension : String := "lua"

/-- The path of a module's file. -/
def path (directory : ModuleDirectory) (moduleName : String) : String :=
  let exact := Path.join directory.base moduleName
  if Path.extension? exact == some fileExtension then exact
  else Path.join directory.base (moduleName ++ "." ++ fileExtension)

/-- How a chunk of a file is called in messages. -/
def chunkName (path : String) : String :=
  let n := path.length
  if n < 60 then path else "..." ++ String.ofList (path.toList.drop (n - 56))

/-- The value of a module. -/
def value (directory : ModuleDirectory) (s : Sandbox) (d : Dependency) :
    Except DependencyError Lua.Value × Sandbox :=
  if d.moduleName = helperModule then
    let (lib, heap) := Sandbox.tableOf s.world.heap Sandbox.helperEntries
    (.ok (.table lib), { s with world := { s.world with heap } })
  else
    let path := directory.path d.moduleName
    if !directory.files.isFile path then (.error (.notFound d.name d.moduleName path), s)
    else
      match directory.files.readText path with
      | .error fault => (.error (.read d.name d.moduleName fault), s)
      | .ok source =>
        let (env, s) := s.environment none
        match s.run source (chunkName path) env with
        | (.error e, s) => (.error (.execution d.name d.moduleName e), s)
        | (.ok .nil, s) => (.error (.emptyModule d.name d.moduleName), s)
        | (.ok v, s) => (.ok v, s)

end ModuleDirectory

namespace Sandbox

/-- Binds one dependency: the sandbox, and whether it was bound. -/
def load (s : Sandbox) (directory : ModuleDirectory) (d : Dependency) :
    Except DependencyError Bool × Sandbox :=
  if s.contains d.name then
    (.ok false, s.note .debug s!"Dependency '{d.name}' already bound, skipping")
  else
    match directory.value s d with
    | (.error e, s) => (.error e, s)
    | (.ok v, s) =>
      let (s, _) := s.bind d.name v
      (.ok true, s.note .debug s!"Bound dependency '{d.name}' -> '{d.moduleName}'")

/-- Binds dependencies in order, up to the first that fails: how many were bound, or the error. -/
def loadAll (s : Sandbox) (directory : ModuleDirectory) :
    List Dependency → Except DependencyError Nat × Sandbox
  | [] => (.ok 0, s)
  | d :: rest =>
    match s.load directory d with
    | (.error e, s) => (.error e, s)
    | (.ok bound, s) =>
      match loadAll s directory rest with
      | (.error e, s) => (.error e, s)
      | (.ok n, s) => (.ok (if bound then n + 1 else n), s)

end Sandbox

end TableSeed
