import TableSeed.Environment.Reader
import TableSeed.Files
import TableSeed.Settings.Reader
import TableSeed.Wording

/-!
# Settings of a program

The settings of a program are in a file that is named or, if none is, in a file of its own below
the directory of settings, which need not exist. The environment, to which a file `.env` adds
variables, may name another database.
-/

namespace TableSeed

/-- What a program finds around it. -/
structure Host where
  files : FileTree
  environment : Environment := {}
  /-- The directory below which programs keep their settings. -/
  settingsDirectory : Option String := none

/-- Why settings cannot be read. -/
inductive SettingsError where
  | unreadable (path : String) (fault : FileFault)
  | invalid (path : String)
  deriving DecidableEq, Repr

namespace SettingsError

/-- The message of the error. -/
def message (w : Wording) : SettingsError → String
  | .unreadable path fault => s!"Failed to read config file: {path}: {w.file fault}"
  | .invalid path =>
    let fault := w.settings "the file holds no settings"
    s!"Failed to parse config file: {path}: {fault}"

end SettingsError

namespace Settings

/-- The settings in a file. -/
def ofFile (tree : FileTree) (path : String) : Except SettingsError Settings :=
  match tree.readText path with
  | .error fault => .error (.unreadable path fault)
  | .ok text =>
    match parse? text with
    | some s => .ok s
    | none => .error (.invalid path)

/-- The path of the program's own file of settings. -/
def ownPath (directory : String) : String := Path.join (Path.join directory "kvseed") "config.toml"

/-- The path of the program's own file of settings, if it exists. -/
def ownFile? (host : Host) : Option String :=
  (host.settingsDirectory.map ownPath).filter host.files.isFile

/-- The name of the file of variables. -/
def variablesFile : String := ".env"

/-- The environment with the variables that a file adds to it. -/
def environment (host : Host) : Environment :=
  match host.files.nearestFile? variablesFile with
  | some content => host.environment.load content
  | none => host.environment

/-- The settings in the named file, or else in the program's own one, with the database that the
environment names. -/
def load (host : Host) (log : Log) (path : Option String) : Except SettingsError (Settings × Log) := do
  let s ← match path.or (ownFile? host) with
    | some path => ofFile host.files path
    | none => .ok {}
  return s.overrideDatabase log ((environment host).get? databaseVariable)

end Settings

end TableSeed
