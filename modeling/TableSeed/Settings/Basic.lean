import TableSeed.Log
import TableSeed.Seeding.Run
import TableSeed.Text.Blank

/-!
# Settings

Settings say which database a run uses, where it finds schemas and modules, and how it stores. They
come in layers: a file, a variable of the environment for the database, and the options of a
command line. What a later layer gives replaces what an earlier one gave, and what no layer gives
has a default.
-/

namespace TableSeed

/-- The settings that some layers have given. -/
structure Settings where
  databaseUrl : Option String := none
  dropTables : Bool := false
  schemaDir : Option String := none
  dependencyDir : Option String := none
  maxConcurrentInserts : Option Nat := none
  /-- Values that expressions see under the names. -/
  bindings : Json.Members := []

/-- The settings that a command line gives. -/
structure SettingOptions where
  databaseUrl : Option String := none
  dropTables : Bool := false
  schemaDir : Option String := none
  dependencyDir : Option String := none
  maxConcurrentInserts : Option Nat := none
  deriving DecidableEq, Repr

namespace Settings

/-- The variable of the environment that names the database. -/
def databaseVariable : String := "KVSEED_DATABASE_URL"

/-- The address of the database that is used. -/
def database (s : Settings) : String := s.databaseUrl.getD "sqlite://kvseed.db"

/-- The directory in which schemas are found. -/
def schemas (s : Settings) : String := s.schemaDir.getD "."

/-- The options of a run. -/
def seedOptions (s : Settings) : SeedOptions where
  dropTables := s.dropTables
  dependencyDir := s.dependencyDir.getD "."
  maxConcurrentInserts := s.maxConcurrentInserts
  bindings := s.bindings

/-- Uses the database that the environment names; a blank name counts as none. -/
def overrideDatabase (s : Settings) (log : Log) (url : Option String) : Settings × Log :=
  match url.filter fun u => !(Text.trim u).isEmpty with
  | some u =>
    ({ s with databaseUrl := some u },
      log.write .debug s!"Using database URL from {databaseVariable}")
  | none => (s, log)

/-- Puts the settings of a command line over others. Tables are dropped if any layer asks for it. -/
def override (s : Settings) (o : SettingOptions) : Settings :=
  { s with
    databaseUrl := o.databaseUrl.or s.databaseUrl
    dropTables := o.dropTables || s.dropTables
    schemaDir := o.schemaDir.or s.schemaDir
    dependencyDir := o.dependencyDir.or s.dependencyDir
    maxConcurrentInserts := o.maxConcurrentInserts.or s.maxConcurrentInserts }

end Settings

end TableSeed
