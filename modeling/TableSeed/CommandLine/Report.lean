import TableSeed.Document.File
import TableSeed.Seeding.Run
import TableSeed.Settings.File
import TableSeed.Store.Address

/-!
# Reports

A command reports what it did: the lines that it prints, its log, how it failed if it did, and the
files as it leaves them.
-/

namespace TableSeed.CommandLine

/-- A printed line. -/
inductive OutputLine where
  | plain (s : String)
  /-- The last line of a successful run, which tells how long it took. -/
  | total (records : Nat)
  deriving DecidableEq, Repr

namespace OutputLine

/-- The text of the line. -/
def render (elapsed : String) : OutputLine → String
  | .plain s => s
  | .total records => s!"Seeded {records} records in {elapsed}"

end OutputLine

/-- Why a command fails. -/
inductive CommandError where
  | noDocument (path : String)
  | settings (e : SettingsError)
  | document (e : DocumentFileError)
  | connection (e : ConnectionError)
  | seeding (e : SeedError)
  | listing (e : StoreError)

namespace CommandError

/-- The message of the error, with those of what caused it. -/
def message (w : Wording) : CommandError → String
  | .noDocument path => s!"Seed document does not exist: {path}"
  | .settings e => e.message w
  | .document e => e.message w.file w.json
  | .connection e => e.message w.database
  | .seeding e => ": ".intercalate ("Seeding failed" :: e.chain w)
  | .listing e => e.message w.database w.json

end CommandError

/-- What a command did. -/
structure Report where
  lines : List OutputLine := []
  log : Log := []
  failure : Option CommandError := none
  files : FileTree

namespace Report

/-- The text, and blanks up to a number of characters. -/
def padded (width : Nat) (s : String) : String :=
  s ++ String.ofList (List.replicate (width - s.length) ' ')

/-- The number of bytes of the longest text. -/
def widest (ss : List String) : Nat := ss.foldl (fun n s => max n s.utf8ByteSize) 0

/-- The lines before a run. -/
def announcement (path : String) (d : Document) (s : Settings) : List OutputLine :=
  let first := s!"Seeding {d.entryCount} entries in {d.groups.length} groups from {path}"
  let dropping := if s.dropTables then ["Tables will be dropped before they are created"] else []
  ([first, s!"Database: {s.database}"] ++ dropping ++ [""]).map .plain

/-- The lines after a successful run. -/
def summary (s : SeedSummary) : List OutputLine :=
  let bound := if s.dependencies > 0 then [s!"Dependencies bound: {s.dependencies}"] else []
  let width := widest (s.groups.map (·.group))
  let groups := s.groups.map fun g =>
    s!"  ✓ {padded width g.group} -> {g.table} ({g.records} records)"
  (bound ++ groups ++ [""]).map OutputLine.plain ++ [.total s.records]

/-- The lines that list tables. -/
def listing (address : String) (tables : List TableCount) : List OutputLine :=
  if tables.isEmpty then [.plain s!"No tables in {address}"]
  else
    let width := widest (tables.map (·.name))
    let row (name items : String) : OutputLine := .plain (padded width name ++ "  " ++ items)
    row "TABLE" "ITEMS" :: tables.map fun t => row t.name (toString t.items)

end Report

end TableSeed.CommandLine
