import TableSeed.CommandLine.Paths
import TableSeed.CommandLine.Run
import TableSeed.Store.Image
import Std.Time.DateTime.Timestamp

/-!
# The program

The program gathers the files that a command looks at, runs the command on them, and writes what
it prints, what it logs and the database that it leaves. A database is kept in its file as an
image.
-/

namespace TableSeed.Program

/-- What a file holds: a database, if it is the image of one. -/
def nodeOf (content : Bytes) : FileNode :=
  match (Bytes.toText? content).bind Database.ofImage? with
  | some database => .database database
  | none => .file content

/-- The tree with what stands at the end of a path. -/
def fetchEnd (tree : FileTree) (path : String) : IO FileTree := do
  if path.isEmpty then return tree
  let place := tree.destination path
  try
    let content ← IO.FS.readBinFile path
    return (tree.makeParents place).put place (nodeOf content)
  catch
    | .inappropriateType .. => return (tree.makeParents place).put place .directory
    | _ => return tree

/-- The tree with what stands on the way to a path and at its end. -/
def fetch (tree : FileTree) (path : String) : IO FileTree := (Path.steps path).foldlM fetchEnd tree

/-- The tree with what stands under paths. -/
def fetchAll (tree : FileTree) (paths : List String) : IO FileTree := paths.foldlM fetch tree

/-- The environment with the value that a variable has. -/
def fetchVariable (e : Environment) (name : String) : IO Environment := do
  match ← IO.getEnv name with
  | some value => return e.define name value
  | none => return e

/-- The paths of the files of a name in a directory and in those above it. -/
def pathsAbove (name : String) (directory : List String) : List String :=
  (List.range (directory.length + 1)).map fun n =>
    "/" ++ "/".intercalate (directory.take n ++ [name])

/-- What a command finds around it. -/
def gather (command : CommandLine.Command) : IO Host := do
  let directory := s!"{← IO.currentDir}"
  let parts := (Path.parts directory).filter (· ≠ "")
  let here := "/" :: parts
  let tree : FileTree := ({ workingDirectory := here } : FileTree).makeParents (here ++ [""])
  let tree ← fetchAll tree (pathsAbove Settings.variablesFile parts)
  let mentioned := ((tree.nearestFile? Settings.variablesFile).map Environment.mentioned).getD []
  let names := [Settings.databaseVariable, "XDG_CONFIG_HOME", "HOME"] ++ mentioned
  let environment ← names.foldlM fetchVariable {}
  let settingsDirectory := environment.settingsDirectory?
  let files ← fetchAll tree (command.firstPaths settingsDirectory)
  let host : Host := { files, environment, settingsDirectory }
  return { host with files := ← fetchAll files (command.laterPaths host) }

/-- Writes the databases that are not as they were. -/
def store (before after : FileTree) : IO Unit :=
  after.nodes.forM fun (place, node) => do
    match node, before.node? place with
    | .database db, some (.database old) => if db ≠ old then write place db
    | .database db, _ => write place db
    | _, _ => return ()
where
  /-- Writes a database to its place. -/
  write (place : List String) (db : Database) : IO Unit :=
    IO.FS.writeFile ("/" ++ "/".intercalate (place.drop 1)) db.image

/-- A time in milliseconds as seconds with two places. -/
def elapsedText (milliseconds : Nat) : String :=
  let hundredths := (milliseconds + 5) / 10
  let places := hundredths % 100
  let zero := if places < 10 then "0" else ""
  s!"{hundredths / 100}.{zero}{places}s"

/-- Runs a command and tells whether it succeeded. -/
def run (invocation : CommandLine.Invocation) : IO UInt32 := do
  let start ← IO.monoMsNow
  let host ← gather invocation.command
  let now ← Std.Time.Timestamp.now
  let seed ← IO.getRandomBytes 8
  let entropy := seed.foldl (fun (n : UInt64) b => n * 256 + b.toUInt64) 0
  let report := invocation.command.run host (Sandbox.create now.toSecondsSinceUnixEpoch.val entropy)
  store host.files report.files
  for line in report.log.lines do
    if invocation.verbose || line.level ≠ .debug then
      IO.eprintln s!"[{line.level.name}] {line.text}"
  let elapsed := elapsedText ((← IO.monoMsNow) - start)
  for line in report.lines do
    IO.println (line.render elapsed)
  match report.failure with
  | none => return 0
  | some e =>
    IO.eprintln ("Error: " ++ e.message {})
    return 1

/-- The text that shows how the program is used. -/
def usage : String :=
  "Seed key/value tables from declarative JSON documents\n\n" ++
  "  seed <DOCUMENT> [--database <URL>] [--drop-tables] [--schema-dir <DIR>]\n" ++
  "       [--dependency-dir <DIR>] [--config <FILE>] [--max-concurrent-inserts <N>] [--no-color]\n" ++
  "  tables [--database <URL>] [--config <FILE>] [--no-color]\n\n" ++
  "  -v, --verbose  -h, --help  -V, --version"

end TableSeed.Program

/-- Runs the command that the arguments name. -/
def main (args : List String) : IO UInt32 := do
  match TableSeed.CommandLine.Invocation.ofWords args with
  | .ok invocation => TableSeed.Program.run invocation
  | .error .help => IO.println TableSeed.Program.usage; return 0
  | .error .version => IO.println "kvseed 0.1.0"; return 0
  | .error (.wrong e) => IO.eprintln ("error: " ++ e.message); return 2
