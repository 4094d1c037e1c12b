import TableSeed.Files
import TableSeed.Log
import TableSeed.Store.Connection
import TableSeed.Text.Percent

/-!
# Addresses of databases

An address names a database file, after the scheme `sqlite:`, or a database in memory. Parameters
say how the file is opened. A file that does not exist is created.
-/

namespace TableSeed

/-- What an address says. -/
structure DatabaseAddress where
  /-- The path of the file; an empty one is a database of its own. -/
  path : String
  inMemory : Bool := false
  readOnly : Bool := false
  /-- The name of the layer by which the file is reached, if the address names one. -/
  layer : Option String := none
  deriving DecidableEq, Repr

/-- Why there is no connection. -/
inductive ConnectionError where
  | invalidAddress (address : String) (fault : DatabaseFault)
  | notConnected (address : String) (fault : DatabaseFault)
  deriving DecidableEq, Repr

namespace ConnectionError

/-- The messages of the error and of what caused it, outermost first. -/
def chain (databaseText : DatabaseFault → String) : ConnectionError → List String
  | .invalidAddress address fault => [s!"Invalid database URL: {address}", databaseText fault]
  | .notConnected address fault => [s!"Failed to connect to database: {address}", databaseText fault]

/-- The message of the error. -/
def message (databaseText : DatabaseFault → String) (e : ConnectionError) : String :=
  ": ".intercalate (e.chain databaseText)

end ConnectionError

namespace DatabaseAddress

/-- The address of a database in memory. -/
def memoryName : String := ":memory:"

/-- Whether the address is of a database in memory. -/
def isMemory (address : String) : Bool :=
  (address.splitOn memoryName).length > 1 || (address.splitOn "mode=memory").length > 1

/-- The rest of a text behind all repetitions of a mark at its start. -/
def dropMarks (mark : List Char) : Nat → List Char → List Char
  | 0, cs => cs
  | fuel + 1, cs => if mark.isPrefixOf cs then dropMarks mark fuel (cs.drop mark.length) else cs

/-- An address without its scheme. -/
def withoutScheme (address : String) : List Char :=
  let cs := address.toList
  dropMarks "sqlite:".toList cs.length (dropMarks "sqlite://".toList cs.length cs)

/-- Takes account of a parameter. -/
def setParameter (a : DatabaseAddress) (name value : String) : Except DatabaseFault DatabaseAddress :=
  let unknown : Except DatabaseFault DatabaseAddress :=
    .error (.badAddress s!"unknown value \"{value}\" for {name}")
  match name with
  | "mode" =>
    match value with
    | "ro" => .ok { a with readOnly := true }
    | "rw" | "rwc" => .ok a
    | "memory" => .ok { a with inMemory := true }
    | _ => unknown
  | "cache" => if value = "private" || value = "shared" then .ok a else unknown
  | "immutable" => if ["true", "1", "false", "0"].contains value then .ok a else unknown
  | "vfs" => .ok { a with layer := some value }
  | _ => .error (.badAddress s!"unknown query parameter {name} while parsing connection URL")

/-- Takes account of parameters, in order. -/
def setParameters (a : DatabaseAddress) : List (String × String) → Except DatabaseFault DatabaseAddress
  | [] => .ok a
  | (name, value) :: rest => do setParameters (← a.setParameter name value) rest

/-- Reads an address. -/
def parse (address : String) : Except DatabaseFault DatabaseAddress :=
  let cs := withoutScheme address
  let database := String.ofList (cs.takeWhile (· ≠ '?'))
  let parameters := Text.Percent.parameters (String.ofList ((cs.dropWhile (· ≠ '?')).drop 1))
  if database = memoryName then setParameters { path := "", inMemory := true } parameters
  else
    match Text.Percent.decode? database with
    | some path => setParameters { path } parameters
    | none => .error (.badAddress "invalid utf-8 sequence")

/-- The layers by which files are reached. -/
def layers : List String := ["unix", "unix-dotfile", "unix-excl", "unix-none", "memdb"]

/-- The access that an address asks for. -/
def access (a : DatabaseAddress) : Access := if a.readOnly then .readOnly else .full

/-- Opens the database of an address: the connection, where its file is kept if it has one, and the
files, among which is the database from now on. -/
def openIn (a : DatabaseAddress) (tree : FileTree) :
    Except DatabaseFault (Connection × Option (List String) × FileTree) :=
  if !a.layer.all layers.contains then .error .cannotOpen
  else if a.inMemory || a.path.isEmpty then .ok ({ access := a.access }, none, tree)
  else
    match tree.place? (tree.origin a.path) (Path.parts a.path) with
    | none => .error .cannotOpen
    | some place =>
      match tree.node? place with
      | some (.database database) => .ok ({ database, access := a.access }, some place, tree)
      | some (.file content) =>
        if content.isEmpty then .ok ({ access := a.access }, some place, tree)
        else .ok ({ access := .damaged }, none, tree)
      | some .directory => .error .cannotOpen
      | none =>
        if a.readOnly then .error .cannotOpen
        else .ok ({}, some place, tree.put place (.database {}))

end DatabaseAddress

/-- A connection with what is needed to keep its database. -/
structure OpenDatabase where
  connection : Connection
  /-- Where the database is kept; a database in memory is kept nowhere. -/
  place : Option (List String)
  files : FileTree
  log : Log

namespace OpenDatabase

/-- Connects to the database of an address. -/
def connect (tree : FileTree) (log : Log) (address : String) : Except ConnectionError OpenDatabase :=
  match DatabaseAddress.parse address with
  | .error fault => .error (.invalidAddress address fault)
  | .ok a =>
    match a.openIn tree with
    | .error fault => .error (.notConnected address fault)
    | .ok (connection, place, files) =>
      .ok ⟨connection, place, files, log.write .debug s!"Connected to {address}"⟩

/-- The files with the database as a connection leaves it. -/
def close (o : OpenDatabase) (c : Connection) : FileTree :=
  match o.place with
  | some place => o.files.put place (.database c.database)
  | none => o.files

end OpenDatabase

end TableSeed
