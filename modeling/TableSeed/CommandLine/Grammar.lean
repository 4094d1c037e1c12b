import TableSeed.CommandLine.Basic

/-!
# What may stand on a command line

Before the name of the command stand switches of the program, behind it those of the command. A
flag is given or not, a slot holds a value. Long names of switches follow two hyphens, short ones,
of which several may stand together, one.
-/

namespace TableSeed.CommandLine

/-- A switch without a value. -/
inductive Flag where
  | verbose | help | version | dropTables | noColor
  deriving DecidableEq, Repr

/-- What a value is given for. -/
inductive Slot where
  | document | database | schemaDir | dependencyDir | config | maxConcurrentInserts
  deriving DecidableEq, Repr

/-- What a name stands for. -/
inductive Switch where
  | flag (f : Flag)
  | slot (s : Slot)
  deriving DecidableEq, Repr

namespace Slot

/-- The name of the slot in messages. -/
def name : Slot → String
  | .document => "<DOCUMENT>"
  | .database => "--database"
  | .schemaDir => "--schema-dir"
  | .dependencyDir => "--dependency-dir"
  | .config => "--config"
  | .maxConcurrentInserts => "--max-concurrent-inserts"

/-- The natural number of 64 bits that a text of digits spells; a plus may stand in front. -/
def count? (value : String) : Option Nat :=
  let digits := match value.toList with
    | '+' :: rest => rest
    | cs => cs
  if digits.isEmpty || !digits.all Char.isDigit then none
  else
    let n := digits.foldl (fun acc c => acc * 10 + (c.toNat - 48)) 0
    if n < 0x10000000000000000 then some n else none

/-- Whether the slot may hold a value: paths are not empty, and counts are numbers. -/
def check (s : Slot) (value : String) : Except UsageError Unit :=
  match s with
  | .database => .ok ()
  | .maxConcurrentInserts =>
    if (count? value).isSome then .ok () else .error (.notANumber s.name value)
  | _ => if value.isEmpty then .error (.emptyValue s.name) else .ok ()

end Slot

namespace Flag

/-- The name of the flag in messages. -/
def name : Flag → String
  | .verbose => "--verbose"
  | .help => "--help"
  | .version => "--version"
  | .dropTables => "--drop-tables"
  | .noColor => "--no-color"

end Flag

/-- What may stand before the name of a command, or behind it. -/
structure Grammar where
  /-- The switches that have a long name. -/
  long : List (String × Switch)
  /-- The switches that have a short name. -/
  short : List (Char × Switch)
  /-- Whether a document is expected. -/
  hasDocument : Bool := false

namespace Grammar

/-- The switches of the program. -/
def program : Grammar where
  long := [("verbose", .flag .verbose), ("help", .flag .help), ("version", .flag .version)]
  short := [('v', .flag .verbose), ('h', .flag .help), ('V', .flag .version)]

/-- What may follow `seed`. -/
def seed : Grammar where
  long := [("database", .slot .database), ("drop-tables", .flag .dropTables),
    ("schema-dir", .slot .schemaDir), ("dependency-dir", .slot .dependencyDir),
    ("config", .slot .config), ("max-concurrent-inserts", .slot .maxConcurrentInserts),
    ("no-color", .flag .noColor), ("verbose", .flag .verbose), ("help", .flag .help)]
  short := [('d', .slot .database), ('c', .slot .config), ('v', .flag .verbose), ('h', .flag .help)]
  hasDocument := true

/-- What may follow `tables`. -/
def tables : Grammar where
  long := [("database", .slot .database), ("config", .slot .config), ("no-color", .flag .noColor),
    ("verbose", .flag .verbose), ("help", .flag .help)]
  short := [('d', .slot .database), ('c', .slot .config), ('v', .flag .verbose), ('h', .flag .help)]

end Grammar

end TableSeed.CommandLine
