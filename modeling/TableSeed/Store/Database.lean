import TableSeed.Store.Statement

/-!
# Databases

A database keeps tables of rows. Names of tables are compared without regard to the case of ASCII
letters, and a table keeps the spelling of its creation. Names that begin with `sqlite_` belong to
the database. The list of tables leaves out every name that begins with `sqlite` and goes on with
at least one more character, and it is sorted by the bytes of the names. The functions that can be
read as tables, such as `json_each`, are not among its tables.
-/

namespace TableSeed

/-- A row: the text of an item's key values and the text of the item. -/
structure Row where
  key : String
  item : String
  deriving DecidableEq, Repr

/-- A table with its rows in the order in which they were added. -/
structure StoredTable where
  name : String
  rows : List Row := []
  deriving DecidableEq, Repr

/-- The tables of a database, in the order of their creation. -/
structure Database where
  tables : List StoredTable := []
  deriving DecidableEq, Repr

/-- Why a database refuses a statement. -/
inductive DatabaseFault where
  | noSuchTable (table : String)
  | duplicateKey (table : String)
  /-- The name belongs to the database. -/
  | reservedName (table : String)
  /-- The table describes the database itself. -/
  | systemTable (table : String)
  /-- The name does not fit into a statement. -/
  | unreadableName
  /-- The file is no database. -/
  | notADatabase
  | readOnly
  | cannotOpen
  /-- The address of the database is not understood. -/
  | badAddress (why : String)
  deriving DecidableEq, Repr

namespace DatabaseFault

/-- The message of the fault. -/
def message : DatabaseFault → String
  | .noSuchTable table => s!"error returned from database: (code: 1) no such table: {table}"
  | .duplicateKey table =>
    s!"error returned from database: (code: 1555) UNIQUE constraint failed: {table}.item_key"
  | .reservedName table =>
    s!"error returned from database: (code: 1) object name reserved for internal use: {table}"
  | .systemTable table => s!"error returned from database: (code: 1) table {table} may not be used"
  | .unreadableName => "error returned from database: (code: 1) unrecognized token"
  | .notADatabase => "error returned from database: (code: 26) file is not a database"
  | .readOnly => "error returned from database: (code: 8) attempt to write a readonly database"
  | .cannotOpen => "error returned from database: (code: 14) unable to open database file"
  | .badAddress why => s!"error with configuration: {why}"

end DatabaseFault

/-- What a statement gives back. -/
inductive Answer where
  | done
  | items (texts : List String)
  | count (n : Nat)
  | names (names : List String)
  deriving DecidableEq, Repr

namespace Database

/-- A name with its ASCII letters in lower case, by which names are compared. -/
def fold (name : String) : List Char := name.toList.map Char.toLower

/-- Whether two names are of the same table. -/
def sameName (a b : String) : Bool := fold a == fold b

/-- The table of a name. -/
def find? (db : Database) (name : String) : Option StoredTable :=
  db.tables.find? fun t => sameName t.name name

/-- How reserved names begin. -/
def reservedMark : List Char := "sqlite_".toList

/-- Whether the name belongs to the database. -/
def isReserved (name : String) : Bool := reservedMark.isPrefixOf (fold name)

/-- The tables that describe the database. -/
def systemTables : List String :=
  ["sqlite_master", "sqlite_schema", "sqlite_temp_master", "sqlite_temp_schema"]

/-- Whether the name is of a table that describes the database. -/
def isSystem (name : String) : Bool := systemTables.any (sameName name)

/-- How the names begin that the list leaves out, where any character may follow. -/
def hiddenMark : List Char := "sqlite".toList

/-- Whether the list leaves out the name. -/
def isHidden (name : String) : Bool :=
  let folded := fold name
  hiddenMark.isPrefixOf folded && hiddenMark.length < folded.length

/-- The order of names by their bytes, which is that of their code points. -/
def nameLe (a b : String) : Bool := !decide (b < a)

/-- The listed names. -/
def listed (db : Database) : List String :=
  ((db.tables.map (·.name)).filter fun n => !isHidden n).mergeSort nameLe

/-- The table of a name, or why a statement cannot use it. -/
def use (db : Database) (name : String) : Except DatabaseFault StoredTable :=
  if !Identifier.isReadable name then .error .unreadableName
  else if isSystem name then .error (.systemTable name)
  else
    match db.find? name with
    | some t => .ok t
    | none => .error (.noSuchTable name)

/-- Creates a table unless it exists. -/
def create (db : Database) (name : String) : Except DatabaseFault Database :=
  if !Identifier.isReadable name then .error .unreadableName
  else if isReserved name then .error (.reservedName name)
  else if (db.find? name).isSome then .ok db
  else .ok ⟨db.tables ++ [⟨name, []⟩]⟩

/-- Drops a table if it exists. -/
def drop (db : Database) (name : String) : Except DatabaseFault Database :=
  if !Identifier.isReadable name then .error .unreadableName
  else if isSystem name then .error (.systemTable name)
  else .ok ⟨db.tables.filter fun t => !sameName t.name name⟩

/-- Adds a row to a table, unless one has its key. -/
def insert (db : Database) (name : String) (row : Row) : Except DatabaseFault Database := do
  let t ← db.use name
  if t.rows.any (·.key == row.key) then throw (.duplicateKey t.name)
  return ⟨db.tables.map fun t => if sameName t.name name then { t with rows := t.rows ++ [row] } else t⟩

/-- What a statement does: the answer and the database afterwards. A refused statement changes
nothing. -/
def execute (db : Database) : Statement → Except DatabaseFault (Answer × Database)
  | .create t => do return (.done, ← db.create t)
  | .drop t => do return (.done, ← db.drop t)
  | .insert t key item => do return (.done, ← db.insert t ⟨key, item⟩)
  | .find t key => do
    let table ← db.use t
    return (.items ((table.rows.filter (·.key == key)).map (·.item)), db)
  | .scan t => do return (.items ((← db.use t).rows.map (·.item)), db)
  | .count t => do return (.count (← db.use t).rows.length, db)
  | .list => .ok (.names db.listed, db)

end Database

end TableSeed
