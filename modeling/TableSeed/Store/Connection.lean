import TableSeed.Store.Basic

/-!
# The store in a database

Every table of the store is a table of the database, in which an item is kept as its JSON text
under the text of its key values. What is stored is read again as JSON, so an item that nests
deeper than the reader allows is stored and cannot be read back.
-/

namespace TableSeed

/-- What a connection may do with its database. -/
inductive Access where
  | full
  /-- What changes the database is refused. -/
  | readOnly
  /-- The file is no database, so everything is refused. -/
  | damaged
  deriving DecidableEq, Repr

/-- A connection to a database. -/
structure Connection where
  database : Database := {}
  access : Access := .full
  deriving DecidableEq, Repr

/-- A table and the number of its items. -/
structure TableCount where
  name : String
  items : Nat
  deriving DecidableEq, Repr

namespace Connection

/-- Executes a statement, as far as the connection may. -/
def execute (c : Connection) (s : Statement) : Except DatabaseFault (Answer × Connection) :=
  match c.access with
  | .damaged => .error .notADatabase
  | access => do
    let (answer, database) ← c.database.execute s
    if access = .readOnly && database ≠ c.database then throw .readOnly
    return (answer, { c with database })

/-- Executes a statement that gives nothing back. -/
def perform (task : DatabaseTask) (s : Statement) (c : Connection) :
    Except StoreError Unit × Connection :=
  match c.execute s with
  | .ok (_, c) => (.ok (), c)
  | .error fault => (.error (.database task fault), c)

/-- The answer to a statement that changes nothing. -/
def ask (task : DatabaseTask) (s : Statement) (c : Connection) : Except StoreError Answer :=
  match c.execute s with
  | .ok (answer, _) => .ok answer
  | .error fault => .error (.database task fault)

/-- Creates a table unless it exists. -/
def create (schema : TableSchema) (c : Connection) : Except StoreError Unit × Connection :=
  perform (.create schema.table) (.create schema.table) c

/-- Drops a table if it exists. -/
def drop (name : String) (c : Connection) : Except StoreError Unit × Connection :=
  perform (.drop name) (.drop name) c

/-- Inserts an item, unless the table has its key. -/
def insert (name : String) (item : Item) (c : Connection) : Except StoreError Unit × Connection :=
  let text := (Json.Value.object item.merged).render
  perform (.insert item.keyText name) (.insert name item.keyText text) c

/-- The calls on a database. A run pauses at each of them. -/
def store : TableStore Connection := .direct create drop insert none

/-- The item that a stored text holds. -/
def readItem (text : String) : Except StoreError Json.Members :=
  match Json.Value.parse text with
  | .ok (.object members) => .ok members
  | .ok _ => .error (.storedItem .malformed)
  | .error fault => .error (.storedItem fault)

/-- The texts of an answer. -/
def texts : Answer → List String
  | .items ts => ts
  | .names ts => ts
  | _ => []

/-- The item under a key. -/
def find (c : Connection) (table : String) (key : Json.Members) :
    Except StoreError (Option Json.Members) := do
  let answer ← ask (.read table) (.find table (Item.keyText ⟨key, []⟩)) c
  match texts answer with
  | [] => return none
  | text :: _ => return some (← readItem text)

/-- All items of a table, in the order in which they were inserted. -/
def items (c : Connection) (table : String) : Except StoreError (List Json.Members) := do
  let answer ← ask (.scan table) (.scan table) c
  (texts answer).mapM readItem

/-- The number that an answer gives. -/
def number : Answer → Nat
  | .count n => n
  | _ => 0

/-- The listed tables with the numbers of their items. -/
def tables (c : Connection) : Except StoreError (List TableCount) := do
  let names ← ask .list .list c
  (texts names).mapM fun name => do
    return ⟨name, number (← ask (.count name) (.count name) c)⟩

end Connection

end TableSeed
