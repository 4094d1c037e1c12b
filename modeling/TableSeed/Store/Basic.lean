import TableSeed.Item
import TableSeed.Json.Reader
import TableSeed.Store.Database

/-!
# Stores

A store creates tables, drops them and inserts items. An insert may give way to other inserts
before it goes on; every other call comes to its end at once.
-/

namespace TableSeed

/-- What a store asks a database for. -/
inductive DatabaseTask where
  | create (table : String)
  | drop (table : String)
  | insert (key table : String)
  | read (table : String)
  | scan (table : String)
  | count (table : String)
  | list
  deriving DecidableEq, Repr

/-- Why a store does not do what it is asked to. -/
inductive StoreError where
  | noTable (table : String)
  | duplicateKey (key table : String)
  | database (task : DatabaseTask) (fault : DatabaseFault)
  /-- The text of a stored item cannot be read. -/
  | storedItem (fault : Json.Fault)
  /-- The store refuses the call, for a reason of its own. -/
  | refused (reason : String)
  deriving DecidableEq, Repr

namespace DatabaseTask

/-- What the message of a failed task begins with. -/
def failure : DatabaseTask → String
  | .create table => s!"Failed to create table {table}"
  | .drop table => s!"Failed to drop table {table}"
  | .insert key table => s!"Failed to insert {key} into table {table}"
  | .read table => s!"Failed to read from table {table}"
  | .scan table => s!"Failed to scan table {table}"
  | .count table => s!"Failed to count items in table {table}"
  | .list => "Failed to list tables"

end DatabaseTask

namespace StoreError

/-- The messages of the error and of what caused it, outermost first. Faults of the database and
of texts have a wording of their own. -/
def chain (databaseText : DatabaseFault → String) (faultText : Json.Fault → String) :
    StoreError → List String
  | .noTable table => [s!"Table does not exist: {table}"]
  | .duplicateKey key table => [s!"Duplicate key {key} in table {table}"]
  | .database task fault => [task.failure, databaseText fault]
  | .storedItem fault => ["Failed to deserialize stored item", faultText fault]
  | .refused reason => [reason]

/-- The message of the error. -/
def message (databaseText : DatabaseFault → String) (faultText : Json.Fault → String)
    (e : StoreError) : String :=
  ": ".intercalate (e.chain databaseText faultText)

end StoreError

/-- How far an insert comes when it is started. -/
inductive InsertProgress where
  | finished (result : Except StoreError Unit)
  /-- The insert lets others go first and has yet to be resumed. -/
  | givesWay

/-- The calls of a store whose state is `σ`. -/
structure TableStore (σ : Type) where
  /-- Creates a table unless it exists. -/
  create : TableSchema → σ → Except StoreError Unit × σ
  /-- Drops a table if it exists. -/
  drop : String → σ → Except StoreError Unit × σ
  /-- Starts to insert an item. -/
  startInsert : String → Item → σ → InsertProgress × σ
  /-- Goes on with an insert that gave way. -/
  resumeInsert : String → Item → σ → Except StoreError Unit × σ
  /-- How many permits a run may take before it has to pause. There is no limit if every call of
  the store makes the run pause anyway. -/
  allowance : Option Nat := some 128

namespace TableStore

variable {σ : Type}

/-- The number of permits that may be taken after a pause, if it is limited. It is at least one. -/
def fullAllowance (calls : TableStore σ) : Option Nat := calls.allowance.map (max 1)

/-- The store whose inserts never give way. -/
def direct (create : TableSchema → σ → Except StoreError Unit × σ)
    (drop : String → σ → Except StoreError Unit × σ)
    (insert : String → Item → σ → Except StoreError Unit × σ) (allowance : Option Nat) :
    TableStore σ where
  create := create
  drop := drop
  startInsert table item state :=
    let (result, state) := insert table item state
    (.finished result, state)
  resumeInsert _ _ state := (.ok (), state)
  allowance := allowance

end TableStore

end TableSeed
