import TableSeed.Store.Basic

/-!
# The store in memory

Tables are kept by their exact names, items in the order in which they were inserted. Two items of
a table never have the same key text. Every call is recorded before it is looked at.
-/

namespace TableSeed

/-- A call of a store. -/
inductive StoreCall where
  | drop (table : String)
  | create (table : String)
  | insert (table : String) (item : Item)

/-- An item under the text of its key values. -/
structure KeyedItem where
  key : String
  item : Json.Members

/-- The state of a store in memory. -/
structure MemoryStore where
  tables : List (String × List KeyedItem) := []
  /-- The calls so far, in order. -/
  calls : List StoreCall := []

namespace MemoryStore

/-- Records a call. -/
def record (s : MemoryStore) (call : StoreCall) : MemoryStore := { s with calls := s.calls ++ [call] }

/-- The items of a table, if it exists. -/
def table? (s : MemoryStore) (name : String) : Option (List KeyedItem) := s.tables.lookup name

/-- The items of a table in the order in which they were inserted, if the table exists. -/
def items? (s : MemoryStore) (name : String) : Option (List Json.Members) :=
  (s.table? name).map fun items => items.map (·.item)

/-- Creates a table unless it exists. -/
def create (schema : TableSchema) (s : MemoryStore) : Except StoreError Unit × MemoryStore :=
  let s := s.record (.create schema.table)
  if (s.table? schema.table).isSome then (.ok (), s)
  else (.ok (), { s with tables := s.tables ++ [(schema.table, [])] })

/-- Drops a table if it exists. -/
def drop (name : String) (s : MemoryStore) : Except StoreError Unit × MemoryStore :=
  let s := s.record (.drop name)
  (.ok (), { s with tables := s.tables.filter fun t => t.1 ≠ name })

/-- Inserts an item, unless the table has its key. -/
def insert (name : String) (item : Item) (s : MemoryStore) : Except StoreError Unit × MemoryStore :=
  let s := s.record (.insert name item)
  match s.table? name with
  | none => (.error (.noTable name), s)
  | some items =>
    if items.any (·.key == item.keyText) then (.error (.duplicateKey item.keyText name), s)
    else
      let added := items ++ [⟨item.keyText, item.merged⟩]
      (.ok (), { s with tables := s.tables.map fun t => if t.1 = name then (name, added) else t })

/-- The calls on a store in memory. None of them makes a run pause. -/
def store : TableStore MemoryStore := .direct create drop insert (some 128)

end MemoryStore

end TableSeed
