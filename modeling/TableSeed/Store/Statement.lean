import TableSeed.Store.Identifier

/-!
# Statements

What the store asks of a database. A table holds one row per item: the text of the item's key
values, by which rows are told apart, and the text of the item. Every name of a table stands in
its statement as a quoted identifier, and every other text is bound to a parameter.
-/

namespace TableSeed

/-- A request to a database. -/
inductive Statement where
  /-- Creates a table unless it exists. -/
  | create (table : String)
  /-- Drops a table if it exists. -/
  | drop (table : String)
  /-- Adds a row. -/
  | insert (table key item : String)
  /-- The item under a key. -/
  | find (table key : String)
  /-- All items in the order in which they were added. -/
  | scan (table : String)
  /-- The number of rows. -/
  | count (table : String)
  /-- The names of the tables. -/
  | list
  deriving DecidableEq, Repr

namespace Statement

/-- What stands before and after the table's name. -/
def frame : Statement → String × String
  | .create _ => ("CREATE TABLE IF NOT EXISTS ", " (item_key TEXT PRIMARY KEY, item TEXT NOT NULL)")
  | .drop _ => ("DROP TABLE IF EXISTS ", "")
  | .insert _ _ _ => ("INSERT INTO ", " (item_key, item) VALUES (?, ?)")
  | .find _ _ => ("SELECT item FROM ", " WHERE item_key = ?")
  | .scan _ => ("SELECT item FROM ", " ORDER BY rowid")
  | .count _ => ("SELECT COUNT(*) AS items FROM ", "")
  | .list =>
    ("SELECT name FROM sqlite_master WHERE type = 'table' AND name NOT LIKE 'sqlite_%' ORDER BY name", "")

/-- The table that the statement names. -/
def table? : Statement → Option String
  | .create t | .drop t | .insert t _ _ | .find t _ | .scan t | .count t => some t
  | .list => none

/-- The text of the statement. -/
def text (s : Statement) : String :=
  match s.table? with
  | some t => s.frame.1 ++ Identifier.text t ++ s.frame.2
  | none => s.frame.1

end Statement

end TableSeed
