import TableSeed.Json.Reader
import TableSeed.Json.Writer
import TableSeed.Store.Database

/-!
# Images of databases

The image of a database is a JSON text with its tables in the order of their creation. Each row is
the pair of the text of its key and the text of its item.
-/

namespace TableSeed.Database

/-- The member of an image that holds the tables. -/
def imageName : String := "tables"

/-- A row of an image. -/
def rowImage (row : Row) : Json.Value := .array [.string row.key, .string row.item]

/-- A table of an image. -/
def tableImage (t : StoredTable) : String × Json.Value := (t.name, .array (t.rows.map rowImage))

/-- The image of a database. -/
def image (db : Database) : String :=
  (Json.Value.object [(imageName, .object (db.tables.map tableImage))]).render

/-- The row that an image holds. -/
def rowOfImage? : Json.Value → Option Row
  | .array [.string key, .string item] => some ⟨key, item⟩
  | _ => none

/-- The table that an image holds. -/
def tableOfImage? : String × Json.Value → Option StoredTable
  | (name, .array rows) => (rows.mapM rowOfImage?).map fun rows => ⟨name, rows⟩
  | _ => none

/-- The database of an image. -/
def ofImage? (text : String) : Option Database :=
  match Json.Value.parse text with
  | .ok (.object [(name, .object tables)]) =>
    if name = imageName then (tables.mapM tableOfImage?).map fun tables => ⟨tables⟩ else none
  | _ => none

end TableSeed.Database
