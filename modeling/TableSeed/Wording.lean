import TableSeed.Files
import TableSeed.Json.Numeral
import TableSeed.Store.Database

/-!
# Wordings

Some messages pass on what the file system, the database or the reader of a notation says. A
wording gives the texts for these, so that a message can be shown with other texts than the
usual ones.
-/

namespace TableSeed

namespace Json.Fault

/-- The message of a fault of a JSON text. -/
def message : Json.Fault → String
  | .malformed => "malformed JSON"
  | .truncated => "unexpected end of JSON"

end Json.Fault

/-- The texts of faults that messages pass on. -/
structure Wording where
  file : FileFault → String := FileFault.message
  /-- For files of modules. -/
  moduleFile : FileFault → String := FileFault.message
  json : Json.Fault → String := Json.Fault.message
  /-- For what the expression language says. -/
  expression : String → String := id
  database : DatabaseFault → String := DatabaseFault.message
  /-- For what is wrong with a file of settings. -/
  settings : String → String := id

end TableSeed
