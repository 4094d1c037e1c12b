import TableSeed.Document.Basic
import TableSeed.Files

/-!
# Documents in files
-/

namespace TableSeed

/-- Why a file holds no seed document. -/
inductive DocumentFileError where
  | unreadable (path : String) (fault : FileFault)
  | invalid (path : String) (e : DocumentError)

namespace DocumentFileError

/-- The message of the error, where faults of files and of texts have a wording of their own. -/
def message (fileText : FileFault → String) (faultText : Json.Fault → String) :
    DocumentFileError → String
  | .unreadable path fault => s!"Failed to read seed document: {path}: {fileText fault}"
  | .invalid path e => s!"Failed to parse seed document: {path}: {e.message faultText}"

end DocumentFileError

namespace Document

/-- The document in a file. -/
def load (tree : FileTree) (path : String) : Except DocumentFileError Document :=
  match tree.readText path with
  | .error fault => .error (.unreadable path fault)
  | .ok text =>
    match parse text with
    | .ok document => .ok document
    | .error e => .error (.invalid path e)

end Document

end TableSeed
