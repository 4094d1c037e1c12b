/-!
# References

A reference names a value of a committed record by a path: the root, then the fields to follow.
In a document it is written as a marked text, the segments joined by dots. Splitting and joining
are inverse for every text, also where segments are empty.
-/

namespace TableSeed

/-- The path `root.field.field…` of a reference. -/
structure ReferencePath where
  /-- The name of a group or an entry. -/
  root : String
  /-- What to follow from there, in order. -/
  fields : List String
  deriving DecidableEq, Repr

namespace ReferencePath

/-- The mark that makes a text a reference. -/
def marker : List Char := ['-', '>']

/-- The pieces of a text between its separators: the first, and the others. -/
def splitChars (separator : Char) : List Char → List Char × List (List Char)
  | [] => ([], [])
  | c :: rest =>
    let (first, others) := splitChars separator rest
    if c = separator then ([], first :: others) else (c :: first, others)

/-- Pieces with a separator before each. -/
def joinChars (separator : Char) : List (List Char) → List Char
  | [] => []
  | piece :: rest => separator :: piece ++ joinChars separator rest

/-- The path that a text without its mark spells. -/
def ofChars (cs : List Char) : ReferencePath :=
  let (root, fields) := splitChars '.' cs
  ⟨String.ofList root, fields.map String.ofList⟩

/-- The path that a text without its mark spells. -/
def parse (text : String) : ReferencePath := ofChars text.toList

/-- The segments joined by dots. -/
def toChars (path : ReferencePath) : List Char :=
  path.root.toList ++ joinChars '.' (path.fields.map String.toList)

/-- The reference as it is written in a document. -/
def render (path : ReferencePath) : String := String.ofList (marker ++ path.toChars)

end ReferencePath

end TableSeed
