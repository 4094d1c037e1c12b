import TableSeed.Document.Reference
import TableSeed.Json.Value

/-!
# Templates

A value of a seed document is a template for the value that is stored. A text marked by `=` is an
expression to evaluate, a text marked by `->` a reference to a committed record; every other
scalar stands for itself. `Template.raw` writes the marks back, so classifying loses nothing.
-/

namespace TableSeed

/-- A document value by what is to be done with it. -/
inductive Template where
  /-- A scalar that stands for itself. -/
  | literal (v : Json.Value)
  /-- The source of an expression, without its mark. -/
  | expression (source : String)
  | reference (path : ReferencePath)
  | object (fields : List (String × Template))
  | sequence (items : List Template)

/-- The fields of an entry or of a nested object, in order. -/
abbrev RecordTemplate := List (String × Template)

namespace Template

/-- The mark that makes a text an expression. -/
def expressionMarker : Char := '='

/-- What a text stands for. -/
def ofString (s : String) : Template :=
  match s.toList with
  | '=' :: source => .expression (String.ofList source)
  | '-' :: '>' :: path => .reference (ReferencePath.ofChars path)
  | _ => .literal (.string s)

/-- The text of an expression with its mark. -/
def expressionText (source : String) : String := String.ofList (expressionMarker :: source.toList)

mutual

/-- Classifies a document value. -/
def classify : Json.Value → Template
  | .string s => ofString s
  | .array items => .sequence (classifyItems items)
  | .object members => .object (classifyMembers members)
  | v => .literal v

/-- Classifies the items of an array. -/
def classifyItems : List Json.Value → List Template
  | [] => []
  | v :: rest => classify v :: classifyItems rest

/-- Classifies the members of an object. -/
def classifyMembers : List (String × Json.Value) → RecordTemplate
  | [] => []
  | (name, v) :: rest => (name, classify v) :: classifyMembers rest

end

mutual

/-- The document value with its marks. -/
def raw : Template → Json.Value
  | .literal v => v
  | .expression source => .string (expressionText source)
  | .reference path => .string path.render
  | .object fields => .object (rawFields fields)
  | .sequence items => .array (rawItems items)

/-- The document values of items. -/
def rawItems : List Template → List Json.Value
  | [] => []
  | t :: rest => raw t :: rawItems rest

/-- The document values of fields. -/
def rawFields : List (String × Template) → Json.Members
  | [] => []
  | (name, t) :: rest => (name, raw t) :: rawFields rest

end

mutual

/-- Whether an expression stands somewhere in the template. -/
def hasExpressions : Template → Bool
  | .literal _ | .reference _ => false
  | .expression _ => true
  | .object fields => anyFieldHasExpressions fields
  | .sequence items => anyHasExpressions items

/-- Whether an expression stands in one of the items. -/
def anyHasExpressions : List Template → Bool
  | [] => false
  | t :: rest => hasExpressions t || anyHasExpressions rest

/-- Whether an expression stands in one of the fields. -/
def anyFieldHasExpressions : List (String × Template) → Bool
  | [] => false
  | (_, t) :: rest => hasExpressions t || anyFieldHasExpressions rest

end

end Template

namespace RecordTemplate

/-- Classifies the fields of an object. -/
def ofMembers (members : Json.Members) : RecordTemplate := Template.classifyMembers members

/-- The record as it stands in the document, marks included. -/
def raw (record : RecordTemplate) : Json.Members := Template.rawFields record

/-- Whether an expression stands in the record, at any depth. -/
def hasExpressions (record : RecordTemplate) : Bool := Template.anyFieldHasExpressions record

end RecordTemplate

end TableSeed
