import TableSeed.Commits.Basic
import TableSeed.Document.Template
import TableSeed.Expression.Evaluation

/-!
# Resolving templates

A template is resolved in one pass, depth first: an expression by its value, a reference by the
committed value it leads to, and everything else by itself. What has been put in is not looked at
again. Every expression of a record sees the whole record as it stands in the document, however
deep it stands. The first reference that leads nowhere ends the pass; an expression without a
value keeps its text.
-/

namespace TableSeed

open Lua (TableRef)

/-- Why a record is not resolved. -/
inductive ResolutionError where
  | reference (e : ReferenceError)
  /-- A helper could not go on, which ends the whole run. -/
  | aborted
  deriving DecidableEq

namespace Template

mutual

/-- The value of a template, whose expressions see the given record. -/
def resolve (commits : Commits) (this : Option TableRef) (s : Sandbox) :
    Template → Except ResolutionError Json.Value × Sandbox
  | .literal v => (.ok v, s)
  | .expression source =>
    match s.evaluateOrKeep source (expressionText source) this with
    | (.ok v, s) => (.ok v, s)
    | (.error .aborted, s) => (.error .aborted, s)
  | .reference path =>
    match commits.resolve path with
    | .ok v => (.ok v, s)
    | .error e => (.error (.reference e), s)
  | .object fields =>
    match resolveFields commits this s fields with
    | (.ok members, s) => (.ok (.object members), s)
    | (.error e, s) => (.error e, s)
  | .sequence items =>
    match resolveItems commits this s items with
    | (.ok values, s) => (.ok (.array values), s)
    | (.error e, s) => (.error e, s)

/-- The values of items, in order. -/
def resolveItems (commits : Commits) (this : Option TableRef) (s : Sandbox) :
    List Template → Except ResolutionError (List Json.Value) × Sandbox
  | [] => (.ok [], s)
  | t :: rest =>
    match resolve commits this s t with
    | (.error e, s) => (.error e, s)
    | (.ok v, s) =>
      match resolveItems commits this s rest with
      | (.error e, s) => (.error e, s)
      | (.ok values, s) => (.ok (v :: values), s)

/-- The values of fields, in order. -/
def resolveFields (commits : Commits) (this : Option TableRef) (s : Sandbox) :
    List (String × Template) → Except ResolutionError Json.Members × Sandbox
  | [] => (.ok [], s)
  | (name, t) :: rest =>
    match resolve commits this s t with
    | (.error e, s) => (.error e, s)
    | (.ok v, s) =>
      match resolveFields commits this s rest with
      | (.error e, s) => (.error e, s)
      | (.ok members, s) => (.ok ((name, v) :: members), s)

end

end Template

namespace RecordTemplate

/-- The record as a table for its expressions; a record without expressions needs none. -/
def parent (s : Sandbox) (record : RecordTemplate) : Option TableRef × Sandbox :=
  if record.hasExpressions then
    let (this, heap) := Conversion.ofRecord s.world.heap record.raw
    (some this, { s with world := { s.world with heap } })
  else (none, s)

/-- The resolved record. Its table is dropped again, unless something has come to refer to it. -/
def resolve (commits : Commits) (s : Sandbox) (record : RecordTemplate) :
    Except ResolutionError Json.Members × Sandbox :=
  let mark := Sandbox.Mark.of s.world.heap
  let (this, s) := parent s record
  let (result, s) := Template.resolveFields commits this s record
  (result, s.mapHeap (Sandbox.release mark))

end RecordTemplate

end TableSeed
