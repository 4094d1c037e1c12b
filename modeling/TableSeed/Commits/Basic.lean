import TableSeed.Document.Reference
import TableSeed.Json.Value

/-!
# Committed records

A record is committed under a group and an entry once its group is stored, and it is never
replaced. A reference starts at a group's name, where it finds the object of the group's entries,
or at an entry's key that only one group has committed. From there it follows members by name and
list items by position.
-/

namespace TableSeed

/-- Why a reference has no value. -/
inductive ReferenceError where
  /-- Nothing is committed under the root. -/
  | missingRoot (root : String)
  /-- Several groups have committed an entry of that key. -/
  | ambiguousRoot (root : String) (groups : List String)
  /-- A field that cannot be followed, and the whole reference. -/
  | missingField (reference field : String)
  deriving DecidableEq, Repr

/-- The committed records of a run. -/
structure Commits where
  /-- The committed entries of each group, in the order of commitment. -/
  groups : List (String × Json.Members) := []
  /-- The groups that have committed an entry of each key, in the order of commitment. -/
  owners : List (String × List String) := []

namespace ReferenceError

/-- The message of the error. -/
def message : ReferenceError → String
  | .missingRoot root => s!"cannot read '{root}': no committed group or entry with that name"
  | .ambiguousRoot root groups =>
    let names := ", ".intercalate groups
    s!"entry '{root}' exists in groups {names}; qualify the reference with a group name"
  | .missingField reference field => s!"cannot read '{field}' in reference '{reference}'"

end ReferenceError

/-- The position that a text names: decimal digits, perhaps after a plus, that fit 64 bits. -/
def position? (s : String) : Option Nat :=
  let digits := match s.toList with
    | '+' :: rest => rest
    | cs => cs
  if digits.isEmpty || !digits.all Char.isDigit then none
  else
    let n := digits.foldl (fun acc c => acc * 10 + (c.toNat - 48)) 0
    if n < 0x10000000000000000 then some n else none

namespace Commits

/-- Changes the value under a name, or adds one made from nothing. -/
def update {α : Type} (name : String) (change : Option α → α) : List (String × α) → List (String × α)
  | [] => [(name, change none)]
  | (k, a) :: rest => if k = name then (k, change (some a)) :: rest else (k, a) :: update name change rest

/-- The committed entries of a group. -/
def group? (commits : Commits) (name : String) : Option Json.Members := commits.groups.lookup name

/-- Whether the entry of that group is committed. -/
def contains (commits : Commits) (group entry : String) : Bool :=
  match commits.group? group with
  | some entries => Json.Members.contains entry entries
  | none => false

/-- Commits a record, unless its group already has an entry of that key: the records afterwards,
and whether it was committed. -/
def commit (commits : Commits) (group entry : String) (record : Json.Members) : Commits × Bool :=
  if commits.contains group entry then (commits, false)
  else
    ({ groups := update group (fun entries => entries.getD [] ++ [(entry, .object record)]) commits.groups,
       owners := update entry (fun groups => groups.getD [] ++ [group]) commits.owners },
     true)

/-- The number of committed records. -/
def length (commits : Commits) : Nat := (commits.owners.flatMap (·.2)).length

/-- Whether nothing is committed. -/
def isEmpty (commits : Commits) : Bool := commits.owners.isEmpty

/-- Where a reference starts. -/
def root (commits : Commits) (name : String) : Except ReferenceError Json.Value :=
  match commits.group? name with
  | some entries => .ok (.object entries)
  | none =>
    match commits.owners.lookup name with
    | some [group] =>
      match (commits.group? group).bind (Json.Members.get? name) with
      | some v => .ok v
      | none => .error (.missingRoot name)
    | some (first :: second :: others) => .error (.ambiguousRoot name (first :: second :: others))
    | _ => .error (.missingRoot name)

/-- The part of a value under a field: a member by name, an item by position. -/
def step? (v : Json.Value) (field : String) : Option Json.Value :=
  match v with
  | .object members => Json.Members.get? field members
  | .array items => (position? field).bind (items[·]?)
  | _ => none

/-- Follows the fields of a reference from a value. -/
def follow (reference : String) (v : Json.Value) : List String → Except ReferenceError Json.Value
  | [] => .ok v
  | field :: rest =>
    match step? v field with
    | some w => follow reference w rest
    | none => .error (.missingField reference field)

/-- The value of a reference. -/
def resolve (commits : Commits) (path : ReferencePath) : Except ReferenceError Json.Value := do
  let v ← commits.root path.root
  follow path.render v path.fields

end Commits

end TableSeed
