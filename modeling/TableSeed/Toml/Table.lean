import TableSeed.Json.Value
import TableSeed.Toml.Scalar

/-!
# Tables in TOML

A document builds a tree of tables step by step: a header opens a table, and a key, whose parts
points join, gives a table a value. A name is given once, a table is opened once, and what one way
of writing has made another one cannot go on with: tables in braces are complete, and keys of
several parts only extend tables that such keys have made.
-/

namespace TableSeed.Toml

/-- How a table came about. -/
inductive TableOrigin where
  /-- A header opened it. -/
  | header
  /-- A header below it made it. -/
  | implied
  /-- The key of a value made it. -/
  | dotted
  /-- It was written in braces. -/
  | braces
  deriving DecidableEq, Repr

/-- A value. -/
inductive Value where
  | text (s : String)
  | scalar (s : Scalar)
  /-- The items of an array, and whether headers made it. -/
  | array (items : List Value) (byHeaders : Bool)
  | table (origin : TableOrigin) (members : List (String × Value))

/-- A table. -/
structure Table where
  origin : TableOrigin
  members : List (String × Value) := []

namespace Table

/-- The table as a value. -/
def toValue (t : Table) : Value := .table t.origin t.members

/-- Gives a name its value. -/
def set (t : Table) (name : String) (v : Value) : Table :=
  if t.members.any (·.1 = name) then
    { t with members := t.members.map fun m => if m.1 = name then (name, v) else m }
  else { t with members := t.members ++ [(name, v)] }

/-- The table of an array's last item, and the items before it. -/
def lastTable? (items : List Value) : Option (Table × List Value) :=
  match items.getLast? with
  | some (.table origin members) => some (⟨origin, members⟩, items.dropLast)
  | _ => none

/-- How a table is looked for. -/
inductive Approach where
  /-- From a header, or on the way to the table that a header has opened. -/
  | header
  /-- From a key of several parts. -/
  | key
  deriving DecidableEq

/-- Whether that table may be gone through. -/
def Approach.admits (a : Approach) (origin : TableOrigin) : Bool :=
  match a, origin with
  | _, .braces => false
  | .key, .header => false
  | _, _ => true

/-- How a table comes about that is not there yet. -/
def Approach.made : Approach → TableOrigin
  | .header => .implied
  | .key => .dotted

/-- Changes the table at the end of a path; tables that are not there yet are made. -/
def change (a : Approach) (f : Table → Option Table) : List String → Table → Option Table
  | [], t => f t
  | name :: rest, t =>
    match t.members.lookup name with
    | none => (change a f rest ⟨a.made, []⟩).map fun inner => t.set name inner.toValue
    | some (.table origin members) =>
      if a.admits origin then
        (change a f rest ⟨origin, members⟩).map fun inner => t.set name inner.toValue
      else none
    | some (.array items true) =>
      (lastTable? items).bind fun (last, before) =>
        (change a f rest last).map fun inner => t.set name (.array (before ++ [inner.toValue]) true)
    | some _ => none

/-- Gives a new name its value. -/
def add (name : String) (v : Value) (t : Table) : Option Table :=
  if (t.members.lookup name).isSome then none else some (t.set name v)

/-- Gives a key its value: all parts but the last lead to a table. -/
def assign (path : List String) (name : String) (v : Value) (t : Table) : Option Table :=
  if path.isEmpty then add name v t
  else
    change .key (fun inner => if inner.origin = .dotted then add name v inner else none) path t

/-- Opens a table by its header. -/
def openTable (path : List String) (name : String) (t : Table) : Option Table :=
  change .header (fun parent =>
    match parent.members.lookup name with
    | none => some (parent.set name (.table .header []))
    | some (.table .implied members) => some (parent.set name (.table .header members))
    | some _ => none) path t

/-- Opens a further table of an array by its header. -/
def openItem (path : List String) (name : String) (t : Table) : Option Table :=
  change .header (fun parent =>
    match parent.members.lookup name with
    | none => some (parent.set name (.array [.table .header []] true))
    | some (.array items true) => some (parent.set name (.array (items ++ [.table .header []]) true))
    | some _ => none) path t

end Table

namespace Value

/-- The name under which a date or time is kept as an object. -/
def momentName : String := "$__toml_private_datetime"

/-- The JSON value of a scalar; an integer beyond 64 bits has none, and a float that is not finite is
null. -/
def scalarToJson? : Scalar → Option Json.Value
  | .boolean b => some (.bool b)
  | .integer n => (Json.Number.ofInt? n).map .number
  | .float x =>
    match Json.Number.ofDouble? x with
    | some n => some (.number n)
    | none => some .null
  | .moment s => some (.object [(momentName, .string s)])

mutual

/-- The JSON value of a value. -/
def toJson? : Value → Option Json.Value
  | .text s => some (.string s)
  | .scalar s => scalarToJson? s
  | .array items _ => (itemsToJson? items).map .array
  | .table _ members => (membersToJson? members).map .object

/-- The JSON values of items. -/
def itemsToJson? : List Value → Option (List Json.Value)
  | [] => some []
  | v :: rest => do return (← toJson? v) :: (← itemsToJson? rest)

/-- The JSON members of a table. -/
def membersToJson? : List (String × Value) → Option Json.Members
  | [] => some []
  | (name, v) :: rest => do return (name, ← toJson? v) :: (← membersToJson? rest)

end

end Value

end TableSeed.Toml
