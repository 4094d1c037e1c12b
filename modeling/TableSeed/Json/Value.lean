import TableSeed.Number.Binary64

/-!
# JSON values

Objects keep their members in order. A number is either an integer of 64 bits, signed or
unsigned, or a finite double; the two are never equal. `Members.put` gives the last value of a
repeated name the place of the first.
-/

namespace TableSeed.Json

/-- A JSON number: an integer that fits 64 bits or a finite double. -/
inductive Number where
  /-- An integer between `-2^63` and `2^64 - 1`. -/
  | integer (n : Int) (fits : -0x8000000000000000 ≤ n ∧ n < 0x10000000000000000)
  /-- A double that is neither infinite nor NaN. -/
  | double (x : Binary64) (finite : x.isFinite = true)
  deriving DecidableEq

/-- A JSON value with ordered objects. -/
inductive Value where
  | null
  | bool (b : Bool)
  | number (n : Number)
  | string (s : String)
  | array (items : List Value)
  | object (members : List (String × Value))

/-- The members of an object, in order. -/
abbrev Members := List (String × Value)

namespace Number

/-- The JSON number of an integer in range. -/
def ofInt? (n : Int) : Option Number :=
  if h : -0x8000000000000000 ≤ n ∧ n < 0x10000000000000000 then some (.integer n h) else none

/-- The JSON number of a finite double. -/
def ofDouble? (x : Binary64) : Option Number :=
  if h : x.isFinite = true then some (.double x h) else none

/-- The JSON number of a signed machine integer. -/
def ofInt64 (n : Int64) : Number :=
  .integer n.toInt (by
    have low := n.le_toInt
    have high := n.toInt_lt
    constructor <;> omega)

/-- The JSON number of a natural number of 32 bits. -/
def ofUInt32 (n : UInt32) : Number :=
  .integer n.toNat (by
    have high := n.toNat_lt
    constructor <;> omega)

end Number

namespace Members

/-- The value of the first member of that name. -/
def get? (name : String) : Members → Option Value
  | [] => none
  | (k, v) :: rest => if k = name then some v else get? name rest

/-- Whether a member has that name. -/
def contains (name : String) (ms : Members) : Bool := ms.any fun m => m.1 = name

/-- Gives the name that value: in the place where the name stands, or at the end. -/
def put (ms : Members) (name : String) (v : Value) : Members :=
  match ms with
  | [] => [(name, v)]
  | (k, w) :: rest => if k = name then (k, v) :: rest else (k, w) :: put rest name v

/-- The members without the first of that name. -/
def erase (name : String) : Members → Members
  | [] => []
  | (k, v) :: rest => if k = name then rest else (k, v) :: erase name rest

/-- The members written in order, where a repeated name keeps its first place and takes its last
value. -/
def ofList (ms : List (String × Value)) : Members := ms.foldl (fun acc m => put acc m.1 m.2) []

/-- The members of `ms` with those of `others` put after and over them. -/
def putAll (ms others : Members) : Members := others.foldl (fun acc m => put acc m.1 m.2) ms

/-- The names in order. -/
def names (ms : Members) : List String := ms.map Prod.fst

end Members

namespace Value

instance : Inhabited Value := ⟨.null⟩

/-- Puts a member into a list sorted by name. -/
def insertSorted (name : String) (v : Value) : Members → Members
  | [] => [(name, v)]
  | (k, w) :: rest => if name < k then (name, v) :: (k, w) :: rest else (k, w) :: insertSorted name v rest

mutual

/-- The value with the members of every object sorted by name. -/
def sorted : Value → Value
  | .array items => .array (sortedItems items)
  | .object members => .object (sortedMembers members)
  | v => v

/-- Each item sorted. -/
def sortedItems : List Value → List Value
  | [] => []
  | v :: rest => sorted v :: sortedItems rest

/-- The members sorted by name, each value sorted too. -/
def sortedMembers : List (String × Value) → Members
  | [] => []
  | (k, v) :: rest => insertSorted k (sorted v) (sortedMembers rest)

end

end Value

end TableSeed.Json
