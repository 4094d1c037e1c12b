import Std.Data.TreeMap
import TableSeed.Lua.Value

/-!
# Lua tables

A table keeps the values of the keys `1 … n` in an array part and all other entries in a hash
part of fixed room. An emptied entry keeps its place in the hash part until the room runs out;
then the parts are laid out anew, the array part as large as it can be while more than half of it
is in use. The layout decides which border the length operator finds when a list has holes.
-/

namespace TableSeed.Lua

/-- A table. -/
structure Table where
  /-- The values of the keys from 1 on; nil marks an absent entry. -/
  array : Array Value := #[]
  /-- The other entries; nil marks an emptied one. -/
  hash : Std.TreeMap Key Value Key.order := {}
  /-- The number of entries that the hash part has room for. -/
  room : Nat := 0
  metatable : Option TableRef := none

namespace Table

/-- The least power of two that is at least `n`, or zero for zero. -/
def roomFor (n : Nat) : Nat := if n ≤ 1 then n else Nat.pow 2 ((n - 1).log2 + 1)

/-- An empty table with room for the given numbers of list items and of other entries. -/
def withRoom (items entries : Nat) : Table :=
  { array := Array.replicate items .nil, room := roomFor entries }

/-- The position in the array part that an integer key has. -/
@[inline] def slot? (t : Table) (n : Int64) : Option Nat :=
  if n ≥ 1 then
    let i := n.toUInt64.toNat
    if i ≤ t.array.size then some (i - 1) else none
  else none

/-- The value under an integer key. -/
@[inline] def getInt (t : Table) (n : Int64) : Value :=
  match t.slot? n with
  | some i => t.array.getD i .nil
  | none => t.hash.getD (.integer n) .nil

/-- The value under a key, or nil. -/
@[inline] def get (t : Table) (k : Key) : Value :=
  match k with
  | .integer n => t.getInt n
  | k => t.hash.getD k .nil

/-- The value under the key of a text. -/
def getText (t : Table) (name : String) : Value := t.get (.ofText name)

/-- How many keys of a list of values are in use in the ranges `(2^(i-1), 2^i]`, for the `i` below
`classes`. -/
def countClasses (classes : Nat) (keys : List Nat) : Array Nat :=
  keys.foldl (fun acc k =>
    let i := if k ≤ 1 then 0 else (k - 1).log2 + 1
    if i < classes then acc.modify i (· + 1) else acc) (Array.replicate classes 0)

/-- The number of size classes of an array part. -/
def classes : Nat := 32

/-- Looks for the largest `2^i` more than half of which would be in use, where `seen` keys are up
to the class below `i`, `total` in all, and `best` is the best size so far with the keys in it. -/
def bestSize (counts : Array Nat) (total : Nat) : Nat → Nat → Nat → Nat × Nat → Nat × Nat
  | 0, _, _, best => best
  | fuel + 1, i, seen, best =>
    if 2 * total > Nat.pow 2 i then
      let seen := seen + counts.getD i 0
      bestSize counts total fuel (i + 1) seen (if 2 * seen > Nat.pow 2 i then (Nat.pow 2 i, seen) else best)
    else best

/-- The keys of the array part that are in use. -/
def usedSlots (t : Table) : List Nat :=
  (List.range t.array.size).filterMap fun i => if (t.array.getD i .nil).isNil then none else some (i + 1)

/-- The integer keys of the hash part that are in use and could move to an array part. -/
def usedIntegers (t : Table) : List Nat :=
  t.hash.foldl (fun acc k v =>
    match k with
    | .integer n => if n ≥ 1 && !v.isNil then n.toUInt64.toNat :: acc else acc
    | _ => acc) []

/-- The number of entries of the hash part that are in use. -/
def usedEntries (t : Table) : Nat :=
  t.hash.foldl (fun acc _ v => if v.isNil then acc else acc + 1) 0

/-- Puts an entry where it belongs, whatever the room. -/
def place (t : Table) (k : Key) (v : Value) : Table :=
  match k with
  | .integer n =>
    match t.slot? n with
    | some i => { t with array := t.array.setIfInBounds i v }
    | none => { t with hash := t.hash.insert k v }
  | k => { t with hash := t.hash.insert k v }

/-- Lays the table out with an array part of that size and a hash part of that room. -/
def resize (t : Table) (items entries : Nat) : Table :=
  let kept := t.array.extract 0 items
  let vanishing := (List.range (t.array.size - items)).map fun j =>
    (Key.integer (Int64.ofNat (items + j + 1)), t.array.getD (items + j) .nil)
  let moved := vanishing ++ t.hash.toList
  let blank : Table :=
    { t with array := kept ++ Array.replicate (items - kept.size) .nil, hash := {},
             room := roomFor entries }
  moved.foldl (fun acc e => if e.2.isNil then acc else acc.place e.1 e.2) blank

/-- Makes room for one more key. -/
def rehash (t : Table) (extra : Key) : Table :=
  let slots := t.usedSlots
  let integers := t.usedIntegers
  let extraInteger : List Nat := match extra with
    | .integer n => if n ≥ 1 then [n.toUInt64.toNat] else []
    | _ => []
  let counts := countClasses classes (extraInteger ++ slots ++ integers)
  let total := counts.foldl (· + ·) 0
  let (size, inArray) := bestSize counts total classes 0 0 (0, 0)
  t.resize size (slots.length + t.usedEntries + 1 - inArray)

/-- Gives the key that value. A new key with the value nil changes nothing. -/
def set (t : Table) (k : Key) (v : Value) : Table :=
  let entry (t : Table) (k : Key) : Table :=
    if t.hash.contains k then { t with hash := t.hash.insert k v }
    else if v.isNil then t
    else if t.hash.size < t.room then { t with hash := t.hash.insert k v }
    else (t.rehash k).place k v
  match k with
  | .integer n =>
    match t.slot? n with
    | some i =>
      let { array, hash, room, metatable } := t
      { array := array.setIfInBounds i v, hash, room, metatable }
    | none => entry t k
  | k => entry t k

/-- Makes the array part at least that large. -/
def growArray (t : Table) (items : Nat) : Table :=
  if items ≤ t.array.size then t else t.resize items t.room

/-- A border between a present position `low` (or zero) and an absent position `high` of the array
part, by halving. -/
def halveArray (t : Table) : Nat → Nat → Nat → Nat
  | 0, low, _ => low
  | fuel + 1, low, high =>
    if high - low ≤ 1 then low
    else
      let mid := (low + high) / 2
      if (t.array.getD (mid - 1) .nil).isNil then halveArray t fuel low mid
      else halveArray t fuel mid high

/-- A border between a present key `low` and an absent key `high`, by halving. -/
def halveKeys (t : Table) : Nat → Nat → Nat → Nat
  | 0, low, _ => low
  | fuel + 1, low, high =>
    if high - low ≤ 1 then low
    else
      let mid := (low + high) / 2
      if (t.getInt (Int64.ofNat mid)).isNil then halveKeys t fuel low mid
      else halveKeys t fuel mid high

/-- A border from a present key on: the key is doubled until it is absent, then the gap is halved. -/
def searchKeys (t : Table) : Nat → Nat → Nat
  | 0, low => low
  | fuel + 1, low =>
    let high := 2 * low
    if high ≥ 0x8000000000000000 then
      if (t.getInt Int64.maxValue).isNil then halveKeys t 64 low (0x8000000000000000 - 1) else 0x8000000000000000 - 1
    else if (t.getInt (Int64.ofNat high)).isNil then halveKeys t 64 low high
    else searchKeys t fuel high

/-- A border of the table: zero or a present key whose successor is absent. -/
def border (t : Table) : Nat :=
  let n := t.array.size
  if n > 0 && (t.array.getD (n - 1) .nil).isNil then
    if n ≥ 2 && !(t.array.getD (n - 2) .nil).isNil then n - 1 else halveArray t 64 0 n
  else if (t.hash.getD (.integer (Int64.ofNat (n + 1))) .nil).isNil then n
  else searchKeys t 64 (max n 1)

/-- The entries in use: the array part in order, then the hash part in the order of its keys. -/
def entries (t : Table) : List (Key × Value) :=
  (List.range t.array.size).filterMap (fun i =>
    let v := t.array.getD i .nil
    if v.isNil then none else some (Key.integer (Int64.ofNat (i + 1)), v)) ++
  t.hash.toList.filter fun e => !e.2.isNil

/-- The first entry of the array part at or after a position, among the next `fuel`. -/
def nextSlot (t : Table) : Nat → Nat → Option (Key × Value)
  | 0, _ => none
  | fuel + 1, i =>
    let v := t.array.getD i .nil
    if v.isNil then nextSlot t fuel (i + 1) else some (.integer (Int64.ofNat (i + 1)), v)

/-- The first entry in use of the hash part after a key, among the next `fuel`. -/
def nextEntry (t : Table) : Nat → Key → Option (Key × Value)
  | 0, _ => none
  | fuel + 1, k =>
    match t.hash.getEntryGT? k with
    | some (k, v) => if v.isNil then nextEntry t fuel k else some (k, v)
    | none => none

/-- The first entry in use of the hash part. -/
def firstEntry (t : Table) : Option (Key × Value) :=
  match t.hash.minEntry? with
  | some (k, v) => if v.isNil then nextEntry t t.hash.size k else some (k, v)
  | none => none

/-- The entry after a key in traversal order; none as a key stands for the start. The answer is
none for a key that the table does not know. -/
def next (t : Table) : Option Key → Option (Option (Key × Value))
  | none => some ((nextSlot t t.array.size 0).or (firstEntry t))
  | some (.integer n) =>
    match t.slot? n with
    | some i => some ((nextSlot t (t.array.size - (i + 1)) (i + 1)).or (firstEntry t))
    | none =>
      if t.hash.contains (.integer n) then some (nextEntry t t.hash.size (.integer n)) else none
  | some k => if t.hash.contains k then some (nextEntry t t.hash.size k) else none

/-- The number of entries in use. -/
def count (t : Table) : Nat :=
  t.array.foldl (fun acc v => if v.isNil then acc else acc + 1) 0 + t.usedEntries

end Table

end TableSeed.Lua
