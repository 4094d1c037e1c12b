import TableSeed.Lua.Arguments

/-!
# The table library

Lists are read and written through metamethods. Sorting exchanges items in the order of a
quicksort with the middle item as pivot, which an order function can observe.
-/

namespace TableSeed.Lua

open TableSeed.Lua.Action

namespace TableFunction

/-- The functions of the library. -/
def all : List TableFunction := [.concat, .insert, .move, .pack, .remove, .sort, .unpack]

/-- The name of a function. -/
def name : TableFunction → String
  | .concat => "concat"
  | .insert => "insert"
  | .move => "move"
  | .pack => "pack"
  | .remove => "remove"
  | .sort => "sort"
  | .unpack => "unpack"

end TableFunction

namespace Tables

/-- The length of a table as an integer. -/
def lengthOf (v : Value) : Action Int64 := do
  match ← Value.length v with
  | .integer n => return n
  | v =>
    match v.toNum?.bind Num.toInt64? with
    | some n => return n
    | none => complain "object length is not an integer"

/-- The item at a position. -/
def item (t : Value) (i : Int64) : Action Value := Value.index t (.integer i)

/-- Gives a position an item. -/
def setItem (t : Value) (i : Int64) (v : Value) : Action Unit := Value.setIndex t (.integer i) v

/-- Copies `n` items one after the other, from position `i` of one list to position `j` of another,
in steps of `step`. -/
def copy (source target : Value) (step : Int64) : Nat → Int64 → Int64 → Action Unit
  | 0, _, _ => .done ()
  | n + 1, i, j => do
    setItem target j (← item source i)
    copy source target step n (i + step) (j + step)

/-- The number of integers from one to another, or zero. -/
def count (first last : Int64) : Nat := (last.toInt - first.toInt + 1).toNat

/-- Puts an item at the end of a list, or before another one. -/
def insert (args : Arguments) : Action (List Value) := do
  let _ ← args.table 1
  let t := args.value 1
  let after := (← lengthOf t) + 1
  match args.values.length with
  | 2 =>
    setItem t after (args.value 2)
    return []
  | 3 =>
    let pos ← args.int 2
    if (pos - 1).toUInt64 < after.toUInt64 then
      copy t t (-1) (count (pos + 1) after) (after - 1) after
      setItem t pos (args.value 3)
      return []
    else args.bad 2 "position out of bounds"
  | _ => complain "wrong number of arguments to 'insert'"

/-- Takes an item out of a list. -/
def remove (args : Arguments) : Action (List Value) := do
  let _ ← args.table 1
  let t := args.value 1
  let size ← lengthOf t
  let pos ← args.intOr 2 size
  if pos != size && !((pos - 1).toUInt64 ≤ size.toUInt64) then
    args.bad 2 "position out of bounds"
  else
    let result ← item t pos
    copy t t 1 (count (pos + 1) size) (pos + 1) pos
    setItem t (if pos < size then size else pos) .nil
    return [result]

/-- The table that a part of a list is copied to. -/
def destination (args : Arguments) : Action Value := do
  if args.isAbsent 5 then return args.value 1
  else
    let _ ← args.table 5
    return args.value 5

/-- Copies a part of a list. -/
def move (args : Arguments) : Action (List Value) := do
  let first ← args.int 2
  let last ← args.int 3
  let start ← args.int 4
  let _ ← args.table 1
  let target ← destination args
  if last ≥ first then
    let n := count first last
    if !(first > 0 || last < Int64.maxValue + first) then
      args.bad 3 "too many elements to move"
    else if start.toInt > 0x8000000000000000 - 1 - (n : Int) + 1 then args.bad 4 "destination wrap around"
    else
      let source := args.value 1
      let isOther ← if args.isAbsent 5 then pure false else (! ·) <$> Value.equals source target
      if start > last || start ≤ first || isOther then copy source target 1 n first start
      else copy source target (-1) n last (start + (last - first))
      return [target]
  else return [target]

/-- Puts `n` items together, from a position on, with a separator after each but the last. -/
def join (t : Value) (separator : Bytes) : Nat → Int64 → Bytes → Action Bytes
  | 0, _, out => .done out
  | n + 1, i, out => do
    match (← item t i).toBytes? with
    | some b =>
      let out := out ++ b
      if out.size > Value.maxStringSize then Value.exhausted
      else join t separator n (i + 1) (if n = 0 then out else out ++ separator)
    | none => complain s!"invalid value (at index {i.toInt}) in table for 'concat'"

/-- The items of a list put together. -/
def concat (args : Arguments) : Action (List Value) := do
  let _ ← args.table 1
  let t := args.value 1
  let size ← lengthOf t
  let separator ← args.bytesOr 2 ByteArray.empty
  let first ← args.intOr 3 1
  let last ← args.intOr 4 size
  return [.string (← join t separator (count first last) first ByteArray.empty)]

/-- Gives the keys from `n` down to 1 the values of a list that starts with the last. -/
def fill (t : TableRef) : Nat → List Value → Action Unit
  | _, [] => .done ()
  | n, v :: rest => do
    set t (.integer (Int64.ofNat n)) v
    fill t (n - 1) rest

/-- The name under which a packed table has its length. -/
def lengthKey : Key := .ofText "n"

/-- A table of the arguments and their number. -/
def pack (args : Arguments) : Action (List Value) := do
  let n := args.values.length
  let t ← request (.create n 1)
  fill t n args.values.reverse
  set t lengthKey (.integer (Int64.ofNat n))
  return [.table t]

/-- The greatest number of results. -/
def maxResults : Nat := 1000000

/-- `n` items from a position on, before those in `out`. -/
def items (t : Value) : Nat → Int64 → List Value → Action (List Value)
  | 0, _, out => .done out.reverse
  | n + 1, i, out => do items t n (i + 1) ((← item t i) :: out)

/-- The items of a list as results. -/
def unpack (args : Arguments) : Action (List Value) := do
  let t := args.value 1
  let first ← args.intOr 2 1
  let last ← if args.isAbsent 3 then lengthOf t else args.int 3
  if first > last then return []
  else if count first last ≥ maxResults then complain "too many results to unpack"
  else items t (count first last) first []

/-- Whether one item is to stand before another. -/
def before (order : Value) (a b : Value) : Action Bool :=
  if order.isNil then Value.less a b else do return (← call1 order [a, b]).truthy

/-- The item at a position of a list to sort. -/
def itemAt (t : Value) (i : Nat) : Action Value := item t (Int64.ofNat i)

/-- Gives two positions of a list to sort their items. -/
def setTwo (t : Value) (i : Nat) (v : Value) (j : Nat) (w : Value) : Action Unit := do
  setItem t (Int64.ofNat i) v
  setItem t (Int64.ofNat j) w

/-- Fails because the order function contradicts itself. -/
def invalidOrder {α : Type} : Action α := complain "invalid order function for sorting"

/-- The first position after `i`, among `fuel`, whose item is not before the pivot, with its item.
The pivot itself stands at `stop`. -/
def scanUp (t order pivot : Value) (stop : Nat) : Nat → Nat → Action (Nat × Value)
  | 0, _ => invalidOrder
  | fuel + 1, i => do
    let v ← itemAt t (i + 1)
    if ← before order v pivot then
      if i + 1 = stop then invalidOrder else scanUp t order pivot stop fuel (i + 1)
    else return (i + 1, v)

/-- The first position before `j`, among `fuel`, whose item the pivot is not before, with its
item. -/
def scanDown (t order pivot : Value) (i : Nat) : Nat → Nat → Action (Nat × Value)
  | 0, _ => invalidOrder
  | fuel + 1, j => do
    let v ← itemAt t (j - 1)
    if ← before order pivot v then
      if j - 1 < i then invalidOrder else scanDown t order pivot i fuel (j - 1)
    else return (j - 1, v)

/-- Parts the items between `i` and `j` around the pivot, which stands at `up - 1`: the position
where the pivot ends. -/
def part (t order pivot : Value) (up : Nat) : Nat → Nat → Nat → Action Nat
  | 0, _, _ => invalidOrder
  | fuel + 1, i, j => do
    let (i, v) ← scanUp t order pivot (up - 1) (up + 1) i
    let (j, w) ← scanDown t order pivot i (up + 1) j
    if j < i then
      setTwo t (up - 1) v i pivot
      return i
    else
      setTwo t i w j v
      part t order pivot up fuel i j

/-- Exchanges two items when the later one is to stand before the earlier one. -/
def settle (t order : Value) (i j : Nat) : Action Unit := do
  let a ← itemAt t i
  let b ← itemAt t j
  if ← before order b a then setTwo t i b j a

/-- Sorts the items between two positions, ends included, at most `fuel` of them. -/
def sortBetween (t order : Value) : Nat → Nat → Nat → Action Unit
  | 0, _, _ => .done ()
  | fuel + 1, low, up => do
    if up ≤ low then return ()
    else
      settle t order low up
      if up - low = 1 then return ()
      else
        let mid := (low + up) / 2
        let a ← itemAt t mid
        let b ← itemAt t low
        if ← before order a b then setTwo t mid b low a
        else
          let c ← itemAt t up
          if ← before order c a then setTwo t mid c up a
        if up - low = 2 then return ()
        else
          let pivot ← itemAt t mid
          let last ← itemAt t (up - 1)
          setTwo t mid last (up - 1) pivot
          let p ← part t order pivot up (up + 1) low (up - 1)
          if p - low < up - p then
            sortBetween t order fuel low (p - 1)
            sortBetween t order fuel (p + 1) up
          else
            sortBetween t order fuel (p + 1) up
            sortBetween t order fuel low (p - 1)

/-- Sorts a list in place. -/
def sort (args : Arguments) : Action (List Value) := do
  let _ ← args.table 1
  let t := args.value 1
  let n ← lengthOf t
  if n > 1 then
    if n ≥ 2147483647 then args.bad 1 "array too big"
    else
      let order := args.value 2
      if !order.isNil && !order.isFunction then args.mismatch 2 "function"
      else
        sortBetween t order n.toUInt64.toNat 1 n.toUInt64.toNat
        return []
  else return []

end Tables

/-- What a table function does. -/
def TableFunction.run (f : TableFunction) (values : List Value) : Action (List Value) :=
  let args : Arguments := ⟨f.name, values⟩
  match f with
  | .concat => Tables.concat args
  | .insert => Tables.insert args
  | .move => Tables.move args
  | .pack => Tables.pack args
  | .remove => Tables.remove args
  | .sort => Tables.sort args
  | .unpack => Tables.unpack args

end TableSeed.Lua
