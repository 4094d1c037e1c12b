import TableSeed.Json.Tree

/-!
# Reading JSON values

A value nests less than 128 containers. A repeated member keeps its first place and takes its
last value. Blanks may follow the value and nothing else.
-/

namespace TableSeed.Json

/-- How many containers may enclose one another, plus one. -/
def maxNesting : Nat := 128

namespace Tree

/-- A text that must have content. -/
def readText : Option String → Except Fault String
  | some s => .ok s
  | none => .error .malformed

/-- The stop of a container met by a reader that wants its value. -/
def readStop : Option Stop → Except Fault Unit
  | none => .ok ()
  | some stop => .error stop.read

mutual

/-- The value of a tree inside which less than `room` containers may nest. -/
def read (room : Nat) : Tree → Except Fault Value
  | .null => .ok .null
  | .bool b => .ok (.bool b)
  | .number n => do return .number (← n.toNumber)
  | .text s => do return .string (← readText s)
  | .array items stop => do
    if room ≤ 1 then throw .malformed
    let vs ← readItems (room - 1) items
    readStop stop
    return .array vs
  | .object members stop => do
    if room ≤ 1 then throw .malformed
    let ms ← readMembers (room - 1) members
    readStop stop
    return .object (Members.ofList ms)
  | .stopped stop => .error stop.read

/-- The values of items, in order. -/
def readItems (room : Nat) : List Tree → Except Fault (List Value)
  | [] => .ok []
  | t :: rest => do
    let v ← read room t
    return v :: (← readItems room rest)

/-- The members as written, in order. -/
def readMembers (room : Nat) : List (Option String × Tree) → Except Fault (List (String × Value))
  | [] => .ok []
  | (name, t) :: rest => do
    let name ← readText name
    let v ← read room t
    return (name, v) :: (← readMembers room rest)

end

end Tree

namespace Value

/-- The value that a text holds. -/
def parse (text : String) : Except Fault Value := do
  let (tree, excess) := Tree.ofText text
  let v ← tree.read maxNesting
  if excess then throw .malformed
  return v

end Value

end TableSeed.Json
