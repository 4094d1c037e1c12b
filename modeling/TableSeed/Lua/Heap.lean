import TableSeed.Log
import TableSeed.Lua.Action
import TableSeed.Lua.Syntax
import TableSeed.Lua.Table

/-!
# The heap

Tables, variables and closures are kept in arrays and never move; a reference is a position. The
world is the heap with what else a program can reach: the log, the clock and the random numbers.
`World.perform` runs an action up to the first call that it makes.
-/

namespace TableSeed.Lua

/-- A function with the variables that it sees, innermost first. -/
structure Closure where
  body : FunctionBody
  vars : List CellRef
  /-- The name of the chunk that the function comes from, as messages show it. -/
  chunk : String
  deriving Inhabited

/-- All objects that values refer to. -/
structure Heap where
  tables : Array Table := #[]
  cells : Array Value := #[]
  closures : Array Closure := #[]
  /-- The table that holds the methods of strings. -/
  methods : TableRef := ⟨0⟩

instance : Inhabited Table := ⟨{}⟩

namespace Heap

/-- A table of the heap. -/
@[inline] def table (h : Heap) (r : TableRef) : Table := h.tables.getD r.index {}

/-- The value of a variable. -/
@[inline] def cell (h : Heap) (r : CellRef) : Value := h.cells.getD r.index .nil

/-- A closure of the heap. -/
@[inline] def closure (h : Heap) (r : ClosureRef) : Closure := h.closures.getD r.index default

/-- Changes a table. -/
@[inline] def modifyTable (h : Heap) (r : TableRef) (f : Table → Table) : Heap :=
  { h with tables := h.tables.modify r.index f }

/-- Gives a variable a value. -/
@[inline] def setCell (h : Heap) (r : CellRef) (v : Value) : Heap :=
  { h with cells := h.cells.setIfInBounds r.index v }

/-- Adds a table. -/
@[inline] def newTable (h : Heap) (t : Table) : TableRef × Heap :=
  let r : TableRef := ⟨h.tables.size⟩
  (r, { h with tables := h.tables.push t })

/-- Adds a variable. -/
@[inline] def newCell (h : Heap) (v : Value) : CellRef × Heap :=
  let r : CellRef := ⟨h.cells.size⟩
  (r, { h with cells := h.cells.push v })

/-- Adds variables, and puts them in front of others with the last one first. -/
def newCells (h : Heap) (vars : List CellRef) : List Value → List CellRef × Heap
  | [] => (vars, h)
  | v :: rest =>
    let (r, h) := h.newCell v
    newCells h (r :: vars) rest

/-- Adds a closure. -/
@[inline] def newClosure (h : Heap) (c : Closure) : ClosureRef × Heap :=
  let r : ClosureRef := ⟨h.closures.size⟩
  (r, { h with closures := h.closures.push c })

/-- Gives a key of a table a value. -/
@[inline] def set (h : Heap) (t : TableRef) (k : Key) (v : Value) : Heap :=
  h.modifyTable t fun t => t.set k v

/-- The field of a value's metatable, or nil. -/
def metafield (h : Heap) (v : Value) (k : Key) : Value :=
  match v with
  | .table r =>
    match (h.table r).metatable with
    | some m => (h.table m).get k
    | none => .nil
  | _ => .nil

end Heap

/-- What a program can reach. -/
structure World where
  heap : Heap
  log : Log := []
  /-- The time, in seconds since 1970. -/
  now : Int := 0
  /-- The state of the random numbers. -/
  entropy : UInt64 := 0

namespace World

/-- Scrambles the state of the random numbers. -/
def scramble (z : UInt64) : UInt64 :=
  let z := (z ^^^ (z >>> 30)) * 0xBF58476D1CE4E5B9
  let z := (z ^^^ (z >>> 27)) * 0x94D049BB133111EB
  z ^^^ (z >>> 31)

/-- The next random number. -/
def draw (w : World) : UInt64 × World :=
  let state := w.entropy + 0x9E3779B97F4A7C15
  (scramble state, { w with entropy := state })

/-- Changes the heap. -/
@[inline] def mapHeap (w : World) (f : Heap → Heap) : World := { w with heap := f w.heap }

end World

/-- How far an action has come. -/
inductive Progress (α : Type) where
  | done (a : α)
  | failed (fault : Fault)
  | calling (f : Value) (args : List Value) (next : List Value → Action α)
  | attempting (f : Value) (args : List Value) (handler : Option Value)
      (next : Bool × List Value → Action α)
  | locating (level : Nat) (next : String → Action α)

namespace World

/-- Runs an action until it ends or asks for something that is not of the world. -/
def perform {α : Type} : Action α → World → Progress α × World
  | .done a, w => (.done a, w)
  | .fail fault, w => (.failed fault, w)
  | .ask (.get t k) next, w => perform (next ((w.heap.table t).get k)) w
  | .ask (.set t k v) next, w => perform (next ()) (w.mapHeap (·.set t k v))
  | .ask (.border t) next, w => perform (next (w.heap.table t).border) w
  | .ask (.next t k) next, w => perform (next ((w.heap.table t).next k)) w
  | .ask (.create items entries) next, w =>
    let { heap, log, now, entropy } := w
    let (r, heap) := heap.newTable (.withRoom items entries)
    perform (next r) { heap, log, now, entropy }
  | .ask (.metatable t) next, w => perform (next (w.heap.table t).metatable) w
  | .ask (.setMetatable t m) next, w =>
    perform (next ()) (w.mapHeap (·.modifyTable t fun t => { t with metatable := m }))
  | .ask (.method k) next, w => perform (next ((w.heap.table w.heap.methods).get k)) w
  | .ask (.call f args) next, w => (.calling f args next, w)
  | .ask (.attempt f args handler) next, w => (.attempting f args handler next, w)
  | .ask (.position level) next, w => (.locating level next, w)
  | .ask (.note warning text) next, w =>
    let level := if warning then LogLevel.warn else LogLevel.info
    perform (next ()) { w with log := w.log.write level ("[lua] " ++ text) }
  | .ask .clock next, w => perform (next w.now) w
  | .ask .entropy next, w =>
    let (n, w) := w.draw
    perform (next n) w
  | .ask (.reseed n) next, w => perform (next ()) { w with entropy := n }

end World

end TableSeed.Lua
