import TableSeed.Expression.Conversion
import TableSeed.Lua.Machine
import TableSeed.Lua.Parser

/-!
# The sandbox

A sandbox holds the safe functions and the values that a run has bound to names. Every chunk sees
them through an environment of its own, in which each table is a copy, so what a chunk assigns
there is gone with it. A name is bound once. What a chunk has made is dropped after it, unless
something older has come to refer to it.
-/

namespace TableSeed

open Lua (Heap World TableRef CellRef ClosureRef Machine Meter Failure SourceFault FunctionBody Key)

/-- Why a chunk has no value. -/
inductive ChunkError where
  /-- The source is not Lua. -/
  | source (line : Nat) (fault : SourceFault)
  /-- The chunk raised an error, with this text. -/
  | raised (text : String)
  /-- The chunk used up its instructions. -/
  | instructionLimit (limit : Nat)
  /-- A helper could not go on, which ends the whole run. -/
  | aborted
  deriving DecidableEq

/-- A sandbox. -/
structure Sandbox where
  world : World
  /-- The table of the safe functions. -/
  globals : TableRef
  /-- The table of the bound values. -/
  bindings : TableRef
  /-- The bound names, in the order in which they were bound. -/
  aliases : List String := []
  /-- The number of instructions that a chunk may use. -/
  instructionLimit : Nat := 100000000
  /-- The instructions left in the interval that the next chunk goes on with. -/
  intervalLeft : Nat := Meter.interval

namespace Sandbox

/-- A new table with the given entries. -/
def tableOf (h : Heap) (entries : List (String × Lua.Value)) : TableRef × Heap :=
  let (r, h) := h.newTable {}
  (r, entries.foldl (fun h e => h.set r (.ofText e.1) e.2) h)

/-- The string library. -/
def stringEntries : List (String × Lua.Value) :=
  Lua.StringFunction.all.map fun f => (f.name, .builtin (.string f))

/-- The table library. -/
def tableEntries : List (String × Lua.Value) :=
  Lua.TableFunction.all.map fun f => (f.name, .builtin (.table f))

/-- The mathematical library. -/
def mathEntries : List (String × Lua.Value) :=
  Lua.MathFunction.all.map (fun f => (f.name, .builtin (.math f))) ++
    [("pi", .float Lua.Mathematics.pi), ("huge", .float Binary64.infinity),
     ("maxinteger", .integer Int64.maxValue), ("mininteger", .integer Int64.minValue)]

/-- The UTF-8 library. -/
def utf8Entries : List (String × Lua.Value) :=
  Lua.Utf8Function.all.map (fun f => (f.name, .builtin (.utf8 f))) ++
    [("charpattern", .string Lua.Utf8Text.charPattern)]

/-- The helper library. -/
def helperEntries : List (String × Lua.Value) :=
  Lua.HelperFunction.all.map fun f => (f.name, .builtin (.helper f))

/-- The basic functions and the libraries. -/
def globalEntries (strings tables math utf8 : TableRef) : List (String × Lua.Value) :=
  Lua.BaseFunction.all.map (fun f => (f.name, .builtin (.base f))) ++
    [("_VERSION", .ofText "Lua 5.4"), ("string", .table strings), ("table", .table tables),
     ("math", .table math), ("utf8", .table utf8)]

/-- A sandbox in which nothing is bound, at a time and with a seed for random numbers. -/
def create (now : Int) (seed : UInt64) : Sandbox :=
  let (strings, h) := tableOf {} stringEntries
  let (tables, h) := tableOf h tableEntries
  let (math, h) := tableOf h mathEntries
  let (utf8, h) := tableOf h utf8Entries
  let (globals, h) := tableOf h (globalEntries strings tables math utf8)
  let (bindings, h) := tableOf h []
  { world := { heap := { h with methods := strings }, now, entropy := seed }, globals, bindings }

/-- Whether a name is bound. -/
def contains (s : Sandbox) (name : String) : Bool := s.aliases.contains name

/-- Changes the heap. -/
def mapHeap (s : Sandbox) (f : Heap → Heap) : Sandbox := { s with world := s.world.mapHeap f }

/-- Binds a value to a name, unless the name is taken: the sandbox, and whether it was bound. -/
def bind (s : Sandbox) (name : String) (v : Lua.Value) : Sandbox × Bool :=
  if s.contains name then (s, false)
  else
    let s := s.mapHeap (·.set s.bindings (.ofText name) v)
    ({ s with aliases := s.aliases ++ [name] }, true)

/-- Binds a JSON value to a name, unless the name is taken. -/
def bindJson (s : Sandbox) (name : String) (v : Json.Value) : Sandbox × Bool :=
  if s.contains name then (s, false)
  else
    let (v, heap) := Conversion.ofJson s.world.heap v
    ({ s with world := { s.world with heap } } : Sandbox).bind name v

/-- The value under a bound name, as JSON. -/
def bindingJson (s : Sandbox) (name : String) : Option (Except ConversionError Json.Value) :=
  if s.contains name then
    some (Conversion.toJson s.world.heap ((s.world.heap.table s.bindings).getText name))
  else none

/-- A copy of a table, with the same metatable. -/
def copyTable (h : Heap) (r : TableRef) : TableRef × Heap :=
  let t := h.table r
  let copy : Lua.Table := t.entries.foldl (fun copy e => copy.set e.1 e.2) {}
  h.newTable { copy with metatable := t.metatable }

/-- A value for an environment: a table is copied. -/
def isolate (h : Heap) : Lua.Value → Lua.Value × Heap
  | .table r =>
    let (r, h) := copyTable h r
    (.table r, h)
  | v => (v, h)

/-- Puts the entries of a table, isolated, into an environment. -/
def addEntries (h : Heap) (env : TableRef) (source : TableRef) : Heap :=
  (h.table source).entries.foldl (fun h e =>
    let (v, h) := isolate h e.2
    h.set env e.1 v) h

/-- The name under which an environment has the record that an expression stands in. -/
def recordName : String := "_this"

/-- A fresh environment: the safe functions, then the bound values over them, then the record. -/
def environment (s : Sandbox) (this : Option TableRef) : TableRef × Sandbox :=
  let (env, h) := s.world.heap.newTable {}
  let h := addEntries h env s.globals
  let h := addEntries h env s.bindings
  let h := match this with
    | some r =>
      let (copy, h) := copyTable h r
      h.set env (.ofText recordName) (.table copy)
    | none => h
  (env, { s with world := { s.world with heap := h } })

/-- The most steps that a chunk is followed. -/
def maxSteps : Nat := 0x1000000000000000

/-- A source as an expression, or else as statements. -/
def compile (source : String) : Except (Nat × SourceFault) FunctionBody :=
  match FunctionBody.parse ("return ".toList ++ source.toList) with
  | .ok body => .ok body
  | .error _ => FunctionBody.parse source.toList

/-- The text of an error value. -/
def errorText (v : Lua.Value) : String :=
  match Bytes.toText? v.plainText with
  | some s => s
  | none => "error value is no text"

/-- What an outcome is to the one who runs the chunk: its first value, or its error. -/
def result : Machine.Outcome → Except ChunkError Lua.Value
  | .values vs => if (vs.headD .nil).isAborted then .error .aborted else .ok (vs.headD .nil)
  | .error (.failure .aborted) => .error .aborted
  | .error (.failure (.instructionLimit limit)) => .error (.instructionLimit limit)
  | .error v => .error (.raised (errorText v))
  | .unfinished => .error (.raised "unfinished")

/-- The machine that is to run a compiled source in an environment, on a fresh count of intervals.
The chunk's name is shown in messages. -/
def machine (s : Sandbox) (body : FunctionBody) (chunk : String) (env : TableRef) : Machine :=
  let (cell, heap) := s.world.heap.newCell (.table env)
  let (closure, heap) := heap.newClosure ⟨body, [cell], chunk⟩
  { control := .apply (.closure closure) [] .native, world := { s.world with heap },
    meter := .start s.intervalLeft s.instructionLimit }

/-- Runs a source in an environment. -/
def run (s : Sandbox) (source chunk : String) (env : TableRef) :
    Except ChunkError Lua.Value × Sandbox :=
  match compile source with
  | .error (line, fault) => (.error (.source line fault), s)
  | .ok body =>
    let ended := (s.machine body chunk env).run maxSteps
    (result ended.1, { s with world := ended.2.world, intervalLeft := ended.2.meter.left })

/-- How many objects of each kind a heap has. -/
structure Mark where
  tables : Nat
  cells : Nat
  closures : Nat

/-- The mark of a heap. -/
def Mark.of (h : Heap) : Mark := ⟨h.tables.size, h.cells.size, h.closures.size⟩

/-- Whether a value refers to nothing that was made after the mark. -/
def Mark.covers (m : Mark) : Lua.Value → Bool
  | .table r => r.index < m.tables
  | .closure r => r.index < m.closures
  | .builtin (.gmatchStep state) => state < m.tables
  | _ => true

/-- Whether a table refers to nothing that was made after the mark. -/
def Mark.coversTable (m : Mark) (t : Lua.Table) : Bool :=
  t.metatable.all (fun r => r.index < m.tables) && t.array.all m.covers &&
    t.hash.foldl (fun all k v => all && m.covers k.toValue && m.covers v) true

/-- Whether nothing made before the mark refers to something made after it. -/
def Mark.seals (m : Mark) (h : Heap) : Bool :=
  (h.tables.all m.coversTable 0 m.tables) && (h.cells.all m.covers 0 m.cells) &&
    (h.closures.all (fun c => c.vars.all fun r => r.index < m.cells) 0 m.closures)

/-- Drops what was made after the mark, unless something made before refers to it. -/
def release (m : Mark) (h : Heap) : Heap :=
  if m.seals h then
    { h with
      tables := h.tables.shrink m.tables
      cells := h.cells.shrink m.cells
      closures := h.closures.shrink m.closures }
  else h

end Sandbox

end TableSeed
