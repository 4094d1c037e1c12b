import TableSeed.Expression.Sandbox
import TableSeed.Expression.SelfReference

/-!
# Evaluating expressions

An expression is a chunk whose first value becomes JSON. An expression that fails is left as it
stands in the document, and the log says why.
-/

namespace TableSeed

open Lua (Heap TableRef)

/-- Why an expression has no value. -/
inductive EvaluationError where
  | chunk (e : ChunkError)
  | conversion (e : ConversionError)
  deriving DecidableEq

namespace ChunkError

/-- The message of the error, where the language's own errors have a wording of their own. -/
def message (own : String → String) : ChunkError → String
  | .source line fault => own s!"{line}: {fault.message}"
  | .raised text => own text
  | .instructionLimit limit => (Lua.Failure.instructionLimit limit).message
  | .aborted => own "aborted"

end ChunkError

namespace EvaluationError

/-- The message of the error, where the language's own errors have a wording of their own. -/
def message (own : String → String) : EvaluationError → String
  | .chunk e => s!"expression failed: {e.message own}"
  | .conversion e =>
    let reason := e.message (own "invalid utf-8 sequence")
    s!"expression result not representable: {reason}"

end EvaluationError

/-- A helper could not go on, and the whole run ends. -/
inductive Abort where
  | aborted
  deriving DecidableEq

namespace Sandbox

/-- The name of an expression's chunk in messages. -/
def expressionChunk : String := "[string \"expression\"]"

/-- The answer that the result of a chunk is, on the heap that it refers to. -/
def answer (h : Heap) : Except ChunkError Lua.Value → Except EvaluationError Json.Value
  | .error e => .error (.chunk e)
  | .ok v =>
    match Conversion.toJson h v with
    | .ok v => .ok v
    | .error .aborted => .error (.chunk .aborted)
    | .error e => .error (.conversion e)

/-- The value of an expression, in which `this` is the given record. -/
def evaluate (s : Sandbox) (source : String) (this : Option TableRef) :
    Except EvaluationError Json.Value × Sandbox :=
  let mark := Mark.of s.world.heap
  let (env, s) := s.environment this
  let ended := s.run (SelfReference.rewrite source) expressionChunk env
  (answer ended.2.world.heap ended.1, ended.2.mapHeap (release mark))

/-- Writes to the log. -/
def note (s : Sandbox) (level : LogLevel) (text : String) : Sandbox :=
  { s with world := { s.world with log := s.world.log.write level text } }

/-- What the log says of an expression that is kept, up to the reason. -/
def keptText (text : String) : String := s!"Keeping expression '{text}' unevaluated:"

/-- The value of an expression, or its text with the mark when it has none. -/
def evaluateOrKeep (s : Sandbox) (source text : String) (this : Option TableRef) :
    Except Abort Json.Value × Sandbox :=
  match s.evaluate source this with
  | (.ok v, s) => (.ok v, s)
  | (.error (.chunk .aborted), s) => (.error .aborted, s)
  | (.error e, s) =>
    (.ok (.string text), s.note .debug s!"{keptText text} {e.message id}")

end Sandbox

end TableSeed
