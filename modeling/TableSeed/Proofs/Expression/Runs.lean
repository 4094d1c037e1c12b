import TableSeed.Expression.Evaluation
import TableSeed.Proofs.Lua.Steps

/-!
# Evaluations as runs

The value of an expression is the answer of one run of a machine, after which the sandbox goes on
with the machine's world and with the interval that its meter has begun.
-/

namespace TableSeed

open Lua (Heap Machine Meter FunctionBody TableRef)

namespace Sandbox

variable (s : Sandbox)

/-- The machine that is to evaluate a compiled expression. -/
def evaluation (body : FunctionBody) (this : Option TableRef) : Machine :=
  (s.environment this).2.machine body expressionChunk (s.environment this).1

/-- The sandbox after a machine has run in it. -/
def resumed (m : Machine) : Sandbox :=
  { s with
    world := m.world.mapHeap (release (Mark.of s.world.heap))
    intervalLeft := m.meter.left }

/-- The log after a run is that of the machine. -/
@[simp] theorem log_resumed (m : Machine) : (s.resumed m).world.log = m.world.log := rfl

/-- The random numbers after a run are those of the machine. -/
@[simp] theorem entropy_resumed (m : Machine) : (s.resumed m).world.entropy = m.world.entropy := rfl

/-- The next chunk goes on with the interval that the machine has left. -/
@[simp] theorem intervalLeft_resumed (m : Machine) : (s.resumed m).intervalLeft = m.meter.left := rfl

/-- A machine starts with the interval that the sandbox goes on with, and with its limit. -/
@[simp] theorem meter_machine (body : FunctionBody) (chunk : String) (env : TableRef) :
    (s.machine body chunk env).meter = .start s.intervalLeft s.instructionLimit := rfl

/-- An evaluation starts with the interval that the sandbox goes on with, and with its limit. -/
@[simp] theorem meter_evaluation (body : FunctionBody) (this : Option TableRef) :
    (s.evaluation body this).meter = .start s.intervalLeft s.instructionLimit := rfl

variable {s}

/-- A source that is Lua is run by its machine. -/
theorem run_of_compile {source : String} {body : FunctionBody} (compiled : compile source = .ok body)
    (chunk : String) (env : TableRef) :
    s.run source chunk env =
      (result ((s.machine body chunk env).run maxSteps).1,
        { s with
          world := ((s.machine body chunk env).run maxSteps).2.world
          intervalLeft := ((s.machine body chunk env).run maxSteps).2.meter.left }) := by
  rw [run, compiled]

/-- What is left of the interval after a run is what its machine has left. -/
theorem intervalLeft_run_of_compile {source : String} {body : FunctionBody}
    (compiled : compile source = .ok body) (chunk : String) (env : TableRef) :
    (s.run source chunk env).2.intervalLeft =
      ((s.machine body chunk env).run maxSteps).2.meter.left := by
  have ran := run_of_compile (s := s) compiled chunk env
  generalize (s.machine body chunk env).run maxSteps = ended at ran ⊢
  rw [ran]

/-- The body of a source that is Lua. -/
def bodyOf (source : String) : FunctionBody :=
  (compile (SelfReference.rewrite source)).toOption.getD default

/-- A source that is Lua has its body. -/
theorem compile_bodyOf {source : String}
    (isLua : (compile (SelfReference.rewrite source)).toOption.isSome = true) :
    compile (SelfReference.rewrite source) = .ok (bodyOf source) := by
  rw [bodyOf]
  generalize compile (SelfReference.rewrite source) = compiled at isLua ⊢
  cases compiled with
  | error e => cases isLua
  | ok body => rfl

/-- An expression that is Lua is evaluated by a run of its machine. -/
theorem evaluate_of_compile {source : String} {body : FunctionBody}
    (compiled : compile (SelfReference.rewrite source) = .ok body) (this : Option TableRef) :
    s.evaluate source this =
      (answer ((s.evaluation body this).run maxSteps).2.world.heap
          (result ((s.evaluation body this).run maxSteps).1),
        s.resumed ((s.evaluation body this).run maxSteps).2) := by
  have run := run_of_compile (s := (s.environment this).2) compiled expressionChunk
    (s.environment this).1
  rw [evaluate]
  dsimp only
  rw [run]
  rfl

/-- The value of a source that is Lua is the answer of its machine. -/
theorem evaluate_fst_of_compile {source : String} {body : FunctionBody}
    (compiled : compile (SelfReference.rewrite source) = .ok body) (this : Option TableRef) :
    (s.evaluate source this).1 =
      answer ((s.evaluation body this).run maxSteps).2.world.heap
        (result ((s.evaluation body this).run maxSteps).1) := by
  have evaluated := evaluate_of_compile (s := s) compiled this
  generalize (s.evaluation body this).run maxSteps = ended at evaluated ⊢
  rw [evaluated]

/-- The sandbox goes on with what the last step leaves. -/
theorem evaluate_snd_of_compile {source : String} {body : FunctionBody}
    (compiled : compile (SelfReference.rewrite source) = .ok body) (this : Option TableRef) :
    (s.evaluate source this).2 = s.resumed ((s.evaluation body this).after maxSteps) := by
  have evaluated := evaluate_of_compile (s := s) compiled this
  rw [← Machine.run_snd]
  generalize (s.evaluation body this).run maxSteps = ended at evaluated ⊢
  rw [evaluated]

/-- An expression that is not Lua changes nothing but what its environment was made of. -/
theorem evaluate_of_fault {source : String} {line : Nat} {fault : Lua.SourceFault}
    (compiled : compile (SelfReference.rewrite source) = .error (line, fault))
    (this : Option TableRef) :
    s.evaluate source this =
      (.error (.chunk (.source line fault)),
        (s.environment this).2.mapHeap (release (Mark.of s.world.heap))) := by
  have unrun : (s.environment this).2.run (SelfReference.rewrite source) expressionChunk
      (s.environment this).1 = (.error (.source line fault), (s.environment this).2) := by
    rw [run, compiled]
  rw [evaluate]
  dsimp only
  rw [unrun]
  rfl

end Sandbox

end TableSeed
