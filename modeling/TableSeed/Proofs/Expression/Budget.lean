import TableSeed.Proofs.Expression.Runs
import TableSeed.Proofs.Lua.Loops

/-!
# The instruction limit

The limit of a sandbox is met by every chunk alike: a chunk that stays within its intervals never
fails for it, and the instructions that are too many are known from the count alone. They raise an
ordinary error, so they end the chunk unless something on the stack catches errors.
-/

namespace TableSeed

open Lua (Machine Meter Frame FunctionBody TableRef)

namespace Lua.Machine

/-- Steps that count a number of instructions count each of them on the way. -/
theorem exists_counted (m : Machine) {n : Nat} (positive : 0 < n) (k : Nat) (reached : n ≤ m.counted k) :
    ∃ j < k, (m.after j).control.isCounted = true ∧ m.counted (j + 1) = n := by
  induction k with
  | zero => exact absurd reached (by simp only [counted]; omega)
  | succ k ih =>
    by_cases before : n ≤ m.counted k
    · obtain ⟨j, less, found⟩ := ih before
      exact ⟨j, Nat.lt_succ_of_lt less, found⟩
    · rw [counted] at reached
      split_ifs at reached with isCounted
      · refine ⟨k, Nat.lt_succ_self k, isCounted, ?_⟩
        rw [counted, if_pos isCounted]
        omega
      · omega

end Lua.Machine

namespace Sandbox

/-- How the instruction limit governs the run of a compiled source in an environment. -/
structure Governs (s : Sandbox) (source chunk : String) (env : TableRef) (body : FunctionBody) :
    Prop where
  /-- An instruction is one too many if it ends an interval beyond those that the limit allows. The
  chunks before show only in where the first interval ends. -/
  overruns_iff : ∀ k, ((s.machine body chunk env).after k).Overruns ↔
    ((s.machine body chunk env).after k).control.isCounted = true ∧
      ∃ j, Meter.ticksFor s.instructionLimit ≤ j ∧
        (s.machine body chunk env).counted (k + 1) = max 1 s.intervalLeft + j * Meter.interval
  /-- No instruction is too many within the intervals that the limit allows. -/
  within : ∀ k, ((s.machine body chunk env).after k).Overruns →
    Meter.ticksFor s.instructionLimit * Meter.interval < (s.machine body chunk env).counted (k + 1)
  /-- One of the instructions of as many intervals and one more is too many. -/
  beyond : s.intervalLeft ≤ Meter.interval → ∀ k,
    (Meter.ticksFor s.instructionLimit + 1) * Meter.interval ≤
      (s.machine body chunk env).counted k →
    ∃ j < k, ((s.machine body chunk env).after j).Overruns
  /-- An instruction too many ends the chunk with its own error, unless a frame catches errors. -/
  ended : ∀ k, compile source = .ok body → ((s.machine body chunk env).after k).Overruns →
    (∀ frame ∈ ((s.machine body chunk env).after k).stack, frame.catches = false) →
    k + 1 + ((s.machine body chunk env).after k).stack.length < maxSteps →
    (s.run source chunk env).1 =
      .error (.instructionLimit (Meter.ticksFor s.instructionLimit * Meter.interval))
  /-- The next chunk goes on within an interval. -/
  phase : 0 < s.intervalLeft → s.intervalLeft ≤ Meter.interval →
    0 < (s.run source chunk env).2.intervalLeft ∧
      (s.run source chunk env).2.intervalLeft ≤ Meter.interval

variable {s : Sandbox}

/-- Which steps of an evaluation are one too many is known from the number of instructions before
them: those that end an interval after the limit. -/
theorem overruns_machine_iff (body : FunctionBody) (chunk : String) (env : TableRef) (k : Nat) :
    ((s.machine body chunk env).after k).Overruns ↔
      ((s.machine body chunk env).after k).control.isCounted = true ∧
        ∃ j, Meter.ticksFor s.instructionLimit ≤ j ∧
          (s.machine body chunk env).counted (k + 1) =
            max 1 s.intervalLeft + j * Meter.interval := by
  rw [Machine.overruns_after_iff, meter_machine]
  simp only [Meter.start, Nat.zero_add]

/-- An instruction too many that no frame catches gives the run its outcome. -/
theorem run_of_overruns {source chunk : String} {body : FunctionBody} {env : TableRef} {k : Nat}
    (compiled : compile source = .ok body)
    (overruns : ((s.machine body chunk env).after k).Overruns)
    (uncaught : ∀ frame ∈ ((s.machine body chunk env).after k).stack, frame.catches = false)
    (enough : k + 1 + ((s.machine body chunk env).after k).stack.length < maxSteps) :
    (s.run source chunk env).1 =
      .error (.instructionLimit (Meter.ticksFor s.instructionLimit * Meter.interval)) := by
  have allowed : ((s.machine body chunk env).after k).meter.allowed =
      Meter.ticksFor s.instructionLimit := by
    rw [Machine.meter_after, Meter.allowed_spend, meter_machine]
    rfl
  generalize reached : (s.machine body chunk env).after k = m at overruns uncaught enough allowed
  have raised := Machine.step_of_overruns overruns
  have outcome : (m.step.after m.stack.length).outcome? =
      some (.error (.failure (.instructionLimit (m.meter.allowed * Meter.interval)))) := by
    rw [raised]
    exact Machine.outcome_of_raise _ rfl uncaught
  have ended : ((s.machine body chunk env).after (k + 1 + m.stack.length)).outcome? =
      some (.error (.failure (.instructionLimit (m.meter.allowed * Meter.interval)))) := by
    rw [Machine.after_add, Machine.after, reached, outcome]
  rw [run_of_compile compiled, Machine.run_of_outcome ended enough, allowed]
  rfl

/-- Such an evaluation has no value. -/
theorem evaluate_of_overruns {source : String} {body : FunctionBody} {this : Option TableRef} {k : Nat}
    (compiled : compile (SelfReference.rewrite source) = .ok body)
    (overruns : ((s.evaluation body this).after k).Overruns)
    (uncaught : ∀ frame ∈ ((s.evaluation body this).after k).stack, frame.catches = false)
    (enough : k + 1 + ((s.evaluation body this).after k).stack.length < maxSteps) :
    (s.evaluate source this).1 =
      .error (.chunk (.instructionLimit (Meter.ticksFor s.instructionLimit * Meter.interval))) := by
  have failed : ((s.environment this).2.run (SelfReference.rewrite source) expressionChunk
      (s.environment this).1).1 =
        .error (.instructionLimit (Meter.ticksFor s.instructionLimit * Meter.interval)) :=
    run_of_overruns compiled overruns uncaught enough
  rw [evaluate]
  dsimp only
  rw [failed]
  rfl

/-- The limit governs every chunk. -/
theorem governs (s : Sandbox) (source chunk : String) (env : TableRef) (body : FunctionBody) :
    s.Governs source chunk env body := by
  refine ⟨overruns_machine_iff body chunk env, ?_, ?_,
    fun _ compiled overruns uncaught enough => run_of_overruns compiled overruns uncaught enough, ?_⟩
  · intro k overruns
    obtain ⟨-, j, many, counted⟩ := (overruns_machine_iff body chunk env k).mp overruns
    have := Nat.mul_le_mul_right Meter.interval many
    omega
  · intro started k reached
    have first : max 1 s.intervalLeft + Meter.ticksFor s.instructionLimit * Meter.interval ≤
        (s.machine body chunk env).counted k := by
      simp only [Meter.interval] at started reached ⊢
      omega
    obtain ⟨j, less, isCounted, counted⟩ :=
      (s.machine body chunk env).exists_counted (by omega) k first
    exact ⟨j, less, (overruns_machine_iff body chunk env j).mpr
      ⟨isCounted, _, Nat.le_refl _, counted⟩⟩
  · intro positive started
    cases compiled : compile source with
    | error e =>
      have unrun : s.run source chunk env = (.error (.source e.1 e.2), s) := by rw [run, compiled]
      rw [unrun]
      exact ⟨positive, started⟩
    | ok body =>
      rw [intervalLeft_run_of_compile compiled, Machine.run_snd, Machine.meter_after, meter_machine]
      exact Meter.left_spend_mem _ positive started _

/-- A sandbox whose limit allows ten intervals. -/
def limited : Sandbox := { create 0 0 with instructionLimit := 100000 }

/-- An endless loop under a function that catches its error, and then a value. -/
def caughtLoop : String := "(function() pcall(function() while true do end end) return 1 end)()"

/-- The caught loop is Lua, and its body is the one that is run. -/
theorem compile_caughtLoop :
    compile (SelfReference.rewrite caughtLoop) = .ok (bodyOf caughtLoop) :=
  compile_bodyOf (by decide +kernel)

/-- Whether a round of an endless loop comes next. -/
def startsEndlessRound : Lua.Control → Bool
  | .round (.whileTrue (.const c) []) _ => c.value.truthy
  | _ => false

/-- A round of the endless loop has a condition that holds and an empty body. -/
theorem of_startsEndlessRound {control : Lua.Control} (starts : startsEndlessRound control = true) :
    ∃ c env, c.value.truthy = true ∧ control = .round (.whileTrue (.const c) []) env := by
  unfold startsEndlessRound at starts
  split at starts
  · exact ⟨_, _, starts, rfl⟩
  · cases starts

/-- The machine at the last instruction that the limit allows. -/
theorem after_caughtLoop :
    (limited.evaluation (bodyOf caughtLoop) none).after (28 + 5 * 54995) =
        ((limited.evaluation (bodyOf caughtLoop) none).after 28).metered ⟨1, 10, 10⟩ ∧
      (limited.evaluation (bodyOf caughtLoop) none).counted (28 + 5 * 54995) = 109999 := by
  obtain ⟨starts, meter, before⟩ :
      startsEndlessRound ((limited.evaluation (bodyOf caughtLoop) none).after 28).control = true ∧
        ((limited.evaluation (bodyOf caughtLoop) none).after 28).meter = ⟨9991, 0, 10⟩ ∧
        (limited.evaluation (bodyOf caughtLoop) none).counted 28 = 9 := by
    decide +kernel
  obtain ⟨c, env, holds, looping⟩ := of_startsEndlessRound starts
  have within : ∀ i < 2 * 54995,
      (((limited.evaluation (bodyOf caughtLoop) none).after 28).meter.spend i).count.2 = none := by
    intro i less
    refine Meter.passed_spend ?_
    rw [meter]
    simp only [Meter.interval]
    omega
  obtain ⟨reached, counted⟩ := Machine.after_rounds_while holds looping 54995 within
  constructor
  · rw [Machine.after_add, reached, meter, Meter.spend_eq]
    rfl
  · rw [Machine.counted_add, before, counted]

/-- The limit is exceeded, and yet the evaluation has a value: what raised the error was called by a
function that catches it. -/
theorem exceeded_and_caught :
    (∃ body k, compile (SelfReference.rewrite caughtLoop) = .ok body ∧
      ((limited.evaluation body none).after k).Overruns ∧
      Meter.ticksFor limited.instructionLimit * Meter.interval <
        (limited.evaluation body none).counted k) ∧
    (limited.evaluate caughtLoop none).1 = .ok (.number (.ofInt64 1)) := by
  obtain ⟨reached, counted⟩ := after_caughtLoop
  have overruns : ((limited.evaluation (bodyOf caughtLoop) none).after (28 + 5 * 54995)).Overruns := by
    rw [reached, Machine.Overruns]
    decide +kernel
  have outcome : ((limited.evaluation (bodyOf caughtLoop) none).after (28 + 5 * 54995 + 10)).outcome?.bind
      (fun o => (result o).toOption) = some (.integer 1) := by
    rw [Machine.after_add, reached]
    decide +kernel
  obtain ⟨o, ended, value⟩ := Option.bind_eq_some_iff.mp outcome
  have value : result o = .ok (.integer 1) := by
    generalize result o = ran at value ⊢
    cases ran with
    | error e => cases value
    | ok v => exact congrArg _ (Option.some.inj value)
  refine ⟨⟨bodyOf caughtLoop, _, compile_caughtLoop, overruns, ?_⟩, ?_⟩
  · rw [counted]
    decide
  · rw [evaluate_of_compile compile_caughtLoop, Machine.run_of_outcome ended (by decide), value]
    rfl

end Sandbox

end TableSeed
