import TableSeed.Proofs.Lua.Independence

/-!
# Runs step by step

A run is followed through its steps. Its meter is a function of the number of instructions counted
so far, so the steps that exceed a limit are known from the count alone. An error that no frame
catches takes as many steps as there are frames to end the run.
-/

namespace TableSeed.Lua

namespace Meter

/-- The meter after a number of instructions. -/
def spend (μ : Meter) : Nat → Meter
  | 0 => μ
  | n + 1 => (μ.spend n).count.1

/-- Instructions are counted one after the other. -/
theorem spend_add (μ : Meter) (i j : Nat) : μ.spend (i + j) = (μ.spend i).spend j := by
  induction j with
  | zero => rfl
  | succ j ih => exact congrArg (fun spent => spent.count.1) ih

/-- An instruction is taken off the interval, and the last one begins a new interval. -/
theorem count_fst (μ : Meter) :
    μ.count.1 =
      if 1 < μ.left then { μ with left := μ.left - 1 }
      else { μ with left := interval, ticks := μ.ticks + 1 } := by
  unfold count
  split <;> rfl

/-- An instruction is one too many if it ends an interval beyond the allowed ones. -/
theorem count_snd (μ : Meter) :
    μ.count.2 = if μ.left ≤ 1 ∧ μ.allowed ≤ μ.ticks then
      some (.instructionLimit (μ.allowed * interval)) else none := by
  unfold count
  grind

/-- Counting instructions does not change how many intervals are allowed. -/
@[simp] theorem allowed_spend (μ : Meter) (n : Nat) : (μ.spend n).allowed = μ.allowed := by
  induction n with
  | zero => rfl
  | succ n ih =>
    rw [spend, count_fst]
    split_ifs <;> exact ih

/-- Before the interval that the meter started in ends, instructions are taken off it; afterwards
intervals follow one another. -/
theorem spend_eq (μ : Meter) (n : Nat) :
    μ.spend n =
      if n < max 1 μ.left then { μ with left := μ.left - n }
      else
        { μ with
          left := interval - (n - max 1 μ.left) % interval
          ticks := μ.ticks + 1 + (n - max 1 μ.left) / interval } := by
  induction n with
  | zero => simp [spend]
  | succ n ih =>
    rw [spend, count_fst, ih]
    simp only [interval]
    split_ifs <;> simp only [mk.injEq, and_true] at * <;> omega

/-- A meter within an interval stays within one. -/
theorem left_spend_mem (μ : Meter) (positive : 0 < μ.left) (started : μ.left ≤ interval) (n : Nat) :
    0 < (μ.spend n).left ∧ (μ.spend n).left ≤ interval := by
  rw [spend_eq]
  simp only [interval] at started ⊢
  split_ifs <;> simp only <;> omega

/-- An instruction is one too many if it ends an interval and no more intervals are allowed. -/
theorem failed_count_iff (μ : Meter) : μ.count.2 ≠ none ↔ μ.left ≤ 1 ∧ μ.allowed ≤ μ.ticks := by
  rw [count_snd]
  split_ifs with failed <;> simp [failed]

/-- The instructions that are one too many end an interval, and as many intervals have ended before
as are allowed. -/
theorem failed_spend_iff (μ : Meter) (n : Nat) :
    (μ.spend n).count.2 ≠ none ↔
      ∃ j, μ.allowed ≤ μ.ticks + j ∧ n + 1 = max 1 μ.left + j * interval := by
  rw [failed_count_iff, allowed_spend, spend_eq, interval]
  constructor
  · rintro ⟨short, many⟩
    refine ⟨(n + 1 - max 1 μ.left) / 10000, ?_⟩
    split_ifs at short many <;> simp only at short many <;> omega
  · rintro ⟨j, many, counted⟩
    split_ifs <;> simp only <;> omega

/-- No instruction is too many before the first interval that is. -/
theorem passed_spend {μ : Meter} {n : Nat}
    (within : n + 1 < max 1 μ.left + (μ.allowed - μ.ticks) * interval) :
    (μ.spend n).count.2 = none := by
  refine Classical.byContradiction fun failed => ?_
  obtain ⟨j, many, counted⟩ := (failed_spend_iff _ n).mp failed
  have := Nat.mul_le_mul_right interval (Nat.sub_le_iff_le_add'.mpr many)
  omega

/-- No instruction is too many within the intervals that a limit allows. -/
theorem passed_of_within (left limit : Nat) {n : Nat} (within : n + 1 ≤ ticksFor limit * interval) :
    ((start left limit).spend n).count.2 = none := by
  refine passed_spend ?_
  simp only [start, Nat.sub_zero]
  omega

end Meter

namespace Machine

/-- The machine after a number of steps. -/
def after (m : Machine) : Nat → Machine
  | 0 => m
  | k + 1 => (m.after k).step

/-- Steps are taken one after the other. -/
theorem after_add (m : Machine) (j k : Nat) : m.after (j + k) = (m.after j).after k := by
  induction k with
  | zero => rfl
  | succ k ih => exact congrArg step ih

/-- The first step may be taken before the others. -/
theorem after_succ (m : Machine) (k : Nat) : m.after (k + 1) = m.step.after k := by
  rw [Nat.add_comm, after_add]
  rfl

/-- How many instructions the first steps count. -/
def counted (m : Machine) : Nat → Nat
  | 0 => 0
  | k + 1 => m.counted k + if (m.after k).control.isCounted then 1 else 0

/-- Instructions that are counted add up. -/
theorem counted_add (m : Machine) (j k : Nat) :
    m.counted (j + k) = m.counted j + (m.after j).counted k := by
  induction k with
  | zero => rfl
  | succ k ih =>
    rw [← Nat.add_assoc, counted, ih, counted, after_add, Nat.add_assoc]

/-- The instruction of the first step is counted before the others. -/
theorem counted_succ (m : Machine) (k : Nat) :
    m.counted (k + 1) = (if m.control.isCounted then 1 else 0) + m.step.counted k := by
  rw [Nat.add_comm, counted_add, counted, counted, Nat.zero_add]
  rfl

/-- A step changes the meter by the instruction it counts, if it counts one. -/
theorem meter_step (m : Machine) :
    m.step.meter = if m.control.isCounted then m.meter.count.1 else m.meter := by
  rw [step_eq]
  split_ifs
  · generalize m.meter.count = counted
    obtain ⟨μ, _ | failure⟩ := counted <;> rfl
  · exact meter_proceed m

/-- The meter tells how many instructions were counted, and nothing else. -/
theorem meter_after (m : Machine) (k : Nat) : (m.after k).meter = m.meter.spend (m.counted k) := by
  induction k with
  | zero => rfl
  | succ k ih =>
    rw [after, meter_step, ih, counted]
    split_ifs <;> rfl

/-- The next instruction is one too many. -/
def Overruns (m : Machine) : Prop := m.control.isCounted = true ∧ m.meter.count.2 ≠ none

/-- Which steps exceed the limit is known from the number of instructions. -/
theorem overruns_after_iff (m : Machine) (k : Nat) :
    (m.after k).Overruns ↔ (m.after k).control.isCounted = true ∧
      ∃ j, m.meter.allowed ≤ m.meter.ticks + j ∧
        m.counted (k + 1) = max 1 m.meter.left + j * Meter.interval := by
  refine and_congr_right fun isCounted => ?_
  rw [meter_after, Meter.failed_spend_iff, counted, if_pos isCounted]

/-- A step that is one too many raises the failure at the limit. -/
theorem step_of_overruns {m : Machine} (overruns : m.Overruns) :
    m.step = (m.raise (.failure (.instructionLimit (m.meter.allowed * Meter.interval)))).metered
      m.meter.count.1 := by
  obtain ⟨isCounted, failed⟩ := overruns
  rw [step_eq, if_pos isCounted]
  have failure := m.meter.count_snd
  generalize m.meter.count = counted at failed failure
  obtain ⟨μ, _ | limit⟩ := counted
  · exact absurd rfl failed
  · split_ifs at failure
    cases failure
    rfl

/-- A counted step within the limit goes on, with its instruction counted. -/
theorem step_of_within {m : Machine} (isCounted : m.control.isCounted = true)
    (within : m.meter.count.2 = none) : m.step = m.proceed.metered m.meter.count.1 := by
  rw [step_eq, if_pos isCounted]
  generalize m.meter.count = counted at within ⊢
  obtain ⟨μ, failure⟩ := counted
  obtain rfl : failure = none := within
  rfl

/-- A machine that has its outcome stays as it is. -/
theorem step_of_outcome {m : Machine} {o : Outcome} (ended : m.outcome? = some o) : m.step = m := by
  obtain ⟨control, stack, depth, natives, world, meter⟩ := m
  cases stack with
  | cons frame stack => cases control <;> cases ended
  | nil =>
    cases control with
    | signal s => rfl
    | eval | exec | land | finish | round | apply | act => cases ended

/-- A machine that has an outcome stays as it is. -/
theorem after_of_outcome {m : Machine} {o : Outcome} (ended : m.outcome? = some o) (k : Nat) :
    m.after k = m := by
  induction k with
  | zero => rfl
  | succ k ih => rw [after, ih, step_of_outcome ended]

/-- A run ends with the outcome that the machine has at last. -/
theorem run_succ (m : Machine) (fuel : Nat) :
    m.run (fuel + 1) = ((m.after fuel).outcome?.getD .unfinished, m.after (fuel + 1)) := by
  induction fuel generalizing m with
  | zero =>
    rw [run]
    cases ended : m.outcome? with
    | none => simp [run, ended, after]
    | some o => simp [ended, after, step_of_outcome ended]
  | succ fuel ih =>
    rw [run]
    cases ended : m.outcome? with
    | none => simp only [ih, after_succ]
    | some o => simp [after_of_outcome ended, ended]

/-- A run ends where its steps come to. -/
@[simp] theorem run_snd (m : Machine) (fuel : Nat) : (m.run fuel).2 = m.after fuel := by
  cases fuel with
  | zero => rfl
  | succ fuel => rw [run_succ]

/-- A run that is followed long enough ends with the outcome that the machine comes to. -/
theorem run_of_outcome {m : Machine} {k fuel : Nat} {o : Outcome}
    (ended : (m.after k).outcome? = some o) (enough : k < fuel) :
    m.run fuel = (o, m.after k) := by
  obtain ⟨rest, rfl⟩ : ∃ rest, fuel = k + rest + 1 := ⟨fuel - k - 1, by omega⟩
  rw [run_succ, Nat.add_assoc, after_add, after_add, after_of_outcome ended, after_of_outcome ended,
    ended]
  rfl

end Machine

/-- Whether the frame may keep an error from going on down the stack as it is. -/
def Frame.catches : Frame → Bool
  | .protect _ _ _ | .handled _ _ => true
  | .close v _ => v.truthy
  | _ => false

namespace Machine

/-- An error leaves a frame that does not catch it. -/
theorem resume_raise {frame : Frame} (passes : frame.catches = false) (m : Machine) (v : Value) :
    m.resume frame (.raise v) = m.goOn (.signal (.raise v)) := by
  cases frame with
  | close w rest =>
    change m.closeWith w v (.raise v) = _
    exact if_neg (by simpa [Frame.catches] using passes)
  | protect | handled => cases passes
  | collect | follow | block | loop | closing | activation | native => rfl

/-- An error that no frame catches ends the run. -/
theorem outcome_of_raise (m : Machine) {v : Value} (raised : m.control = .signal (.raise v))
    (uncaught : ∀ frame ∈ m.stack, frame.catches = false) :
    (m.after m.stack.length).outcome? = some (.error v) := by
  obtain ⟨control, stack, depth, natives, world, meter⟩ := m
  obtain rfl : control = .signal (.raise v) := raised
  induction stack generalizing depth natives with
  | nil => rfl
  | cons frame stack ih =>
    rw [List.length_cons, after_succ]
    have passed := resume_raise (uncaught frame (List.mem_cons_self ..))
      ⟨.signal .leave, stack, if frame.isActivation then depth - 1 else depth,
        if frame.isNative then natives - 1 else natives, world, meter⟩ v
    have stepped : step ⟨.signal (.raise v), frame :: stack, depth, natives, world, meter⟩ =
        ⟨.signal (.raise v), stack, if frame.isActivation then depth - 1 else depth,
          if frame.isNative then natives - 1 else natives, world, meter⟩ := passed
    rw [stepped]
    exact ih _ _ fun other mem => uncaught other (List.mem_cons_of_mem _ mem)

section Agreement

variable {φ : Log → Log} {ψ : UInt64 → UInt64}

/-- The outcome of a machine depends on neither the log, nor the random numbers, nor the meter. -/
theorem outcome_altered (μ : Meter) (m : Machine) : (m.altered φ ψ μ).outcome? = m.outcome? := rfl

/-- A step from where no number is drawn does the same with another log, other random numbers and
another meter, if both meters let the instruction pass or both do not. -/
theorem step_altered (μ : Meter) (m : Machine)
    (written : ∀ line log, φ (line :: log) = line :: φ log)
    (drawless : ψ = id ∨ m.control.Drawless)
    (agree : m.control.isCounted = true → μ.count.2 = m.meter.count.2) :
    (m.altered φ ψ μ).step =
      m.step.altered φ ψ (if m.control.isCounted then μ.count.1 else μ) := by
  have proceeds := proceed_altered μ m written drawless
  have control : (m.altered φ ψ μ).control = m.control := rfl
  rw [step_eq, step_eq, control]
  split_ifs with isCounted
  · have meter : (m.altered φ ψ μ).meter = μ := rfl
    have agree := agree isCounted
    rw [meter]
    generalize m.meter.count = own at agree ⊢
    generalize μ.count = other at agree ⊢
    obtain ⟨own, failure⟩ := own
    obtain ⟨other, failure'⟩ := other
    obtain rfl : failure' = failure := agree
    cases failure' with
    | none =>
      dsimp only
      rw [proceeds]
      rfl
    | some failure => rfl
  · exact proceeds

/-- A run in which no number is drawn does the same with another log, other random numbers and
another meter, as long as the meters agree on which instructions are too many. -/
theorem after_altered (μ : Meter) (m : Machine)
    (written : ∀ line log, φ (line :: log) = line :: φ log)
    (drawless : ψ = id ∨ ∀ k, (m.after k).control.Drawless)
    (agree : ∀ k, (m.after k).control.isCounted = true →
      (μ.spend (m.counted k)).count.2 = (m.meter.spend (m.counted k)).count.2) (k : Nat) :
    (m.altered φ ψ μ).after k = (m.after k).altered φ ψ (μ.spend (m.counted k)) := by
  induction k with
  | zero => rfl
  | succ k ih =>
    rw [after, ih, step_altered _ _ written (drawless.imp_right fun all => all k)
      fun isCounted => by rw [agree k isCounted, meter_after]]
    rw [counted]
    split_ifs <;> rfl

/-- A machine counts the same instructions with another log and another meter, if the meters fail at
the same ones, and with other random numbers if it draws none. -/
theorem counted_altered (μ : Meter) (m : Machine)
    (written : ∀ line log, φ (line :: log) = line :: φ log)
    (drawless : ψ = id ∨ ∀ k, (m.after k).control.Drawless)
    (agree : ∀ k, (m.after k).control.isCounted = true →
      (μ.spend (m.counted k)).count.2 = (m.meter.spend (m.counted k)).count.2) (k : Nat) :
    (m.altered φ ψ μ).counted k = m.counted k := by
  induction k with
  | zero => rfl
  | succ k ih =>
    rw [counted, counted, ih, after_altered μ m written drawless agree]
    rfl

/-- Such a run has the same outcome, and it leaves the same heap. -/
theorem run_altered (μ : Meter) (m : Machine)
    (written : ∀ line log, φ (line :: log) = line :: φ log)
    (drawless : ψ = id ∨ ∀ k, (m.after k).control.Drawless)
    (agree : ∀ k, (m.after k).control.isCounted = true →
      (μ.spend (m.counted k)).count.2 = (m.meter.spend (m.counted k)).count.2) (fuel : Nat) :
    ((m.altered φ ψ μ).run fuel).1 = (m.run fuel).1 ∧
      ((m.altered φ ψ μ).run fuel).2.world.heap = (m.run fuel).2.world.heap := by
  have reached := after_altered μ m written drawless agree
  cases fuel with
  | zero => exact ⟨rfl, rfl⟩
  | succ fuel =>
    rw [run_succ, run_succ, reached, reached, outcome_altered]
    exact ⟨rfl, rfl⟩

/-- A run does the same whatever was logged before it. It does the same with other random numbers if
it draws none, and with another meter that finds the same instructions too many. -/
theorem run_elsewhere (m : Machine) (log : Log) (entropy : UInt64) (μ : Meter)
    (draws : entropy = m.world.entropy ∨ ∀ k, (m.after k).control.Drawless)
    (agree : ∀ k, (m.after k).control.isCounted = true →
      (μ.spend (m.counted k)).count.2 = (m.meter.spend (m.counted k)).count.2) (fuel : Nat) :
    (({ m with world := { m.world with log, entropy }, meter := μ } : Machine).run fuel).1 =
        (m.run fuel).1 ∧
      (({ m with world := { m.world with log, entropy }, meter := μ } : Machine).run
        fuel).2.world.heap = (m.run fuel).2.world.heap := by
  obtain ⟨silent, isSilent⟩ : ∃ silent, silent = m.altered (fun _ => []) id m.meter := ⟨_, rfl⟩
  have written (older : Log) : ∀ line (log : Log),
      (line :: log) ++ older = line :: (log ++ older) := fun _ _ => rfl
  have own : m = silent.altered (· ++ m.world.log) id m.meter := by
    rw [isSilent]
    rfl
  obtain ⟨ψ, drawn, drawless⟩ : ∃ ψ : UInt64 → UInt64, ψ m.world.entropy = entropy ∧
      (ψ = id ∨ ∀ k, (m.after k).control.Drawless) := by
    rcases draws with equal | drawless
    · exact ⟨id, equal.symm, .inl rfl⟩
    · exact ⟨fun _ => entropy, rfl, .inr drawless⟩
  have other : ({ m with world := { m.world with log, entropy }, meter := μ } : Machine) =
      silent.altered (· ++ log) ψ μ := by
    rw [isSilent, ← drawn]
    rfl
  have meter : silent.meter = m.meter := by
    rw [isSilent]
    rfl
  have same : ∀ k, (silent.after k).control.isCounted = true →
      (m.meter.spend (silent.counted k)).count.2 =
        (silent.meter.spend (silent.counted k)).count.2 := fun k _ => by rw [meter]
  have steps (k : Nat) : (m.after k).control = (silent.after k).control := by
    have reached := after_altered (φ := (· ++ m.world.log)) m.meter silent
      (written m.world.log) (.inl rfl) same k
    rw [← own] at reached
    rw [reached]
    rfl
  have counts (k : Nat) : m.counted k = silent.counted k := by
    have counts := counted_altered (φ := (· ++ m.world.log)) m.meter silent
      (written m.world.log) (.inl rfl) same k
    rwa [← own] at counts
  have first := run_altered (φ := (· ++ m.world.log)) m.meter silent (written m.world.log)
    (.inl rfl) same fuel
  have second := run_altered (φ := (· ++ log)) μ silent (written log)
    (drawless.imp_right fun all k => steps k ▸ all k)
    (fun k isCounted => by
      rw [meter, ← counts]
      exact agree k (steps k ▸ isCounted)) fuel
  rw [← own] at first
  rw [← other] at second
  exact ⟨second.1.trans first.1.symm, second.2.trans first.2.symm⟩

end Agreement

end Machine

end TableSeed.Lua
