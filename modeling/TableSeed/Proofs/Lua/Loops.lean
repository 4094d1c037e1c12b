import TableSeed.Proofs.Lua.Steps

/-!
# Empty loops

What the rounds of a loop without a body do. A round of an endless loop counts two instructions, one
for the round and one for its condition, and changes nothing but the meter. A round of a loop that
counts is one instruction, and it takes a variable.
-/

namespace TableSeed.Lua.Machine

section Endless

variable {m : Machine} {c : Literal} {env : Env}

/-- One round of a loop without a body whose condition holds for good. -/
theorem after_round_while (holds : c.value.truthy = true)
    (looping : m.control = .round (.whileTrue (.const c) []) env)
    (within : ∀ i < 2, (m.meter.spend i).count.2 = none) :
    m.after 5 = m.metered (m.meter.spend 2) ∧ m.counted 5 = 2 := by
  obtain ⟨control, stack, depth, natives, world, meter⟩ := m
  obtain rfl : control = .round (.whileTrue (.const c) []) env := looping
  have tested : step ⟨.round (.whileTrue (.const c) []) env, stack, depth, natives, world, meter⟩ =
      ⟨.finish (.whileTest (.const c) []) [c.value] env, stack, depth, natives, world,
        meter.count.1⟩ :=
    step_of_within rfl (within 0 (by decide))
  have entered : step ⟨.finish (.whileTest (.const c) []) [c.value] env, stack, depth, natives,
        world, meter.count.1⟩ =
      ⟨.exec [] env, .block [] :: .loop (.whileTrue (.const c) []) env :: stack, depth, natives,
        world, meter.count.1.count.1⟩ := by
    refine (step_of_within rfl (within 1 (by decide))).trans ?_
    simp only [proceed, finish, List.headD_cons, holds, if_true]
    rfl
  constructor
  · rw [after_succ, tested, after_succ, entered]
    rfl
  · rw [counted_succ, tested, counted_succ, entered]
    rfl

/-- The rounds of such a loop, as long as the limit lasts. -/
theorem after_rounds_while (holds : c.value.truthy = true)
    (looping : m.control = .round (.whileTrue (.const c) []) env) (n : Nat)
    (within : ∀ i < 2 * n, (m.meter.spend i).count.2 = none) :
    m.after (5 * n) = m.metered (m.meter.spend (2 * n)) ∧ m.counted (5 * n) = 2 * n := by
  induction n with
  | zero => exact ⟨rfl, rfl⟩
  | succ n ih =>
    obtain ⟨reached, counted⟩ := ih fun i less => within i (by omega)
    obtain ⟨next, two⟩ := after_round_while (m := m.metered (m.meter.spend (2 * n))) holds looping
      fun i less => by
        have later := within (2 * n + i) (by omega)
        rwa [Meter.spend_add] at later
    constructor
    · rw [Nat.mul_succ, after_add, reached, next, Nat.mul_succ, Meter.spend_add]
      rfl
    · rw [Nat.mul_succ, counted_add, reached, counted, two, Nat.mul_succ]

end Endless

section Counting

variable {m : Machine} {i step : Int64} {env : Env}

/-- One more round of a loop without a body that counts. -/
theorem after_round_count {n : Nat} (counting : m.control = .round (.count (n + 1) i step []) env)
    (within : m.meter.count.2 = none) :
    ∃ heap, m.after 4 = { m with
        control := .round (.count n (i + step) step []) env
        world := { m.world with heap }
        meter := m.meter.spend 1 } ∧
      m.counted 4 = 1 := by
  obtain ⟨control, stack, depth, natives, world, meter⟩ := m
  obtain rfl : control = .round (.count (n + 1) i step []) env := counting
  have begun := step_of_within
    (m := ⟨.round (.count (n + 1) i step []) env, stack, depth, natives, world, meter⟩) rfl within
  refine ⟨(world.heap.newCell (.integer (i + step))).2, ?_, ?_⟩
  · rw [after_succ, begun]
    rfl
  · rw [counted_succ, begun]
    rfl

/-- The rounds of such a loop, as long as the limit lasts. -/
theorem after_rounds_count (r : Nat) {n : Nat}
    (counting : m.control = .round (.count (r + n) i step []) env)
    (within : ∀ j < r, (m.meter.spend j).count.2 = none) :
    ∃ j heap, m.after (4 * r) = { m with
        control := .round (.count n j step []) env
        world := { m.world with heap }
        meter := m.meter.spend r } ∧
      m.counted (4 * r) = r := by
  induction r generalizing n with
  | zero =>
    rw [Nat.zero_add] at counting
    exact ⟨i, m.world.heap, counting ▸ rfl, rfl⟩
  | succ r ih =>
    rw [Nat.succ_add_eq_add_succ] at counting
    obtain ⟨j, heap, reached, counted⟩ := ih counting fun j less => within j (by omega)
    obtain ⟨heap', next, one⟩ := after_round_count (m := { m with
        control := .round (.count (n + 1) j step []) env
        world := { m.world with heap }
        meter := m.meter.spend r }) rfl (within r (Nat.lt_succ_self r))
    refine ⟨j + step, heap', ?_, ?_⟩
    · rw [Nat.mul_succ, after_add, reached, next]
      rfl
    · rw [Nat.mul_succ, counted_add, counted, reached, one]

/-- After the last round, a chunk that has only a constant left to return returns it. -/
theorem after_last_round_count {c : Literal} {inner : Env} {block : List Stat} {caller : Site}
    (counting : m.control = .round (.count 0 i step []) env)
    (rest : m.stack = [.follow [.give [.const c]] inner, .block block, .activation caller])
    (within : ∀ j < 2, (m.meter.spend j).count.2 = none) :
    m.after 6 = { m with
      control := .signal (.deliver [c.value])
      stack := []
      depth := m.depth - 1
      meter := m.meter.spend 2 } := by
  obtain ⟨control, stack, depth, natives, world, meter⟩ := m
  obtain rfl : control = .round (.count 0 i step []) env := counting
  obtain rfl : stack = [.follow [.give [.const c]] inner, .block block, .activation caller] := rest
  have ended := step_of_within (m := ⟨.round (.count 0 i step []) env,
    [.follow [.give [.const c]] inner, .block block, .activation caller], depth, natives, world,
    meter⟩) rfl (within 0 (by decide))
  have given := step_of_within (m := ⟨.finish .give [c.value] inner,
    [.block block, .activation caller], depth, natives, world, meter.spend 1⟩) rfl
    (within 1 (by decide))
  rw [after_succ, ended]
  change (Machine.step ⟨.finish .give [c.value] inner, [.block block, .activation caller], depth, natives,
    world, meter.spend 1⟩).after 2 = _
  rw [given]
  rfl

/-- A chunk that has such a loop and then only a constant left to return returns it. -/
theorem after_count_give (r : Nat) {c : Literal} {inner : Env} {block : List Stat} {caller : Site}
    (counting : m.control = .round (.count r i step []) env)
    (rest : m.stack = [.follow [.give [.const c]] inner, .block block, .activation caller])
    (within : ∀ j < r + 2, (m.meter.spend j).count.2 = none) :
    ∃ heap, m.after (4 * r + 6) = { m with
      control := .signal (.deliver [c.value])
      stack := []
      depth := m.depth - 1
      world := { m.world with heap }
      meter := m.meter.spend (r + 2) } := by
  obtain ⟨j, heap, rounds, -⟩ := after_rounds_count r (n := 0) counting
    fun j less => within j (by omega)
  have last := after_last_round_count (m := m.after (4 * r)) (by rw [rounds])
    (by rw [rounds]; exact rest) fun j less => by
      rw [rounds, ← Meter.spend_add]
      exact within _ (by omega)
  refine ⟨heap, ?_⟩
  rw [after_add, last, rounds, Meter.spend_add]

end Counting

end TableSeed.Lua.Machine
