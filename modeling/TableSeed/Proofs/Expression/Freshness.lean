import TableSeed.Proofs.Expression.Budget
import TableSeed.Proofs.Expression.Isolation

/-!
# Used sandboxes

A sandbox in which chunks have been evaluated is as it was before, and the next chunk finds nothing of
them. What they leave behind is the interval that the last of them began, so that a chunk which exceeds
the limit may do so at another instruction than in a fresh sandbox.
-/

namespace TableSeed

open Lua (Machine Meter TableRef)

namespace Sandbox

variable {leaves : TableRef → Prop} {s : Sandbox}

/-- A record of scalars. -/
structure FlatRecord where
  members : Json.Members
  flat : members.all (·.2.isScalar) = true

/-- A record as a table, and the sandbox with it. -/
def host (s : Sandbox) (record : FlatRecord) : TableRef × Sandbox :=
  let (this, heap) := Conversion.ofRecord s.world.heap record.members
  (this, { s with world := { s.world with heap } })

/-- A sandbox that is furnished and in which nothing has been evaluated yet. -/
def furnished (now : Int) (seed : UInt64) (furnishings : List Furnishing) : Sandbox :=
  furnishings.foldl furnish (create now seed)

/-- An expression that may stand in a record. -/
structure Chunk where
  source : String
  /-- Whether it sees the record. -/
  inRecord : Bool

/-- The record that a chunk sees. -/
def Chunk.this (c : Chunk) (record : TableRef) : Option TableRef :=
  if c.inRecord then some record else none

/-- Evaluates chunks one after the other. -/
def evaluateAll (s : Sandbox) (record : TableRef) : List Chunk → Sandbox
  | [] => s
  | c :: rest => (s.evaluate c.source (c.this record)).2.evaluateAll record rest

/-- What chunks leave of a sandbox in which they are evaluated. -/
structure Isolates (s : Sandbox) (record : TableRef) (history : List Chunk) : Prop where
  /-- Every table has the entries and the metatable that it had: the safe functions and the libraries,
  the bound values, the record and the methods of texts. -/
  kept : s.Alike (s.evaluateAll record history)
  /-- No environment has the functions that load code. -/
  safe : ∀ name ∈ withheld, name ∉ s.aliases → ∀ c : Chunk,
    ((s.environment (c.this record)).2.world.heap.table
      (s.environment (c.this record)).1).getText name = .nil
  /-- Any other chunk has the result that it has in the fresh sandbox. This is said of chunks that begin
  at the same instruction of an interval or stay within the limit, and that find the same random numbers
  or draw none. -/
  result : ∀ c : Chunk,
    (∀ body, compile (SelfReference.rewrite c.source) = .ok body →
      (s.evaluateAll record history).intervalLeft = s.intervalLeft ∨
        ∀ k, (s.evaluation body (c.this record)).counted k ≤
          Meter.ticksFor s.instructionLimit * Meter.interval) →
    (∀ body, compile (SelfReference.rewrite c.source) = .ok body →
      (s.evaluateAll record history).world.entropy = s.world.entropy ∨
        ∀ k, ((s.evaluation body (c.this record)).after k).control.Drawless) →
    ((s.evaluateAll record history).evaluate c.source (c.this record)).1 =
      (s.evaluate c.source (c.this record)).1

/-- A record as a table is one more table of scalars. -/
theorem Stocked.host (stocked : s.Stocked leaves) (record : FlatRecord) :
    ∃ leaves, (s.host record).2.Stocked leaves ∧ leaves (s.host record).1 := by
  have blank := Lua.Heap.Confines.refl (p := False) stocked.heap.cells
  have confined := Conversion.ofMembers_confined record.members
    (blank.newTable Lua.Table.within_empty) blank.grown
  have shallow := Conversion.ofMembers_shallow record.flat
    (stocked.heap.newLeaf Lua.Table.flat_empty) ⟨s.world.heap.tables.size⟩
  exact ⟨_, stocked.grown shallow confined, .inr rfl⟩

/-- A sandbox that is furnished is as deep as an environment copies. -/
theorem stocked_furnished (now : Int) (seed : UInt64) (furnishings : List Furnishing) :
    ∃ leaves, (furnished now seed furnishings).Stocked leaves := by
  have added (s : Sandbox) (stocked : ∃ leaves, s.Stocked leaves) :
      ∃ leaves, (furnishings.foldl furnish s).Stocked leaves := by
    induction furnishings generalizing s with
    | nil => exact stocked
    | cons f rest ih =>
      obtain ⟨leaves, stocked⟩ := stocked
      exact ih _ (stocked.furnish f)
  exact added _ ⟨_, stocked_create now seed⟩

/-- The record that a chunk sees is a table of scalars. -/
theorem Chunk.this_leaf {record : TableRef} (leaf : leaves record) (c : Chunk) (r : TableRef)
    (seen : c.this record = some r) : leaves r := by
  unfold Chunk.this at seen
  split at seen
  · cases seen
    exact leaf
  · cases seen

/-- Chunks one after the other leave everything that they have not made as it was. -/
theorem evaluateAll_alike {record : TableRef} (stocked : s.Stocked leaves) (leaf : leaves record)
    (history : List Chunk) : s.Alike (s.evaluateAll record history) := by
  induction history generalizing s with
  | nil => exact .refl s
  | cons c rest ih =>
    have first := evaluate_alike stocked (c.this_leaf leaf) c.source
    exact first.trans (ih (stocked.alike first))

/-- Chunks are isolated from one another. -/
theorem isolates (now : Int) (seed : UInt64) (furnishings : List Furnishing) (record : FlatRecord)
    (history : List Chunk) :
    ((furnished now seed furnishings).host record).2.Isolates
      ((furnished now seed furnishings).host record).1 history := by
  obtain ⟨_, stocked⟩ := stocked_furnished now seed furnishings
  obtain ⟨leaves, stocked, leaf⟩ := stocked.host record
  have kept := evaluateAll_alike stocked leaf history
  exact ⟨kept, fun _ isWithheld unbound _ => environment_lacks stocked isWithheld unbound,
    fun c => evaluate_fst_alike kept c.source (c.this _)⟩

section Interval

/-- A sandbox whose limit allows one interval, within an interval. -/
def brief (left : Nat) : Sandbox := { furnished 0 0 [.limit 10000] with intervalLeft := left }

/-- A loop that counts, and then a value. -/
def countingLoop : String := "for i = 1, 17500 do end return 1"

/-- The counting loop is Lua, and its body is the one that is run. -/
theorem compile_countingLoop :
    compile (SelfReference.rewrite countingLoop) = .ok (bodyOf countingLoop) :=
  compile_bodyOf (by decide +kernel)

/-- Whether the loop comes to its second round. -/
def startsCountingRound (m : Machine) : Bool :=
  match m.control, m.stack with
  | .round (.count 17499 _ _ []) _,
      [.follow [.give [.const (.number (.integer 1))]] _, .block _, .activation _] => true
  | _, _ => false

/-- In its second round the loop has 17499 rounds to go, an empty body, and the value to give after
it. -/
theorem of_startsCountingRound {m : Machine} (starts : startsCountingRound m = true) :
    ∃ i step env inner block caller, m.control = .round (.count 17499 i step []) env ∧
      m.stack = [.follow [.give [.const (.number (.integer 1))]] inner, .block block,
        .activation caller] := by
  unfold startsCountingRound at starts
  split at starts
  · exact ⟨_, _, _, _, _, _, by assumption, by assumption⟩
  · cases starts

/-- The second round, from where an interval begins and from where the loop leaves one. -/
theorem after_countingLoop : ∀ left ∈ [10000, 2497],
    startsCountingRound (((brief left).evaluation (bodyOf countingLoop) none).after 6) = true ∧
      (((brief left).evaluation (bodyOf countingLoop) none).after 6).meter = ⟨left - 2, 0, 1⟩ ∧
      (((brief left).evaluation (bodyOf countingLoop) none).after 6).world.log = [] ∧
      (((brief left).evaluation (bodyOf countingLoop) none).after 6).world.entropy = 0 := by
  decide +kernel

/-- Whatever is left of its interval, the sandbox is as deep as an environment copies. -/
theorem stocked_brief (left : Nat) : ∃ leaves, (brief left).Stocked leaves := by
  obtain ⟨leaves, stocked⟩ := stocked_furnished 0 0 [.limit 10000]
  exact ⟨leaves, stocked.heap, stocked.methods, stocked.globals, stocked.bindings, stocked.unshared,
    stocked.apart, stocked.safe, stocked.named⟩

/-- In a fresh sandbox the loop comes to its end. -/
theorem ended_countingLoop :
    ∃ k < maxSteps, ∃ m, ((brief 10000).evaluation (bodyOf countingLoop) none).after k = m ∧
      m.outcome? = some (.values [.integer 1]) ∧
      m.meter.left = 2497 ∧ m.world.log = [] ∧ m.world.entropy = 0 := by
  obtain ⟨starts, meter, log, entropy⟩ := after_countingLoop 10000 (by decide)
  obtain ⟨i, step, env, inner, block, caller, counting, stack⟩ := of_startsCountingRound starts
  generalize reached : ((brief 10000).evaluation (bodyOf countingLoop) none).after 6 = m at *
  have within : ∀ j < 17499 + 2, (m.meter.spend j).count.2 = none := by
    intro j less
    refine Meter.passed_spend ?_
    rw [meter]
    simp only [Meter.interval]
    omega
  obtain ⟨heap, ended⟩ := Machine.after_count_give 17499 counting stack within
  rw [← reached, ← Machine.after_add, reached] at ended
  have spent : (m.meter.spend (17499 + 2)).left = 2497 := by
    rw [meter, Meter.spend_eq]
    rfl
  exact ⟨_, by decide, _, ended, rfl, spent, log, entropy⟩

/-- The loop has its value, and leaves a part of an interval. -/
theorem evaluate_countingLoop :
    ((brief 10000).evaluate countingLoop none).1 = .ok (.number (.ofInt64 1)) ∧
      ((brief 10000).evaluate countingLoop none).2 = brief 2497 := by
  obtain ⟨k, enough, m, reached, outcome, left, log, entropy⟩ := ended_countingLoop
  obtain ⟨leaves, stocked⟩ := stocked_brief 10000
  have alike : (brief 10000).Alike ((brief 10000).evaluate countingLoop none).2 :=
    evaluate_alike stocked (by nofun) countingLoop
  rw [← reached] at outcome
  have evaluated := evaluate_of_compile (s := brief 10000) compile_countingLoop none
  rw [Machine.run_of_outcome outcome enough, reached] at evaluated
  refine ⟨by rw [evaluated]; rfl, ?_⟩
  have next : ((brief 10000).evaluate countingLoop none).2.world.log = [] ∧
      ((brief 10000).evaluate countingLoop none).2.world.entropy = 0 ∧
      ((brief 10000).evaluate countingLoop none).2.intervalLeft = 2497 := by
    rw [evaluated, log_resumed, entropy_resumed, intervalLeft_resumed]
    exact ⟨log, entropy, left⟩
  rw [alike.eq, next.1, next.2.1, next.2.2]
  rfl

/-- In a sandbox that is left so, it does not. -/
theorem evaluate_countingLoop_later :
    ((brief 2497).evaluate countingLoop none).1 = .error (.chunk (.instructionLimit 10000)) := by
  obtain ⟨starts, meter, -, -⟩ := after_countingLoop 2497 (by decide)
  obtain ⟨i, step, env, inner, block, caller, counting, stack⟩ := of_startsCountingRound starts
  generalize reached : ((brief 2497).evaluation (bodyOf countingLoop) none).after 6 = m at *
  have within : ∀ j < 12494, (m.meter.spend j).count.2 = none := by
    intro j less
    refine Meter.passed_spend ?_
    rw [meter]
    simp only [Meter.interval]
    omega
  obtain ⟨_, heap, rounds, -⟩ := Machine.after_rounds_count 12494 (n := 5005) counting within
  have last : ((brief 2497).evaluation (bodyOf countingLoop) none).after (6 + 4 * 12494) =
      m.after (4 * 12494) := by rw [Machine.after_add, reached]
  refine evaluate_of_overruns (k := 6 + 4 * 12494) compile_countingLoop ?_ ?_ ?_
  · rw [last, rounds, Machine.Overruns, meter]
    exact ⟨rfl, by rw [Meter.failed_spend_iff]; exact ⟨1, by decide⟩⟩
  · rw [last, rounds]
    dsimp only
    rw [stack]
    simp [Lua.Frame.catches]
  · rw [last, rounds]
    dsimp only
    rw [stack, List.length_cons, List.length_cons, List.length_cons, List.length_nil]
    decide

/-- What a chunk has used of an interval counts against the chunk after it: evaluated a second time, the
same loop exceeds the limit. -/
theorem exceeded_by_history :
    ((furnished 0 0 [.limit 10000]).evaluate countingLoop none).1 = .ok (.number (.ofInt64 1)) ∧
      (((furnished 0 0 [.limit 10000]).evaluate countingLoop none).2.evaluate countingLoop none).1 =
        .error (.chunk (.instructionLimit 10000)) := by
  have fresh : furnished 0 0 [.limit 10000] = brief 10000 := rfl
  obtain ⟨first, later⟩ := evaluate_countingLoop
  rw [fresh, later]
  exact ⟨first, evaluate_countingLoop_later⟩

end Interval

end Sandbox

end TableSeed
