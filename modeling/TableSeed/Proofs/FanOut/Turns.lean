import TableSeed.Proofs.FanOut.Completion

/-!
# Inserts that never give way

On a store whose inserts come to their end as soon as they start, nothing is ever in flight between
two looks, and all permits are free. What can still upset the order of the entries is the limit on
the permits that a run takes before it pauses: in a large group with a cap, the entries that find
the limit reached come back after the pause, the last one first.
-/

namespace TableSeed

/-- The order in which entries take permits, if `left` may be taken before the next pause and `full`
after each pause. Those that find none left come back after the pause, the last one first. So each
pause reverses what is left, and the blocks between pauses alternate in direction: forwards from the
front of what is left, and backwards from its end. -/
def turns (full left : Nat) (queue : List Nat) : List Nat :=
  if queue.length ≤ left then queue
  else queue.take left ++ turns full (max 1 full) (queue.drop left).reverse
termination_by (queue.length, if left = 0 then 1 else 0)
decreasing_by
  all_goals simp_wf
  all_goals by_cases none : left = 0
  · subst none
    simpa using .right _ Nat.zero_lt_one
  · exact .left _ _ (by omega)

/-- The order in which the entries of a group of `n` are inserted, if `left` permits may be taken
before the next pause. -/
def insertionOrder (cap : Option Nat) (full left n : Nat) : List Nat :=
  if cap.isSome ∧ Batch.smallSize < n then turns full left (List.range n) else List.range n

/-- The permits that may still be taken before the next pause, once `n` more have been taken. -/
def permitsLeft (full left n : Nat) : Nat :=
  if n ≤ left then left - n else max 1 full - 1 - (n - left - 1) % max 1 full

section Turns

variable {full left n i : Nat} {queue gaveWay : List Nat}

/-- Entries that all find a permit take it in their order. -/
theorem turns_of_le (enough : queue.length ≤ left) : turns full left queue = queue := by
  rw [turns, if_pos enough]

/-- Every entry takes one permit. -/
theorem turns_perm (full left : Nat) (queue : List Nat) : (turns full left queue).Perm queue := by
  induction left, queue using turns.induct full with
  | case1 left queue enough => rw [turns_of_le enough]
  | case2 left queue short ih =>
    rw [turns, if_neg short]
    calc (queue.take left ++ turns full (max 1 full) (queue.drop left).reverse).Perm
          (queue.take left ++ queue.drop left) :=
          (ih.trans (List.reverse_perm _)).append_left _
      _ |>.Perm queue := .of_eq (List.take_append_drop left queue)

/-- The entries of a group are inserted in their order if there is no cap, the group is small or
its entries find permits left. -/
theorem insertionOrder_eq_range {cap : Option Nat}
    (enough : cap = none ∨ n ≤ Batch.smallSize ∨ n ≤ left) :
    insertionOrder cap full left n = List.range n := by
  unfold insertionOrder
  split_ifs with counted
  · rcases enough with none | small | fits
    · simp [none] at counted
    · omega
    · exact turns_of_le (by simpa using fits)
  · rfl

/-- Every entry of a group is inserted once. -/
theorem insertionOrder_perm (cap : Option Nat) (full left n : Nat) :
    (insertionOrder cap full left n).Perm (List.range n) := by
  unfold insertionOrder
  split_ifs
  · exact turns_perm _ _ _
  · exact .refl _

/-- A permit that is taken is no longer left. -/
theorem permitsLeft_succ : permitsLeft full (left + 1) (n + 1) = permitsLeft full left n := by
  simp [permitsLeft]

/-- Once no permit is left, the next one is taken after a pause. -/
theorem permitsLeft_pause : permitsLeft full 0 (n + 1) = permitsLeft full (max 1 full) (n + 1) := by
  unfold permitsLeft
  rw [if_neg (by omega)]
  split_ifs with fits
  · rw [Nat.mod_eq_of_lt (by omega)]
    omega
  · rw [show n + 1 - 0 - 1 = (n + 1 - max 1 full - 1) + max 1 full by omega, Nat.add_mod_right]

/-- Permits may be taken in two steps. -/
theorem permitsLeft_add (full left m n : Nat) :
    permitsLeft full (permitsLeft full left m) n = permitsLeft full left (m + n) := by
  induction m generalizing left with
  | zero => simp [permitsLeft]
  | succ m ih =>
    rw [Nat.succ_add]
    cases left with
    | succ left => rw [permitsLeft_succ, permitsLeft_succ, ih]
    | zero =>
      obtain ⟨f, positive⟩ : ∃ f, max 1 full = f + 1 := ⟨max 1 full - 1, by omega⟩
      rw [permitsLeft_pause, permitsLeft_pause, positive, permitsLeft_succ, permitsLeft_succ, ih]

/-- The order of those that are still to take a permit: the queue of this round, and those that
gave way in it. -/
def planned (full left : Nat) (queue gaveWay : List Nat) : List Nat :=
  if queue.length ≤ left ∧ gaveWay = [] then queue
  else queue.take left ++ turns full (max 1 full) ((queue.drop left).reverse ++ gaveWay)

/-- As long as nothing gave way, the queue takes turns. -/
theorem planned_nil : planned full left queue [] = turns full left queue := by
  rw [turns, planned]
  simp

/-- An entry that finds no permit comes back the sooner the later it came. -/
theorem planned_giveWay :
    planned full 0 (i :: queue) gaveWay = planned full 0 queue (i :: gaveWay) := by
  simp [planned]

/-- An entry that finds a permit is the next one. -/
theorem planned_insert :
    planned full (left + 1) (i :: queue) gaveWay = i :: planned full left queue gaveWay := by
  unfold planned
  simp only [List.length_cons, Nat.add_le_add_iff_right, List.take_succ_cons, List.drop_succ_cons]
  split_ifs <;> rfl

/-- After a pause those that gave way are the queue. -/
theorem planned_round (some : gaveWay ≠ []) :
    planned full 0 [] gaveWay = planned full (max 1 full) gaveWay [] := by
  rw [planned_nil]
  simp [planned, some]

end Turns

/-- Whether each insert of a store comes to its end as soon as it starts, with what `insert`
does. -/
def TableStore.Immediate {σ : Type} (calls : TableStore σ)
    (insert : String → Item → σ → Except StoreError Unit × σ) : Prop :=
  ∀ table item state, calls.startInsert table item state =
    (.finished (insert table item state).1, (insert table item state).2)

namespace Batch

variable {σ : Type}

/-- The permits that may be taken before the next pause, if that is limited. -/
def budget (b : Batch σ) : Option Nat := if b.fanOut.free.isSome then b.allowance else none

/-- The ends of inserts that came one after the other, the latest first, and the state of the store
after them. -/
inductive Inserted (insert : Item → σ → Except StoreError Unit × σ) (entries : List PreparedEntry)
    (store : σ) : List (Nat × Except StoreError Unit) → σ → Prop where
  | nothing : Inserted insert entries store [] store
  | next {results : List (Nat × Except StoreError Unit)} {state : σ} {i : Nat}
    {entry : PreparedEntry} : Inserted insert entries store results state →
    entries[i]? = some entry → Inserted insert entries store
      ((i, (insert entry.item state).1) :: results) (insert entry.item state).2

/-- Nothing is under way, and all permits are free. -/
structure Idle (cap : Option Nat) (b : Batch σ) : Prop where
  waiting : b.fanOut.waiting = []
  granted : b.fanOut.granted = []
  inFlight : b.fanOut.inFlight = []
  free : b.fanOut.free = cap.map (max 1)

section Looks

variable {calls : TableStore σ} {insert : String → Item → σ → Except StoreError Unit × σ}
  {table : String} {cap : Option Nat} {large : Bool} {entry : PreparedEntry} {n : Nat}
  {b : Batch σ} {i : Nat}

/-- No permit may be taken once none is left of those that are counted. -/
theorem exhausted_iff : b.exhausted = true ↔ b.budget = some 0 := by
  unfold exhausted budget
  cases b.fanOut.free <;> simp

/-- An entry of an idle group has ended, or is new. -/
theorem Idle.stage_eq (idle : b.Idle cap) :
    b.fanOut.stage i = if i ∈ b.fanOut.ended then .ended else .new := by
  simp [FanOut.stage, idle.waiting, idle.granted, idle.inFlight]

/-- An entry of an idle group that can go on has not ended. -/
theorem Idle.not_ended (idle : b.Idle cap) (active : (b.fanOut.stage i).active = true) :
    i ∉ b.fanOut.ended := by
  intro ended
  rw [idle.stage_eq, if_pos ended] at active
  cases active

/-- An entry of an idle group that asks gets a permit. -/
theorem Idle.ask (idle : b.Idle cap) :
    (b.fanOut.ask i).waiting = [] ∧ (b.fanOut.ask i).granted = [] ∧
      (b.fanOut.ask i).inFlight = [i] ∧ (b.fanOut.ask i).ended = b.fanOut.ended ∧
      (b.fanOut.ask i).free.map (· + 1) = b.fanOut.free ∧
      (b.fanOut.ask i).free.isSome = b.fanOut.free.isSome := by
  have free := idle.free
  cases cap with
  | none =>
    rw [Option.map_none] at free
    simp [FanOut.ask, free, idle.waiting, idle.granted, idle.inFlight]
  | some k =>
    obtain ⟨m, positive⟩ : ∃ m, max 1 k = m + 1 := ⟨max 1 k - 1, by omega⟩
    rw [Option.map_some, positive] at free
    simp [FanOut.ask, free, idle.waiting, idle.granted, idle.inFlight]

/-- An insert that takes a permit and ends leaves an idle group idle. -/
theorem Idle.ask_finish (idle : b.Idle cap) :
    (b.fanOut.ask i).finish i = ({ b.fanOut with ended := i :: b.fanOut.ended }, none) := by
  obtain ⟨waiting, granted, inFlight, ended, free, -⟩ := idle.ask (i := i)
  simp [FanOut.finish, FanOut.release, waiting, granted, inFlight, ended, free, idle.waiting,
    idle.granted, idle.inFlight]

/-- An entry of an idle group that finds a permit is inserted at once. -/
theorem Idle.look_new (idle : b.Idle cap) (immediate : calls.Immediate insert)
    (new : i ∉ b.fanOut.ended) (allowed : b.exhausted = false) {l : Look σ}
    (looked : look calls table large entry i b = l) :
    l.woken = none ∧ l.gaveWay = false ∧
      l.batch.fanOut = { b.fanOut with ended := i :: b.fanOut.ended } ∧
      l.batch.started = i :: b.started ∧
      l.batch.results = (i, (insert table entry.item b.store).1) :: b.results ∧
      l.batch.store = (insert table entry.item b.store).2 ∧
      l.batch.allowance =
        if b.fanOut.free.isSome then b.allowance.map (· - 1) else b.allowance := by
  obtain ⟨-, -, inFlight, ended, -, counted⟩ := idle.ask (i := i)
  have stage : b.fanOut.stage i = .new := by rw [idle.stage_eq, if_neg new]
  have flying : (b.fanOut.ask i).stage i = .inFlight := by
    simp [FanOut.stage, inFlight, ended, new]
  obtain ⟨fanOut, started, results, -⟩ := spend_frame { b with fanOut := b.fanOut.ask i }
  simp only [look, stage, allowed, flying, launch, immediate table entry.item b.store,
    Bool.false_eq_true, if_false, if_true] at looked
  subst looked
  obtain ⟨fanOut', started', results', store', allowance'⟩ := settle_frame large
    { ({ b with fanOut := b.fanOut.ask i } : Batch σ).spend with
      log := b.log.write .debug s!"Insert '{entry.key}' into {table}",
      store := (insert table entry.item b.store).2, started := i :: b.started } i
    (insert table entry.item b.store).1
  refine ⟨?_, rfl, ?_, started', ?_, store', ?_⟩
  · simp only [settle, fanOut, idle.ask_finish]
  · rw [fanOut', fanOut, idle.ask_finish]
  · rw [results', results]
  · rw [allowance', spend, counted]
    split_ifs <;> rfl

/-- An entry of an idle group that has ended is left alone. -/
theorem Idle.look_ended (idle : b.Idle cap) (ended : i ∈ b.fanOut.ended) :
    look calls table large entry i b = { batch := b } := by
  simp only [look, idle.stage_eq, if_pos ended]

/-- An entry of an idle group that finds no permit to take gives way. -/
theorem Idle.look_exhausted (idle : b.Idle cap) (new : i ∉ b.fanOut.ended)
    (exhausted : b.exhausted = true) :
    look calls table large entry i b = { batch := b, gaveWay := true } := by
  simp only [look, idle.stage_eq, if_neg new, exhausted, if_true]

end Looks

/-- What stays true of the order of a run: of the inserts that have started, the latest first, the
permits left before the next pause if they are counted, the queue of the round and those that gave
way in it. -/
structure Ordered (full : Nat) (large : Bool) (n : Nat)
    (order : List Nat → Option Nat → List Nat → List Nat → Prop) : Prop where
  skips : ∀ {started left i queue gaveWay}, large = false → i ∈ started →
    order started left (i :: queue) gaveWay → order started left queue gaveWay
  givesWay : ∀ {started i queue gaveWay}, order started (some 0) (i :: queue) gaveWay →
    order started (some 0) queue (i :: gaveWay)
  inserts : ∀ {started left i queue gaveWay}, i ∉ started → started.length < n → left ≠ some 0 →
    order started left (i :: queue) gaveWay →
    order (i :: started) (left.map (· - 1)) queue gaveWay
  pauses : ∀ {started gaveWay}, gaveWay ≠ [] → started.length < n →
    order started (some 0) [] gaveWay →
    order started (some (max 1 full)) (if large then gaveWay else List.range n) []

/-- What holds between two looks of a run on a store whose inserts never give way. -/
structure Steady (insert : Item → σ → Except StoreError Unit × σ) (entries : List PreparedEntry)
    (cap : Option Nat) (large : Bool) (first : Batch σ) (b : Batch σ) (queue gaveWay : List Nat) :
    Prop where
  sound : b.Sound cap large entries.length
  queued : Queued large entries.length b queue gaveWay
  idle : b.Idle cap
  inserted : Inserted insert entries first.store b.results b.store
  started : b.started = b.results.map Prod.fst
  /-- Inserts give way only if no permit is left. -/
  exhausted : gaveWay ≠ [] → b.budget = some 0
  uncapped : cap = none → b.allowance = first.allowance
  /-- Before the last insert no failure could be told. -/
  last : ∀ e, b.failure = some e → ∃ i r rest, b.results = (i, r) :: rest ∧
    ∀ k e, rest.lookup k = some (.error e) → large = true ∧ ∃ j < k, rest.lookup j = none

section Runs

variable {calls : TableStore σ} {insert : String → Item → σ → Except StoreError Unit × σ}
  {table : String} {cap : Option Nat} {large : Bool} {entries : List PreparedEntry} {full : Nat}
  {first b : Batch σ} {queue gaveWay : List Nat} {i n : Nat}
  {order : List Nat → Option Nat → List Nat → List Nat → Prop}

/-- As long as no failure is told, an end before each failure is missing. -/
theorem Telling.untold (telling : Telling large b) (ongoing : b.failure = none) {k : Nat}
    {e : StoreError} (failed : b.results.lookup k = some (.error e)) :
    large = true ∧ ∃ j < k, b.results.lookup j = none := by
  cases large with
  | false => cases telling.atOnce rfl ongoing k _ failed
  | true =>
    have missing := telling.inOrder rfl ongoing
    refine ⟨rfl, b.told, ?_, missing⟩
    by_contra later
    rcases Nat.lt_or_eq_of_le (Nat.le_of_not_lt later) with earlier | rfl
    · rw [telling.told k earlier] at failed
      cases failed
    · rw [missing] at failed
      cases failed

/-- Once something gave way the permits were counted, so a pause gives the full number. -/
theorem budget_pause (allowance : calls.allowance = some full) (exhausted : b.budget = some 0) :
    (b.pause calls).budget = some (max 1 full) := by
  unfold budget at exhausted ⊢
  split_ifs at exhausted with counted
  simp [pause, counted, TableStore.fullAllowance, allowance]

/-- The inserts of an idle group that have started have ended. -/
theorem Steady.mem_started
    (steady : Steady (insert table) entries cap large first b queue gaveWay) :
    i ∈ b.started ↔ i ∈ b.fanOut.ended := by
  rw [steady.started, steady.sound.ended]

/-- A look that lets an insert give way, or passes over one, leaves a run steady. -/
theorem Steady.passes
    (steady : Steady (insert table) entries cap large first b (i :: queue) gaveWay)
    (ongoing : b.failure = none) {gave : Bool}
    (looked : LookedAt cap large entries.length b i { batch := b, gaveWay := gave })
    (exhausted : gave = true → b.budget = some 0) :
    Steady (insert table) entries cap large first b queue
      (if gave then i :: gaveWay else gaveWay) := by
  have queued := steady.queued.look looked
  simp only [Option.toList_none, List.append_nil, ite_self] at queued
  refine ⟨steady.sound, queued, steady.idle, steady.inserted, steady.started, fun some => ?_,
    steady.uncapped, fun e failed => by rw [ongoing] at failed; cases failed⟩
  cases gave with
  | true => exact exhausted rfl
  | false => exact steady.exhausted some

/-- A look that lets an insert take place leaves a run steady. -/
theorem Steady.inserts
    (steady : Steady (insert table) entries cap large first b (i :: queue) gaveWay)
    (immediate : calls.Immediate insert) (ongoing : b.failure = none) {entry : PreparedEntry}
    (found : entries[i]? = some entry) (new : i ∉ b.fanOut.ended) (allowed : b.exhausted = false)
    {l : Look σ} (looked : look calls table large entry i b = l) :
    Steady (insert table) entries cap large first l.batch queue gaveWay ∧ l.woken = none ∧
      l.gaveWay = false ∧ l.batch.started = i :: b.started ∧
      l.batch.budget = b.budget.map (· - 1) := by
  obtain ⟨woken, gave, fanOut, started, results, store, allowance⟩ :=
    steady.idle.look_new immediate new allowed looked
  obtain ⟨bound, -⟩ := List.getElem?_eq_some_iff.mp found
  have kept : LookedAt cap large entries.length b i l :=
    looked ▸ steady.sound.look calls table entry ongoing bound
  have queued := steady.queued.look kept
  have none : gaveWay = [] := by
    by_contra some
    have exhausted := exhausted_iff.mpr (steady.exhausted some)
    rw [allowed] at exhausted
    cases exhausted
  simp only [woken, gave, Option.toList_none, List.append_nil, ite_self, Bool.false_eq_true,
    if_false] at queued
  have budget : l.batch.budget = b.budget.map (· - 1) := by
    simp only [Batch.budget, fanOut, allowance]
    split_ifs <;> rfl
  refine ⟨⟨kept.sound, queued, ?_, ?_, ?_, fun some => absurd none some, ?_, ?_⟩, woken, gave,
    started, budget⟩
  · constructor <;> rw [fanOut]
    exacts [steady.idle.waiting, steady.idle.granted, steady.idle.inFlight, steady.idle.free]
  · rw [results, store]
    exact steady.inserted.next found
  · rw [started, results, steady.started, List.map_cons]
  · intro uncapped
    have free := steady.idle.free
    rw [uncapped, Option.map_none] at free
    rw [allowance, free, ← steady.uncapped uncapped]
    rfl
  · exact fun e failed => ⟨i, _, _, results, fun k e' ended =>
      steady.sound.telling.untold ongoing ended⟩

/-- As long as an entry has not started, fewer have than there are. -/
theorem Steady.length_lt (steady : Steady (insert table) entries cap large first b queue gaveWay)
    (bound : i < entries.length) (new : i ∉ b.started) : b.started.length < entries.length := by
  have nodup : (i :: b.started).Nodup := List.nodup_cons.mpr ⟨new, steady.sound.once⟩
  have subset : i :: b.started ⊆ List.range entries.length := by
    intro j mem
    rw [List.mem_range]
    rcases List.mem_cons.mp mem with rfl | started
    · exact bound
    · exact steady.sound.bounded j
        (FanOut.mem_asked.mpr (.inr (.inr (.inr (steady.mem_started.mp started)))))
  simpa using (nodup.subperm subset).length_le

/-- A pause leaves a run steady. -/
theorem Steady.pauses (steady : Steady (insert table) entries cap large first b [] gaveWay)
    (ongoing : b.failure = none) (some : gaveWay ≠ []) :
    Steady (insert table) entries cap large first (b.pause calls)
      (if large then gaveWay else List.range entries.length) [] := by
  refine ⟨steady.sound.congr rfl rfl rfl rfl rfl, steady.queued.round calls,
    ⟨steady.idle.waiting, steady.idle.granted, steady.idle.inFlight, steady.idle.free⟩,
    steady.inserted, steady.started, by simp, fun uncapped => ?_, fun e failed => ?_⟩
  · have exhausted := steady.exhausted some
    have free := steady.idle.free
    rw [uncapped, Option.map_none] at free
    simp [Batch.budget, free] at exhausted
  · rw [show b.failure = _ from failed] at ongoing
    cases ongoing

/-- A run on a store whose inserts never give way stays steady and keeps its order. Where entries
gave way the allowance was used up, and the pause renews it; in a small group the queue also holds
entries that have ended, and they are passed over. -/
theorem Steady.run (immediate : calls.Immediate insert) (allowance : calls.allowance = some full)
    (ordered : Ordered full large entries.length order)
    (steady : Steady (insert table) entries cap large first b queue gaveWay)
    (holds : order b.started b.budget queue gaveWay) (fuel : Nat) :
    ∃ queue' gaveWay',
      Steady (insert table) entries cap large first
        (Batch.run calls table large entries b queue gaveWay fuel) queue' gaveWay' ∧
      order (Batch.run calls table large entries b queue gaveWay fuel).started
        (Batch.run calls table large entries b queue gaveWay fuel).budget queue' gaveWay' := by
  induction fuel generalizing b queue gaveWay with
  | zero => exact ⟨queue, gaveWay, steady, holds⟩
  | succ fuel ih =>
    unfold Batch.run
    cases failure : b.failure with
    | some e => exact ⟨queue, gaveWay, steady, holds⟩
    | none =>
      simp only [Option.isSome_none, Bool.false_eq_true, if_false]
      cases queue with
      | nil =>
        simp only [steady.idle.granted, List.isEmpty_nil, Bool.and_true]
        cases gaveWay with
        | nil => exact ⟨[], [], steady, holds⟩
        | cons j rest =>
          simp only [List.isEmpty_cons, Bool.false_eq_true, if_false]
          have exhausted := steady.exhausted (List.cons_ne_nil j rest)
          have new : j ∉ b.started := fun started => steady.idle.not_ended
            (steady.queued.gaveWay j List.mem_cons_self) (steady.mem_started.mp started)
          have short := steady.length_lt (steady.queued.bounded j List.mem_cons_self) new
          rw [exhausted] at holds
          refine ih (steady.pauses failure (List.cons_ne_nil j rest)) ?_
          rw [budget_pause allowance exhausted]
          exact ordered.pauses (List.cons_ne_nil j rest) short holds
      | cons i rest =>
        have bound := steady.queued.bounded i List.mem_cons_self
        have looked := steady.sound.look calls table entries[i] failure bound
        simp only [List.getElem?_eq_getElem bound]
        by_cases ended : i ∈ b.fanOut.ended
        · have small : large = false := by
            by_contra queueing
            have active := steady.queued.queue (by simpa using queueing) i List.mem_cons_self
            exact steady.idle.not_ended active ended
          rw [steady.idle.look_ended ended] at looked ⊢
          simp only [Option.toList_none, List.append_nil, ite_self, Bool.false_eq_true, if_false]
          exact ih (steady.passes failure looked (by simp))
            (ordered.skips small (steady.mem_started.mpr ended) holds)
        have new : i ∉ b.started := fun started => ended (steady.mem_started.mp started)
        cases exhausted : b.exhausted with
        | true =>
          have budget := exhausted_iff.mp exhausted
          rw [steady.idle.look_exhausted ended exhausted] at looked ⊢
          simp only [Option.toList_none, List.append_nil, ite_self, if_true]
          refine ih (steady.passes failure looked fun _ => budget) ?_
          rw [budget] at holds ⊢
          exact ordered.givesWay holds
        | false =>
          obtain ⟨steady', woken, gave, started, budget⟩ := steady.inserts immediate failure
            (List.getElem?_eq_getElem bound) ended exhausted (l := look calls table large _ i b) rfl
          simp only [woken, gave, Option.toList_none, List.append_nil, ite_self,
            Bool.false_eq_true, if_false]
          refine ih steady' ?_
          rw [started, budget]
          refine ordered.inserts new (steady.length_lt bound new) (fun none => ?_) holds
          rw [exhausted_iff.mpr none] at exhausted
          cases exhausted

end Runs

/-! ## The orders of a run -/

section Orders

variable {full n : Nat} {large : Bool}

/-- The entries from one on, the first of them taken off. -/
theorem cons_eq_range' {i k : Nat} {queue : List Nat} (same : i :: queue = List.range' k (n - k)) :
    i = k ∧ k < n ∧ queue = List.range' (k + 1) (n - (k + 1)) := by
  cases rest : n - k with
  | zero => simp [rest] at same
  | succ m =>
    rw [rest, List.range'_succ, List.cons.injEq] at same
    rw [show n - (k + 1) = m by omega]
    exact ⟨same.1, by omega, same.2⟩

/-- A small group, and a group without a cap, go through their entries in order: the queue begins
no later than with the first entry that has not started, unless no permit is left. -/
theorem ordered_range (full : Nat) (large : Bool) (n : Nat) :
    Ordered full large n fun started left queue _ =>
      ∃ m k, started.reverse = List.range m ∧ m ≤ n ∧ queue = List.range' k (n - k) ∧
        (k ≤ m ∨ left = some 0) ∧ (large = true → left = none) where
  skips := by
    rintro started left i queue - small mem ⟨m, k, begun, bound, same, early, counted⟩
    obtain ⟨rfl, short, rest⟩ := cons_eq_range' same
    rw [← List.mem_reverse, begun, List.mem_range] at mem
    exact ⟨m, i + 1, begun, bound, rest, .inl mem, counted⟩
  givesWay := by
    rintro started i queue - ⟨m, k, begun, bound, same, -, counted⟩
    obtain ⟨rfl, short, rest⟩ := cons_eq_range' same
    exact ⟨m, i + 1, begun, bound, rest, .inr rfl, counted⟩
  inserts := by
    rintro started left i queue - new - allowed ⟨m, k, begun, bound, same, early, counted⟩
    obtain ⟨rfl, short, rest⟩ := cons_eq_range' same
    rw [← List.mem_reverse, begun, List.mem_range] at new
    have next : m = i := by
      have le := early.resolve_right allowed
      omega
    subst next
    refine ⟨m + 1, m + 1, ?_, short, rest, .inl le_rfl, fun queueing => ?_⟩
    · rw [List.reverse_cons, begun, List.range_succ]
    · rw [counted queueing]
      rfl
  pauses := by
    rintro started gaveWay - - ⟨m, k, begun, bound, -, -, counted⟩
    cases large with
    | true => cases counted rfl
    | false =>
      exact ⟨m, 0, begun, bound, by simp [List.range_eq_range'], .inl (Nat.zero_le m), by simp⟩

/-- The entries of a large group with a cap take turns. -/
theorem ordered_turns (full n : Nat) (whole : List Nat) :
    Ordered full true n fun started left queue gaveWay =>
      ∃ a, left = some a ∧ (gaveWay ≠ [] → a = 0) ∧
        started.reverse ++ planned full a queue gaveWay = whole where
  skips := by simp
  givesWay := by
    rintro started i queue gaveWay ⟨a, same, -, whole⟩
    obtain rfl : 0 = a := Option.some.inj same
    exact ⟨0, rfl, fun _ => rfl, by rw [← planned_giveWay]; exact whole⟩
  inserts := by
    rintro started left i queue gaveWay - - allowed ⟨a, rfl, exhausted, whole⟩
    cases a with
    | zero => exact absurd rfl allowed
    | succ a =>
      refine ⟨a, rfl, fun some => absurd (exhausted some) (Nat.succ_ne_zero a), ?_⟩
      rw [planned_insert] at whole
      rw [List.reverse_cons, List.append_assoc, List.singleton_append]
      exact whole
  pauses := by
    rintro started gaveWay some - ⟨a, same, -, whole⟩
    obtain rfl : 0 = a := Option.some.inj same
    exact ⟨max 1 full, rfl, by simp, by rw [if_pos rfl, ← planned_round some]; exact whole⟩

/-- The permits that are left at the end can be told from those left now. -/
theorem ordered_permitsLeft (full : Nat) (large : Bool) (n atEnd : Nat) :
    Ordered full large n fun started left _ _ =>
      ∃ a, left = some a ∧ permitsLeft full a (n - started.length) = atEnd where
  skips := fun _ _ holds => holds
  givesWay := fun holds => holds
  inserts := by
    rintro started left i queue - - short allowed ⟨a, rfl, holds⟩
    cases a with
    | zero => exact absurd rfl allowed
    | succ a =>
      refine ⟨a, rfl, ?_⟩
      rw [← holds, List.length_cons,
        show n - started.length = (n - (started.length + 1)) + 1 by omega, permitsLeft_succ]
  pauses := by
    rintro started gaveWay - short ⟨a, same, holds⟩
    obtain rfl : 0 = a := Option.some.inj same
    refine ⟨max 1 full, rfl, ?_⟩
    rw [← holds, show n - started.length = (n - (started.length + 1)) + 1 by omega,
      permitsLeft_pause]

/-- Two things that stay true stay true together. -/
theorem Ordered.and {p q : List Nat → Option Nat → List Nat → List Nat → Prop}
    (left : Ordered full large n p) (right : Ordered full large n q) :
    Ordered full large n fun started budget queue gaveWay =>
      p started budget queue gaveWay ∧ q started budget queue gaveWay where
  skips small mem holds := ⟨left.skips small mem holds.1, right.skips small mem holds.2⟩
  givesWay holds := ⟨left.givesWay holds.1, right.givesWay holds.2⟩
  inserts new short allowed holds :=
    ⟨left.inserts new short allowed holds.1, right.inserts new short allowed holds.2⟩
  pauses some short holds := ⟨left.pauses some short holds.1, right.pauses some short holds.2⟩

end Orders

/-! ## What a run does -/

/-- What a run does with a group on a store whose inserts never give way. -/
structure Course (insert : Item → σ → Except StoreError Unit × σ) (entries : List PreparedEntry)
    (cap : Option Nat) (full left : Nat) (first last : Batch σ) : Prop where
  /-- The inserts take place one after the other. -/
  inserted : Inserted insert entries first.store last.results last.store
  started : last.started = last.results.map Prod.fst
  order : last.started.reverse <+: insertionOrder cap full left entries.length
  /-- A group that does not fail inserts every entry. -/
  complete : last.failure = none →
    last.started.reverse = insertionOrder cap full left entries.length ∧
      last.allowance =
        some (if cap.isSome then permitsLeft full left entries.length else left)
  /-- A group that fails ends with the insert after which its failure can be told. -/
  stops : ∀ e, last.failure = some e → ∃ i r rest, last.results = (i, r) :: rest ∧
    ∀ k e, rest.lookup k = some (.error e) →
      Batch.smallSize < entries.length ∧ ∃ j < k, rest.lookup j = none

section Courses

variable {calls : TableStore σ} {insert : String → Item → σ → Except StoreError Unit × σ}
  {table : String} {cap : Option Nat} {large : Bool} {entries : List PreparedEntry} {full : Nat}

/-- A run begins steady. -/
theorem steady_start (insert : String → Item → σ → Except StoreError Unit × σ) (table : String)
    (store : σ) (log : Log) (allowance : Option Nat) :
    Steady (insert table) entries cap large (start cap store log allowance)
      (start cap store log allowance) (List.range entries.length) [] where
  sound := sound_start store log allowance
  queued := queued_start store log allowance
  idle := ⟨rfl, rfl, rfl, rfl⟩
  inserted := .nothing
  started := rfl
  exhausted := by simp
  uncapped _ := rfl
  last := by simp [start]

/-- A group that has not failed has started every insert. -/
theorem length_started_runAll (calls : TableStore σ) (table : String)
    (entries : List PreparedEntry) (cap : Option Nat) (store : σ) (log : Log)
    (allowance : Option Nat)
    (ok : ((start cap store log allowance).runAll calls table entries).failure = none) :
    ((start cap store log allowance).runAll calls table entries).started.length =
      entries.length := by
  have ended := result_runAll calls table entries cap store log allowance
  rw [outcome, ok] at ended
  have perm := (sound_runAll calls table entries cap store log allowance).started_perm ended
  simpa using perm.length_eq

/-- A run that inserts the entries in order takes its course. -/
theorem Steady.course {first last : Batch σ} {queue gaveWay whole : List Nat} {left : Nat}
    (steady : Steady (insert table) entries cap (decide (smallSize < entries.length)) first last
      queue gaveWay)
    (length : last.failure = none → last.started.length = entries.length)
    (whole_eq : insertionOrder cap full left entries.length = whole)
    (order : last.started.reverse <+: whole)
    (allowance : last.started.length = entries.length → last.allowance =
      some (if cap.isSome then permitsLeft full left entries.length else left)) :
    Course (insert table) entries cap full left first last where
  inserted := steady.inserted
  started := steady.started
  order := by rw [whole_eq]; exact order
  complete ok := by
    refine ⟨?_, allowance (length ok)⟩
    have perm := insertionOrder_perm cap full left entries.length
    rw [whole_eq] at perm ⊢
    refine order.eq_of_length ?_
    rw [List.length_reverse, length ok, perm.length_eq, List.length_range]
  stops e failed := by
    obtain ⟨i, r, rest, same, untold⟩ := steady.last e failed
    exact ⟨i, r, rest, same, fun k e ended => by simpa using untold k e ended⟩

/-- The first of the entries are the beginning of all of them. -/
theorem range_prefix {m n : Nat} (bound : m ≤ n) : List.range m <+: List.range n := by
  have taken := List.take_prefix m (List.range n)
  rwa [List.take_range, Nat.min_eq_left bound] at taken

/-- What a run does with a group on a store whose inserts never give way. A small group is gone
through in order, round after round; in a large one those that gave way are looked at in the turns
that the allowance gives. -/
theorem course_runAll (immediate : calls.Immediate insert) (allowance : calls.allowance = some full)
    (table : String) (entries : List PreparedEntry) (cap : Option Nat)
    (store : σ) (log : Log) (left : Nat) :
    Course (insert table) entries cap full left (start cap store log (some left))
      ((start cap store log (some left)).runAll calls table entries) := by
  have length := length_started_runAll calls table entries cap store log (some left)
  have ordered {order : List Nat → Option Nat → List Nat → List Nat → Prop}
      (kept : Ordered full (decide (smallSize < entries.length)) entries.length order)
      (holds : order [] (start cap store log (some left)).budget (List.range entries.length) []) :=
    (steady_start insert table store log (some left)).run immediate allowance
      kept holds ((4 * entries.length + 2) * (entries.length + 2))
  have inOrder := ordered_range full (decide (smallSize < entries.length)) entries.length
  have range : List.range entries.length = List.range' 0 (entries.length - 0) :=
    List.range_eq_range'
  cases cap with
  | none =>
    obtain ⟨queue, gaveWay, steady, m, k, begun, bound, -⟩ := ordered inOrder
      ⟨0, 0, rfl, Nat.zero_le _, range, .inl le_rfl, fun _ => rfl⟩
    refine steady.course length (insertionOrder_eq_range (.inl rfl)) ?_ fun _ => steady.uncapped rfl
    exact begun ▸ range_prefix bound
  | some c =>
    have permits := ordered_permitsLeft full (decide (smallSize < entries.length)) entries.length
      (permitsLeft full left entries.length)
    have budget : (start (some c) store log (some left)).budget = some left := rfl
    have atEnd {last : Batch σ} (idle : last.Idle (some c)) (a : Nat) (same : last.budget = some a)
        (left' : permitsLeft full a (entries.length - last.started.length) =
          permitsLeft full left entries.length)
        (all : last.started.length = entries.length) :
        last.allowance = some (permitsLeft full left entries.length) := by
      rw [Batch.budget, idle.free] at same
      rw [all, Nat.sub_self] at left'
      rw [← left']
      simpa [permitsLeft] using same
    by_cases small : entries.length ≤ smallSize
    · obtain ⟨queue, gaveWay, steady, ⟨m, k, begun, bound, -⟩, a, same, left'⟩ := ordered
        (inOrder.and permits) ⟨⟨0, 0, rfl, Nat.zero_le _, range, .inl le_rfl, fun queueing => by
          simp only [decide_eq_true_eq] at queueing
          omega⟩, left, budget, rfl⟩
      refine steady.course length (insertionOrder_eq_range (.inr (.inl small))) ?_
        (atEnd steady.idle a same left')
      exact begun ▸ range_prefix bound
    · have big : decide (smallSize < entries.length) = true := by
        rw [decide_eq_true_eq]
        omega
      have takeTurns := ordered_turns full entries.length
        (turns full left (List.range entries.length))
      rw [← big] at takeTurns
      obtain ⟨queue, gaveWay, steady, ⟨_, _, -, whole⟩, a, same, left'⟩ := ordered
        (takeTurns.and permits) ⟨⟨left, budget, by simp, planned_nil⟩, left, budget, rfl⟩
      refine steady.course length ?_ ⟨_, whole⟩ (atEnd steady.idle a same left')
      exact if_pos ⟨rfl, by omega⟩

end Courses

end Batch

end TableSeed
