import TableSeed.Proofs.FanOut.Schedule

/-!
# Groups come to an end

As long as a group has not ended, some insert can go on by itself, and whenever an insert goes on
there is less work left. So a group comes to its end if the run pauses and then looks at every
entry often enough, however the other moves fall. The order in which a run looks at the entries is
one such schedule, though it looks at the entries of a large group only when they can go on.
-/

namespace TableSeed

namespace Batch

variable {σ : Type} {calls : TableStore σ} {table : String} {cap : Option Nat} {large : Bool}
  {entries : List PreparedEntry} {n : Nat} {b : Batch σ} {i : Nat}

/-- A failure stays. -/
theorem failure_move {e : StoreError} (failed : b.failure = some e) (m : Move σ) :
    (b.move calls table large entries m).failure = some e := by
  cases m <;> simp [Batch.move, pause, failed]

/-- A failure stays, whatever follows. -/
theorem failure_follow {e : StoreError} (failed : b.failure = some e) (moves : List (Move σ)) :
    (b.follow calls table large entries moves).failure = some e := by
  induction moves generalizing b with
  | nil => exact failed
  | cons m moves ih => exact ih (failure_move failed m)

/-- A group that goes on in the end went on all the time. -/
theorem ongoing_of_follow (moves : List (Move σ))
    (ongoing : (b.follow calls table large entries moves).failure = none) : b.failure = none := by
  cases failure : b.failure with
  | none => rfl
  | some e =>
    rw [failure_follow failure] at ongoing
    cases ongoing

/-- After a pause a permit may be taken. -/
theorem exhausted_pause (calls : TableStore σ) (b : Batch σ) :
    (b.pause calls).exhausted = false := by
  unfold exhausted pause TableStore.fullAllowance
  cases calls.allowance with
  | none => simp
  | some a =>
    have positive : max 1 a ≠ 0 := by omega
    simp [positive]

/-- A group has not ended as long as it has not failed and there is work left. -/
theorem result_eq_none_iff :
    b.result? n = none ↔ b.failure = none ∧ b.fanOut.work n ≠ 0 := by
  have atEnd (i : Nat) : (b.fanOut.stage i).distance = 0 ↔ i ∈ b.fanOut.ended := by
    rw [← FanOut.stage_eq_ended]
    cases b.fanOut.stage i <;> simp [Stage.distance]
  unfold result?
  cases b.failure with
  | some e => simp
  | none => simp [FanOut.work, atEnd]

section Fairness

/-- A move of a group that goes on leaves less work, or it changes nothing in the fan-out. -/
theorem Sound.work_move (sound : b.Sound cap large entries.length) (calls : TableStore σ)
    (table : String) (m : Move σ) (ongoing : b.failure = none) :
    (b.move calls table large entries m).fanOut.work entries.length <
        b.fanOut.work entries.length ∨
      (b.move calls table large entries m).fanOut = b.fanOut ∧
        (b.exhausted = false → (b.move calls table large entries m).exhausted = false) := by
  cases m with
  | look i =>
    simp only [Batch.move, ongoing, Option.isSome_none, Bool.false_eq_true, if_false]
    split
    · rename_i entry found
      obtain ⟨bound, -⟩ := List.getElem?_eq_some_iff.mp found
      rcases (sound.look calls table entry ongoing bound).moved with ⟨same, -, -⟩ | ⟨-, moves⟩
      · rw [same]
        exact .inr ⟨rfl, id⟩
      · exact .inl (moves.work_lt bound)
    · exact .inr ⟨rfl, id⟩
  | progress change => exact .inr ⟨rfl, id⟩
  | pause => exact .inr ⟨rfl, fun _ => exhausted_pause calls b⟩
  | giveUp i =>
    simp only [Batch.move, ongoing, Option.isSome_none, Bool.false_eq_true, if_false]
    exact .inr ⟨trivial, id⟩

/-- Looking at an insert that can go on leaves less work, if a permit may be taken. -/
theorem Sound.work_look (sound : b.Sound cap large entries.length) (calls : TableStore σ)
    (table : String) (ongoing : b.failure = none) (bound : i < entries.length)
    (active : (b.fanOut.stage i).active = true)
    (allowed : b.exhausted = false) :
    (b.move calls table large entries (.look i)).fanOut.work entries.length <
      b.fanOut.work entries.length := by
  simp only [Batch.move, ongoing, Option.isSome_none, Bool.false_eq_true, if_false,
    List.getElem?_eq_getElem bound]
  rcases (sound.look calls table entries[i] ongoing bound).moved with ⟨-, -, stuck⟩ | ⟨-, moves⟩
  · rw [(stuck active).1] at allowed
    cases allowed
  · exact moves.work_lt bound

/-- Moves of a group that goes on leave less work, or they change nothing in the fan-out. -/
theorem Sound.work_follow (sound : b.Sound cap large entries.length) (calls : TableStore σ)
    (table : String) (moves : List (Move σ))
    (ongoing : (b.follow calls table large entries moves).failure = none) :
    (b.follow calls table large entries moves).fanOut.work entries.length <
        b.fanOut.work entries.length ∨
      (b.follow calls table large entries moves).fanOut = b.fanOut ∧
        (b.exhausted = false → (b.follow calls table large entries moves).exhausted = false) := by
  induction moves generalizing b with
  | nil => exact .inr ⟨rfl, id⟩
  | cons m moves ih =>
    have first := ongoing_of_follow (m :: moves) ongoing
    rcases sound.work_move calls table m first with less | ⟨same, allowed⟩ <;>
      rcases ih (sound.move calls table m) ongoing with less' | ⟨same', allowed'⟩
    · exact .inl (less'.trans less)
    · refine .inl (lt_of_eq_of_lt (congrArg (FanOut.work _) same') less)
    · exact .inl (lt_of_lt_of_eq less' (congrArg (FanOut.work _) same))
    · exact .inr ⟨same'.trans same, fun a => allowed' (allowed a)⟩

/-- Moves that begin with a pause after which the run looks at every entry. -/
def Fair (n : Nat) (moves : List (Move σ)) : Prop :=
  ∃ rest, moves = .pause :: rest ∧ ∀ i < n, .look i ∈ rest

/-- A fair round leaves less work, unless the group ends in it. -/
theorem Sound.work_fair (sound : b.Sound cap large entries.length) (calls : TableStore σ)
    (table : String) {moves : List (Move σ)} (fair : Fair entries.length moves)
    (unfinished : (b.follow calls table large entries moves).result? entries.length = none) :
    (b.follow calls table large entries moves).fanOut.work entries.length <
      b.fanOut.work entries.length := by
  obtain ⟨ongoing, work⟩ := result_eq_none_iff.mp unfinished
  obtain ⟨rest, rfl, looks⟩ := fair
  have paused : (b.pause calls).Sound cap large entries.length := sound.congr rfl rfl rfl rfl rfl
  have whole := paused.work_follow calls table rest ongoing
  have first : (b.pause calls).result? entries.length = none := by
    refine result_eq_none_iff.mpr ⟨ongoing_of_follow rest ongoing, fun done => ?_⟩
    rcases whole with less | ⟨same, -⟩
    · omega
    · exact work ((congrArg (FanOut.work _) same).trans done)
  obtain ⟨i, bound, active⟩ := paused.exists_active first
  obtain ⟨before, after, rfl⟩ := List.append_of_mem (looks i bound)
  have split : b.follow calls table large entries (.pause :: (before ++ .look i :: after)) =
      (((b.pause calls).follow calls table large entries before).move calls table large entries
        (.look i)).follow calls table large entries after := by
    simp only [Batch.follow, List.foldl_cons, List.foldl_append]
    rfl
  rw [split] at ongoing ⊢
  have reached := paused.follow calls table before
  have middle := ongoing_of_follow after ongoing
  have start := ongoing_of_follow [.look i] middle
  have later := (reached.move calls table (.look i)).work_follow calls table after ongoing
  have look := reached.work_move calls table (.look i) start
  have atMost {f g : FanOut} {P : Prop}
      (change : f.work entries.length < g.work entries.length ∨ f = g ∧ P) :
      f.work entries.length ≤ g.work entries.length :=
    change.elim le_of_lt fun same => le_of_eq (congrArg _ same.1)
  rcases paused.work_follow calls table before start with less | ⟨same, allowed⟩
  · exact (atMost later).trans_lt ((atMost look).trans_lt less)
  · refine (atMost later).trans_lt ?_
    rw [← same] at active
    have moved := reached.work_look calls table start bound active
      (allowed (exhausted_pause calls b))
    rw [same] at moved
    exact moved

/-- A group ends after as many fair rounds as there is work, at the latest. -/
theorem Sound.result_of_fair (sound : b.Sound cap large entries.length) (calls : TableStore σ)
    (table : String) (rounds : List (List (Move σ)))
    (fair : ∀ moves ∈ rounds, Fair entries.length moves)
    (many : b.fanOut.work entries.length ≤ rounds.length) :
    ((b.follow calls table large entries rounds.flatten).result? entries.length).isSome := by
  rw [Option.isSome_iff_ne_none]
  intro unfinished
  induction rounds generalizing b with
  | nil => exact (result_eq_none_iff.mp unfinished).2 (Nat.le_zero.mp many)
  | cons moves rounds ih =>
    rw [List.flatten_cons, Batch.follow, List.foldl_append] at unfinished
    have kept := sound.follow calls table moves
    refine ih kept (fun later mem => fair later (List.mem_cons_of_mem _ mem)) ?_ unfinished
    by_contra more
    have went := (result_eq_none_iff.mp unfinished).1
    have ongoing := ongoing_of_follow rounds.flatten went
    have left : (b.follow calls table large entries moves).fanOut.work entries.length ≠ 0 := by
      omega
    have less := sound.work_fair calls table
      (fair moves List.mem_cons_self) (result_eq_none_iff.mpr ⟨ongoing, left⟩)
    rw [List.length_cons] at many
    omega

end Fairness

/-! ## The order of a run -/

section Order

/-- A run makes moves of its own, one after the other. -/
theorem exists_follow_eq_run (b : Batch σ) (queue gaveWay : List Nat) (fuel : Nat) :
    ∃ moves : List (Move σ), (∀ m ∈ moves, m.OfRun) ∧
      run calls table large entries b queue gaveWay fuel =
        b.follow calls table large entries moves := by
  induction fuel generalizing b queue gaveWay with
  | zero => exact ⟨[], by simp, rfl⟩
  | succ fuel ih =>
    unfold run
    by_cases failed : b.failure.isSome = true
    · simp only [failed, if_true]
      exact ⟨[], by simp, rfl⟩
    simp only [failed]
    cases queue with
    | nil =>
      by_cases done : (gaveWay.isEmpty && b.fanOut.granted.isEmpty) = true
      · simp only [done, if_true]
        exact ⟨[], by simp, rfl⟩
      · simp only [done]
        obtain ⟨moves, own, same⟩ := ih (b.pause calls)
          (if large then gaveWay else List.range entries.length) []
        exact ⟨.pause :: moves, List.forall_mem_cons.mpr ⟨trivial, own⟩, same⟩
    | cons i rest =>
      simp only
      cases found : entries[i]? with
      | none => exact ih b rest gaveWay
      | some entry =>
        obtain ⟨moves, own, same⟩ := ih (look calls table large entry i b).batch
          (if large then rest ++ (look calls table large entry i b).woken.toList else rest)
          (if (look calls table large entry i b).gaveWay then i :: gaveWay else gaveWay)
        refine ⟨.look i :: moves, List.forall_mem_cons.mpr ⟨trivial, own⟩, same.trans ?_⟩
        simp only [Batch.follow, List.foldl_cons, Batch.move, failed, found, Bool.false_eq_true,
          if_false]

/-- The inserts of a group are moved on by the run, one move after the other. -/
theorem exists_follow_eq_runAll (calls : TableStore σ) (table : String)
    (entries : List PreparedEntry) (b : Batch σ) :
    ∃ moves : List (Move σ), (∀ m ∈ moves, m.OfRun) ∧ b.runAll calls table entries =
      b.follow calls table (smallSize < entries.length) entries moves :=
  exists_follow_eq_run b _ _ _

/-- The entries that a run has still to look at: those of the queue in this round, and those that
gave way in the next. -/
structure Queued (large : Bool) (n : Nat) (b : Batch σ) (queue gaveWay : List Nat) : Prop where
  nodup : (queue ++ gaveWay).Nodup
  bounded : ∀ i ∈ queue ++ gaveWay, i < n
  /-- An insert that can go on is queued. A small group finds those that got a permit without. -/
  covers : ∀ i < n, (b.fanOut.stage i).active = true →
    i ∈ queue ++ gaveWay ∨ large = false ∧ b.fanOut.stage i = .granted
  gaveWay : ∀ i ∈ gaveWay, (b.fanOut.stage i).active = true
  queue : large = true → ∀ i ∈ queue, (b.fanOut.stage i).active = true

/-- The first round looks at every entry. -/
theorem queued_start (store : σ) (log : Log) (allowance : Option Nat) :
    Queued large n (start cap store log allowance) (List.range n) [] where
  nodup := by simpa using List.nodup_range
  bounded := by simp
  covers i bound _ := .inl (by simpa using bound)
  gaveWay := by simp
  queue _ i _ := by
    have new : (FanOut.ofCap cap).stage i = .new :=
      FanOut.stage_eq_new.mpr (by simp [FanOut.asked, FanOut.ofCap])
    rw [start, new]
    rfl

/-- A look changes no other insert but the one that it wakes. -/
theorem LookedAt.others {l : Look σ} (looked : LookedAt cap large n b i l) :
    (∀ j, j ≠ i → l.woken ≠ some j → l.batch.fanOut.stage j = b.fanOut.stage j) ∧
      ∀ w, l.woken = some w →
        w ≠ i ∧ b.fanOut.stage w = .waiting ∧ l.batch.fanOut.stage w = .granted := by
  rcases looked.moved with ⟨same, none, -⟩ | ⟨-, moves⟩
  · rw [same, none]
    exact ⟨fun _ _ _ => rfl, by simp⟩
  · exact ⟨moves.others, moves.woken⟩

/-- A look leaves the others that can go on as they are: the one that it wakes has waited. -/
theorem LookedAt.stage_of_active {l : Look σ} (looked : LookedAt cap large n b i l) {j : Nat}
    (ne : j ≠ i) (active : (b.fanOut.stage j).active = true) :
    l.batch.fanOut.stage j = b.fanOut.stage j := by
  obtain ⟨others, woken⟩ := looked.others
  refine others j ne fun got => ?_
  rw [(woken j got).2.1] at active
  cases active

/-- Who stands in the queues after a look. -/
theorem mem_queues_iff {queue gaveWay : List Nat} {l : Look σ} {j : Nat} :
    j ∈ (if large then queue ++ l.woken.toList else queue) ++
        (if l.gaveWay then i :: gaveWay else gaveWay) ↔
      j ∈ queue ++ gaveWay ∨ large = true ∧ l.woken = some j ∨ l.gaveWay = true ∧ j = i := by
  cases large <;> cases l.gaveWay <;> simp [Option.mem_toList] <;> tauto

/-- An entry that is woken is queued once more, if it is not queued yet. -/
theorem nodup_requeue {queue gaveWay : List Nat} {woken : Option Nat}
    (nodup : (queue ++ gaveWay).Nodup)
    (fresh : ∀ w, large = true → woken = some w → w ∉ queue ++ gaveWay) :
    ((if large then queue ++ woken.toList else queue) ++ gaveWay).Nodup := by
  cases large with
  | false => exact nodup
  | true =>
    cases woken with
    | none => simpa using nodup
    | some w =>
      simp only [if_true, Option.toList_some, List.append_assoc, List.singleton_append]
      exact List.nodup_middle.mpr (List.nodup_cons.mpr ⟨fresh w rfl rfl, nodup⟩)

/-- After a look no entry is queued twice. -/
theorem Queued.nodup_look {queue gaveWay : List Nat}
    (queued : Queued large n b (i :: queue) gaveWay) {l : Look σ}
    (looked : LookedAt cap large n b i l) :
    ((if large then queue ++ l.woken.toList else queue) ++
      (if l.gaveWay then i :: gaveWay else gaveWay)).Nodup := by
  obtain ⟨-, woken⟩ := looked.others
  obtain ⟨apart, nodup⟩ := List.nodup_cons.mp queued.nodup
  have fresh (w : Nat) (queueing : large = true) (got : l.woken = some w) :
      w ∉ queue ++ gaveWay := by
    intro mem
    have active : (b.fanOut.stage w).active = true := by
      rcases List.mem_append.mp mem with early | late
      · exact queued.queue queueing w (List.mem_cons_of_mem _ early)
      · exact queued.gaveWay w late
    rw [(woken w got).2.1] at active
    cases active
  cases l.gaveWay with
  | false => exact nodup_requeue nodup fresh
  | true =>
    refine nodup_requeue (List.nodup_middle.mpr (List.nodup_cons.mpr ⟨apart, nodup⟩)) ?_
    intro w queueing got mem
    rw [if_pos rfl, List.perm_middle.mem_iff, List.mem_cons] at mem
    exact mem.elim (woken w got).1 (fresh w queueing got)

/-- A look at the first entry of the queue keeps the others queued, and queues those it wakes. -/
theorem Queued.look {queue gaveWay : List Nat} (queued : Queued large n b (i :: queue) gaveWay)
    {l : Look σ} (looked : LookedAt cap large n b i l) :
    Queued large n l.batch (if large then queue ++ l.woken.toList else queue)
      (if l.gaveWay then i :: gaveWay else gaveWay) := by
  obtain ⟨others, woken⟩ := looked.others
  have apart : i ∉ queue ++ gaveWay := (List.nodup_cons.mp queued.nodup).1
  constructor
  case nodup => exact queued.nodup_look looked
  case bounded =>
    intro j mem
    rcases mem_queues_iff.mp mem with old | ⟨-, got⟩ | ⟨-, rfl⟩
    · exact queued.bounded j (List.mem_cons_of_mem _ old)
    · refine looked.sound.bounded j (FanOut.mem_asked.mpr (.inr (.inl ?_)))
      exact (FanOut.stage_eq_granted looked.sound.permits.nodup).mp (woken j got).2.2
    · exact queued.bounded j List.mem_cons_self
  case covers =>
    intro j bound active
    rw [mem_queues_iff]
    by_cases same : j = i
    · subst same
      exact .inl (.inr (.inr ⟨looked.gaveWay.trans active, rfl⟩))
    by_cases got : l.woken = some j
    · cases large with
      | true => exact .inl (.inr (.inl ⟨rfl, got⟩))
      | false => exact .inr ⟨rfl, (woken j got).2.2⟩
    · rw [others j same got] at active ⊢
      rcases queued.covers j bound active with mem | granted
      · exact .inl (.inl ((List.mem_cons.mp mem).resolve_left same))
      · exact .inr granted
  case gaveWay =>
    intro j mem
    by_cases same : j = i
    · subst same
      rw [← looked.gaveWay]
      by_contra never
      rw [if_neg never] at mem
      exact apart (List.mem_append_right _ mem)
    · have old : j ∈ gaveWay := by
        split_ifs at mem
        · exact (List.mem_cons.mp mem).resolve_left same
        · exact mem
      have active := queued.gaveWay j old
      rw [looked.stage_of_active same active]
      exact active
  case queue =>
    intro queueing j mem
    rw [if_pos queueing, List.mem_append, Option.mem_toList] at mem
    rcases mem with old | got
    · have active := queued.queue queueing j (List.mem_cons_of_mem _ old)
      have other : j ≠ i := by
        rintro rfl
        exact apart (List.mem_append_left _ old)
      rw [looked.stage_of_active other active]
      exact active
    · rw [(woken j got).2.2]
      rfl

/-- The next round looks at those that gave way, and in a small group at every entry. -/
theorem Queued.round {gaveWay : List Nat} (queued : Queued large n b [] gaveWay)
    (calls : TableStore σ) :
    Queued large n (b.pause calls) (if large then gaveWay else List.range n) [] := by
  have nodup := queued.nodup
  have bounded := queued.bounded
  have covers := queued.covers
  rw [List.nil_append] at nodup bounded covers
  cases large with
  | true =>
    refine ⟨by simpa using nodup, by simpa using bounded, fun i bound active => .inl ?_, by simp,
      fun _ => queued.gaveWay⟩
    simpa using covers i bound active
  | false =>
    refine ⟨by simpa using List.nodup_range, by simp, fun i bound _ => .inl ?_, by simp, by simp⟩
    simpa using bound

/-- The queue of a round is no longer than the group. -/
theorem Queued.length_le {queue gaveWay : List Nat} (queued : Queued large n b queue gaveWay) :
    queue.length ≤ n := by
  have nodup := (List.nodup_append'.mp queued.nodup).1
  have subset : queue ⊆ List.range n := fun i mem =>
    List.mem_range.mpr (queued.bounded i (List.mem_append_left _ mem))
  simpa using (nodup.subperm subset).length_le

/-- A round that follows has an insert that can go on in its queue. -/
theorem Queued.exists_active {gaveWay : List Nat} (queued : Queued large n b [] gaveWay)
    (sound : b.Sound cap large n) (more : ¬(gaveWay.isEmpty && b.fanOut.granted.isEmpty) = true) :
    ∃ i ∈ (if large then gaveWay else List.range n), (b.fanOut.stage i).active = true := by
  have listed (i : Nat) (bound : i < n) (active : (b.fanOut.stage i).active = true)
      (late : large = true → i ∈ gaveWay) : ∃ i ∈ (if large then gaveWay else List.range n),
        (b.fanOut.stage i).active = true := by
    refine ⟨i, ?_, active⟩
    cases large with
    | true => exact late rfl
    | false => exact List.mem_range.mpr bound
  by_cases empty : gaveWay = []
  · have granted : b.fanOut.granted ≠ [] := by simpa [empty] using more
    obtain ⟨j, mem⟩ := List.exists_mem_of_ne_nil _ granted
    have bound := sound.bounded j (FanOut.mem_asked.mpr (.inr (.inl mem)))
    have active : (b.fanOut.stage j).active = true := by
      rw [(FanOut.stage_eq_granted sound.permits.nodup).mpr mem]
      rfl
    refine listed j bound active fun queueing => ?_
    rcases queued.covers j bound active with mem | ⟨small, -⟩
    · simpa using mem
    · rw [queueing] at small
      cases small
  · obtain ⟨i, mem⟩ := List.exists_mem_of_ne_nil _ empty
    exact listed i (queued.bounded i (by simpa using mem)) (queued.gaveWay i mem) fun _ => mem

/-- A group in which nobody is left to be looked at has ended. -/
theorem Queued.result_of_done {gaveWay : List Nat} (queued : Queued large n b [] gaveWay)
    (sound : b.Sound cap large n) (done : (gaveWay.isEmpty && b.fanOut.granted.isEmpty) = true) :
    (b.result? n).isSome := by
  rw [Option.isSome_iff_ne_none]
  intro unfinished
  obtain ⟨i, bound, active⟩ := sound.exists_active unfinished
  simp only [Bool.and_eq_true, List.isEmpty_iff] at done
  rcases queued.covers i bound active with mem | ⟨-, granted⟩
  · simp [done.1] at mem
  · rw [FanOut.stage_eq_granted sound.permits.nodup, done.2] at granted
    cases granted

/-- A look that moves an insert on takes from the work as much as it adds to the queue, and pays for
a round besides. -/
theorem LookedAt.fuel_le {l : Look σ} (looked : LookedAt cap large n b i l) (bound : i < n)
    (moves : b.fanOut.MovesOn l.batch.fanOut i l.woken) (rest : List Nat) :
    l.batch.fanOut.work n * (n + 2) +
        (if large then rest ++ l.woken.toList else rest).length + (n + 2) ≤
      b.fanOut.work n * (n + 2) + rest.length := by
  have within (w : Nat) (got : l.woken = some w) : w < n := by
    refine looked.sound.bounded w (FanOut.mem_asked.mpr (.inr (.inl ?_)))
    exact (FanOut.stage_eq_granted looked.sound.permits.nodup).mp (moves.woken w got).2.2
  have less := moves.work_add_woken_lt bound within
  have length : (if large then rest ++ l.woken.toList else rest).length ≤
      rest.length + l.woken.toList.length := by
    cases large <;> simp
  have rounds := Nat.mul_le_mul_right (n + 2) (Nat.succ_le_of_lt less)
  rw [Nat.succ_eq_add_one, add_mul, add_mul, one_mul] at rounds
  have positive : l.woken.toList.length ≤ l.woken.toList.length * (n + 2) :=
    Nat.le_mul_of_pos_right _ (Nat.succ_pos _)
  omega

/-- A run ends its group if it has fuel for a round for each move that is left to make, and for
the rest of the present round. A round in which nothing has moved on yet has an insert in its queue
that will. -/
theorem Sound.result_run (sound : b.Sound cap large entries.length) {queue gaveWay : List Nat}
    (queued : Queued large entries.length b queue gaveWay) (moved : Bool)
    (fresh : moved = false →
      b.exhausted = false ∧ ∃ i ∈ queue, (b.fanOut.stage i).active = true)
    {fuel : Nat} (enough : b.fanOut.work entries.length * (entries.length + 2) + queue.length + 1 +
      (if moved then entries.length + 2 else 0) ≤ fuel) :
    ((run calls table large entries b queue gaveWay fuel).result? entries.length).isSome := by
  induction fuel generalizing b queue gaveWay moved with
  | zero => omega
  | succ fuel ih =>
    unfold run
    cases failure : b.failure with
    | some e => simp [result?, failure]
    | none =>
      simp only [Option.isSome_none, Bool.false_eq_true, if_false]
      cases queue with
      | nil =>
        have progressed : moved = true := by
          by_contra still
          obtain ⟨i, mem, -⟩ := (fresh (by simpa using still)).2
          cases mem
        simp only
        by_cases done : (gaveWay.isEmpty && b.fanOut.granted.isEmpty) = true
        · rw [if_pos done]
          exact queued.result_of_done sound done
        · rw [if_neg done]
          have next := queued.round calls
          have paused : (b.pause calls).Sound cap large entries.length :=
            sound.congr rfl rfl rfl rfl rfl
          refine ih paused next false
            (fun _ => ⟨exhausted_pause calls b, queued.exists_active sound done⟩) ?_
          have length := next.length_le
          simp only [progressed, if_true, List.length_nil] at enough
          simp only [pause, Bool.false_eq_true, if_false]
          omega
      | cons i rest =>
        have bound := queued.bounded i List.mem_cons_self
        have looked := sound.look calls table entries[i] failure bound
        simp only [List.getElem?_eq_getElem bound]
        generalize Batch.look calls table large entries[i] i b = l at looked ⊢
        rw [List.length_cons] at enough
        rcases looked.moved with ⟨same, none, stuck⟩ | ⟨-, moves⟩
        · refine ih looked.sound (queued.look looked) moved (fun still => ?_) ?_
          · obtain ⟨allowed, j, mem, active⟩ := fresh still
            rw [same]
            refine ⟨allowed, j, ?_, active⟩
            have other : j ≠ i := by
              rintro rfl
              rw [(stuck active).1] at allowed
              cases allowed
            have later := (List.mem_cons.mp mem).resolve_left other
            cases large <;> simp [none, later]
          · rw [same, none]
            simp only [Option.toList_none, List.append_nil, ite_self]
            omega
        · refine ih looked.sound (queued.look looked) true (by simp) ?_
          have paid := looked.fuel_le bound moves rest
          simp only [if_true]
          omega

/-- What holds at every moment holds after a run. -/
theorem sound_runAll (calls : TableStore σ) (table : String) (entries : List PreparedEntry)
    (cap : Option Nat) (store : σ) (log : Log) (allowance : Option Nat) :
    ((start cap store log allowance).runAll calls table entries).Sound cap
      (decide (smallSize < entries.length)) entries.length := by
  obtain ⟨moves, -, same⟩ := exists_follow_eq_runAll calls table entries
    (start cap store log allowance)
  rw [same]
  exact (sound_start store log allowance).follow calls table moves

/-- A run moves the inserts of a group to their end. -/
theorem result_runAll (calls : TableStore σ) (table : String) (entries : List PreparedEntry)
    (cap : Option Nat) (store : σ) (log : Log) (allowance : Option Nat) :
    ((start cap store log allowance).runAll calls table entries).result? entries.length =
      some ((start cap store log allowance).runAll calls table entries).outcome := by
  have ended : (((start cap store log allowance).runAll calls table entries).result?
      entries.length).isSome := by
    have sound : (start cap store log allowance).Sound cap (decide (smallSize < entries.length))
        entries.length := sound_start store log allowance
    refine sound.result_run (queued_start store log allowance) true (by simp) ?_
    rw [start, FanOut.work_ofCap, List.length_range]
    simp only [if_true]
    ring_nf
    omega
  cases failure : ((start cap store log allowance).runAll calls table entries).failure with
  | some e => simp [result?, outcome, failure]
  | none =>
    simp only [result?, outcome, failure] at ended ⊢
    split_ifs at ended ⊢ with all
    · rfl
    · cases ended

end Order

end Batch

end TableSeed
