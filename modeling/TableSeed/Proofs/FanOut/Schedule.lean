import TableSeed.Proofs.FanOut.Permits
import TableSeed.Seeding.Batch

/-!
# Schedules of a group

The store decides when the inserts of a group go on, so the moves of a group come in any order:
the run looks at an entry, the store goes on, the run pauses, and once the group has failed its
other inserts are given up. Whatever the order, no insert starts twice, and the group ends well
exactly if each of its inserts has started once and has ended well.
-/

namespace TableSeed

/-- What may happen next while a group is inserted. -/
inductive Move (σ : Type) where
  /-- The run looks at an entry, whose insert goes on as far as it can. -/
  | look (i : Nat)
  /-- The store goes on with what it was asked for. -/
  | progress (change : σ → σ)
  /-- The run pauses. -/
  | pause
  /-- The insert of an entry is given up, which happens only after the group has failed. -/
  | giveUp (i : Nat)

/-- Whether a move is one that the run makes of itself, as long as the group goes on. -/
def Move.OfRun {σ : Type} : Move σ → Prop
  | .look _ | .pause => True
  | .progress _ | .giveUp _ => False

namespace Batch

variable {σ : Type}

/-- A move of a group. -/
def move (calls : TableStore σ) (table : String) (large : Bool) (entries : List PreparedEntry)
    (b : Batch σ) : Move σ → Batch σ
  | .look i =>
    if b.failure.isSome then b
    else
      match entries[i]? with
      | some entry => (look calls table large entry i b).batch
      | none => b
  | .progress change => { b with store := change b.store }
  | .pause => b.pause calls
  | .giveUp i => if b.failure.isSome then { b with fanOut := b.fanOut.giveUp i } else b

/-- Moves of a group, one after the other. -/
def follow (calls : TableStore σ) (table : String) (large : Bool) (entries : List PreparedEntry)
    (b : Batch σ) (moves : List (Move σ)) : Batch σ :=
  moves.foldl (move calls table large entries) b

/-- How a group of `n` entries has ended, if it has. -/
def result? (n : Nat) (b : Batch σ) : Option (Except StoreError Unit) :=
  match b.failure with
  | some e => some (.error e)
  | none => if ∀ i < n, i ∈ b.fanOut.ended then some (.ok ()) else none

/-- How far the ends of the inserts have been told. A small group tells each one at once, a large
group tells them in the order of the entries. -/
structure Telling (large : Bool) (b : Batch σ) : Prop where
  told : ∀ j < b.told, b.results.lookup j = some (.ok ())
  atOnce : large = false → b.failure = none → ∀ i r, b.results.lookup i = some r → r = .ok ()
  inOrder : large = true → b.failure = none → b.results.lookup b.told = none
  /-- The failure is that of an insert, in a large group the first one that failed. -/
  failed : ∀ e, b.failure = some e → ∃ i, b.results.lookup i = some (.error e) ∧
    (large = true → ∀ j < i, b.results.lookup j = some (.ok ()))

/-- What holds of a group of `n` entries at every moment. -/
structure Sound (cap : Option Nat) (large : Bool) (n : Nat) (b : Batch σ) : Prop where
  permits : b.fanOut.Sound cap
  bounded : ∀ i ∈ b.fanOut.asked, i < n
  once : b.started.Nodup
  /-- What is in flight or has ended was started. -/
  running : ∀ i, i ∈ b.fanOut.inFlight ∨ i ∈ b.fanOut.ended → i ∈ b.started
  /-- What was started is in flight or has ended, as long as nothing is given up. -/
  begun : b.failure = none → ∀ i ∈ b.started, i ∈ b.fanOut.inFlight ∨ i ∈ b.fanOut.ended
  ended : b.results.map Prod.fst = b.fanOut.ended
  telling : Telling large b

section Telling

variable {b : Batch σ} {i : Nat} {result : Except StoreError Unit}

/-- A result is told of an insert that has ended. -/
theorem lookup_isSome (ended : b.results.map Prod.fst = b.fanOut.ended) :
    (b.results.lookup i).isSome ↔ i ∈ b.fanOut.ended := by
  rw [← ended, List.lookup_isSome_iff, List.mem_map]
  constructor
  · rintro ⟨p, mem, same⟩
    exact ⟨p, mem, (by simpa using same : i = p.1).symm⟩
  · rintro ⟨p, mem, rfl⟩
    exact ⟨p, mem, by simp⟩

/-- No more ends are told than there are. -/
theorem told_le_length (told : ∀ j < b.told, b.results.lookup j = some (.ok ())) :
    b.told ≤ b.results.length := by
  have subset : (List.range b.told) ⊆ b.results.map Prod.fst := by
    intro j mem
    have some := told j (List.mem_range.mp mem)
    have isSome : (b.results.lookup j).isSome := by rw [some]; rfl
    obtain ⟨p, inside, same⟩ := List.lookup_isSome_iff.mp isSome
    exact List.mem_map.mpr ⟨p, inside, (by simpa using same : j = p.1).symm⟩
  simpa using (List.nodup_range.subperm subset).length_le

/-- Telling goes on until an end is missing or a failure is met. -/
theorem telling_tell (fuel : Nat) (told : ∀ j < b.told, b.results.lookup j = some (.ok ()))
    (ongoing : b.failure = none) (enough : b.results.length < b.told + fuel) :
    Telling true (b.tell fuel) := by
  induction fuel generalizing b with
  | zero =>
    have bound := told_le_length told
    omega
  | succ fuel ih =>
    unfold tell
    split
    · rename_i ended
      refine ih (fun j before => ?_) ongoing (by simp only; omega)
      rcases Nat.lt_succ_iff_lt_or_eq.mp before with earlier | rfl
      · exact told j earlier
      · exact ended
    · rename_i e ended
      exact ⟨told, by simp, by simp, fun e' same => ⟨b.told, by
        obtain rfl : e = e' := by simpa using same
        exact ended, fun _ => told⟩⟩
    · rename_i missing
      exact ⟨told, by simp, fun _ _ => missing, by simp [ongoing]⟩

/-- Telling changes what has been told only. -/
theorem tell_frame (b : Batch σ) (fuel : Nat) :
    (b.tell fuel).fanOut = b.fanOut ∧ (b.tell fuel).started = b.started ∧
      (b.tell fuel).results = b.results ∧ (b.tell fuel).store = b.store ∧
      (b.tell fuel).allowance = b.allowance := by
  induction fuel generalizing b with
  | zero => exact ⟨rfl, rfl, rfl, rfl, rfl⟩
  | succ fuel ih =>
    unfold tell
    split
    · exact ih _
    · exact ⟨rfl, rfl, rfl, rfl, rfl⟩
    · exact ⟨rfl, rfl, rfl, rfl, rfl⟩

/-- An insert that ends adds its result and gives its permit back. -/
theorem settle_frame (large : Bool) (b : Batch σ) (i : Nat) (result : Except StoreError Unit) :
    (settle large b i result).batch.fanOut = (b.fanOut.finish i).1 ∧
      (settle large b i result).batch.started = b.started ∧
      (settle large b i result).batch.results = (i, result) :: b.results ∧
      (settle large b i result).batch.store = b.store ∧
      (settle large b i result).batch.allowance = b.allowance := by
  cases large with
  | true => exact tell_frame _ _
  | false => cases result <;> exact ⟨rfl, rfl, rfl, rfl, rfl⟩

end Telling

/-! ## Moves keep what holds -/

section Moves

variable {calls : TableStore σ} {table : String} {cap : Option Nat} {large : Bool}
  {entries : List PreparedEntry} {entry : PreparedEntry} {n : Nat} {b : Batch σ} {i : Nat}
  {result : Except StoreError Unit}

/-- Taking a permit changes the allowance only. -/
theorem spend_frame (b : Batch σ) :
    b.spend.fanOut = b.fanOut ∧ b.spend.started = b.started ∧ b.spend.results = b.results ∧
      b.spend.told = b.told ∧ b.spend.failure = b.failure := by
  unfold spend
  split <;> exact ⟨rfl, rfl, rfl, rfl, rfl⟩

/-- The store, the log and the allowance may change freely. -/
theorem Sound.congr (sound : b.Sound cap large n) {c : Batch σ} (fanOut : c.fanOut = b.fanOut)
    (started : c.started = b.started) (results : c.results = b.results) (told : c.told = b.told)
    (failure : c.failure = b.failure) : c.Sound cap large n := by
  obtain ⟨permits, bounded, once, running, begun, ended, ⟨earlier, atOnce, inOrder, failed⟩⟩ :=
    sound
  constructor
  case telling => constructor <;> simp only [results, told, failure] <;> assumption
  all_goals simp only [fanOut, started, results, failure]; assumption

/-- Nothing has happened at first. -/
theorem sound_start (store : σ) (log : Log) (allowance : Option Nat) :
    (start cap store log allowance).Sound cap large n where
  permits := FanOut.sound_ofCap cap
  bounded := by simp [start, FanOut.asked, FanOut.ofCap]
  once := List.nodup_nil
  running := by simp [start, FanOut.ofCap]
  begun := by simp [start]
  ended := rfl
  telling := ⟨by simp [start], by simp [start], by simp [start], by simp [start]⟩

/-- The end of an insert is told as it should be. -/
theorem Telling.settle (telling : Telling large b) (ongoing : b.failure = none)
    (fresh : b.results.lookup i = none) :
    Telling large (Batch.settle large b i result).batch := by
  have kept (j : Nat) (r : Except StoreError Unit) (ended : b.results.lookup j = some r) :
      ((i, result) :: b.results).lookup j = some r := by
    have ne : j ≠ i := by
      rintro rfl
      rw [fresh] at ended
      cases ended
    rw [List.lookup_cons, beq_false_of_ne ne]
    exact ended
  have told (j : Nat) (before : j < b.told) :
      ((i, result) :: b.results).lookup j = some (.ok ()) := kept j _ (telling.told j before)
  cases large with
  | true => exact telling_tell _ told ongoing (by simp only [List.length_cons]; omega)
  | false =>
    cases result with
    | ok _ =>
      refine ⟨told, fun _ _ j r ended => ?_, by simp, by simp [Batch.settle, meet, ongoing]⟩
      by_cases same : j = i
      · subst same
        simpa [Batch.settle, meet] using ended.symm
      · simp only [Batch.settle, meet, Bool.false_eq_true, if_false, List.lookup_cons,
          beq_false_of_ne same] at ended
        exact telling.atOnce rfl ongoing j r ended
    | error e =>
      refine ⟨told, by simp [Batch.settle, meet], by simp, fun e' met => ⟨i, ?_, by simp⟩⟩
      obtain rfl : e = e' := by simpa [Batch.settle, meet] using met
      simp [Batch.settle, meet]

/-- An insert that ends keeps what holds. -/
theorem Sound.settle (sound : b.Sound cap large n) (ongoing : b.failure = none)
    (inFlight : i ∈ b.fanOut.inFlight) :
    (Batch.settle large b i result).batch.Sound cap large n := by
  obtain ⟨fanOut, started, results, -⟩ := settle_frame large b i result
  have fresh : b.results.lookup i = none := by
    rw [← Option.not_isSome_iff_eq_none, lookup_isSome sound.ended]
    exact (FanOut.places_disjoint sound.permits.nodup).2.2 inFlight
  have flight : (b.fanOut.finish i).1.inFlight = b.fanOut.inFlight.erase i :=
    (FanOut.release_frame _).1
  have atEnd : (b.fanOut.finish i).1.ended = i :: b.fanOut.ended := (FanOut.release_frame _).2
  refine ⟨?_, fun j asked => ?_, ?_, fun j standing => ?_, fun _ j mem => ?_, ?_,
    sound.telling.settle ongoing fresh⟩
  · rw [fanOut]
    exact sound.permits.finish inFlight
  · rw [fanOut, (FanOut.asked_finish inFlight).mem_iff] at asked
    exact sound.bounded j asked
  · rw [started]
    exact sound.once
  · rw [fanOut, flight, atEnd, List.mem_cons] at standing
    rw [started]
    rcases standing with flying | rfl | ended
    · exact sound.running j (.inl (List.mem_of_mem_erase flying))
    · exact sound.running j (.inl inFlight)
    · exact sound.running j (.inr ended)
  · rw [started] at mem
    rw [fanOut, flight, atEnd, List.mem_cons]
    by_cases same : j = i
    · exact .inr (.inl same)
    · rcases sound.begun ongoing j mem with flying | ended
      · exact .inl ((List.mem_erase_of_ne same).mpr flying)
      · exact .inr (.inr ended)
  · rw [results, fanOut, atEnd, List.map_cons, sound.ended]

/-- An insert that has started keeps what holds. -/
theorem Sound.enter (sound : b.Sound cap large n) (ongoing : b.failure = none)
    (unstarted : i ∉ b.started) {g : FanOut} (permits : g.Sound cap)
    (bounded : ∀ j ∈ g.asked, j < n) (flight : g.inFlight = i :: b.fanOut.inFlight)
    (ended : g.ended = b.fanOut.ended) {c : Batch σ} (fanOut : c.fanOut = g)
    (started : c.started = i :: b.started) (results : c.results = b.results)
    (told : c.told = b.told) (failure : c.failure = b.failure) : c.Sound cap large n := by
  refine ⟨?_, ?_, ?_, fun j standing => ?_, fun _ j mem => ?_, ?_, ?_⟩
  · rw [fanOut]
    exact permits
  · rw [fanOut]
    exact bounded
  · rw [started]
    exact List.nodup_cons.mpr ⟨unstarted, sound.once⟩
  · rw [fanOut, flight, ended, List.mem_cons] at standing
    rw [started, List.mem_cons]
    rcases standing with (rfl | flying) | ended
    · exact .inl rfl
    · exact .inr (sound.running j (.inl flying))
    · exact .inr (sound.running j (.inr ended))
  · rw [started, List.mem_cons] at mem
    rw [fanOut, flight, ended, List.mem_cons]
    rcases mem with rfl | mem
    · exact .inl (.inl rfl)
    · exact (sound.begun ongoing j mem).imp_left .inr
  · rw [results, fanOut, ended]
    exact sound.ended
  · obtain ⟨earlier, atOnce, inOrder, failed⟩ := sound.telling
    constructor <;> simp only [results, told, failure] <;> assumption

/-- An insert that starts keeps what holds. It gives way, or it ends at once. -/
theorem Sound.launch (sound : b.Sound cap large n) (ongoing : b.failure = none)
    (unstarted : i ∉ b.started) {g : FanOut} (permits : g.Sound cap)
    (bounded : ∀ j ∈ g.asked, j < n) (flight : g.inFlight = i :: b.fanOut.inFlight)
    (ended : g.ended = b.fanOut.ended) {l : Look σ}
    (looked : Batch.launch calls table large entry i { b with fanOut := g } = l) :
    l.batch.Sound cap large n ∧
      (l.batch.fanOut = g ∧ l.woken = none ∧ l.gaveWay = true ∨
        l.batch.fanOut = (g.finish i).1 ∧ l.woken = (g.finish i).2 ∧ l.gaveWay = false) := by
  obtain ⟨fanOut, started, results, told, failure⟩ := spend_frame { b with fanOut := g }
  have member : i ∈ g.inFlight := by
    rw [flight]
    exact List.mem_cons_self
  unfold Batch.launch at looked
  cases outcome : calls.startInsert table entry.item b.store with
  | mk progress store =>
    simp only [outcome] at looked
    cases progress with
    | givesWay =>
      subst looked
      exact ⟨sound.enter ongoing unstarted permits bounded flight ended fanOut rfl results told
        failure, .inl ⟨fanOut, rfl, rfl⟩⟩
    | finished result =>
      subst looked
      have entered (log : Log) : ({ ({ b with fanOut := g } : Batch σ).spend with
          log := log, store := store, started := i :: b.started } : Batch σ).Sound cap large n :=
        sound.enter ongoing unstarted permits bounded flight ended fanOut rfl results told failure
      refine ⟨(entered _).settle (failure.trans ongoing) (by rw [fanOut]; exact member),
        .inr ⟨?_, by simp only [Batch.settle, fanOut], rfl⟩⟩
      rw [(settle_frame large _ i result).1, fanOut]

/-- What a look at an insert does. -/
structure LookedAt (cap : Option Nat) (large : Bool) (n : Nat) (b : Batch σ) (i : Nat)
    (l : Look σ) : Prop where
  sound : l.batch.Sound cap large n
  /-- The insert gives way exactly if it can still go on by itself. -/
  gaveWay : l.gaveWay = (l.batch.fanOut.stage i).active
  /-- The insert moves on, unless it cannot go on or no permit may be taken. -/
  moved : l.batch = b ∧ l.woken = none ∧
      ((b.fanOut.stage i).active = true → b.exhausted = true ∧ b.fanOut.stage i ≠ .inFlight) ∨
    (b.fanOut.stage i).active = true ∧ b.fanOut.MovesOn l.batch.fanOut i l.woken

/-- An insert that has ended is no longer in flight. -/
theorem stage_finish (f : FanOut) (i : Nat) : (f.finish i).1.stage i = .ended := by
  rw [FanOut.stage_eq_ended, FanOut.finish, (FanOut.release_frame _).2]
  exact List.mem_cons_self

/-- An insert that has its permit and starts moves on. -/
theorem Sound.lookedAt_launch (sound : b.Sound cap large n) (ongoing : b.failure = none)
    (unstarted : i ∉ b.started) {g : FanOut} (permits : g.Sound cap)
    (bounded : ∀ j ∈ g.asked, j < n) (flight : g.inFlight = i :: b.fanOut.inFlight)
    (ended : g.ended = b.fanOut.ended) (active : (b.fanOut.stage i).active = true)
    (moves : b.fanOut.MovesOn g i none) :
    LookedAt cap large n b i (Batch.launch calls table large entry i { b with fanOut := g }) := by
  have member : i ∈ g.inFlight := by
    rw [flight]
    exact List.mem_cons_self
  have flying : g.stage i = .inFlight := (FanOut.stage_eq_inFlight permits.nodup).mpr member
  obtain ⟨kept, ⟨fanOut, woken, gaveWay⟩ | ⟨fanOut, woken, gaveWay⟩⟩ :=
    sound.launch ongoing unstarted permits bounded flight ended
      (rfl : Batch.launch calls table large entry i { b with fanOut := g } = _)
  · refine ⟨kept, ?_, .inr ⟨active, ?_⟩⟩
    · rw [gaveWay, fanOut, flying]
      rfl
    · rw [fanOut, woken]
      exact moves
  · refine ⟨kept, ?_, .inr ⟨active, ?_⟩⟩
    · rw [gaveWay, fanOut, stage_finish]
      rfl
    · rw [fanOut, woken]
      exact moves.trans (FanOut.movesOn_finish permits member)

/-- An insert that asks gets its permit at once, or it waits. -/
theorem ask_cases (f : FanOut) (i : Nat) :
    (f.ask i).inFlight = i :: f.inFlight ∧ (f.ask i).ended = f.ended ∨
      f.ask i = { f with waiting := f.waiting ++ [i] } := by
  unfold FanOut.ask
  split
  · exact .inl ⟨rfl, rfl⟩
  · exact .inr rfl
  · exact .inl ⟨rfl, rfl⟩

/-- An insert that waits keeps what holds. -/
theorem Sound.lookedAt_wait (sound : b.Sound cap large n) (new : b.fanOut.stage i = .new)
    (bound : i < n)
    (waits : b.fanOut.ask i = { b.fanOut with waiting := b.fanOut.waiting ++ [i] }) :
    LookedAt cap large n b i { batch := { b with fanOut := b.fanOut.ask i } } := by
  have permits := sound.permits.ask new
  have waiting : (b.fanOut.ask i).stage i = .waiting := by
    rw [FanOut.stage_eq_waiting permits.nodup, waits]
    simp
  refine ⟨⟨permits, fun j asked => ?_, sound.once, ?_, ?_, ?_, ?_⟩, ?_, .inr ⟨by rw [new]; rfl, ?_⟩⟩
  · rw [(FanOut.asked_ask _ i).mem_iff, List.mem_cons] at asked
    rcases asked with rfl | asked
    · exact bound
    · exact sound.bounded j asked
  · rw [waits]
    exact sound.running
  · rw [waits]
    exact sound.begun
  · rw [waits]
    exact sound.ended
  · obtain ⟨told, atOnce, inOrder, failed⟩ := sound.telling
    exact ⟨told, atOnce, inOrder, failed⟩
  · rw [waiting]
    rfl
  · exact FanOut.movesOn_ask new

/-- An entry that stays as it is keeps what holds. -/
theorem Sound.lookedAt_stay (sound : b.Sound cap large n)
    (stays : (b.fanOut.stage i).active = true → b.exhausted = true ∧ b.fanOut.stage i ≠ .inFlight) :
    LookedAt cap large n b i { batch := b, gaveWay := (b.fanOut.stage i).active } :=
  ⟨sound, rfl, .inl ⟨rfl, rfl, stays⟩⟩

/-- Looking at an entry keeps what holds: a new entry asks for a permit, one with a permit starts,
and an insert in flight is resumed. -/
theorem Sound.look (sound : b.Sound cap large n) (calls : TableStore σ) (table : String)
    (entry : PreparedEntry) (ongoing : b.failure = none) (bound : i < n) :
    LookedAt cap large n b i (Batch.look calls table large entry i b) := by
  have nodup := sound.permits.nodup
  have unstarted (notYet : i ∉ b.fanOut.inFlight ∧ i ∉ b.fanOut.ended) : i ∉ b.started :=
    fun started => (sound.begun ongoing i started).elim notYet.1 notYet.2
  have stay := sound.lookedAt_stay (i := i)
  unfold Batch.look
  cases stage : b.fanOut.stage i with
  | new =>
    rw [stage] at stay
    by_cases exhausted : b.exhausted = true
    · simp only [exhausted, if_true]
      exact stay fun _ => ⟨exhausted, by simp⟩
    simp only [exhausted, if_false, Bool.false_eq_true]
    have apart := FanOut.stage_eq_new.mp stage
    rw [FanOut.mem_asked] at apart
    push Not at apart
    rcases ask_cases b.fanOut i with ⟨flight, ended⟩ | waits
    · have permits := sound.permits.ask stage
      have flying : (b.fanOut.ask i).stage i = .inFlight := by
        rw [FanOut.stage_eq_inFlight permits.nodup, flight]
        exact List.mem_cons_self
      simp only [flying, if_true]
      refine sound.lookedAt_launch ongoing (unstarted apart.2.2) permits (fun j asked => ?_) flight
        ended (by rw [stage]; rfl) (FanOut.movesOn_ask stage)
      rw [(FanOut.asked_ask _ i).mem_iff, List.mem_cons] at asked
      rcases asked with rfl | asked
      · exact bound
      · exact sound.bounded j asked
    · have waiting : (b.fanOut.ask i).stage i = .waiting := by
        rw [FanOut.stage_eq_waiting (sound.permits.ask stage).nodup, waits]
        simp
      simp only [waiting, reduceCtorEq, if_false]
      exact sound.lookedAt_wait stage bound waits
  | granted =>
    rw [stage] at stay
    by_cases exhausted : b.exhausted = true
    · simp only [exhausted, if_true]
      exact stay fun _ => ⟨exhausted, by simp⟩
    simp only [exhausted, if_false, Bool.false_eq_true]
    have granted := (FanOut.stage_eq_granted nodup).mp stage
    refine sound.lookedAt_launch ongoing (unstarted ((FanOut.places_disjoint nodup).2.1 granted))
      (sound.permits.start granted) (fun j asked => ?_) rfl rfl (by rw [stage]; rfl)
      (FanOut.movesOn_start sound.permits granted)
    rw [(FanOut.asked_start granted).mem_iff] at asked
    exact sound.bounded j asked
  | inFlight =>
    have flying := (FanOut.stage_eq_inFlight nodup).mp stage
    cases calls.resumeInsert table entry.item b.store with
    | mk result store =>
      have resumed : ({ b with store } : Batch σ).Sound cap large n :=
        sound.congr rfl rfl rfl rfl rfl
      have finished := (settle_frame large ({ b with store } : Batch σ) i result).1
      refine ⟨resumed.settle ongoing flying, ?_, .inr ⟨by rw [stage]; rfl, ?_⟩⟩
      · rw [finished, stage_finish]
        rfl
      · rw [finished]
        exact FanOut.movesOn_finish sound.permits flying
  | waiting =>
    rw [stage] at stay
    exact stay (by simp [Stage.active])
  | ended =>
    rw [stage] at stay
    exact stay (by simp [Stage.active])

/-- Every move keeps what holds. -/
theorem Sound.move (sound : b.Sound cap large entries.length) (calls : TableStore σ)
    (table : String) (m : Move σ) :
    (b.move calls table large entries m).Sound cap large entries.length := by
  cases m with
  | look i =>
    simp only [Batch.move]
    split
    · exact sound
    · rename_i ongoing
      rw [Option.not_isSome_iff_eq_none] at ongoing
      split
      · rename_i entry found
        obtain ⟨bound, -⟩ := List.getElem?_eq_some_iff.mp found
        exact (sound.look calls table entry ongoing bound).sound
      · exact sound
  | progress change => exact sound.congr rfl rfl rfl rfl rfl
  | pause => exact sound.congr rfl rfl rfl rfl rfl
  | giveUp i =>
    simp only [Batch.move]
    split
    · rename_i failing
      obtain ⟨flight, atEnd⟩ := FanOut.giveUp_frame b.fanOut i
      refine ⟨sound.permits.giveUp,
        fun j asked => sound.bounded j (FanOut.mem_asked_of_giveUp asked), sound.once,
        fun j standing => ?_, fun ongoing => ?_, sound.ended.trans atEnd.symm,
        ⟨sound.telling.told, sound.telling.atOnce, sound.telling.inOrder, sound.telling.failed⟩⟩
      · rw [atEnd] at standing
        exact sound.running j (standing.imp_left flight.mem)
      · rw [show b.failure = none from ongoing] at failing
        cases failing
    · exact sound

/-- Moves in any order keep what holds. -/
theorem Sound.follow (sound : b.Sound cap large entries.length) (calls : TableStore σ)
    (table : String) (moves : List (Move σ)) :
    (b.follow calls table large entries moves).Sound cap large entries.length := by
  induction moves generalizing b with
  | nil => exact sound
  | cons m moves ih => exact ih (sound.move calls table m)

end Moves

/-! ## The end of a group -/

section Ends

variable {cap : Option Nat} {large : Bool} {n : Nat} {b : Batch σ}

/-- An end of an insert is that of an entry of the group. -/
theorem Sound.bound_of_lookup (sound : b.Sound cap large n) {i : Nat}
    {result : Except StoreError Unit} (ended : b.results.lookup i = some result) : i < n := by
  have isSome : (b.results.lookup i).isSome := by
    rw [ended]
    rfl
  rw [lookup_isSome sound.ended] at isSome
  exact sound.bounded i (FanOut.mem_asked.mpr (.inr (.inr (.inr isSome))))

/-- A group has ended well exactly if each of its inserts was started once and has ended well. -/
theorem Sound.result_ok_iff (sound : b.Sound cap large n) :
    b.result? n = some (.ok ()) ↔
      ∀ i < n, b.started.count i = 1 ∧ b.results.lookup i = some (.ok ()) := by
  constructor
  · intro ok i bound
    unfold result? at ok
    split at ok
    · cases ok
    · rename_i ongoing
      split_ifs at ok with all
      have started := sound.running i (.inr (all i bound))
      refine ⟨List.count_eq_one_of_mem sound.once started, ?_⟩
      cases large with
      | true =>
        have everyTold : n ≤ b.told := by
          by_contra short
          have isSome := (lookup_isSome sound.ended).mpr (all b.told (by omega))
          rw [sound.telling.inOrder rfl ongoing] at isSome
          cases isSome
        exact sound.telling.told i (by omega)
      | false =>
        obtain ⟨r, ended⟩ := Option.isSome_iff_exists.mp
          ((lookup_isSome sound.ended).mpr (all i bound))
        rw [ended, sound.telling.atOnce rfl ongoing i r ended]
  · intro every
    have ongoing : b.failure = none := by
      cases failure : b.failure with
      | none => rfl
      | some e =>
        obtain ⟨i, ended, -⟩ := sound.telling.failed e failure
        have ok := (every i (sound.bound_of_lookup ended)).2
        rw [ended] at ok
        cases ok
    have all : ∀ i < n, i ∈ b.fanOut.ended := fun i bound =>
      (lookup_isSome sound.ended).mp (by rw [(every i bound).2]; rfl)
    simp only [result?, ongoing, if_pos all]

/-- A group that has ended well has not failed. -/
theorem failure_of_result_ok (ok : b.result? n = some (.ok ())) : b.failure = none := by
  unfold result? at ok
  split at ok
  · cases ok
  · rename_i ongoing
    exact ongoing

/-- A group that has ended with an error has failed with it. -/
theorem failure_of_result_error {e : StoreError} (failed : b.result? n = some (.error e)) :
    b.failure = some e := by
  unfold result? at failed
  split at failed
  · rename_i e' failure
    obtain rfl : e' = e := by simpa using failed
    exact failure
  · split_ifs at failed
    simp at failed

/-- A group that has ended well has started the inserts of all its entries. -/
theorem Sound.started_perm (sound : b.Sound cap large n) (ok : b.result? n = some (.ok ())) :
    b.started.Perm (List.range n) := by
  have ongoing := failure_of_result_ok ok
  refine (List.perm_ext_iff_of_nodup sound.once List.nodup_range).mpr fun i => ?_
  rw [List.mem_range]
  constructor
  · intro started
    exact sound.bounded i (FanOut.mem_asked.mpr (.inr (.inr (sound.begun ongoing i started))))
  · intro bound
    rw [← List.count_pos_iff, (sound.result_ok_iff.mp ok i bound).1]
    exact Nat.one_pos

/-- An end of an insert is the only one. -/
theorem Sound.lookup_of_mem (sound : b.Sound cap large n) {p : Nat × Except StoreError Unit}
    (mem : p ∈ b.results) : b.results.lookup p.1 = some p.2 := by
  obtain ⟨before, after, same⟩ := List.append_of_mem mem
  have nodup : (b.results.map Prod.fst).Nodup := by
    rw [sound.ended]
    refine sound.permits.nodup.sublist ?_
    exact ((List.sublist_append_right _ _).trans (List.sublist_append_right _ _)).trans
      (List.sublist_append_right _ _)
  rw [same] at nodup ⊢
  rw [List.map_append, List.map_cons] at nodup
  refine List.lookup_eq_some_iff.mpr ⟨before, after, rfl, fun q earlier => ?_⟩
  have apart := (List.nodup_append'.mp nodup).2.2 (List.mem_map_of_mem earlier)
  simpa using fun equal : p.1 = q.1 => apart (equal ▸ List.mem_cons_self)

/-- In a group that has ended well every insert has. -/
theorem Sound.results_ok (sound : b.Sound cap large n) (ok : b.result? n = some (.ok ()))
    {p : Nat × Except StoreError Unit} (mem : p ∈ b.results) : p.2 = .ok () := by
  have ended := sound.lookup_of_mem mem
  have every := (sound.result_ok_iff.mp ok p.1 (sound.bound_of_lookup ended)).2
  rw [ended] at every
  exact Option.some.inj every

/-- The failure of a group is that of one of its inserts, in a large group the first one that
failed. -/
theorem Sound.result_error (sound : b.Sound cap large n) {e : StoreError}
    (failed : b.result? n = some (.error e)) :
    ∃ i < n, b.results.lookup i = some (.error e) ∧
      (large = true → ∀ j < i, b.results.lookup j = some (.ok ())) := by
  obtain ⟨i, ended, earlier⟩ := sound.telling.failed e (failure_of_result_error failed)
  exact ⟨i, sound.bound_of_lookup ended, ended, earlier⟩

/-- A group that has not ended has an insert that can go on by itself. -/
theorem Sound.exists_active (sound : b.Sound cap large n) (unfinished : b.result? n = none) :
    ∃ i < n, (b.fanOut.stage i).active = true := by
  have nodup := sound.permits.nodup
  unfold result? at unfinished
  split at unfinished
  · cases unfinished
  · split_ifs at unfinished with all
    push Not at all
    obtain ⟨i, bound, standing⟩ := all
    cases stage : b.fanOut.stage i with
    | new => exact ⟨i, bound, by rw [stage]; rfl⟩
    | granted => exact ⟨i, bound, by rw [stage]; rfl⟩
    | inFlight => exact ⟨i, bound, by rw [stage]; rfl⟩
    | ended => exact absurd (FanOut.stage_eq_ended.mp stage) standing
    | waiting =>
      have waits := List.ne_nil_of_mem ((FanOut.stage_eq_waiting nodup).mp stage)
      rcases sound.permits.holder_of_waiting waits with granted | flying
      · obtain ⟨j, mem⟩ := List.exists_mem_of_ne_nil _ granted
        refine ⟨j, sound.bounded j (FanOut.mem_asked.mpr (.inr (.inl mem))), ?_⟩
        rw [(FanOut.stage_eq_granted nodup).mpr mem]
        rfl
      · obtain ⟨j, mem⟩ := List.exists_mem_of_ne_nil _ flying
        refine ⟨j, sound.bounded j (FanOut.mem_asked.mpr (.inr (.inr (.inl mem)))), ?_⟩
        rw [(FanOut.stage_eq_inFlight nodup).mpr mem]
        rfl

end Ends

end Batch

end TableSeed
