import TableSeed.Proofs.FanOut.Turns
import TableSeed.Store.Memory

/-!
# The calls of a store

A store may keep a record of its calls, as the store in memory does, and any store can be given
one. What a group's inserts add to the record are the inserts that were started, in their order,
however the store goes on with them.
-/

namespace TableSeed

namespace TableStore

variable {σ : Type}

/-- A store whose state holds the calls that were made, in order. -/
structure Records (calls : TableStore σ) (made : σ → List StoreCall) : Prop where
  create : ∀ schema s, made (calls.create schema s).2 = made s ++ [.create schema.table]
  drop : ∀ table s, made (calls.drop table s).2 = made s ++ [.drop table]
  startInsert : ∀ table item s,
    made (calls.startInsert table item s).2 = made s ++ [.insert table item]
  resumeInsert : ∀ table item s, made (calls.resumeInsert table item s).2 = made s

/-- The store that keeps a record of its calls beside its state. -/
def recorded (calls : TableStore σ) : TableStore (σ × List StoreCall) where
  create schema s :=
    let (result, state) := calls.create schema s.1
    (result, state, s.2 ++ [.create schema.table])
  drop table s :=
    let (result, state) := calls.drop table s.1
    (result, state, s.2 ++ [.drop table])
  startInsert table item s :=
    let (progress, state) := calls.startInsert table item s.1
    (progress, state, s.2 ++ [.insert table item])
  resumeInsert table item s :=
    let (result, state) := calls.resumeInsert table item s.1
    (result, state, s.2)
  allowance := calls.allowance

/-- A store with a record keeps its record. -/
theorem records_recorded (calls : TableStore σ) : calls.recorded.Records Prod.snd where
  create _ _ := rfl
  drop _ _ := rfl
  startInsert _ _ _ := rfl
  resumeInsert _ _ _ := rfl

/-- What an insert does on a store that keeps a record. -/
def recordedInsert (insert : String → Item → σ → Except StoreError Unit × σ) (table : String)
    (item : Item) (s : σ × List StoreCall) : Except StoreError Unit × σ × List StoreCall :=
  ((insert table item s.1).1, (insert table item s.1).2, s.2 ++ [.insert table item])

/-- A record does not make inserts give way. -/
theorem Immediate.recorded {calls : TableStore σ}
    {insert : String → Item → σ → Except StoreError Unit × σ}
    (immediate : calls.Immediate insert) : calls.recorded.Immediate (recordedInsert insert) := by
  intro table item s
  simp only [TableStore.recorded, recordedInsert, immediate table item s.1]

end TableStore

/-- A move makes no call but those of the run. -/
def Move.Silent {σ : Type} (made : σ → List StoreCall) : Move σ → Prop
  | .progress change => ∀ s, made (change s) = made s
  | .look _ | .pause | .giveUp _ => True

/-- The run itself makes no call but its own. -/
theorem Move.OfRun.silent {σ : Type} {made : σ → List StoreCall} {m : Move σ} (own : m.OfRun) :
    m.Silent made := by
  cases m with
  | look i => trivial
  | pause => trivial
  | progress change => cases own
  | giveUp i => trivial

namespace Batch

variable {σ : Type} {calls : TableStore σ} {made : σ → List StoreCall} {table : String}
  {large : Bool} {entries : List PreparedEntry} {entry : PreparedEntry} {b : Batch σ} {i : Nat}

/-- The inserts that have started, in order. -/
def inserts (table : String) (entries : List PreparedEntry) (b : Batch σ) : List StoreCall :=
  b.started.reverse.filterMap fun i => entries[i]?.map fun entry => .insert table entry.item

/-- An insert that has its permit makes its call. -/
theorem made_launch (records : calls.Records made) :
    (launch calls table large entry i b).batch.started = i :: b.started ∧
      made (launch calls table large entry i b).batch.store =
        made b.store ++ [.insert table entry.item] := by
  have called := records.startInsert table entry.item b.store
  unfold launch
  cases outcome : calls.startInsert table entry.item b.store with
  | mk progress store =>
    rw [outcome] at called
    simp only
    cases progress with
    | givesWay => exact ⟨rfl, called⟩
    | finished result =>
      obtain ⟨-, started, -, store', -⟩ := settle_frame large
        { b.spend with
          log := b.log.write .debug s!"Insert '{entry.key}' into {table}", store := store,
          started := i :: b.started } i result
      exact ⟨started, by rw [store']; exact called⟩

/-- A look makes the call of the insert that it starts. -/
theorem made_look (records : calls.Records made) (table : String) (large : Bool)
    (entry : PreparedEntry) (i : Nat) (b : Batch σ) :
    ((look calls table large entry i b).batch.started = b.started ∧
        made (look calls table large entry i b).batch.store = made b.store) ∨
      ((look calls table large entry i b).batch.started = i :: b.started ∧
        made (look calls table large entry i b).batch.store =
          made b.store ++ [.insert table entry.item]) := by
  unfold look
  cases b.fanOut.stage i with
  | new =>
    simp only
    split
    · exact .inl ⟨rfl, rfl⟩
    · split
      · exact .inr (made_launch records)
      · exact .inl ⟨rfl, rfl⟩
  | granted =>
    simp only
    split
    · exact .inl ⟨rfl, rfl⟩
    · exact .inr (made_launch records)
  | inFlight =>
    have called := records.resumeInsert table entry.item b.store
    cases outcome : calls.resumeInsert table entry.item b.store with
    | mk result store =>
      rw [outcome] at called
      obtain ⟨-, started, -, store', -⟩ := settle_frame large { b with store } i result
      exact .inl ⟨started, by rw [store']; exact called⟩
  | waiting => exact .inl ⟨rfl, rfl⟩
  | ended => exact .inl ⟨rfl, rfl⟩

/-- A move makes the calls of the inserts that it starts. -/
theorem made_move (records : calls.Records made) {m : Move σ} (silent : m.Silent made)
    {before : List StoreCall} (calledBefore : made b.store = before ++ b.inserts table entries) :
    made (b.move calls table large entries m).store =
      before ++ (b.move calls table large entries m).inserts table entries := by
  cases m with
  | look i =>
    simp only [move]
    split
    · exact calledBefore
    · split
      · rename_i entry found
        rcases made_look records table large entry i b with ⟨started, called⟩ | ⟨started, called⟩
        · rw [called, calledBefore, inserts, inserts, started]
        · rw [called, calledBefore, inserts, inserts, started, List.reverse_cons,
            List.filterMap_append, List.append_assoc]
          simp [found]
      · exact calledBefore
  | progress change => exact (silent b.store).trans calledBefore
  | pause => exact calledBefore
  | giveUp i =>
    simp only [move]
    split <;> exact calledBefore

/-- Moves make the calls of the inserts that they start. -/
theorem made_follow (records : calls.Records made) (large : Bool) {moves : List (Move σ)}
    (silent : ∀ m ∈ moves, m.Silent made) (before : List StoreCall)
    (calledBefore : made b.store = before ++ b.inserts table entries) :
    made (b.follow calls table large entries moves).store =
      before ++ (b.follow calls table large entries moves).inserts table entries := by
  induction moves generalizing b with
  | nil => exact calledBefore
  | cons m moves ih =>
    exact ih (fun later mem => silent later (List.mem_cons_of_mem _ mem))
      (made_move records (silent m List.mem_cons_self) calledBefore)

end Batch

end TableSeed
