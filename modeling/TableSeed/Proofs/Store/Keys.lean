import TableSeed.Proofs.Store.Kept
import TableSeed.Proofs.Store.Taken

/-!
# Keys are told apart

A store compares the texts of keys. Keys of the same attributes have the same text only if their
values are the same, so that no other key's item makes a store refuse an insert or answer a get.
-/

namespace TableSeed

open Json (Members)

namespace Database

variable {db : Database} {name : String} {row : Row}

/-- A row is refused for its key exactly if a row of its table has the key. -/
theorem insert_eq_duplicateKey_iff : (∃ spelling, db.insert name row = .error (.duplicateKey spelling)) ↔
    ∃ t, db.use name = .ok t ∧ row.key ∈ t.rows.map (·.key) := by
  have other (fault : DatabaseFault) (refused : db.use name = .error fault) (spelling : String) :
      fault ≠ .duplicateKey spelling := by
    unfold use at refused
    split_ifs at refused with readable system
    · rintro rfl
      cases refused
    · rintro rfl
      cases refused
    · split at refused <;> cases refused
      exact DatabaseFault.noConfusion
  unfold Database.insert
  cases used : db.use name with
  | error fault => simp [bind, Except.bind, other fault used]
  | ok t =>
    have known : t.rows.any (·.key == row.key) = true ↔ row.key ∈ t.rows.map (·.key) := by
      simp [List.any_eq_true]
    simp only [bind, Except.bind, known]
    split_ifs with there <;> simpa [throw, throwThe, MonadExceptOf.throw, pure, Except.pure] using there

end Database

namespace Connection

variable {c : Connection} {name : String} {kept : List Item}

/-- What other items have to do with an insert and a get. -/
structure TellsApart (c : Connection) (name : String) (kept : List Item) : Prop where
  /-- An item is refused for its key exactly if one with the same key values is kept. -/
  insert : ∀ item : Item,
    (∃ spelling, (c.insert name item).1 =
      .error (.database (.insert item.keyText name) (.duplicateKey spelling))) ↔
    ∃ other ∈ kept, other.keyValues = item.keyValues
  /-- A get is answered from the item that has the same key values. -/
  found : ∀ key : Members, ∀ other ∈ kept, other.keyValues = key.map Prod.snd →
    c.find name key = (readItem (Json.Value.object other.merged).render).map some
  /-- A get is answered from no other item. -/
  missed : ∀ key : Members, (∀ other ∈ kept, other.keyValues ≠ key.map Prod.snd) →
    c.find name key = .ok none ∨ ∃ fault, c.find name key = .error (.database (.read name) fault)

/-- The rows of a table that can be used are those of its items. -/
theorem Holds.rows_of_use (holds : c.Holds name kept) {t : StoredTable}
    (used : c.database.use name = .ok t) : t.rows = kept.map Item.row := by
  have rows := holds.rows
  rwa [Database.rows?, (Database.use_ok_iff.mp used).2.2] at rows

/-- The texts under which items stand are those of their key values. -/
theorem mem_keys_iff (item : Item) : item.keyText ∈ (kept.map Item.row).map (·.key) ↔
    ∃ other ∈ kept, other.keyValues = item.keyValues := by
  rw [List.map_map, List.mem_map]
  exact exists_congr fun other => and_congr_right fun _ => Item.keyText_inj

/-- A statement fails by a fault of the database. -/
theorem perform_error_iff {task : DatabaseTask} {statement : Statement} {fault : DatabaseFault} :
    (perform task statement c).1 = .error (.database task fault) ↔
      c.execute statement = .error fault := by
  unfold perform
  cases c.execute statement <;> simp

/-- A connection refuses a key exactly if its database does. -/
theorem execute_duplicateKey_iff {statement : Statement} {spelling : String} :
    c.execute statement = .error (.duplicateKey spelling) ↔
      c.access ≠ .damaged ∧ c.database.execute statement = .error (.duplicateKey spelling) := by
  obtain ⟨database, access⟩ := c
  unfold execute
  cases access with
  | damaged => simp
  | full => cases database.execute statement <;> simp [bind, Except.bind, pure, Except.pure]
  | readOnly =>
    cases database.execute statement with
    | error fault => simp [bind, Except.bind]
    | ok result =>
      by_cases changes : result.2 = database <;>
        simp [bind, Except.bind, changes, throw, throwThe, MonadExceptOf.throw, pure, Except.pure]

/-- An answer is that of the database. -/
theorem execute_ok {statement : Statement} {answer : Answer} {after : Connection}
    (executed : c.execute statement = .ok (answer, after)) :
    ∃ database, c.database.execute statement = .ok (answer, database) := by
  obtain ⟨database, access⟩ := c
  unfold execute at executed
  cases access with
  | damaged => cases executed
  | full | readOnly =>
    cases result : database.execute statement with
    | error fault => simp [result, bind, Except.bind] at executed
    | ok done =>
      simp only [result, bind, Except.bind] at executed
      split_ifs at executed <;> cases executed <;> exact ⟨done.2, rfl⟩

namespace Holds

/-- An item is refused for its key exactly if the table has one with the same key values. -/
theorem insert_duplicate_iff (holds : c.Holds name kept) (item : Item) :
    (∃ spelling, (c.insert name item).1 =
      .error (.database (.insert item.keyText name) (.duplicateKey spelling))) ↔
    ∃ other ∈ kept, other.keyValues = item.keyValues := by
  let statement : Statement := .insert name item.keyText (Json.Value.object item.merged).render
  have executed (spelling : String) : c.database.execute statement = .error (.duplicateKey spelling) ↔
      c.database.insert name item.row = .error (.duplicateKey spelling) := by
    change c.database.execute (StoreRequest.insert name item).statement = _ ↔ _
    rw [StoreRequest.execute_statement, StoreRequest.perform]
    cases c.database.insert name item.row <;> simp [Except.map]
  have refused (spelling : String) : (c.insert name item).1 =
      .error (.database (.insert item.keyText name) (.duplicateKey spelling)) ↔
      c.access ≠ .damaged ∧ c.database.insert name item.row = .error (.duplicateKey spelling) := by
    rw [← executed spelling, ← execute_duplicateKey_iff]
    exact perform_error_iff
  simp only [refused, exists_and_left, Database.insert_eq_duplicateKey_iff]
  constructor
  · rintro ⟨-, t, used, mem⟩
    rw [holds.rows_of_use used] at mem
    exact (mem_keys_iff item).mp mem
  · rintro ⟨other, mem, same⟩
    have nonempty : kept ≠ [] := List.ne_nil_of_mem mem
    obtain ⟨t, used, rows⟩ := holds.use nonempty
    refine ⟨(holds.usable nonempty).1, t, used, ?_⟩
    rw [rows]
    exact (mem_keys_iff item).mpr ⟨other, mem, same⟩

/-- A key that no item of the table has is not found. -/
theorem find_missed (holds : c.Holds name kept) {key : Members}
    (other : ∀ other ∈ kept, other.keyValues ≠ key.map Prod.snd) :
    c.find name key = .ok none ∨ ∃ fault, c.find name key = .error (.database (.read name) fault) := by
  let item : Item := ⟨key, []⟩
  unfold Connection.find Connection.ask
  cases executed : c.execute (.find name item.keyText) with
  | error fault => exact .inr ⟨fault, rfl⟩
  | ok result =>
    obtain ⟨answer, after⟩ := result
    obtain ⟨database, answered⟩ := execute_ok executed
    rw [Database.execute] at answered
    cases used : c.database.use name with
    | error fault => simp [used, bind, Except.bind] at answered
    | ok t =>
      have none : t.rows.filter (·.key == item.keyText) = [] := by
        rw [holds.rows_of_use used, List.filter_eq_nil_iff]
        intro row mem same
        obtain ⟨known, there, values⟩ := (mem_keys_iff item).mp
          (List.mem_map.mpr ⟨row, mem, eq_of_beq same⟩)
        exact other known there values
      simp only [used, none, bind, Except.bind, List.map_nil] at answered
      obtain ⟨rfl, -⟩ := Prod.mk.inj (Except.ok.inj answered)
      exact .inl rfl

/-- What the store does about a key has to do with the items of the same key values only. -/
theorem tellsApart (holds : c.Holds name kept) : c.TellsApart name kept where
  insert := holds.insert_duplicate_iff
  found key other mem same := by
    have text : Item.keyText ⟨key, []⟩ = other.keyText := Item.keyText_inj.mpr same.symm
    have found := holds.find mem
    unfold Connection.find at found ⊢
    rwa [text]
  missed _ other := holds.find_missed other

end Holds

end Connection

/-- Keys of the same attributes have the same text only if they are the same. Neither store refuses
an insert because of another key's item, and no get is answered from one. -/
theorem distinct_keys_never_collide {c : Connection} {kept : String → List Item}
    (reached : Connection.Reached c kept) (requests : List StoreRequest) (name : String) :
    (∀ a b : Item, a.key.names = b.key.names → (a.keyText = b.keyText ↔ a.key = b.key)) ∧
      (∀ item : Item, (MemoryStore.insert name item (MemoryStore.Account.after requests).store).1 =
        .error (.duplicateKey item.keyText name) ↔
          ∃ other ∈ (MemoryStore.Account.after requests).taken name,
            other.keyValues = item.keyValues) ∧
      c.TellsApart name (kept name) := by
  refine ⟨fun a b attributes => ⟨Item.key_eq_of_keyText attributes, fun same => ?_⟩, fun item => ?_,
    (reached.holds name).tellsApart⟩
  · rw [Item.keyText, Item.keyText, same]
  · exact (MemoryStore.Account.sound_after requests).duplicate_iff

/-- An integer and a double of the same amount are keys of two items. -/
theorem one_and_its_double_are_two_keys :
    let whole : Item := ⟨[("id", .number (.ofUInt32 1))], []⟩
    let double : Item := ⟨[("id", .number (.double ⟨0x3ff0000000000000⟩ (by decide)))], []⟩
    let requests : List StoreRequest :=
      [.create { table := "t", keys := [] }, .insert "t" whole]
    let c := Connection.after {} requests
    whole.keyText = "[1]" ∧ double.keyText = "[1.0]" ∧
      (∃ spelling, (c.insert "t" whole).1 =
        .error (.database (.insert whole.keyText "t") (.duplicateKey spelling))) ∧
      (¬ ∃ spelling, (c.insert "t" double).1 =
        .error (.database (.insert double.keyText "t") (.duplicateKey spelling))) ∧
      (MemoryStore.insert "t" double (MemoryStore.Account.after requests).store).1 ≠
        .error (.duplicateKey double.keyText "t") := by
  intro whole double requests c
  have proper : ∀ request ∈ requests, request.Proper := by
    simp [requests, whole, StoreRequest.Proper, Item.Proper, Json.Value.Distinct,
      Json.Value.MembersDistinct, Members.Distinct, Members.names]
  have reached : Connection.Reached c (Connection.keptAfter (fun _ => []) requests) :=
    (Connection.Reached.empty .full).after proper (by decide +kernel)
  have differ : whole.keyValues ≠ double.keyValues := fun same => by
    cases same
  obtain ⟨-, memory, database⟩ := distinct_keys_never_collide reached requests "t"
  have kept : Connection.keptAfter (fun _ => []) requests "t" = [whole] := rfl
  have taken : (MemoryStore.Account.after requests).taken "t" = [whole] := rfl
  rw [kept] at database
  refine ⟨by decide +kernel, by decide +kernel, ?_, ?_, ?_⟩
  · exact (database.insert whole).mpr ⟨whole, List.mem_singleton_self _, rfl⟩
  · rw [database.insert double]
    simpa using differ
  · rw [Ne, memory double, taken]
    simpa using differ

end TableSeed
