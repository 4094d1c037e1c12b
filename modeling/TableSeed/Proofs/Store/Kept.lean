import TableSeed.Proofs.Json.ReadBack
import TableSeed.Proofs.Store.Agreement
import TableSeed.Proofs.Traversal

/-!
# What a database keeps

A database has, for every table, the rows of the items that were inserted since the table was last
dropped, in the order in which they were inserted. An item whose text is readable is found under its
key and read back as it was. One that is not stays in its row all the same: it is not found as it
was, and neither is its table read whole.
-/

namespace TableSeed

open Json (Members)

/-- The row of an item. -/
def Item.row (item : Item) : Row := ⟨item.keyText, (Json.Value.object item.merged).render⟩

/-- No object inside the item has a name twice, nor has the item itself. -/
def Item.Proper (item : Item) : Prop := (Json.Value.object (item.key ++ item.data)).Distinct

/-- The text of the item can be read back. -/
def Item.Readable (item : Item) : Prop := (Json.Value.object item.merged).Readable

/-- An item has its attributes, the key attributes first. -/
theorem Item.Proper.merged_eq {item : Item} (proper : item.Proper) :
    item.merged = item.key ++ item.data :=
  Members.putAll_of_distinct proper.1

namespace Database

variable {db after : Database} {a b name : String} {row : Row}

/-- Two names are of one table if they are the same in lower case. -/
theorem sameName_iff : sameName a b = true ↔ fold a = fold b := beq_iff_eq

/-- The rows of a table, if there is one. -/
def rows? (db : Database) (name : String) : Option (List Row) := (db.find? name).map (·.rows)

/-- Names of one table are compared alike with any name. -/
theorem sameName_congr (same : sameName a b = true) (name : String) :
    sameName name a = sameName name b := by
  rw [sameName, sameName, sameName_iff.mp same]

/-- Names that are compared as the same have the same table. -/
theorem find?_congr (db : Database) (same : sameName a b = true) : db.find? a = db.find? b := by
  simp only [find?, sameName_congr same]

/-- The table of a name is found under a name that is compared as the same. -/
theorem sameName_of_find? {t : StoredTable} (found : db.find? name = some t) :
    sameName t.name name = true :=
  List.find?_some (p := fun u : StoredTable => sameName u.name name) found

/-- Names of one table are both names of the database itself or neither. -/
theorem isSystem_congr (same : sameName a b = true) : isSystem a = isSystem b := by
  have folded : sameName a = sameName b := by
    funext name
    rw [sameName, sameName, sameName_iff.mp same]
  rw [isSystem, isSystem, folded]

/-- No other character becomes the null character in lower case. -/
theorem toLower_toNat_ne_zero (c : Char) : c.toLower.toNat ≠ 0 ↔ c.toNat ≠ 0 := by
  unfold Char.toLower
  split_ifs with upper
  · have bounds : 65 ≤ c.val.toNat ∧ c.val.toNat ≤ 90 :=
      ⟨UInt32.le_iff_toNat_le.mp upper.1, UInt32.le_iff_toNat_le.mp upper.2⟩
    have shifted : (c.val + ('a'.val - 'A'.val)).toNat = c.val.toNat + 32 := by
      rw [UInt32.toNat_add]
      exact Nat.mod_eq_of_lt (show c.val.toNat + 32 < 2 ^ 32 by omega)
    change (c.val + ('a'.val - 'A'.val)).toNat ≠ 0 ↔ c.val.toNat ≠ 0
    omega
  · rfl

/-- A name is readable if it has no null character in lower case. -/
theorem isReadable_eq (name : String) :
    Identifier.isReadable name = (fold name).all (·.toNat ≠ 0) := by
  simp only [Identifier.isReadable, fold, List.all_map, Function.comp_def, toLower_toNat_ne_zero]

/-- Names of one table are both readable or neither. -/
theorem isReadable_congr (same : sameName a b = true) :
    Identifier.isReadable a = Identifier.isReadable b := by
  rw [isReadable_eq, isReadable_eq, sameName_iff.mp same]

/-- When a table can be used. -/
theorem use_ok_iff {t : StoredTable} : db.use name = .ok t ↔
    Identifier.isReadable name = true ∧ isSystem name = false ∧ db.find? name = some t := by
  unfold use
  cases Identifier.isReadable name with
  | false => simp
  | true =>
    cases isSystem name with
    | true => simp
    | false => cases db.find? name <;> simp

/-- A table that is created is empty, and the others stay. -/
theorem rows?_create (created : db.create a = .ok after) (name : String) :
    (after.rows? name).getD [] = (db.rows? name).getD [] := by
  unfold create at created
  split_ifs at created with readable reserved known
  · obtain rfl := Except.ok.inj created
    rfl
  · obtain rfl := Except.ok.inj created
    rw [rows?, rows?, find?, find?, List.find?_append]
    cases found : db.tables.find? fun t => sameName t.name name with
    | some t => rfl
    | none => by_cases same : sameName a name = true <;> simp [same]

/-- A table that is dropped is gone, and the others stay. -/
theorem rows?_drop (dropped : db.drop a = .ok after) (name : String) :
    after.rows? name = if sameName a name then none else db.rows? name := by
  unfold drop at dropped
  split_ifs at dropped with readable system
  obtain rfl := Except.ok.inj dropped
  rw [rows?, rows?, find?, find?]
  generalize db.tables = tables
  induction tables with
  | nil => simp
  | cons t rest ih =>
    by_cases here : sameName t.name name = true
    · have other : sameName t.name a = sameName a name := by
        rw [sameName, sameName, sameName_iff.mp here, Bool.beq_comm]
      by_cases same : sameName a name = true
      · simpa [other, same] using ih
      · simp [other, same, here]
    · by_cases gone : sameName t.name a = true
      · simpa [gone, here] using ih
      · simpa [gone, here] using ih

/-- A table that is given one more row, among the others. -/
theorem rows?_append {t : StoredTable} (found : db.find? a = some t) (row : Row) (name : String) :
    ({ db with tables := db.tables.map fun u =>
        if sameName u.name a then { u with rows := u.rows ++ [row] } else u } : Database).rows? name =
      if sameName a name then some (t.rows ++ [row]) else db.rows? name := by
  have named : ((fun u => sameName u.name name) ∘ fun u : StoredTable =>
      if sameName u.name a then { u with rows := u.rows ++ [row] } else u) =
      fun u => sameName u.name name := by
    funext u
    rw [Function.comp_apply]
    split_ifs <;> rfl
  rw [rows?, find?, List.find?_map, named]
  split_ifs with same
  · have here : sameName t.name a = true := sameName_of_find? found
    have again : db.tables.find? (fun u => sameName u.name name) = some t :=
      (find?_congr db same).symm.trans found
    simp [again, here]
  · rw [rows?]
    change Option.map _ (Option.map _ (db.find? name)) = _
    cases other : db.find? name with
    | none => rfl
    | some u =>
      have there : sameName u.name name = true := sameName_of_find? other
      have apart : ¬ sameName u.name a = true := fun here => same (by
        rw [sameName_iff] at *
        exact here.symm.trans there)
      simp [apart]

/-- A row that is inserted has a new key and stands after the others of its table. -/
theorem rows?_insert (inserted : db.insert a row = .ok after) :
    Identifier.isReadable a = true ∧ isSystem a = false ∧
      (∀ other ∈ (db.rows? a).getD [], other.key ≠ row.key) ∧
      ∀ name, after.rows? name =
        if sameName a name then some ((db.rows? a).getD [] ++ [row]) else db.rows? name := by
  unfold Database.insert at inserted
  cases used : db.use a with
  | error fault => simp [used, bind, Except.bind] at inserted
  | ok t =>
    obtain ⟨readable, system, found⟩ := use_ok_iff.mp used
    have rows : db.rows? a = some t.rows := by rw [rows?, found]; rfl
    simp only [used, bind, Except.bind] at inserted
    split_ifs at inserted with taken
    obtain rfl := Except.ok.inj inserted
    rw [rows, Option.getD_some]
    refine ⟨readable, system, fun other mem same => ?_, rows?_append found row⟩
    exact taken (List.any_eq_true.mpr ⟨other, mem, beq_iff_eq.mpr same⟩)

end Database

namespace StoreRequest

/-- An item that is to be inserted has no name twice. -/
def Proper : StoreRequest → Prop
  | .insert _ item => item.Proper
  | .create _ | .drop _ => True

/-- The items of a table once a request is accepted, when it had these items before. -/
def keeps (kept : List Item) (name : String) : StoreRequest → List Item
  | .create _ => kept
  | .drop table => if Database.sameName table name then [] else kept
  | .insert table item => if Database.sameName table name then kept ++ [item] else kept

/-- What a request does to a database. -/
def perform (db : Database) : StoreRequest → Except DatabaseFault Database
  | .create schema => db.create schema.table
  | .drop table => db.drop table
  | .insert table item => db.insert table item.row

/-- The statement of a request. -/
def statement : StoreRequest → Statement
  | .create schema => .create schema.table
  | .drop table => .drop table
  | .insert table item => .insert table item.keyText (Json.Value.object item.merged).render

/-- What a request is for. -/
def task : StoreRequest → DatabaseTask
  | .create schema => .create schema.table
  | .drop table => .drop table
  | .insert table item => .insert item.keyText table

/-- Executing the statement of a request performs the request. -/
theorem execute_statement (request : StoreRequest) (db : Database) :
    db.execute request.statement = (request.perform db).map (Answer.done, ·) := by
  cases request with
  | create schema => rw [perform, statement, Database.execute]; cases db.create schema.table <;> rfl
  | drop table => rw [perform, statement, Database.execute]; cases db.drop table <;> rfl
  | insert table item =>
    rw [perform, statement, Database.execute, ← Item.row]
    cases db.insert table item.row <;> rfl

end StoreRequest

namespace Connection

variable {c : Connection} {kept : List Item} {name : String} {request : StoreRequest}

/-- A statement is executed or refused, and a statement that is refused changes nothing. -/
theorem perform_cases (task : DatabaseTask) (statement : Statement) (c : Connection) :
    (∃ answer database, c.access ≠ .damaged ∧
        c.database.execute statement = .ok (answer, database) ∧
        perform task statement c = (.ok (), { c with database })) ∨
      ∃ e, perform task statement c = (.error e, c) := by
  obtain ⟨database, access⟩ := c
  unfold perform execute
  cases access with
  | damaged => exact .inr ⟨_, rfl⟩
  | full =>
    cases executed : database.execute statement with
    | error fault => exact .inr ⟨_, rfl⟩
    | ok result => exact .inl ⟨result.1, result.2, Access.noConfusion, rfl, rfl⟩
  | readOnly =>
    cases executed : database.execute statement with
    | error fault => exact .inr ⟨_, rfl⟩
    | ok result =>
      by_cases changes : result.2 = database
      · refine .inl ⟨result.1, result.2, Access.noConfusion, rfl, ?_⟩
        simp [bind, Except.bind, pure, Except.pure, changes]
      · refine .inr ⟨.database task .readOnly, ?_⟩
        simp [bind, Except.bind, changes, throw, throwThe, MonadExceptOf.throw]

/-- What changes nothing is answered, unless the file is no database. -/
theorem ask_of_sound (sound : c.access ≠ .damaged) (task : DatabaseTask) {statement : Statement}
    {answer : Answer} (executed : c.database.execute statement = .ok (answer, c.database)) :
    ask task statement c = .ok answer := by
  obtain ⟨database, access⟩ := c
  cases access with
  | damaged => exact absurd rfl sound
  | full | readOnly =>
    simp only at executed
    simp [ask, execute, executed, bind, Except.bind, pure, Except.pure]

/-- A request is a statement to the database. -/
theorem handle_eq (c : Connection) (request : StoreRequest) :
    store.handle c request = perform request.task request.statement c := by
  cases request <;> rfl

/-- A request is accepted or refused, and a request that is refused changes nothing. -/
theorem handle_cases (c : Connection) (request : StoreRequest) :
    (∃ database, c.access ≠ .damaged ∧ request.perform c.database = .ok database ∧
        store.handle c request = (.ok (), { c with database })) ∨
      ∃ e, store.handle c request = (.error e, c) := by
  obtain ⟨answer, database, sound, executed, performed⟩ | refused :=
    perform_cases request.task request.statement c
  · refine .inl ⟨database, sound, ?_, (handle_eq c request).trans performed⟩
    rw [request.execute_statement] at executed
    cases done : request.perform c.database with
    | error fault => simp [done, Except.map] at executed
    | ok after =>
      rw [done] at executed
      rw [(Prod.mk.inj (Except.ok.inj executed)).2]
  · exact .inr (refused.imp fun _ => (handle_eq c request).trans)

/-- A table has the rows of some items, one for each key. -/
structure Holds (c : Connection) (name : String) (kept : List Item) : Prop where
  rows : (c.database.rows? name).getD [] = kept.map Item.row
  usable : kept ≠ [] → c.access ≠ .damaged ∧ Identifier.isReadable name = true ∧
    Database.isSystem name = false
  apart : (kept.map Item.keyText).Nodup
  proper : ∀ item ∈ kept, item.Proper

namespace Holds

/-- A request that is performed keeps what the table holds in step with the items that were kept. -/
theorem accepted (holds : c.Holds name kept) (proper : request.Proper) {database : Database}
    (sound : c.access ≠ .damaged) (performed : request.perform c.database = .ok database) :
    Holds { c with database } name (request.keeps kept name) := by
  cases request with
  | create schema =>
    exact ⟨(Database.rows?_create performed name).trans holds.rows, holds.usable, holds.apart,
      holds.proper⟩
  | drop table =>
    have rows := Database.rows?_drop performed name
    by_cases same : Database.sameName table name = true
    · simp only [StoreRequest.keeps, same, if_true]
      refine ⟨?_, fun some => absurd rfl some, List.nodup_nil, fun _ mem => absurd mem List.not_mem_nil⟩
      rw [rows, if_pos same]
      rfl
    · rw [StoreRequest.keeps, if_neg same]
      refine ⟨?_, holds.usable, holds.apart, holds.proper⟩
      rw [rows, if_neg same]
      exact holds.rows
  | insert table item =>
    obtain ⟨readable, system, new, rows⟩ := Database.rows?_insert performed
    by_cases same : Database.sameName table name = true
    · have known : c.database.rows? table = c.database.rows? name := by
        rw [Database.rows?, Database.rows?, Database.find?_congr _ same]
      rw [known, holds.rows] at new rows
      simp only [StoreRequest.keeps, same, if_true]
      refine ⟨?_, fun _ => ⟨sound, ?_, ?_⟩, ?_, ?_⟩
      · rw [rows name, if_pos same, List.map_append]
        rfl
      · rw [← Database.isReadable_congr same, readable]
      · rw [← Database.isSystem_congr same, system]
      · rw [List.map_append, List.nodup_append]
        refine ⟨holds.apart, List.nodup_singleton _, ?_⟩
        rintro _ known _ added rfl
        obtain ⟨other, mem, same⟩ := List.mem_map.mp known
        exact new other.row (List.mem_map_of_mem mem) (same.trans (List.mem_singleton.mp added))
      · exact List.forall_mem_append.mpr ⟨holds.proper, List.forall_mem_singleton.mpr proper⟩
    · rw [StoreRequest.keeps, if_neg same]
      refine ⟨?_, holds.usable, holds.apart, holds.proper⟩
      rw [rows name, if_neg same]
      exact holds.rows

/-- A table that holds items can be used. -/
theorem use (holds : c.Holds name kept) (nonempty : kept ≠ []) :
    ∃ t, c.database.use name = .ok t ∧ t.rows = kept.map Item.row := by
  obtain ⟨-, readable, system⟩ := holds.usable nonempty
  have rows := holds.rows
  rw [Database.rows?] at rows
  cases found : c.database.find? name with
  | none =>
    rw [found] at rows
    exact absurd (List.map_eq_nil_iff.mp rows.symm) nonempty
  | some t =>
    rw [found] at rows
    exact ⟨t, Database.use_ok_iff.mpr ⟨readable, system, found⟩, rows⟩

/-- What is asked of a table that holds items is answered from their rows. -/
theorem ask (holds : c.Holds name kept) (nonempty : kept ≠ []) (task : DatabaseTask)
    {statement : Statement} {answer : Answer}
    (executed : c.database.execute statement = .ok (answer, c.database)) :
    Connection.ask task statement c = .ok answer :=
  ask_of_sound (holds.usable nonempty).1 task executed

/-- Among rows with keys of their own the row of a key is that of its item. -/
theorem filter_row (holds : c.Holds name kept) {item : Item} (mem : item ∈ kept) :
    (kept.map Item.row).filter (·.key == item.keyText) = [item.row] := by
  have apart := holds.apart
  clear holds
  induction kept with
  | nil => cases mem
  | cons first rest ih =>
    rw [List.map_cons, List.nodup_cons] at apart
    rcases List.mem_cons.mp mem with rfl | later
    · have none : (rest.map Item.row).filter (·.key == item.keyText) = [] := by
        rw [List.filter_eq_nil_iff]
        rintro _ row
        obtain ⟨other, mem, rfl⟩ := List.mem_map.mp row
        exact fun same => apart.1 (List.mem_map.mpr ⟨other, mem, eq_of_beq same⟩)
      have taken : (item.row.key == item.keyText) = true := beq_iff_eq.mpr rfl
      rw [List.map_cons, List.filter_cons, if_pos taken, none]
    · have differs : first.keyText ≠ item.keyText := fun same =>
        apart.1 (same ▸ List.mem_map_of_mem later)
      have skipped : ¬ (first.row.key == item.keyText) = true := by simpa [Item.row] using differs
      rw [List.map_cons, List.filter_cons, if_neg skipped, ih later apart.2]

/-- An item that is held is found under its key, as far as it can be read. -/
theorem find (holds : c.Holds name kept) {item : Item} (mem : item ∈ kept) :
    c.find name item.key = (readItem (Json.Value.object item.merged).render).map some := by
  have nonempty : kept ≠ [] := List.ne_nil_of_mem mem
  obtain ⟨t, used, rows⟩ := holds.use nonempty
  have executed : c.database.execute (.find name item.keyText) =
      .ok (.items [(Json.Value.object item.merged).render], c.database) := by
    simp only [Database.execute, used, rows, holds.filter_row mem, bind, Except.bind]
    rfl
  have answered := holds.ask nonempty (.read name) executed
  unfold Connection.find
  rw [show Item.keyText ⟨item.key, []⟩ = item.keyText from rfl, answered]
  rfl

/-- The items that are held are those of the table, as far as they can be read. -/
theorem items (holds : c.Holds name kept) (nonempty : kept ≠ []) :
    c.items name = kept.mapM fun item => readItem (Json.Value.object item.merged).render := by
  obtain ⟨t, used, rows⟩ := holds.use nonempty
  have executed : c.database.execute (.scan name) =
      .ok (.items ((kept.map Item.row).map (·.item)), c.database) := by
    simp only [Database.execute, used, rows, bind, Except.bind]
    rfl
  have answered := holds.ask nonempty (.scan name) executed
  unfold Connection.items
  rw [answered]
  simp only [bind, Except.bind, texts, List.mapM_map, Function.comp_def]
  rfl

end Holds

/-- The item of a text that is read back. -/
theorem readItem_ok_iff {text : String} {members : Members} :
    readItem text = .ok members ↔ Json.Value.parse text = .ok (.object members) := by
  unfold readItem
  split <;> simp_all

/-- A text that is read back is the text of the item. -/
theorem readItem_render_iff {item : Item} (proper : item.Proper) :
    readItem (Json.Value.object item.merged).render = .ok item.merged ↔ item.Readable := by
  have distinct : (Json.Value.object item.merged).Distinct := proper.merged_eq.symm ▸ proper
  rw [readItem_ok_iff, Json.Value.parse_render_iff distinct, Item.Readable]

/-- The text of an item is at worst malformed. -/
theorem failure_of_readItem {item : Item} {e : StoreError}
    (failed : readItem (Json.Value.object item.merged).render = .error e) :
    e = .storedItem .malformed := by
  unfold readItem at failed
  split at failed
  · cases failed
  · exact (Except.error.inj failed).symm
  · rename_i fault broken
    rw [← Except.error.inj failed, Json.Value.fault_of_parse_render broken]

/-- An item that nests too deep cannot be read. -/
theorem readItem_of_deep {item : Item}
    (deep : Json.maxNesting ≤ (Json.Value.object item.merged).nesting) :
    readItem (Json.Value.object item.merged).render = .error (.storedItem .malformed) := by
  rw [readItem, Json.Value.parse_render_of_deep deep]

/-- The states that the store in a database comes to, with the items that each table has taken
since it was last dropped. -/
inductive Reached : Connection → (String → List Item) → Prop where
  /-- A new database, or a file that is no database. -/
  | empty (access : Access) : Reached { access } fun _ => []
  /-- The database is opened again. -/
  | reopened {c : Connection} {kept : String → List Item} {access : Access}
      (sound : access ≠ .damaged) (reached : Reached c kept) : Reached { c with access } kept
  | accepted {c : Connection} {kept : String → List Item} {request : StoreRequest}
      (proper : request.Proper) (accepted : (store.handle c request).1.isOk = true)
      (reached : Reached c kept) :
      Reached (store.handle c request).2 fun name => request.keeps (kept name) name
  | refused {c : Connection} {kept : String → List Item} {request : StoreRequest}
      (refused : (store.handle c request).1.isOk = false) (reached : Reached c kept) :
      Reached (store.handle c request).2 kept

/-- Every table has the items that it has taken. -/
theorem Reached.holds {kept : String → List Item} (reached : Reached c kept) (name : String) :
    c.Holds name (kept name) := by
  induction reached with
  | empty access =>
    exact ⟨rfl, fun nonempty => absurd rfl nonempty, List.nodup_nil,
      fun _ mem => absurd mem List.not_mem_nil⟩
  | reopened sound _ ih => exact ⟨ih.rows, fun nonempty => ⟨sound, (ih.usable nonempty).2⟩, ih.apart, ih.proper⟩
  | @accepted c kept request proper accepted _ ih =>
    obtain ⟨database, sound, performed, handled⟩ | ⟨e, handled⟩ := handle_cases c request
    · rw [handled]
      exact ih.accepted proper sound performed
    · rw [handled] at accepted
      cases accepted
  | @refused c kept request refused _ ih =>
    obtain ⟨database, sound, performed, handled⟩ | ⟨e, handled⟩ := handle_cases c request
    · rw [handled] at refused
      cases refused
    · rw [handled]
      exact ih

/-- The state after some requests. -/
def after (c : Connection) (requests : List StoreRequest) : Connection :=
  requests.foldl (fun c request => (store.handle c request).2) c

/-- The items of the tables after some requests, all of which are accepted. -/
def keptAfter (kept : String → List Item) (requests : List StoreRequest) : String → List Item :=
  requests.foldl (fun kept request name => request.keeps (kept name) name) kept

/-- Requests that are accepted lead from state to state. -/
theorem Reached.after {kept : String → List Item} {requests : List StoreRequest}
    (reached : Reached c kept) (proper : ∀ request ∈ requests, request.Proper)
    (accepted : ∀ step ∈ store.course c requests, step.1 = true) :
    Reached (c.after requests) (keptAfter kept requests) := by
  induction requests generalizing c kept with
  | nil => exact reached
  | cons request rest ih =>
    obtain ⟨first, others⟩ := List.forall_mem_cons.mp proper
    obtain ⟨ok, later⟩ := List.forall_mem_cons.mp accepted
    exact ih (reached.accepted first ok) others later

/-- What is got from a state with some items. -/
structure ReadsBack (c : Connection) (name : String) (kept : List Item) : Prop where
  /-- An item is found as it was inserted exactly if it can be read. -/
  find : ∀ item ∈ kept, c.find name item.key = .ok (some item.merged) ↔ item.Readable
  /-- The items are found in the order in which they were inserted exactly if all can be read. -/
  items : kept ≠ [] → (c.items name = .ok (kept.map Item.merged) ↔ ∀ item ∈ kept, item.Readable)
  /-- One item that nests too deep is neither found itself nor lets its table be read. -/
  deep : ∀ item ∈ kept, Json.maxNesting ≤ (Json.Value.object item.merged).nesting →
    c.find name item.key = .error (.storedItem .malformed) ∧
      c.items name = .error (.storedItem .malformed)

/-- What is inserted is read back, until its table is dropped, exactly if its text can be read. -/
theorem reads_back {kept : String → List Item} (reached : Reached c kept) (name : String) :
    c.ReadsBack name (kept name) := by
  have holds := reached.holds name
  constructor
  case find =>
    intro item mem
    rw [holds.find mem, ← readItem_render_iff (holds.proper item mem)]
    cases readItem (Json.Value.object item.merged).render <;> simp [Except.map]
  case items =>
    intro nonempty
    rw [holds.items nonempty, mapM_eq_ok_map_iff]
    exact forall₂_congr fun item mem => readItem_render_iff (holds.proper item mem)
  case deep =>
    intro item mem deep
    have failed := readItem_of_deep deep
    constructor
    · rw [holds.find mem, failed]
      rfl
    · rw [holds.items (List.ne_nil_of_mem mem)]
      exact mapM_eq_error mem failed fun _ _ _ => failure_of_readItem

/-- Items that were inserted after their table was dropped, under two spellings of its name. -/
theorem reads_back_after_drop :
    let ann : Item := ⟨[("id", .string "ann")], [("tags", .array [.null, .bool true])]⟩
    let bob : Item := ⟨[("id", .string "bob")], []⟩
    let requests : List StoreRequest :=
      [.create { table := "users", keys := [] }, .insert "users" bob, .drop "users",
        .create { table := "users", keys := [] }, .insert "users" ann, .insert "USERS" bob]
    let kept := keptAfter (fun _ => []) requests
    (kept "Users").map Item.keyText = [ann.keyText, bob.keyText] ∧
      Reached (after {} requests) kept ∧ (after {} requests).ReadsBack "Users" (kept "Users") := by
  intro ann bob requests kept
  have proper : ∀ request ∈ requests, request.Proper := by
    simp [requests, ann, bob, StoreRequest.Proper, Item.Proper, Json.Value.Distinct,
      Json.Value.MembersDistinct, Json.Value.ItemsDistinct, Members.Distinct, Members.names]
  have reached : Reached (after {} requests) kept :=
    (Reached.empty .full).after proper (by decide +kernel)
  exact ⟨by decide +kernel, reached, reads_back reached "Users"⟩

/-- A number inside that many arrays. -/
def boxed : Nat → Json.Value
  | 0 => .number (.ofUInt32 1)
  | n + 1 => .array [boxed n]

/-- A number inside so many arrays nests as deep. -/
theorem nesting_boxed (n : Nat) : (boxed n).nesting = n := by
  induction n with
  | zero => rfl
  | succ n ih => simp [boxed, Json.Value.nesting, Json.Value.itemsNesting, ih]

/-- A number inside arrays has distinct names. -/
theorem distinct_boxed (n : Nat) : (boxed n).Distinct := by
  induction n with
  | zero => trivial
  | succ n ih => exact ⟨ih, trivial⟩

/-- An item that nests one container more than the reader takes is inserted and cannot be read. -/
theorem deep_item_is_lost :
    let item : Item := ⟨[("id", .string "a")], [("deep", boxed 127)]⟩
    let requests : List StoreRequest := [.create { table := "t", keys := [] }, .insert "t" item]
    (store.course {} requests).map Prod.fst = [true, true] ∧
      (after {} requests).find "t" item.key = .error (.storedItem .malformed) ∧
      (after {} requests).items "t" = .error (.storedItem .malformed) := by
  intro item requests
  have proper : ∀ request ∈ requests, request.Proper := by
    simp [requests, item, StoreRequest.Proper, Item.Proper, Json.Value.Distinct,
      Json.Value.MembersDistinct, Members.Distinct, Members.names, distinct_boxed]
  have accepted : (store.course {} requests).map Prod.fst = [true, true] := by decide +kernel
  have reached : Reached (after {} requests) (keptAfter (fun _ => []) requests) := by
    refine (Reached.empty .full).after proper fun step mem => ?_
    have listed : step.1 ∈ [true, true] := accepted ▸ List.mem_map_of_mem mem
    simpa using listed
  have holds := reached.holds "t"
  have kept : keptAfter (fun _ => []) requests "t" = [item] := rfl
  have deep : Json.maxNesting ≤ (Json.Value.object item.merged).nesting := by
    have merged : item.merged = [("id", .string "a"), ("deep", boxed 127)] := rfl
    rw [merged]
    simp [Json.Value.nesting, Json.Value.membersNesting, nesting_boxed, Json.maxNesting]
  rw [kept] at holds
  refine ⟨accepted, ?_, ?_⟩
  · rw [holds.find List.mem_cons_self, readItem_of_deep deep]
    rfl
  · rw [holds.items (List.cons_ne_nil _ _), List.mapM_cons, readItem_of_deep deep]
    rfl

end Connection

end TableSeed
