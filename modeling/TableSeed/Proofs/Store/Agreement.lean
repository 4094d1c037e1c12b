import TableSeed.Proofs.Store.MemoryTables
import TableSeed.Store.Connection

/-!
# The two stores agree

The store in memory and the store in a database take the same requests and refuse the same ones, as
long as no two names differ only in the case of ASCII letters, no name belongs to the database and
every name fits into a statement. After each request the database is the image of the memory: the
same tables, each with the texts of the same items in the same order.
-/

namespace TableSeed

/-- A request to a store. -/
inductive StoreRequest where
  | create (schema : TableSchema)
  | drop (table : String)
  | insert (table : String) (item : Item)

/-- The table that a request names. -/
def StoreRequest.table : StoreRequest → String
  | .create schema => schema.table
  | .drop table | .insert table _ => table

namespace TableStore

variable {σ : Type}

/-- What a store does with a request. An insert that gives way goes on at once. -/
def handle (calls : TableStore σ) (state : σ) : StoreRequest → Except StoreError Unit × σ
  | .create schema => calls.create schema state
  | .drop table => calls.drop table state
  | .insert table item =>
    match calls.startInsert table item state with
    | (.finished result, state) => (result, state)
    | (.givesWay, state) => calls.resumeInsert table item state

/-- The course of some requests, one after the other: whether each was accepted, and the state
after it. -/
def course (calls : TableStore σ) (state : σ) : List StoreRequest → List (Bool × σ)
  | [] => []
  | request :: rest =>
    let (result, state) := calls.handle state request
    (result.isOk, state) :: course calls state rest

end TableStore

/-- The row of an item: the text of its key values and its own text. -/
def KeyedItem.row (item : KeyedItem) : Row := ⟨item.key, (Json.Value.object item.item).render⟩

/-- The database with the tables of a store in memory. -/
def MemoryStore.image (s : MemoryStore) : Database :=
  ⟨s.tables.map fun t => ⟨t.1, t.2.map KeyedItem.row⟩⟩

namespace Database

/-- A statement can hold the name, and the name does not belong to the database. -/
def Admits (name : String) : Prop := Identifier.isReadable name = true ∧ isReserved name = false

instance (name : String) : Decidable (Admits name) := inferInstanceAs (Decidable (_ ∧ _))

/-- No two of the names differ only in case. -/
def Apart (names : List String) : Prop :=
  ∀ a ∈ names, ∀ b ∈ names, sameName a b = true → a = b

instance (names : List String) : Decidable (Apart names) :=
  inferInstanceAs (Decidable (∀ a ∈ names, ∀ b ∈ names, sameName a b = true → a = b))

/-- A name is of the same table as itself. -/
@[simp] theorem sameName_self (name : String) : sameName name name = true := by
  simp [sameName]

/-- The tables that describe a database have reserved names. -/
theorem isReserved_of_isSystem {name : String} (system : isSystem name = true) :
    isReserved name = true := by
  obtain ⟨known, mem, same⟩ := List.any_eq_true.mp system
  have folded : fold name = fold known := eq_of_beq same
  have reserved : ∀ known ∈ systemTables, isReserved known = true := by decide
  rw [isReserved, folded]
  exact reserved known mem

/-- A name that a table may have is none of the tables of the database itself. -/
theorem Admits.isSystem {name : String} (admits : Admits name) : isSystem name = false := by
  have := admits.2
  by_contra system
  rw [isReserved_of_isSystem (by simpa using system)] at this
  cases this

section Admitted

variable {name : String}

/-- A table with an admitted name is created, unless it is there. -/
theorem create_of_admits (db : Database) (admits : Admits name) :
    db.create name = .ok (if (db.find? name).isSome then db else ⟨db.tables ++ [⟨name, []⟩]⟩) := by
  unfold create
  rw [admits.1, admits.2]
  simp only [Bool.not_true, Bool.false_eq_true, if_false]
  split_ifs <;> rfl

/-- A table with an admitted name is dropped, and nothing happens if it is not there. -/
theorem drop_of_admits (db : Database) (admits : Admits name) :
    db.drop name = .ok ⟨db.tables.filter fun t => !sameName t.name name⟩ := by
  unfold drop
  rw [admits.1, admits.isSystem]
  rfl

/-- A row is inserted into the table of an admitted name, unless there is none or the key is
taken. -/
theorem insert_of_admits (db : Database) (admits : Admits name) (row : Row) :
    db.insert name row = match db.find? name with
      | none => .error (.noSuchTable name)
      | some t => if t.rows.any (·.key == row.key) then .error (.duplicateKey t.name)
        else .ok ⟨db.tables.map fun t =>
          if sameName t.name name then { t with rows := t.rows ++ [row] } else t⟩ := by
  unfold insert use
  rw [admits.1, admits.isSystem]
  cases db.find? name with
  | none => rfl
  | some t =>
    simp only [bind, Except.bind, Bool.not_true, Bool.false_eq_true, if_false]
    split_ifs <;> rfl

end Admitted

end Database

namespace Connection

/-- A connection that may do everything does what its database does. -/
theorem perform_full {c : Connection} (full : c.access = .full) (task : DatabaseTask)
    (statement : Statement) :
    perform task statement c = match c.database.execute statement with
      | .ok (_, database) => (.ok (), { c with database })
      | .error fault => (.error (.database task fault), c) := by
  obtain ⟨database, access⟩ := c
  obtain rfl : access = .full := full
  unfold perform execute
  cases database.execute statement <;> rfl

end Connection

/-- A connection has the tables of a store in memory, under names that are known. -/
structure Connection.Mirrors (names : List String) (s : MemoryStore) (c : Connection) : Prop where
  full : c.access = .full
  database : c.database = s.image
  distinct : (s.tables.map Prod.fst).Nodup
  known : ∀ t ∈ s.tables, t.1 ∈ names

namespace Connection.Mirrors

variable {names : List String} {s : MemoryStore} {c : Connection} {name : String}

/-- Among known names those that are equal but for the case are equal. -/
theorem sameName_iff (mirrors : Mirrors names s c) (apart : Database.Apart names)
    (mem : name ∈ names) {t : String × List KeyedItem} (stored : t ∈ s.tables) :
    Database.sameName t.1 name = true ↔ t.1 = name :=
  ⟨apart _ (mirrors.known t stored) _ mem, fun same => by simp [same]⟩

/-- The database finds the table that the memory finds. -/
theorem find? (mirrors : Mirrors names s c) (apart : Database.Apart names) (mem : name ∈ names) :
    c.database.find? name = (s.table? name).map fun items => ⟨name, items.map KeyedItem.row⟩ := by
  have same := fun t stored => mirrors.sameName_iff apart mem (t := t) stored
  rw [mirrors.database, Database.find?, MemoryStore.image, MemoryStore.table?]
  generalize s.tables = tables at same
  induction tables with
  | nil => rfl
  | cons t rest ih =>
    have later := ih fun t stored => same t (List.mem_cons_of_mem _ stored)
    rw [List.map_cons, List.find?_cons, List.lookup_cons, later]
    by_cases here : t.1 = name
    · simp [here]
    · rw [beq_false_of_ne (Ne.symm here)]
      simp [(same t List.mem_cons_self).not.mpr here]

/-- Creating a table succeeds in both stores or in neither, and they still agree. -/
theorem create (mirrors : Mirrors names s c) (apart : Database.Apart names) {schema : TableSchema}
    (mem : schema.table ∈ names) (admits : Database.Admits schema.table) :
    (MemoryStore.create schema s).1.isOk = (Connection.create schema c).1.isOk ∧
      Mirrors names (MemoryStore.create schema s).2 (Connection.create schema c).2 := by
  have recorded : (s.record (.create schema.table)).table? schema.table = s.table? schema.table := rfl
  rw [Connection.create, perform_full mirrors.full, Database.execute,
    Database.create_of_admits _ admits, mirrors.find? apart mem, MemoryStore.create]
  simp only [recorded]
  cases missing : s.table? schema.table with
  | some items => exact ⟨rfl, mirrors.full, mirrors.database, mirrors.distinct, mirrors.known⟩
  | none =>
    have fresh : schema.table ∉ s.tables.map Prod.fst := fun stored => by
      obtain ⟨t, stored, same⟩ := List.mem_map.mp stored
      have differs := List.lookup_eq_none_iff.mp missing t stored
      simp [same] at differs
    refine ⟨rfl, mirrors.full, ?_, ?_, ?_⟩
    · change Database.mk (c.database.tables ++ _) = Database.mk ((s.tables ++ _).map _)
      rw [mirrors.database, List.map_append]
      rfl
    · change ((s.tables ++ [(schema.table, [])]).map Prod.fst).Nodup
      rw [List.map_append]
      exact mirrors.distinct.append (List.nodup_singleton _) (List.disjoint_singleton.mpr fresh)
    · intro t stored
      rcases List.mem_append.mp stored with old | new
      · exact mirrors.known t old
      · obtain rfl := List.mem_singleton.mp new
        exact mem

/-- Dropping a table succeeds in both stores or in neither, and they still agree. -/
theorem drop (mirrors : Mirrors names s c) (apart : Database.Apart names)
    (mem : name ∈ names) (admits : Database.Admits name) :
    (MemoryStore.drop name s).1.isOk = (Connection.drop name c).1.isOk ∧
      Mirrors names (MemoryStore.drop name s).2 (Connection.drop name c).2 := by
  rw [Connection.drop, perform_full mirrors.full, Database.execute, Database.drop_of_admits _ admits]
  refine ⟨rfl, mirrors.full, ?_, ?_, ?_⟩
  · change Database.mk (c.database.tables.filter _) = Database.mk ((s.tables.filter _).map _)
    rw [mirrors.database, MemoryStore.image, List.filter_map]
    congr 2
    refine List.filter_congr fun t stored => ?_
    have same := mirrors.sameName_iff apart mem stored
    by_cases here : t.1 = name
    · simp [here]
    · simp [here, Bool.eq_false_iff.mpr (same.not.mpr here)]
  · exact mirrors.distinct.sublist (List.filter_sublist.map _)
  · exact fun t stored => mirrors.known t (List.mem_of_mem_filter stored)

/-- A table is found under its name. -/
theorem table?_of_mem (mirrors : Mirrors names s c) {t : String × List KeyedItem}
    (stored : t ∈ s.tables) : s.table? t.1 = some t.2 := by
  have distinct := mirrors.distinct
  rw [MemoryStore.table?]
  generalize s.tables = tables at stored distinct
  induction tables with
  | nil => cases stored
  | cons first rest ih =>
    rw [List.map_cons, List.nodup_cons] at distinct
    rcases List.mem_cons.mp stored with rfl | later
    · exact List.lookup_cons_self
    · have apart : t.1 ≠ first.1 := fun same =>
        distinct.1 (same ▸ List.mem_map_of_mem later)
      rw [List.lookup_cons, beq_false_of_ne apart]
      exact ih later distinct.2

/-- Inserting an item succeeds in both stores or in neither, and they still agree. The database
finds the table by its name in any case, the store in memory by the name itself. -/
theorem insert (mirrors : Mirrors names s c) (apart : Database.Apart names)
    (mem : name ∈ names) (admits : Database.Admits name) (item : Item) :
    (MemoryStore.insert name item s).1.isOk = (Connection.insert name item c).1.isOk ∧
      Mirrors names (MemoryStore.insert name item s).2 (Connection.insert name item c).2 := by
  have recorded : (s.record (.insert name item)).table? name = s.table? name := rfl
  rw [Connection.insert, perform_full mirrors.full, Database.execute,
    Database.insert_of_admits _ admits, mirrors.find? apart mem, MemoryStore.insert]
  simp only [recorded]
  cases present : s.table? name with
  | none => exact ⟨rfl, mirrors.full, mirrors.database, mirrors.distinct, mirrors.known⟩
  | some items =>
    have keys : (items.map KeyedItem.row).any (·.key == item.keyText) =
        items.any (·.key == item.keyText) := List.any_map
    simp only [Option.map_some, keys]
    by_cases taken : items.any (·.key == item.keyText) = true
    · rw [if_pos taken, if_pos taken]
      exact ⟨rfl, mirrors.full, mirrors.database, mirrors.distinct, mirrors.known⟩
    · rw [if_neg taken, if_neg taken]
      refine ⟨rfl, mirrors.full, ?_, ?_, ?_⟩
      · change Database.mk (c.database.tables.map _) = Database.mk ((s.tables.map _).map _)
        rw [mirrors.database, MemoryStore.image, List.map_map, List.map_map]
        congr 1
        refine List.map_congr_left fun t stored => ?_
        have same := mirrors.sameName_iff apart mem stored
        by_cases here : t.1 = name
        · obtain rfl : t.2 = items := by
            have found := mirrors.table?_of_mem stored
            rw [here, present] at found
            exact (Option.some.inj found).symm
          simp [here, KeyedItem.row]
        · simp [same, here]
      · change ((s.tables.map _).map Prod.fst).Nodup
        have names_eq : (s.tables.map fun t => if t.1 = name then
            (name, items ++ [⟨item.keyText, item.merged⟩]) else t).map Prod.fst =
              s.tables.map Prod.fst := by
          rw [List.map_map]
          refine List.map_congr_left fun t _ => ?_
          by_cases here : t.1 = name <;> simp [here]
        rw [names_eq]
        exact mirrors.distinct
      · intro t stored
        obtain ⟨old, mem', rfl⟩ := List.mem_map.mp stored
        split_ifs
        · exact mem
        · exact mirrors.known old mem'

/-- Two stores that hold the same take a request or refuse it alike, and hold the same
afterwards. -/
theorem handle (mirrors : Mirrors names s c) (apart : Database.Apart names)
    {request : StoreRequest} (mem : request.table ∈ names) (admits : Database.Admits request.table) :
    (MemoryStore.store.handle s request).1.isOk = (store.handle c request).1.isOk ∧
      Mirrors names (MemoryStore.store.handle s request).2 (store.handle c request).2 := by
  cases request with
  | create schema => exact mirrors.create apart mem admits
  | drop table => exact mirrors.drop apart mem admits
  | insert table item => exact mirrors.insert apart mem admits item

/-- Two stores that hold the same go through requests alike. -/
theorem course (mirrors : Mirrors names s c) (apart : Database.Apart names)
    {requests : List StoreRequest} (mem : ∀ r ∈ requests, r.table ∈ names)
    (admits : ∀ r ∈ requests, Database.Admits r.table) :
    List.Forall₂ (fun memory connection => memory.1 = connection.1 ∧
        connection.2.database = memory.2.image)
      (MemoryStore.store.course s requests) (store.course c requests) := by
  induction requests generalizing s c with
  | nil => exact .nil
  | cons request rest ih =>
    obtain ⟨accepted, after⟩ :=
      mirrors.handle apart (mem request List.mem_cons_self) (admits request List.mem_cons_self)
    exact .cons ⟨accepted, after.database⟩ (ih after
      (fun r later => mem r (List.mem_cons_of_mem _ later))
      fun r later => admits r (List.mem_cons_of_mem _ later))

/-- A new connection has the tables of a new store in memory. -/
theorem empty (names : List String) : Mirrors names {} {} where
  full := rfl
  database := rfl
  distinct := .nil
  known := fun _ stored => absurd stored List.not_mem_nil

end Connection.Mirrors

/-- From empty stores on, the store in memory and the store in a database accept the same requests,
and after each of them the same tables exist and have the same rows in the same order. -/
theorem TableStore.courses_agree (requests : List StoreRequest)
    (apart : Database.Apart (requests.map StoreRequest.table))
    (admits : ∀ r ∈ requests, Database.Admits r.table) :
    List.Forall₂ (fun memory connection => memory.1 = connection.1 ∧
        connection.2.database = memory.2.image)
      (MemoryStore.store.course {} requests) (Connection.store.course {} requests) :=
  (Connection.Mirrors.empty _).course apart (fun _ mem => List.mem_map_of_mem mem) admits

/-- A duplicate key and a missing table are refused by both stores. -/
theorem TableStore.courses_agree_on_refusals :
    let ann : Item := ⟨[("id", .string "ann")], []⟩
    let requests : List StoreRequest :=
      [.create { table := "users", keys := [] }, .insert "users" ann, .insert "users" ann,
        .drop "users", .insert "users" ann, .create { table := "Orders", keys := [] }]
    (MemoryStore.store.course {} requests).map Prod.fst = [true, true, false, true, false, true] ∧
      List.Forall₂ (fun memory connection => memory.1 = connection.1 ∧
          connection.2.database = memory.2.image)
        (MemoryStore.store.course {} requests) (Connection.store.course {} requests) :=
  ⟨by decide, TableStore.courses_agree _ (by decide) (by decide)⟩

end TableSeed
