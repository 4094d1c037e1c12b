import TableSeed.Proofs.Store.Kept
import TableSeed.Proofs.Text.ByteOrder

/-!
# What the list of tables shows

A table stands from the request that creates it to the next one that drops it, under the spelling
of its creation: to create it once more changes nothing. After any requests that a new database
accepts, the list has the tables that stand with the numbers of the items inserted since, sorted by
the bytes of their names. It leaves out those whose names begin with `sqlite` and go on, of which
only the ones that go on with an underscore are never created.
-/

namespace TableSeed

section Split

variable {α : Type} {xs before after : List α} {x last : α}

/-- A list that ends in `last` is split at its end or before it. -/
theorem snoc_eq_append_cons : xs ++ [last] = before ++ x :: after ↔
    after = [] ∧ before = xs ∧ x = last ∨
      ∃ rest, after = rest ++ [last] ∧ xs = before ++ x :: rest := by
  constructor
  · intro split
    obtain rfl | ⟨rest, y, rfl⟩ := after.eq_nil_or_concat'
    · have ends := List.append_inj' split rfl
      exact .inl ⟨rfl, ends.1.symm, (List.singleton_inj.mp ends.2).symm⟩
    · rw [← List.cons_append, ← List.append_assoc] at split
      have ends := List.append_inj' split rfl
      exact .inr ⟨rest, by rw [List.singleton_inj.mp ends.2], ends.1⟩
  · rintro (⟨rfl, rfl, rfl⟩ | ⟨rest, rfl, rfl⟩)
    · rfl
    · rw [List.append_assoc, List.cons_append]

end Split

/-- Whether two names are of one table does not depend on their order. -/
theorem Database.sameName_comm (a b : String) : sameName a b = sameName b a := Bool.beq_comm

/-- A name that is of one table with another is of one table with all that are of one table with
that. -/
theorem Database.sameName_trans {a b c : String} (first : sameName a b = true)
    (second : sameName b c = true) : sameName a c = true :=
  sameName_iff.mpr ((sameName_iff.mp first).trans (sameName_iff.mp second))

namespace StoreRequest

variable {requests : List StoreRequest} {request : StoreRequest} {name table : String}
  {item : Item} {schema : TableSchema} {e : TableCount}

/-- The request creates a table of that name. -/
def creates (name : String) : StoreRequest → Bool
  | .create schema => Database.sameName schema.table name
  | .drop _ | .insert _ _ => false

/-- The request drops the table of that name. -/
def drops (name : String) : StoreRequest → Bool
  | .drop table => Database.sameName table name
  | .create _ | .insert _ _ => false

/-- The request inserts into the table of that name. -/
def inserts (name : String) : StoreRequest → Bool
  | .insert table _ => Database.sameName table name
  | .create _ | .drop _ => false

/-- A table of that name was created and has not been dropped since. -/
def Stands (requests : List StoreRequest) (name : String) : Prop :=
  ∃ before request after, requests = before ++ request :: after ∧ request.creates name = true ∧
    ∀ r ∈ after, r.drops name = false

/-- A table was created with that spelling when none of its name stood, has not been dropped since
and has taken that many items. -/
def StandsAs (requests : List StoreRequest) (e : TableCount) : Prop :=
  ∃ before schema after, requests = before ++ .create schema :: after ∧ schema.table = e.name ∧
    ¬ Stands before e.name ∧ (∀ r ∈ after, r.drops e.name = false) ∧
    e.items = after.countP (·.inserts e.name)

/-- A request drops the tables of names that are compared as the same. -/
theorem drops_congr {a b : String} (same : Database.sameName a b = true)
    (request : StoreRequest) : request.drops a = request.drops b := by
  cases request with
  | drop table => exact Database.sameName_congr same table
  | create _ | insert _ _ => rfl

/-- No table stands before the first request. -/
theorem not_stands_nil : ¬ Stands [] name := by
  rintro ⟨before, request, after, split, -⟩
  exact List.append_ne_nil_of_right_ne_nil before (List.cons_ne_nil _ _) split.symm

/-- No table stands with any spelling before the first request. -/
theorem not_standsAs_nil : ¬ StandsAs [] e := by
  rintro ⟨before, schema, after, split, -⟩
  exact List.append_ne_nil_of_right_ne_nil before (List.cons_ne_nil _ _) split.symm

/-- What stands after one more request. -/
theorem stands_snoc : Stands (requests ++ [request]) name ↔
    request.creates name = true ∨ Stands requests name ∧ request.drops name = false := by
  constructor
  · rintro ⟨before, created, after, split, creates, kept⟩
    obtain ⟨rfl, -, rfl⟩ | ⟨rest, rfl, rfl⟩ := snoc_eq_append_cons.mp split
    · exact .inl creates
    · obtain ⟨earlier, last⟩ := List.forall_mem_append.mp kept
      exact .inr ⟨⟨before, created, rest, rfl, creates, earlier⟩, last _ List.mem_cons_self⟩
  · rintro (creates | ⟨⟨before, created, after, rfl, creates, kept⟩, last⟩)
    · exact ⟨requests, request, [], rfl, creates, fun _ mem => absurd mem List.not_mem_nil⟩
    · refine ⟨before, created, after ++ [request], ?_, creates, ?_⟩
      · rw [List.append_assoc, List.cons_append]
      · exact List.forall_mem_append.mpr ⟨kept, List.forall_mem_singleton.mpr last⟩

/-- How a table stands after one more request. -/
theorem standsAs_snoc : StandsAs (requests ++ [request]) e ↔
    (∃ schema, request = .create schema ∧ schema.table = e.name ∧ ¬ Stands requests e.name ∧
      e.items = 0) ∨
    request.drops e.name = false ∧ ∃ n, StandsAs requests ⟨e.name, n⟩ ∧
      e.items = n + if request.inserts e.name = true then 1 else 0 := by
  constructor
  · rintro ⟨before, schema, after, split, named, new, kept, count⟩
    obtain ⟨rfl, rfl, created⟩ | ⟨rest, rfl, rfl⟩ := snoc_eq_append_cons.mp split
    · exact .inl ⟨schema, created.symm, named, new, count⟩
    · obtain ⟨earlier, last⟩ := List.forall_mem_append.mp kept
      refine .inr ⟨last _ List.mem_cons_self, rest.countP (·.inserts e.name), ?_, ?_⟩
      · exact ⟨before, schema, rest, rfl, named, new, earlier, rfl⟩
      · rw [count, List.countP_append, List.countP_singleton]
  · rintro (⟨schema, rfl, named, new, none⟩ | ⟨last, n, stands, more⟩)
    · exact ⟨requests, schema, [], rfl, named, new, fun _ mem => absurd mem List.not_mem_nil, none⟩
    · obtain ⟨before, schema, after, rfl, named, new, kept, count⟩ := stands
      refine ⟨before, schema, after ++ [request], ?_, named, new, ?_, ?_⟩
      · rw [List.append_assoc, List.cons_append]
      · exact List.forall_mem_append.mpr ⟨kept, List.forall_mem_singleton.mpr last⟩
      · change n = _ at count
        rw [more, count, List.countP_append, List.countP_singleton]

/-- After a table is created it stands with its spelling if none of its name stood, and the others
stand as they did. -/
theorem standsAs_create : StandsAs (requests ++ [.create schema]) e ↔
    schema.table = e.name ∧ ¬ Stands requests e.name ∧ e.items = 0 ∨ StandsAs requests e := by
  rw [standsAs_snoc]
  simp [drops, inserts]

/-- After a table is dropped those of other names stand as they did. -/
theorem standsAs_drop : StandsAs (requests ++ [.drop table]) e ↔
    Database.sameName table e.name = false ∧ StandsAs requests e := by
  rw [standsAs_snoc]
  simp [drops, inserts]

/-- After an item is inserted its table has one more, and the others stand as they did. -/
theorem standsAs_insert : StandsAs (requests ++ [.insert table item]) e ↔
    ∃ n, StandsAs requests ⟨e.name, n⟩ ∧
      e.items = n + if Database.sameName table e.name = true then 1 else 0 := by
  rw [standsAs_snoc]
  constructor
  · rintro (⟨_, created, -⟩ | ⟨-, more⟩)
    · cases created
    · exact more
  · exact fun more => .inr ⟨rfl, more⟩

/-- A name stands if a table stands under some spelling of it. -/
theorem stands_iff : Stands requests name ↔
    ∃ e, StandsAs requests e ∧ Database.sameName e.name name = true := by
  induction requests using List.reverseRecOn generalizing name with
  | nil =>
    constructor
    · exact fun stands => absurd stands not_stands_nil
    · exact fun ⟨_, stands, _⟩ => absurd stands not_standsAs_nil
  | append_singleton requests request ih =>
    rw [stands_snoc]
    constructor
    · rintro (creates | ⟨stands, kept⟩)
      · cases request with
        | drop table | insert table item => cases creates
        | create schema =>
          by_cases known : Stands requests schema.table
          · obtain ⟨e, stands, same⟩ := ih.mp known
            refine ⟨e, standsAs_create.mpr (.inr stands), ?_⟩
            exact Database.sameName_trans same creates
          · exact ⟨⟨schema.table, 0⟩, standsAs_create.mpr (.inl ⟨rfl, known, rfl⟩), creates⟩
      · obtain ⟨e, stands, same⟩ := ih.mp stands
        have stays := (drops_congr same request).trans kept
        exact ⟨⟨e.name, e.items + if request.inserts e.name = true then 1 else 0⟩,
          standsAs_snoc.mpr (.inr ⟨stays, e.items, stands, rfl⟩), same⟩
    · rintro ⟨e, stands, same⟩
      obtain ⟨schema, rfl, named, -⟩ | ⟨kept, n, stands, -⟩ := standsAs_snoc.mp stands
      · rw [← named] at same
        exact .inl same
      · exact .inr ⟨ih.mpr ⟨⟨e.name, n⟩, stands, same⟩, (drops_congr same request).symm.trans kept⟩

end StoreRequest

/-- The table with one more row, if that is its name. -/
def StoredTable.withRow (table : String) (row : Row) (t : StoredTable) : StoredTable :=
  if Database.sameName t.name table then { t with rows := t.rows ++ [row] } else t

/-- A row does not change the name of a table. -/
theorem StoredTable.name_withRow (table : String) (row : Row) (t : StoredTable) :
    (t.withRow table row).name = t.name := by
  unfold withRow
  split_ifs <;> rfl

/-- A row comes into the table of its name only. -/
theorem StoredTable.length_withRow (table : String) (row : Row) (t : StoredTable) :
    (t.withRow table row).rows.length =
      t.rows.length + if Database.sameName table t.name = true then 1 else 0 := by
  unfold withRow
  rw [Database.sameName_comm table]
  split_ifs <;> simp

namespace Database

variable {db after : Database} {requests : List StoreRequest} {name table : String}
  {t : StoredTable}

/-- An insert adds a row to the table of its name. -/
theorem insert_ok {row : Row} (inserted : db.insert table row = .ok after) :
    after = ⟨db.tables.map (·.withRow table row)⟩ := by
  unfold Database.insert at inserted
  cases used : db.use table with
  | error fault => simp [used, bind, Except.bind] at inserted
  | ok found =>
    simp only [used, bind, Except.bind] at inserted
    split_ifs at inserted with taken
    exact (Except.ok.inj inserted).symm

/-- No two tables have the same name. -/
def OneOfEach (db : Database) : Prop := (db.tables.map fun t => fold t.name).Nodup

/-- A table is found under its name if it is the only one of that name. -/
theorem OneOfEach.find?_of_mem (one : db.OneOfEach) (mem : t ∈ db.tables)
    (same : sameName t.name name = true) : db.find? name = some t := by
  rw [OneOfEach] at one
  rw [find?]
  generalize db.tables = tables at one mem
  induction tables with
  | nil => cases mem
  | cons first rest ih =>
    rw [List.map_cons, List.nodup_cons] at one
    obtain ⟨other, rest_one⟩ := one
    rcases List.mem_cons.mp mem with rfl | later
    · exact List.find?_cons_of_pos same
    · have differs : ¬ sameName first.name name = true := fun here => other (by
        rw [sameName_iff.mp here, ← sameName_iff.mp same]
        exact List.mem_map_of_mem later)
      rw [List.find?_cons, eq_false_of_ne_true differs]
      exact ih rest_one later

/-- The database has the tables that stand after some requests. -/
structure Records (db : Database) (requests : List StoreRequest) : Prop where
  one : db.OneOfEach
  admitted : ∀ t ∈ db.tables, Admits t.name
  standing : ∀ e, StoreRequest.StandsAs requests e ↔
    ∃ t ∈ db.tables, t.name = e.name ∧ t.rows.length = e.items

namespace Records

/-- A name stands exactly if it has a table. -/
theorem stands (records : db.Records requests) :
    StoreRequest.Stands requests name ↔ (db.find? name).isSome = true := by
  rw [StoreRequest.stands_iff, find?, List.find?_isSome]
  constructor
  · rintro ⟨e, stands, same⟩
    obtain ⟨t, mem, named, -⟩ := (records.standing e).mp stands
    exact ⟨t, mem, by rw [named, same]⟩
  · rintro ⟨t, mem, same⟩
    exact ⟨⟨t.name, t.rows.length⟩, (records.standing _).mpr ⟨t, mem, rfl, rfl⟩, same⟩

/-- A new database has no tables. -/
theorem empty : Records {} [] where
  one := .nil
  admitted _ mem := absurd mem List.not_mem_nil
  standing _ := ⟨fun stands => absurd stands StoreRequest.not_standsAs_nil,
    fun ⟨_, mem, _⟩ => absurd mem List.not_mem_nil⟩

/-- A table that is created stands, as the requests say. -/
theorem create (records : db.Records requests) {schema : TableSchema}
    (created : db.create schema.table = .ok after) :
    after.Records (requests ++ [.create schema]) := by
  unfold Database.create at created
  split_ifs at created with unreadable reserved known
  · obtain rfl := Except.ok.inj created
    refine ⟨records.one, records.admitted, fun e => ?_⟩
    rw [StoreRequest.standsAs_create, ← records.standing]
    refine or_iff_right fun ⟨named, new, _⟩ => new ?_
    rw [← named, records.stands, known]
  · obtain rfl := Except.ok.inj created
    have new : ¬ StoreRequest.Stands requests schema.table := by rwa [records.stands]
    refine ⟨?_, ?_, fun e => ?_⟩
    · rw [OneOfEach, List.map_append, List.nodup_append]
      refine ⟨records.one, List.nodup_singleton _, ?_⟩
      rintro _ old _ added rfl
      obtain ⟨t, mem, folded⟩ := List.mem_map.mp old
      rw [List.mem_singleton.mp added] at folded
      refine known ?_
      rw [records.one.find?_of_mem mem (sameName_iff.mpr folded)]
      rfl
    · refine List.forall_mem_append.mpr ⟨records.admitted, List.forall_mem_singleton.mpr ?_⟩
      exact ⟨by simpa using unreadable, by simpa using reserved⟩
    · rw [StoreRequest.standsAs_create, records.standing]
      constructor
      · rintro (⟨named, -, none⟩ | ⟨t, mem, entry⟩)
        · exact ⟨⟨schema.table, []⟩, List.mem_append_right _ List.mem_cons_self, named, none.symm⟩
        · exact ⟨t, List.mem_append_left _ mem, entry⟩
      · rintro ⟨t, mem, named, count⟩
        rcases List.mem_append.mp mem with old | added
        · exact .inr ⟨t, old, named, count⟩
        · obtain rfl := List.mem_singleton.mp added
          exact .inl ⟨named, named ▸ new, count.symm⟩

/-- A table that is dropped stands no longer, as the requests say. -/
theorem drop (records : db.Records requests) (dropped : db.drop table = .ok after) :
    after.Records (requests ++ [.drop table]) := by
  unfold Database.drop at dropped
  split_ifs at dropped with unreadable system
  obtain rfl := Except.ok.inj dropped
  refine ⟨?_, ?_, fun e => ?_⟩
  · exact records.one.sublist (List.filter_sublist.map _)
  · exact fun t mem => records.admitted t (List.mem_of_mem_filter mem)
  · rw [StoreRequest.standsAs_drop, records.standing]
    constructor
    · rintro ⟨other, t, mem, named, count⟩
      refine ⟨t, List.mem_filter.mpr ⟨mem, ?_⟩, named, count⟩
      rw [named, sameName_comm, other]
      rfl
    · rintro ⟨t, mem, named, count⟩
      obtain ⟨old, other⟩ := List.mem_filter.mp mem
      refine ⟨?_, t, old, named, count⟩
      rw [named, sameName_comm] at other
      simpa using other

/-- A table that an item is inserted into has one more, as the requests say. -/
theorem insert (records : db.Records requests) {item : Item}
    (inserted : db.insert table item.row = .ok after) :
    after.Records (requests ++ [.insert table item]) := by
  obtain rfl := insert_ok inserted
  refine ⟨?_, ?_, fun e => ?_⟩
  · have names : (db.tables.map (·.withRow table item.row)).map (fun t => fold t.name) =
        db.tables.map fun t => fold t.name := by
      rw [List.map_map]
      exact List.map_congr_left fun t _ => congrArg fold (t.name_withRow ..)
    rw [OneOfEach, names]
    exact records.one
  · intro u mem
    obtain ⟨t, old, rfl⟩ := List.mem_map.mp mem
    rw [t.name_withRow]
    exact records.admitted t old
  · rw [StoreRequest.standsAs_insert]
    constructor
    · rintro ⟨n, stands, count⟩
      obtain ⟨t, mem, named, kept⟩ := (records.standing _).mp stands
      refine ⟨t.withRow table item.row, List.mem_map_of_mem mem, (t.name_withRow ..).trans named, ?_⟩
      change t.name = e.name at named
      change t.rows.length = n at kept
      rw [t.length_withRow, named, kept, count]
    · rintro ⟨u, mem, named, count⟩
      obtain ⟨t, old, rfl⟩ := List.mem_map.mp mem
      rw [t.name_withRow] at named
      refine ⟨t.rows.length, (records.standing _).mpr ⟨t, old, named, rfl⟩, ?_⟩
      rw [← count, ← named, t.length_withRow]

/-- What a request that is performed does to the tables that stand. -/
theorem perform (records : db.Records requests) {request : StoreRequest}
    (performed : request.perform db = .ok after) : after.Records (requests ++ [request]) := by
  cases request with
  | create schema => exact records.create performed
  | drop table => exact records.drop performed
  | insert table item => exact records.insert performed

end Records

/-- The list leaves out the name: it begins with `sqlite`, in letters of any case, and goes on. -/
def LeftOut (name : String) : Prop := ∃ next rest, fold name = "sqlite".toList ++ next :: rest

/-- The names that the list leaves out are the hidden ones. -/
theorem leftOut_iff : LeftOut name ↔ isHidden name = true := by
  rw [LeftOut, isHidden, Bool.and_eq_true, List.isPrefixOf_iff_prefix, decide_eq_true_iff]
  constructor
  · rintro ⟨next, rest, folded⟩
    rw [folded, hiddenMark, List.length_append, List.length_cons]
    exact ⟨List.prefix_append _ _, by omega⟩
  · rintro ⟨⟨tail, folded⟩, longer⟩
    cases tail with
    | nil =>
      rw [List.append_nil] at folded
      exact absurd (congrArg List.length folded) longer.ne
    | cons next rest => exact ⟨next, rest, folded.symm⟩

/-- Names of one table are both left out or neither. -/
theorem leftOut_congr {a b : String} (same : sameName a b = true) : LeftOut a ↔ LeftOut b := by
  rw [LeftOut, LeftOut, sameName_iff.mp same]

/-- The list has the names of the tables but those it leaves out. -/
theorem mem_listed :
    name ∈ db.listed ↔ (∃ t ∈ db.tables, t.name = name) ∧ ¬ LeftOut name := by
  rw [listed, List.mem_mergeSort, List.mem_filter, List.mem_map, leftOut_iff]
  simp

/-- No table is listed twice. -/
theorem OneOfEach.listed_once (one : db.OneOfEach) : (db.listed.map fold).Nodup := by
  have shown : ((db.tables.map (·.name)).filter fun n => !isHidden n).Sublist
      (db.tables.map (·.name)) := List.filter_sublist
  have names : ((db.tables.map (·.name)).map fold).Nodup := by
    rw [List.map_map]
    exact one
  exact ((List.mergeSort_perm _ _).map fold).nodup_iff.mpr (names.sublist (shown.map fold))

/-- The listed names are in the order of names. -/
theorem OneOfEach.listed_sorted (one : db.OneOfEach) : db.listed.Pairwise (· < ·) := by
  have le_iff (a b : String) : nameLe a b = true ↔ a ≤ b := by
    rw [nameLe, Bool.not_eq_true', decide_eq_false_iff_not, not_lt]
  have sorted : db.listed.Pairwise fun a b => nameLe a b = true := by
    refine List.pairwise_mergeSort (fun a b c first second => ?_) (fun a b => ?_) _
    · rw [le_iff] at *
      exact first.trans second
    · rw [Bool.or_eq_true, le_iff, le_iff]
      exact le_total a b
  have once : db.listed.Nodup := one.listed_once.of_map fold
  exact (sorted.and once).imp fun {a b} both => lt_of_le_of_ne ((le_iff a b).mp both.1) both.2

/-- What the list says of a table. -/
def entry (db : Database) (name : String) : TableCount := ⟨name, ((db.rows? name).getD []).length⟩

/-- The entries of the list are tables, with the numbers of their rows. -/
theorem OneOfEach.mem_entries (one : db.OneOfEach) {e : TableCount} :
    e ∈ db.listed.map db.entry ↔
      (∃ t ∈ db.tables, t.name = e.name ∧ t.rows.length = e.items) ∧ ¬ LeftOut e.name := by
  have entry_eq {t : StoredTable} (mem : t ∈ db.tables) :
      db.entry t.name = ⟨t.name, t.rows.length⟩ := by
    rw [entry, rows?, one.find?_of_mem mem (sameName_self _)]
    rfl
  rw [List.mem_map]
  constructor
  · rintro ⟨name, listed, rfl⟩
    obtain ⟨⟨t, mem, rfl⟩, shown⟩ := mem_listed.mp listed
    rw [entry_eq mem]
    exact ⟨⟨t, mem, rfl, rfl⟩, shown⟩
  · rintro ⟨⟨t, mem, named, count⟩, shown⟩
    rw [← named] at shown
    refine ⟨t.name, mem_listed.mpr ⟨⟨t, mem, rfl⟩, shown⟩, ?_⟩
    rw [entry_eq mem, named, count]

end Database

/-- A list of the tables that stand after some requests, but for those that are left out. -/
structure StoreRequest.ListsStanding (requests : List StoreRequest) (entries : List TableCount) :
    Prop where
  /-- The entries are tables that stand, with their spelling and their number of items. -/
  mem_iff : ∀ e, e ∈ entries ↔ StandsAs requests e ∧ ¬ Database.LeftOut e.name
  /-- The names that have an entry are those that stand. -/
  name_iff : ∀ name, (∃ e ∈ entries, Database.sameName e.name name = true) ↔
    Stands requests name ∧ ¬ Database.LeftOut name
  /-- No name has two entries. -/
  once : (entries.map fun e => Database.fold e.name).Nodup
  /-- The entries are in the order of the bytes of their names. -/
  sorted : entries.Pairwise fun a b => Bytes.order (.ofText a.name) (.ofText b.name) = .lt
  /-- No name that belongs to the database stands. -/
  unreserved : ∀ name, Stands requests name → Database.isReserved name = false

namespace Connection

variable {c : Connection} {before requests : List StoreRequest}

/-- The list has the tables of the database. -/
theorem tables_eq (sound : c.access ≠ .damaged) (records : c.database.Records requests) :
    c.tables = .ok (c.database.listed.map c.database.entry) := by
  have names : ask .list .list c = .ok (.names c.database.listed) := ask_of_sound sound .list rfl
  rw [tables, names]
  refine mapM_eq_ok_map_iff.mpr fun name listed => ?_
  obtain ⟨⟨t, mem, rfl⟩, -⟩ := Database.mem_listed.mp listed
  have admits := records.admitted t mem
  have found := records.one.find?_of_mem mem (Database.sameName_self _)
  have used := Database.use_ok_iff.mpr ⟨admits.1, admits.isSystem, found⟩
  have executed : c.database.execute (.count t.name) = .ok (.count t.rows.length, c.database) := by
    rw [Database.execute, used]
    rfl
  rw [ask_of_sound sound _ executed, Database.entry, Database.rows?, found]
  rfl

/-- Requests that are accepted leave the tables that stand then. -/
theorem records_after (records : c.database.Records before)
    (accepted : ∀ step ∈ store.course c requests, step.1 = true) :
    (c.after requests).access = c.access ∧
      (c.after requests).database.Records (before ++ requests) := by
  induction requests generalizing c before with
  | nil => exact ⟨rfl, by rwa [List.append_nil]⟩
  | cons request rest ih =>
    obtain ⟨ok, later⟩ := List.forall_mem_cons.mp accepted
    obtain ⟨database, sound, performed, handled⟩ | ⟨e, handled⟩ := handle_cases c request
    · change ∀ step ∈ store.course (store.handle c request).2 rest, step.1 = true at later
      change ((store.handle c request).2.after rest).access = _ ∧
        ((store.handle c request).2.after rest).database.Records _
      rw [handled] at later ⊢
      rw [List.append_cons]
      exact ih (records.perform performed) later
    · change (store.handle c request).1.isOk = true at ok
      rw [handled] at ok
      cases ok

/-- After any requests that a new database accepts, the list has every table that was created and
not dropped since, except those whose names begin with `sqlite` and go on. -/
theorem lists_standing (accepted : ∀ step ∈ store.course {} requests, step.1 = true) :
    ∃ entries, (after {} requests).tables = .ok entries ∧
      StoreRequest.ListsStanding requests entries := by
  obtain ⟨access, records⟩ := records_after (c := {}) Database.Records.empty accepted
  rw [List.nil_append] at records
  generalize after {} requests = c at access records
  have sound : c.access ≠ .damaged := by rw [access]; decide
  have mem_iff (e : TableCount) : e ∈ c.database.listed.map c.database.entry ↔
      StoreRequest.StandsAs requests e ∧ ¬ Database.LeftOut e.name := by
    rw [records.one.mem_entries, records.standing]
  refine ⟨_, tables_eq sound records, mem_iff, fun name => ?_, ?_, ?_, fun name stands => ?_⟩
  · rw [StoreRequest.stands_iff]
    constructor
    · rintro ⟨e, mem, same⟩
      obtain ⟨stands, shown⟩ := (mem_iff e).mp mem
      exact ⟨⟨e, stands, same⟩, (Database.leftOut_congr same).not.mp shown⟩
    · rintro ⟨⟨e, stands, same⟩, shown⟩
      exact ⟨e, (mem_iff e).mpr ⟨stands, (Database.leftOut_congr same).not.mpr shown⟩, same⟩
  · rw [List.map_map]
    exact records.one.listed_once
  · rw [List.pairwise_map]
    exact records.one.listed_sorted.imp Bytes.order_ofText
  · rw [records.stands, Option.isSome_iff_exists] at stands
    obtain ⟨t, found⟩ := stands
    have same := Database.sameName_of_find? found
    have free := (records.admitted t (List.mem_of_find?_eq_some found)).2
    rwa [Database.isReserved, Database.sameName_iff.mp same] at free

/-- Two tables under several spellings, one of which is dropped and created again. -/
theorem lists_standing_spellings :
    let ann : Item := ⟨[("id", .string "ann")], []⟩
    let bob : Item := ⟨[("id", .string "bob")], []⟩
    let requests : List StoreRequest :=
      [.create { table := "users", keys := [] }, .insert "USERS" ann,
        .create { table := "Orders", keys := [] }, .insert "Orders" ann, .drop "orders",
        .create { table := "Users", keys := [] }, .create { table := "ORDERS", keys := [] },
        .insert "users" bob]
    (after {} requests).database.tables.map (fun t => (t.name, t.rows.length)) =
        [("users", 2), ("ORDERS", 0)] ∧
      ∃ entries, (after {} requests).tables = .ok entries ∧
        StoreRequest.ListsStanding requests entries :=
  ⟨by decide +kernel, lists_standing (by decide +kernel)⟩

/-- A table whose name begins with `sqlite` and goes on is created and takes an item, and no entry
tells of it. -/
theorem table_is_left_out :
    let item : Item := ⟨[("id", .number (.ofUInt32 1))], []⟩
    let requests : List StoreRequest :=
      [.create { table := "sqlites", keys := [] }, .insert "sqlites" item]
    (store.course {} requests).map Prod.fst = [true, true] ∧
      StoreRequest.StandsAs requests ⟨"sqlites", 1⟩ ∧ (after {} requests).tables = .ok [] := by
  intro item requests
  refine ⟨by decide +kernel, ?_, by decide +kernel⟩
  exact ⟨[], _, _, rfl, rfl, StoreRequest.not_stands_nil, by simp [StoreRequest.drops], rfl⟩

end Connection

end TableSeed
