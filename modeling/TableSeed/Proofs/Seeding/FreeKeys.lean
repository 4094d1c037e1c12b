import TableSeed.Proofs.Resolution.Substitution
import TableSeed.Proofs.Seeding.Stops
import TableSeed.Proofs.Seeding.Tables
import TableSeed.Proofs.Traversal

/-!
# When the store in memory takes a group

A group of records without expressions is stored exactly if its schema is found, each of its
entries is resolved and split, and the keys of the items are new: no two are the same, and the
table has none of them.
-/

namespace TableSeed

namespace MemoryStore

variable {items : List KeyedItem} {keys keys' : List String} {s s' : MemoryStore} {name : String}
  {entries : List PreparedEntry} {results : List (Nat × Except StoreError Unit)}

/-- Keys that a table with the given items can take: they are all different, and no item has one of
them. -/
def Free (items : List KeyedItem) (keys : List String) : Prop :=
  keys.Nodup ∧ ∀ key ∈ keys, key ∉ items.map (·.key)

/-- A table that can take some keys can take fewer of them. -/
theorem Free.sublist (free : Free items keys) (sublist : keys'.Sublist keys) : Free items keys' :=
  ⟨free.1.sublist sublist, fun key mem => free.2 key (sublist.subset mem)⟩

/-- The order of keys and of items makes no difference. -/
theorem Free.perm {items' : List KeyedItem} (free : Free items keys) (perm : keys'.Perm keys)
    (same : items'.Perm items) : Free items' keys' := by
  refine ⟨perm.nodup_iff.mpr free.1, fun key mem => ?_⟩
  rw [(same.map _).mem_iff]
  exact free.2 key (perm.mem_iff.mp mem)

/-- One more key has to differ from the other keys and from those of the items. -/
theorem free_append_singleton (items : List KeyedItem) (keys : List String) (key : String) :
    Free items (keys ++ [key]) ↔ Free items keys ∧ key ∉ items.map (·.key) ++ keys := by
  simp only [Free, List.nodup_append, List.mem_append, List.mem_singleton, List.nodup_singleton,
    not_or, or_imp, forall_and, forall_eq, true_and]
  constructor
  · rintro ⟨⟨nodup, apart⟩, free, new⟩
    exact ⟨⟨nodup, free⟩, new, fun mem => apart key mem rfl⟩
  · rintro ⟨⟨nodup, free⟩, new, apart⟩
    exact ⟨⟨nodup, fun other mem same => apart (same ▸ mem)⟩, free, new⟩

/-- A table takes an item if none of its items has the key. -/
theorem insert_eq_ok_iff (found : s.table? name = some items) (item : Item) :
    (insert name item s).1 = .ok () ↔ item.keyText ∉ items.map (·.key) := by
  have untouched : (s.record (.insert name item)).table? name = some items := found
  have known : items.any (·.key == item.keyText) = true ↔
      item.keyText ∈ items.map (·.key) := by
    rw [List.any_eq_true, List.mem_map]
    simp only [beq_iff_eq]
  simp only [insert, untouched]
  split_ifs with there
  · simpa using known.mp there
  · exact iff_of_true rfl fun mem => there (known.mpr mem)

/-- The keys of the entries whose inserts have ended, in the order in which they did. -/
def endedKeys (entries : List PreparedEntry) (results : List (Nat × Except StoreError Unit)) :
    List String :=
  (results.reverse.filterMap fun r => entries[r.1]?).map (·.item.keyText)

/-- Inserts into a table all end well exactly if the table can take the keys. -/
theorem inserted_ok_iff (inserted : Batch.Inserted (insert name) entries s results s')
    (found : s.table? name = some items) :
    (∀ r ∈ results, r.2 = .ok ()) ↔ Free items (endedKeys entries results) := by
  induction inserted with
  | nothing => simp [endedKeys, Free]
  | @next results state i entry before there ih =>
    have keys : endedKeys entries ((i, (insert name entry.item state).1) :: results) =
        endedKeys entries results ++ [entry.item.keyText] := by
      simp [endedKeys, there]
    rw [List.forall_mem_cons, keys, free_append_singleton, ← ih, and_comm]
    refine and_congr_right fun ok => ?_
    have held : state.table? name = some (items ++ added entries results) := by
      rw [table?_inserted before, if_pos rfl, found]
      rfl
    have same : (added entries results).map (·.key) = endedKeys entries results := by
      rw [added, endedKeys, List.map_filterMap, List.map_filterMap]
      refine List.filterMap_congr fun r mem => ?_
      rw [if_pos (ok r (List.mem_reverse.mp mem)), Option.map_map]
      rfl
    rw [insert_eq_ok_iff held, List.map_append, same]

end MemoryStore

/-! ## Records without expressions -/

/-- An entry is resolved against the committed records and split by the schema, in some sandbox. -/
def Entry.Gives (commits : Commits) (schema : TableSchema) (entry : Entry) (p : PreparedEntry) :
    Prop :=
  ∃ s s', Prepares commits schema s entry p s'

section Plain

variable {commits commits' : Commits} {schema : TableSchema} {s s' : Sandbox} {entry : Entry}
  {entries : List Entry} {p q : PreparedEntry} {ps qs : List PreparedEntry}
  {record : RecordTemplate}

/-- Leaves are resolved alike where references have the same values and nothing is evaluated. -/
theorem Leaf.resolveAll_congr {this : Option Lua.TableRef} {leaves : List Leaf}
    (none' : ∀ source, .expression source ∉ leaves)
    (same : ∀ path, .reference path ∈ leaves → commits'.resolve path = commits.resolve path) :
    Leaf.resolveAll commits' this s leaves = Leaf.resolveAll commits this s leaves := by
  induction leaves with
  | nil => rfl
  | cons leaf rest ih =>
    have first : leaf.resolve commits' this s = leaf.resolve commits this s := by
      cases leaf with
      | literal v => rfl
      | reference path =>
        rw [Leaf.resolve_reference, Leaf.resolve_reference, same path List.mem_cons_self]
      | expression source => exact absurd List.mem_cons_self (none' source)
    have still : (leaf.resolve commits this s).2 = s := by
      rw [Leaf.resolve_snd]
      cases leaf with
      | expression source => exact absurd List.mem_cons_self (none' source)
      | _ => rfl
    have others := ih (fun source mem => none' source (List.mem_cons_of_mem _ mem))
      fun path mem => same path (List.mem_cons_of_mem _ mem)
    rw [Leaf.resolveAll, Leaf.resolveAll, first]
    revert still
    rcases leaf.resolve commits this s with ⟨e | v, s'⟩
    · intro _
      rfl
    · rintro rfl
      simp only [others]

/-- A record without expressions is resolved by its references alone. -/
theorem RecordTemplate.resolve_congr (plain : record.hasExpressions = false)
    (same : ∀ path, .reference path ∈ Template.fieldLeaves record →
      commits'.resolve path = commits.resolve path) (s s' : Sandbox) :
    (record.resolve commits' s').1 = (record.resolve commits s).1 := by
  have none' : ∀ source, .expression source ∉ Template.fieldLeaves record := fun source mem => by
    have has := (Template.anyFieldHasExpressions_iff record).mpr ⟨source, mem⟩
    exact Bool.false_ne_true (plain.symm.trans has)
  rw [resolve_fst, resolve_fst, Template.resolveFields_fst, Template.resolveFields_fst,
    Leaf.resolveAll_congr none' same]
  exact congrArg (Except.map _) (Leaf.resolveAll_of_no_expression none')

/-- What an entry without expressions gives depends on its references alone. -/
theorem Entry.Gives.congr (gives : entry.Gives commits schema p)
    (plain : entry.record.hasExpressions = false)
    (same : ∀ path, .reference path ∈ Template.fieldLeaves entry.record →
      commits'.resolve path = commits.resolve path) :
    entry.Gives commits' schema p := by
  obtain ⟨s, s', key, record, item⟩ := gives
  have resolved := RecordTemplate.resolve_congr plain same s s
  rw [record] at resolved
  exact ⟨s, (entry.record.resolve commits' s).2, key, Prod.ext resolved rfl, item⟩

/-- An entry without expressions gives one thing only. -/
theorem Entry.Gives.unique (gives : entry.Gives commits schema p)
    (plain : entry.record.hasExpressions = false) (gives' : entry.Gives commits schema q) :
    p = q := by
  obtain ⟨s, s₁, key, record, item⟩ := gives
  obtain ⟨s', s₁', key', record', item'⟩ := gives'
  have same : (entry.record.resolve commits s).1 = (entry.record.resolve commits s').1 :=
    RecordTemplate.resolve_congr plain (fun _ _ => rfl) s' s
  rw [record, record'] at same
  obtain ⟨k, r, i⟩ := p
  obtain ⟨k', r', i'⟩ := q
  obtain rfl : r = r' := Except.ok.inj same
  obtain rfl : i = i' := Except.ok.inj (item.symm.trans item')
  obtain rfl : k = k' := key.trans key'.symm
  rfl

/-- An entry without expressions that gives something fails in no sandbox. -/
theorem Entry.Gives.not_fails {group : String} {e : SeedError}
    (gives : entry.Gives commits schema p) (plain : entry.record.hasExpressions = false) :
    ¬EntryFails commits schema group s entry e := by
  obtain ⟨s₀, s₁, -, record, item⟩ := gives
  have same : (entry.record.resolve commits s).1 = (entry.record.resolve commits s₀).1 :=
    RecordTemplate.resolve_congr plain (fun _ _ => rfl) s₀ s
  have resolved : (entry.record.resolve commits s).1 = .ok p.record := by rw [same, record]
  rintro (failed | failed | ⟨found, failed⟩)
  · cases failed.symm.trans resolved
  · cases failed.symm.trans resolved
  · obtain rfl := Except.ok.inj (found.symm.trans resolved)
    cases failed.symm.trans item

/-- Each entry that is prepared gives its prepared entry by itself. -/
theorem PreparesAll.gives (prepares : PreparesAll commits schema s entries ps s') :
    List.Forall₂ (Entry.Gives commits schema) entries ps := by
  induction prepares with
  | nil => exact .nil
  | cons first _ ih => exact .cons ⟨_, _, first⟩ ih

/-- What entries give has their keys. -/
theorem keys_of_gives (gives : List.Forall₂ (Entry.Gives commits schema) entries ps) :
    ps.map (·.key) = entries.map (·.key) := by
  induction gives with
  | nil => rfl
  | cons first _ ih =>
    obtain ⟨_, _, prepares⟩ := first
    rw [List.map_cons, List.map_cons, ih, prepares.key]

/-- Entries without expressions give one list only. -/
theorem gives_unique (gives : List.Forall₂ (Entry.Gives commits schema) entries ps)
    (plain : ∀ entry ∈ entries, entry.record.hasExpressions = false)
    (gives' : List.Forall₂ (Entry.Gives commits schema) entries qs) : ps = qs := by
  induction gives generalizing qs with
  | nil =>
    cases gives'
    rfl
  | cons first _ ih =>
    cases gives' with
    | cons first' rest' =>
      obtain ⟨own, others⟩ := List.forall_mem_cons.mp plain
      rw [first.unique own first', ih others rest']

end Plain

/-! ## Whole groups -/

namespace Run

variable {schemas : SchemaSource} {options : SeedOptions} {r r' : Run MemoryStore} {group : Group}
  {schema : TableSchema} {ps : List PreparedEntry} {left : Nat}

/-- The items that a group finds in its table. -/
def found (r : Run MemoryStore) (options : SeedOptions) (table : String) : List KeyedItem :=
  if options.dropTables then [] else (r.store.table? table).getD []

/-- The schema of a group is found, its entries are resolved and split, and its table can take the
keys. -/
structure Takes (schemas : SchemaSource) (options : SeedOptions) (r : Run MemoryStore)
    (group : Group) (schema : TableSchema) (ps : List PreparedEntry) : Prop where
  loads : schemas.load group.schema = .ok schema
  gives : List.Forall₂ (Entry.Gives r.commits schema) group.entries ps
  free : MemoryStore.Free (r.found options schema.table) (ps.map (·.item.keyText))

/-- What is left of a group that was stored. -/
structure Took (options : SeedOptions) (r : Run MemoryStore) (group : Group) (schema : TableSchema)
    (ps : List PreparedEntry) (summary : GroupSummary) (r' : Run MemoryStore) : Prop where
  summary : summary = ⟨group.name, schema.table, ps.length⟩
  commits : r'.commits =
    ps.foldl (fun commits p => (commits.commit group.name p.key p.record).1) r.commits
  tables : ∃ items, items.Perm (ps.map (·.item.keyed)) ∧ ∀ table, r'.store.table? table =
    if table = schema.table then some (r.found options schema.table ++ items)
    else r.store.table? table
  allowance : ∃ left, r'.allowance = some left

/-- The results of the inserts into a table that was made ready. -/
theorem Opens.results_ok_iff {s : StoredGroup MemoryStore} {opened : Run MemoryStore}
    (left_eq : r.allowance = some left)
    (opens : r.Opens MemoryStore.store schemas options s.group s.schema s.entries opened)
    (own : OwnMoves MemoryStore.store s.table s.entries
      ((opened.announce s.table s.entries).begin options.maxConcurrentInserts) s.batch) :
    (∀ result ∈ s.batch.results, result.2 = .ok ()) ↔
      MemoryStore.Free (r.found options s.table)
        (MemoryStore.endedKeys s.entries s.batch.results) := by
  have course := opens.course MemoryStore.immediate_store rfl left_eq own
  have ready : opened.store.table? s.table = some (r.found options s.table) :=
    (table?_readies opens.readies s.table).trans (if_pos rfl)
  exact MemoryStore.inserted_ok_iff course.inserted ready

/-- A group that is stored was taken, and leaves what it should. -/
theorem exists_took {summary : GroupSummary} (left_eq : r.allowance = some left)
    (ok : r.seedGroup MemoryStore.store schemas options group = (.ok summary, r')) :
    ∃ schema ps, r.Takes schemas options group schema ps ∧
      r.Took options group schema ps summary r' := by
  obtain ⟨s, stores, rfl, rfl⟩ := seedGroup_ok ok
  obtain ⟨order, allowance⟩ := stores.order MemoryStore.immediate_store rfl left_eq
  have perm := StoredGroup.inserted_perm (StoredGroup.inserted_eq order)
  have commits := stores.commits
  have added := stores.added left_eq
  obtain ⟨⟨opened, opens, own, rfl⟩, ended⟩ := stores
  have any : AnyMoves MemoryStore.store MemoryStore.calls s.table s.entries _ s.batch :=
    anyMoves_of_ownMoves own
  have course := opens.course MemoryStore.immediate_store rfl left_eq own
  obtain ⟨_, _, prepares⟩ := opens.prepares
  have keys : MemoryStore.endedKeys s.entries s.batch.results =
      s.inserted.map (·.item.keyText) := by
    rw [MemoryStore.endedKeys, StoredGroup.inserted, course.started, ← List.map_reverse,
      List.filterMap_map]
    rfl
  have free := (opens.results_ok_iff left_eq own).mp fun result mem =>
    any.sound.results_ok ended mem
  rw [keys] at free
  refine ⟨s.schema, s.entries, ⟨opens.loads, prepares.gives,
    free.perm (perm.symm.map _) (.refl _)⟩, rfl, commits, ⟨s.items, perm.map _, fun table => ?_⟩,
    _, allowance⟩
  rw [(commitAll_frame _ _ _).2.1, ← added]
  refine (opens.table? left_eq own table).trans ?_
  change (if table = s.table then _ else _) = if table = s.table then _ else _
  by_cases here : table = s.table
  · subst here
    rfl
  · rw [if_neg here, if_neg here]

/-- A group without expressions that can be taken does not fail before its first insert. -/
theorem Takes.not_refuses (takes : r.Takes schemas options group schema ps)
    (plain : ∀ entry ∈ group.entries, entry.record.hasExpressions = false) {e : SeedError}
    {own : List StoreCall} {after : MemoryStore} :
    ¬r.Refuses MemoryStore.store schemas options group e own after := by
  intro refuses
  cases refuses with
  | schema failed => cases failed.symm.trans takes.loads
  | drop _ _ called => cases congrArg Prod.fst called
  | @create schema' _ dropped _ _ _ called =>
    have created : (MemoryStore.store.create schema' dropped).1 = .ok () :=
      MemoryStore.create_ok dropped schema'
    rw [called] at created
    cases created
  | @entry schema' _ _ _ _ before after entry _ loads _ _ split _ fails =>
    obtain rfl : schema' = schema := Except.ok.inj (loads.symm.trans takes.loads)
    have mem : entry ∈ group.entries := by simp [split]
    obtain ⟨p, -, gives⟩ := exists_of_mem_forall₂ takes.gives mem
    exact gives.not_fails (plain entry mem) fails

/-- No insert of a group without expressions fails, if the group can be taken: what was inserted is
part of what the table can take. -/
theorem Takes.not_breaks {s : StoredGroup MemoryStore}
    (takes : r.Takes schemas options s.group schema ps) (left_eq : r.allowance = some left)
    (plain : ∀ entry ∈ s.group.entries, entry.record.hasExpressions = false) {e : StoreError} :
    ¬r.Breaks MemoryStore.store schemas options (OwnMoves MemoryStore.store) s e r' := by
  rintro ⟨⟨opened, opens, own, -⟩, failed⟩
  obtain ⟨_, _, prepares⟩ := opens.prepares
  obtain rfl : schema = s.schema := Except.ok.inj (takes.loads.symm.trans opens.loads)
  obtain rfl := gives_unique takes.gives plain prepares.gives
  have any : AnyMoves MemoryStore.store MemoryStore.calls s.table s.entries _ s.batch :=
    anyMoves_of_ownMoves own
  have course := opens.course MemoryStore.immediate_store rfl left_eq own
  have part : (MemoryStore.endedKeys s.entries s.batch.results).Sublist
      (((insertionOrder options.maxConcurrentInserts 128 left s.entries.length).filterMap
        (s.entries[·]?)).map (·.item.keyText)) := by
    have order := (course.order.sublist.filterMap (s.entries[·]?)).map (·.item.keyText)
    rwa [course.started, ← List.map_reverse, List.filterMap_map] at order
  have all := (insertionOrder_perm options.maxConcurrentInserts 128 left
    s.entries.length).filterMap (s.entries[·]?)
  rw [StoredGroup.filterMap_range] at all
  have free := (takes.free.perm (all.map _) (.refl _)).sublist part
  obtain ⟨i, -, ended, -⟩ := any.sound.result_error failed
  obtain ⟨before, after, same, -⟩ := List.lookup_eq_some_iff.mp ended
  have fine := (opens.results_ok_iff left_eq own).mpr free (i, _) (by
    rw [same]
    exact List.mem_append_right _ List.mem_cons_self)
  cases fine

/-- A group without expressions that can be taken is stored. -/
theorem Takes.seedGroup_ok (takes : r.Takes schemas options group schema ps)
    (left_eq : r.allowance = some left)
    (plain : ∀ entry ∈ group.entries, entry.record.hasExpressions = false) :
    ∃ summary r', r.seedGroup MemoryStore.store schemas options group = (.ok summary, r') := by
  rcases run : r.seedGroup MemoryStore.store schemas options group with ⟨e | summary, r'⟩
  · obtain ⟨own, fails⟩ := seedGroup_error run
    exfalso
    cases fails with
    | refuses refuses _ => exact takes.not_refuses plain refuses
    | @breaks s _ _ same breaks =>
      subst same
      exact takes.not_breaks left_eq plain breaks
  · exact ⟨summary, r', rfl⟩

end Run

end TableSeed
