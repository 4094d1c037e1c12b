import TableSeed.Proofs.Seeding.Courses

/-!
# What groups leave in memory

On the store in memory a run does what its calls do when they are replayed. A stored group leaves
its items at the end of its table, which holds nothing else if the run drops tables.
-/

namespace TableSeed

/-- The items of a group in the order in which they were inserted. -/
def StoredGroup.items {σ : Type} (s : StoredGroup σ) : List KeyedItem :=
  s.inserted.map fun p => p.item.keyed

namespace Run

variable {schemas : SchemaSource} {options : SeedOptions} {left : Nat} {r r' : Run MemoryStore}
  {s : StoredGroup MemoryStore} {stored : List (StoredGroup MemoryStore)} {group : Group}
  {e : SeedError} {own : List StoreCall}

/-- A table that was made ready is there, empty if tables are dropped; the others are untouched. -/
theorem table?_readies {dropTables : Bool} {schema : TableSchema} {before after : MemoryStore}
    (readies : Readies MemoryStore.store dropTables schema before after) (table : String) :
    after.table? table =
      if table = schema.table then
        some (if dropTables then [] else (before.table? table).getD [])
      else before.table? table := by
  obtain ⟨dropped, drops, creates⟩ := readies
  have created : after = (MemoryStore.create schema dropped).2 := (congrArg Prod.snd creates).symm
  rw [created, MemoryStore.table?_create]
  cases dropTables with
  | true =>
    have gone : dropped = (MemoryStore.drop schema.table before).2 := (congrArg Prod.snd drops).symm
    rw [gone, MemoryStore.table?_drop]
    by_cases here : table = schema.table <;> simp [here]
  | false =>
    rw [show dropped = before from drops]
    rfl

/-- Inserts of a group leave those items in its table that were inserted well. -/
theorem Opens.table? {opened : Run MemoryStore} (left_eq : r.allowance = some left)
    (opens : r.Opens MemoryStore.store schemas options s.group s.schema s.entries opened)
    (moves : OwnMoves MemoryStore.store s.table s.entries
      ((opened.announce s.table s.entries).begin options.maxConcurrentInserts) s.batch)
    (table : String) :
    s.batch.store.table? table =
      if table = s.table then
        some ((if options.dropTables then [] else (r.store.table? table).getD []) ++
          MemoryStore.added s.entries s.batch.results)
      else r.store.table? table := by
  have course := opens.course MemoryStore.immediate_store rfl left_eq moves
  have ready : opened.store.table? table = if table = s.table then
      some (if options.dropTables then [] else (r.store.table? table).getD [])
      else r.store.table? table := table?_readies opens.readies table
  rw [MemoryStore.table?_inserted course.inserted]
  change (if table = s.table then (opened.store.table? table).map _
    else opened.store.table? table) = _
  rw [ready]
  split_ifs <;> rfl

/-- The items that a stored group has inserted are all its items. -/
theorem Stores.added (left_eq : r.allowance = some left)
    (stores : r.Stores MemoryStore.store schemas options (OwnMoves MemoryStore.store) s r') :
    MemoryStore.added s.entries s.batch.results = s.items := by
  obtain ⟨⟨opened, opens, moves, rfl⟩, ok⟩ := stores
  have any : AnyMoves MemoryStore.store MemoryStore.calls s.table s.entries _ s.batch :=
    anyMoves_of_ownMoves moves
  have course := opens.course MemoryStore.immediate_store rfl left_eq moves
  rw [StoredGroup.items, StoredGroup.inserted, course.started, MemoryStore.added,
    List.map_filterMap, ← List.map_reverse, List.filterMap_map]
  refine List.filterMap_congr fun p mem => ?_
  rw [if_pos (any.sound.results_ok ok (List.mem_reverse.mp mem))]
  rfl

/-- A stored group leaves its items in its table. -/
theorem Stores.leaves (left_eq : r.allowance = some left)
    (stores : r.Stores MemoryStore.store schemas options (OwnMoves MemoryStore.store) s r') :
    r.store.Leaves options.dropTables [(s.table, s.items)] r'.store := by
  have items := stores.added left_eq
  obtain ⟨⟨opened, opens, moves, rfl⟩, -⟩ := stores
  rw [(commitAll_frame _ _ _).2.1]
  exact MemoryStore.leaves_singleton _ _ (items ▸ opens.table? left_eq moves)

/-- Stored groups leave their items in their tables. -/
theorem StoresAll.leaves (left_eq : r.allowance = some left)
    (storesAll : r.StoresAll MemoryStore.store schemas options (OwnMoves MemoryStore.store) stored
      r') :
    r.store.Leaves options.dropTables (stored.map fun s => (s.table, s.items)) r'.store := by
  induction storesAll generalizing left with
  | nil => exact MemoryStore.leaves_nil _ _
  | cons stores _ ih =>
    have left_eq' := (stores.order MemoryStore.immediate_store rfl left_eq).2
    exact (stores.leaves left_eq).append (ih left_eq')

/-- A group that fails leaves in its table what it has inserted, if it had its table made ready. -/
theorem Fails.leaves (left_eq : r.allowance = some left)
    (fails : r.Fails MemoryStore.store schemas options (OwnMoves MemoryStore.store) group e own
      r') :
    ∃ parts : List (String × List KeyedItem), parts.length ≤ 1 ∧
      (∀ part ∈ parts, ∃ schema, schemas.load group.schema = .ok schema ∧ part.1 = schema.table) ∧
      r.store.Leaves options.dropTables parts r'.store := by
  cases fails with
  | refuses refuses _ =>
    generalize r'.store = after at refuses
    cases refuses with
    | schema _ => exact ⟨[], Nat.zero_le _, nofun, MemoryStore.leaves_nil _ _⟩
    | drop _ _ called =>
      have failed := congrArg Prod.fst called
      cases failed
    | @create schema _ dropped _ _ _ called =>
      have created : (MemoryStore.store.create schema dropped).1 = .ok () :=
        MemoryStore.create_ok dropped schema
      rw [called] at created
      cases created
    | @entry schema _ _ _ _ _ _ _ _ loads readies _ _ _ _ =>
      refine ⟨[(schema.table, [])], le_rfl, ?_, MemoryStore.leaves_singleton _ _ fun table => ?_⟩
      · rintro _ (_ | ⟨_, ⟨⟩⟩)
        exact ⟨schema, loads, rfl⟩
      · rw [List.append_nil]
        exact table?_readies readies table
  | @breaks s _ _ same breaks =>
    obtain ⟨⟨opened, opens, moves, rfl⟩, -⟩ := breaks
    refine ⟨[(s.table, MemoryStore.added s.entries s.batch.results)], le_rfl, ?_,
      MemoryStore.leaves_singleton _ _ (opens.table? left_eq moves)⟩
    rintro _ (_ | ⟨_, ⟨⟩⟩)
    exact ⟨s.schema, same ▸ opens.loads, rfl⟩

end Run

end TableSeed
