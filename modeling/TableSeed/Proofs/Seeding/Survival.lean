import TableSeed.Proofs.Seeding.Runs
import TableSeed.Proofs.Seeding.Tables

/-!
# What stays of completed groups

On the store in memory the items of a completed group stay in their table to the end of the run, as
long as tables are not dropped. A run that drops tables leaves in each of them what the last group
for it has inserted, so the items of an earlier group stay only if they were inserted again.
-/

namespace TableSeed

/-- What a run on the store in memory has done when it ends, well or with an error, told by the
groups that it has completed and by what a group that failed has left. -/
structure Ended (sources : SeedSources) (document : Document) (options : SeedOptions)
    (store : MemoryStore) (result : Except SeedError SeedSummary) (r : Run MemoryStore)
    (completed : List (StoredGroup MemoryStore)) (unfinished : List (String × List KeyedItem)) :
    Prop where
  groups : completed.map (·.group) <+: document.groups
  /-- Every insert of a completed group was made once, and ended well. -/
  inserted : ∀ s ∈ completed, s.inserted.Perm s.entries ∧
    ∀ i < s.entries.length, s.batch.results.lookup i = some (.ok ())
  /-- Records can be referred to exactly if they were committed by completed groups. -/
  commits : r.commits = committed completed
  told : ∀ summary, result = .ok summary →
    completed.map (·.group) = document.groups ∧ summary.groups = completed.map (·.summary) ∧
      unfinished = []
  /-- A group that failed may have had its table made ready, and may have inserted items. -/
  failed : unfinished.length ≤ 1 ∧ ∀ part ∈ unfinished, ∃ group schema,
    completed.map (·.group) ++ [group] <+: document.groups ∧
      sources.schemas.load group.schema = .ok schema ∧ part.1 = schema.table
  leaves : store.Leaves options.dropTables
    ((completed.map fun s => (s.table, s.items)) ++ unfinished) r.store
  /-- Exactly when the items of a completed group are all in their table at the end. -/
  stays : ∀ s ∈ completed,
    (∀ item ∈ s.items, ∃ items, r.store.table? s.table = some items ∧ item ∈ items) ↔
      options.dropTables = false ∨
      ∃ last, (MemoryStore.partsOf ((completed.map fun s => (s.table, s.items)) ++ unfinished)
        s.table).getLast? = some last ∧ ∀ item ∈ s.items, item ∈ last

namespace MemoryStore

/-- A part is in its table exactly if tables are not dropped or the last part for the table has
all its items. -/
theorem Leaves.stays_iff {dropTables : Bool} {parts : List (String × List KeyedItem)}
    {s s' : MemoryStore} (leaves : s.Leaves dropTables parts s') {part : String × List KeyedItem}
    (mem : part ∈ parts) :
    (∀ item ∈ part.2, ∃ items, s'.table? part.1 = some items ∧ item ∈ items) ↔
      dropTables = false ∨
      ∃ last, (partsOf parts part.1).getLast? = some last ∧ ∀ item ∈ part.2, item ∈ last := by
  cases dropTables with
  | false =>
    obtain ⟨before, after, found⟩ := leaves.whole mem
    refine iff_of_true (fun item there => ⟨_, found, ?_⟩) (.inl rfl)
    exact List.mem_append_left _ (List.mem_append_right _ there)
  | true =>
    obtain ⟨last, final, found⟩ := leaves.last mem
    simp [final, found]

end MemoryStore

section Ends

variable {sources : SeedSources} {document : Document} {options : SeedOptions}
  {store : MemoryStore} {result : Except SeedError SeedSummary} {begun middle r : Run MemoryStore}
  {completed : List (StoredGroup MemoryStore)} {unfinished : List (String × List KeyedItem)}

/-- A run has ended with the groups that it has stored and what is left of the next one. -/
theorem Ended.of_storesAll {dependencies : Nat} {sandbox : Sandbox}
    (begins : Begins MemoryStore.store sources document options sandbox store dependencies begun)
    (storesAll : begun.StoresAll MemoryStore.store sources.schemas options
      (Run.OwnMoves MemoryStore.store) completed middle)
    (groups : completed.map (·.group) <+: document.groups) (commits : r.commits = middle.commits)
    (told : ∀ summary, result = .ok summary →
      completed.map (·.group) = document.groups ∧ summary.groups = completed.map (·.summary) ∧
        unfinished = [])
    (failed : unfinished.length ≤ 1 ∧ ∀ part ∈ unfinished, ∃ group schema,
      completed.map (·.group) ++ [group] <+: document.groups ∧
        sources.schemas.load group.schema = .ok schema ∧ part.1 = schema.table)
    (leaves : middle.store.Leaves options.dropTables unfinished r.store) :
    Ended sources document options store result r completed unfinished := by
  have left_eq : begun.allowance = some 128 := begins.allowance
  have whole := (storesAll.leaves left_eq).append leaves
  rw [begins.store] at whole
  have any : begun.StoresAll MemoryStore.store sources.schemas options
      (Run.AnyMoves MemoryStore.store MemoryStore.calls) completed middle :=
    storesAll.mono fun _ _ _ _ => Run.anyMoves_of_ownMoves
  refine ⟨groups, fun s mem => ?_, ?_, told, failed, whole, fun s mem => ?_⟩
  · obtain ⟨_, _, stores⟩ := any.exists_of_mem mem
    obtain ⟨before, after, rfl⟩ := List.append_of_mem mem
    exact ⟨StoredGroup.inserted_perm
      (storesAll.inserted MemoryStore.immediate_store rfl left_eq), fun i bound =>
      (stores.all_ok bound).2⟩
  · rw [commits, storesAll.commits, begins.commits]
    rfl
  · have part : (s.table, s.items) ∈ (completed.map fun s => (s.table, s.items)) ++ unfinished :=
      List.mem_append_left _ (List.mem_map.mpr ⟨s, mem, rfl⟩)
    exact whole.stays_iff part

/-- However a run ends, the items of a completed group are all in their table exactly if the run
does not drop tables or the last group for the table has inserted them too. -/
theorem exists_ended (sources : SeedSources) (document : Document) (options : SeedOptions)
    (sandbox : Sandbox) (store : MemoryStore) :
    ∃ completed unfinished, Ended sources document options store
      (seed MemoryStore.store sources document options sandbox store).1
      (seed MemoryStore.store sources document options sandbox store).2 completed unfinished := by
  cases run : seed MemoryStore.store sources document options sandbox store with
  | mk result r =>
    cases result with
    | ok summary =>
      obtain ⟨begun, completed, begins, storesAll, groups, told⟩ := seed_ok run
      refine ⟨completed, [], .of_storesAll begins storesAll (groups ▸ List.prefix_rfl) rfl ?_
        ⟨Nat.zero_le _, nofun⟩ (MemoryStore.leaves_nil _ _)⟩
      rintro _ ⟨⟩
      exact ⟨groups, told.symm, rfl⟩
    | error e =>
      rcases seed_error run with ⟨cause, -, rfl, same, nothing⟩ |
        ⟨dependencies, begun, middle, completed, group, rest, own, begins, groups, storesAll, fails⟩
      · refine ⟨[], [], List.nil_prefix, by simp, nothing, by simp, by simp, ?_, by simp⟩
        rw [same]
        exact MemoryStore.leaves_nil _ _
      · have left_eq : begun.allowance = some 128 := begins.allowance
        obtain ⟨unfinished, short, own, leaves⟩ := fails.leaves
          (storesAll.allowance MemoryStore.immediate_store rfl left_eq)
        refine ⟨completed, unfinished, .of_storesAll begins storesAll ⟨group :: rest, groups.symm⟩
          fails.commits nofun ⟨short, fun part mem => ?_⟩ leaves⟩
        obtain ⟨schema, loads, same⟩ := own part mem
        exact ⟨group, schema, ⟨rest, by simp [groups]⟩, loads, same⟩

end Ends

/-- A later group whose table is dropped first takes the items of an earlier group with it, though
the run counts them and references find them. -/
theorem dropped_by_later_group :
    let document : Document := { groups := [
      ⟨"Admins", "users", [⟨"ann", [("id", .literal (.string "u1"))]⟩]⟩,
      ⟨"Guests", "users", [⟨"bob", [("id", .literal (.string "u2"))]⟩]⟩] }
    let sources : SeedSources := ⟨.registered [("users", .ofKeys "users" ["id"])], {}⟩
    let run := seed MemoryStore.store sources document { dropTables := true } bareSandbox {}
    run = (.ok { groups := [⟨"Admins", "users", 1⟩, ⟨"Guests", "users", 1⟩] }, run.2) ∧
      run.2.commits.record? "Admins" "ann" = some (.object [("id", .string "u1")]) ∧
      run.2.store.items? "users" = some [[("id", .string "u2")]] :=
  ⟨rfl, rfl, rfl⟩

end TableSeed
