import TableSeed.Proofs.Commits.Qualified
import TableSeed.Proofs.Document.Names
import TableSeed.Proofs.Item
import TableSeed.Proofs.Resolution.Substitution
import TableSeed.Proofs.Seeding.Runs

/-!
# References and items

A document that was read names nothing twice, so a run never commits a second record for an entry.
A reference that names a group and an entry leads to the record that was handed to the store for
it, from the moment on at which the group is complete.
-/

namespace TableSeed

/-- The records of a group as they are committed. -/
def StoredGroup.submissions {σ : Type} (s : StoredGroup σ) : List Submission :=
  s.entries.map fun p => ⟨s.group.name, p.key, p.record⟩

/-- The records of groups, in the order in which they are committed. -/
def submissions {σ : Type} (stored : List (StoredGroup σ)) : List Submission :=
  stored.flatMap StoredGroup.submissions

/-- What can be referred to after a run that went well is what was handed to the store. -/
structure Referable {σ : Type} (calls : TableStore σ) (sources : SeedSources) (document : Document)
    (options : SeedOptions) (sandbox : Sandbox) (store : σ) (summary : SeedSummary) (r : Run σ)
    (stored : List (StoredGroup σ)) : Prop where
  /-- The groups of the document were stored, in order. -/
  stores : ∃ begun, Begins calls sources document options sandbox store summary.dependencies begun ∧
    begun.StoresAll calls sources.schemas options (Run.OwnMoves calls) stored r
  groups : stored.map (·.group) = document.groups
  entries : ∀ s ∈ stored, s.entries.map (·.key) = s.group.entries.map (·.key)
  /-- The items were handed to the store, those of each entry once. -/
  handed : ∀ made, calls.Records made →
    made r.store = made store ++ stored.flatMap (·.calls options.dropTables)
  once : ∀ s ∈ stored, s.inserted.Perm s.entries
  /-- The records were committed, and none was refused. -/
  commits : r.commits = Commits.ofOffers (submissions stored)
  accepted : ∀ before p after, submissions stored = before ++ p :: after →
    ((Commits.ofOffers before).commit p.group p.entry p.record).2 = true
  length : r.commits.length = document.entryCount
  /-- A record is its item, but for the order of the members. -/
  items : ∀ s ∈ stored, ∀ p ∈ s.entries, p.item.Parts s.schema p.record
  /-- At every moment from the completion of a group to the end of the run, a reference to one of
  its entries leads to the record. -/
  references : ∀ before s after moment, stored = before ++ s :: after →
    submissions (before ++ [s]) <+: moment → moment <+: submissions stored → ∀ p ∈ s.entries,
    '.' ∉ s.group.name.toList → '.' ∉ p.key.toList →
      (Commits.ofOffers moment).resolve (ReferencePath.parse (s.group.name ++ "." ++ p.key)) =
        .ok (.object p.record)

section Prepared

variable {commits : Commits} {schema : TableSchema} {s s' : Sandbox} {entry : Entry}
  {entries : List Entry} {p : PreparedEntry} {ps : List PreparedEntry}

/-- A resolved record has the names of its fields. -/
theorem RecordTemplate.names_resolve {record : RecordTemplate} {members : Json.Members}
    (ok : record.resolve commits s = (.ok members, s')) :
    Json.Members.names members = record.map Prod.fst := by
  have filled := RecordTemplate.resolve_fst record commits s
  rw [ok, Template.resolveFields_fst] at filled
  cases values : (Leaf.resolveAll commits (some (record.exposed s).1) (record.exposed s).2
      (Template.fieldLeaves record)).1 with
  | error e => simp [values, Except.map] at filled
  | ok vs =>
    obtain rfl : members = (Template.fillFields record vs).1 := by
      simpa [values, Except.map] using filled
    exact Template.names_fillFields record vs

/-- The prepared entries have the keys of the entries, in order. -/
theorem PreparesAll.keys (prepares : PreparesAll commits schema s entries ps s') :
    ps.map (·.key) = entries.map (·.key) := by
  induction prepares with
  | nil => rfl
  | cons first _ ih => rw [List.map_cons, List.map_cons, ih, first.key]

/-- Entries whose fields are named once are parted into items. -/
theorem PreparesAll.parts (prepares : PreparesAll commits schema s entries ps s')
    (fields : ∀ entry ∈ entries, (entry.record.map Prod.fst).Nodup) :
    ∀ p ∈ ps, p.item.Parts schema p.record := by
  induction prepares with
  | nil => simp
  | cons first _ ih =>
    obtain ⟨own, others⟩ := List.forall_mem_cons.mp fields
    refine List.forall_mem_cons.mpr ⟨Item.parts_of_ofRecord ?_ first.item, ih others⟩
    rw [Json.Members.Distinct, RecordTemplate.names_resolve first.record]
    exact own

end Prepared

section Committed

variable {σ : Type} {s : StoredGroup σ} {stored before after : List (StoredGroup σ)}
  {document : Document}

/-- The records of groups and of more groups are those of both, in order. -/
theorem submissions_append (before after : List (StoredGroup σ)) :
    submissions (before ++ after) = submissions before ++ submissions after :=
  List.flatMap_append

/-- The committed records are those that groups have offered. -/
theorem committed_eq (stored : List (StoredGroup σ)) :
    committed stored = Commits.ofOffers (submissions stored) := by
  have same (commits : Commits) : stored.foldl StoredGroup.commit commits =
      (submissions stored).foldl (fun commits p => (commits.commit p.group p.entry p.record).1)
        commits := by
    induction stored generalizing commits with
    | nil => rfl
    | cons s rest ih =>
      rw [List.foldl_cons, ih, submissions, submissions, List.flatMap_cons, List.foldl_append,
        StoredGroup.submissions, List.foldl_map]
      rfl
  exact same {}

/-- A document that names nothing twice has a place of its own for each record. -/
theorem apart_of_namesDistinct (names : document.NamesDistinct)
    (groups : stored.map (·.group) = document.groups)
    (entries : ∀ s ∈ stored, s.entries.map (·.key) = s.group.entries.map (·.key)) :
    (submissions stored).Pairwise fun p q => ¬p.SamePlace q := by
  have mem : ∀ s ∈ stored, s.group ∈ document.groups := fun s mem =>
    groups ▸ List.mem_map_of_mem mem
  have others : stored.Pairwise fun s t => s.group.name ≠ t.group.name := by
    have := names.groups
    rw [← groups, List.map_map] at this
    exact List.pairwise_map.mp this
  refine List.pairwise_flatMap.mpr ⟨fun s stands => ?_, others.imp fun differs => ?_⟩
  · have keys := names.entries s.group (mem s stands)
    rw [← entries s stands] at keys
    refine List.pairwise_map.mpr ((List.pairwise_map.mp keys).imp fun differs same => ?_)
    exact differs same.2
  · intro p offered q offered' same
    obtain ⟨_, -, rfl⟩ := List.mem_map.mp offered
    obtain ⟨_, -, rfl⟩ := List.mem_map.mp offered'
    exact differs same.1

/-- As many records are committed as the document has entries. -/
theorem length_submissions (groups : stored.map (·.group) = document.groups)
    (entries : ∀ s ∈ stored, s.entries.map (·.key) = s.group.entries.map (·.key)) :
    (submissions stored).length = document.entryCount := by
  rw [Document.entryCount, ← groups, submissions, List.length_flatMap, List.length_flatMap,
    List.map_map]
  refine congrArg List.sum (List.map_congr_left fun s stands => ?_)
  have lengths := congrArg List.length (entries s stands)
  simpa [StoredGroup.submissions] using lengths

/-- A stored group has inserted each of its entries once. -/
theorem Run.Stores.once {calls : TableStore σ} {schemas : SchemaSource} {options : SeedOptions}
    {made : σ → List StoreCall} {r r' : Run σ}
    (stores : r.Stores calls schemas options (Run.AnyMoves calls made) s r') :
    s.inserted.Perm s.entries := by
  obtain ⟨⟨opened, -, moves, -⟩, ok⟩ := stores
  have started := moves.sound.started_perm ok
  have perm := ((List.reverse_perm _).trans started).filterMap (s.entries[·]?)
  rwa [StoredGroup.filterMap_range] at perm

end Committed

/-- After a run that went well, every record of the document can be referred to, and it is the item
that was handed to the store. -/
theorem referable_of_ok {σ : Type} {calls : TableStore σ} {sources : SeedSources} {v : Json.Value}
    {document : Document} {options : SeedOptions} {sandbox : Sandbox} {store : σ}
    {summary : SeedSummary} {r : Run σ} (distinct : v.Distinct)
    (read : Document.ofJson v = .ok document)
    (ok : seed calls sources document options sandbox store = (.ok summary, r)) :
    ∃ stored, Referable calls sources document options sandbox store summary r stored := by
  obtain ⟨begun, stored, begins, storesAll, groups, -⟩ := seed_ok ok
  have names := Document.namesDistinct_of_ofJson distinct read
  have any (made : σ → List StoreCall) :
      begun.StoresAll calls sources.schemas options (Run.AnyMoves calls made) stored r :=
    storesAll.mono fun _ _ _ _ => Run.anyMoves_of_ownMoves
  have prepared : ∀ s ∈ stored, ∃ commits t t',
      PreparesAll commits s.schema t s.group.entries s.entries t' := fun s mem => by
    obtain ⟨_, _, ⟨_, opens, -, -⟩, -⟩ := storesAll.exists_of_mem mem
    obtain ⟨_, -, prepares⟩ := opens.prepares
    exact ⟨_, _, _, prepares⟩
  have entries : ∀ s ∈ stored, s.entries.map (·.key) = s.group.entries.map (·.key) := fun s mem => by
    obtain ⟨_, _, _, prepares⟩ := prepared s mem
    exact prepares.keys
  have commits : r.commits = Commits.ofOffers (submissions stored) := by
    rw [storesAll.commits, begins.commits, ← committed_eq]
    rfl
  have apart := apart_of_namesDistinct names groups entries
  refine ⟨stored, ⟨begun, begins, storesAll⟩, groups, entries, ?_, ?_, commits, ?_, ?_, ?_, ?_⟩
  case refine_1 =>
    intro made records
    rw [(any made).calls_made records, begins.store]
  case refine_2 =>
    intro s mem
    obtain ⟨_, _, stores⟩ := (any fun _ => []).exists_of_mem mem
    exact stores.once
  case refine_3 =>
    intro before p after split
    exact Commits.accepts_of_pairwise (split ▸ apart)
  case refine_4 =>
    rw [commits, (Commits.indexes_of_pairwise apart).length]
    exact length_submissions groups entries
  case refine_5 =>
    intro s mem
    obtain ⟨_, _, _, prepares⟩ := prepared s mem
    have group : s.group ∈ document.groups := groups ▸ List.mem_map_of_mem mem
    exact prepares.parts (names.fields s.group group)
  case refine_6 =>
    intro before s after moment split since till p mem groupWhole entryWhole
    let offer : Submission := ⟨s.group.name, p.key, p.record⟩
    have offered : offer ∈ moment := by
      refine since.subset ?_
      rw [submissions_append]
      refine List.mem_append_right _ (List.mem_flatMap.mpr ⟨s, List.mem_singleton_self s, ?_⟩)
      exact List.mem_map_of_mem mem
    have resolved := Commits.resolve_qualified (p := offer) (apart.sublist till.sublist) offered
      groupWhole entryWhole
    exact resolved

/-- Two groups have an entry of the same name, and the second one refers to that of the first. -/
theorem referable_with_clash :
    let v : Json.Value := .object [
      ("Users", .object [("_schema", .string "users"),
        ("ann", .object [("name", .string "Ann"), ("id", .string "u1")])]),
      ("Orders", .object [("_schema", .string "orders"),
        ("ann", .object [("user", .string "->Users.ann.id"), ("id", .string "o1")])])]
    let document : Document := { groups := [
      ⟨"Users", "users", [⟨"ann", [("name", .literal (.string "Ann")),
        ("id", .literal (.string "u1"))]⟩]⟩,
      ⟨"Orders", "orders", [⟨"ann", [("user", .reference ⟨"Users", ["ann", "id"]⟩),
        ("id", .literal (.string "o1"))]⟩]⟩] }
    let summary : SeedSummary := { groups := [⟨"Users", "Users", 1⟩, ⟨"Orders", "Orders", 1⟩] }
    let run := seed MemoryStore.store (ownTables document) document {} bareSandbox {}
    v.Distinct ∧ Document.ofJson v = .ok document ∧ run = (.ok summary, run.2) ∧
      ∃ stored, Referable MemoryStore.store (ownTables document) document {} bareSandbox {} summary
        run.2 stored := by
  intro v document summary run
  have distinct : v.Distinct := by
    simp [v, Json.Value.Distinct, Json.Value.MembersDistinct, Json.Members.Distinct,
      Json.Members.names]
  have read : Document.ofJson v = .ok document := rfl
  have ok : run = (.ok summary, run.2) := rfl
  exact ⟨distinct, read, ok, referable_of_ok distinct read ok⟩

end TableSeed
