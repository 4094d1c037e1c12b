import TableSeed.Proofs.Commits.Order
import TableSeed.Proofs.Seeding.FreeKeys

/-!
# The order of entries

Two documents that differ in the order of entries inside their groups are seeded alike, if no
expression is evaluated, which could change what later ones see, and no reference asks for all
entries of a group, whose order it would see.
-/

namespace TableSeed

/-- A group has the same entries as another, in any order. -/
structure Group.Shuffled (group group' : Group) : Prop where
  name : group'.name = group.name
  schema : group'.schema = group.schema
  entries : group'.entries.Perm group.entries

/-- A document has the same groups as another, each with its entries in any order. -/
structure Document.Shuffled (document document' : Document) : Prop where
  dependencies : document'.dependencies = document.dependencies
  groups : List.Forall₂ Group.Shuffled document.groups document'.groups

/-- A record without expressions and without references to a whole group of the given names. -/
structure RecordTemplate.Plain (names : List String) (record : RecordTemplate) : Prop where
  noExpression : record.hasExpressions = false
  below : ∀ path, .reference path ∈ Template.fieldLeaves record → path.fields = [] →
    path.root ∉ names

/-- A group of plain records that names each entry once. -/
structure Group.Plain (names : List String) (group : Group) : Prop where
  known : group.name ∈ names
  keys : (group.entries.map (·.key)).Nodup
  records : ∀ entry ∈ group.entries, entry.record.Plain names

/-- Two stores have the same tables, with the same items in any order. -/
def MemoryStore.SameItems (s s' : MemoryStore) : Prop :=
  ∀ table, Option.Rel List.Perm (s'.table? table) (s.table? table)

/-- A group whose entries are in another order is one that the first group has in another order. -/
theorem Group.Shuffled.symm {group group' : Group} (shuffled : group.Shuffled group') :
    group'.Shuffled group :=
  ⟨shuffled.name.symm, shuffled.schema.symm, shuffled.entries.symm⟩

namespace Document.Shuffled

variable {document document' : Document}

/-- A document whose entries are in another order is one that the first document has in another
order. -/
theorem symm (shuffled : document.Shuffled document') : document'.Shuffled document :=
  ⟨shuffled.dependencies.symm, (shuffled.groups.imp fun _ _ one => one.symm).flip⟩

/-- The groups keep their names. -/
theorem names (shuffled : document.Shuffled document') :
    document'.groups.map (·.name) = document.groups.map (·.name) := by
  have groups := shuffled.groups
  generalize document.groups = groups at groups
  generalize document'.groups = groups' at groups
  induction groups with
  | nil => rfl
  | cons one _ ih => rw [List.map_cons, List.map_cons, ih, one.name]

end Document.Shuffled

/-- A group stays plain in any order. -/
theorem Group.Plain.shuffled {names : List String} {group group' : Group}
    (plain : group.Plain names) (shuffled : group.Shuffled group') : group'.Plain names where
  known := shuffled.name ▸ plain.known
  keys := (shuffled.entries.map _).nodup_iff.mpr plain.keys
  records entry mem := plain.records entry (shuffled.entries.mem_iff.mp mem)

/-- Groups stay plain in any order. -/
theorem plain_shuffled {names : List String} {groups groups' : List Group}
    (shuffled : List.Forall₂ Group.Shuffled groups groups')
    (plain : ∀ group ∈ groups, group.Plain names) : ∀ group ∈ groups', group.Plain names := by
  induction shuffled with
  | nil => exact plain
  | cons one _ ih =>
    obtain ⟨own, others⟩ := List.forall_mem_cons.mp plain
    exact List.forall_mem_cons.mpr ⟨own.shuffled one, ih others⟩

namespace MemoryStore

variable {s s' : MemoryStore}

/-- A store has the items it has. -/
theorem sameItems_refl (s : MemoryStore) : s.SameItems s := fun table => by
  cases s.table? table with
  | none => exact .none
  | some items => exact .some (.refl _)

/-- Tables with the same items have the same items if a missing table counts as an empty one. -/
theorem SameItems.getD (same : s.SameItems s') (table : String) :
    ((s'.table? table).getD []).Perm ((s.table? table).getD []) := by
  have here := same table
  revert here
  cases s.table? table <;> cases s'.table? table
  · exact fun _ => .refl _
  · exact nofun
  · exact nofun
  · rintro (perm | _)
    exact perm

end MemoryStore

namespace Run

variable {names : List String} {schemas : SchemaSource} {options : SeedOptions}
  {r r' r₁ : Run MemoryStore} {group group' : Group} {groups groups' : List Group}
  {schema : TableSchema} {ps : List PreparedEntry}

/-- Two runs have committed the same records and left the same items, but for the order inside of
groups. -/
structure Reordered (names : List String) (r r' : Run MemoryStore) : Prop where
  commits : r.commits.Reordered names r'.commits
  items : r.store.SameItems r'.store
  allowance : (∃ left, r.allowance = some left) ∧ ∃ left, r'.allowance = some left

/-- A group finds the same items in its table. -/
theorem Reordered.found (same : r.Reordered names r') (options : SeedOptions) (table : String) :
    (r'.found options table).Perm (r.found options table) := by
  unfold Run.found
  split
  · exact .refl _
  · exact same.items.getD table

/-- A group that is taken is taken in any order of its entries. -/
theorem Takes.shuffled (takes : r.Takes schemas options group schema ps)
    (same : r.Reordered names r') (plain : group.Plain names) (shuffled : group.Shuffled group') :
    ∃ ps', ps'.Perm ps ∧ r'.Takes schemas options group' schema ps' := by
  have gives' : List.Forall₂ (Entry.Gives r'.commits schema) group.entries ps := by
    refine List.forall₂_iff_get.mpr ⟨takes.gives.length_eq, fun i bound bound' => ?_⟩
    have record := plain.records _ (List.get_mem group.entries ⟨i, bound⟩)
    exact (takes.gives.get bound bound').congr record.noExpression fun path mem =>
      same.commits.resolve (record.below path mem)
  obtain ⟨ps', gives, perm⟩ := List.perm_comp_forall₂ shuffled.entries gives'
  exact ⟨ps', perm, shuffled.schema ▸ takes.loads, gives,
    takes.free.perm (perm.map _) (same.found options schema.table)⟩

/-- A group that is stored is stored in any order of its entries, and leaves the same. -/
theorem Reordered.seedGroup {summary : GroupSummary} (same : r.Reordered names r')
    (plain : group.Plain names) (shuffled : group.Shuffled group')
    (ok : r.seedGroup MemoryStore.store schemas options group = (.ok summary, r₁)) :
    ∃ r₁', r'.seedGroup MemoryStore.store schemas options group' = (.ok summary, r₁') ∧
      r₁.Reordered names r₁' := by
  obtain ⟨⟨left, left_eq⟩, left', left_eq'⟩ := same.allowance
  obtain ⟨schema, ps, takes, took⟩ := exists_took left_eq ok
  obtain ⟨ps', perm, takes'⟩ := takes.shuffled same plain shuffled
  have plain' := plain.shuffled shuffled
  obtain ⟨summary', r₁', ok'⟩ := takes'.seedGroup_ok left_eq' fun entry mem =>
    (plain'.records entry mem).noExpression
  obtain ⟨schema', ps'', takes'', took'⟩ := exists_took left_eq' ok'
  obtain rfl : schema' = schema := Except.ok.inj (takes''.loads.symm.trans takes'.loads)
  obtain rfl : ps'' = ps' := gives_unique takes''.gives (fun entry mem =>
    (plain'.records entry mem).noExpression) takes'.gives
  have told : summary' = summary := by
    rw [took.summary, took'.summary, shuffled.name, perm.length_eq]
  refine ⟨r₁', told ▸ ok', ?_, ?_, took.allowance, took'.allowance⟩
  · let submission (p : PreparedEntry) : Submission := ⟨group.name, p.key, p.record⟩
    have named : ∀ p ∈ ps.map submission, p.group = group.name := by simp [submission]
    have committed := same.commits.foldl_commit (perm.map submission) named plain.known (by
        rw [List.map_map]
        exact (congrArg List.Nodup (keys_of_gives takes.gives)).mpr plain.keys)
    rw [List.foldl_map, List.foldl_map] at committed
    rw [took.commits, took'.commits, shuffled.name]
    exact committed
  · obtain ⟨items, own, tables⟩ := took.tables
    obtain ⟨items', own', tables'⟩ := took'.tables
    intro table
    rw [tables, tables']
    split_ifs
    · exact .some ((same.found options _).append (own'.trans ((perm.map _).trans own.symm)))
    · exact same.items table

/-- Groups that are stored are stored in any order of their entries, and leave the same. -/
theorem Reordered.seedGroups {summaries : List GroupSummary} (same : r.Reordered names r')
    (plain : ∀ group ∈ groups, group.Plain names)
    (shuffled : List.Forall₂ Group.Shuffled groups groups')
    (ok : r.seedGroups MemoryStore.store schemas options groups = (.ok summaries, r₁)) :
    ∃ r₁', r'.seedGroups MemoryStore.store schemas options groups' = (.ok summaries, r₁') ∧
      r₁.Reordered names r₁' := by
  induction shuffled generalizing r r' summaries with
  | nil =>
    cases ok
    exact ⟨r', rfl, same⟩
  | @cons group group' rest rest' one _ ih =>
    obtain ⟨own, others⟩ := List.forall_mem_cons.mp plain
    rw [Run.seedGroups_cons, Run.andThen_eq_ok_iff] at ok
    obtain ⟨summary, middle, first, ok⟩ := ok
    obtain ⟨summaries', last, later, ok⟩ := Run.andThen_eq_ok_iff.mp ok
    cases ok
    obtain ⟨middle', first', same'⟩ := same.seedGroup own one first
    obtain ⟨last', later', same''⟩ := ih same' others later
    refine ⟨last', ?_, same''⟩
    rw [Run.seedGroups_cons, Run.andThen_eq_ok_iff]
    exact ⟨summary, middle', first', Run.andThen_eq_ok_iff.mpr ⟨summaries', last', later', rfl⟩⟩

end Run

section Whole

variable {document document' : Document} {summary : SeedSummary} {r : Run MemoryStore}

/-- A document that is seeded is seeded in any order of its entries, and leaves the same. -/
theorem seed_ok_shuffled (shuffled : document.Shuffled document')
    (plain : ∀ group ∈ document.groups, group.Plain (document.groups.map (·.name)))
    {sources : SeedSources} {options : SeedOptions} {sandbox : Sandbox} {store : MemoryStore}
    (ok : seed MemoryStore.store sources document options sandbox store = (.ok summary, r)) :
    ∃ r', seed MemoryStore.store sources document' options sandbox store = (.ok summary, r') ∧
      r.store.SameItems r'.store := by
  rw [seed_eq, Run.andThen_eq_ok_iff] at ok
  obtain ⟨dependencies, begun, bound, ok⟩ := ok
  obtain ⟨summaries, last, stored, ok⟩ := Run.andThen_eq_ok_iff.mp ok
  cases ok
  have start : begun.Reordered (document.groups.map (·.name)) begun := by
    rw [Run.loadDependencies_frame] at bound
    obtain rfl := congrArg Prod.snd bound
    exact ⟨Commits.reordered_empty _, MemoryStore.sameItems_refl _, ⟨128, rfl⟩, 128, rfl⟩
  obtain ⟨last', stored', same⟩ := start.seedGroups plain shuffled.groups stored
  refine ⟨last', ?_, same.items⟩
  rw [← shuffled.dependencies] at bound
  rw [seed_eq, Run.andThen_eq_ok_iff]
  exact ⟨dependencies, begun, bound, Run.andThen_eq_ok_iff.mpr ⟨summaries, last', stored', rfl⟩⟩

/-- The order of entries makes no difference. Two documents with the same entries in each group,
without expressions and without references to a whole group, are both seeded or both not, with the
same summary, and every table has the same items in the end, in any order. No group names an entry
twice, as in every document that was read. -/
theorem seed_entry_order (shuffled : document.Shuffled document')
    (keys : ∀ group ∈ document.groups, (group.entries.map (·.key)).Nodup)
    (noExpression : ∀ group ∈ document.groups, ∀ entry ∈ group.entries,
      entry.record.hasExpressions = false)
    (below : ∀ group ∈ document.groups, ∀ entry ∈ group.entries, ∀ path,
      .reference path ∈ Template.fieldLeaves entry.record → path.fields = [] →
      path.root ∉ document.groups.map (·.name))
    (sources : SeedSources) (options : SeedOptions) (sandbox : Sandbox) (store : MemoryStore) :
    let first := seed MemoryStore.store sources document options sandbox store
    let second := seed MemoryStore.store sources document' options sandbox store
    (∀ summary, first.1 = .ok summary ↔ second.1 = .ok summary) ∧
      ∀ summary, first.1 = .ok summary → first.2.store.SameItems second.2.store := by
  intro first second
  have plain : ∀ group ∈ document.groups, group.Plain (document.groups.map (·.name)) :=
    fun group mem => ⟨List.mem_map_of_mem mem, keys group mem, fun entry entered =>
      ⟨noExpression group mem entry entered, below group mem entry entered⟩⟩
  have plain' : ∀ group ∈ document'.groups, group.Plain (document'.groups.map (·.name)) :=
    shuffled.names ▸ plain_shuffled shuffled.groups plain
  have forth (summary : SeedSummary) (ok : first.1 = .ok summary) :
      second.1 = .ok summary ∧ first.2.store.SameItems second.2.store := by
    obtain ⟨r', same, items⟩ := seed_ok_shuffled shuffled plain (Prod.ext ok rfl)
    have ended : second = (.ok summary, r') := same
    rw [ended]
    exact ⟨rfl, items⟩
  refine ⟨fun summary => ⟨fun ok => (forth summary ok).1, fun ok => ?_⟩,
    fun summary ok => (forth summary ok).2⟩
  obtain ⟨r, same, -⟩ := seed_ok_shuffled shuffled.symm plain' (Prod.ext ok rfl)
  exact congrArg Prod.fst same

end Whole

/-- Two users and their posts, which refer to the users, in the given order. -/
def postsOf (users posts : List Entry) : Document where
  groups := [⟨"Users", "users", users⟩, ⟨"Posts", "posts", posts⟩]

/-- Two users. -/
def twoUsers : List Entry :=
  [⟨"ann", [("id", .literal (.string "u1"))]⟩, ⟨"bob", [("id", .literal (.string "u2"))]⟩]

/-- A post of each of the two users, who are named in two ways. -/
def twoPosts : List Entry :=
  [⟨"p1", [("id", .literal (.string "p1")), ("author", .reference ⟨"Users", ["ann", "id"]⟩)]⟩,
   ⟨"p2", [("id", .literal (.string "p2")), ("author", .reference ⟨"bob", []⟩)]⟩]

/-- Users and posts are seeded alike from the last to the first. -/
theorem seed_reversed_posts :
    (postsOf twoUsers twoPosts).Shuffled (postsOf twoUsers.reverse twoPosts.reverse) ∧
      let sources := ownTables (postsOf twoUsers twoPosts)
      let first := seed MemoryStore.store sources (postsOf twoUsers twoPosts) {} bareSandbox {}
      let second := seed MemoryStore.store sources (postsOf twoUsers.reverse twoPosts.reverse) {}
        bareSandbox {}
      first.1 = .ok { groups := [⟨"Users", "Users", 2⟩, ⟨"Posts", "Posts", 2⟩] } ∧
        second.1 = first.1 ∧ first.2.store.SameItems second.2.store := by
  have shuffled : (postsOf twoUsers twoPosts).Shuffled
      (postsOf twoUsers.reverse twoPosts.reverse) :=
    ⟨rfl, .cons ⟨rfl, rfl, List.reverse_perm _⟩ (.cons ⟨rfl, rfl, List.reverse_perm _⟩ .nil)⟩
  have same := seed_entry_order shuffled (by decide) (by decide) (by
    simp [postsOf, twoUsers, twoPosts, Template.fieldLeaves, Template.leaves])
    (ownTables (postsOf twoUsers twoPosts)) {} bareSandbox {}
  have ok : (seed MemoryStore.store (ownTables (postsOf twoUsers twoPosts))
      (postsOf twoUsers twoPosts) {} bareSandbox {}).1 =
      .ok { groups := [⟨"Users", "Users", 2⟩, ⟨"Posts", "Posts", 2⟩] } := by rfl
  exact ⟨shuffled, ok, ((same.1 _).mp ok).trans ok.symm, same.2 _ ok⟩

end TableSeed
