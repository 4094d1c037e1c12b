import TableSeed.Proofs.Expression.GoingOn
import TableSeed.Proofs.Lua.Updates

/-!
# The tables of a sandbox

The safe functions, their libraries and the bound values stand in tables of the sandbox's own. Chunks
see copies of them, so whatever a module does, they change only when a name is bound.
-/

namespace TableSeed

open Lua (Heap World TableRef Key Table)

namespace Lua.Heap

variable {base h : Heap} {p : Prop} {t : TableRef} {k : Key} {v : Value}

/-- A value under a key does not change which tables are later ones. -/
theorem reach_set (base : Heap) (t : TableRef) (k : Key) (v : Value) (p : Prop) :
    (base.set t k v).reach p = base.reach p := by
  have made : (base.set t k v).Made = base.Made := by
    funext r
    rw [Made, size_set, Made]
  rw [reach, made]

/-- A value under a key of one table leaves the others as they are. -/
theorem table_set_of_ne {r : TableRef} (other : r ≠ t) (h : Heap) (k : Key) (v : Value) :
    (h.set t k v).table r = h.table r := by
  rw [Heap.set, table_modifyTable, if_neg fun both => other both.1]

/-- An older table changes for both heaps. -/
theorem Confines.setOlder (confined : base.Confines p h) (older : ¬base.Made t) (k : Key) (v : Value) :
    (base.set t k v).Confines p (h.set t k v) where
  grown := by
    rw [size_set, size_set]
    exact confined.grown
  spared r old := by
    simp only [Made, size_set, Nat.not_le] at old older
    have grown := confined.grown
    have same := confined.spared r (Nat.not_le.mpr old)
    rw [Heap.set, Heap.set, table_modifyTable, table_modifyTable, same]
    by_cases isTable : r = t
    · rw [if_pos ⟨isTable, by omega⟩, if_pos ⟨isTable, old⟩]
    · rw [if_neg fun both => isTable both.1, if_neg fun both => isTable both.1]
  tables r made := by
    rw [Made, size_set] at made
    rw [reach_set, Heap.set, table_modifyTable, if_neg (by rintro ⟨rfl, -⟩; exact older made)]
    exact confined.tables r made
  cells w mem := by
    rw [reach_set]
    exact confined.cells w mem
  methods := confined.methods

end Lua.Heap

namespace Sandbox

variable {leaves : TableRef → Prop} {own : Heap} {s t : Sandbox} {name : String} {v : Lua.Value}

/-- The value that is bound to a name, or nil. -/
def bound (s : Sandbox) (name : String) : Lua.Value :=
  (s.world.heap.table s.bindings).getText name

/-- The safe function or library of a name, or nil. -/
def safe (s : Sandbox) (name : String) : Lua.Value :=
  (s.world.heap.table s.globals).getText name

/-- The sandbox's own tables are those of a heap, and nothing that was made since refers to them. -/
structure Owns (leaves : TableRef → Prop) (own : Heap) (s : Sandbox) : Prop where
  confined : own.Confines True s.world.heap
  bounded : ∀ r, leaves r → r.index < own.tables.size
  flat : ∀ r, leaves r → (own.table r).Flat
  methods : leaves own.methods
  globals : s.globals.index < own.tables.size
  bindings : s.bindings.index < own.tables.size
  unshared : ¬leaves s.bindings
  apart : s.globals ≠ s.bindings
  places : ∀ r, (own.table r).Apart
  library : (own.table s.globals).Shallow leaves
  libraryFits : (own.table s.globals).Fits
  /-- Bound names have values which the sandbox's own tables are no part of. -/
  named : (own.table s.bindings).Holds
    (fun k => k.Plain ∧ ∀ name, name ∉ s.aliases → k ≠ .ofText name)
    (Lua.Value.Within (own.reach True)) fun _ => False
  namedFits : (own.table s.bindings).Fits

/-- The globals are as the sandbox owns them. -/
theorem Owns.table_globals (owns : s.Owns leaves own) :
    s.world.heap.table s.globals = own.table s.globals :=
  owns.confined.spared _ (Nat.not_le.mpr owns.globals)

/-- The table of bound values is as the sandbox owns it. -/
theorem Owns.table_bindings (owns : s.Owns leaves own) :
    s.world.heap.table s.bindings = own.table s.bindings :=
  owns.confined.spared _ (Nat.not_le.mpr owns.bindings)

/-- No key has two places in a table. -/
theorem Owns.apart_table (owns : s.Owns leaves own) (r : TableRef) :
    (s.world.heap.table r).Apart := by
  by_cases made : own.Made r
  · exact (owns.confined.tables r made).apart
  · rw [owns.confined.spared r made]
    exact owns.places r

/-- The globals are a sound table. -/
theorem Owns.sound_globals (owns : s.Owns leaves own) : (s.world.heap.table s.globals).Sound :=
  ⟨owns.apart_table _, owns.table_globals ▸ owns.libraryFits⟩

/-- The bound values are a sound table. -/
theorem Owns.sound_bindings (owns : s.Owns leaves own) : (s.world.heap.table s.bindings).Sound :=
  ⟨owns.apart_table _, owns.table_bindings ▸ owns.namedFits⟩

/-- The table of bound values is in the heap. -/
theorem Owns.inside_bindings (owns : s.Owns leaves own) :
    s.bindings.index < s.world.heap.tables.size :=
  Nat.lt_of_lt_of_le owns.bindings owns.confined.grown

/-- The globals are in the heap. -/
theorem Owns.inside_globals (owns : s.Owns leaves own) :
    s.globals.index < s.world.heap.tables.size :=
  Nat.lt_of_lt_of_le owns.globals owns.confined.grown

/-- A name that is not bound has no value. -/
theorem Owns.bound_of_not_mem (owns : s.Owns leaves own) (free : name ∉ s.aliases) :
    s.bound name = .nil := by
  rw [bound, owns.table_bindings]
  have lacks : (own.table s.bindings).Lacks (· = name) :=
    owns.named.mono (fun k key other same => key.2 other (same ▸ free)) (fun _ _ => trivial)
      fun _ held => held.elim
  exact lacks.getText rfl

/-- A sandbox with the same tables of its own. -/
theorem Owns.keep (owns : s.Owns leaves own) (confined : own.Confines True t.world.heap)
    (globals : t.globals = s.globals) (bindings : t.bindings = s.bindings)
    (aliases : t.aliases = s.aliases) : t.Owns leaves own where
  confined := confined
  bounded := owns.bounded
  flat := owns.flat
  methods := owns.methods
  globals := globals ▸ owns.globals
  bindings := bindings ▸ owns.bindings
  unshared := bindings ▸ owns.unshared
  apart := globals ▸ bindings ▸ owns.apart
  places := owns.places
  library := globals ▸ owns.library
  libraryFits := globals ▸ owns.libraryFits
  named := by
    rw [bindings, aliases]
    exact owns.named
  namedFits := bindings ▸ owns.namedFits

section Binding

/-- A name that is taken is not bound again. -/
theorem bind_of_mem (taken : name ∈ s.aliases) (v : Lua.Value) : s.bind name v = (s, false) :=
  if_pos (by rwa [contains, List.contains_iff_mem])

/-- A free name is bound, and comes after the others. -/
theorem bind_of_not_mem (free : name ∉ s.aliases) (v : Lua.Value) :
    s.bind name v =
      ({ s.mapHeap (·.set s.bindings (.ofText name) v) with aliases := s.aliases ++ [name] }, true) :=
  if_neg (by rwa [contains, List.contains_iff_mem])

/-- The name has the value, and every other name the value that it had. -/
theorem Owns.bound_bind (owns : s.Owns leaves own) (free : name ∉ s.aliases) (v : Lua.Value)
    (other : String) :
    (s.bind name v).1.bound other = if other = name then v else s.bound other := by
  rw [bind_of_not_mem free]
  change ((s.world.heap.set s.bindings (.ofText name) v).table s.bindings).getText other = _
  rw [Heap.table_set_self owns.inside_bindings, Table.getText, Table.get_set owns.sound_bindings]
  by_cases same : other = name
  · rw [if_pos same, if_pos (congrArg Key.ofText same)]
  · rw [if_neg same, if_neg (Key.ofText_ne same)]
    rfl

/-- A value that refers to none of the sandbox's own tables is bound to a new name. -/
theorem Owns.bind (owns : s.Owns leaves own) (free : name ∉ s.aliases)
    (value : v.Within (own.reach True)) :
    (s.bind name v).1.Owns leaves (own.set s.bindings (.ofText name) v) := by
  have spared (r : TableRef) (other : r ≠ s.bindings) :
      (own.set s.bindings (.ofText name) v).table r = own.table r :=
    Heap.table_set_of_ne other ..
  have self := Heap.table_set_self owns.bindings (.ofText name) v
  have sound : (own.table s.bindings).Sound := owns.table_bindings ▸ owns.sound_bindings
  have globals := spared _ owns.apart
  have named : (own.table s.bindings).Holds
      (fun k => k.Plain ∧ ∀ other, other ∉ s.aliases ++ [name] → k ≠ .ofText other)
      (Lua.Value.Within (own.reach True)) fun _ => False := owns.named.mono
    (fun _ key => ⟨key.1, fun other absent => key.2 other (notMem_of_notMem_append absent).1⟩)
    (fun _ value => value) fun _ held => held
  rw [bind_of_not_mem free]
  exact {
    confined := owns.confined.setOlder (Nat.not_le.mpr owns.bindings) _ v
    bounded r leaf := by
      rw [Heap.size_set]
      exact owns.bounded r leaf
    flat r leaf := by
      rw [spared r fun same => owns.unshared (same ▸ leaf)]
      exact owns.flat r leaf
    methods := owns.methods
    globals := by
      rw [Heap.size_set]
      exact owns.globals
    bindings := by
      rw [Heap.size_set]
      exact owns.bindings
    unshared := owns.unshared
    apart := owns.apart
    places r := by
      by_cases same : r = s.bindings
      · rw [same, self]
        exact (sound.set _ v).apart
      · rw [spared r same]
        exact owns.places r
    library := globals.symm ▸ owns.library
    libraryFits := globals.symm ▸ owns.libraryFits
    named := by
      rw [Heap.reach_set]
      have key : (Key.ofText name).Plain ∧ ∀ other, other ∉ s.aliases ++ [name] →
          Key.ofText name ≠ .ofText other :=
        ⟨Key.plain_ofText name, fun other absent => Key.ofText_ne (notMem_of_notMem_append absent).2⟩
      exact self.symm ▸ named.set key value
    namedFits := self.symm ▸ (sound.set _ v).fits }

end Binding

section Modules

variable {directory : ModuleDirectory} {d : Dependency}

/-- An environment has copies of the sandbox's own tables, which refer to none of them. -/
theorem Owns.environment (owns : s.Owns leaves own) :
    own.Made (s.environment none).1 ∧ own.Confines True (s.environment none).2.world.heap := by
  refine environment_within owns.confined (fun h confined e mem => ?_) (fun h confined e mem => ?_) nofun
  · rw [confined.spared _ (Nat.not_le.mpr owns.globals)] at mem
    obtain ⟨key, value⟩ := owns.library.mem_entries mem
    exact ⟨Lua.Value.Plain.within key, copiesWithin_of_isolable owns.flat owns.bounded value⟩
  · rw [confined.spared _ (Nat.not_le.mpr owns.bindings)] at mem
    obtain ⟨key, value⟩ := owns.named.mem_entries mem
    exact ⟨Lua.Value.Plain.within key.1, copiesWithin_of_within value⟩

/-- A chunk leaves everything of the sandbox but the world and the interval that is to go on. -/
theorem run_snd_eq (s : Sandbox) (source chunk : String) (env : TableRef) :
    ∃ world left, (s.run source chunk env).2 = { s with world, intervalLeft := left } := by
  rw [run]
  cases compile source with
  | error e => exact ⟨s.world, s.intervalLeft, rfl⟩
  | ok body => exact ⟨_, _, rfl⟩

/-- Making an environment changes the world of a sandbox and nothing else of it. -/
theorem environment_snd_eq (s : Sandbox) (this : Option TableRef) :
    ∃ world, (s.environment this).2 = { s with world } := ⟨_, rfl⟩

/-- Finding the value of a module changes the world of a sandbox and the interval it goes on
with. -/
theorem value_snd_eq (directory : ModuleDirectory) (s : Sandbox) (d : Dependency) :
    ∃ world left, (directory.value s d).2 = { s with world, intervalLeft := left } := by
  rcases value_cases directory s d with valued | ⟨e, -, valued⟩ | ⟨-, -, source, -, result, t, ran, ended⟩
  · rw [valued]
    exact ⟨_, _, rfl⟩
  · rw [valued]
    exact ⟨s.world, s.intervalLeft, rfl⟩
  · have valued : (directory.value s d).2 = t := by
      rcases ended with ⟨e, -, valued⟩ | ⟨v, -, valued⟩ <;> rw [valued]
    obtain ⟨begun, same⟩ := s.environment_snd_eq none
    obtain ⟨world, left, after⟩ := (s.environment none).2.run_snd_eq source
      (ModuleDirectory.chunkName (directory.path d.moduleName)) (s.environment none).1
    rw [ran, same] at after
    exact ⟨world, left, valued.trans after⟩

/-- The value of a module refers to none of the sandbox's own tables, and they stay as they are. -/
theorem Owns.value (owns : s.Owns leaves own) (directory : ModuleDirectory) (d : Dependency)
    (free : d.name ∉ s.aliases) :
    (∀ v, (directory.value s d).1 = .ok v → v.Within (own.reach True)) ∧
      (directory.value s d).2.Owns leaves own := by
  have based : World.Based { heap := own, now := s.world.now } :=
    fun _ => (owns.flat _ owns.methods).within
  have fresh : s.contains d.name = false := by
    rw [contains, List.contains_eq_mem, decide_eq_false free]
  obtain ⟨value, after⟩ := value_within (p := True) based ⟨owns.confined, rfl⟩
    owns.environment fresh (.inl trivial)
  refine ⟨value, ?_⟩
  obtain ⟨world, left, same⟩ := value_snd_eq directory s d
  rw [same] at after ⊢
  exact owns.keep after.heap rfl rfl rfl

end Modules

section Creation

/-- A new table is filled entry by entry. -/
theorem sound_tableOf (h : Heap) (entries : List (String × Lua.Value)) :
    ((tableOf h entries).2.table (tableOf h entries).1).Sound := by
  have filled (g : Heap) (t : TableRef) (inside : t.index < g.tables.size) (sound : (g.table t).Sound) :
      ((entries.foldl (fun g e => g.set t (.ofText e.1) e.2) g).table t).Sound := by
    induction entries generalizing g with
    | nil => exact sound
    | cons e rest ih =>
      refine ih _ ((Heap.size_set ..).symm ▸ inside) ?_
      rw [Heap.table_set_self inside]
      exact sound.set _ _
  refine filled (h.newTable {}).2 (h.newTable {}).1 ?_ ?_
  · exact Nat.lt_of_lt_of_eq (Nat.lt_succ_self _) (Array.size_push _).symm
  · rw [Heap.table_newTable_self]
    exact Table.sound_empty

/-- The tables that are there stay as they are. -/
theorem table_tableOf_of_lt {h : Heap} {r : TableRef} (inside : r.index < h.tables.size)
    (entries : List (String × Lua.Value)) : (tableOf h entries).2.table r = h.table r := by
  have filled (g : Heap) (t : TableRef) (other : r ≠ t) (same : g.table r = h.table r) :
      (entries.foldl (fun g e => g.set t (.ofText e.1) e.2) g).table r = h.table r := by
    induction entries generalizing g with
    | nil => exact same
    | cons e rest ih =>
      exact ih _ ((Heap.table_set_of_ne other ..).trans same)
  refine filled (h.newTable {}).2 (h.newTable {}).1 ?_ ?_
  · rintro rfl
    exact Nat.lt_irrefl _ inside
  · rw [Heap.table_newTable, if_neg (Nat.ne_of_lt inside)]

/-- How many tables a new sandbox has. -/
def ownTables : Nat := 6

/-- The sandbox has no tables but its own: four libraries, the safe functions, and the bound values, of
which there are none. -/
structure Fresh (s : Sandbox) : Prop where
  count : s.world.heap.tables.size = ownTables
  safe : (s.world.heap.table s.globals).Sound
  unbound : s.world.heap.table s.bindings = {}
  unnamed : s.aliases = []

/-- A new sandbox has no tables but its own. -/
theorem fresh_create (now : Int) (seed : UInt64) : (create now seed).Fresh := by
  obtain ⟨h, entries, strings, -, size, -, -, created⟩ := exists_create now seed
  have inside : (tableOf h entries).1.index < (tableOf h entries).2.tables.size := by
    rw [index_tableOf, size_tableOf]
    exact Nat.lt_succ_self _
  have kept := table_tableOf_of_lt inside []
  rw [created]
  exact {
    count := by
      change (tableOf (tableOf h entries).2 []).2.tables.size = ownTables
      rw [size_tableOf, size_tableOf, size, ownTables]
    safe := by
      change ((tableOf (tableOf h entries).2 []).2.table (tableOf h entries).1).Sound
      rw [kept]
      exact sound_tableOf h entries
    unbound := Heap.table_newTable_self (tableOf h entries).2 {}
    unnamed := rfl }

/-- A new sandbox has only tables of its own. -/
theorem owns_create (now : Int) (seed : UInt64) :
    (create now seed).Owns (·.index < 4) (create now seed).world.heap := by
  have stocked := stocked_create now seed
  obtain ⟨-, sound, blank, -⟩ := fresh_create now seed
  generalize create now seed = s at stocked sound blank ⊢
  exact {
    confined := .refl stocked.heap.cells
    bounded := stocked.heap.bounded
    flat := stocked.heap.flat
    methods := stocked.methods
    globals := stocked.globals
    bindings := stocked.bindings
    unshared := stocked.unshared
    apart := stocked.apart
    places r := (stocked.heap.shallow r).apart
    library := stocked.heap.shallow _
    libraryFits := sound.fits
    named := by
      rw [blank]
      exact Table.holds_empty (fun _ => ⟨trivial, fun _ _ => nofun⟩) trivial
    namedFits := by
      rw [blank]
      exact Table.sound_empty.fits }

end Creation

end Sandbox

end TableSeed
