import TableSeed.Expression.Modules
import TableSeed.Proofs.Lua.Confinement

/-!
# Furnished sandboxes

A sandbox is furnished with JSON values, each a scalar or a table of scalars, and with the helper
library. Then every table refers at most to tables that refer to no other, which is as deep as an
environment copies.
-/

namespace TableSeed

open Lua (Heap TableRef Key Table)

namespace Lua

/-- The value refers to no object of the heap. -/
def Value.Plain : Value → Prop
  | .table _ | .closure _ | .builtin (.gmatchStep _) | .failure .aborted => False
  | _ => True

/-- The key refers to no object of the heap. -/
def Key.Plain (k : Key) : Prop := k.toValue.Plain

/-- The value refers to no object of the heap but a table of a set. -/
def Value.Isolable (leaves : TableRef → Prop) : Value → Prop
  | .table r => leaves r
  | v => v.Plain

/-- The table refers to no object of the heap. -/
abbrev Table.Flat (t : Table) : Prop := t.Holds Key.Plain Value.Plain fun _ => False

/-- The table refers to no object of the heap but tables of a set as values. -/
abbrev Table.Shallow (leaves : TableRef → Prop) (t : Table) : Prop :=
  t.Holds Key.Plain (Value.Isolable leaves) fun _ => False

/-- The tables of a set refer to nothing, and all others at most to tables of the set. There are no
variables and no closures. -/
structure Heap.Shallow (leaves : TableRef → Prop) (h : Heap) : Prop where
  bounded : ∀ r, leaves r → r.index < h.tables.size
  flat : ∀ r, leaves r → (h.table r).Flat
  shallow : ∀ r, (h.table r).Shallow leaves
  cells : h.cells = #[]
  closures : h.closures = #[]

variable {leaves : TableRef → Prop} {h : Heap}

/-- A value without references is within any reach. -/
theorem Value.Plain.within {R : Reach} {v : Value} (plain : v.Plain) : v.Within R := by
  cases v with
  | table r => exact plain.elim
  | builtin f =>
    cases f with
    | gmatchStep state => exact plain.elim
    | _ => trivial
  | failure f =>
    cases f with
    | aborted => exact plain.elim
    | _ => trivial
  | _ => trivial

/-- A value without references may stand beside the tables of any set. -/
theorem Value.Plain.isolable {v : Value} (plain : v.Plain) : v.Isolable leaves := by
  cases v with
  | table r => exact plain.elim
  | _ => exact plain

/-- A value that refers at most to tables of a set refers at most to tables of a larger one. -/
theorem Value.Isolable.mono {more : TableRef → Prop} {v : Value} (isolable : v.Isolable leaves)
    (wider : ∀ r, leaves r → more r) : v.Isolable more := by
  cases v with
  | table r => exact wider r isolable
  | _ => exact isolable

/-- A text as a key refers to nothing. -/
theorem Key.plain_ofText (s : String) : (Key.ofText s).Plain := trivial

/-- An integer as a key refers to nothing. -/
theorem Key.plain_integer (n : Int64) : (Key.integer n).Plain := trivial

/-- A table without references refers to no more than tables of any set. -/
theorem Table.Flat.shallow {t : Table} (flat : t.Flat) : t.Shallow leaves :=
  Holds.mono flat (fun _ key => key) (fun _ value => value.isolable) nofun

/-- A table without references is within any reach. -/
theorem Table.Flat.within {R : Reach} {t : Table} (flat : t.Flat) : t.Within R :=
  Holds.mono flat (fun _ key => Value.Plain.within key) (fun _ value => value.within) nofun

/-- The empty table refers to nothing. -/
theorem Table.flat_empty : ({} : Table).Flat := holds_empty Key.plain_integer trivial

/-- The table has nothing under certain texts, not even emptied entries. -/
abbrev Table.Lacks (absent : String → Prop) (t : Table) : Prop :=
  t.Holds (fun k => ∀ name, absent name → k ≠ .ofText name) (fun _ => True) fun _ => True

/-- Different texts are different keys. -/
theorem Key.ofText_ne {s t : String} (different : s ≠ t) : Key.ofText s ≠ .ofText t :=
  fun same => different (String.toByteArray_inj.mp (Key.string.inj same))

/-- The empty table lacks every name. -/
theorem Table.lacks_empty {absent : String → Prop} : ({} : Table).Lacks absent :=
  holds_empty (fun _ _ _ => nofun) trivial

/-- The value under a name that a table lacks is nil. -/
theorem Table.Lacks.getText {absent : String → Prop} {t : Table} (lacks : t.Lacks absent)
    {name : String} (isAbsent : absent name) : t.getText name = .nil := by
  change t.hash.getD (.ofText name) .nil = .nil
  rw [Std.TreeMap.getD_eq_getD_getElem?]
  cases found : t.hash[Key.ofText name]? with
  | none => rfl
  | some v => exact absurd rfl ((lacks.hash _ v found).1 name isAbsent)

namespace Heap

/-- A value under a key makes no new table. -/
@[simp] theorem size_set (h : Heap) (t : TableRef) (k : Key) (v : Value) :
    (h.set t k v).tables.size = h.tables.size := by
  simp [Heap.set, modifyTable]

/-- A value under a key changes the table it is set in as a value under a key of the table. -/
theorem table_set_self {h : Heap} {t : TableRef} (inside : t.index < h.tables.size) (k : Key)
    (v : Value) : (h.set t k v).table t = (h.table t).set k v := by
  rw [Heap.set, table_modifyTable, if_pos ⟨rfl, inside⟩]

/-- A new table is as it was given. -/
theorem table_newTable_self (h : Heap) (t : Table) :
    (h.newTable t).2.table (h.newTable t).1 = t :=
  (table_newTable h t _).trans (if_pos rfl)

/-- One more table of the set. -/
theorem Shallow.newLeaf (shallow : h.Shallow leaves) {t : Table} (flat : t.Flat) :
    (h.newTable t).2.Shallow fun r => leaves r ∨ r.index = h.tables.size where
  bounded r leaf := by
    simp only [newTable, Array.size_push]
    rcases leaf with old | new
    · exact Nat.lt_succ_of_lt (shallow.bounded r old)
    · omega
  flat r leaf := by
    rw [table_newTable]
    split
    · exact flat
    · exact shallow.flat r (leaf.resolve_right (by assumption))
  shallow r := by
    rw [table_newTable]
    split
    · exact flat.shallow
    · exact (shallow.shallow r).mono (fun _ key => key)
        (fun _ value => value.mono fun _ => .inl) fun _ held => held.elim
  cells := shallow.cells
  closures := shallow.closures

/-- One more table that is not of the set. -/
theorem Shallow.newTable (shallow : h.Shallow leaves) {t : Table} (within : t.Shallow leaves) :
    (h.newTable t).2.Shallow leaves where
  bounded r leaf := by
    simp only [Heap.newTable, Array.size_push]
    exact Nat.lt_succ_of_lt (shallow.bounded r leaf)
  flat r leaf := by
    rw [table_newTable, if_neg (Nat.ne_of_lt (shallow.bounded r leaf))]
    exact shallow.flat r leaf
  shallow r := by
    rw [table_newTable]
    split
    · exact within
    · exact shallow.shallow r
  cells := shallow.cells
  closures := shallow.closures

/-- A value under a key keeps the tables of the set without references, if it has none where it is
set in one of them. -/
theorem Shallow.set (shallow : h.Shallow leaves) {t : TableRef} {k : Key} {v : Value}
    (key : k.Plain) (value : v.Isolable leaves)
    (flat : leaves t → v.Plain) : (h.set t k v).Shallow leaves where
  bounded r leaf := by
    rw [size_set]
    exact shallow.bounded r leaf
  flat r leaf := by
    rw [Heap.set, table_modifyTable]
    split
    · rename_i both
      exact Table.Holds.set (shallow.flat r leaf) key (flat (both.1 ▸ leaf))
    · exact shallow.flat r leaf
  shallow r := by
    rw [Heap.set, table_modifyTable]
    split
    · exact (shallow.shallow r).set key value
    · exact shallow.shallow r
  cells := shallow.cells
  closures := shallow.closures

/-- Texts as keys of a table, one after the other. -/
theorem Shallow.setTexts (shallow : h.Shallow leaves) {t : TableRef}
    (entries : List (String × Value)) (values : ∀ e ∈ entries, e.2.Isolable leaves)
    (flat : leaves t → ∀ e ∈ entries, e.2.Plain) :
    (entries.foldl (fun h e => h.set t (.ofText e.1) e.2) h).Shallow leaves := by
  induction entries generalizing h with
  | nil => exact shallow
  | cons e rest ih =>
    obtain ⟨value, others⟩ := List.forall_mem_cons.mp values
    exact ih (shallow.set (Key.plain_ofText _) value fun leaf => flat leaf e (List.mem_cons_self ..))
      others fun leaf e mem => flat leaf e (List.mem_cons_of_mem _ mem)

/-- Texts as keys make no new table. -/
theorem size_setTexts (h : Heap) (t : TableRef) (entries : List (String × Value)) :
    (entries.foldl (fun h e => h.set t (.ofText e.1) e.2) h).tables.size = h.tables.size := by
  induction entries generalizing h with
  | nil => rfl
  | cons e rest ih => exact (ih _).trans (size_set h t _ _)

end Heap

end Lua

namespace Sandbox

variable {leaves : TableRef → Prop} {h : Heap}

/-- A table of entries stands after all others. -/
theorem index_tableOf (h : Heap) (entries : List (String × Lua.Value)) :
    (tableOf h entries).1.index = h.tables.size := rfl

/-- A table of entries is one more table. -/
theorem size_tableOf (h : Heap) (entries : List (String × Lua.Value)) :
    (tableOf h entries).2.tables.size = h.tables.size + 1 :=
  (Heap.size_setTexts _ _ entries).trans (Array.size_push _)

/-- A new table of values that refer to no table. -/
theorem tableOf_leaf (shallow : h.Shallow leaves) {entries : List (String × Lua.Value)}
    (flat : ∀ e ∈ entries, e.2.Plain) :
    (tableOf h entries).2.Shallow fun r => leaves r ∨ r.index = h.tables.size :=
  (shallow.newLeaf Table.flat_empty).setTexts entries
    (fun e mem => (flat e mem).isolable) fun _ => flat

/-- A new table of values that refer to no table, or to one of the set. -/
theorem tableOf_shallow (shallow : h.Shallow leaves) {entries : List (String × Lua.Value)}
    (values : ∀ e ∈ entries, e.2.Isolable leaves) :
    (tableOf h entries).2.Shallow leaves :=
  (shallow.newTable Table.flat_empty.shallow).setTexts entries values fun leaf =>
    absurd (shallow.bounded _ leaf) (Nat.lt_irrefl _)

end Sandbox

namespace Json.Value

/-- Whether the value is neither an array nor an object. -/
def isScalar : Json.Value → Bool
  | .array _ | .object _ => false
  | _ => true

/-- Whether the value is a scalar, or an array or an object of scalars. -/
def isFlat : Json.Value → Bool
  | .array items => items.all isScalar
  | .object members => members.all (·.2.isScalar)
  | _ => true

end Json.Value

namespace Conversion

variable {leaves : TableRef → Prop} {base h : Heap} {p : Prop}

/-- A number refers to nothing. -/
theorem ofNumber_plain (n : Json.Number) : (ofNumber n).Plain := by
  cases n with
  | integer n fits =>
    simp only [ofNumber]
    split <;> trivial
  | double x finite => trivial

/-- A scalar takes no table. -/
theorem ofJson_scalar {v : Json.Value} (scalar : v.isScalar = true) (h : Heap) :
    (ofJson h v).1.Plain ∧ (ofJson h v).2 = h := by
  cases v with
  | array | object => cases scalar
  | number n => exact ⟨ofNumber_plain n, rfl⟩
  | _ => exact ⟨trivial, rfl⟩

/-- The items of a list of scalars in a new table. -/
theorem ofItems_shallow {items : List Json.Value} (scalars : items.all Json.Value.isScalar = true)
    (shallow : h.Shallow leaves) (t : TableRef) (i : Nat) :
    (ofItems h t i items).Shallow leaves := by
  induction items generalizing h i with
  | nil =>
    rw [ofItems]
    exact shallow
  | cons v rest ih =>
    rw [List.all_cons, Bool.and_eq_true] at scalars
    obtain ⟨plain, same⟩ := ofJson_scalar scalars.1 h
    rw [ofItems]
    dsimp only
    rw [same]
    exact ih scalars.2 (shallow.set (Key.plain_integer _) plain.isolable fun _ => plain) _

/-- The members of an object of scalars in a new table. -/
theorem ofMembers_shallow {members : Json.Members}
    (scalars : members.all (·.2.isScalar) = true) (shallow : h.Shallow leaves) (t : TableRef) :
    (ofMembers h t members).Shallow leaves := by
  induction members generalizing h with
  | nil =>
    rw [ofMembers]
    exact shallow
  | cons m rest ih =>
    rw [List.all_cons, Bool.and_eq_true] at scalars
    obtain ⟨plain, same⟩ := ofJson_scalar scalars.1 h
    rw [ofMembers]
    dsimp only
    rw [same]
    exact ih scalars.2 (shallow.set (Key.plain_ofText _) plain.isolable fun _ => plain)

mutual

/-- Values from JSON are made of new tables. -/
theorem ofJson_confined (v : Json.Value) {h : Heap} (confined : base.Confines p h) :
    (ofJson h v).1.Within (base.reach p) ∧ base.Confines p (ofJson h v).2 := by
  have blank := confined.newTable Table.within_empty
  cases v with
  | null => exact ⟨trivial, confined⟩
  | bool b => exact ⟨trivial, confined⟩
  | number n => exact ⟨(ofNumber_plain n).within, confined⟩
  | string s => exact ⟨trivial, confined⟩
  | array items =>
    rw [ofJson]
    exact ⟨confined.grown, ofItems_confined items blank confined.grown 1⟩
  | object members =>
    rw [ofJson]
    exact ⟨confined.grown, ofMembers_confined members blank confined.grown⟩

/-- Items fill a table made for them, which stays confined. -/
theorem ofItems_confined (items : List Json.Value) {h : Heap} (confined : base.Confines p h)
    {t : TableRef} (made : base.Made t) (i : Nat) : base.Confines p (ofItems h t i items) := by
  cases items with
  | nil =>
    rw [ofItems]
    exact confined
  | cons v rest =>
    obtain ⟨value, confined⟩ := ofJson_confined v confined
    rw [ofItems]
    exact ofItems_confined rest (confined.set made (Key.within_integer _) value) made (i + 1)

/-- Members fill a table made for them, which stays confined. -/
theorem ofMembers_confined (members : Json.Members) {h : Heap} (confined : base.Confines p h)
    {t : TableRef} (made : base.Made t) : base.Confines p (ofMembers h t members) := by
  cases members with
  | nil =>
    rw [ofMembers]
    exact confined
  | cons m rest =>
    obtain ⟨name, v⟩ := m
    obtain ⟨value, confined⟩ := ofJson_confined v confined
    rw [ofMembers]
    exact ofMembers_confined rest (confined.set made (Key.within_ofText _) value) made

end

end Conversion

namespace Sandbox

/-- The functions that no chunk sees: those that load code, and the table of all globals. -/
def withheld : List String := ["dofile", "loadfile", "load", "require", "collectgarbage", "_G"]

/-- What is bound in the sandbox is as deep as an environment copies. -/
structure Stocked (leaves : TableRef → Prop) (s : Sandbox) : Prop where
  heap : s.world.heap.Shallow leaves
  methods : leaves s.world.heap.methods
  globals : s.globals.index < s.world.heap.tables.size
  bindings : s.bindings.index < s.world.heap.tables.size
  unshared : ¬leaves s.bindings
  apart : s.globals ≠ s.bindings
  safe : (s.world.heap.table s.globals).Lacks (· ∈ withheld)
  named : (s.world.heap.table s.bindings).Lacks (· ∉ s.aliases)

variable {leaves : TableRef → Prop} {s : Sandbox} {p : Prop}

/-- A table more, to which nothing refers yet. -/
theorem Stocked.grown (stocked : s.Stocked leaves) {heap : Heap}
    (shallow : heap.Shallow fun r => leaves r ∨ r.index = s.world.heap.tables.size)
    (confined : s.world.heap.Confines p heap) :
    Stocked (fun r => leaves r ∨ r.index = s.world.heap.tables.size)
      { s with world := { s.world with heap } } where
  heap := shallow
  methods := .inl (confined.methods ▸ stocked.methods)
  globals := Nat.lt_of_lt_of_le stocked.globals confined.grown
  bindings := Nat.lt_of_lt_of_le stocked.bindings confined.grown
  unshared leaf := leaf.elim stocked.unshared (Nat.ne_of_lt stocked.bindings)
  apart := stocked.apart
  safe := by
    dsimp only
    rw [confined.spared _ (Nat.not_le.mpr stocked.globals)]
    exact stocked.safe
  named := by
    dsimp only
    rw [confined.spared _ (Nat.not_le.mpr stocked.bindings)]
    exact stocked.named

/-- A name that is none of some and of one more is none of them and not the one. -/
theorem notMem_of_notMem_append {names : List String} {name other : String}
    (absent : other ∉ names ++ [name]) : other ∉ names ∧ name ≠ other := by
  simp only [List.mem_append, List.mem_singleton, not_or] at absent
  exact ⟨absent.1, Ne.symm absent.2⟩

/-- A binding of a value that an environment copies in full keeps the sandbox as deep. -/
theorem Stocked.bind (stocked : s.Stocked leaves) (name : String) {v : Lua.Value}
    (value : v.Isolable leaves) : (s.bind name v).1.Stocked leaves := by
  unfold Sandbox.bind
  split
  · exact stocked
  · have shallow := stocked.heap.set (Key.plain_ofText name) value fun leaf =>
      absurd leaf stocked.unshared
    exact {
      heap := shallow
      methods := stocked.methods
      globals := (Heap.size_set ..).symm ▸ stocked.globals
      bindings := (Heap.size_set ..).symm ▸ stocked.bindings
      unshared := stocked.unshared
      apart := stocked.apart
      safe := by
        change ((s.world.heap.set s.bindings _ v).table s.globals).Lacks _
        rw [Heap.set, Heap.table_modifyTable, if_neg fun both => stocked.apart both.1]
        exact stocked.safe
      named := by
        change ((s.world.heap.set s.bindings _ v).table s.bindings).Lacks _
        rw [Heap.table_set_self stocked.bindings]
        exact (stocked.named.mono
          (fun _ key other absent => key other (notMem_of_notMem_append absent).1)
          (fun _ value => value) fun _ metatable => metatable).set
          (fun other absent => Key.ofText_ne (notMem_of_notMem_append absent).2) trivial }

/-- The entries are functions of a library and constants, which refer to no object of the heap. -/
def flatEntries (entries : List (String × Lua.Value)) : Prop :=
  ∀ e ∈ entries, e.2.Plain

/-- The string library refers to nothing. -/
theorem flat_stringEntries : flatEntries stringEntries := by
  simp only [flatEntries, stringEntries, List.forall_mem_map]
  exact fun _ _ => trivial

/-- The table library refers to nothing. -/
theorem flat_tableEntries : flatEntries tableEntries := by
  simp only [flatEntries, tableEntries, List.forall_mem_map]
  exact fun _ _ => trivial

/-- The mathematical library refers to nothing. -/
theorem flat_mathEntries : flatEntries mathEntries := by
  simp only [flatEntries, mathEntries, List.forall_mem_append, List.forall_mem_map,
    List.forall_mem_cons]
  exact ⟨fun _ _ => trivial, trivial, trivial, trivial, trivial, nofun⟩

/-- The UTF-8 library refers to nothing. -/
theorem flat_utf8Entries : flatEntries utf8Entries := by
  simp only [flatEntries, utf8Entries, List.forall_mem_append, List.forall_mem_map,
    List.forall_mem_cons]
  exact ⟨fun _ _ => trivial, trivial, nofun⟩

/-- The helper library refers to nothing. -/
theorem flat_helperEntries : flatEntries helperEntries := by
  simp only [flatEntries, helperEntries, List.forall_mem_map]
  exact fun _ _ => trivial

/-- A new table of entries that refer to no table. -/
theorem tableOf_confined {base h : Heap} (confined : base.Confines p h)
    {entries : List (String × Lua.Value)} (flat : flatEntries entries) :
    base.Confines p (tableOf h entries).2 := by
  have filled (heap : Heap) (filling : base.Confines p heap) :
      base.Confines p (entries.foldl (fun g e => g.set ⟨h.tables.size⟩ (.ofText e.1) e.2) heap) := by
    induction entries generalizing heap with
    | nil => exact filling
    | cons e rest ih =>
      obtain ⟨value, others⟩ := List.forall_mem_cons.mp flat
      exact ih others _ (filling.set confined.grown (Key.within_ofText _) value.within)
  exact filled _ (confined.newTable Table.within_empty)

/-- A library next to those that are there. -/
theorem tableOf_next {n : Nat} (shallow : h.Shallow (·.index < n)) (size : h.tables.size = n)
    {entries : List (String × Lua.Value)} (flat : flatEntries entries) :
    (tableOf h entries).2.Shallow (·.index < n + 1) ∧
      (tableOf h entries).2.tables.size = n + 1 ∧ (tableOf h entries).1.index = n := by
  refine ⟨?_, by rw [size_tableOf, size], by rw [index_tableOf, size]⟩
  have more := tableOf_leaf shallow flat
  simp only [size, ← Nat.lt_succ_iff_lt_or_eq] at more
  exact more

/-- The globals of a new sandbox have none of the withheld names. -/
theorem safe_create (now : Int) (seed : UInt64) :
    ((create now seed).world.heap.table (create now seed).globals).Lacks (· ∈ withheld) := by
  have hashed : ∀ e ∈ ((create 0 0).world.heap.table (create 0 0).globals).hash.toList,
      e.1.rank = 1 ∧ ∀ name ∈ withheld, e.1 ≠ .ofText name := by decide +kernel
  have stored (k : Key) (v : Lua.Value)
      (found : ((create now seed).world.heap.table (create now seed).globals).hash[k]? = some v) :
      k.rank = 1 ∧ ∀ name ∈ withheld, k ≠ .ofText name :=
    hashed (k, v) (Std.TreeMap.mem_toList_iff_getElem?_eq_some.mpr found)
  exact ⟨fun n v found => absurd (stored _ v found).1 (by simp [Key.rank]), fun _ _ _ => nofun,
    trivial, fun _ _ => trivial, fun k v found => ⟨(stored k v found).2, trivial⟩,
    fun _ _ => trivial⟩

/-- A new sandbox has four libraries, then the table of the safe functions, and then that of the bound
values. -/
theorem exists_create (now : Int) (seed : UInt64) :
    ∃ (h : Heap) (entries : List (String × Lua.Value)) (strings : TableRef),
      h.Shallow (·.index < 4) ∧ h.tables.size = 4 ∧ strings.index < 4 ∧
      (∀ e ∈ entries, e.2.Isolable (·.index < 4)) ∧
      create now seed =
        { world :=
            { heap := { (tableOf (tableOf h entries).2 []).2 with methods := strings }, now,
              entropy := seed }
          globals := (tableOf h entries).1
          bindings := (tableOf (tableOf h entries).2 []).1 } := by
  have blank : Heap.Shallow (·.index < 0) {} :=
    ⟨nofun, nofun, fun _ => Table.flat_empty.shallow, rfl, rfl⟩
  unfold create
  obtain ⟨strings, size, first⟩ := tableOf_next blank rfl flat_stringEntries
  generalize tableOf {} stringEntries = made at strings size first ⊢
  obtain ⟨stringLibrary, h⟩ := made
  dsimp only at strings size first ⊢
  obtain ⟨tables, size, second⟩ := tableOf_next strings size flat_tableEntries
  generalize tableOf h tableEntries = made at tables size second ⊢
  obtain ⟨tableLibrary, h⟩ := made
  dsimp only at tables size second ⊢
  obtain ⟨math, size, third⟩ := tableOf_next tables size flat_mathEntries
  generalize tableOf h mathEntries = made at math size third ⊢
  obtain ⟨mathLibrary, h⟩ := made
  dsimp only at math size third ⊢
  obtain ⟨utf8, size, fourth⟩ := tableOf_next math size flat_utf8Entries
  generalize tableOf h utf8Entries = made at utf8 size fourth ⊢
  obtain ⟨utf8Library, h⟩ := made
  dsimp only at utf8 size fourth ⊢
  refine ⟨h, _, stringLibrary, utf8, size, by omega, ?_, rfl⟩
  simp only [globalEntries, List.forall_mem_append, List.forall_mem_map, List.forall_mem_cons]
  refine ⟨fun _ _ => trivial, trivial, ?_, ?_, ?_, ?_, nofun⟩ <;>
  · simp only [Lua.Value.Isolable]
    omega

/-- A new sandbox is as deep as an environment copies, and its tables without references are the
four of its libraries. Each library takes the next table. -/
theorem stocked_create (now : Int) (seed : UInt64) : (create now seed).Stocked (·.index < 4) := by
  have safe := safe_create now seed
  obtain ⟨h, entries, strings, libraries, size, first, values, created⟩ := exists_create now seed
  rw [created] at safe ⊢
  have globals := tableOf_shallow libraries values
  have bindings : (tableOf (tableOf h entries).2 []).2.Shallow (·.index < 4) :=
    tableOf_shallow globals nofun
  have fifth : (tableOf h entries).1.index = 4 := (index_tableOf h entries).trans size
  have grown : (tableOf h entries).2.tables.size = 5 := by rw [size_tableOf, size]
  have sixth : (tableOf (tableOf h entries).2 []).1.index = 5 := (index_tableOf _ []).trans grown
  have total : (tableOf (tableOf h entries).2 []).2.tables.size = 6 := by rw [size_tableOf, grown]
  have named : ((tableOf (tableOf h entries).2 []).2.table
      (tableOf (tableOf h entries).2 []).1).Lacks (· ∉ ([] : List String)) := by
    change (((tableOf h entries).2.newTable {}).2.table ((tableOf h entries).2.newTable {}).1).Lacks _
    rw [Heap.table_newTable_self]
    exact Table.lacks_empty
  exact {
    heap := ⟨bindings.bounded, bindings.flat, bindings.shallow, bindings.cells, bindings.closures⟩
    methods := first
    globals := by
      change (tableOf h entries).1.index < (tableOf (tableOf h entries).2 []).2.tables.size
      omega
    bindings := by
      change (tableOf (tableOf h entries).2 []).1.index <
        (tableOf (tableOf h entries).2 []).2.tables.size
      omega
    unshared := by
      change ¬(tableOf (tableOf h entries).2 []).1.index < 4
      omega
    apart same := by
      have : (tableOf h entries).1.index = (tableOf (tableOf h entries).2 []).1.index :=
        congrArg TableRef.index same
      omega
    safe := safe
    named := named }

/-- A piece of furniture. -/
inductive Furnishing where
  /-- A scalar or a table of scalars under a name. -/
  | value (name : String) (v : Json.Value) (flat : v.isFlat = true)
  /-- The helper library under a name. -/
  | helpers (directory : ModuleDirectory) (name : String)
  /-- Another instruction limit. -/
  | limit (instructions : Nat)

/-- The sandbox with one more piece of furniture. -/
def furnish (s : Sandbox) : Furnishing → Sandbox
  | .value name v _ => (s.bindJson name v).1
  | .helpers directory name => (s.load directory ⟨name, ModuleDirectory.helperModule⟩).2
  | .limit instructions => { s with instructionLimit := instructions }

/-- A scalar or a table of scalars under a name keeps the sandbox as deep as an environment
copies. -/
theorem Stocked.bindJson (stocked : s.Stocked leaves) (name : String) {v : Json.Value}
    (flat : v.isFlat = true) : ∃ leaves, (s.bindJson name v).1.Stocked leaves := by
  unfold Sandbox.bindJson
  split
  · exact ⟨leaves, stocked⟩
  · by_cases scalar : v.isScalar = true
    · obtain ⟨plain, same⟩ := Conversion.ofJson_scalar scalar s.world.heap
      dsimp only
      rw [same]
      exact ⟨leaves, stocked.bind name plain.isolable⟩
    · have table := stocked.heap.newLeaf Table.flat_empty
      have confined := (Conversion.ofJson_confined v
        (Heap.Confines.refl (p := False) stocked.heap.cells)).2
      cases v with
      | array items =>
        have shallow := Conversion.ofItems_shallow flat table ⟨s.world.heap.tables.size⟩ 1
        exact ⟨_, (stocked.grown shallow confined).bind name (.inr rfl)⟩
      | object members =>
        have shallow := Conversion.ofMembers_shallow flat table ⟨s.world.heap.tables.size⟩
        exact ⟨_, (stocked.grown shallow confined).bind name (.inr rfl)⟩
      | _ => exact absurd rfl scalar

/-- A note in the log keeps the sandbox as it is. -/
theorem Stocked.note (stocked : s.Stocked leaves) (level : LogLevel) (text : String) :
    (s.note level text).Stocked leaves :=
  ⟨stocked.heap, stocked.methods, stocked.globals, stocked.bindings, stocked.unshared,
    stocked.apart, stocked.safe, stocked.named⟩

/-- The values of a new table of the helpers. -/
theorem Stocked.load (stocked : s.Stocked leaves) (directory : ModuleDirectory) (name : String) :
    ∃ leaves, (s.load directory ⟨name, ModuleDirectory.helperModule⟩).2.Stocked leaves := by
  unfold Sandbox.load
  split
  · exact ⟨leaves, stocked.note _ _⟩
  · have shallow := tableOf_leaf stocked.heap flat_helperEntries
    have confined := tableOf_confined (Heap.Confines.refl (p := False) stocked.heap.cells)
      flat_helperEntries
    unfold ModuleDirectory.value
    rw [if_pos rfl]
    have lib : (Lua.Value.table (tableOf s.world.heap helperEntries).1).Isolable
        fun r => leaves r ∨ r.index = s.world.heap.tables.size := .inr rfl
    exact ⟨_, ((stocked.grown shallow confined).bind name lib).note _ _⟩

/-- Each piece of furniture keeps the sandbox as deep as an environment copies. -/
theorem Stocked.furnish (stocked : s.Stocked leaves) (f : Furnishing) :
    ∃ leaves, (s.furnish f).Stocked leaves := by
  cases f with
  | value name v flat => exact stocked.bindJson name flat
  | limit instructions =>
    exact ⟨leaves, stocked.heap, stocked.methods, stocked.globals, stocked.bindings,
      stocked.unshared, stocked.apart, stocked.safe, stocked.named⟩
  | helpers directory name => exact stocked.load directory name

end Sandbox

end TableSeed
