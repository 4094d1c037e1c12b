import TableSeed.Proofs.Expression.Furnishing
import TableSeed.Proofs.Expression.Runs
import TableSeed.Proofs.Lua.MachineReach

/-!
# Isolation

A chunk runs in an environment of copies, so everything that it can change was made for it, and all of
that is dropped after it.
-/

namespace TableSeed

open Lua (Heap World TableRef Key Table Machine Meter FunctionBody)

namespace Sandbox

variable {leaves : TableRef → Prop} {base h : Heap} {s : Sandbox} {p : Prop}

section Environment

/-- Entries within reach keep a table within reach. -/
theorem foldl_set_within {R : Lua.Reach} (entries : List (Key × Lua.Value))
    (within : ∀ e ∈ entries, e.1.Within R ∧ e.2.Within R) {t : Table} (table : t.Within R) :
    (entries.foldl (fun t e => t.set e.1 e.2) t).Within R := by
  induction entries generalizing t with
  | nil => exact table
  | cons e rest ih =>
    obtain ⟨⟨key, value⟩, others⟩ := List.forall_mem_cons.mp within
    exact ih others (table.set key value)

/-- A copy of a table that refers to nothing older. -/
theorem copyTable_within (confined : base.Confines p h) {r : TableRef}
    (within : (h.table r).Within (base.reach p)) :
    base.Made (copyTable h r).1 ∧ base.Confines p (copyTable h r).2 := by
  have copied := foldl_set_within (h.table r).entries (fun e mem => within.mem_entries mem)
    Table.within_empty
  exact ⟨confined.grown, confined.newTable (copied.withMetatable within.metatable)⟩

/-- Copies of the value refer only to what was made since a heap, whenever they are made. -/
def CopiesWithin (base : Heap) (p : Prop) (v : Lua.Value) : Prop :=
  ∀ h, base.Confines p h →
    (isolate h v).1.Within (base.reach p) ∧ base.Confines p (isolate h v).2

/-- A table refers at most to what was made since, whenever it is looked at. -/
theorem copiesWithin_table {r : TableRef}
    (within : ∀ h, base.Confines p h → (h.table r).Within (base.reach p)) :
    CopiesWithin base p (.table r) := fun h confined => copyTable_within confined (within h confined)

/-- The copies of what was made since. -/
theorem copiesWithin_of_within {v : Lua.Value} (within : v.Within (base.reach p)) :
    CopiesWithin base p v := by
  intro h confined
  cases v with
  | table r => exact copyTable_within confined (confined.tables r within)
  | _ => exact ⟨within, confined⟩

/-- The copies of a value that refers to nothing but a table which refers to nothing. -/
theorem copiesWithin_of_isolable {v : Lua.Value} (flat : ∀ r, leaves r → (base.table r).Flat)
    (bounded : ∀ r, leaves r → r.index < base.tables.size) (isolable : v.Isolable leaves) :
    CopiesWithin base p v := by
  cases v with
  | table r =>
    refine copiesWithin_table fun h confined => ?_
    rw [confined.spared r (Nat.not_le.mpr (bounded r isolable))]
    exact (flat r isolable).within
  | _ => exact copiesWithin_of_within (Lua.Value.Plain.within isolable)

/-- The entries of the table refer only to what was made since, once they are isolated. -/
def AllCopyWithin (base : Heap) (p : Prop) (source : TableRef) : Prop :=
  ∀ h, base.Confines p h →
    ∀ e ∈ (h.table source).entries, e.1.Within (base.reach p) ∧ CopiesWithin base p e.2

/-- The entries of a table, isolated, in a new one. -/
theorem addEntries_within (confined : base.Confines p h) {env source : TableRef}
    (made : base.Made env) (isolates : AllCopyWithin base p source) :
    base.Confines p (addEntries h env source) := by
  have added (entries : List (Key × Lua.Value))
      (within : ∀ e ∈ entries, e.1.Within (base.reach p) ∧ CopiesWithin base p e.2) (h : Heap)
      (confined : base.Confines p h) :
      base.Confines p (entries.foldl (fun h e => (isolate h e.2).2.set env e.1 (isolate h e.2).1) h) := by
    induction entries generalizing h with
    | nil => exact confined
    | cons e rest ih =>
      obtain ⟨⟨key, value⟩, others⟩ := List.forall_mem_cons.mp within
      obtain ⟨isolated, confined⟩ := value h confined
      exact ih others _ (confined.set made key isolated)
  exact added _ (isolates h confined) h confined

/-- The clock stands still while an environment is made. -/
theorem now_environment (s : Sandbox) (this : Option TableRef) :
    (s.environment this).2.world.now = s.world.now := rfl

/-- A fresh environment is made of copies. -/
theorem environment_within (confined : base.Confines p s.world.heap)
    (globals : AllCopyWithin base p s.globals) (bindings : AllCopyWithin base p s.bindings)
    {this : Option TableRef}
    (record : ∀ r, this = some r → ∀ h, base.Confines p h → (h.table r).Within (base.reach p)) :
    base.Made (s.environment this).1 ∧ base.Confines p (s.environment this).2.world.heap := by
  have made : base.Made (s.world.heap.newTable {}).1 := confined.grown
  have empty := confined.newTable Table.within_empty
  have bound := addEntries_within (addEntries_within empty made globals) made bindings
  rw [environment]
  refine ⟨made, ?_⟩
  cases this with
  | none =>
    dsimp only
    exact bound
  | some r =>
    dsimp only
    obtain ⟨copy, confined⟩ := copyTable_within bound (record r rfl _ bound)
    exact confined.set made (Key.within_ofText _) copy

/-- The entries of an older table in a heap of tables that are as deep as an environment copies. -/
theorem allCopyWithin_of_shallow (shallow : base.Shallow leaves) {source : TableRef}
    (older : ¬base.Made source) : AllCopyWithin base p source := by
  intro h confined e mem
  rw [confined.spared source older] at mem
  obtain ⟨key, value⟩ := (shallow.shallow source).mem_entries mem
  exact ⟨Lua.Value.Plain.within key, copiesWithin_of_isolable shallow.flat shallow.bounded value⟩

/-- A fresh environment in a stocked sandbox. -/
theorem environment_confined (stocked : s.Stocked leaves) {this : Option TableRef}
    (record : ∀ r, this = some r → leaves r) :
    s.world.heap.Made (s.environment this).1 ∧
      s.world.heap.Confines p (s.environment this).2.world.heap := by
  refine environment_within (.refl stocked.heap.cells)
    (allCopyWithin_of_shallow stocked.heap (Nat.not_le.mpr stocked.globals))
    (allCopyWithin_of_shallow stocked.heap (Nat.not_le.mpr stocked.bindings)) fun r isThis h confined => ?_
  have leaf := record r isThis
  rw [confined.spared r (Nat.not_le.mpr (stocked.heap.bounded r leaf))]
  exact (stocked.heap.flat r leaf).within

/-- Copying a table leaves the tables that are there. -/
theorem table_copyTable (h : Heap) (source : TableRef) {r : TableRef}
    (inside : r.index < h.tables.size) :
    (copyTable h source).2.table r = h.table r ∧ r.index < (copyTable h source).2.tables.size :=
  ⟨(Heap.table_newTable ..).trans (if_neg (Nat.ne_of_lt inside)),
    Nat.lt_of_lt_of_eq (Nat.lt_succ_of_lt inside) (Array.size_push _).symm⟩

/-- A value is copied beside the tables that were there, which stay as they are. -/
theorem table_isolate (h : Heap) (v : Lua.Value) {r : TableRef} (inside : r.index < h.tables.size) :
    (isolate h v).2.table r = h.table r ∧ r.index < (isolate h v).2.tables.size := by
  cases v with
  | table source => exact table_copyTable h source inside
  | _ => exact ⟨rfl, inside⟩

/-- Entries without certain texts add none of them. -/
theorem addEntries_lacks {absent : String → Prop} {env source : TableRef}
    (inside : env.index < h.tables.size) (lacks : (h.table env).Lacks absent)
    (others : (h.table source).Lacks absent) :
    ((addEntries h env source).table env).Lacks absent ∧
      env.index < (addEntries h env source).tables.size := by
  have added (entries : List (Key × Lua.Value))
      (keys : ∀ e ∈ entries, ∀ name, absent name → e.1 ≠ .ofText name) (h : Heap)
      (inside : env.index < h.tables.size) (lacks : (h.table env).Lacks absent) :
      let after := entries.foldl (fun h e => (isolate h e.2).2.set env e.1 (isolate h e.2).1) h
      (after.table env).Lacks absent ∧ env.index < after.tables.size := by
    induction entries generalizing h with
    | nil => exact ⟨lacks, inside⟩
    | cons e rest ih =>
      obtain ⟨key, keys⟩ := List.forall_mem_cons.mp keys
      obtain ⟨same, inside⟩ := table_isolate h e.2 inside
      refine ih keys _ ((Heap.size_set ..).symm ▸ inside) ?_
      dsimp only
      rw [Heap.table_set_self inside, same]
      exact lacks.set key trivial
  exact added _ (fun e mem => (others.mem_entries mem).1) h inside lacks

/-- An environment has none of the functions that load code, unless something else is bound to the
name. -/
theorem environment_lacks (stocked : s.Stocked leaves) {this : Option TableRef} {name : String}
    (isWithheld : name ∈ withheld) (unbound : name ∉ s.aliases) :
    ((s.environment this).2.world.heap.table (s.environment this).1).getText name = .nil := by
  have other : name ≠ recordName := by
    rintro rfl
    exact absurd isWithheld (by decide)
  have made : s.world.heap.Made (s.world.heap.newTable {}).1 := Nat.le_refl _
  have empty := (Heap.Confines.refl (p := False) stocked.heap.cells).newTable Table.within_empty
  have functions := addEntries_within empty made
    (allCopyWithin_of_shallow stocked.heap (Nat.not_le.mpr stocked.globals))
  have older (r : TableRef) (old : r.index < s.world.heap.tables.size) :=
    functions.spared r (Nat.not_le.mpr old)
  have blank : ((s.world.heap.newTable {}).2.table (s.world.heap.newTable {}).1).Lacks (· = name) := by
    rw [Heap.table_newTable_self]
    exact Table.lacks_empty
  have globals : ((s.world.heap.newTable {}).2.table s.globals).Lacks (· = name) := by
    rw [empty.spared _ (Nat.not_le.mpr stocked.globals)]
    exact stocked.safe.mono (fun _ key other same => key other (same ▸ isWithheld))
      (fun _ value => value) fun _ metatable => metatable
  obtain ⟨lacks, inside⟩ := addEntries_lacks
    (Nat.lt_of_lt_of_eq (Nat.lt_succ_self _) (Array.size_push _).symm) blank globals
  have bindings : ((addEntries (s.world.heap.newTable {}).2 (s.world.heap.newTable {}).1
      s.globals).table s.bindings).Lacks (· = name) := by
    rw [older _ stocked.bindings]
    exact stocked.named.mono (fun _ key other same => key other (same ▸ unbound))
      (fun _ value => value) fun _ metatable => metatable
  obtain ⟨lacks, inside⟩ := addEntries_lacks inside lacks bindings
  suffices lacks : ((s.environment this).2.world.heap.table (s.environment this).1).Lacks (· = name)
    from lacks.getText rfl
  rw [environment]
  cases this with
  | none =>
    dsimp only
    exact lacks
  | some r =>
    obtain ⟨same, inside⟩ := table_copyTable _ r inside
    rw [← same] at lacks
    dsimp only
    rw [Heap.table_set_self inside]
    exact Table.Holds.set lacks (fun _ isName => Key.ofText_ne (isName ▸ other.symm)) trivial

end Environment

/-- The machine that evaluates an expression is confined to what is made for it. -/
theorem evaluation_confined (stocked : s.Stocked leaves) {this : Option TableRef}
    (record : ∀ r, this = some r → leaves r) (body : FunctionBody) :
    (s.evaluation body this).Confined s.world p := by
  obtain ⟨made, confined⟩ := environment_confined stocked record
  have now := now_environment s this
  rw [evaluation]
  generalize s.environment this = created at made confined now ⊢
  exact ⟨⟨fun _ mem => absurd mem List.not_mem_nil, (confined.newCell (v := .table _) made).newClosure _, now⟩,
    trivial, Lua.Value.allWithin_nil⟩

/-- The string methods of such a sandbox refer to no table. -/
theorem Stocked.based (stocked : s.Stocked leaves) : s.world.Based :=
  fun _ => (stocked.heap.flat _ stocked.methods).within

/-- However far it comes, it stays confined. -/
theorem after_confined (stocked : s.Stocked leaves) {this : Option TableRef}
    (record : ∀ r, this = some r → leaves r) (body : FunctionBody) (k : Nat) :
    ((s.evaluation body this).after k).Confined s.world True :=
  (evaluation_confined stocked record body).after stocked.based k (.inl trivial)

section Release

/-- What lies within the tables of a heap without closures is covered by its mark. -/
theorem covers_of_isolable {m : Mark} {v : Lua.Value} (isolable : v.Isolable leaves)
    (bounded : ∀ r, leaves r → r.index < m.tables) : m.covers v = true := by
  cases v with
  | table r => exact decide_eq_true (bounded r isolable)
  | closure r => exact isolable.elim
  | builtin f =>
    cases f with
    | gmatchStep state => exact isolable.elim
    | _ => rfl
  | _ => rfl

/-- A table that refers at most to tables from before a mark is covered by the mark. -/
theorem coversTable_of_shallow {m : Mark} {t : Table} (shallow : t.Shallow leaves)
    (bounded : ∀ r, leaves r → r.index < m.tables) : m.coversTable t = true := by
  have covered (entries : List (Key × Lua.Value))
      (values : ∀ e ∈ entries, e.1.Plain ∧ e.2.Isolable leaves) :
      entries.foldl (fun all e => all && m.covers e.1.toValue && m.covers e.2) true = true := by
    induction entries with
    | nil => rfl
    | cons e rest ih =>
      obtain ⟨⟨key, value⟩, others⟩ := List.forall_mem_cons.mp values
      rw [List.foldl_cons, covers_of_isolable (Lua.Value.Plain.isolable key) bounded,
        covers_of_isolable value bounded]
      exact ih others
  simp only [Mark.coversTable, Bool.and_eq_true, Array.all_eq_true,
    Std.TreeMap.foldl_eq_foldl_toList]
  refine ⟨⟨?_, fun i inside => ?_⟩, covered _ fun e mem => ?_⟩
  · cases found : t.metatable with
    | none => rfl
    | some r => exact (shallow.metatable r found).elim
  · exact covers_of_isolable (shallow.array _ (Array.getElem_mem inside)) bounded
  · exact shallow.hash e.1 e.2 (Std.TreeMap.mem_toList_iff_getElem?_eq_some.mp mem)

/-- Nothing made before refers to what was made since. -/
theorem seals_of_confined (shallow : base.Shallow leaves) (confined : base.Confines p h) :
    (Mark.of base).seals h = true := by
  have none : base.cells.size = 0 ∧ base.closures.size = 0 := by
    rw [shallow.cells, shallow.closures]
    exact ⟨rfl, rfl⟩
  simp only [Mark.seals, Mark.of, Bool.and_eq_true, Array.all_iff_forall, none]
  refine ⟨⟨fun i inside before => ?_, by simp⟩, by simp⟩
  have spared := confined.spared ⟨i⟩ (Nat.not_le.mpr before.2)
  have table : h.tables[i] = h.table ⟨i⟩ := by
    simp [Heap.table, Array.getD_eq_getD_getElem?, inside]
  rw [table, spared]
  exact coversTable_of_shallow (shallow.shallow _) shallow.bounded

/-- What was made since is dropped, and the heap is as it was. -/
theorem release_of_confined (shallow : base.Shallow leaves) (confined : base.Confines p h) :
    release (Mark.of base) h = base := by
  have tables : h.tables.shrink base.tables.size = base.tables := by
    refine Array.ext ?_ fun i before inside => ?_
    · rw [Array.size_shrink]
      exact Nat.min_eq_left confined.grown
    · have spared := confined.spared ⟨i⟩ (Nat.not_le.mpr inside)
      simpa [Heap.table, Array.getD_eq_getD_getElem?, inside,
        Nat.lt_of_lt_of_le inside confined.grown] using spared
  rw [release, if_pos (seals_of_confined shallow confined)]
  obtain ⟨tables₀, cells₀, closures₀, methods₀⟩ := base
  obtain rfl : cells₀ = #[] := shallow.cells
  obtain rfl : closures₀ = #[] := shallow.closures
  have methods : h.methods = methods₀ := confined.methods
  have cells : h.cells.shrink 0 = #[] := Array.eq_empty_of_size_eq_zero (by simp)
  have closures : h.closures.shrink 0 = #[] := Array.eq_empty_of_size_eq_zero (by simp)
  exact congr (congr (congr (congrArg Heap.mk tables) cells) closures) methods

end Release

/-- The sandboxes differ at most in their logs, in their random numbers and in the interval that a
chunk goes on with. -/
structure Alike (s t : Sandbox) : Prop where
  heap : t.world.heap = s.world.heap
  now : t.world.now = s.world.now
  globals : t.globals = s.globals
  bindings : t.bindings = s.bindings
  aliases : t.aliases = s.aliases
  instructionLimit : t.instructionLimit = s.instructionLimit

/-- Each sandbox is like itself. -/
theorem Alike.refl (s : Sandbox) : s.Alike s := ⟨rfl, rfl, rfl, rfl, rfl, rfl⟩

/-- A sandbox that is like one that is like a third is like the third. -/
theorem Alike.trans {s t u : Sandbox} (first : s.Alike t) (second : t.Alike u) : s.Alike u :=
  ⟨second.heap.trans first.heap, second.now.trans first.now, second.globals.trans first.globals,
    second.bindings.trans first.bindings, second.aliases.trans first.aliases,
    second.instructionLimit.trans first.instructionLimit⟩

/-- Nothing else differs. -/
theorem Alike.eq {s t : Sandbox} (alike : s.Alike t) :
    t = { s with
      world := { s.world with log := t.world.log, entropy := t.world.entropy }
      intervalLeft := t.intervalLeft } := by
  obtain ⟨⟨heap, log, now, entropy⟩, globals, bindings, aliases, limit, left⟩ := t
  obtain ⟨rfl, rfl, rfl, rfl, rfl, rfl⟩ := alike
  rfl

/-- A sandbox that is like one as deep as an environment copies is as deep. -/
theorem Stocked.alike {t : Sandbox} (stocked : s.Stocked leaves) (alike : s.Alike t) :
    t.Stocked leaves where
  heap := alike.heap ▸ stocked.heap
  methods := alike.heap ▸ stocked.methods
  globals := alike.globals ▸ alike.heap ▸ stocked.globals
  bindings := alike.bindings ▸ alike.heap ▸ stocked.bindings
  unshared := alike.bindings ▸ stocked.unshared
  apart := alike.globals ▸ alike.bindings ▸ stocked.apart
  safe := by
    rw [alike.heap, alike.globals]
    exact stocked.safe
  named := by
    rw [alike.heap, alike.bindings, alike.aliases]
    exact stocked.named

/-- However far a chunk comes, everything that it has not made is as it was. -/
theorem resumed_alike (stocked : s.Stocked leaves) {this : Option TableRef}
    (record : ∀ r, this = some r → leaves r) (body : FunctionBody) (k : Nat) :
    s.Alike (s.resumed ((s.evaluation body this).after k)) := by
  have confined := after_confined stocked record body k
  exact ⟨release_of_confined stocked.heap confined.world.heap, confined.world.now, rfl, rfl, rfl, rfl⟩

/-- A chunk leaves everything that it has not made as it was. -/
theorem evaluate_alike (stocked : s.Stocked leaves) {this : Option TableRef}
    (record : ∀ r, this = some r → leaves r) (source : String) :
    s.Alike (s.evaluate source this).2 := by
  cases compiled : compile (SelfReference.rewrite source) with
  | error e =>
    obtain ⟨-, confined⟩ := environment_confined (p := True) stocked record
    have released := release_of_confined stocked.heap confined
    rw [evaluate_of_fault compiled]
    exact ⟨released, rfl, rfl, rfl, rfl, rfl⟩
  | ok body =>
    rw [evaluate_snd_of_compile compiled]
    exact resumed_alike stocked record body _

/-- The evaluations of alike sandboxes differ in nothing else. -/
theorem evaluation_alike {t : Sandbox} (alike : s.Alike t) (body : FunctionBody)
    (this : Option TableRef) :
    t.evaluation body this =
      { s.evaluation body this with
        world := { (s.evaluation body this).world with log := t.world.log, entropy := t.world.entropy }
        meter := .start t.intervalLeft s.instructionLimit } := by
  rw [alike.eq]
  rfl

/-- The result of an expression in alike sandboxes: it is the same if the next interval ends at the same
instruction or the expression stays within its budget, and if the random numbers are the same or
none is drawn. -/
theorem evaluate_fst_alike {t : Sandbox} (alike : s.Alike t) (source : String)
    (this : Option TableRef)
    (phase : ∀ body, compile (SelfReference.rewrite source) = .ok body →
      t.intervalLeft = s.intervalLeft ∨ ∀ k, (s.evaluation body this).counted k ≤
        Meter.ticksFor s.instructionLimit * Meter.interval)
    (draws : ∀ body, compile (SelfReference.rewrite source) = .ok body →
      t.world.entropy = s.world.entropy ∨
        ∀ k, ((s.evaluation body this).after k).control.Drawless) :
    (t.evaluate source this).1 = (s.evaluate source this).1 := by
  cases compiled : compile (SelfReference.rewrite source) with
  | error e => rw [evaluate_of_fault compiled, evaluate_of_fault compiled]
  | ok body =>
    have phase := phase body compiled
    have draws := draws body compiled
    have other := evaluation_alike alike body this
    have meter := s.meter_evaluation body this
    have entropy : (s.evaluation body this).world.entropy = s.world.entropy := rfl
    rw [evaluate_fst_of_compile compiled, evaluate_fst_of_compile compiled]
    generalize s.evaluation body this = m at phase draws other meter entropy ⊢
    have agree : ∀ k, (m.after k).control.isCounted = true →
        ((Meter.start t.intervalLeft s.instructionLimit).spend (m.counted k)).count.2 =
          (m.meter.spend (m.counted k)).count.2 := by
      intro k isCounted
      rw [meter]
      rcases phase with equal | within
      · rw [equal]
      · have next := within (k + 1)
        rw [Machine.counted, if_pos isCounted] at next
        rw [Meter.passed_of_within _ _ next, Meter.passed_of_within _ _ next]
    rw [← entropy] at draws
    obtain ⟨outcome, heap⟩ := m.run_elsewhere t.world.log t.world.entropy _ draws agree maxSteps
    rw [other, outcome, heap]

end Sandbox

end TableSeed
