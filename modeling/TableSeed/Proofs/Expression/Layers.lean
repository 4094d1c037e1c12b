import TableSeed.Proofs.Expression.OwnTables

/-!
# The layers of an environment

A name stands in an environment for the record if it is the record's, else for the value that is bound
to it, and where that is nil for the safe function of the name. Tables stand there as copies with the
same entries, made for the environment.
-/

namespace TableSeed

open Lua (Heap TableRef Key Table)

namespace Lua

/-- The table has the entries and the metatable of another. -/
structure Table.CopyOf (t copy : Table) : Prop where
  metatable : copy.metatable = t.metatable
  entries : t.Fits → ∀ k, copy.get k = t.get k

/-- What an environment has for a value: of a table a copy made after the environment, which has the
entries of the table if that was there before, and any other value itself. -/
def Heap.Isolated (old new : Heap) (env : TableRef) : Value → Value → Prop
  | .table r, w => ∃ copy : TableRef, w = .table copy ∧ env.index < copy.index ∧
      copy.index < new.tables.size ∧
      (r.index < env.index → (old.table r).CopyOf (new.table copy))
  | v, w => w = v

/-- The heap has more tables than another, and those of the other but one are as they were. -/
structure Heap.Fills (env : TableRef) (h h' : Heap) : Prop where
  grown : h.tables.size ≤ h'.tables.size
  spared : ∀ r : TableRef, r.index < h.tables.size → r ≠ env → h'.table r = h.table r

namespace Heap

variable {env : TableRef} {old h h' h'' : Heap} {v w : Value}

/-- Nothing happens to a heap that stays. -/
theorem Fills.refl (env : TableRef) (h : Heap) : Fills env h h := ⟨Nat.le_refl _, fun _ _ _ => rfl⟩

/-- Tables stay as they were through one change after the other. -/
theorem Fills.trans (first : Fills env h h') (second : Fills env h' h'') : Fills env h h'' where
  grown := Nat.le_trans first.grown second.grown
  spared r inside other :=
    (second.spared r (Nat.lt_of_lt_of_le inside first.grown) other).trans (first.spared r inside other)

/-- A new table leaves the others as they were. -/
theorem fills_newTable (env : TableRef) (h : Heap) (t : Table) : Fills env h (h.newTable t).2 where
  grown := Nat.le_of_lt (Nat.lt_of_lt_of_eq (Nat.lt_succ_self _) (Array.size_push _).symm)
  spared r inside _ := by
    rw [table_newTable, if_neg (Nat.ne_of_lt inside)]

/-- A value in the environment leaves the other tables as they were. -/
theorem fills_set (h : Heap) (env : TableRef) (k : Key) (v : Value) : Fills env h (h.set env k v) where
  grown := Nat.le_of_eq (size_set ..).symm
  spared _ _ other := table_set_of_ne other ..

/-- The copies stay as they are while the environment is filled. -/
theorem Isolated.later (isolated : Isolated old h env v w) (fills : Fills env h h') :
    Isolated old h' env v w := by
  cases v with
  | table r =>
    obtain ⟨copy, isCopy, made, inside, entries⟩ := isolated
    have other : copy ≠ env := by
      rintro rfl
      exact Nat.lt_irrefl _ made
    exact ⟨copy, isCopy, made, Nat.lt_of_lt_of_le inside fills.grown,
      fun before => fills.spared copy inside other ▸ entries before⟩
  | _ => exact isolated

end Heap

end Lua

namespace Sandbox

variable {leaves : TableRef → Prop} {own old h : Heap} {s : Sandbox} {env : TableRef}

/-- The value that is bound to a name, and where that is nil the safe function of the name. -/
def visible (s : Sandbox) (name : String) : Lua.Value :=
  if s.bound name = .nil then s.safe name else s.bound name

/-- An environment is being filled: the tables that were there before it are as they were. -/
structure Filling (old : Heap) (env : TableRef) (h : Heap) : Prop where
  places : ∀ r, (old.table r).Apart
  spared : ∀ r : TableRef, r.index < env.index → h.table r = old.table r
  inside : env.index < h.tables.size
  sound : (h.table env).Sound

/-- The copy of a table is a table made after the environment, with the entries of the table. -/
theorem copyTable_copyOf (filling : Filling old env h) (r : TableRef) :
    Lua.Heap.Isolated old (copyTable h r).2 env (.table r) (.table (copyTable h r).1) := by
  refine ⟨(copyTable h r).1, rfl, filling.inside, ?_, fun before => ?_⟩
  · exact Nat.lt_of_lt_of_eq (Nat.lt_succ_self _) (Array.size_push _).symm
  · have copied : (copyTable h r).2.table (copyTable h r).1 =
        { (h.table r).entries.foldl (fun (copy : Table) e => copy.set e.1 e.2) {} with
          metatable := (h.table r).metatable } := Heap.table_newTable_self ..
    rw [copied, filling.spared r before]
    refine ⟨rfl, fun fits k => ?_⟩
    rw [← Table.get_foldl_set ⟨filling.places r, fits⟩ k]
    cases k <;> rfl

/-- Isolating a value leaves the environment as it is. -/
theorem isolate_isolated (filling : Filling old env h) (v : Lua.Value) :
    Lua.Heap.Isolated old (isolate h v).2 env v (isolate h v).1 ∧
      Heap.Fills env h (isolate h v).2 ∧ (isolate h v).2.table env = h.table env := by
  cases v with
  | table r =>
    exact ⟨copyTable_copyOf filling r, Heap.fills_newTable .., (table_copyTable h r filling.inside).1⟩
  | _ => exact ⟨rfl, .refl .., rfl⟩

/-- What is made while an environment is filled leaves it being filled. -/
theorem Filling.later {h' : Heap} (filling : Filling old env h) (fills : Heap.Fills env h h')
    (sound : (h'.table env).Sound) : Filling old env h' where
  places := filling.places
  spared r before :=
    (fills.spared r (Nat.lt_trans before filling.inside)
      (fun same => Nat.lt_irrefl _ (same ▸ before))).trans (filling.spared r before)
  inside := Nat.lt_of_lt_of_le filling.inside fills.grown
  sound := sound

/-- An entry, isolated, in the environment. -/
theorem Filling.addEntry (filling : Filling old env h) (k : Key) (v : Lua.Value) :
    let after := (isolate h v).2.set env k (isolate h v).1
    Heap.Fills env h after ∧ Filling old env after ∧
      Lua.Heap.Isolated old after env v (isolate h v).1 ∧
      ∀ k', (after.table env).get k' = if k' = k then (isolate h v).1 else (h.table env).get k' := by
  obtain ⟨isolated, fills, same⟩ := isolate_isolated filling v
  have inside : env.index < (isolate h v).2.tables.size := Nat.lt_of_lt_of_le filling.inside fills.grown
  have put := Heap.fills_set (isolate h v).2 env k (isolate h v).1
  have table := Heap.table_set_self inside k (isolate h v).1
  rw [same] at table
  refine ⟨fills.trans put, filling.later (fills.trans put) ?_, isolated.later put, fun k' => ?_⟩
  · rw [table]
    exact filling.sound.set _ _
  · rw [table, Table.get_set filling.sound]

/-- Entries with different keys, isolated, one after the other. -/
theorem Filling.addAll (filling : Filling old env h) {entries : List (Key × Lua.Value)}
    (distinct : (entries.map Prod.fst).Nodup) :
    let after := entries.foldl (fun h e => (isolate h e.2).2.set env e.1 (isolate h e.2).1) h
    Heap.Fills env h after ∧ Filling old env after ∧ ∀ k,
      (∀ v, (k, v) ∈ entries → Lua.Heap.Isolated old after env v ((after.table env).get k)) ∧
        ((∀ v, (k, v) ∉ entries) → (after.table env).get k = (h.table env).get k) := by
  induction entries generalizing h with
  | nil => exact ⟨.refl .., filling, fun k => ⟨nofun, fun _ => rfl⟩⟩
  | cons e rest ih =>
    obtain ⟨key, value⟩ := e
    rw [List.map_cons, List.nodup_cons] at distinct
    obtain ⟨put, filling, isolated, get⟩ := filling.addEntry key value
    obtain ⟨fills, filling, found⟩ := ih filling distinct.2
    refine ⟨put.trans fills, filling, fun k => ⟨fun v mem => ?_, fun absent => ?_⟩⟩
    · rcases List.mem_cons.mp mem with here | there
      · cases here
        have absent : ∀ w, (key, w) ∉ rest := fun w mem =>
          distinct.1 (List.mem_map.mpr ⟨_, mem, rfl⟩)
        have kept := (found key).2 absent
        rw [get key, if_pos rfl] at kept
        exact kept.symm ▸ isolated.later fills
      · exact (found k).1 v there
    · have other : k ≠ key := by
        rintro rfl
        exact absent value (List.mem_cons_self ..)
      refine ((found k).2 fun w mem => absent w (List.mem_cons_of_mem _ mem)).trans ?_
      rw [get k, if_neg other]

/-- The entries of a table that was there before: where it has one, the environment has its value, and
elsewhere what it had. -/
theorem Filling.addEntries (filling : Filling old env h) {source : TableRef}
    (before : source.index < env.index) (fits : (old.table source).Fits) :
    let after := addEntries h env source
    Heap.Fills env h after ∧ Filling old env after ∧ ∀ k,
      ((old.table source).get k ≠ .nil →
        Lua.Heap.Isolated old after env ((old.table source).get k) ((after.table env).get k)) ∧
      ((old.table source).get k = .nil → (after.table env).get k = (h.table env).get k) := by
  have entry {e : Key × Lua.Value} := Table.mem_entries_iff (filling.places source) fits (e := e)
  obtain ⟨fills, after, found⟩ := filling.addAll (Table.nodup_entries (filling.places source) fits)
  rw [← filling.spared source before] at fills after found entry ⊢
  refine ⟨fills, after, fun k => ⟨fun used => ?_, fun unused => ?_⟩⟩
  · exact (found k).1 _ (entry.mpr ⟨rfl, Lua.Value.isNil_eq_false_iff.mpr used⟩)
  · refine (found k).2 fun v mem => ?_
    obtain ⟨value, used⟩ := entry.mp mem
    exact Lua.Value.isNil_eq_false_iff.mp used (value.symm.trans unused)

/-- The record over everything else. -/
theorem Filling.addRecord (filling : Filling old env h) (record : TableRef) {name : String}
    {v : Lua.Value} (isolated : Lua.Heap.Isolated old h env v ((h.table env).getText name)) :
    let after := (copyTable h record).2.set env (.ofText recordName) (.table (copyTable h record).1)
    Lua.Heap.Isolated old after env (if name = recordName then .table record else v)
      ((after.table env).getText name) := by
  obtain ⟨put, -, own, get⟩ := filling.addEntry (.ofText recordName) (.table record)
  dsimp only [isolate] at put own get ⊢
  rw [Table.getText, get]
  by_cases isRecord : name = recordName
  · rw [if_pos isRecord, if_pos (congrArg Key.ofText isRecord)]
    exact own
  · rw [if_neg isRecord, if_neg (Key.ofText_ne isRecord)]
    exact isolated.later put

/-- What a name stands for: the record if it is the record's name and there is one, else the value that
is bound to it, and where that is nil the safe function. -/
def denoted (s : Sandbox) (this : Option TableRef) (name : String) : Lua.Value :=
  match this with
  | some record => if name = recordName then .table record else s.visible name
  | none => s.visible name

/-- The safe functions and over them the bound values. -/
theorem Owns.filled (owns : s.Owns leaves own) :
    let env := (s.world.heap.newTable {}).1
    let after := addEntries (addEntries (s.world.heap.newTable {}).2 env s.globals) env s.bindings
    Filling s.world.heap env after ∧ ∀ name,
      Lua.Heap.Isolated s.world.heap after env (s.visible name) ((after.table env).getText name) := by
  have self := Heap.table_newTable_self s.world.heap {}
  have blank : Filling s.world.heap (s.world.heap.newTable {}).1 (s.world.heap.newTable {}).2 := {
    places := owns.apart_table
    spared := fun r before => (Heap.fills_newTable ⟨s.world.heap.tables.size⟩ _ {}).spared r before
      fun same => Nat.lt_irrefl _ (same ▸ before)
    inside := Nat.lt_of_lt_of_eq (Nat.lt_succ_self _) (Array.size_push _).symm
    sound := by
      rw [self]
      exact Table.sound_empty }
  obtain ⟨-, functions, safe⟩ := blank.addEntries owns.inside_globals owns.sound_globals.fits
  obtain ⟨fills, filling, bound⟩ := functions.addEntries owns.inside_bindings owns.sound_bindings.fits
  refine ⟨filling, fun name => ?_⟩
  rw [visible]
  split
  · rename_i unbound
    rw [Table.getText, (bound (.ofText name)).2 unbound]
    by_cases missing : s.safe name = .nil
    · rw [missing, (safe (.ofText name)).2 missing, self, Table.get_empty]
      rfl
    · exact ((safe (.ofText name)).1 missing).later fills
  · rename_i isBound
    exact (bound (.ofText name)).1 isBound

/-- In an environment a name has what it stands for. -/
theorem Owns.environment_denotes (owns : s.Owns leaves own) (this : Option TableRef) (name : String) :
    Lua.Heap.Isolated s.world.heap (s.environment this).2.world.heap (s.environment this).1
      (s.denoted this name)
      (((s.environment this).2.world.heap.table (s.environment this).1).getText name) := by
  obtain ⟨filling, visible⟩ := owns.filled
  rw [Sandbox.environment]
  cases this with
  | none =>
    dsimp only
    exact visible name
  | some record =>
    rw [denoted]
    dsimp only
    exact filling.addRecord record (visible name)

end Sandbox

end TableSeed
