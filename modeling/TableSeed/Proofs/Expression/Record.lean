import TableSeed.Proofs.Expression.RoundTrip
import TableSeed.Proofs.Expression.Runs

/-!
# The record that an expression sees

Every expression finds the record that it stands in under one name of its environment. The table there
is a copy of the one that was made of the record, so it has the same members, and the expression that
is just the name gives the record back, up to the order of members.
-/

namespace TableSeed

open Lua (Heap Machine Meter FunctionBody TableRef CellRef ClosureRef Key Table World)
open Json (Members)

namespace Sandbox

section Reading

/-- The body of a source that is a name which no variable has. -/
def reading (name : String) : FunctionBody :=
  .mk 0 true [.give [.index (.var 0 "_ENV") (.const (.ofText name)) 1]]

/-- The name of the record is Lua, and reads the variable of that name. -/
theorem compile_recordName :
    compile (SelfReference.rewrite recordName) = .ok (reading recordName) := rfl

/-- An action that is done asks nothing of a world. -/
theorem perform_done {α : Type} (a : α) (w : World) : w.perform (.done a) = (.done a, w) := rfl

/-- A request for the value under a key is answered by the table. -/
theorem perform_get {α : Type} (t : TableRef) (k : Key) (next : Lua.Value → Lua.Action α) (w : World) :
    w.perform (.ask (.get t k) next) = w.perform (next ((w.heap.table t).get k)) := rfl

/-- A table is asked for the value under a key, and for nothing else where it has one. -/
theorem index_table (t : TableRef) (name : String) :
    ∃ next, Lua.Value.index (.table t) (.ofText name) = .ask (.get t (.ofText name)) next ∧
      ∀ v, v ≠ .nil → next v = .done v := by
  have chain : Lua.Value.maxChain = 1999 + 1 := rfl
  rw [Lua.Value.index, chain]
  generalize 1999 = fuel
  refine ⟨_, rfl, fun v used => ?_⟩
  have isUsed : (!v.isNil) = true := by rw [Lua.Value.isNil_eq_false_iff.mpr used]; rfl
  exact if_pos isUsed

variable {world : World} {closure : ClosureRef} {cell : CellRef} {chunk name : String}
  {env : TableRef} {μ : Meter} {v : Lua.Value}

/-- What a machine comes to that reads a name. -/
theorem after_reading (hasClosure : world.heap.closure closure = ⟨reading name, [cell], chunk⟩)
    (hasCell : world.heap.cell cell = .table env)
    (found : (world.heap.table env).getText name = v) (used : v ≠ .nil)
    (within : ∀ n < 3, (μ.spend n).count.2 = none) :
    let m : Machine := ⟨.apply (.closure closure) [] .native, [], 0, 0, world, μ⟩
    (m.after 9).outcome? = some (.values [v]) ∧ (m.after 9).world = world := by
  intro m
  let e : Lua.Expr := .index (.var 0 "_ENV") (.const (.ofText name)) 1
  let vars : Lua.Env := ⟨[cell], [], chunk⟩
  let body : List Lua.Frame := [.block [.give [e]], .activation .native]
  let waiting : List Lua.Frame := .collect [] [] vars .give :: body
  let here : Lua.Place := ⟨vars.site 1, .native⟩
  obtain ⟨next, asks, answered⟩ := index_table env name
  have called : m.step = ⟨.exec [.give [e]] vars, body, 1, 0, world, μ.count.1⟩ := by
    refine (Machine.step_of_within rfl (within 0 (by decide))).trans ?_
    simp only [m, Machine.proceed, Machine.apply, Machine.callable, Machine.maxCallables, hasClosure]
    rfl
  have evaluated : Machine.step ⟨.exec [.give [e]] vars, body, 1, 0, world, μ.count.1⟩ =
      ⟨.eval e vars, waiting, 1, 0, world, μ.count.1⟩ := rfl
  have gathered : Machine.step ⟨.eval e vars, waiting, 1, 0, world, μ.count.1⟩ =
      ⟨.finish (.index 1) [.table env, .ofText name] vars, waiting, 1, 0, world, μ.count.1⟩ := by
    rw [← hasCell]
    rfl
  have indexed : Machine.step
      ⟨.finish (.index 1) [.table env, .ofText name] vars, waiting, 1, 0, world, μ.count.1⟩ =
      ⟨.act (.ask (.get env (.ofText name)) fun v => (next v).bind fun v => .done [v]) here, waiting,
        1, 0, world, (μ.spend 2)⟩ := by
    refine (Machine.step_of_within rfl (within 1 (by decide))).trans ?_
    simp only [Machine.proceed, Machine.finish, List.headD_cons, List.getD_cons_succ, List.getD_cons_zero,
      asks]
    rfl
  have answered : Machine.step
      ⟨.act (.ask (.get env (.ofText name)) fun v => (next v).bind fun v => .done [v]) here, waiting,
        1, 0, world, (μ.spend 2)⟩ = ⟨.signal (.deliver [v]), waiting, 1, 0, world, μ.spend 2⟩ := by
    have value : next ((world.heap.table env).get (.ofText name)) = .done v := by
      rw [← found] at used ⊢
      exact answered _ used
    have performed : world.perform (.ask (.get env (.ofText name)) fun v =>
        (next v).bind fun v => .done [v]) = (.done [v], world) := by
      rw [perform_get, value]
      exact perform_done [v] world
    rw [Machine.step]
    simp only [Machine.act, performed]
  have delivered : Machine.step ⟨.signal (.deliver [v]), waiting, 1, 0, world, μ.spend 2⟩ =
      ⟨.finish .give [v] vars, body, 1, 0, world, μ.spend 2⟩ := rfl
  have given : Machine.step ⟨.finish .give [v] vars, body, 1, 0, world, μ.spend 2⟩ =
      ⟨.signal (.give [v]), body, 1, 0, world, μ.spend 3⟩ :=
    Machine.step_of_within rfl (within 2 (by decide))
  have ended : m.after 9 = ⟨.signal (.deliver [v]), [], 0, 0, world, μ.spend 3⟩ := by
    rw [Machine.after_succ, called, Machine.after_succ, evaluated, Machine.after_succ, gathered,
      Machine.after_succ, indexed, Machine.after_succ, answered, Machine.after_succ, delivered,
      Machine.after_succ, given]
    rfl
  rw [ended]
  exact ⟨rfl, rfl⟩

/-- An expression that is just a name has the value of the name, and leaves all tables as they are. -/
theorem run_reading {s : Sandbox} (chunk : String)
    (found : (s.world.heap.table env).getText name = v) (used : v ≠ .nil) : ∃ m : Machine,
      (s.machine (reading name) chunk env).run maxSteps = (.values [v], m) ∧
        m.world.heap.tables = s.world.heap.tables := by
  let heap := (s.world.heap.newCell (.table env)).2
  let cell := (s.world.heap.newCell (.table env)).1
  let world : World := { s.world with heap := (heap.newClosure ⟨reading name, [cell], chunk⟩).2 }
  let closure := (heap.newClosure ⟨reading name, [cell], chunk⟩).1
  have hasClosure : world.heap.closure closure = ⟨reading name, [cell], chunk⟩ := by
    simp [world, closure, heap, Heap.closure, Heap.newClosure]
  have hasCell : world.heap.cell cell = .table env := by
    simp [world, cell, heap, Heap.cell, Heap.newCell, Heap.newClosure]
  have within : ∀ n < 3,
      ((Meter.start s.intervalLeft s.instructionLimit).spend n).count.2 = none := by
    intro n few
    have least : 1 ≤ Meter.ticksFor s.instructionLimit := Nat.le_max_left ..
    apply Meter.passed_of_within
    simp only [Meter.interval]
    omega
  obtain ⟨ended, same⟩ := after_reading hasClosure hasCell found used within
  exact ⟨_, Machine.run_of_outcome ended (by decide), congrArg (·.heap.tables) same⟩

end Reading

section Environments

variable {h : Heap} {env : TableRef} {s : Sandbox}

/-- Isolating a value leaves the tables as they were. -/
theorem fills_isolate (env : TableRef) (h : Heap) (v : Lua.Value) : Heap.Fills env h (isolate h v).2 := by
  cases v with
  | table r => exact Heap.fills_newTable ..
  | _ => exact .refl ..

/-- Filling an environment leaves every other table as it is. -/
theorem fills_addEntries (inside : env.index < h.tables.size) (sound : (h.table env).Sound)
    (source : TableRef) :
    Heap.Fills env h (addEntries h env source) ∧ ((addEntries h env source).table env).Sound := by
  rw [addEntries]
  induction (h.table source).entries generalizing h with
  | nil => exact ⟨.refl .., sound⟩
  | cons e rest ih =>
    have isolated := fills_isolate env h e.2
    have put := Heap.fills_set (isolate h e.2).2 env e.1 (isolate h e.2).1
    obtain ⟨same, inside⟩ := table_isolate h e.2 inside
    have table := Heap.table_set_self inside e.1 (isolate h e.2).1
    rw [same] at table
    obtain ⟨fills, after⟩ :=
      ih (Nat.lt_of_lt_of_le inside put.grown) (table ▸ sound.set e.1 (isolate h e.2).1)
    exact ⟨(isolated.trans put).trans fills, after⟩

/-- A copy of a table has its entries and its metatable. -/
theorem copyTable_copies {source : TableRef} (sound : (h.table source).Sound) :
    let copy := (copyTable h source).2.table (copyTable h source).1
    copy.Sound ∧ (h.table source).CopyOf copy := by
  have same : (copyTable h source).2.table (copyTable h source).1 =
      { (h.table source).entries.foldl (fun (copy : Table) e => copy.set e.1 e.2) {} with
        metatable := (h.table source).metatable } := Heap.table_newTable_self ..
  obtain ⟨copied, -⟩ := Table.get_foldl Table.set Table.Sound (fun t k v sound => sound.set k v)
    (fun t k v k' sound => Table.get_set sound k v k')
    (Table.nodup_entries sound.apart sound.fits) Table.sound_empty
  rw [same]
  refine ⟨⟨copied.apart, copied.fits⟩, rfl, fun fits k => ?_⟩
  rw [← Table.get_foldl_set sound k]
  cases k <;> rfl

/-- An environment is filled with the safe functions and the bound values. -/
theorem fills_environment (s : Sandbox) :
    let env := (s.world.heap.newTable {}).1
    let filled := addEntries (addEntries (s.world.heap.newTable {}).2 env s.globals) env s.bindings
    Heap.Fills env s.world.heap filled ∧ env.index < filled.tables.size ∧ (filled.table env).Sound := by
  have made := Heap.fills_newTable (s.world.heap.newTable {}).1 s.world.heap {}
  have blank := Heap.table_newTable_self s.world.heap {}
  have held : (s.world.heap.newTable {}).1.index < (s.world.heap.newTable {}).2.tables.size :=
    Nat.lt_of_lt_of_eq (Nat.lt_succ_self _) (Array.size_push _).symm
  have empty : ((s.world.heap.newTable {}).2.table (s.world.heap.newTable {}).1).Sound := by
    rw [blank]
    exact Table.sound_empty
  obtain ⟨functions, sound⟩ := fills_addEntries held empty s.globals
  have held := Nat.lt_of_lt_of_le held functions.grown
  obtain ⟨values, sound⟩ := fills_addEntries held sound s.bindings
  exact ⟨(made.trans functions).trans values, Nat.lt_of_lt_of_le held values.grown, sound⟩

/-- A copy of a table is put under a name of an environment. -/
theorem fills_record {this : TableRef} (held : env.index < h.tables.size) (sound : (h.table env).Sound)
    (soundThis : (h.table this).Sound) (name : String) :
    let copy := (copyTable h this).1
    let after := (copyTable h this).2.set env (.ofText name) (.table copy)
    Heap.Fills env h after ∧ (after.table env).getText name = .table copy ∧
      h.tables.size ≤ copy.index ∧ (after.table copy).Sound ∧ (h.table this).CopyOf (after.table copy) := by
  obtain ⟨soundCopy, copies⟩ := copyTable_copies soundThis
  have copied : Heap.Fills env h (copyTable h this).2 := Heap.fills_newTable ..
  have place : (copyTable h this).1.index = h.tables.size := rfl
  have inside : (copyTable h this).1.index < (copyTable h this).2.tables.size :=
    Nat.lt_of_lt_of_eq (Nat.lt_succ_self _) (Array.size_push _).symm
  obtain ⟨same, held'⟩ := table_copyTable h this held
  rw [← same] at sound
  generalize (copyTable h this).1 = copy at soundCopy copies place inside ⊢
  generalize (copyTable h this).2 = last at soundCopy copies copied inside held' sound ⊢
  have put := Heap.fills_set last env (.ofText name) (.table copy)
  have other : copy ≠ env := fun same => Nat.ne_of_lt held (same ▸ place)
  have kept : (last.set env (.ofText name) (.table copy)).table copy = last.table copy :=
    put.spared copy inside other
  refine ⟨copied.trans put, ?_, Nat.le_of_eq place.symm, kept ▸ soundCopy, kept ▸ copies⟩
  rw [Heap.table_set_self held', Table.getText, Table.get_set sound, if_pos rfl]

/-- The record of an environment is a copy of the table that is given for it, and the tables that were
there before stay as they are. -/
theorem environment_record {this : TableRef} (inside : this.index < s.world.heap.tables.size)
    (sound : (s.world.heap.table this).Sound) :
    let env := (s.environment (some this)).1
    let after := (s.environment (some this)).2.world.heap
    (∀ r : TableRef, r.index < s.world.heap.tables.size → after.table r = s.world.heap.table r) ∧
      ∃ copy : TableRef, (after.table env).getText recordName = .table copy ∧
        s.world.heap.tables.size ≤ copy.index ∧ (after.table copy).Sound ∧
        (s.world.heap.table this).CopyOf (after.table copy) := by
  obtain ⟨fills, held, soundEnv⟩ := fills_environment s
  have isNew : (s.world.heap.newTable {}).1.index = s.world.heap.tables.size := rfl
  rw [environment]
  dsimp only
  generalize (s.world.heap.newTable {}).1 = env at isNew fills held soundEnv ⊢
  generalize addEntries (addEntries _ env s.globals) env s.bindings = filled at fills held soundEnv ⊢
  have spared {h : Heap} (fills : Heap.Fills env s.world.heap h) (r : TableRef)
      (before : r.index < s.world.heap.tables.size) : h.table r = s.world.heap.table r :=
    fills.spared r before fun same => Nat.ne_of_lt before (same ▸ isNew)
  have source := spared fills this inside
  obtain ⟨put, named, above, soundCopy, copies⟩ :=
    fills_record held soundEnv (source ▸ sound) recordName
  rw [source] at copies
  exact ⟨spared (fills.trans put), _, named, fills.grown.trans above, soundCopy, copies⟩

end Environments

section Records

variable {s : Sandbox} {members : Members} {v : Json.Value}

/-- The table of a record, and the sandbox with it. -/
def withRecord (s : Sandbox) (members : Members) : TableRef × Sandbox :=
  let (this, heap) := Conversion.ofRecord s.world.heap members
  (this, { s with world := { s.world with heap } })

/-- The environment of an expression in a record, and the sandbox with it. -/
def recordEnvironment (s : Sandbox) (members : Members) : TableRef × Sandbox :=
  (s.withRecord members).2.environment (some (s.withRecord members).1)

/-- What an expression sees of the record that it stands in. -/
structure ShowsRecord (s : Sandbox) (members : Members) : Prop where
  /-- The table of a record is the one that the object of its members becomes. -/
  table : Conversion.ofJson s.world.heap (.object members) =
    (.table (s.withRecord members).1, (s.withRecord members).2.world.heap)
  /-- The record's name stands in the environment for a table with its members and nothing else. -/
  fields : ∃ copy : TableRef,
    let heap := (s.recordEnvironment members).2.world.heap
    (heap.table (s.recordEnvironment members).1).getText recordName = .table copy ∧
      Conversion.HoldsMembers heap (s.withRecord members).2.world.heap.tables.size
        s.world.heap.tables.size (heap.table copy) members
  /-- The expression that is just the name has the record for its value. -/
  value : Conversion.Returnable (.object members) → ∃ j,
    ((s.withRecord members).2.evaluate recordName (some (s.withRecord members).1)).1 = .ok j ∧
      (Json.Value.object members).Rearranged j

/-- A JSON value goes into the language as it is and comes back, and expressions see the record that it
is. -/
structure KeepsJson (s : Sandbox) (v : Json.Value) : Prop where
  carries : Conversion.Carries (Conversion.ofJson s.world.heap v).2
    (Conversion.ofJson s.world.heap v).2.tables.size s.world.heap.tables.size v
    (Conversion.ofJson s.world.heap v).1
  returns : Conversion.Returnable v → ∃ j,
    Conversion.toJson (Conversion.ofJson s.world.heap v).2 (Conversion.ofJson s.world.heap v).1 = .ok j ∧
      v.Rearranged j
  shows : ∀ members, v = .object members → s.ShowsRecord members

/-- In the environment of an expression the record's table is a copy. -/
theorem holdsMembers_recordEnvironment (given : Conversion.Given s.world.heap (.object members)) :
    ∃ copy : TableRef,
      let heap := (s.recordEnvironment members).2.world.heap
      (heap.table (s.recordEnvironment members).1).getText recordName = .table copy ∧
        (s.withRecord members).2.world.heap.tables.size ≤ copy.index ∧
        Conversion.HoldsMembers heap (s.withRecord members).2.world.heap.tables.size
          s.world.heap.tables.size (heap.table copy) members := by
  have carries : Conversion.Carries (s.withRecord members).2.world.heap
      (s.withRecord members).2.world.heap.tables.size s.world.heap.tables.size (.object members)
      (.table (s.withRecord members).1) := given.carries
  rw [recordEnvironment]
  generalize s.withRecord members = hosted at carries ⊢
  obtain ⟨this, t⟩ := hosted
  dsimp only at carries ⊢
  cases carries with
  | object low high sound plain each only =>
    obtain ⟨spared, copy, named, above, soundCopy, metatable, entries⟩ :=
      environment_record high sound
    have entries := entries sound.fits
    refine ⟨copy, named, above, soundCopy, metatable.trans plain, fun m mem => ?_, fun k used => ?_⟩
    · rw [Table.getText, entries]
      exact (each m mem).later (fun r _ inside => spared r inside) (Nat.le_refl _) (by omega)
    · rw [entries] at used
      exact only k used

/-- A table that holds the members of a record becomes the record. -/
theorem returns_record {h : Heap} {limit base : Nat} {copy : TableRef}
    (distinct : (Json.Value.object members).Distinct)
    (fits : (Json.Value.object members).Everywhere Conversion.FitsTable)
    (returnable : Conversion.Returnable (.object members)) (above : limit ≤ copy.index)
    (holds : Conversion.HoldsMembers h limit base (h.table copy) members) :
    ∃ j, Conversion.toJson h (.table copy) = .ok j ∧ (Json.Value.object members).Rearranged j := by
  obtain ⟨form, forms⟩ := Json.Value.everywhere_object_iff.mp returnable.forms
  have fits := (Json.Value.everywhere_object_iff.mp fits).2
  obtain ⟨names, distinct⟩ := distinct
  have distinct := (Json.Value.membersDistinct_iff members).mp distinct
  have nesting : Json.Value.membersNesting members ≤ 127 := Nat.le_of_succ_le_succ returnable.nesting
  have shallow := Json.Value.membersNesting_le_iff.mp nesting
  refine Conversion.returns_members List.not_mem_nil names form holds fun m mem => ?_
  refine Conversion.returns m.2 (distinct m mem) (fits m mem) (forms m mem) (shallow m mem)
    (holds.each m mem) fun r inside => .inr ?_
  obtain rfl := List.mem_singleton.mp inside
  exact above

/-- The expression that is just the record's name has the record for its value. -/
theorem evaluate_recordName {this copy : TableRef} {j : Json.Value}
    (named : ((s.environment (some this)).2.world.heap.table (s.environment (some this)).1).getText
      recordName = .table copy)
    (form : Conversion.toJson (s.environment (some this)).2.world.heap (.table copy) = .ok j) :
    (s.evaluate recordName (some this)).1 = .ok j := by
  obtain ⟨m, ran, tables⟩ := run_reading expressionChunk named nofun
  have value : result (.values [.table copy]) = .ok (.table copy) := rfl
  rw [Conversion.toJson, ← Conversion.toJsonWithin_congr tables] at form
  rw [evaluate_fst_of_compile compile_recordName, evaluation, ran, value, answer, Conversion.toJson, form]

/-- Every JSON value goes into the language as it is, and what the language can give back comes back. An
expression sees the raw record that it stands in. -/
theorem keepsJson (s : Sandbox) (v : Json.Value) (distinct : v.Distinct)
    (fits : v.Everywhere Conversion.FitsTable) : s.KeepsJson v := by
  have given := Conversion.given v distinct fits s.world.heap
  refine ⟨given.carries, fun returnable => ?_, ?_⟩
  · exact Conversion.returns v distinct fits returnable.forms returnable.nesting given.carries
      fun r inside => absurd inside List.not_mem_nil
  · rintro members rfl
    obtain ⟨copy, named, above, holds⟩ := holdsMembers_recordEnvironment given
    refine ⟨rfl, ⟨copy, named, holds⟩, fun returnable => ?_⟩
    obtain ⟨j, returned, same⟩ := returns_record distinct fits returnable above holds
    exact ⟨j, evaluate_recordName named returned, same⟩

/-- An object with numerals for names, an array of an integer and of a double, and an object inside. -/
def numbered : Json.Value :=
  .object [("2", .array [.number (.ofUInt32 1), .number (.double ⟨0x3fe0000000000000⟩ (by decide))]),
    ("1", .object [("name", .string "Ann")])]

/-- A record of numbers is as the round trip asks for, and comes back. -/
theorem keepsJson_numbered : numbered.Distinct ∧ numbered.Everywhere Conversion.FitsTable ∧
    Conversion.Returnable numbered ∧ (create 0 0).KeepsJson numbered := by
  have distinct : numbered.Distinct := by
    refine ⟨by decide, ⟨trivial, trivial, trivial⟩, ⟨by decide, trivial, trivial⟩, trivial⟩
  have fits : numbered.Everywhere Conversion.FitsTable := by
    refine ⟨trivial, ⟨?_, trivial, trivial, trivial⟩, ⟨trivial, trivial, trivial⟩, trivial⟩
    show 2 ≤ Lua.lastPosition
    decide
  have returnable : Conversion.Returnable numbered := by
    refine ⟨by decide, ?_, ⟨?_, ?_, trivial, trivial⟩, ⟨?_, trivial, trivial⟩, trivial⟩
    · simp [Conversion.HasForm]
    · simp [Conversion.HasForm]
    · show (1 : Int) < 0x8000000000000000
      decide
    · simp [Conversion.HasForm]
  exact ⟨distinct, fits, returnable, keepsJson (create 0 0) numbered distinct fits⟩

end Records

end Sandbox

end TableSeed
