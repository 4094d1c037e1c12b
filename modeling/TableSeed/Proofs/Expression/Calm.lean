import TableSeed.Expression.Modules
import TableSeed.Proofs.Expression.Isolation
import TableSeed.Proofs.Lua.Calm
import TableSeed.Proofs.Traversal

/-!
# Calm sandboxes

What a sandbox is given from a document keeps its heap calm, and so does a chunk that calls no helper
which cannot go on. The value of such a chunk has a JSON form or none, but it is never a reason to end
the run.
-/

namespace TableSeed

open Lua (Heap TableRef Key Table Machine FunctionBody)

namespace Conversion

variable {α β ε : Type} {e : ε} {h : Heap}

/-- What goes on after a computation fails for no reason for which that does not. -/
theorem bind_ne_error {a : Except ε α} (first : a ≠ .error e) (f : α → β) :
    (do return f (← a) : Except ε β) ≠ .error e := by
  cases a with
  | error fault =>
    intro same
    cases same
    exact first rfl
  | ok x => nofun

/-- A fold does not end in an error that no step of it ends in. -/
theorem foldlM_ne_error {f : β → α → Except ε β} (xs : List α)
    (each : ∀ acc, ∀ x ∈ xs, f acc x ≠ .error e) (acc : β) : xs.foldlM f acc ≠ .error e := by
  induction xs generalizing acc with
  | nil => nofun
  | cons x rest ih =>
    rw [List.foldlM_cons]
    cases first : f acc x with
    | error fault =>
      intro same
      cases same
      exact each acc x (List.mem_cons_self ..) first
    | ok acc => exact ih (fun acc y mem => each acc y (List.mem_cons_of_mem _ mem)) acc

/-- The name of a member does not end the run. -/
theorem memberName?_ne_aborted (k : Key) : memberName? k ≠ some (.error .aborted) := by
  cases k with
  | string b =>
    rw [memberName?]
    cases b.toText? <;> nofun
  | _ => nofun

/-- Adding a member does not end the run if the conversion of its value does not. -/
theorem addMember_ne_aborted {convert : Lua.Value → Except ConversionError Json.Value}
    {e : Key × Lua.Value} (value : convert e.2 ≠ .error .aborted) (members : Json.Members) :
    addMember convert members e ≠ .error .aborted := by
  rw [addMember]
  cases isNamed : memberName? e.1 with
  | none => nofun
  | some name =>
    cases name with
    | error fault =>
      intro same
      cases same
      exact memberName?_ne_aborted e.1 isNamed
    | ok name =>
      exact bind_ne_error value _

/-- A table of a calm heap has no failure in it that would end the run. -/
theorem isAborted_of_within {t : Table} (within : t.Within .calm) : isAborted t = false := by
  rw [isAborted, List.any_eq_false]
  intro e mem
  obtain ⟨key, value⟩ := within.mem_entries mem
  rw [Lua.Value.isAborted_of_within key, Lua.Value.isAborted_of_within value]
  exact Bool.false_ne_true

/-- The form of a value that is no table. -/
theorem toJsonWithin_scalar_ne_aborted {v : Lua.Value} (value : v.Within .calm)
    (scalar : ∀ r, v ≠ .table r) (room : Nat) (path : List TableRef) :
    toJsonWithin h room path v ≠ .error .aborted := by
  cases v with
  | table r => exact absurd rfl (scalar r)
  | failure f =>
    cases f with
    | aborted => exact value.elim
    | _ => cases room <;> nofun
  | float x =>
    cases room <;>
    · unfold toJsonWithin
      dsimp only
      split <;> nofun
  | string b =>
    cases room <;>
    · unfold toJsonWithin
      dsimp only
      split <;> nofun
  | _ => cases room <;> nofun

/-- The form of a value on a calm heap is no reason to end the run. -/
theorem toJsonWithin_ne_aborted (calm : h.Calm) (room : Nat) {v : Lua.Value} {path : List TableRef}
    (value : v.Within .calm) : toJsonWithin h room path v ≠ .error .aborted := by
  induction room generalizing path v with
  | zero =>
    cases v with
    | table r => nofun
    | _ => exact toJsonWithin_scalar_ne_aborted value nofun _ _
  | succ room ih =>
    cases v with
    | table r =>
      have table := calm.tables r
      have item (i : Nat) : toJsonWithin h room (r :: path)
          ((h.table r).getInt (Int64.ofNat (i + 1))) ≠ .error .aborted := ih (table.getInt _)
      have member (members : Json.Members) (e : Key × Lua.Value) (mem : e ∈ (h.table r).entries) :
          addMember (toJsonWithin h room (r :: path)) members e ≠ .error .aborted :=
        addMember_ne_aborted (ih (table.mem_entries mem).2) members
      have items : ((List.range (h.table r).border).mapM fun i => toJsonWithin h room (r :: path)
          ((h.table r).getInt (Int64.ofNat (i + 1)))) ≠ .error .aborted := by
        intro failed
        obtain ⟨i, -, failed⟩ := exists_of_mapM_error failed
        exact item i failed
      have members := foldlM_ne_error (h.table r).entries member []
      unfold toJsonWithin
      dsimp only
      rw [isAborted_of_within table, if_neg Bool.false_ne_true]
      split_ifs with cyclic array
      · nofun
      · exact bind_ne_error items _
      · exact bind_ne_error members _
    | _ => exact toJsonWithin_scalar_ne_aborted value nofun _ _

end Conversion

namespace Sandbox

variable {base h : Heap} {s : Sandbox} {p : Prop}

section Environment

/-- Every table is a new one for a heap with nothing in it. -/
theorem allCopyWithin_bare (h : Heap) (source : TableRef) : AllCopyWithin h.bare False source := by
  intro g confined e mem
  obtain ⟨key, value⟩ := (confined.tables source (Heap.made_bare h source)).mem_entries mem
  exact ⟨key, copiesWithin_of_within value⟩

/-- An environment is confined to what a bare heap allows. -/
theorem environment_bare (calm : s.world.heap.Calm) (this : Option TableRef) :
    s.world.heap.bare.Confines False (s.environment this).2.world.heap :=
  (environment_within calm.confined (allCopyWithin_bare _ _) (allCopyWithin_bare _ _)
    fun r _ _ confined => confined.tables r (Heap.made_bare _ r)).2

/-- An environment for an expression leaves the heap calm. -/
theorem environment_calm (calm : s.world.heap.Calm) (this : Option TableRef) :
    (s.environment this).2.world.heap.Calm := (environment_bare calm this).calm

/-- A binding of a calm value leaves the heap calm. -/
theorem bind_calm (calm : s.world.heap.Calm) (name : String) {v : Lua.Value}
    (value : v.Within .calm) : (s.bind name v).1.world.heap.Calm := by
  rw [bind]
  split
  · exact calm
  · exact (calm.confined.set (Heap.made_bare _ _) (Key.within_ofText name)
      (Heap.reach_bare _ ▸ value)).calm

/-- Dropping objects leaves none that was not there. -/
theorem release_calm (calm : h.Calm) (m : Mark) : (release m h).Calm := by
  rw [release]
  split
  · refine ⟨fun r => ?_, fun v mem => ?_⟩
    · rw [Heap.table, Array.getD_eq_getD_getElem?]
      dsimp only
      rw [Array.shrink_eq_take]
      cases found : (h.tables.take m.tables)[r.index]? with
      | none => exact Table.within_empty
      | some t =>
        obtain ⟨i, inside, rfl⟩ := Array.mem_extract_iff_getElem.mp (Array.mem_of_getElem? found)
        exact calm.table_getElem _
    · dsimp only at mem
      rw [Array.shrink_eq_take] at mem
      obtain ⟨i, inside, rfl⟩ := Array.mem_extract_iff_getElem.mp mem
      exact calm.cells _ (Array.getElem_mem _)
  · exact calm

end Environment

section Chunks

variable {source chunk : String} {env : TableRef} {this : Option TableRef} {base : Lua.World}

/-- A chunk calls a helper that cannot go on. -/
def ChunkAborts (s : Sandbox) (source chunk : String) (env : TableRef) : Prop :=
  ∃ body k, compile source = .ok body ∧ k < maxSteps ∧ ((s.machine body chunk env).after k).Aborts

/-- An expression calls a helper that cannot go on. -/
def Aborts (s : Sandbox) (source : String) (this : Option TableRef) : Prop :=
  (s.environment this).2.ChunkAborts (SelfReference.rewrite source) expressionChunk
    (s.environment this).1

/-- The machine that is to run a chunk in an environment made since an earlier world is confined to
what was made since. -/
theorem machine_confined (confined : base.Confines p s.world) (made : base.heap.Made env)
    (body : FunctionBody) (chunk : String) : (s.machine body chunk env).Confined base p :=
  ⟨⟨fun _ mem => absurd mem List.not_mem_nil,
    (confined.heap.newCell (v := .table env) made).newClosure _, confined.now⟩,
    trivial, Lua.Value.allWithin_nil⟩

/-- What an outcome is to the one who runs the chunk refers to nothing that the outcome does not. -/
theorem result_of_within {R : Lua.Reach} {o : Machine.Outcome} (within : o.Within R) :
    (result o = .error .aborted → R.aborted) ∧ ∀ v, result o = .ok v → v.Within R := by
  cases o with
  | values vs =>
    have first : (vs.headD .nil).Within R := Lua.Value.AllWithin.headD within
    rw [result]
    split
    · rename_i isAborted
      rw [Lua.Value.isAborted_iff] at isAborted
      rw [isAborted] at first
      exact ⟨fun _ => first, nofun⟩
    · exact ⟨nofun, fun v same => Except.ok.inj same ▸ first⟩
  | error v =>
    cases v with
    | failure f =>
      cases f with
      | aborted => exact ⟨fun _ => within, nofun⟩
      | _ => exact ⟨nofun, nofun⟩
    | _ => exact ⟨nofun, nofun⟩
  | unfinished => exact ⟨nofun, nofun⟩

/-- A chunk keeps to what was made since an earlier world. Where nothing made since may be the failure
of a helper that could not go on, it must not call one. -/
theorem run_within (based : base.Based) (confined : base.Confines p s.world)
    (made : base.heap.Made env) (goesOn : p ∨ ¬s.ChunkAborts source chunk env) :
    ((s.run source chunk env).1 = .error .aborted → p) ∧
      (∀ v, (s.run source chunk env).1 = .ok v → v.Within (base.heap.reach p)) ∧
      base.Confines p (s.run source chunk env).2.world := by
  cases compiled : compile source with
  | error e =>
    have unrun : s.run source chunk env = (.error (.source e.1 e.2), s) := by rw [run, compiled]
    rw [unrun]
    exact ⟨by simp, by simp, confined⟩
  | ok body =>
    have kept (k : Nat) (inside : k ≤ maxSteps) :
        ((s.machine body chunk env).after k).Confined base p :=
      (machine_confined confined made body chunk).after based k <|
        goesOn.imp id fun goesOn j less aborts =>
          goesOn ⟨body, j, compiled, Nat.lt_of_lt_of_le less inside, aborts⟩
    have outcome : ((s.machine body chunk env).run maxSteps).1.Within (base.heap.reach p) := by
      obtain ⟨steps, isMax⟩ : ∃ steps, maxSteps = steps + 1 := ⟨_, rfl⟩
      rw [isMax, Machine.run_succ]
      dsimp only
      cases ended : ((s.machine body chunk env).after steps).outcome? with
      | none => trivial
      | some o => exact (kept steps (isMax ▸ Nat.le_succ steps)).outcome ended
    have world := (kept maxSteps (Nat.le_refl _)).world
    rw [← Machine.run_snd] at world
    have ran := run_of_compile (s := s) compiled chunk env
    generalize (s.machine body chunk env).run maxSteps = ended at outcome world ran
    rw [ran]
    exact ⟨(result_of_within outcome).1, (result_of_within outcome).2, world⟩

/-- A chunk that calls no helper which cannot go on. -/
theorem run_calm (calm : s.world.heap.Calm) (goesOn : ¬s.ChunkAborts source chunk env) :
    (s.run source chunk env).1 ≠ .error .aborted ∧
      (∀ v, (s.run source chunk env).1 = .ok v → v.Within .calm) ∧
      (s.run source chunk env).2.world.heap.Calm := by
  obtain ⟨goes, value, after⟩ := run_within (p := False) (Lua.World.based_bare s.world)
    ⟨calm.confined, rfl⟩ (Heap.made_bare _ env) (.inr goesOn)
  exact ⟨goes, fun v valued => Heap.reach_bare s.world.heap ▸ value v valued, after.heap.calm⟩

/-- An expression that calls no helper which cannot go on. -/
theorem evaluate_calm (calm : s.world.heap.Calm) (goesOn : ¬s.Aborts source this) :
    (s.evaluate source this).1 ≠ .error (.chunk .aborted) ∧
      (s.evaluate source this).2.world.heap.Calm := by
  obtain ⟨goes, value, after⟩ := run_calm (environment_calm calm this) goesOn
  rw [evaluate]
  dsimp only
  generalize (s.environment this).2.run (SelfReference.rewrite source) expressionChunk
    (s.environment this).1 = ran at goes value after
  obtain ⟨ran, after'⟩ := ran
  refine ⟨?_, release_calm after _⟩
  cases ran with
  | error e => exact fun same => goes (by cases same; rfl)
  | ok v =>
    have form : Conversion.toJson after'.world.heap v ≠ .error .aborted :=
      Conversion.toJsonWithin_ne_aborted after _ (value v rfl)
    rw [answer]
    cases converted : Conversion.toJson after'.world.heap v with
    | ok j => simp
    | error e =>
      cases e with
      | aborted => exact absurd converted form
      | _ => simp

end Chunks

end Sandbox

end TableSeed
