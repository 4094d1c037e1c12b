import TableSeed.Proofs.Lua.MachineReach

/-!
# Calm heaps

A heap is calm if nothing in it is the failure of a helper that could not go on. That is the case of
a heap which is confined to what was made since one with nothing in it. So a machine on a calm heap
that calls no helper which cannot go on leaves the heap calm, and its outcome is no such failure.
-/

namespace TableSeed.Lua

/-- All values but failures of helpers that could not go on. -/
def Reach.calm : Reach := ⟨fun _ => True, False⟩

/-- A calm value is no failure of a helper that could not go on. -/
theorem Value.isAborted_of_within {v : Value} (within : v.Within .calm) : v.isAborted = false := by
  cases v with
  | failure f =>
    cases f with
    | aborted => exact within.elim
    | _ => rfl
  | _ => rfl

namespace Heap

variable {base h : Heap} {p : Prop}

/-- Nothing in the heap is the failure of a helper that could not go on. -/
structure Calm (h : Heap) : Prop where
  tables : ∀ r, (h.table r).Within .calm
  cells : ∀ v ∈ h.cells, v.Within .calm

/-- The tables of a calm heap are calm. -/
theorem Calm.table_getElem (calm : h.Calm) {i : Nat} (inside : i < h.tables.size) :
    h.tables[i].Within .calm := by
  have table := calm.tables ⟨i⟩
  rwa [Heap.table, Array.getD_eq_getD_getElem?, Array.getElem?_eq_getElem inside] at table

/-- A heap with nothing in it but the place for the methods of strings. -/
def bare (h : Heap) : Heap := { methods := h.methods }

/-- Every table was made after a bare heap. -/
theorem made_bare (h : Heap) (r : TableRef) : h.bare.Made r := Nat.zero_le r.index

/-- What was made after a bare heap is everything, but for failures of helpers that could not go
on. -/
theorem reach_bare (h : Heap) : h.bare.reach False = .calm := by
  rw [reach, Reach.calm, Reach.mk.injEq]
  exact ⟨funext fun r => eq_true (made_bare h r), rfl⟩

/-- A calm heap is confined to what was made after a bare one. -/
theorem Calm.confined (calm : h.Calm) : h.bare.Confines False h where
  grown := Nat.zero_le _
  spared r old := absurd (made_bare h r) old
  tables r _ := reach_bare h ▸ calm.tables r
  cells v mem := reach_bare h ▸ calm.cells v mem
  methods := rfl

/-- A heap that is confined to what was made after a bare one is calm. -/
theorem Confines.calm (confined : base.bare.Confines False h) : h.Calm where
  tables r := reach_bare base ▸ confined.tables r (made_bare base r)
  cells v mem := reach_bare base ▸ confined.cells v mem

end Heap

/-- The world before anything was made. -/
def World.bare (w : World) : World := { heap := w.heap.bare, now := w.now }

/-- The string methods of a bare world are later than it. -/
theorem World.based_bare (w : World) : w.bare.Based := fun old => absurd (Heap.made_bare _ _) old

/-- The outcome of a confined machine. -/
def Machine.Outcome.Within (R : Reach) : Machine.Outcome → Prop
  | .values vs => Value.AllWithin R vs
  | .error v => v.Within R
  | .unfinished => True

/-- The outcome of a confined machine refers only to what was made since. -/
theorem Machine.Confined.outcome {base : World} {p : Prop} {m : Machine} (confined : m.Confined base p)
    {o : Machine.Outcome} (ended : m.outcome? = some o) : o.Within (base.heap.reach p) := by
  obtain ⟨control, stack, depth, natives, world, meter⟩ := m
  have within := confined.control
  cases stack with
  | cons frame stack => cases control <;> cases ended
  | nil =>
    cases control with
    | signal s =>
      cases s with
      | deliver vs | give vs | raise v =>
        cases ended
        exact within
      | tail | leave | jump =>
        cases ended
        trivial
    | eval | exec | land | finish | round | apply | act => cases ended

end TableSeed.Lua
