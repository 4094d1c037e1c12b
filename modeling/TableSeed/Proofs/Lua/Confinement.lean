import TableSeed.Proofs.Lua.ActionReach
import TableSeed.Lua.Heap

/-!
# Confinement

A heap is confined to what was made since an earlier one if everything that was made since refers only
to what was made since, and the older tables are as they were. Where that is asked for, nothing that was
made since is the failure of a helper that could not go on. An action that asks for nothing older
leaves a confined heap confined.
-/

namespace TableSeed.Lua

namespace Heap

/-- The table was made after a heap. -/
def Made (base : Heap) (r : TableRef) : Prop := base.tables.size ≤ r.index

/-- What was made after a heap; `p` says whether it may be the failure of a helper that could not go
on. -/
abbrev reach (base : Heap) (p : Prop) : Reach := ⟨base.Made, p⟩

/-- What was made after a heap refers only to what was made after it, and the older tables are as they
were. -/
structure Confines (base : Heap) (p : Prop) (h : Heap) : Prop where
  grown : base.tables.size ≤ h.tables.size
  spared : ∀ r, ¬base.Made r → h.table r = base.table r
  tables : ∀ r, base.Made r → (h.table r).Within (base.reach p)
  cells : ∀ v ∈ h.cells, v.Within (base.reach p)
  methods : h.methods = base.methods

/-- A new table stands behind the others, which stay as they are. -/
theorem table_newTable (h : Heap) (t : Table) (r : TableRef) :
    (h.newTable t).2.table r = if r.index = h.tables.size then t else h.table r := by
  simp only [table, newTable, Array.getD_eq_getD_getElem?, Array.getElem?_push]
  split <;> rfl

/-- A change of a table changes that table alone, if it is in the heap. -/
theorem table_modifyTable (h : Heap) (s : TableRef) (f : Table → Table) (r : TableRef) :
    (h.modifyTable s f).table r =
      if r = s ∧ r.index < h.tables.size then f (h.table r) else h.table r := by
  simp only [table, modifyTable, Array.getD_eq_getD_getElem?, Array.getElem?_modify]
  by_cases same : r = s
  · subst same
    by_cases inside : r.index < h.tables.size
    · simp [inside]
    · simp [inside]
  · rw [if_neg fun eq => same (by cases r; cases s; cases eq; rfl), if_neg fun both => same both.1]

variable {base h : Heap} {p : Prop}

/-- A heap without variables is confined to what is still to be made. -/
theorem Confines.refl (empty : base.cells = #[]) : base.Confines p base where
  grown := Nat.le_refl _
  spared _ _ := rfl
  tables r made := by
    rw [table, Array.getD_eq_getD_getElem?, Array.getElem?_eq_none made]
    exact Table.within_empty
  cells v mem := by
    rw [empty] at mem
    exact absurd mem (Array.not_mem_empty v)
  methods := rfl

/-- A new table that refers only to what is later keeps the heap confined. -/
theorem Confines.newTable (confined : base.Confines p h) {t : Table}
    (within : t.Within (base.reach p)) : base.Confines p (h.newTable t).2 where
  grown := by
    have := confined.grown
    simp only [Heap.newTable, Array.size_push]
    omega
  spared r old := by
    rw [table_newTable, if_neg fun last => old (Nat.le_trans confined.grown (Nat.le_of_eq last.symm))]
    exact confined.spared r old
  tables r made := by
    rw [table_newTable]
    split
    · exact within
    · exact confined.tables r made
  cells := confined.cells
  methods := confined.methods

/-- A change of a later table keeps the heap confined if it keeps the table within reach. -/
theorem Confines.modifyTable (confined : base.Confines p h) {s : TableRef} {f : Table → Table}
    (made : base.Made s)
    (within : (h.table s).Within (base.reach p) → (f (h.table s)).Within (base.reach p)) :
    base.Confines p (h.modifyTable s f) where
  grown := by simpa [Heap.modifyTable] using confined.grown
  spared r old := by
    rw [table_modifyTable, if_neg (by rintro ⟨rfl, -⟩; exact old made)]
    exact confined.spared r old
  tables r made := by
    rw [table_modifyTable]
    split
    · rename_i both
      rw [both.1]
      exact within (confined.tables s (both.1 ▸ made))
    · exact confined.tables r made
  cells := confined.cells
  methods := confined.methods

/-- A value under a key of a later table keeps the heap confined. -/
theorem Confines.set (confined : base.Confines p h) {t : TableRef} {k : Key} {v : Value}
    (made : base.Made t) (key : k.Within (base.reach p)) (value : v.Within (base.reach p)) :
    base.Confines p (h.set t k v) :=
  confined.modifyTable made fun within => within.set key value

/-- A new variable with a later value keeps the heap confined. -/
theorem Confines.newCell (confined : base.Confines p h) {v : Value}
    (value : v.Within (base.reach p)) : base.Confines p (h.newCell v).2 where
  grown := confined.grown
  spared := confined.spared
  tables := confined.tables
  cells w mem := by
    rcases Array.mem_push.mp mem with old | rfl
    · exact confined.cells w old
    · exact value
  methods := confined.methods

/-- New variables with later values keep the heap confined. -/
theorem Confines.newCells (confined : base.Confines p h) (vars : List CellRef) {vs : List Value}
    (values : Value.AllWithin (base.reach p) vs) : base.Confines p (h.newCells vars vs).2 := by
  induction vs generalizing h vars with
  | nil => exact confined
  | cons v rest ih =>
    rw [Value.allWithin_cons] at values
    exact ih (confined.newCell values.1) _ values.2

/-- A later value in a variable keeps the heap confined. -/
theorem Confines.setCell (confined : base.Confines p h) (r : CellRef) {v : Value}
    (value : v.Within (base.reach p)) : base.Confines p (h.setCell r v) where
  grown := confined.grown
  spared := confined.spared
  tables := confined.tables
  cells w mem := by
    rcases Array.mem_or_eq_of_mem_setIfInBounds mem with old | rfl
    · exact confined.cells w old
    · exact value
  methods := confined.methods

/-- A new closure keeps the heap confined. -/
theorem Confines.newClosure (confined : base.Confines p h) (c : Closure) :
    base.Confines p (h.newClosure c).2 :=
  ⟨confined.grown, confined.spared, confined.tables, confined.cells, confined.methods⟩

/-- The value of a variable refers only to what is later. -/
theorem Confines.cell (confined : base.Confines p h) (r : CellRef) :
    (h.cell r).Within (base.reach p) := by
  rw [Heap.cell, Array.getD_eq_getD_getElem?]
  cases found : h.cells[r.index]? with
  | none => trivial
  | some v => exact confined.cells v (Array.mem_of_getElem? found)

/-- A metafield of a later value refers only to what is later. -/
theorem Confines.metafield (confined : base.Confines p h) {v : Value}
    (value : v.Within (base.reach p)) (k : Key) : (h.metafield v k).Within (base.reach p) := by
  cases v with
  | table r =>
    have table := confined.tables r value
    simp only [Heap.metafield]
    split
    · exact (confined.tables _ (table.metatable _ (by assumption))).get k
    · trivial
  | _ => trivial

end Heap

/-- What an action has come to refers to nothing outside of a set, and what comes after it asks for
nothing outside. -/
def Progress.Within {α : Type} (R : Reach) (Q : α → Prop) : Progress α → Prop
  | .done a => Q a
  | .failed fault => fault.Within R
  | .calling f args next =>
    f.Within R ∧ Value.AllWithin R args ∧ ∀ vs, Value.AllWithin R vs → (next vs).Within R Q
  | .attempting f args handler next =>
    f.Within R ∧ Value.AllWithin R args ∧ (∀ h, handler = some h → h.Within R) ∧
      ∀ outcome, Value.AllWithin R outcome.2 → (next outcome).Within R Q
  | .locating _ next => ∀ text, (next text).Within R Q

namespace World

/-- The heap of a world is confined to what was made since an earlier world, and the clock stands
still. -/
structure Confines (base : World) (p : Prop) (w : World) : Prop where
  heap : base.heap.Confines p w.heap
  now : w.now = base.now

/-- The string methods refer to no table if they are there from the start. -/
def Based (base : World) : Prop :=
  ¬base.heap.Made base.heap.methods →
    (base.heap.table base.heap.methods).Within ⟨fun _ => False, False⟩

variable {base w : World} {p : Prop}

/-- A string method refers only to what is later. -/
theorem Confines.method (based : base.Based) (confined : base.Confines p w) (k : Key) :
    ((w.heap.table w.heap.methods).get k).Within (base.heap.reach p) := by
  rw [confined.heap.methods]
  by_cases made : base.heap.Made base.heap.methods
  · exact (confined.heap.tables _ made).get k
  · rw [confined.heap.spared _ made]
    exact Value.Within.mono ((based made).get k) (fun _ => False.elim) False.elim

/-- Drawing a random number keeps the world confined. -/
theorem Confines.draw (confined : base.Confines p w) : base.Confines p w.draw.2 := by
  obtain ⟨heap, log, now, entropy⟩ := w
  unfold World.draw
  exact ⟨confined.heap, confined.now⟩

/-- An action that asks for nothing older leaves the world confined. -/
theorem perform_within {α : Type} {Q : α → Prop} (based : base.Based) {a : Action α}
    (within : a.Within (base.heap.reach p) Q) (confined : base.Confines p w) :
    (w.perform a).1.Within (base.heap.reach p) Q ∧ base.Confines p (w.perform a).2 := by
  induction a generalizing w with
  | done a => exact ⟨within, confined⟩
  | fail fault => exact ⟨within, confined⟩
  | ask r next ih =>
    obtain ⟨asked, later⟩ := within
    cases r with
    | call f args => exact ⟨⟨asked.1, asked.2, later⟩, confined⟩
    | attempt f args handler => exact ⟨⟨asked.1, asked.2.1, asked.2.2, later⟩, confined⟩
    | position level => exact ⟨fun text => later text trivial, confined⟩
    | get t k => exact ih _ (later _ ((confined.heap.tables t asked).get k)) confined
    | set t k v =>
      exact ih _ (later () trivial)
        ⟨confined.heap.set asked.1 asked.2.1 asked.2.2, confined.now⟩
    | border t => exact ih _ (later _ trivial) confined
    | next t k =>
      exact ih _ (later _ fun e found => (confined.heap.tables t asked).next k found) confined
    | create items entries =>
      exact ih _ (later _ confined.heap.grown)
        ⟨confined.heap.newTable (Table.within_withRoom items entries), confined.now⟩
    | metatable t => exact ih _ (later _ (confined.heap.tables t asked).metatable) confined
    | setMetatable t m =>
      exact ih _ (later () trivial)
        ⟨confined.heap.modifyTable asked.1 fun within => within.withMetatable asked.2, confined.now⟩
    | method k => exact ih _ (later _ (confined.method based k)) confined
    | note warning text => exact ih () (later () trivial) ⟨confined.heap, confined.now⟩
    | clock => exact ih _ (later _ trivial) confined
    | entropy =>
      unfold perform
      exact ih w.draw.1 (later _ trivial) (confined.draw)
    | reseed n => exact ih () (later () trivial) ⟨confined.heap, confined.now⟩

end World

end TableSeed.Lua
