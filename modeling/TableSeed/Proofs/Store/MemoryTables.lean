import TableSeed.Proofs.Store.Calls

/-!
# The tables of the store in memory

Each call changes the table that it names, and leaves all others as they are. Inserts only ever add
at the end of a table.
-/

namespace TableSeed

/-- An item under the text of its key values. -/
def Item.keyed (item : Item) : KeyedItem := ⟨item.keyText, item.merged⟩

namespace MemoryStore

variable {s s' : MemoryStore} {name table : String} {schema : TableSchema} {item : Item}

/-- Dropping a table removes it and no other. -/
theorem table?_drop (s : MemoryStore) (name table : String) :
    (drop name s).2.table? table = if table = name then none else s.table? table := by
  simp only [drop, record, table?]
  induction s.tables with
  | nil => simp
  | cons t rest ih =>
    by_cases same : t.1 = name
    · rw [List.filter_cons_of_neg (by simp [same]), ih, List.lookup_cons]
      split_ifs with here
      · rfl
      · rw [same, beq_false_of_ne here]
    · rw [List.filter_cons_of_pos (by simp [same]), List.lookup_cons, List.lookup_cons, ih]
      split_ifs with here
      · rw [here, beq_false_of_ne (Ne.symm same)]
      · rfl

/-- Creating a table makes it an empty one unless it exists, and no other. -/
theorem table?_create (s : MemoryStore) (schema : TableSchema) (table : String) :
    (create schema s).2.table? table =
      if table = schema.table then some ((s.table? table).getD []) else s.table? table := by
  have untouched : (s.record (.create schema.table)).table? table = s.table? table := rfl
  unfold create
  simp only
  split_ifs with exists' here here
  · subst here
    obtain ⟨items, found⟩ := Option.isSome_iff_exists.mp exists'
    rw [untouched] at found ⊢
    rw [found]
    rfl
  · exact untouched
  · subst here
    have missing : s.tables.lookup schema.table = none := Option.not_isSome_iff_eq_none.mp exists'
    simp [table?, record, List.lookup_append, missing]
  · simp [table?, record, List.lookup_append, List.lookup_cons, beq_false_of_ne here]

/-- Creating a table never fails. -/
theorem create_ok (s : MemoryStore) (schema : TableSchema) : (create schema s).1 = .ok () := by
  unfold create
  simp only
  split <;> rfl

/-- Replacing the items of a table leaves the other tables alone. -/
theorem lookup_replace (tables : List (String × List KeyedItem)) (name table : String)
    (items : List KeyedItem) :
    (tables.map fun t => if t.1 = name then (name, items) else t).lookup table =
      if table = name then (tables.lookup table).map fun _ => items else tables.lookup table := by
  induction tables with
  | nil => simp
  | cons t rest ih =>
    rw [List.map_cons, List.lookup_cons, List.lookup_cons, ih]
    by_cases here : table = name
    · subst here
      by_cases same : t.1 = table
      · simp [same]
      · simp [same, beq_false_of_ne (Ne.symm same)]
    · by_cases same : t.1 = name
      · simp [here, same, beq_false_of_ne here]
      · simp [here, same]

/-- An insert that ends well adds its item at the end of its table. An insert that fails leaves
every table as it is. -/
theorem table?_insert (s : MemoryStore) (name : String) (item : Item) (table : String) :
    (insert name item s).2.table? table =
      if table = name ∧ (insert name item s).1 = .ok () then
        (s.table? table).map (· ++ [item.keyed])
      else s.table? table := by
  have untouched : (s.record (.insert name item)).table? table = s.table? table := rfl
  unfold insert
  simp only
  split
  · simp [untouched]
  · rename_i items found
    split
    · simp [untouched]
    · rw [MemoryStore.table?, lookup_replace]
      by_cases here : table = name
      · subst here
        have found' : s.tables.lookup table = some items := found
        simp [record, MemoryStore.table?, found', Item.keyed]
      · simp [here, record, MemoryStore.table?]

/-- The store in memory inserts without giving way. -/
theorem immediate_store : store.Immediate insert := fun _ _ _ => rfl

/-- The items that inserts have added, where they have ended well. -/
def added (entries : List PreparedEntry) (results : List (Nat × Except StoreError Unit)) :
    List KeyedItem :=
  results.reverse.filterMap fun r =>
    if r.2 = .ok () then entries[r.1]?.map (·.item.keyed) else none

/-- Inserts add their items at the end of their table, where they end well. -/
theorem table?_inserted {entries : List PreparedEntry}
    {results : List (Nat × Except StoreError Unit)}
    (inserted : Batch.Inserted (insert name) entries s results s') (table : String) :
    s'.table? table = if table = name then (s.table? table).map (· ++ added entries results)
      else s.table? table := by
  induction inserted with
  | nothing => cases s.table? table <;> simp [added]
  | @next results state i entry _ found ih =>
    rw [table?_insert, ih]
    by_cases here : table = name
    · simp only [here, true_and, if_true, added, List.reverse_cons, List.filterMap_append]
      split_ifs with ok
      · cases s.table? name <;> simp [ok, found]
      · cases s.table? name <;> simp [ok]
    · simp [here]

/-! ## Parts of tables -/

/-- The parts that go to a table, in order. -/
def partsOf (parts : List (String × List KeyedItem)) (table : String) : List (List KeyedItem) :=
  parts.filterMap fun part => if part.1 = table then some part.2 else none

/-- Each part was put after what its table held, or in place of it if tables are dropped. -/
def Leaves (dropTables : Bool) (parts : List (String × List KeyedItem)) (s s' : MemoryStore) :
    Prop :=
  ∀ table, s'.table? table =
    match (partsOf parts table).getLast? with
    | none => s.table? table
    | some last => some (if dropTables then last
        else (s.table? table).getD [] ++ (partsOf parts table).flatten)

section Leaves

variable {dropTables : Bool} {parts later : List (String × List KeyedItem)} {s'' : MemoryStore}

/-- Without parts no table changes. -/
theorem leaves_nil (dropTables : Bool) (s : MemoryStore) : s.Leaves dropTables [] s := fun _ => rfl

/-- One part changes its table and no other. -/
theorem leaves_singleton (name : String) (items : List KeyedItem)
    (same : ∀ table, s'.table? table = if table = name then
      some ((if dropTables then [] else (s.table? table).getD []) ++ items) else s.table? table) :
    s.Leaves dropTables [(name, items)] s' := by
  intro table
  rw [same, partsOf]
  by_cases here : table = name
  · subst here
    cases dropTables <;> simp
  · simp [here, Ne.symm here]

/-- Parts may be put in two steps. -/
theorem Leaves.append (first : s.Leaves dropTables parts s')
    (second : s'.Leaves dropTables later s'') : s.Leaves dropTables (parts ++ later) s'' := by
  intro table
  have both : partsOf (parts ++ later) table = partsOf parts table ++ partsOf later table :=
    List.filterMap_append
  rw [second, first, both, List.getLast?_append]
  cases after : partsOf later table using List.reverseRecOn with
  | nil => simp
  | append_singleton others last =>
    cases before : partsOf parts table using List.reverseRecOn with
    | nil => simp
    | append_singleton others' last' => cases dropTables <;> simp

/-- If tables are not dropped, every part stays in its table as a whole. -/
theorem Leaves.whole (leaves : s.Leaves false parts s') {part : String × List KeyedItem}
    (mem : part ∈ parts) : ∃ before after,
      s'.table? part.1 = some (before ++ part.2 ++ after) := by
  have here : part.2 ∈ partsOf parts part.1 := List.mem_filterMap.mpr ⟨part, mem, if_pos rfl⟩
  obtain ⟨earlier, rest, same⟩ := List.append_of_mem here
  refine ⟨(s.table? part.1).getD [] ++ earlier.flatten, rest.flatten, ?_⟩
  rw [leaves, same, List.getLast?_append, List.getLast?_eq_some_getLast (List.cons_ne_nil _ _)]
  simp

/-- If tables are dropped, a table holds the last part that went to it. -/
theorem Leaves.last (leaves : s.Leaves true parts s') {part : String × List KeyedItem}
    (mem : part ∈ parts) : ∃ last, (partsOf parts part.1).getLast? = some last ∧
      s'.table? part.1 = some last := by
  have here : part.2 ∈ partsOf parts part.1 := List.mem_filterMap.mpr ⟨part, mem, if_pos rfl⟩
  have found := List.getLast?_eq_some_getLast (List.ne_nil_of_mem here)
  exact ⟨_, found, by rw [leaves, found]; rfl⟩

end Leaves

end MemoryStore

end TableSeed
