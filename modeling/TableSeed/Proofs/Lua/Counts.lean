import TableSeed.Proofs.Lua.Borders

/-!
# Entries in use

The entries of a table are its keys in use, each once, with their values, and the table counts
them. So the keys of a table are a sequence exactly if its length is the number of its entries and
no position before its length is empty.
-/

namespace TableSeed.Lua.Table

variable {t : Table}

/-- A key that has no place in the array part has its value in the hash part. -/
theorem get_of_no_slot {k : Key} (free : ∀ n, k = .integer n → t.slot? n = none) :
    t.get k = t.hash.getD k .nil := by
  cases k with
  | integer n =>
    rw [get, getInt, free n rfl]
  | _ => rfl

/-- The positions up to `n`, as keys. -/
def positions (n : Nat) : List Key := (List.range n).map fun i => .integer (Int64.ofNat (i + 1))

/-- The positions of a table are different keys. -/
theorem nodup_positions {n : Nat} (bounded : n ≤ lastPosition) : (positions n).Nodup := by
  refine List.Nodup.map_on (fun i inside j inside' same => ?_) List.nodup_range
  rw [List.mem_range] at inside inside'
  have := ofNat_inj (by omega) (by omega) (Key.integer.inj same)
  omega

/-- The positions up to a number are the integers from one to it. -/
theorem mem_positions_iff {n : Nat} {k : Key} :
    k ∈ positions n ↔ ∃ m, 1 ≤ m ∧ m ≤ n ∧ k = .integer (Int64.ofNat m) := by
  rw [positions, List.mem_map]
  constructor
  · rintro ⟨i, inside, rfl⟩
    exact ⟨i + 1, by omega, List.mem_range.mp inside, rfl⟩
  · rintro ⟨m, low, high, rfl⟩
    exact ⟨m - 1, List.mem_range.mpr (by omega), by rw [Nat.sub_add_cancel low]⟩

/-- The array part with the keys of its places. -/
def slots (t : Table) : List (Key × Value) :=
  (List.range t.array.size).map fun i =>
    (.integer (Int64.ofNat (i + 1)), t.array.getD i .nil)

/-- The keys of the array part are its positions. -/
theorem keys_slots (t : Table) : t.slots.map Prod.fst = positions t.array.size := by
  rw [slots, List.map_map]
  rfl

/-- The values of the array part are those of its places. -/
theorem values_slots (t : Table) : t.slots.map Prod.snd = t.array.toList := by
  rw [slots, List.map_map]
  refine List.ext_getElem (by simp) fun i inside _ => ?_
  simp only [List.length_map, List.length_range] at inside
  simp [inside]

/-- The entries in use of the array part. -/
def slotEntries (t : Table) : List (Key × Value) := t.slots.filter fun e => !e.2.isNil

/-- The entries in use of the hash part. -/
def hashEntries (t : Table) : List (Key × Value) := t.hash.toList.filter fun e => !e.2.isNil

/-- The entries are those of the array part and then those of the hash part. -/
theorem entries_eq (t : Table) : t.entries = t.slotEntries ++ t.hashEntries := by
  refine congrArg (· ++ t.hashEntries) ?_
  rw [slotEntries, slots]
  induction List.range t.array.size with
  | nil => rfl
  | cons i rest ih =>
    rw [List.filterMap_cons, ih, List.map_cons, List.filter_cons]
    dsimp only
    cases (t.array.getD i .nil).isNil <;> rfl

/-- The entries of the array part are its positions with values other than nil. -/
theorem mem_slotEntries_iff {e : Key × Value} :
    e ∈ t.slotEntries ↔ ∃ i < t.array.size,
      e = (.integer (Int64.ofNat (i + 1)), t.array.getD i .nil) ∧ e.2.isNil = false := by
  rw [slotEntries, List.mem_filter, slots, List.mem_map, Bool.not_eq_true']
  constructor
  · rintro ⟨⟨i, inside, rfl⟩, used⟩
    exact ⟨i, List.mem_range.mp inside, rfl, used⟩
  · rintro ⟨i, inside, rfl, used⟩
    exact ⟨⟨i, List.mem_range.mpr inside, rfl⟩, used⟩

/-- The entries of the hash part are its keys with values other than nil. -/
theorem mem_hashEntries_iff {e : Key × Value} :
    e ∈ t.hashEntries ↔ t.hash[e.1]? = some e.2 ∧ e.2.isNil = false := by
  rw [hashEntries, List.mem_filter, Std.TreeMap.mem_toList_iff_getElem?_eq_some,
    Bool.not_eq_true']

/-- The entries are the keys in use with their values. -/
theorem mem_entries_iff (apart : t.Apart) (fits : t.Fits) {e : Key × Value} :
    e ∈ t.entries ↔ t.get e.1 = e.2 ∧ e.2.isNil = false := by
  obtain ⟨k, v⟩ := e
  have bound : t.array.size < lastPosition := fits
  have hashed (free : ∀ n, k = .integer n → t.slot? n = none) :
      (t.hash[k]? = some v ∧ v.isNil = false) ↔ t.get k = v ∧ v.isNil = false := by
    rw [get_of_no_slot free, Std.TreeMap.getD_eq_getD_getElem?]
    cases stored : t.hash[k]? with
    | none => cases v <;> simp [Value.isNil]
    | some w => simp
  rw [entries_eq, List.mem_append, mem_slotEntries_iff, mem_hashEntries_iff]
  constructor
  · rintro (⟨i, inside, same, used⟩ | stored)
    · obtain ⟨rfl, rfl⟩ := Prod.mk.inj same
      exact ⟨valueAt_of_le fits (Nat.succ_pos i) inside, used⟩
    · refine (hashed fun n same => ?_).mp stored
      subst same
      exact apart n v stored.1
  · rintro ⟨found, used⟩
    by_cases free : ∀ n, k = .integer n → t.slot? n = none
    · exact .inr ((hashed free).mpr ⟨found, used⟩)
    · obtain ⟨n, rfl, taken⟩ : ∃ n, k = .integer n ∧ t.slot? n ≠ none := by simpa using free
      obtain ⟨i, slot⟩ := Option.ne_none_iff_exists'.mp taken
      obtain ⟨inside, rfl⟩ := (slot?_eq_some_iff fits n i).mp slot
      have value : t.get (.integer (Int64.ofNat (i + 1))) = t.array.getD i .nil :=
        valueAt_of_le fits (Nat.succ_pos i) inside
      exact .inl ⟨i, inside, by rw [← value]; exact congrArg _ found.symm, used⟩

/-- Each key in use has one entry. -/
theorem nodup_entries (apart : t.Apart) (fits : t.Fits) : (t.entries.map Prod.fst).Nodup := by
  have bound : t.array.size < lastPosition := fits
  rw [entries_eq, List.map_append, List.nodup_append']
  refine ⟨?_, ?_, ?_⟩
  · refine List.Nodup.sublist (List.filter_sublist.map _) ?_
    rw [keys_slots]
    exact nodup_positions (Nat.le_of_lt bound)
  · have distinct := t.hash.distinct_keys_toList
    refine List.Nodup.sublist (List.filter_sublist.map _) ?_
    refine List.pairwise_map.mpr (distinct.imp fun differs same => differs ?_)
    rw [same]
    exact Std.ReflCmp.compare_self
  · intro k slottedKey hashedKey
    obtain ⟨e, slotted, rfl⟩ := List.mem_map.mp slottedKey
    obtain ⟨e', hashed, same⟩ := List.mem_map.mp hashedKey
    obtain ⟨i, inside, rfl, -⟩ := mem_slotEntries_iff.mp slotted
    obtain ⟨stored, -⟩ := mem_hashEntries_iff.mp hashed
    rw [same] at stored
    have none := apart _ _ stored
    have slot := (slot?_eq_some_iff fits (Int64.ofNat (i + 1)) i).mpr ⟨inside, rfl⟩
    rw [none] at slot
    cases slot

/-- A table counts its entries. -/
theorem count_eq (t : Table) : t.count = t.entries.length := by
  have counted {α : Type} (used : α → Bool) (n : Nat) (items : List α) :
      items.foldl (fun acc a => if used a then acc else acc + 1) n =
        n + (items.filter fun a => !used a).length := by
    induction items generalizing n with
    | nil => rfl
    | cons a rest ih =>
      rw [List.foldl_cons, ih, List.filter_cons]
      cases used a
      · simp
        omega
      · simp
  have slots : (t.array.toList.filter fun v => !v.isNil).length = t.slotEntries.length := by
    rw [← values_slots, List.filter_map, List.length_map]
    rfl
  have hashed := counted (fun e : Key × Value => e.2.isNil) 0 t.hash.toList
  rw [count, usedEntries, entries_eq, List.length_append, ← Array.foldl_toList,
    counted Value.isNil, slots, Std.TreeMap.foldl_eq_foldl_toList, hashed, Nat.zero_add,
    Nat.zero_add]
  rfl

/-- A key is in use if it has an entry. -/
theorem mem_keys_iff (apart : t.Apart) (fits : t.Fits) {k : Key} :
    k ∈ t.entries.map Prod.fst ↔ (t.get k).isNil = false := by
  rw [List.mem_map]
  constructor
  · rintro ⟨e, mem, rfl⟩
    obtain ⟨value, used⟩ := (mem_entries_iff apart fits).mp mem
    rw [value, used]
  · exact fun used => ⟨(k, t.get k), (mem_entries_iff apart fits).mpr ⟨rfl, used⟩, rfl⟩

/-- A sequence has as many entries as positions. -/
theorem IsSequence.count_eq {n : Nat} (sequence : t.IsSequence n) (apart : t.Apart)
    (fits : t.Fits) : t.count = n := by
  have same : (t.entries.map Prod.fst).Perm (positions n) :=
    (List.perm_ext_iff_of_nodup (nodup_entries apart fits)
      (nodup_positions sequence.bounded)).mpr fun k => by
        rw [mem_keys_iff apart fits, sequence.keys, mem_positions_iff]
  have lengths := same.length_eq
  rw [List.length_map, positions, List.length_map, List.length_range] at lengths
  rw [Table.count_eq, lengths]

/-- A table with no more entries than positions up to its length, all of them in use, is a
sequence. -/
theorem isSequence_of_full {n : Nat} (apart : t.Apart) (fits : t.Fits) (bounded : n ≤ lastPosition)
    (full : ∀ m, 1 ≤ m → m ≤ n → t.Has m) (count : t.count = n) : t.IsSequence n where
  bounded := bounded
  keys k := by
    have inside : positions n ⊆ t.entries.map Prod.fst := fun k mem => by
      obtain ⟨m, low, high, rfl⟩ := mem_positions_iff.mp mem
      exact (mem_keys_iff apart fits).mpr (full m low high)
    have perm : (positions n).Perm (t.entries.map Prod.fst) := by
      refine (List.subperm_of_subset (nodup_positions bounded) inside).perm_of_length_le ?_
      rw [List.length_map, ← Table.count_eq, count, positions, List.length_map, List.length_range]
    rw [← mem_keys_iff apart fits, ← perm.mem_iff, mem_positions_iff]

end TableSeed.Lua.Table
