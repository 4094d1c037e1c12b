import TableSeed.Proofs.Lua.Counts

/-!
# Updates of a table

A table finds under a key what was last put there, and under every other key what it found before,
even where the update has laid it out anew. So a table that is given the entries of another one by
one finds the same under every key.
-/

namespace TableSeed.Lua

/-- A value is something unless it is nil. -/
theorem Value.isNil_eq_false_iff {v : Value} : v.isNil = false ↔ v ≠ .nil := by
  cases v <;> simp [isNil]

namespace Table

/-- No key has two places in the table, and its positions are integers. -/
structure Sound (t : Table) : Prop where
  apart : t.Apart
  fits : t.Fits

variable {t : Table}

/-- The empty table is sound. -/
theorem sound_empty : ({} : Table).Sound :=
  ⟨(within_empty (R := ⟨fun _ => True, True⟩)).apart, Nat.zero_lt_succ _⟩

/-- The empty table has nil under every key. -/
theorem get_empty (k : Key) : ({} : Table).get k = .nil := by
  refine (get_of_no_slot fun n _ => ?_).trans Std.TreeMap.getD_emptyc
  rw [Option.eq_none_iff_forall_ne_some]
  exact fun i found => absurd ((slot?_eq_some_iff sound_empty.fits n i).mp found).1 (Nat.not_lt_zero i)

section Parts

/-- A place in the array part belongs to one integer. -/
theorem slot?_inj (fits : t.Fits) {m n : Int64} {i : Nat} (first : t.slot? m = some i)
    (second : t.slot? n = some i) : m = n := by
  rw [slot?_eq_some_iff fits] at first second
  rw [first.2, second.2]

/-- The hash part has places for the keys that have none in the array part. -/
theorem get_insert {k : Key} (free : ∀ n, k = .integer n → t.slot? n = none) (v : Value) (k' : Key) :
    ({ t with hash := t.hash.insert k v } : Table).get k' = if k' = k then v else t.get k' := by
  by_cases same : k' = k
  · subst same
    rw [if_pos rfl, get_of_no_slot (t := { t with hash := t.hash.insert k' v }) free]
    exact Std.TreeMap.getD_insert_self
  · have other : (t.hash.insert k v).getD k' .nil = t.hash.getD k' .nil := by
      rw [Std.TreeMap.getD_insert, if_neg]
      exact fun equal => same (Std.LawfulEqCmp.eq_of_compare equal).symm
    rw [if_neg same]
    cases k' with
    | integer m =>
      change ({ t with hash := t.hash.insert k v } : Table).getInt m = t.getInt m
      cases slot : t.slot? m with
      | some i =>
        have slot' : ({ t with hash := t.hash.insert k v } : Table).slot? m = some i := slot
        rw [getInt, getInt, slot, slot']
      | none =>
        have slot' : ({ t with hash := t.hash.insert k v } : Table).slot? m = none := slot
        rw [getInt, getInt, slot, slot']
        exact other
    | _ => exact other

/-- The array part has a place for each of its integers. -/
theorem get_setSlot (fits : t.Fits) {n : Int64} {i : Nat} (slot : t.slot? n = some i) (v : Value)
    (k' : Key) :
    ({ t with array := t.array.setIfInBounds i v } : Table).get k' =
      if k' = .integer n then v else t.get k' := by
  have slots (m : Int64) :
      ({ t with array := t.array.setIfInBounds i v } : Table).slot? m = t.slot? m := by
    simp only [slot?, Array.size_setIfInBounds]
  have inside := ((slot?_eq_some_iff fits n i).mp slot).1
  cases k' with
  | integer m =>
    change ({ t with array := t.array.setIfInBounds i v } : Table).getInt m = _
    rw [getInt, slots]
    cases place : t.slot? m with
    | none =>
      have other : Key.integer m ≠ .integer n := by
        rintro same
        cases same
        rw [slot] at place
        cases place
      rw [if_neg other, get, getInt, place]
    | some j =>
      dsimp only
      rw [Array.getD_eq_getD_getElem?, Array.getElem?_setIfInBounds]
      by_cases same : i = j
      · subst same
        rw [if_pos rfl, if_pos inside, if_pos (congrArg Key.integer (slot?_inj fits place slot))]
        rfl
      · have other : Key.integer m ≠ .integer n := by
          rintro equal
          cases equal
          exact same (Option.some.inj (slot.symm.trans place))
        rw [if_neg same, if_neg other, get, getInt, place, ← Array.getD_eq_getD_getElem?]
  | _ => rfl

/-- A key that is put where it belongs has the new value, and all others have their own. -/
theorem get_place (fits : t.Fits) (k : Key) (v : Value) (k' : Key) :
    (t.place k v).get k' = if k' = k then v else t.get k' := by
  unfold place
  split
  · rename_i n
    split
    · exact get_setSlot fits (by assumption) v k'
    · rename_i free
      refine get_insert (fun m same => ?_) v k'
      cases same
      exact free
  · rename_i other
    exact get_insert (fun n same => (other n same).elim) v k'

/-- The array part stays as long when an entry is put where it belongs. -/
theorem size_place (t : Table) (k : Key) (v : Value) : (t.place k v).array.size = t.array.size := by
  unfold place
  split
  · split
    · exact Array.size_setIfInBounds
    · rfl
  · rfl

end Parts

section Entries

/-- Entries with different keys, one after the other: each is found, and nothing else has changed. -/
theorem get_foldl (update : Table → Key → Value → Table) (Sound : Table → Prop)
    (keeps : ∀ t k v, Sound t → Sound (update t k v))
    (updates : ∀ t k v k', Sound t → (update t k v).get k' = if k' = k then v else t.get k')
    {entries : List (Key × Value)} (distinct : (entries.map Prod.fst).Nodup) (sound : Sound t) :
    let after := entries.foldl (fun t e => update t e.1 e.2) t
    Sound after ∧ ∀ k,
      (∀ v, (k, v) ∈ entries → after.get k = v) ∧
        ((∀ v, (k, v) ∉ entries) → after.get k = t.get k) := by
  induction entries generalizing t with
  | nil => exact ⟨sound, fun k => ⟨nofun, fun _ => rfl⟩⟩
  | cons e rest ih =>
    obtain ⟨key, value⟩ := e
    rw [List.map_cons, List.nodup_cons] at distinct
    obtain ⟨after, found⟩ := ih distinct.2 (keeps t key value sound)
    refine ⟨after, fun k => ⟨fun v mem => ?_, fun absent => ?_⟩⟩
    · rcases List.mem_cons.mp mem with here | there
      · cases here
        have absent : ∀ w, (key, w) ∉ rest := fun w mem =>
          distinct.1 (List.mem_map.mpr ⟨_, mem, rfl⟩)
        exact ((found key).2 absent).trans (by rw [updates t key value key sound, if_pos rfl])
      · exact (found k).1 v there
    · have other : k ≠ key := by
        rintro rfl
        exact absent value (List.mem_cons_self ..)
      refine ((found k).2 fun w mem => absent w (List.mem_cons_of_mem _ mem)).trans ?_
      rw [updates t key value k sound, if_neg other]

/-- The entries that do not stay in the array part when it is cut to a size. -/
def moved (t : Table) (items : Nat) : List (Key × Value) :=
  (t.slots.drop items ++ t.hash.toList).filter fun e => !e.2.isNil

/-- A table with an array part of a size, as far as it has items for it, and nothing else. -/
def cut (t : Table) (items entries : Nat) : Table :=
  let kept := t.array.extract 0 items
  { t with array := kept ++ Array.replicate (items - kept.size) .nil, hash := {},
           room := roomFor entries }

/-- A table is laid out anew by putting the entries that move into what is cut. -/
theorem resize_eq (t : Table) (items entries : Nat) :
    t.resize items entries =
      (t.moved items).foldl (fun t e => t.place e.1 e.2) (t.cut items entries) := by
  have dropped : (List.range (t.array.size - items)).map (fun j =>
      (Key.integer (Int64.ofNat (items + j + 1)), t.array.getD (items + j) .nil)) =
        t.slots.drop items := by
    refine List.ext_getElem (by simp [slots]) fun j _ _ => ?_
    simp [slots]
  rw [resize, moved, List.foldl_filter, dropped]
  refine congrArg (List.foldl · _ _) ?_
  funext acc e
  cases e.2.isNil <;> rfl

/-- What is cut has an array part of that size. -/
theorem size_cut (t : Table) (items entries : Nat) : (t.cut items entries).array.size = items := by
  simp only [cut, Array.size_append, Array.size_extract, Array.size_replicate]
  omega

/-- The entries that move are some of the entries, in order. -/
theorem moved_sublist (t : Table) (items : Nat) : (t.moved items).Sublist t.entries := by
  rw [entries_eq, moved, List.filter_append]
  exact ((List.drop_sublist _ _).filter _).append (List.Sublist.refl _)

/-- A position of the array part after the cut has the item that it had, if it had one. -/
theorem get_cut_of_lt {items : Nat} (bound : items < lastPosition) (entries : Nat) {i : Nat}
    (inside : i < items) :
    (t.cut items entries).get (.integer (Int64.ofNat (i + 1))) = t.array.getD i .nil := by
  have fits : (t.cut items entries).Fits := by
    rw [Fits, size_cut]
    exact bound
  refine (valueAt_of_le fits (Nat.succ_pos i) (by rw [size_cut]; exact inside)).trans ?_
  simp only [cut, Array.getD_eq_getD_getElem?]
  grind

/-- Every other key is free. -/
theorem get_cut_of_ne {items : Nat} (bound : items < lastPosition) (entries : Nat) {k : Key}
    (other : ∀ i < items, k ≠ .integer (Int64.ofNat (i + 1))) : (t.cut items entries).get k = .nil := by
  have fits : (t.cut items entries).Fits := by
    rw [Fits, size_cut]
    exact bound
  refine (get_of_no_slot fun n same => ?_).trans Std.TreeMap.getD_emptyc
  rw [Option.eq_none_iff_forall_ne_some]
  intro i found
  obtain ⟨inside, rfl⟩ := (slot?_eq_some_iff fits n i).mp found
  rw [size_cut] at inside
  exact other i inside same

/-- A key in use stays in the array part, or it is moved. -/
theorem stays_or_mem_moved (sound : t.Sound) (items : Nat) {k : Key}
    (used : t.get k ≠ .nil) :
    (∃ i < t.array.size, i < items ∧ k = .integer (Int64.ofNat (i + 1))) ∨
      (k, t.get k) ∈ t.moved items := by
  have used := Value.isNil_eq_false_iff.mpr used
  have mem : (k, t.get k) ∈ t.entries := (mem_entries_iff sound.apart sound.fits).mpr ⟨rfl, used⟩
  rw [entries_eq, List.mem_append] at mem
  rcases mem with slotted | hashed
  · obtain ⟨i, inside, same, -⟩ := mem_slotEntries_iff.mp slotted
    by_cases low : i < items
    · exact .inl ⟨i, inside, low, congrArg Prod.fst same⟩
    · have later : (k, t.get k) ∈ t.slots.drop items := by
        rw [same, List.mem_drop_iff_getElem]
        refine ⟨i - items, by simp [slots]; omega, ?_⟩
        simp [slots, Nat.add_sub_cancel' (Nat.le_of_not_lt low)]
      exact .inr (List.mem_filter.mpr ⟨List.mem_append_left _ later, by simpa using used⟩)
  · rw [hashEntries, List.mem_filter] at hashed
    exact .inr (List.mem_filter.mpr ⟨List.mem_append_right _ hashed.1, hashed.2⟩)

/-- What is not moved is found after the cut as before. -/
theorem get_cut (sound : t.Sound) {items : Nat} (bound : items < lastPosition)
    (entries : Nat) {k : Key} (unmoved : ∀ v, (k, v) ∉ t.moved items) :
    (t.cut items entries).get k = t.get k := by
  have bounded : t.array.size < lastPosition := sound.fits
  have absent (gone : ∀ i < t.array.size, i < items → k ≠ .integer (Int64.ofNat (i + 1))) :
      t.get k = .nil := by
    by_contra used
    rcases stays_or_mem_moved sound items used with ⟨i, inside, low, same⟩ | mem
    · exact gone i inside low same
    · exact unmoved _ mem
  by_cases stays : ∃ i < items, k = .integer (Int64.ofNat (i + 1))
  · obtain ⟨i, low, rfl⟩ := stays
    rw [get_cut_of_lt bound entries low]
    by_cases inside : i < t.array.size
    · exact (valueAt_of_le sound.fits (Nat.succ_pos i) inside).symm
    · rw [absent, Array.getD_eq_getD_getElem?, Array.getElem?_eq_none (Nat.le_of_not_lt inside)]
      · rfl
      · intro j inside' low' same
        have := ofNat_inj (by omega) (by omega) (Key.integer.inj same)
        omega
  · simp only [not_exists, not_and] at stays
    rw [get_cut_of_ne bound entries stays, absent fun i _ => stays i]

/-- Laying a table out anew changes nothing that is found in it. -/
theorem resize_spec (sound : t.Sound) {items : Nat} (bound : items < lastPosition)
    (entries : Nat) (k : Key) :
    (t.resize items entries).Fits ∧ (t.resize items entries).get k = t.get k := by
  have blank : (t.cut items entries).Fits := by
    rw [Fits, size_cut]
    exact bound
  have distinct : ((t.moved items).map Prod.fst).Nodup :=
    (nodup_entries sound.apart sound.fits).sublist ((t.moved_sublist items).map _)
  rw [resize_eq]
  obtain ⟨after, found⟩ := get_foldl place Fits
    (fun t k v fits => by rw [Fits, size_place]; exact fits)
    (fun t k v k' fits => get_place fits k v k') distinct blank
  refine ⟨after, ?_⟩
  by_cases moved : ∃ v, (k, v) ∈ t.moved items
  · obtain ⟨v, mem⟩ := moved
    have held := (mem_entries_iff sound.apart sound.fits).mp ((t.moved_sublist items).mem mem)
    exact ((found k).1 v mem).trans held.1.symm
  · rw [not_exists] at moved
    exact ((found k).2 moved).trans (get_cut sound bound entries moved)

end Entries

section Sets

/-- A power of two is looked for in as many rounds as there are classes. -/
theorem bestSize_le (counts : Array Nat) (total fuel i seen : Nat) (best : Nat × Nat) :
    (bestSize counts total fuel i seen best).1 ≤ max best.1 (2 ^ (i + fuel)) := by
  induction fuel generalizing i seen best with
  | zero => exact Nat.le_max_left ..
  | succ fuel ih =>
    rw [bestSize]
    split
    · have power : 2 ^ i ≤ 2 ^ (i + (fuel + 1)) := Nat.pow_le_pow_right (by decide) (by omega)
      refine (ih _ _ _).trans ?_
      rw [show i + 1 + fuel = i + (fuel + 1) by omega]
      split
      · exact Nat.max_le.mpr ⟨power.trans (Nat.le_max_right ..), Nat.le_max_right ..⟩
      · exact Nat.le_refl _
    · exact Nat.le_max_left ..

/-- Making room keeps the table fitting and the value under each key. -/
theorem rehash_spec (sound : t.Sound) (extra k : Key) :
    (t.rehash extra).Fits ∧ (t.rehash extra).get k = t.get k := by
  have small (counts : Array Nat) (total : Nat) :
      (bestSize counts total classes 0 0 (0, 0)).1 < lastPosition :=
    Nat.lt_of_le_of_lt (bestSize_le counts total classes 0 0 (0, 0)) (by decide)
  unfold rehash
  exact resize_spec sound (small _ _) _ k

/-- A key with a place in the array part is set in its place. -/
theorem set_eq_of_slot {n : Int64} {i : Nat} (slot : t.slot? n = some i) (v : Value) :
    t.set (.integer n) v = { t with array := t.array.setIfInBounds i v } := by
  simp only [set, slot]

/-- A key without a place in the array part. -/
theorem set_eq_of_free {k : Key} (free : ∀ n, k = .integer n → t.slot? n = none) (v : Value) :
    t.set k v =
      if t.hash.contains k then { t with hash := t.hash.insert k v }
      else if v.isNil then t
      else if t.hash.size < t.room then { t with hash := t.hash.insert k v }
      else (t.rehash k).place k v := by
  cases k with
  | integer n => simp only [set, free n rfl]
  | _ => rfl

/-- A key that is set has the new value and all others have their own, and the table stays
fitting. -/
theorem set_spec (sound : t.Sound) (k : Key) (v : Value) (k' : Key) :
    (t.set k v).Fits ∧ (t.set k v).get k' = if k' = k then v else t.get k' := by
  by_cases free : ∀ n, k = .integer n → t.slot? n = none
  · have inserted : ({ t with hash := t.hash.insert k v } : Table).Fits ∧
        ({ t with hash := t.hash.insert k v } : Table).get k' = if k' = k then v else t.get k' :=
      ⟨sound.fits, get_insert free v k'⟩
    have updated := set_eq_of_free free v
    generalize t.set k v = u at updated ⊢
    split at updated
    · exact updated ▸ inserted
    · rename_i fresh
      split at updated
      · rename_i absent
        subst updated
        refine ⟨sound.fits, ?_⟩
        split
        · rename_i same
          rw [same, get_of_no_slot free,
            Std.TreeMap.getD_eq_fallback_of_contains_eq_false (Bool.eq_false_iff.mpr fresh)]
          cases v with
          | nil => rfl
          | _ => cases absent
        · rfl
      · split at updated
        · exact updated ▸ inserted
        · obtain ⟨fits, kept⟩ := rehash_spec sound k k'
          subst updated
          rw [Fits, size_place, get_place fits, kept]
          exact ⟨fits, rfl⟩
  · obtain ⟨n, rfl, taken⟩ : ∃ n, k = .integer n ∧ t.slot? n ≠ none := by simpa using free
    obtain ⟨i, slot⟩ := Option.ne_none_iff_exists'.mp taken
    rw [set_eq_of_slot slot]
    refine ⟨?_, get_setSlot sound.fits slot v k'⟩
    rw [Fits, Array.size_setIfInBounds]
    exact sound.fits

/-- An update puts no key into two places. -/
theorem Apart.set (apart : t.Apart) (k : Key) (v : Value) : (t.set k v).Apart :=
  Holds.apart (K := fun _ => True) (V := fun _ => True) (M := fun _ => True) <|
    Holds.set ⟨apart, fun _ => trivial, trivial, fun _ _ => trivial, fun _ _ _ => ⟨trivial, trivial⟩,
      fun _ _ => trivial⟩ trivial trivial

/-- A sound table stays sound when a key is set. -/
theorem Sound.set (sound : t.Sound) (k : Key) (v : Value) : (t.set k v).Sound :=
  ⟨sound.apart.set k v, (set_spec sound k v k).1⟩

/-- The value that a key is given is the one found under it, and under every other key there is what
was there. -/
theorem get_set (sound : t.Sound) (k : Key) (v : Value) (k' : Key) :
    (t.set k v).get k' = if k' = k then v else t.get k' := (set_spec sound k v k').2

/-- A table that is given the entries of another. -/
theorem get_foldl_set (sound : t.Sound) (k : Key) :
    (t.entries.foldl (fun (copy : Table) e => copy.set e.1 e.2) {}).get k = t.get k := by
  obtain ⟨-, found⟩ := get_foldl Table.set Sound
    (fun t k v sound => sound.set k v)
    (fun t k v k' sound => get_set sound k v k')
    (nodup_entries sound.apart sound.fits) sound_empty
  by_cases used : t.get k = .nil
  · refine (((found k).2 fun v mem => ?_).trans (get_empty k)).trans used.symm
    obtain ⟨held, isUsed⟩ := (mem_entries_iff sound.apart sound.fits).mp mem
    exact Value.isNil_eq_false_iff.mp isUsed (held.symm.trans used)
  · exact (found k).1 _ ((mem_entries_iff sound.apart sound.fits).mpr
      ⟨rfl, Value.isNil_eq_false_iff.mpr used⟩)

end Sets

end Table

end TableSeed.Lua
