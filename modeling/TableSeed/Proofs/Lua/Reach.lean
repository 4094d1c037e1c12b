import TableSeed.Proofs.Lua.Entries

/-!
# What values and tables reach

A value, a key or a table lies within a set of tables if it refers to no table outside that set, and,
where that is asked for, if it is no failure of a helper that could not go on. What is read out of such
a table lies within the set, and a table stays within it when it is given such keys and values.
-/

namespace TableSeed.Lua

/-- What values may be. -/
structure Reach where
  /-- The tables that they may refer to. -/
  tables : TableRef → Prop
  /-- Whether they may be failures of helpers that could not go on. -/
  aborted : Prop

instance : CoeFun Reach fun _ => TableRef → Prop := ⟨Reach.tables⟩

variable {R : Reach}

namespace Value

/-- The value refers to no table outside of a set. -/
def Within (R : Reach) : Value → Prop
  | .table r => R r
  | .builtin (.gmatchStep state) => R ⟨state⟩
  | .failure .aborted => R.aborted
  | _ => True

/-- The value nil refers to nothing. -/
@[simp] theorem within_nil : Value.nil.Within R := trivial

/-- A boolean refers to nothing. -/
@[simp] theorem within_boolean (b : Bool) : (Value.boolean b).Within R := trivial

/-- An integer refers to nothing. -/
@[simp] theorem within_integer (n : Int64) : (Value.integer n).Within R := trivial

/-- A float refers to nothing. -/
@[simp] theorem within_float (x : Binary64) : (Value.float x).Within R := trivial

/-- A string refers to nothing. -/
@[simp] theorem within_string (s : Bytes) : (Value.string s).Within R := trivial

/-- A text as a value refers to nothing. -/
@[simp] theorem within_ofText (s : String) : (Value.ofText s).Within R := trivial

/-- A number as a value refers to nothing. -/
@[simp] theorem within_ofNum (n : Num) : (Value.ofNum n).Within R := by
  cases n <;> trivial

/-- A table refers to itself. -/
@[simp] theorem within_table (r : TableRef) : (Value.table r).Within R ↔ R r := Iff.rfl

/-- The iterator of a search refers to the table with its state. -/
@[simp] theorem within_gmatchStep (state : Nat) :
    (Value.builtin (.gmatchStep state)).Within R ↔ R ⟨state⟩ := Iff.rfl

/-- A base function refers to nothing. -/
@[simp] theorem within_base (f : BaseFunction) : (Value.builtin (.base f)).Within R := trivial

/-- A function of the UTF-8 library refers to nothing. -/
@[simp] theorem within_utf8 (f : Utf8Function) : (Value.builtin (.utf8 f)).Within R := trivial

/-- A value within reach is within a wider reach. -/
theorem Within.mono {S : Reach} {v : Value} (within : v.Within R) (wider : ∀ r, R r → S r)
    (aborted : R.aborted → S.aborted) : v.Within S := by
  cases v with
  | table r => exact wider r within
  | builtin f =>
    cases f with
    | gmatchStep state => exact wider _ within
    | _ => trivial
  | failure f =>
    cases f with
    | aborted => exact aborted within
    | _ => trivial
  | _ => trivial

/-- Only the failure of a helper that could not go on ends a run. -/
theorem isAborted_iff (v : Value) : v.isAborted = true ↔ v = .failure .aborted := by
  cases v with
  | failure f => cases f <;> simp [isAborted]
  | _ => simp [isAborted]

/-- The values refer to no table outside of a set. -/
def AllWithin (R : Reach) (vs : List Value) : Prop := ∀ v ∈ vs, v.Within R

/-- No values are within any reach. -/
@[simp] theorem allWithin_nil : AllWithin R [] := nofun

/-- Values are within reach if the first one and the others are. -/
@[simp] theorem allWithin_cons (v : Value) (vs : List Value) :
    AllWithin R (v :: vs) ↔ v.Within R ∧ AllWithin R vs := List.forall_mem_cons

/-- Values and more values are within reach if both are. -/
@[simp] theorem allWithin_append (vs ws : List Value) :
    AllWithin R (vs ++ ws) ↔ AllWithin R vs ∧ AllWithin R ws := List.forall_mem_append

/-- The order of values does not matter for their reach. -/
@[simp] theorem allWithin_reverse (vs : List Value) : AllWithin R vs.reverse ↔ AllWithin R vs := by
  simp only [AllWithin, List.mem_reverse]

variable {vs : List Value}

/-- A value at any position is within reach, and one that is missing is nil. -/
theorem AllWithin.getD (within : AllWithin R vs) (i : Nat) : (vs.getD i .nil).Within R := by
  rw [List.getD_eq_getElem?_getD]
  cases found : vs[i]? with
  | none => trivial
  | some v => exact within v (List.mem_of_getElem? found)

/-- The first value is within reach, and one that is missing is nil. -/
theorem AllWithin.headD (within : AllWithin R vs) : (vs.headD .nil).Within R := by
  cases vs with
  | nil => trivial
  | cons v rest => exact ((allWithin_cons v rest).mp within).1

/-- The values after the first ones are within reach. -/
theorem AllWithin.drop (within : AllWithin R vs) (n : Nat) : AllWithin R (vs.drop n) :=
  fun v mem => within v (List.mem_of_mem_drop mem)

/-- The values after the first one are within reach. -/
theorem AllWithin.tail (within : AllWithin R vs) : AllWithin R vs.tail :=
  fun v mem => within v (List.mem_of_mem_tail mem)

end Value

namespace Key

/-- The key refers to no table outside of a set. -/
def Within (R : Reach) (k : Key) : Prop := k.toValue.Within R

/-- An integer as a key refers to nothing. -/
@[simp] theorem within_integer (n : Int64) : (Key.integer n).Within R := trivial

/-- A text as a key refers to nothing. -/
@[simp] theorem within_ofText (s : String) : (Key.ofText s).Within R := trivial

/-- A key refers to what it does as a value. -/
@[simp] theorem within_toValue (k : Key) : k.toValue.Within R ↔ k.Within R := Iff.rfl

/-- A value is a key that refers to the same table. -/
theorem within_of_toKey? {v : Value} {k : Key} (found : v.toKey? = some k) (within : v.Within R) :
    k.Within R := by
  cases v with
  | nil => cases found
  | float x =>
    simp only [Value.toKey?] at found
    split at found
    · cases found
      trivial
    · split at found <;> cases found
      trivial
  | _ =>
    cases found
    exact within

end Key

namespace Table

/-- No key of the hash part has a place in the array part. -/
def Apart (t : Table) : Prop := ∀ n v, t.hash[Key.integer n]? = some v → t.slot? n = none

/-- What a table holds, absent entries included: its keys, its values and its metatable each meet a
condition, and no key has two places. -/
structure Holds (K : Key → Prop) (V : Value → Prop) (M : TableRef → Prop) (t : Table) : Prop where
  apart : t.Apart
  integer : ∀ n, K (.integer n)
  absent : V .nil
  array : ∀ v ∈ t.array, V v
  hash : ∀ (k : Key) (v : Value), t.hash[k]? = some v → K k ∧ V v
  metatable : ∀ r, t.metatable = some r → M r

/-- The table refers to no table outside of a set. -/
abbrev Within (R : Reach) (t : Table) : Prop :=
  t.Holds (Key.Within R) (Value.Within R) R

namespace Holds

variable {K : Key → Prop} {V : Value → Prop} {M : TableRef → Prop} {t : Table}

/-- A place of the array part holds a value that meets the condition. -/
theorem getD (holds : t.Holds K V M) (i : Nat) : V (t.array.getD i .nil) := by
  rw [Array.getD_eq_getD_getElem?]
  cases found : t.array[i]? with
  | none => exact holds.absent
  | some v => exact holds.array v (Array.mem_of_getElem? found)

/-- A key of the hash part holds a value that meets the condition. -/
theorem hash_getD (holds : t.Holds K V M) (k : Key) : V (t.hash.getD k .nil) := by
  rw [Std.TreeMap.getD_eq_getD_getElem?]
  cases found : t.hash[k]? with
  | none => exact holds.absent
  | some v => exact (holds.hash k v found).2

/-- The value under an integer meets the condition. -/
theorem getInt (holds : t.Holds K V M) (n : Int64) : V (t.getInt n) := by
  unfold Table.getInt
  split
  · exact holds.getD _
  · exact holds.hash_getD _

/-- The value under any key meets the condition. -/
theorem get (holds : t.Holds K V M) (k : Key) : V (t.get k) := by
  cases k with
  | integer n => exact holds.getInt n
  | _ => exact holds.hash_getD _

/-- The next entry of the array part meets the conditions. -/
theorem nextSlot (holds : t.Holds K V M) (fuel i : Nat) {e : Key × Value}
    (found : t.nextSlot fuel i = some e) : K e.1 ∧ V e.2 := by
  induction fuel generalizing i with
  | zero => cases found
  | succ fuel ih =>
    rw [Table.nextSlot] at found
    split at found
    · exact ih (i + 1) found
    · cases found
      exact ⟨holds.integer _, holds.getD i⟩

/-- The next entry of the hash part meets the conditions. -/
theorem nextEntry (holds : t.Holds K V M) (fuel : Nat) (k : Key) {e : Key × Value}
    (found : t.nextEntry fuel k = some e) : K e.1 ∧ V e.2 := by
  induction fuel generalizing k with
  | zero => cases found
  | succ fuel ih =>
    rw [Table.nextEntry] at found
    split at found
    · split at found
      · exact ih _ found
      · cases found
        exact holds.hash _ _ (getElem?_of_later (by assumption))
    · cases found

/-- The first entry of the hash part meets the conditions. -/
theorem firstEntry (holds : t.Holds K V M) {e : Key × Value}
    (found : t.firstEntry = some e) : K e.1 ∧ V e.2 := by
  rw [Table.firstEntry] at found
  split at found
  · split at found
    · exact holds.nextEntry _ _ found
    · cases found
      exact holds.hash _ _ (getElem?_of_first (by assumption))
  · cases found

/-- What a walk over the entries comes to. -/
theorem next (holds : t.Holds K V M) (k : Option Key) {e : Key × Value}
    (found : t.next k = some (some e)) : K e.1 ∧ V e.2 := by
  have either (fuel i : Nat) (found : (t.nextSlot fuel i).or t.firstEntry = some e) :
      K e.1 ∧ V e.2 := by
    rcases Option.or_eq_some_iff.mp found with here | ⟨-, there⟩
    · exact holds.nextSlot _ _ here
    · exact holds.firstEntry there
  unfold Table.next at found
  split at found
  · exact either _ _ (Option.some.inj found)
  · split at found
    · exact either _ _ (Option.some.inj found)
    · split at found
      · exact holds.nextEntry _ _ (Option.some.inj found)
      · cases found
  · split at found
    · exact holds.nextEntry _ _ (Option.some.inj found)
    · cases found

/-- All entries meet the conditions. -/
theorem mem_entries (holds : t.Holds K V M) {e : Key × Value} (mem : e ∈ t.entries) :
    K e.1 ∧ V e.2 := by
  rw [entries, List.mem_append, List.mem_filterMap, List.mem_filter] at mem
  rcases mem with ⟨i, -, found⟩ | ⟨mem, -⟩
  · dsimp only at found
    split at found <;> cases found
    exact ⟨holds.integer _, holds.getD i⟩
  · exact holds.hash _ _ (Std.TreeMap.mem_toList_iff_getElem?_eq_some.mp mem)

/-- An entry that meets the conditions may come into the hash part, if its key has no place in the
array part. -/
theorem insert (holds : t.Holds K V M) {k : Key} {v : Value} (key : K k) (value : V v)
    (free : ∀ n, k = .integer n → t.slot? n = none) :
    ({ t with hash := t.hash.insert k v } : Table).Holds K V M where
  apart n w found := by
    rw [Std.TreeMap.getElem?_insert] at found
    split at found
    · rename_i same
      exact free n (Std.LawfulEqCmp.eq_of_compare same)
    · exact holds.apart n w found
  integer := holds.integer
  absent := holds.absent
  array := holds.array
  hash a w found := by
    rw [Std.TreeMap.getElem?_insert] at found
    split at found
    · rename_i same
      obtain rfl := Std.LawfulEqCmp.eq_of_compare same
      cases found
      exact ⟨key, value⟩
    · exact holds.hash a w found
  metatable := holds.metatable

/-- A value that meets the condition may come into a place of the array part. -/
theorem setSlot (holds : t.Holds K V M) (i : Nat) {v : Value} (value : V v) :
    ({ t with array := t.array.setIfInBounds i v } : Table).Holds K V M where
  apart n w found := by
    have none := holds.apart n w found
    rw [slot?] at none ⊢
    simpa only [Array.size_setIfInBounds] using none
  integer := holds.integer
  absent := holds.absent
  array w mem := by
    rcases Array.mem_or_eq_of_mem_setIfInBounds mem with old | rfl
    · exact holds.array w old
    · exact value
  hash := holds.hash
  metatable := holds.metatable

/-- An entry that meets the conditions may come where it belongs. -/
theorem place (holds : t.Holds K V M) {k : Key} {v : Value} (key : K k) (value : V v) :
    (t.place k v).Holds K V M := by
  unfold Table.place
  split
  · split
    · exact holds.setSlot _ value
    · rename_i n free
      refine holds.insert key value fun m same => ?_
      obtain rfl := Key.integer.inj same
      exact free
  · rename_i other
    exact holds.insert key value fun n same => (other n same).elim

/-- Laying a table out anew moves its entries. -/
theorem resize (holds : t.Holds K V M) (items entries : Nat) :
    (t.resize items entries).Holds K V M := by
  have placed (moved : List (Key × Value)) (all : ∀ e ∈ moved, K e.1 ∧ V e.2) (acc : Table)
      (blank : acc.Holds K V M) :
      (moved.foldl (fun acc e => if e.2.isNil then acc else acc.place e.1 e.2) acc).Holds K V M := by
    induction moved generalizing acc with
    | nil => exact blank
    | cons e rest ih =>
      refine ih (fun e mem => all e (List.mem_cons_of_mem _ mem)) _ ?_
      obtain ⟨key, value⟩ := all e (List.mem_cons_self ..)
      dsimp only
      split
      · exact blank
      · exact blank.place key value
  refine placed _ (fun e mem => ?_) _
    ⟨fun n v found => ?_, holds.integer, holds.absent, fun v mem => ?_, fun k v found => ?_,
      holds.metatable⟩
  · rcases List.mem_append.mp mem with vanishing | stored
    · obtain ⟨j, -, rfl⟩ := List.mem_map.mp vanishing
      exact ⟨holds.integer _, holds.getD _⟩
    · exact holds.hash _ _ (Std.TreeMap.mem_toList_iff_getElem?_eq_some.mp stored)
  · rw [Std.TreeMap.getElem?_emptyc] at found
    cases found
  · rcases Array.mem_append.mp mem with kept | filled
    · obtain ⟨i, inside, rfl⟩ := Array.mem_extract_iff_getElem.mp kept
      exact holds.array _ (Array.getElem_mem _)
    · rw [(Array.mem_replicate.mp filled).2]
      exact holds.absent
  · rw [Std.TreeMap.getElem?_emptyc] at found
    cases found

/-- A key and a value that meet the conditions may be set. -/
theorem set (holds : t.Holds K V M) {k : Key} {v : Value} (key : K k) (value : V v) :
    (t.set k v).Holds K V M := by
  have entry (k : Key) (key : K k) (free : ∀ n, k = .integer n → t.slot? n = none) :
      (if t.hash.contains k then { t with hash := t.hash.insert k v }
      else if v.isNil then t
      else if t.hash.size < t.room then { t with hash := t.hash.insert k v }
      else (t.rehash k).place k v : Table).Holds K V M := by
    split
    · exact holds.insert key value free
    · split
      · exact holds
      · split
        · exact holds.insert key value free
        · exact (holds.resize _ _).place key value
  cases k with
  | integer n =>
    cases slot : t.slot? n with
    | some i =>
      have : t.set (.integer n) v = { t with array := t.array.setIfInBounds i v } := by
        simp only [Table.set, slot]
      rw [this]
      exact holds.setSlot i value
    | none =>
      simp only [Table.set, slot]
      refine entry _ key fun m same => ?_
      obtain rfl := Key.integer.inj same
      exact slot
  | _ => exact entry _ key fun _ other => by cases other

/-- The array part may grow. -/
theorem growArray (holds : t.Holds K V M) (items : Nat) : (t.growArray items).Holds K V M := by
  unfold Table.growArray
  split
  · exact holds
  · exact holds.resize _ _

/-- The metatable may be one that meets its condition. -/
theorem withMetatable (holds : t.Holds K V M) {m : Option TableRef}
    (meets : ∀ r, m = some r → M r) : ({ t with metatable := m } : Table).Holds K V M :=
  ⟨holds.apart, holds.integer, holds.absent, holds.array, holds.hash, meets⟩

/-- What a table holds may be known to meet less. -/
theorem mono {K' : Key → Prop} {V' : Value → Prop} {M' : TableRef → Prop} (holds : t.Holds K V M)
    (keys : ∀ k, K k → K' k) (values : ∀ v, V v → V' v) (metatables : ∀ r, M r → M' r) :
    t.Holds K' V' M' where
  apart := holds.apart
  integer n := keys _ (holds.integer n)
  absent := values _ holds.absent
  array v mem := values v (holds.array v mem)
  hash k v found := (holds.hash k v found).imp (keys k) (values v)
  metatable r found := metatables r (holds.metatable r found)

end Holds

/-- A table with room and without entries holds nothing. -/
theorem holds_withRoom {K : Key → Prop} {V : Value → Prop} {M : TableRef → Prop}
    (integer : ∀ n, K (.integer n)) (absent : V .nil) (items entries : Nat) :
    (Table.withRoom items entries).Holds K V M where
  apart n v found := by
    rw [withRoom, Std.TreeMap.getElem?_emptyc] at found
    cases found
  integer := integer
  absent := absent
  array v mem := by
    rw [(Array.mem_replicate.mp mem).2]
    exact absent
  hash k v found := by
    rw [withRoom, Std.TreeMap.getElem?_emptyc] at found
    cases found
  metatable := nofun

/-- The empty table holds nothing. -/
theorem holds_empty {K : Key → Prop} {V : Value → Prop} {M : TableRef → Prop}
    (integer : ∀ n, K (.integer n)) (absent : V .nil) : ({} : Table).Holds K V M :=
  holds_withRoom integer absent 0 0

/-- A table with room and without entries is within any reach. -/
theorem within_withRoom (items entries : Nat) : (Table.withRoom items entries).Within R :=
  holds_withRoom Key.within_integer Value.within_nil items entries

/-- The empty table is within any reach. -/
theorem within_empty : ({} : Table).Within R := within_withRoom 0 0

end Table

end TableSeed.Lua
