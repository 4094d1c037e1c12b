import TableSeed.Proofs.Expression.Layers
import TableSeed.Proofs.Expression.Unfolding
import TableSeed.Proofs.Json.Arrangement
import TableSeed.Proofs.Json.ReadBack

/-!
# JSON through the language and back

A JSON value that is given to the language stands there in new tables: an array under the positions of
one, an object under the texts of its names, and nothing else. It comes back up to the order of members
if no null stands inside it, no array is empty, every integer is signed, and its containers nest no
deeper than the conversion goes.
-/

namespace TableSeed

open Lua (Heap TableRef Key Table)
open Json (Members)

namespace Conversion

/-- An array is not longer than there are positions in a table. -/
def FitsTable : Json.Value → Prop
  | .array items => items.length ≤ Lua.lastPosition
  | _ => True

/-- What has a form of its own in the language: an integer is signed, an array has items, and nothing in
an array or an object is null. -/
def HasForm : Json.Value → Prop
  | .number (.integer n _) => n < 0x8000000000000000
  | .array items => items ≠ [] ∧ .null ∉ items
  | .object members => ∀ m ∈ members, m.2 ≠ .null
  | .null | .bool _ | .number (.double _ _) | .string _ => True

/-- A JSON value that the language can give back. -/
structure Returnable (v : Json.Value) : Prop where
  nesting : v.nesting ≤ ConversionError.maxDepth
  forms : v.Everywhere HasForm

/-- A Lua value has a JSON value in tables of its own between two places of the heap, where each table
stands before those that are inside it. -/
inductive Carries (h : Heap) (limit : Nat) : Nat → Json.Value → Lua.Value → Prop where
  | null {base : Nat} : Carries h limit base .null .nil
  | bool {base : Nat} (b : Bool) : Carries h limit base (.bool b) (.boolean b)
  | number {base : Nat} (n : Json.Number) : Carries h limit base (.number n) (ofNumber n)
  | string {base : Nat} (s : String) : Carries h limit base (.string s) (.ofText s)
  | array {base : Nat} {r : TableRef} {items : List Json.Value} : base ≤ r.index → r.index < limit →
    (h.table r).Sound → (h.table r).metatable = none →
    (∀ i (inside : i < items.length),
      Carries h limit (r.index + 1) items[i] ((h.table r).valueAt (i + 1))) →
    (∀ k, (h.table r).get k ≠ .nil → k ∈ Table.positions items.length) →
    Carries h limit base (.array items) (.table r)
  | object {base : Nat} {r : TableRef} {members : Members} : base ≤ r.index → r.index < limit →
    (h.table r).Sound → (h.table r).metatable = none →
    (∀ m ∈ members, Carries h limit (r.index + 1) m.2 ((h.table r).getText m.1)) →
    (∀ k, (h.table r).get k ≠ .nil → ∃ m ∈ members, k = .ofText m.1) →
    Carries h limit base (.object members) (.table r)

/-- A table has members under the texts of their names, and nothing else. -/
structure HoldsMembers (h : Heap) (limit base : Nat) (t : Table) (members : Members) : Prop where
  sound : t.Sound
  plain : t.metatable = none
  each : ∀ m ∈ members, Carries h limit base m.2 (t.getText m.1)
  only : ∀ k, t.get k ≠ .nil → ∃ m ∈ members, k = .ofText m.1

section Carrying

variable {h h' : Heap} {limit base limit' base' : Nat} {v : Json.Value} {w : Lua.Value}

/-- What happens to other tables does not matter. -/
theorem Carries.later (carries : Carries h limit base v w)
    (same : ∀ r : TableRef, base ≤ r.index → r.index < limit → h'.table r = h.table r)
    (limits : limit ≤ limit') (bases : base' ≤ base) : Carries h' limit' base' v w := by
  induction carries generalizing base' with
  | null => exact .null
  | bool b => exact .bool b
  | number n => exact .number n
  | string s => exact .string s
  | array low high sound plain each only ih =>
    have here := same _ low high
    refine .array (by omega) (by omega) (here ▸ sound) (here ▸ plain) (fun i inside => ?_) (here ▸ only)
    rw [here]
    exact ih i inside (fun r low' => same r (by omega)) (Nat.le_refl _)
  | object low high sound plain each only ih =>
    have here := same _ low high
    refine .object (by omega) (by omega) (here ▸ sound) (here ▸ plain) (fun m mem => ?_) (here ▸ only)
    rw [here]
    exact ih m mem (fun r low' => same r (by omega)) (Nat.le_refl _)

/-- Only null becomes nil. -/
theorem Carries.ne_nil (carries : Carries h limit base v w) (notNull : v ≠ .null) : w ≠ .nil := by
  cases carries with
  | null => exact absurd rfl notNull
  | number n =>
    cases n with
    | integer n fits =>
      rw [ofNumber]
      split_ifs <;> simp
    | double x finite => simp [ofNumber]
  | _ => simp [Lua.Value.ofText]

/-- What stands for a JSON value is no failure of a helper. -/
theorem Carries.not_aborted (carries : Carries h limit base v w) : w.isAborted = false := by
  cases carries with
  | number n =>
    cases n with
    | integer n fits =>
      rw [ofNumber]
      split_ifs <;> rfl
    | double x finite => rfl
  | _ => rfl

end Carrying

section Giving

variable {h : Heap} {v : Json.Value} {t : TableRef} {entries : List (Key × Json.Value)}

/-- A value under a key gives a table no metatable. -/
theorem metatable_set {t : Table} (sound : t.Sound) (plain : t.metatable = none) (k : Key)
    (v : Lua.Value) : (t.set k v).metatable = none := by
  have holds : t.Holds (fun _ => True) (fun _ => True) fun _ => False :=
    ⟨sound.apart, fun _ => trivial, trivial, fun _ _ => trivial, fun _ _ _ => ⟨trivial, trivial⟩,
      fun r some => nomatch plain.symm.trans some⟩
  have kept : (t.set k v).Holds (fun _ => True) (fun _ => True) fun _ => False := holds.set trivial trivial
  exact Option.eq_none_iff_forall_ne_some.mpr fun r some => kept.metatable r some

/-- Gives keys of a table the values of JSON values. -/
def ofEntries (h : Heap) (t : TableRef) (entries : List (Key × Json.Value)) : Heap :=
  entries.foldl (fun h e => (ofJson h e.2).2.set t e.1 (ofJson h e.2).1) h

/-- Items with their keys, from a position on. -/
def itemEntries (i : Nat) (items : List Json.Value) : List (Key × Json.Value) :=
  (items.zipIdx i).map fun item => (.integer (Int64.ofNat item.2), item.1)

/-- Members with their keys. -/
def memberEntries (members : Members) : List (Key × Json.Value) :=
  members.map fun m => (.ofText m.1, m.2)

/-- Items give the positions of a table their values. -/
theorem ofItems_eq (h : Heap) (t : TableRef) (i : Nat) (items : List Json.Value) :
    ofItems h t i items = ofEntries h t (itemEntries i items) := by
  induction items generalizing h i with
  | nil => rfl
  | cons v rest ih => exact ih ..

/-- Members give the names of a table their values. -/
theorem ofMembers_eq (h : Heap) (t : TableRef) (members : Members) :
    ofMembers h t members = ofEntries h t (memberEntries members) := by
  induction members generalizing h with
  | nil => rfl
  | cons m rest ih => exact ih ..

/-- A value is given to the language in new tables, and those before them stay as they are. -/
structure Given (h : Heap) (v : Json.Value) : Prop where
  fills : ∀ t, Heap.Fills t h (ofJson h v).2
  carries : Carries (ofJson h v).2 (ofJson h v).2.tables.size h.tables.size v (ofJson h v).1

/-- The keys of a table are given their values one after the other: each has its value, and every
other key has what it had. Making a value changes newer tables only. -/
theorem given_entries (inside : t.index < h.tables.size) (sound : (h.table t).Sound)
    (plain : (h.table t).metatable = none) (distinct : (entries.map Prod.fst).Nodup)
    (given : ∀ e ∈ entries, ∀ h, Given h e.2) :
    let after := ofEntries h t entries
    Heap.Fills t h after ∧ (after.table t).Sound ∧ (after.table t).metatable = none ∧ ∀ k,
      (∀ v, (k, v) ∈ entries →
        Carries after after.tables.size (t.index + 1) v ((after.table t).get k)) ∧
      ((∀ v, (k, v) ∉ entries) → (after.table t).get k = (h.table t).get k) := by
  induction entries generalizing h with
  | nil => exact ⟨.refl .., sound, plain, fun k => ⟨nofun, fun _ => rfl⟩⟩
  | cons e rest ih =>
    obtain ⟨key, value⟩ := e
    rw [List.map_cons, List.nodup_cons] at distinct
    obtain ⟨first, later⟩ := List.forall_mem_cons.mp given
    obtain ⟨fills, carries⟩ := first h
    have put := Heap.fills_set (ofJson h value).2 t key (ofJson h value).1
    have inside' : t.index < (ofJson h value).2.tables.size := Nat.lt_of_lt_of_le inside (fills t).grown
    have before : (ofJson h value).2.table t = h.table t :=
      (fills ⟨t.index + 1⟩).spared t inside fun same =>
        absurd (congrArg TableRef.index same) (Nat.ne_of_lt (Nat.lt_succ_self _))
    have table := Heap.table_set_self inside' key (ofJson h value).1
    rw [before] at table
    have inside'' : t.index < ((ofJson h value).2.set t key (ofJson h value).1).tables.size :=
      Nat.lt_of_lt_of_le inside' put.grown
    obtain ⟨fills', sound', plain', found⟩ := ih inside'' (table ▸ sound.set _ _)
      (table ▸ metatable_set sound plain _ _) distinct.2 later
    have other {k : Key} (absent : ∀ v, (k, v) ∉ rest) := (found k).2 absent
    rw [table] at other
    simp only [Table.get_set sound] at other
    refine ⟨(fills t).trans (put.trans fills'), sound', plain', fun k => ⟨fun v mem => ?_, fun absent => ?_⟩⟩
    · rcases List.mem_cons.mp mem with here | there
      · cases here
        have value := other fun v mem => distinct.1 (List.mem_map.mpr ⟨_, mem, rfl⟩)
        rw [if_pos rfl] at value
        rw [ofEntries, List.foldl_cons, ← ofEntries, value]
        refine carries.later (fun r low high => ?_) (put.trans fills').grown (by omega)
        refine (put.trans fills').spared r high fun same => ?_
        rw [same] at low
        omega
      · exact (found k).1 v there
    · have differs : k ≠ key := by
        rintro rfl
        exact absent value List.mem_cons_self
      refine (other fun v mem => absent v (List.mem_cons_of_mem _ mem)).trans ?_
      rw [if_neg differs]

/-- The keys of items are the first positions, each of them once, as long as there are positions for
all. -/
theorem nodup_itemEntries {items : List Json.Value} (fits : items.length ≤ Lua.lastPosition) :
    (itemEntries 1 items).map Prod.fst = Table.positions items.length ∧
      ((itemEntries 1 items).map Prod.fst).Nodup := by
  have keys : (itemEntries 1 items).map Prod.fst = Table.positions items.length := by
    rw [itemEntries, List.map_map, Table.positions]
    refine List.ext_getElem (by simp) fun i inside _ => ?_
    simp [Nat.add_comm]
  exact ⟨keys, keys ▸ Table.nodup_positions fits⟩

/-- Each item has an entry at its position. -/
theorem mem_itemEntries {items : List Json.Value} {i : Nat} (inside : i < items.length) :
    (Key.integer (Int64.ofNat (i + 1)), items[i]) ∈ itemEntries 1 items := by
  refine List.mem_map.mpr ⟨(items[i], i + 1), ?_, rfl⟩
  rw [List.mem_iff_getElem]
  exact ⟨i, by simpa using inside, by simp [Nat.add_comm]⟩

/-- Members with distinct names have distinct keys. -/
theorem nodup_memberEntries {members : Members} (distinct : Members.Distinct members) :
    ((memberEntries members).map Prod.fst).Nodup := by
  have keys : (memberEntries members).map Prod.fst = (Members.names members).map Key.ofText := by
    rw [memberEntries, Members.names, List.map_map, List.map_map]
    rfl
  rw [keys]
  exact distinct.map fun name other => not_imp_not.mp Key.ofText_ne

/-- A new table with entries, which stands above everything that is made for them. -/
theorem given_table (distinct : (entries.map Prod.fst).Nodup)
    (given : ∀ e ∈ entries, ∀ h, Given h e.2) :
    let t := (h.newTable {}).1
    let after := ofEntries (h.newTable {}).2 t entries
    (∀ other, Heap.Fills other h after) ∧ t.index < after.tables.size ∧ (after.table t).Sound ∧
      (after.table t).metatable = none ∧ ∀ k,
        (∀ v, (k, v) ∈ entries →
          Carries after after.tables.size (t.index + 1) v ((after.table t).get k)) ∧
        ((after.table t).get k ≠ .nil → ∃ v, (k, v) ∈ entries) := by
  have blank := Heap.table_newTable_self h {}
  have inside : (h.newTable {}).1.index < (h.newTable {}).2.tables.size :=
    Nat.lt_of_lt_of_eq (Nat.lt_succ_self _) (Array.size_push _).symm
  obtain ⟨fills, sound, plain, found⟩ := given_entries inside (blank.symm ▸ Table.sound_empty)
    (by rw [blank]) distinct given
  have whole := (Heap.fills_newTable (h.newTable {}).1 h {}).trans fills
  refine ⟨fun other => ⟨whole.grown, fun r before _ => whole.spared r before fun same => ?_⟩,
    Nat.lt_of_lt_of_le inside fills.grown, sound, plain, fun k => ⟨(found k).1, fun used => ?_⟩⟩
  · exact absurd (same ▸ before) (Nat.lt_irrefl _)
  · by_contra absent
    have free := (found k).2 (not_exists.mp absent)
    rw [blank, Table.get_empty] at free
    exact used free

/-- Every JSON value stands in the language as it is. -/
theorem given (v : Json.Value) (distinct : v.Distinct) (fits : v.Everywhere FitsTable) (h : Heap) :
    Given h v := by
  induction v using Json.Value.parts_induction generalizing h with
  | null => exact ⟨fun t => .refl t h, .null⟩
  | bool b => exact ⟨fun t => .refl t h, .bool b⟩
  | number n => exact ⟨fun t => .refl t h, .number n⟩
  | string s => exact ⟨fun t => .refl t h, .string s⟩
  | array items ih =>
    have distinct := Json.Value.itemsDistinct_iff.mp distinct
    obtain ⟨short, fits⟩ := Json.Value.everywhere_array_iff.mp fits
    obtain ⟨keys, nodup⟩ := nodup_itemEntries short
    have each : ∀ e ∈ itemEntries 1 items, ∀ h, Given h e.2 := by
      intro e mem h
      obtain ⟨item, isItem, rfl⟩ := List.mem_map.mp mem
      have inside : item.1 ∈ items := List.fst_mem_of_mem_zipIdx isItem
      exact ih _ inside (distinct _ inside) (fits _ inside) h
    obtain ⟨fills, inside, sound, plain, found⟩ := given_table (h := h) nodup each
    rw [← ofItems_eq] at fills inside sound plain found
    refine ⟨fills, .array (Nat.le_refl _) inside sound plain (fun i inside => ?_) fun k used => ?_⟩
    · exact (found _).1 _ (mem_itemEntries inside)
    · obtain ⟨v, mem⟩ := (found k).2 used
      exact keys ▸ List.mem_map.mpr ⟨_, mem, rfl⟩
  | object members ih =>
    obtain ⟨names, distinct⟩ := distinct
    have distinct := (Json.Value.membersDistinct_iff members).mp distinct
    have fits := (Json.Value.everywhere_object_iff.mp fits).2
    have each : ∀ e ∈ memberEntries members, ∀ h, Given h e.2 := by
      intro e mem h
      obtain ⟨m, isMember, rfl⟩ := List.mem_map.mp mem
      exact ih m isMember (distinct m isMember) (fits m isMember) h
    obtain ⟨fills, inside, sound, plain, found⟩ :=
      given_table (h := h) (nodup_memberEntries names) each
    rw [← ofMembers_eq] at fills inside sound plain found
    refine ⟨fills, .object (Nat.le_refl _) inside sound plain (fun m mem => ?_) fun k used => ?_⟩
    · exact (found _).1 _ (List.mem_map.mpr ⟨m, mem, rfl⟩)
    · obtain ⟨v, mem⟩ := (found k).2 used
      obtain ⟨m, mem, same⟩ := List.mem_map.mp mem
      exact ⟨m, mem, (congrArg Prod.fst same).symm⟩

end Giving

section Returning

variable {h : Heap} {limit base room : Nat} {path : List TableRef} {r : TableRef}
  {v : Json.Value} {w : Lua.Value} {items : List Json.Value} {members : Members}

/-- A value that is no table is converted alike in any heap. -/
theorem toJsonWithin_scalar_congr {h' : Heap} (scalar : ∀ r, w ≠ .table r) (room : Nat)
    (path : List TableRef) : toJsonWithin h room path w = toJsonWithin h' room path w := by
  unfold toJsonWithin
  cases w with
  | table r => exact absurd rfl (scalar r)
  | failure f => cases f <;> rfl
  | _ => rfl

/-- Only the tables of the heap tell what a value becomes. -/
theorem toJsonWithin_congr {h' : Heap} (same : h.tables = h'.tables) (room : Nat)
    (path : List TableRef) (w : Lua.Value) : toJsonWithin h room path w = toJsonWithin h' room path w := by
  have tables (r : TableRef) : h.table r = h'.table r := by rw [Heap.table, Heap.table, same]
  obtain ⟨r, rfl⟩ | scalar := table_or_scalar w
  · induction room generalizing path r with
    | zero => rfl
    | succ room ih =>
      have converts : toJsonWithin h room (r :: path) = toJsonWithin h' room (r :: path) := by
        funext w
        obtain ⟨r', rfl⟩ | scalar := table_or_scalar w
        · exact ih (r :: path) r'
        · exact toJsonWithin_scalar_congr scalar room (r :: path)
      rw [toJsonWithin_table_eq, toJsonWithin_table_eq, tables, converts]
  · exact toJsonWithin_scalar_congr scalar room path

/-- A Lua value becomes a JSON value up to the order of members. -/
def Returns (h : Heap) (room : Nat) (path : List TableRef) (w : Lua.Value) (v : Json.Value) : Prop :=
  ∃ j, toJsonWithin h room path w = .ok j ∧ v.Rearranged j

/-- A value of a table that becomes a JSON value is no failure of a helper. -/
theorem isAborted_of_keys (sound : (h.table r).Sound)
    (keys : ∀ k, (h.table r).get k ≠ .nil →
      k.toValue.isAborted = false ∧ ((h.table r).get k).isAborted = false) :
    isAborted (h.table r) = false := by
  rw [isAborted, List.any_eq_false]
  intro e mem
  obtain ⟨value, used⟩ := (Table.mem_entries_iff sound.apart sound.fits).mp mem
  obtain ⟨key, calm⟩ := keys e.1 (value ▸ Lua.Value.isNil_eq_false_iff.mp used)
  rw [← value, key, calm]
  decide

/-- A table with items under the positions of an array becomes that array. -/
theorem returns_array (outside : r ∉ path) (sound : (h.table r).Sound)
    (calm : isAborted (h.table r) = false) (some : items ≠ []) (fits : items.length ≤ Lua.lastPosition)
    (used : ∀ i < items.length, (h.table r).valueAt (i + 1) ≠ .nil)
    (only : ∀ k, (h.table r).get k ≠ .nil → k ∈ Table.positions items.length)
    (each : ∀ i (inside : i < items.length),
      Returns h room (r :: path) ((h.table r).valueAt (i + 1)) items[i]) :
    Returns h (room + 1) path (.table r) (.array items) := by
  have sequence : (h.table r).IsSequence items.length := by
    refine ⟨fits, fun k => ?_⟩
    rw [Lua.Value.isNil_eq_false_iff]
    refine ⟨fun isUsed => Table.mem_positions_iff.mp (only k isUsed), ?_⟩
    rintro ⟨m, low, high, rfl⟩
    obtain ⟨i, rfl⟩ := Nat.exists_eq_add_of_le' low
    exact used i high
  obtain ⟨array, border, -⟩ :=
    isArray_of_isSequence (List.length_pos_iff.mpr some) sequence sound.apart sound.fits
  have isValues : values (h.table r) =
      (List.range items.length).map fun i => (h.table r).valueAt (i + 1) := by
    rw [values, if_pos array, border]
  rw [Returns, toJsonWithin_table_eq, if_neg outside, if_neg (by rw [calm]; decide), if_pos array,
    isValues]
  generalize found : ((List.range items.length).map fun i => (h.table r).valueAt (i + 1)).mapM
    (toJsonWithin h room (r :: path)) = converted
  cases converted with
  | error e =>
    obtain ⟨w, mem, failed⟩ := exists_of_mapM_error found
    obtain ⟨i, inside, rfl⟩ := List.mem_map.mp mem
    obtain ⟨j, returned, -⟩ := each i (List.mem_range.mp inside)
    rw [returned] at failed
    cases failed
  | ok js =>
    have forms := mapM_eq_ok_iff.mp found
    have length : items.length = js.length := by simpa using forms.length_eq
    refine ⟨.array js, rfl, Json.Value.rearranged_array (List.forall₂_iff_get.mpr ⟨length, ?_⟩)⟩
    intro i inside inside'
    obtain ⟨j, returned, same⟩ := each i inside
    have form := forms.get (by simpa using inside) inside'
    simp only [List.get_eq_getElem, List.getElem_map, List.getElem_range, returned] at form
    rw [List.get_eq_getElem, List.get_eq_getElem, ← Except.ok.inj form]
    exact same

section Texts

variable {t : Table} (sound : t.Sound)
  (only : ∀ k, t.get k ≠ .nil → ∃ m ∈ members, k = .ofText m.1)

include only

/-- A table that has nothing but texts for its keys has no integer in use. -/
theorem get_integer_of_texts (n : Int64) : t.get (.integer n) = .nil := by
  by_contra isUsed
  obtain ⟨m, -, same⟩ := only _ isUsed
  cases same

include sound

/-- It is no array. -/
theorem isArray_of_texts : isArray t = false := by
  have border : t.border = 0 := by
    have isBorder := Table.isBorder_border sound.fits
    refine isBorder.used.resolve_right fun has => ?_
    rw [Table.Has, Table.valueAt, show t.getInt _ = .nil from get_integer_of_texts only _] at has
    cases has
  rw [isArray, border]
  rfl

/-- Its entries are under the names of members. -/
theorem member_of_entry {e : Key × Lua.Value} (mem : e ∈ t.entries) :
    ∃ m ∈ members, e.1 = .ofText m.1 ∧ e.2 = t.getText m.1 := by
  obtain ⟨value, isUsed⟩ := (Table.mem_entries_iff sound.apart sound.fits).mp mem
  obtain ⟨m, mem, key⟩ := only e.1 (value ▸ Lua.Value.isNil_eq_false_iff.mp isUsed)
  exact ⟨m, mem, key, value.symm.trans (congrArg _ key)⟩

end Texts

/-- What a conversion makes of the entries of a table is the members that the table has under the texts
of their names, in the order of its entries. -/
theorem rearranged_of_forms {t : Table} (sound : t.Sound) {ms : Members}
    {convert : Lua.Value → Except ConversionError Json.Value}
    (used : ∀ m ∈ members, t.getText m.1 ≠ .nil)
    (only : ∀ k, t.get k ≠ .nil → ∃ m ∈ members, k = .ofText m.1)
    (distinct : Members.Distinct members) (distinct' : Members.Distinct ms)
    (each : ∀ m ∈ members, ∃ j, convert (t.getText m.1) = .ok j ∧ m.2.Rearranged j)
    (forms : List.Forall₂ (IsMember convert) (named t) ms) :
    (Json.Value.object members).Rearranged (.object ms) := by
  refine Json.Value.rearranged_object distinct distinct' ?_ ?_
  · intro m isMember
    have mem : (Key.ofText m.1, t.getText m.1) ∈ named t := by
      refine List.mem_filter.mpr ⟨(Table.mem_entries_iff sound.apart sound.fits).mpr ⟨rfl, ?_⟩, ?_⟩
      · exact Lua.Value.isNil_eq_false_iff.mpr (used m isMember)
      · rw [memberName?_ofText]
        rfl
    obtain ⟨n, mem', isName, form⟩ := exists_of_mem_forall₂ forms mem
    obtain ⟨j, returned, same⟩ := each m isMember
    rw [returned] at form
    rw [memberName?_ofText] at isName
    have isForm : j = n.2 := Except.ok.inj form
    exact ⟨n, mem', (Except.ok.inj (Option.some.inj isName)).symm, isForm ▸ same⟩
  · intro n mem
    obtain ⟨e, mem', isName, form⟩ := exists_of_mem_forall₂ forms.flip mem
    obtain ⟨m, isMember, key, value⟩ := member_of_entry sound only (List.mem_of_mem_filter mem')
    obtain ⟨j, returned, same⟩ := each m isMember
    rw [value, returned] at form
    rw [key, memberName?_ofText] at isName
    have isForm : j = n.2 := Except.ok.inj form
    exact ⟨m, isMember, (Except.ok.inj (Option.some.inj isName)).symm, isForm ▸ same⟩

/-- A table with members under the texts of their names becomes an object of them. -/
theorem returns_object (outside : r ∉ path) (sound : (h.table r).Sound)
    (calm : isAborted (h.table r) = false) (distinct : Members.Distinct members)
    (used : ∀ m ∈ members, (h.table r).getText m.1 ≠ .nil)
    (only : ∀ k, (h.table r).get k ≠ .nil → ∃ m ∈ members, k = .ofText m.1)
    (each : ∀ m ∈ members, Returns h room (r :: path) ((h.table r).getText m.1) m.2) :
    Returns h (room + 1) path (.table r) (.object members) := by
  rw [Returns, toJsonWithin_table_eq, if_neg outside, if_neg (by rw [calm]; decide),
    if_neg (by rw [isArray_of_texts sound only]; decide)]
  generalize found : Conversion.members (toJsonWithin h room (r :: path)) (h.table r) = converted
  cases converted with
  | error e =>
    obtain ⟨failing, mem, failed⟩ := exists_of_foldlM_addMember_error found
    obtain ⟨m, isMember, key, value⟩ := member_of_entry sound only mem
    rw [key, value, memberName?_ofText] at failed
    obtain ⟨j, returned, -⟩ := each m isMember
    rw [returned] at failed
    rcases failed with failed | ⟨-, failed⟩
    · cases failed
    · cases failed
  | ok ns =>
    obtain ⟨ms, forms, rfl⟩ := foldlM_addMember_ok found
    have distinct' : Members.Distinct ([] ++ ms) := by
      refine (distinct_iff_of_forms sound.apart sound.fits forms).mpr ?_
      rintro ⟨n, isUsed, -⟩
      rw [get_integer_of_texts only n] at isUsed
      cases isUsed
    rw [Members.putAll_of_distinct distinct']
    exact ⟨.object ms, rfl, rearranged_of_forms sound used only distinct distinct' each forms⟩

/-- A number that is signed, if it is an integer, becomes itself. -/
theorem returns_number {n : Json.Number} (form : HasForm (.number n)) :
    Returns h room path (ofNumber n) (.number n) := by
  cases n with
  | integer n fits =>
    have signed : n < 0x8000000000000000 := form
    have value : (Int64.ofInt n).toInt = n := Int64.toInt_ofInt_of_le (by omega) (by omega)
    have same : Json.Number.ofInt64 (Int64.ofInt n) = .integer n fits := by
      simp only [Json.Number.ofInt64, value]
    refine ⟨.number (.ofInt64 (Int64.ofInt n)), ?_, congrArg Json.Value.sorted (by rw [same])⟩
    rw [ofNumber, if_pos signed]
    cases room <;> rfl
  | double x finite =>
    refine ⟨.number (.double x finite), ?_, .refl _⟩
    have isFinite : Json.Number.ofDouble? x = some (.double x finite) := dif_pos finite
    rw [ofNumber]
    unfold toJsonWithin
    simp only [isFinite]

/-- A text comes back. -/
theorem returns_string (s : String) : Returns h room path (.ofText s) (.string s) := by
  refine ⟨.string s, ?_, .refl _⟩
  have text : (Bytes.ofText s).toText? = some s := toText?_eq_some_iff.mpr rfl
  unfold toJsonWithin Lua.Value.ofText
  simp only [text]

/-- On the way into a table that stands above and outside of what it is inside of. -/
theorem outside_cons (low : base ≤ r.index) (high : r.index < limit)
    (outside : ∀ x ∈ path, x.index < base ∨ limit ≤ x.index) :
    r ∉ path ∧ ∀ x ∈ r :: path, x.index < r.index + 1 ∨ limit ≤ x.index := by
  constructor
  · intro inside
    have := outside r inside
    omega
  · intro x mem
    rcases List.mem_cons.mp mem with rfl | mem
    · exact .inl (Nat.lt_succ_self _)
    · have := outside x mem
      omega

/-- The table of an array becomes the array if its items come back. -/
theorem returns_items (outside : r ∉ path) (sound : (h.table r).Sound)
    (fits : items.length ≤ Lua.lastPosition) (form : HasForm (.array items))
    (each : ∀ i (inside : i < items.length),
      Carries h limit base items[i] ((h.table r).valueAt (i + 1)))
    (only : ∀ k, (h.table r).get k ≠ .nil → k ∈ Table.positions items.length)
    (back : ∀ i (inside : i < items.length),
      Returns h room (r :: path) ((h.table r).valueAt (i + 1)) items[i]) :
    Returns h (room + 1) path (.table r) (.array items) := by
  obtain ⟨some, notNull⟩ := form
  have calm : isAborted (h.table r) = false := by
    refine isAborted_of_keys sound fun k isUsed => ?_
    obtain ⟨m, low, high, rfl⟩ := Table.mem_positions_iff.mp (only k isUsed)
    obtain ⟨i, rfl⟩ := Nat.exists_eq_add_of_le' low
    exact ⟨rfl, (each i high).not_aborted⟩
  refine returns_array outside sound calm some fits (fun i inside => ?_) only back
  refine (each i inside).ne_nil fun isNull => notNull ?_
  rw [← isNull]
  exact List.getElem_mem inside

/-- The table of an object becomes the object if its members come back. -/
theorem returns_members (outside : r ∉ path) (distinct : Members.Distinct members)
    (form : HasForm (.object members)) (holds : HoldsMembers h limit base (h.table r) members)
    (back : ∀ m ∈ members, Returns h room (r :: path) ((h.table r).getText m.1) m.2) :
    Returns h (room + 1) path (.table r) (.object members) := by
  have calm : isAborted (h.table r) = false := by
    refine isAborted_of_keys holds.sound fun k isUsed => ?_
    obtain ⟨m, mem, rfl⟩ := holds.only k isUsed
    exact ⟨rfl, (holds.each m mem).not_aborted⟩
  exact returns_object outside holds.sound calm distinct
    (fun m mem => (holds.each m mem).ne_nil (form m mem)) holds.only back

/-- A JSON value that stands in the language comes back. -/
theorem returns (v : Json.Value) (distinct : v.Distinct) (fits : v.Everywhere FitsTable)
    (forms : v.Everywhere HasForm) (shallow : v.nesting ≤ room) (carries : Carries h limit base v w)
    (outside : ∀ r ∈ path, r.index < base ∨ limit ≤ r.index) : Returns h room path w v := by
  induction v using Json.Value.parts_induction generalizing room path base w with
  | null =>
    cases carries
    exact ⟨.null, by cases room <;> rfl, .refl _⟩
  | bool b =>
    cases carries
    exact ⟨.bool b, by cases room <;> rfl, .refl _⟩
  | number n =>
    cases carries
    exact returns_number forms
  | string s =>
    cases carries
    exact returns_string s
  | array items ih =>
    cases carries with
    | array low high sound plain each only =>
      obtain ⟨form, forms⟩ := Json.Value.everywhere_array_iff.mp forms
      obtain ⟨short, fits⟩ := Json.Value.everywhere_array_iff.mp fits
      have distinct := Json.Value.itemsDistinct_iff.mp distinct
      obtain ⟨room, rfl⟩ := Nat.exists_eq_add_of_le' (Nat.le_of_add_left_le shallow)
      have shallow := Json.Value.itemsNesting_le_iff.mp (Nat.le_of_add_le_add_right shallow)
      obtain ⟨fresh, outside⟩ := outside_cons low high outside
      refine returns_items fresh sound short form each only fun i inside => ?_
      have mem : items[i] ∈ items := List.getElem_mem inside
      exact ih _ mem (distinct _ mem) (fits _ mem) (forms _ mem) (shallow _ mem) (each i inside) outside
  | object members ih =>
    cases carries with
    | object low high sound plain each only =>
      obtain ⟨form, forms⟩ := Json.Value.everywhere_object_iff.mp forms
      have fits := (Json.Value.everywhere_object_iff.mp fits).2
      obtain ⟨names, distinct⟩ := distinct
      have distinct := (Json.Value.membersDistinct_iff members).mp distinct
      obtain ⟨room, rfl⟩ := Nat.exists_eq_add_of_le' (Nat.le_of_add_left_le shallow)
      have shallow := Json.Value.membersNesting_le_iff.mp (Nat.le_of_add_le_add_right shallow)
      obtain ⟨fresh, outside⟩ := outside_cons low high outside
      refine returns_members fresh names form ⟨sound, plain, each, only⟩ fun m mem => ?_
      exact ih m mem (distinct m mem) (fits m mem) (forms m mem) (shallow m mem) (each m mem) outside

end Returning

end Conversion

end TableSeed
