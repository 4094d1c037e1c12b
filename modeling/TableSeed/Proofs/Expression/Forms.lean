import TableSeed.Expression.Evaluation
import TableSeed.Json.Writer
import TableSeed.Proofs.Json.Members
import TableSeed.Proofs.Lua.Counts
import TableSeed.Proofs.Traversal

/-!
# Tables as JSON

A table whose keys are a sequence becomes an array of its values. Any other table becomes an object
of its entries under texts and integers, unless its length happens to be the number of its entries.
Two entries share a member if one stands under an integer and the other under the decimal text of
that integer. In every other case no entry is lost.
-/

namespace TableSeed

open Lua (Heap TableRef Key Table)
open Json (Members)

namespace Conversion

/-- The entries that an object has members for: those under texts and integers. -/
def named (t : Table) : List (Key × Lua.Value) := t.entries.filter fun e => (memberName? e.1).isSome

/-- A member is the form of an entry: it holds the form of the value under the name of the key. -/
def IsMember (convert : Lua.Value → Except ConversionError Json.Value) (e : Key × Lua.Value)
    (m : String × Json.Value) : Prop :=
  memberName? e.1 = some (.ok m.1) ∧ convert e.2 = .ok m.2

/-- A form of a table in which no entry is lost: an array if the keys are a sequence, and otherwise
an object with one member for every entry under a text or an integer. -/
inductive Keeps (t : Table) (convert : Lua.Value → Except ConversionError Json.Value) :
    Json.Value → Prop where
  | array {items : List Json.Value} : 1 ≤ items.length → t.IsSequence items.length →
    (∀ i (inside : i < items.length), convert (t.valueAt (i + 1)) = .ok items[i]) →
    Keeps t convert (.array items)
  | object {members ms : Members} : (∀ n, 1 ≤ n → ¬t.IsSequence n) → Members.Distinct members →
    List.Forall₂ (IsMember convert) (named t) ms → ms.Perm members →
    Keeps t convert (.object members)

/-- The length is the number of the entries, though a position before it is empty. -/
def Gapped (t : Table) : Prop := t.count = t.border ∧ ∃ m, 1 ≤ m ∧ m < t.border ∧ ¬t.Has m

/-- A table that is no array has an entry under an integer and one under the text of that integer. -/
def Clashing (t : Table) : Prop :=
  isArray t = false ∧ ∃ n : Int64, (t.get (.integer n)).isNil = false ∧
    (t.getText (toString n.toInt)).isNil = false

/-- What the form of a table is. -/
structure Forms (t : Table) (convert : Lua.Value → Except ConversionError Json.Value)
    (j : Json.Value) : Prop where
  /-- No entry is lost, but in the two cases. -/
  keeps : Keeps t convert j ↔ ¬Gapped t ∧ ¬Clashing t
  /-- Every sequence is kept. -/
  sequence : ∀ n, 1 ≤ n → t.IsSequence n → Keeps t convert j
  /-- An array has the values up to the length, null for the empty ones. -/
  items : isArray t = true → ∃ items, j = .array items ∧ items.length = t.border ∧
    ∀ i (inside : i < items.length), convert (t.valueAt (i + 1)) = .ok items[i]
  /-- An object has the members of the entries, put one by one. -/
  members : isArray t = false → ∃ ms, List.Forall₂ (IsMember convert) (named t) ms ∧
    j = .object (Members.putAll [] ms)

section Names

/-- The bytes of a text are of no other text. -/
theorem toText?_eq_some_iff {b : Bytes} {s : String} : b.toText? = some s ↔ b = .ofText s := by
  unfold Bytes.toText? String.fromUTF8?
  split_ifs with valid
  · constructor
    · rintro ⟨⟩
      rfl
    · rintro rfl
      rfl
  · refine iff_of_false (by simp) ?_
    rintro rfl
    exact valid s.isValidUTF8

/-- A name is that of a text and, if it is a numeral, that of an integer. -/
theorem memberName?_eq_ok_iff {k : Key} {name : String} :
    memberName? k = some (.ok name) ↔
      k = .ofText name ∨ ∃ n : Int64, k = .integer n ∧ toString n.toInt = name := by
  cases k with
  | string b =>
    rw [memberName?, Option.some_inj]
    simp only [Key.ofText, Key.string.injEq, reduceCtorEq, false_and, exists_false, or_false]
    rw [← toText?_eq_some_iff]
    cases b.toText? <;> simp
  | integer n => simp [memberName?, Key.ofText]
  | _ => simp [memberName?, Key.ofText]

/-- A key that is a text names its member. -/
theorem memberName?_ofText (name : String) : memberName? (.ofText name) = some (.ok name) :=
  memberName?_eq_ok_iff.mpr (.inl rfl)

/-- Different integers have different texts. -/
theorem toString_toInt_inj {m n : Int64} (same : toString m.toInt = toString n.toInt) : m = n := by
  rw [Int.toString_eq_repr, Int.toString_eq_repr] at same
  exact Int64.toInt_inj.mp (Int.repr_inj.mp same)

/-- Two keys of one name are an integer and its text. -/
theorem exists_integer_of_same_name {k k' : Key} {name : String} (differs : k ≠ k')
    (first : memberName? k = some (.ok name)) (second : memberName? k' = some (.ok name)) :
    ∃ n : Int64, (k = .integer n ∧ k' = .ofText (toString n.toInt)) ∨
      (k' = .integer n ∧ k = .ofText (toString n.toInt)) := by
  rcases memberName?_eq_ok_iff.mp first with rfl | ⟨m, rfl, rfl⟩ <;>
    rcases memberName?_eq_ok_iff.mp second with rfl | ⟨n, rfl, same⟩
  · exact absurd rfl differs
  · exact ⟨n, .inr ⟨rfl, by rw [same]⟩⟩
  · exact ⟨m, .inl ⟨rfl, rfl⟩⟩
  · exact absurd (congrArg Key.integer (toString_toInt_inj same).symm) differs

end Names

section Members

variable {convert : Lua.Value → Except ConversionError Json.Value} {t : Table}

/-- The object of some entries has their members, put one by one. -/
theorem foldlM_addMember_ok {entries : List (Key × Lua.Value)} {acc members : Members}
    (ok : entries.foldlM (addMember convert) acc = .ok members) :
    ∃ ms, List.Forall₂ (IsMember convert) (entries.filter fun e => (memberName? e.1).isSome) ms ∧
      members = Members.putAll acc ms := by
  induction entries generalizing acc with
  | nil =>
    cases ok
    exact ⟨[], .nil, rfl⟩
  | cons e rest ih =>
    rw [List.foldlM_cons, addMember] at ok
    cases named : memberName? e.1 with
    | none =>
      rw [named] at ok
      obtain ⟨ms, forms, same⟩ := ih ok
      exact ⟨ms, by simpa [named] using forms, same⟩
    | some name =>
      rw [named] at ok
      cases name with
      | error fault => cases ok
      | ok name =>
        cases converted : convert e.2 with
        | error fault => simp [converted, bind, Except.bind] at ok
        | ok v =>
          simp only [converted, bind, Except.bind, pure, Except.pure] at ok
          obtain ⟨ms, forms, same⟩ := ih ok
          refine ⟨(name, v) :: ms, ?_, same⟩
          rw [List.filter_cons_of_pos (by simp [named])]
          exact .cons ⟨named, converted⟩ forms

/-- The names of members are those of the keys. -/
theorem names_of_forms {entries : List (Key × Lua.Value)} {ms : Members}
    (forms : List.Forall₂ (IsMember convert) entries ms) :
    entries.map (fun e => memberName? e.1) =
      (Members.names ms).map fun name => some (.ok name) := by
  induction forms with
  | nil => rfl
  | cons first _ ih =>
    rw [List.map_cons, ih, first.1]
    rfl

/-- The members of a table have different names unless an integer and its text are both in use. -/
theorem distinct_iff_of_forms (apart : t.Apart) (fits : t.Fits) {ms : Members}
    (forms : List.Forall₂ (IsMember convert) (named t) ms) :
    Members.Distinct ms ↔ ¬∃ n : Int64, (t.get (.integer n)).isNil = false ∧
      (t.getText (toString n.toInt)).isNil = false := by
  have names := names_of_forms forms
  have asNames : Members.Distinct ms ↔ ((named t).map fun e => memberName? e.1).Nodup := by
    rw [names, List.nodup_map_iff fun _ _ same => Except.ok.inj (Option.some.inj same)]
    rfl
  have keys : ((named t).map Prod.fst).Nodup :=
    (Table.nodup_entries apart fits).sublist (List.filter_sublist.map _)
  have used {e : Key × Lua.Value} (mem : e ∈ named t) : (t.get e.1).isNil = false := by
    obtain ⟨value, used⟩ := (Table.mem_entries_iff apart fits).mp (List.mem_of_mem_filter mem)
    rw [value, used]
  rw [asNames]
  constructor
  · rintro nodup ⟨n, integer, text⟩
    have entry {k : Key} (used : (t.get k).isNil = false)
        (is : memberName? k = some (.ok (toString n.toInt))) : (k, t.get k) ∈ named t :=
      List.mem_filter.mpr ⟨(Table.mem_entries_iff apart fits).mpr ⟨rfl, used⟩, by simp [is]⟩
    have textName := memberName?_ofText (toString n.toInt)
    have same := List.inj_on_of_nodup_map nodup (entry text textName) (entry integer rfl) textName
    cases (Prod.mk.inj same).1
  · intro clashless
    refine List.Nodup.map_on (fun e mem e' mem' same => ?_) (List.Nodup.of_map _ keys)
    by_contra differs
    have keysDiffer : e.1 ≠ e'.1 := fun equal =>
      differs (List.inj_on_of_nodup_map keys mem mem' equal)
    obtain ⟨name, -, is⟩ : ∃ name ∈ Members.names ms, some (.ok name) = memberName? e.1 := by
      rw [← List.mem_map, ← names]
      exact List.mem_map_of_mem mem
    obtain ⟨n, ⟨first, second⟩ | ⟨first, second⟩⟩ :=
      exists_integer_of_same_name keysDiffer is.symm (is.trans same).symm
    · exact clashless ⟨n, first ▸ used mem, by rw [Table.getText, ← second]; exact used mem'⟩
    · exact clashless ⟨n, first ▸ used mem', by rw [Table.getText, ← second]; exact used mem⟩

end Members

section Tables

variable {h : Heap} {room : Nat} {path : List TableRef} {r : TableRef} {j : Json.Value}
  {t : Table} {convert : Lua.Value → Except ConversionError Json.Value}

/-- A table becomes an array or an object. -/
theorem toJsonWithin_table (ok : toJsonWithin h (room + 1) path (.table r) = .ok j) :
    (isArray (h.table r) = true ∧ ∃ items,
      (List.range (h.table r).border).mapM (fun i =>
        toJsonWithin h room (r :: path) ((h.table r).valueAt (i + 1))) = .ok items ∧
      j = .array items) ∨
    (isArray (h.table r) = false ∧ ∃ members,
      (h.table r).entries.foldlM (addMember (toJsonWithin h room (r :: path))) [] = .ok members ∧
      j = .object members) := by
  unfold toJsonWithin at ok
  dsimp only at ok
  split_ifs at ok with cyclic aborted array
  · refine .inl ⟨array, ?_⟩
    cases found : (List.range (h.table r).border).mapM fun i =>
        toJsonWithin h room (r :: path) ((h.table r).getInt (Int64.ofNat (i + 1))) with
    | error fault => simp only [found, bind, Except.bind, reduceCtorEq] at ok
    | ok items =>
      simp only [found, bind, Except.bind, pure, Except.pure, Except.ok.injEq] at ok
      exact ⟨items, found, ok.symm⟩
  · refine .inr ⟨by simpa using array, ?_⟩
    cases found : (h.table r).entries.foldlM (addMember (toJsonWithin h room (r :: path))) [] with
    | error fault => simp [found, bind, Except.bind] at ok
    | ok members =>
      simp only [found, bind, Except.bind, pure, Except.pure, Except.ok.injEq] at ok
      exact ⟨members, rfl, ok.symm⟩

/-- A sequence is an array, and its length is no accident. -/
theorem isArray_of_isSequence {n : Nat} (positive : 1 ≤ n) (sequence : t.IsSequence n)
    (apart : t.Apart) (fits : t.Fits) : isArray t = true ∧ t.border = n ∧ ¬Gapped t := by
  have border := sequence.border_eq fits
  refine ⟨?_, border, ?_⟩
  · rw [isArray, border, sequence.count_eq apart fits, Bool.and_eq_true]
    exact ⟨decide_eq_true positive, beq_self_eq_true n⟩
  · rintro ⟨-, m, low, high, empty⟩
    have bounded := sequence.bounded
    exact empty ((sequence.has_iff low (by omega)).mpr (by omega))

/-- An array without a gap is a sequence. -/
theorem isSequence_of_isArray (apart : t.Apart) (fits : t.Fits) (array : isArray t = true)
    (gapless : ¬Gapped t) : 1 ≤ t.border ∧ t.IsSequence t.border := by
  rw [isArray, Bool.and_eq_true, decide_eq_true_eq, beq_iff_eq] at array
  obtain ⟨positive, count⟩ := array
  have border := Table.isBorder_border fits
  refine ⟨positive, Table.isSequence_of_full apart fits border.bounded (fun m low high => ?_) count⟩
  rcases Nat.lt_or_eq_of_le high with below | rfl
  · by_contra empty
    exact gapless ⟨count, m, low, below, empty⟩
  · exact border.used.resolve_left (by omega)

/-- Every table that becomes JSON keeps its entries, unless its length hides a gap or an integer
stands beside its own text. -/
theorem forms_of_toJsonWithin (apart : (h.table r).Apart) (fits : (h.table r).Fits)
    (ok : toJsonWithin h (room + 1) path (.table r) = .ok j) :
    Forms (h.table r) (toJsonWithin h room (r :: path)) j := by
  have found := toJsonWithin_table ok
  clear ok
  generalize h.table r = t at apart fits found ⊢
  generalize toJsonWithin h room (r :: path) = convert at found ⊢
  rcases found with ⟨array, items, found, rfl⟩ | ⟨array, members, found, rfl⟩
  · have values := mapM_eq_ok_iff.mp found
    have length : items.length = t.border := by simpa using values.length_eq.symm
    have each (i : Nat) (inside : i < items.length) : convert (t.valueAt (i + 1)) = .ok items[i] := by
      have value := values.get (by simpa [← length] using inside) inside
      simpa using value
    have kept (gapless : ¬Gapped t) : Keeps t convert (.array items) := by
      obtain ⟨positive, sequence⟩ := isSequence_of_isArray apart fits array gapless
      rw [← length] at positive sequence
      exact .array positive sequence each
    constructor
    case keeps =>
      constructor
      · rintro (⟨positive, sequence, -⟩ | _)
        refine ⟨(isArray_of_isSequence positive sequence apart fits).2.2, ?_⟩
        rintro ⟨noArray, -⟩
        rw [array] at noArray
        cases noArray
      · rintro ⟨gapless, -⟩
        exact kept gapless
    case sequence =>
      intro n positive sequence
      exact kept (isArray_of_isSequence positive sequence apart fits).2.2
    case items => exact fun _ => ⟨items, rfl, length, each⟩
    case members =>
      intro noArray
      rw [array] at noArray
      cases noArray
  · obtain ⟨ms, forms, rfl⟩ := foldlM_addMember_ok found
    have irregular (n : Nat) (positive : 1 ≤ n) : ¬t.IsSequence n := fun sequence => by
      rw [(isArray_of_isSequence positive sequence apart fits).1] at array
      cases array
    have gapless : ¬Gapped t := by
      rintro ⟨count, m, low, high, -⟩
      rw [isArray, count, beq_self_eq_true, Bool.and_true, decide_eq_false_iff_not] at array
      omega
    have clash := distinct_iff_of_forms apart fits forms
    constructor
    case keeps =>
      constructor
      · rintro (_ | ⟨-, distinct, forms', perm⟩)
        refine ⟨gapless, ?_⟩
        rintro ⟨-, clashes⟩
        have distinct' := (perm.map Prod.fst).nodup_iff.mpr distinct
        exact (distinct_iff_of_forms apart fits forms').mp distinct' clashes
      · rintro ⟨-, clashless⟩
        have distinct : Members.Distinct ([] ++ ms) :=
          clash.mpr fun clashes => clashless ⟨array, clashes⟩
        rw [Members.putAll_of_distinct distinct]
        exact .object irregular distinct forms (.refl _)
    case sequence => exact fun n positive sequence => absurd sequence (irregular n positive)
    case items =>
      intro isArray'
      rw [array] at isArray'
      cases isArray'
    case members => exact fun _ => ⟨ms, forms, rfl⟩

end Tables

section Losses

/-- A heap with one table. -/
def alone (t : Table) : Heap := { tables := #[t] }

/-- The table of `{7, x = true}`. -/
def mixed : Table := ((Table.withRoom 1 1).set (.integer 1) (.integer 7)).set (.ofText "x") (.boolean true)

/-- A table with a list item and a field keeps both. -/
theorem forms_of_mixed :
    let j : Json.Value := .object [("1", .number (.ofInt64 7)), ("x", .bool true)]
    ((alone mixed).table ⟨0⟩).Apart ∧ ((alone mixed).table ⟨0⟩).Fits ∧
      toJsonWithin (alone mixed) 128 [] (.table ⟨0⟩) = .ok j ∧
      Forms ((alone mixed).table ⟨0⟩) (toJsonWithin (alone mixed) 127 [⟨0⟩]) j := by
  intro j
  have holds : mixed.Holds (fun _ => True) (fun _ => True) fun _ => True :=
    ((Table.holds_withRoom (fun _ => trivial) trivial 1 1).set trivial trivial).set trivial trivial
  have apart : ((alone mixed).table ⟨0⟩).Apart := holds.apart
  have fits : ((alone mixed).table ⟨0⟩).Fits := by unfold Table.Fits; decide
  have ok : toJsonWithin (alone mixed) 128 [] (.table ⟨0⟩) = .ok j := rfl
  exact ⟨apart, fits, ok, forms_of_toJsonWithin apart fits ok⟩

/-- The table of `{1, nil, 3, x = 5}`. -/
def gapped : Table :=
  (((Table.withRoom 3 1).set (.integer 1) (.integer 1)).set (.integer 3) (.integer 3)).set
    (.ofText "x") (.integer 5)

/-- A list with a hole and a field has as many entries as its length, so it becomes an array without
the field. -/
theorem gap_hides_field :
    let j : Json.Value := .array [.number (.ofInt64 1), .null, .number (.ofInt64 3)]
    toJson (alone gapped) (.table ⟨0⟩) = .ok j ∧ gapped.getText "x" = .integer 5 ∧
      ¬Keeps gapped (toJsonWithin (alone gapped) 127 [⟨0⟩]) j ∧
      ((Sandbox.create 0 0).evaluate "{1, nil, 3, x = 5}" none).1.toOption.map Json.Value.write =
        some "[1,null,3]".toList := by
  have field : gapped.getText "x" = .integer 5 := by decide +kernel
  refine ⟨rfl, field, ?_, by decide +kernel⟩
  rintro (⟨-, sequence, -⟩ | _)
  obtain ⟨_, -, -, same⟩ := (sequence.keys (.ofText "x")).mp (by rw [← Table.getText, field]; rfl)
  cases same

end Losses

end Conversion

end TableSeed
