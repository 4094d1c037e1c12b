import Mathlib
import TableSeed.Json.Reader

/-!
# Names of members

Putting members one by one never gives an object the same name twice, so no object that was read
from a text has one. Where the names are distinct, a member is found under its name, and taking it
out leaves the others as they are.
-/

namespace TableSeed.Json

namespace Members

/-- No name stands twice. -/
def Distinct (members : Members) : Prop := (names members).Nodup

instance (members : Members) : Decidable (Distinct members) :=
  inferInstanceAs (Decidable (names members).Nodup)

variable {members others : Members} {name other : String} {v w : Value}

/-- A new name is put after the others. -/
theorem put_of_notMem (new : name ∉ names members) :
    put members name v = members ++ [(name, v)] := by
  induction members with
  | nil => rfl
  | cons m rest ih =>
    obtain ⟨differs, later⟩ := not_or.mp (List.mem_cons.not.mp new)
    rw [put, if_neg (Ne.symm differs), ih later, List.cons_append]

/-- A name that stands already keeps its place. -/
theorem names_put (members : Members) (name : String) (v : Value) :
    names (put members name v) =
      if name ∈ names members then names members else names members ++ [name] := by
  induction members with
  | nil => rfl
  | cons m rest ih =>
    rw [put]
    split_ifs with here known known
    · simp [names, here]
    · exact absurd (by simp [names, here]) known
    · have later : name ∈ names rest := by simpa [names, Ne.symm here] using known
      rw [if_pos later] at ih
      exact congrArg (m.1 :: ·) ih
    · have later : name ∉ names rest := fun mem => known (by simp [names] at mem ⊢; exact .inr mem)
      rw [if_neg later] at ih
      exact congrArg (m.1 :: ·) ih

/-- Names stay distinct when a member is put among the others. -/
theorem Distinct.put (distinct : Distinct members) (name : String) (v : Value) :
    Distinct (put members name v) := by
  rw [Distinct, names_put]
  split_ifs with known
  · exact distinct
  · exact distinct.append (List.nodup_singleton name) (List.disjoint_singleton.mpr known)

/-- Members that are put over others are distinct if the others are. -/
theorem Distinct.putAll (distinct : Distinct members) (others : Members) :
    Distinct (putAll members others) := by
  induction others generalizing members with
  | nil => exact distinct
  | cons m rest ih => exact ih (distinct.put m.1 m.2)

/-- Members that were put one by one are distinct. -/
theorem distinct_ofList (ms : List (String × Value)) : Distinct (ofList ms) :=
  have empty : Distinct [] := List.nodup_nil
  empty.putAll ms

/-- What is put is all that is new. -/
theorem mem_put {m : String × Value} (mem : m ∈ put members name v) :
    m ∈ members ∨ m = (name, v) := by
  induction members with
  | nil => exact .inr (List.mem_singleton.mp mem)
  | cons first rest ih =>
    rw [put] at mem
    split_ifs at mem with here
    · obtain rfl | later := List.mem_cons.mp mem
      · exact .inr (by rw [here])
      · exact .inl (List.mem_cons_of_mem _ later)
    · obtain rfl | later := List.mem_cons.mp mem
      · exact .inl List.mem_cons_self
      · exact (ih later).imp_left (List.mem_cons_of_mem _)

/-- Members that were put over others come from either. -/
theorem mem_putAll {m : String × Value} (mem : m ∈ putAll members others) :
    m ∈ members ∨ m ∈ others := by
  induction others generalizing members with
  | nil => exact .inl mem
  | cons first rest ih =>
    rcases ih mem with old | later
    · exact (mem_put old).imp_right fun same => List.mem_cons.mpr (.inl same)
    · exact .inr (List.mem_cons_of_mem _ later)

/-- Members under new names are put after the others. -/
theorem putAll_of_distinct (distinct : Distinct (members ++ others)) :
    putAll members others = members ++ others := by
  induction others generalizing members with
  | nil => exact (List.append_nil members).symm
  | cons m rest ih =>
    have new : m.1 ∉ names members := fun known => by
      rw [Distinct, names, List.map_append, List.nodup_append] at distinct
      exact distinct.2.2 m.1 known m.1 (by simp) rfl
    rw [List.append_cons] at distinct ⊢
    rw [← ih distinct]
    change putAll (put members m.1 m.2) rest = _
    rw [put_of_notMem new]

/-- A value that is found belongs to a member of the name. -/
theorem mem_of_get? (found : get? name members = some v) : (name, v) ∈ members := by
  induction members with
  | nil => cases found
  | cons m rest ih =>
    rw [get?] at found
    split_ifs at found with here
    · obtain rfl := Option.some.inj found
      exact List.mem_cons.mpr (.inl (by rw [← here]))
    · exact List.mem_cons_of_mem _ (ih found)

/-- Among distinct names a member is found under its name. -/
theorem Distinct.get?_of_mem (distinct : Distinct members) (mem : (name, v) ∈ members) :
    get? name members = some v := by
  induction members with
  | nil => cases mem
  | cons m rest ih =>
    obtain ⟨new, distinct⟩ := List.nodup_cons.mp distinct
    rw [get?]
    rcases List.mem_cons.mp mem with rfl | later
    · exact if_pos rfl
    · have differs : m.1 ≠ name := fun same => new (same ▸ List.mem_map_of_mem later)
      rw [if_neg differs]
      exact ih distinct later

/-- A name that no member has is not found. -/
theorem get?_eq_none_iff : get? name members = none ↔ name ∉ names members := by
  induction members with
  | nil => simp [get?, names]
  | cons m rest ih =>
    rw [get?]
    split_ifs with here
    · simp [names, here]
    · have differs : name ≠ m.1 := fun same => here same.symm
      rw [ih]
      simp [names, differs]

/-- Among distinct names the one that is taken out is gone. -/
theorem Distinct.erase_eq (distinct : Distinct members) (name : String) :
    erase name members = members.filter fun m => m.1 ≠ name := by
  induction members with
  | nil => rfl
  | cons m rest ih =>
    obtain ⟨new, distinct⟩ := List.nodup_cons.mp distinct
    rw [erase]
    split_ifs with here
    · have others : ∀ other ∈ rest, decide (other.1 ≠ name) = true := fun other mem => by
        have differs : other.1 ≠ name := fun same =>
          new (here ▸ same ▸ List.mem_map_of_mem mem)
        exact decide_eq_true differs
      rw [List.filter_cons_of_neg (by simp [here]), List.filter_eq_self.mpr others]
    · rw [List.filter_cons_of_pos (by simp [here]), ih distinct]

/-- The other names are left. -/
theorem Distinct.mem_names_erase (distinct : Distinct members) (name other : String) :
    other ∈ names (Members.erase name members) ↔ other ∈ names members ∧ other ≠ name := by
  rw [distinct.erase_eq, names, names, List.mem_map, List.mem_map]
  constructor
  · rintro ⟨m, mem, rfl⟩
    obtain ⟨mem, differs⟩ := List.mem_filter.mp mem
    exact ⟨⟨m, mem, rfl⟩, of_decide_eq_true differs⟩
  · rintro ⟨⟨m, mem, rfl⟩, differs⟩
    exact ⟨m, List.mem_filter.mpr ⟨mem, decide_eq_true differs⟩, rfl⟩

/-- Names stay distinct when a member is taken out. -/
theorem Distinct.erase (distinct : Distinct members) (name : String) :
    Distinct (erase name members) := by
  rw [distinct.erase_eq]
  exact distinct.sublist (List.filter_sublist.map _)

/-- A member that is found and the others. -/
theorem perm_erase (found : get? name members = some v) :
    members.Perm ((name, v) :: erase name members) := by
  induction members with
  | nil => cases found
  | cons m rest ih =>
    rw [get?] at found
    rw [erase]
    split_ifs at found ⊢ with here
    · obtain rfl := Option.some.inj found
      exact List.Perm.of_eq (by rw [← here])
    · exact ((ih found).cons m).trans (.swap _ _ _)

end Members

mutual

/-- No object inside the value has a name twice. -/
def Value.Distinct : Value → Prop
  | .array items => ItemsDistinct items
  | .object members => Members.Distinct members ∧ MembersDistinct members
  | .null | .bool _ | .number _ | .string _ => True

/-- No object inside the items has a name twice. -/
def Value.ItemsDistinct : List Value → Prop
  | [] => True
  | v :: rest => v.Distinct ∧ ItemsDistinct rest

/-- No object inside the members has a name twice. -/
def Value.MembersDistinct : List (String × Value) → Prop
  | [] => True
  | (_, v) :: rest => v.Distinct ∧ MembersDistinct rest

end

namespace Value

/-- The values of members have distinct names if each of them has. -/
theorem membersDistinct_iff (members : List (String × Value)) :
    MembersDistinct members ↔ ∀ m ∈ members, m.2.Distinct := by
  induction members with
  | nil => simp [MembersDistinct]
  | cons m rest ih => rw [MembersDistinct, ih, List.forall_mem_cons]

end Value

namespace Tree

open Value

mutual

/-- What is read from a tree has no name twice. -/
theorem distinct_of_read (t : Tree) {room : Nat} {v : Value} (read : t.read room = .ok v) :
    v.Distinct := by
  cases t with
  | null | bool => cases read; trivial
  | stopped => cases read
  | number n =>
    simp only [Tree.read, bind, Except.bind] at read
    split at read <;> cases read
    trivial
  | text s =>
    simp only [Tree.read, bind, Except.bind] at read
    split at read <;> cases read
    trivial
  | array items stop =>
    simp only [Tree.read, bind, Except.bind] at read
    split at read
    · cases read
    · split at read
      · cases read
      · rename_i vs items'
        split at read <;> cases read
        exact itemsDistinct_of_read items items'
  | object members stop =>
    simp only [Tree.read, bind, Except.bind] at read
    split at read
    · cases read
    · split at read
      · cases read
      · rename_i ms members'
        split at read <;> cases read
        refine ⟨Members.distinct_ofList ms, (membersDistinct_iff _).mpr fun m mem => ?_⟩
        rcases Members.mem_putAll mem with none | mem
        · cases none
        · exact (membersDistinct_iff ms).mp (membersDistinct_of_read members members') m mem

/-- Items that are read have distinct names. -/
theorem itemsDistinct_of_read (ts : List Tree) {room : Nat} {vs : List Value}
    (read : readItems room ts = .ok vs) : ItemsDistinct vs := by
  cases ts with
  | nil => cases read; trivial
  | cons t rest =>
    simp only [readItems, bind, Except.bind] at read
    split at read
    · cases read
    · rename_i v first
      split at read <;> cases read
      rename_i others
      exact ⟨distinct_of_read t first, itemsDistinct_of_read rest others⟩

/-- The values of members that are read have distinct names. -/
theorem membersDistinct_of_read (ts : List (Option String × Tree)) {room : Nat}
    {ms : List (String × Value)} (read : readMembers room ts = .ok ms) : MembersDistinct ms := by
  cases ts with
  | nil => cases read; trivial
  | cons named rest =>
    obtain ⟨name, t⟩ := named
    simp only [readMembers, bind, Except.bind] at read
    split at read
    · cases read
    · split at read
      · cases read
      · rename_i v first
        split at read <;> cases read
        rename_i others
        exact ⟨distinct_of_read t first, membersDistinct_of_read rest others⟩

end

end Tree

/-- What a text holds has no name twice, also where the text has. -/
theorem Value.distinct_of_parse {text : String} {v : Value} (read : parse text = .ok v) :
    v.Distinct := by
  simp only [parse, bind, Except.bind] at read
  split at read
  · cases read
  · rename_i found
    split at read <;> cases read
    exact Tree.distinct_of_read _ found

end TableSeed.Json
