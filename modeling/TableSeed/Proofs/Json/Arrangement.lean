import TableSeed.Proofs.Json.Members

/-!
# The order of members

Sorting the members of every object keeps each of them, and their names alone tell where they come to
stand. So two values are the same up to the order of members if their sorted forms are the same.
-/

namespace TableSeed.Json

namespace Value

/-- A property of values holds of all of them if it passes from what stands in a container to the
container. -/
@[elab_as_elim]
theorem parts_induction {motive : Value → Prop} (null : motive .null) (bool : ∀ b, motive (.bool b))
    (number : ∀ n, motive (.number n)) (string : ∀ s, motive (.string s))
    (array : ∀ items, (∀ v ∈ items, motive v) → motive (.array items))
    (object : ∀ members, (∀ m ∈ members, motive m.2) → motive (.object members)) (v : Value) :
    motive v :=
  @Value.rec motive (fun items => ∀ v ∈ items, motive v) (fun members => ∀ m ∈ members, motive m.2)
    (fun m => motive m.2) null bool number string array object nofun
    (fun _ _ first later => List.forall_mem_cons.mpr ⟨first, later⟩) nofun
    (fun _ _ first later => List.forall_mem_cons.mpr ⟨first, later⟩) (fun _ _ value => value) v

mutual

/-- A property holds of the value and of everything inside it. -/
def Everywhere (p : Value → Prop) : Value → Prop
  | .array items => p (.array items) ∧ ItemsEverywhere p items
  | .object members => p (.object members) ∧ MembersEverywhere p members
  | v => p v

/-- A property holds of the items and of everything inside them. -/
def ItemsEverywhere (p : Value → Prop) : List Value → Prop
  | [] => True
  | v :: rest => Everywhere p v ∧ ItemsEverywhere p rest

/-- A property holds of the values of members and of everything inside them. -/
def MembersEverywhere (p : Value → Prop) : List (String × Value) → Prop
  | [] => True
  | (_, v) :: rest => Everywhere p v ∧ MembersEverywhere p rest

end

variable {p : Value → Prop} {items : List Value} {members ms ns : List (String × Value)}
  {v w : Value}

/-- A property holds everywhere in items if it holds everywhere in each of them. -/
theorem itemsEverywhere_iff : ItemsEverywhere p items ↔ ∀ v ∈ items, v.Everywhere p := by
  induction items with
  | nil => simp [ItemsEverywhere]
  | cons v rest ih => rw [ItemsEverywhere, ih, List.forall_mem_cons]

/-- A property holds everywhere in members if it holds everywhere in the value of each of them. -/
theorem membersEverywhere_iff : MembersEverywhere p members ↔ ∀ m ∈ members, m.2.Everywhere p := by
  induction members with
  | nil => simp [MembersEverywhere]
  | cons m rest ih => rw [MembersEverywhere, ih, List.forall_mem_cons]

/-- A property holds everywhere in an array if it holds of the array and everywhere in each item. -/
theorem everywhere_array_iff : (array items).Everywhere p ↔
    p (.array items) ∧ ∀ v ∈ items, v.Everywhere p := by
  rw [Everywhere, itemsEverywhere_iff]

/-- A property holds everywhere in an object if it holds of the object and everywhere in the value
of each member. -/
theorem everywhere_object_iff : (object members).Everywhere p ↔
    p (.object members) ∧ ∀ m ∈ members, m.2.Everywhere p := by
  rw [Everywhere, membersEverywhere_iff]

/-- Items have distinct names if each of them has. -/
theorem itemsDistinct_iff : ItemsDistinct items ↔ ∀ v ∈ items, v.Distinct := by
  induction items with
  | nil => simp [ItemsDistinct]
  | cons v rest ih => rw [ItemsDistinct, ih, List.forall_mem_cons]

section Sorting

/-- Nothing is lost where a member is put among others. -/
theorem perm_insertSorted (name : String) (v : Value) (members : Members) :
    (insertSorted name v members).Perm ((name, v) :: members) := by
  induction members with
  | nil => exact .refl _
  | cons m rest ih =>
    rw [insertSorted]
    split_ifs
    · exact .refl _
    · exact (ih.cons m).trans (.swap _ _ _)

/-- A member that is put among sorted ones stands in its place. -/
theorem sorted_insertSorted (name : String) (v : Value)
    (sorted : members.Pairwise fun m n => m.1 ≤ n.1) :
    (insertSorted name v members).Pairwise fun m n => m.1 ≤ n.1 := by
  induction members with
  | nil => exact List.pairwise_singleton _ _
  | cons m rest ih =>
    obtain ⟨first, later⟩ := List.pairwise_cons.mp sorted
    rw [insertSorted]
    split_ifs with before
    · refine List.pairwise_cons.mpr ⟨fun n mem => ?_, sorted⟩
      rcases List.mem_cons.mp mem with rfl | mem
      · exact le_of_lt before
      · exact (le_of_lt before).trans (first n mem)
    · refine List.pairwise_cons.mpr ⟨fun n mem => ?_, ih later⟩
      rcases List.mem_cons.mp ((perm_insertSorted name v rest).mem_iff.mp mem) with rfl | mem
      · exact le_of_not_gt before
      · exact first n mem

/-- The sorted members are in the order of their names. -/
theorem sorted_sortedMembers (members : Members) :
    (sortedMembers members).Pairwise fun m n => m.1 ≤ n.1 := by
  induction members with
  | nil => exact .nil
  | cons m rest ih => exact sorted_insertSorted _ _ ih

/-- Sorting keeps every member, with its value sorted. -/
theorem perm_sortedMembers (members : Members) :
    (sortedMembers members).Perm (members.map fun m => (m.1, m.2.sorted)) := by
  induction members with
  | nil => exact .nil
  | cons m rest ih => exact (perm_insertSorted ..).trans (ih.cons _)

/-- Items are sorted one by one, and stay in their order. -/
theorem sortedItems_eq (items : List Value) : sortedItems items = items.map sorted := by
  induction items with
  | nil => rfl
  | cons v rest ih => rw [sortedItems, ih, List.map_cons]

/-- Members with different names are sorted in one way only. -/
theorem sortedMembers_eq_iff (distinct : Members.Distinct ms) :
    sortedMembers ms = sortedMembers ns ↔
      (ms.map fun m => (m.1, m.2.sorted)).Perm (ns.map fun n => (n.1, n.2.sorted)) := by
  constructor
  · intro same
    exact (perm_sortedMembers ms).symm.trans (same ▸ perm_sortedMembers ns)
  · intro perm
    have whole : (sortedMembers ms).Perm (sortedMembers ns) :=
      (perm_sortedMembers ms).trans (perm.trans (perm_sortedMembers ns).symm)
    have names : ((sortedMembers ms).map Prod.fst).Nodup := by
      rw [((perm_sortedMembers ms).map Prod.fst).nodup_iff, List.map_map]
      exact distinct
    refine whole.eq_of_pairwise (fun m n mem mem' le le' => ?_) (sorted_sortedMembers ms)
      (sorted_sortedMembers ns)
    exact List.inj_on_of_nodup_map names mem (whole.mem_iff.mpr mem') (le_antisymm le le')

end Sorting

/-- The values are the same up to the order of members. -/
def Rearranged (v w : Value) : Prop := v.sorted = w.sorted

/-- A value is the same as itself. -/
theorem Rearranged.refl (v : Value) : v.Rearranged v := rfl

/-- Arrays are the same up to the order of members if their items are, one by one. -/
theorem rearranged_array {vs ws : List Value} (each : List.Forall₂ Rearranged vs ws) :
    (array vs).Rearranged (.array ws) := by
  rw [Rearranged, sorted, sorted, sortedItems_eq, sortedItems_eq]
  refine congrArg array ?_
  rw [← List.forall₂_eq_eq_eq, List.forall₂_map_left_iff, List.forall₂_map_right_iff]
  exact each

/-- Objects whose members stand in another order, each with a value that is the same up to the order of
members. -/
theorem rearranged_object (distinct : Members.Distinct ms) (distinct' : Members.Distinct ns)
    (there : ∀ m ∈ ms, ∃ n ∈ ns, n.1 = m.1 ∧ m.2.Rearranged n.2)
    (back : ∀ n ∈ ns, ∃ m ∈ ms, n.1 = m.1 ∧ m.2.Rearranged n.2) :
    (object ms).Rearranged (.object ns) := by
  have nodup {ms : Members} (distinct : Members.Distinct ms) :
      (ms.map fun m => (m.1, m.2.sorted)).Nodup := by
    refine List.Nodup.of_map Prod.fst ?_
    rw [List.map_map]
    exact distinct
  rw [Rearranged, sorted, sorted, (sortedMembers_eq_iff distinct).mpr]
  refine (List.perm_ext_iff_of_nodup (nodup distinct) (nodup distinct')).mpr fun entry => ?_
  simp only [List.mem_map]
  constructor
  · rintro ⟨m, mem, rfl⟩
    obtain ⟨n, mem', name, same⟩ := there m mem
    exact ⟨n, mem', Prod.ext name same.symm⟩
  · rintro ⟨n, mem, rfl⟩
    obtain ⟨m, mem', name, same⟩ := back n mem
    exact ⟨m, mem', Prod.ext name.symm same⟩

/-- Objects whose members stand in the same order, each with a value that is the same up to the order of
members. -/
theorem rearranged_object_of_forall₂
    (each : List.Forall₂ (fun m n => m.1 = n.1 ∧ m.2.Rearranged n.2) ms ns) :
    (object ms).Rearranged (.object ns) := by
  have sorted_eq : sortedMembers ms = sortedMembers ns := by
    induction each with
    | nil => rfl
    | cons first _ ih => rw [sortedMembers, sortedMembers, first.1, first.2, ih]
  rw [Rearranged, sorted, sorted, sorted_eq]

/-- The order of the members of an object. -/
theorem rearranged_of_perm (distinct : Members.Distinct ms) (perm : ms.Perm ns) :
    (object ms).Rearranged (.object ns) := by
  rw [Rearranged, sorted, sorted, (sortedMembers_eq_iff distinct).mpr (perm.map _)]

end Value

end TableSeed.Json
