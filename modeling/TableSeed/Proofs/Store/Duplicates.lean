import TableSeed.Proofs.Json.Equality
import TableSeed.Proofs.Store.Taken

/-!
# Equal keys that are two

A table in memory never has two items with identical key values. It may have two whose key values
are equal as JSON values: the texts of these differ in the order of members or in the sign of a
zero. An item whose key leaves no choice in either is the only one of its key.
-/

namespace TableSeed

namespace Item

variable {item : Item}

/-- Whether the key values of two items are equal in pairs, whatever the order of members. -/
def sameKey (a b : Item) : Bool := Json.Value.equalItems a.keyValues b.keyValues

/-- No object inside a key value has a name twice. -/
def ProperKey (item : Item) : Prop := Json.Value.ItemsDistinct item.keyValues

/-- No object inside a key value has two members, and no double is zero. -/
def RigidKey (item : Item) : Prop := Json.Value.ItemsRigid item.keyValues

/-- A rigid key is equal to no other. -/
theorem RigidKey.eq_of_sameKey (rigid : item.RigidKey) {other : Item}
    (same : item.sameKey other = true) : other.keyValues = item.keyValues :=
  Json.Value.eq_of_equalItems _ _ rigid same

/-- Equal lists have as many items. -/
theorem length_eq_of_equalItems {vs ws : List Json.Value}
    (equal : Json.Value.equalItems vs ws = true) : vs.length = ws.length := by
  induction vs generalizing ws with
  | nil => cases ws <;> cases equal; rfl
  | cons v rest ih =>
    cases ws with
    | nil => cases equal
    | cons w ws => exact congrArg (· + 1) (ih (Bool.and_eq_true_iff.mp equal).2)

/-- A key that is not rigid is equal to another one of the same attributes. -/
theorem exists_sameKey (proper : item.ProperKey) (loose : ¬ item.RigidKey) :
    ∃ other : Item, other.key.names = item.key.names ∧ item.sameKey other = true ∧
      other.keyValues ≠ item.keyValues := by
  have twin : ¬ ∀ ws, Json.Value.equalItems item.keyValues ws = true → ws = item.keyValues :=
    fun only => loose (Json.Value.itemsRigid_of_forall _ proper only)
  obtain ⟨ws, twin⟩ := not_forall.mp twin
  obtain ⟨equal, differs⟩ := Classical.not_imp.mp twin
  have lengths : item.key.names.length = ws.length := by
    rw [← length_eq_of_equalItems equal, Json.Members.names, keyValues, List.length_map,
      List.length_map]
  have values : Item.keyValues ⟨item.key.names.zip ws, []⟩ = ws :=
    List.map_snd_zip lengths.ge
  refine ⟨⟨item.key.names.zip ws, []⟩, List.map_fst_zip lengths.le, ?_, ?_⟩
  · rw [sameKey, values]
    exact equal
  · rw [values]
    exact differs

end Item

namespace MemoryStore

/-- An insert that is refused changes no table. -/
theorem tables_of_refused {s : MemoryStore} {name : String} {item : Item}
    (refused : (insert name item s).1 ≠ .ok ()) : (insert name item s).2.tables = s.tables := by
  unfold insert at refused ⊢
  simp only at refused ⊢
  split at refused
  · rfl
  · split_ifs at refused ⊢ with known
    · rfl
    · exact absurd rfl refused

namespace Account

variable {a : Account} {name : String} {item other : Item}

/-- A table that exists takes an item under new key values. -/
theorem taken_insert (sound : a.Sound) (exists' : (a.store.table? name).isSome)
    (new : ∀ known ∈ a.taken name, known.keyValues ≠ item.keyValues) :
    (a.next (.insert name item)).taken name = a.taken name ++ [item] ∧
      ((a.next (.insert name item)).store.table? name).isSome := by
  have accepted : (insert name item a.store).1 = .ok () := sound.accepted_iff.mpr ⟨exists', new⟩
  have taken : (a.next (.insert name item)).taken =
      if (insert name item a.store).1 = .ok () then
        Function.update a.taken name (a.taken name ++ [item]) else a.taken := rfl
  constructor
  · rw [taken, if_pos accepted, Function.update_self]
  · change ((insert name item a.store).2.table? name).isSome
    rw [table?_insert, if_pos ⟨rfl, accepted⟩, Option.isSome_map, exists']

/-- Two items with key values that are not identical stand in one table. -/
theorem taken_two (schema : TableSchema) (differ : item.keyValues ≠ other.keyValues) :
    (after [.create schema, .insert schema.table item, .insert schema.table other]).taken
      schema.table = [item, other] := by
  have sound := sound_after [.create schema]
  have none : (after [.create schema]).taken schema.table = [] := rfl
  have exists' : ((after [.create schema]).store.table? schema.table).isSome := by
    change ((create schema {}).2.table? schema.table).isSome
    rw [table?_create, if_pos rfl]
    rfl
  have new : ∀ known ∈ (after [.create schema]).taken schema.table,
      known.keyValues ≠ item.keyValues := by
    simp [none]
  obtain ⟨first, still⟩ := taken_insert sound exists' new
  rw [none, List.nil_append] at first
  have later : ∀ known ∈ ((after [.create schema]).next (.insert schema.table item)).taken
      schema.table, known.keyValues ≠ other.keyValues := by
    simpa [first] using differ
  obtain ⟨both, -⟩ := taken_insert (sound.next (.insert schema.table item)) still later
  rwa [first] at both

/-- A table holds the items that it has taken, no two of which have identical key values, and an
insert that is refused changes no table. An item is the only one of its key in every table exactly
if its key is rigid. -/
theorem no_identical_keys (requests : List StoreRequest) (name : String) (item : Item)
    (proper : item.ProperKey) :
    (((after requests).store.table? name).getD [] =
        ((after requests).taken name).map Item.keyed) ∧
      ((after requests).taken name).Pairwise (fun a b => a.keyValues ≠ b.keyValues) ∧
      (∀ s : MemoryStore, (insert name item s).1 ≠ .ok () →
        (insert name item s).2.tables = s.tables) ∧
      (item.RigidKey ↔ ∀ requests table, item ∈ (after requests).taken table →
        ∀ other ∈ (after requests).taken table, item.sameKey other = true →
          other.keyValues = item.keyValues) := by
  have sound := sound_after requests
  refine ⟨sound.held name, ?_, fun s => tables_of_refused, ?_, ?_⟩
  · exact (List.pairwise_map.mp (sound.apart name)).imp fun differ same =>
      differ (Item.keyText_inj.mpr same)
  · intro rigid _ _ _ other _ same
    exact rigid.eq_of_sameKey same
  · intro only
    by_contra loose
    obtain ⟨other, -, same, differs⟩ := Item.exists_sameKey proper loose
    obtain ⟨requests, both⟩ : ∃ requests, (after requests).taken "t" = [item, other] :=
      ⟨_, taken_two { table := "t", keys := [] } (Ne.symm differs)⟩
    refine differs (only requests "t" ?_ other ?_ same)
    · rw [both]
      exact List.mem_cons_self
    · rw [both]
      exact List.mem_cons_of_mem _ List.mem_cons_self

/-- A string is the only key of its kind. -/
theorem string_keys_are_unique :
    let ann : Item := ⟨[("id", .string "ann")], []⟩
    let requests : List StoreRequest :=
      [.create { table := "users", keys := [] }, .insert "users" ann, .insert "users" ann]
    ann.ProperKey ∧ ann.RigidKey ∧ (after requests).taken "users" = [ann] ∧
      ((after requests).taken "users").Pairwise (fun a b => a.keyValues ≠ b.keyValues) ∧
      ∀ other ∈ (after requests).taken "users", ann.sameKey other = true →
        other.keyValues = ann.keyValues := by
  intro ann requests
  have proper : ann.ProperKey := ⟨trivial, trivial⟩
  have rigid : ann.RigidKey := ⟨trivial, trivial⟩
  have taken : (after requests).taken "users" = [ann] := rfl
  obtain ⟨-, apart, -, only⟩ := no_identical_keys requests "users" ann proper
  have mem : ann ∈ (after requests).taken "users" := taken ▸ List.mem_singleton_self _
  exact ⟨proper, rigid, taken, apart, only.mp rigid requests "users" mem⟩

/-- Two items are held whose keys are one object with its members in two orders. -/
theorem equal_keys_are_both_held :
    let first : Item :=
      ⟨[("id", .object [("a", .number (.ofUInt32 1)), ("b", .number (.ofUInt32 2))])], []⟩
    let second : Item :=
      ⟨[("id", .object [("b", .number (.ofUInt32 2)), ("a", .number (.ofUInt32 1))])], []⟩
    let requests : List StoreRequest :=
      [.create { table := "t", keys := [] }, .insert "t" first, .insert "t" second]
    first.sameKey second = true ∧ (after requests).taken "t" = [first, second] ∧
      (after requests).store.table? "t" = some [first.keyed, second.keyed] := by
  intro first second requests
  have same : first.sameKey second = true := by decide +kernel
  exact ⟨same, rfl, rfl⟩

end Account

end MemoryStore

end TableSeed
