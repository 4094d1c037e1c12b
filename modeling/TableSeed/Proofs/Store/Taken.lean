import TableSeed.Proofs.Json.Injectivity
import TableSeed.Proofs.Store.Agreement

/-!
# What the store in memory has taken

A table in memory has the items that were inserted since it was last dropped, in the order in which
they were inserted, and no two of them have the same key values. An item is refused exactly if its
table is missing or has an item with its key values, and no table changes then.
-/

namespace TableSeed

namespace Item

variable {a b : Item}

/-- The key values, in the order of the schema. -/
def keyValues (item : Item) : List Json.Value := item.key.map Prod.snd

/-- The text of the key values is no other key values'. -/
theorem keyText_inj : a.keyText = b.keyText ↔ a.keyValues = b.keyValues := by
  rw [keyText, keyText, Json.Value.render_inj, Json.Value.array.injEq]
  rfl

/-- Keys with the same attributes and the same text are the same. -/
theorem key_eq_of_keyText (attributes : a.key.names = b.key.names) (same : a.keyText = b.keyText) :
    a.key = b.key := by
  have values : a.key.map Prod.snd = b.key.map Prod.snd := keyText_inj.mp same
  have pairs (members : Json.Members) :
      (members.map Prod.fst).zip (members.map Prod.snd) = members := by
    rw [← List.unzip_fst, ← List.unzip_snd, List.zip_unzip]
  calc
    a.key = (a.key.map Prod.fst).zip (a.key.map Prod.snd) := (pairs a.key).symm
    _ = (b.key.map Prod.fst).zip (b.key.map Prod.snd) := by
      rw [values]
      exact congrArg (List.zip · _) attributes
    _ = b.key := pairs b.key

end Item

/-- The items of the tables in memory once a request is accepted, when they had these before. -/
def StoreRequest.taken (before : String → List Item) : StoreRequest → String → List Item
  | .create _ => before
  | .drop table => Function.update before table []
  | .insert table item => Function.update before table (before table ++ [item])

namespace MemoryStore

/-- What an insert gives back. -/
theorem result_insert (s : MemoryStore) (name : String) (item : Item) :
    (insert name item s).1 = match s.table? name with
      | none => .error (.noTable name)
      | some items =>
        if item.keyText ∈ items.map (·.key) then .error (.duplicateKey item.keyText name)
        else .ok () := by
  have untouched : (s.record (.insert name item)).table? name = s.table? name := rfl
  have known (items : List KeyedItem) : items.any (·.key == item.keyText) = true ↔
      item.keyText ∈ items.map (·.key) := by
    rw [List.any_eq_true, List.mem_map]
    simp only [beq_iff_eq]
  unfold insert
  simp only [untouched]
  cases s.table? name with
  | none => rfl
  | some items =>
    simp only [known]
    split_ifs <;> rfl

/-- A store in memory, with the items that each table has taken since it was last dropped. -/
structure Account where
  store : MemoryStore := {}
  taken : String → List Item := fun _ => []

namespace Account

variable {a : Account} {name : String} {item : Item}

/-- The store after one more request. -/
def next (a : Account) (request : StoreRequest) : Account :=
  let (result, store) := MemoryStore.store.handle a.store request
  ⟨store, if result = .ok () then request.taken a.taken else a.taken⟩

/-- A new store after some requests. -/
def after (requests : List StoreRequest) : Account := requests.foldl next {}

/-- Every table holds what it has taken, each item under a key of its own. -/
structure Sound (a : Account) : Prop where
  held : ∀ name, (a.store.table? name).getD [] = (a.taken name).map Item.keyed
  apart : ∀ name, ((a.taken name).map Item.keyText).Nodup

namespace Sound

/-- The items of a table that exists. -/
theorem table? (sound : a.Sound) {items : List KeyedItem} (found : a.store.table? name = some items) :
    items = (a.taken name).map Item.keyed := by
  have held := sound.held name
  rwa [found] at held

/-- A table that is missing has taken nothing. -/
theorem missing (sound : a.Sound) (missing : a.store.table? name = none) : a.taken name = [] := by
  have held := sound.held name
  rw [missing] at held
  exact List.map_eq_nil_iff.mp held.symm

/-- The key of an item is that of an item that was taken exactly if both have the same values. -/
theorem mem_keys_iff (item : Item) : item.keyText ∈ ((a.taken name).map Item.keyed).map (·.key) ↔
    ∃ other ∈ a.taken name, other.keyValues = item.keyValues := by
  rw [List.map_map, List.mem_map]
  exact exists_congr fun other => and_congr_right fun _ => Item.keyText_inj

/-- An item is a duplicate exactly if its table has taken one with the same key values. -/
theorem duplicate_iff (sound : a.Sound) :
    (insert name item a.store).1 = .error (.duplicateKey item.keyText name) ↔
      ∃ other ∈ a.taken name, other.keyValues = item.keyValues := by
  rw [result_insert]
  cases found : a.store.table? name with
  | none => simp [sound.missing found]
  | some items =>
    obtain rfl := sound.table? found
    by_cases known : ∃ other ∈ a.taken name, other.keyValues = item.keyValues
    · simp only [if_pos ((mem_keys_iff item).mpr known), known]
    · simp only [if_neg ((mem_keys_iff item).not.mpr known), known, reduceCtorEq]

/-- An item is taken exactly if its table exists and has none with the same key values. -/
theorem accepted_iff (sound : a.Sound) : (insert name item a.store).1 = .ok () ↔
    (a.store.table? name).isSome ∧ ∀ other ∈ a.taken name, other.keyValues ≠ item.keyValues := by
  rw [result_insert]
  cases found : a.store.table? name with
  | none => simp
  | some items =>
    obtain rfl := sound.table? found
    by_cases known : ∃ other ∈ a.taken name, other.keyValues = item.keyValues
    · have stands : ¬ ∀ other ∈ a.taken name, other.keyValues ≠ item.keyValues := by simpa using known
      simp only [if_pos ((mem_keys_iff item).mpr known), stands, and_false, reduceCtorEq]
    · have new : ∀ other ∈ a.taken name, other.keyValues ≠ item.keyValues := by simpa using known
      simp only [if_neg ((mem_keys_iff item).not.mpr known), Option.isSome_some, true_and]
      exact iff_of_true trivial new

/-- Creating a table keeps every table in step with what it has taken. -/
theorem create (sound : a.Sound) (schema : TableSchema) : (a.next (.create schema)).Sound := by
  have taken : (a.next (.create schema)).taken = a.taken := by
    simp only [Account.next]
    split_ifs <;> rfl
  refine ⟨fun name => ?_, fun name => taken ▸ sound.apart name⟩
  have created := table?_create a.store schema name
  rw [taken, ← sound.held name]
  show ((MemoryStore.create schema a.store).2.table? name).getD [] = _
  rw [created]
  split_ifs <;> rfl

/-- Dropping a table keeps every table in step with what it has taken. -/
theorem drop (sound : a.Sound) (table : String) : (a.next (.drop table)).Sound := by
  have taken : (a.next (.drop table)).taken = Function.update a.taken table [] := by
    have accepted : (MemoryStore.store.handle a.store (.drop table)).1 = .ok () := rfl
    simp only [Account.next, accepted, if_true]
    rfl
  constructor
  · intro name
    show ((MemoryStore.drop table a.store).2.table? name).getD [] = _
    rw [table?_drop, taken, Function.update_apply]
    split_ifs
    · rfl
    · exact sound.held name
  · intro name
    rw [taken, Function.update_apply]
    split_ifs
    · exact List.nodup_nil
    · exact sound.apart name

/-- Inserting an item keeps every table in step with what it has taken. -/
theorem insert (sound : a.Sound) (table : String) (item : Item) :
    (a.next (.insert table item)).Sound := by
  have store : (a.next (.insert table item)).store = (MemoryStore.insert table item a.store).2 := rfl
  have taken : (a.next (.insert table item)).taken =
      if (MemoryStore.insert table item a.store).1 = .ok () then
        Function.update a.taken table (a.taken table ++ [item]) else a.taken := rfl
  by_cases accepted : (MemoryStore.insert table item a.store).1 = .ok ()
  · obtain ⟨exists', new⟩ := sound.accepted_iff.mp accepted
    obtain ⟨items, found⟩ := Option.isSome_iff_exists.mp exists'
    rw [if_pos accepted] at taken
    constructor <;> intro name <;> rw [taken, Function.update_apply]
    · rw [store, table?_insert]
      by_cases here : name = table
      · subst here
        rw [if_pos ⟨rfl, accepted⟩, if_pos rfl, found, List.map_append, ← sound.table? found]
        rfl
      · rw [if_neg (fun both => here both.1), if_neg here]
        exact sound.held name
    · split_ifs with here
      · rw [List.map_append, List.nodup_append]
        refine ⟨sound.apart table, List.nodup_singleton _, ?_⟩
        rintro _ known _ added rfl
        obtain ⟨other, mem, same⟩ := List.mem_map.mp known
        exact new other mem (Item.keyText_inj.mp (same.trans (List.mem_singleton.mp added)))
      · exact sound.apart name
  · rw [if_neg accepted] at taken
    constructor <;> intro name <;> rw [taken]
    · rw [store, table?_insert, if_neg fun both => accepted both.2]
      exact sound.held name
    · exact sound.apart name

/-- A request leaves the store sound. -/
theorem next (sound : a.Sound) (request : StoreRequest) : (a.next request).Sound := by
  cases request with
  | create schema => exact sound.create schema
  | drop table => exact sound.drop table
  | insert table item => exact sound.insert table item

end Sound

/-- The store is sound after any requests. -/
theorem sound_after (requests : List StoreRequest) : (after requests).Sound := by
  suffices run : ∀ a : Account, a.Sound → (requests.foldl Account.next a).Sound from
    run {} ⟨fun _ => rfl, fun _ => List.nodup_nil⟩
  induction requests with
  | nil => exact fun _ sound => sound
  | cons request rest ih => exact fun a sound => ih _ (sound.next request)

end Account

end MemoryStore

end TableSeed
