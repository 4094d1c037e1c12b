import TableSeed.Proofs.Document.Shape

/-!
# Names in a document

A document that was read names each group once, each entry once in its group, and each field once
in its entry, because no object has a name twice.
-/

namespace TableSeed

open Json (Value Members)

/-- The names of groups, of the entries of a group and of the fields of an entry. -/
structure Document.NamesDistinct (document : Document) : Prop where
  groups : (document.groups.map (·.name)).Nodup
  entries : ∀ group ∈ document.groups, (group.entries.map (·.key)).Nodup
  fields : ∀ group ∈ document.groups, ∀ entry ∈ group.entries, (entry.record.map Prod.fst).Nodup

variable {group : Group} {own members : Members} {v : Value} {document : Document}

/-- The entries have the names of the other members. -/
theorem Group.ReadFrom.keys (readFrom : group.ReadFrom own) :
    group.entries.map (·.key) = Members.names (own.filter fun m => m.1 ≠ Document.schemaName) := by
  rw [← readFrom.entries, Members.names, List.map_map]
  rfl

namespace Document

/-- The groups have the names of the other members. -/
theorem ReadFrom.names (readFrom : document.ReadFrom members) :
    document.groups.map (·.name) = Members.names (members.filter fun m => m.1 ≠ dependenciesName) := by
  rw [eq_comm, Members.names, ← List.forall₂_eq_eq_eq, List.forall₂_map_left_iff,
    List.forall₂_map_right_iff]
  exact readFrom.groups.imp fun _ _ whole => whole.1

/-- A value without repeated names is a document without repeated names. -/
theorem namesDistinct_of_ofJson (distinct : v.Distinct) (ok : ofJson v = .ok document) :
    document.NamesDistinct := by
  obtain ⟨members, rfl, -⟩ := exists_ofJson_iff.mp ⟨document, ok⟩
  obtain ⟨names, values⟩ := distinct
  rw [Value.membersDistinct_iff] at values
  have readFrom := readFrom_of_ofJson names ok
  have others {members : Members} (distinct : Members.Distinct members) (name : String) :
      (Members.names (members.filter fun m => m.1 ≠ name)).Nodup :=
    distinct.sublist (List.filter_sublist.map _)
  have each : ∀ group ∈ document.groups, ∃ own, (Value.object own).Distinct ∧ group.ReadFrom own := by
    intro group mem
    obtain ⟨m, mem, -, own, object, readFrom⟩ := exists_of_mem_forall₂ readFrom.groups.flip mem
    exact ⟨own, object ▸ values m (List.mem_of_mem_filter mem), readFrom⟩
  constructor
  case groups =>
    rw [readFrom.names]
    exact others names dependenciesName
  case entries =>
    intro group mem
    obtain ⟨own, ⟨keys, -⟩, readFrom⟩ := each group mem
    rw [readFrom.keys]
    exact others keys schemaName
  case fields =>
    intro group mem entry entered
    obtain ⟨own, ⟨-, inside⟩, readFrom⟩ := each group mem
    have stands : entry.member ∈ own.filter fun m => m.1 ≠ schemaName :=
      readFrom.entries ▸ List.mem_map_of_mem entered
    have fields := (Value.membersDistinct_iff own).mp inside _ (List.mem_of_mem_filter stands)
    rw [← RecordTemplate.names_raw]
    exact fields.1

/-- A document that was read from a text names nothing twice. -/
theorem namesDistinct_of_parse {text : String} (ok : parse text = .ok document) :
    document.NamesDistinct := by
  unfold parse at ok
  cases read : Value.parse text with
  | error fault => simp [read] at ok
  | ok v =>
    rw [read] at ok
    exact namesDistinct_of_ofJson (Value.distinct_of_parse read) ok

end Document

end TableSeed
