import TableSeed.Item
import TableSeed.Proofs.Json.Members

/-!
# Items and their records

Parting a record loses nothing: merged again, an item has the members of its record, the key
attributes first, and its key is found in it under the key attributes of the schema.
-/

namespace TableSeed

open Json (Members)

/-- The members of an item are those of a record, and its key is what they have under the key
attributes, in the order of the schema. -/
structure Item.Parts (schema : TableSchema) (record : Members) (item : Item) : Prop where
  members : item.merged.Perm record
  keyText : ∃ values, schema.keyAttributes.map (Members.get? · item.merged) = values.map some ∧
    item.keyText = (Json.Value.array values).render

namespace Item

variable {table : String} {key record : Members} {attrs : List String} {item : Item}
  {schema : TableSchema}

/-- Key attributes that are taken out of a record stand in the key, one after the other. -/
theorem takeKeys_ok (distinct : Members.Distinct (key ++ record))
    (ok : takeKeys table key record attrs = .ok item) :
    Members.names item.key = Members.names key ++ attrs ∧
      (item.key ++ item.data).Perm (key ++ record) := by
  induction attrs generalizing key record with
  | nil =>
    cases ok
    exact ⟨(List.append_nil _).symm, .refl _⟩
  | cons attr rest ih =>
    unfold takeKeys at ok
    cases found : Members.get? attr record with
    | none => simp [found] at ok
    | some v =>
      have perm : (key ++ record).Perm (key ++ [(attr, v)] ++ Members.erase attr record) := by
        rw [List.append_assoc, List.singleton_append]
        exact (Members.perm_erase found).append_left key
      have new : attr ∉ Members.names key := fun known => by
        rw [Members.Distinct, Members.names, List.map_append, List.nodup_append] at distinct
        exact distinct.2.2 attr known attr
          (List.mem_map_of_mem (Members.mem_of_get? found)) rfl
      simp only [found, Members.put_of_notMem new] at ok
      obtain ⟨names, same⟩ := ih ((perm.map Prod.fst).nodup_iff.mp distinct) ok
      refine ⟨names.trans ?_, same.trans perm.symm⟩
      simp [Members.names]

/-- Among distinct members the values of the first ones are found under their names. -/
theorem map_get?_names (distinct : Members.Distinct (key ++ record)) :
    (Members.names key).map (Members.get? · (key ++ record)) = (key.map Prod.snd).map some := by
  rw [Members.names, List.map_map, List.map_map]
  exact List.map_congr_left fun m mem =>
    distinct.get?_of_mem (List.mem_append_left _ mem)

/-- An item has what its record has. -/
theorem parts_of_ofRecord (distinct : Members.Distinct record)
    (ok : ofRecord schema record = .ok item) : item.Parts schema record := by
  have whole : Members.Distinct ([] ++ record) := distinct
  obtain ⟨names, perm⟩ := takeKeys_ok whole ok
  have apart : Members.Distinct (item.key ++ item.data) := (perm.map Prod.fst).nodup_iff.mpr whole
  have names : schema.keyAttributes = Members.names item.key := names.symm
  have merged : item.merged = item.key ++ item.data := Members.putAll_of_distinct apart
  refine ⟨merged ▸ perm, item.key.map Prod.snd, ?_, rfl⟩
  rw [merged, names]
  exact map_get?_names apart

/-! ## Which records have an item -/

/-- The item has the key attributes in the order of the schema, with the values of the record, and
the other members of the record in their order. -/
structure Splits (attrs : List String) (record : Members) (item : Item) : Prop where
  names : Members.names item.key = attrs
  values : ∀ m ∈ item.key, m ∈ record
  data : item.data = record.filter fun m => m.1 ∉ attrs
  apart : (Members.names item.key).Disjoint (Members.names item.data)
  /-- The key attributes come first. -/
  merged : item.merged = item.key ++ item.data
  members : item.merged.Perm record

/-- The attribute is the first that the record lacks. -/
def FirstMissing (record : Members) (attrs : List String) (attr : String) : Prop :=
  ∃ before after, attrs = before ++ attr :: after ∧
    (∀ known ∈ before, known ∈ Members.names record) ∧ attr ∉ Members.names record

/-- Whether a record has an item depends only on which of the key attributes it has. -/
structure PresenceDecides (schema : TableSchema) (record : Members) : Prop where
  ok_iff : (∃ item, ofRecord schema record = .ok item) ↔
    ∀ attr ∈ schema.keyAttributes, attr ∈ Members.names record
  splits : ∀ item, ofRecord schema record = .ok item → item.Splits schema.keyAttributes record
  missing : ∀ e, ofRecord schema record = .error e →
    ∃ attr, FirstMissing record schema.keyAttributes attr ∧
      e = .missingKeyAttribute schema.table attr

/-- The key attributes before the first that the record lacks. -/
def presentKeys (schema : TableSchema) (record : Members) : List String :=
  schema.keyAttributes.takeWhile (· ∈ Members.names record)

/-- What is left of a record are the members that are no key attributes. -/
theorem data_of_takeKeys (distinct : Members.Distinct record)
    (ok : takeKeys table key record attrs = .ok item) :
    item.data = record.filter fun m => m.1 ∉ attrs := by
  induction attrs generalizing key record with
  | nil =>
    cases ok
    simp
  | cons attr rest ih =>
    unfold takeKeys at ok
    cases found : Members.get? attr record with
    | none => simp [found] at ok
    | some v =>
      rw [found] at ok
      rw [ih (distinct.erase attr) ok, distinct.erase_eq, List.filter_filter]
      refine List.filter_congr fun m _ => ?_
      simp [Bool.and_comm]

/-- An attribute is refused that the record never had or that was taken out before. -/
theorem takeKeys_error {e : SplitError} (distinct : Members.Distinct record)
    (failed : takeKeys table key record attrs = .error e) :
    ∃ before attr after, attrs = before ++ attr :: after ∧ before.Nodup ∧
      (∀ known ∈ before, known ∈ Members.names record) ∧
      (attr ∉ Members.names record ∨ attr ∈ before) ∧ e = .missingKeyAttribute table attr := by
  induction attrs generalizing key record with
  | nil => cases failed
  | cons attr rest ih =>
    unfold takeKeys at failed
    cases found : Members.get? attr record with
    | none =>
      rw [found] at failed
      refine ⟨[], attr, rest, rfl, List.nodup_nil, fun _ mem => absurd mem List.not_mem_nil, ?_, ?_⟩
      · exact .inl (Members.get?_eq_none_iff.mp found)
      · exact (Except.error.inj failed).symm
    | some v =>
      rw [found] at failed
      have known_iff := distinct.mem_names_erase attr
      obtain ⟨before, refused, after, split, nodup, known, reason, same⟩ :=
        ih (distinct.erase attr) failed
      have new : attr ∉ before := fun mem => ((known_iff attr).mp (known attr mem)).2 rfl
      have first : attr ∈ Members.names record :=
        List.mem_map_of_mem (Members.mem_of_get? found)
      refine ⟨attr :: before, refused, after, by rw [split, List.cons_append],
        List.nodup_cons.mpr ⟨new, nodup⟩, ?_, ?_, same⟩
      · have others : ∀ name ∈ before, name ∈ Members.names record := fun name mem =>
          ((known_iff name).mp (known name mem)).1
        exact List.forall_mem_cons.mpr ⟨first, others⟩
      · rw [known_iff, List.mem_cons] at *
        tauto

/-- The key attributes of an item are distinct and stand in its record. -/
theorem keys_of_ofRecord (distinct : Members.Distinct record)
    (ok : ofRecord schema record = .ok item) :
    schema.keyAttributes.Nodup ∧ ∀ attr ∈ schema.keyAttributes, attr ∈ Members.names record := by
  have whole : Members.Distinct ([] ++ record) := distinct
  obtain ⟨names, perm⟩ := takeKeys_ok whole ok
  have perm_names := perm.map Prod.fst
  have apart : Members.Distinct (item.key ++ item.data) := perm_names.nodup_iff.mpr whole
  have names : schema.keyAttributes = Members.names item.key := names.symm
  rw [names]
  constructor
  · rw [Members.Distinct, Members.names, List.map_append] at apart
    exact (List.nodup_append.mp apart).1
  · intro attr mem
    have kept : attr ∈ (item.key ++ item.data).map Prod.fst := by
      rw [List.map_append]
      exact List.mem_append_left _ mem
    exact perm_names.mem_iff.mp kept

/-- An item splits its record. -/
theorem splits_of_ofRecord (distinct : Members.Distinct record)
    (ok : ofRecord schema record = .ok item) : item.Splits schema.keyAttributes record := by
  have whole : Members.Distinct ([] ++ record) := distinct
  obtain ⟨names, perm⟩ := takeKeys_ok whole ok
  have apart : Members.Distinct (item.key ++ item.data) := (perm.map Prod.fst).nodup_iff.mpr whole
  have merged : item.merged = item.key ++ item.data := Members.putAll_of_distinct apart
  refine ⟨names, fun m mem => ?_, data_of_takeKeys distinct ok, ?_, merged, merged ▸ perm⟩
  · exact perm.mem_iff.mp (List.mem_append_left _ mem)
  · rw [Members.Distinct, Members.names, List.map_append] at apart
    exact List.disjoint_of_nodup_append apart

/-- A key attribute that stands twice among those that a record has is refused the second time. -/
theorem refused_of_repeated (distinct : Members.Distinct record)
    (repeated : ¬ (presentKeys schema record).Nodup) :
    ∃ before attr after, schema.keyAttributes = before ++ attr :: after ∧ before.Nodup ∧
      (∀ known ∈ before, known ∈ Members.names record) ∧ attr ∈ before ∧
      ofRecord schema record = .error (.missingKeyAttribute schema.table attr) := by
  cases result : ofRecord schema record with
  | ok item =>
    have prefix' : (presentKeys schema record).Sublist schema.keyAttributes :=
      (List.takeWhile_prefix _).sublist
    exact absurd ((keys_of_ofRecord distinct result).1.sublist prefix') repeated
  | error e =>
    obtain ⟨before, attr, after, split, nodup, known, reason, rfl⟩ := takeKeys_error distinct result
    refine ⟨before, attr, after, split, nodup, known, reason.resolve_left fun missing => ?_, rfl⟩
    have present : presentKeys schema record = before := by
      rw [presentKeys, split, List.takeWhile_append_of_pos (by simpa using known),
        List.takeWhile_cons_of_neg (by simpa using missing), List.append_nil]
    exact repeated (present ▸ nodup)

/-- Where no key attribute stands twice before the first that a record lacks, the record has an item
exactly if it has all key attributes, and else the first that it lacks is named. -/
theorem presenceDecides_of_nodup (distinct : Members.Distinct record)
    (nodup : (presentKeys schema record).Nodup) : PresenceDecides schema record := by
  have missing : ∀ e, ofRecord schema record = .error e →
      ∃ attr, FirstMissing record schema.keyAttributes attr ∧
        e = .missingKeyAttribute schema.table attr := by
    intro e failed
    obtain ⟨before, attr, after, split, -, known, reason, rfl⟩ := takeKeys_error distinct failed
    refine ⟨attr, ⟨before, after, split, known, fun present => ?_⟩, rfl⟩
    have again : attr ∈ before := reason.resolve_left fun missing => missing present
    have longer : presentKeys schema record =
        before ++ attr :: after.takeWhile (· ∈ Members.names record) := by
      rw [presentKeys, split, List.takeWhile_append_of_pos (by simpa using known),
        List.takeWhile_cons_of_pos (by simpa using present)]
    rw [longer, List.nodup_append] at nodup
    exact nodup.2.2 attr again attr List.mem_cons_self rfl
  refine ⟨⟨fun ⟨item, ok⟩ => (keys_of_ofRecord distinct ok).2, fun all => ?_⟩,
    fun item ok => splits_of_ofRecord distinct ok, missing⟩
  cases result : ofRecord schema record with
  | ok item => exact ⟨item, rfl⟩
  | error e =>
    obtain ⟨attr, ⟨before, after, split, -, lacks⟩, -⟩ := missing e result
    have named : attr ∈ schema.keyAttributes := split ▸ List.mem_append_right _ List.mem_cons_self
    exact absurd (all attr named) lacks

/-- Whether a record has an item is decided by which key attributes it has, exactly if none of them
stands twice before the first that it lacks. One that does is refused although the record has it. -/
theorem splits_by_presence_iff (distinct : Members.Distinct record) :
    (PresenceDecides schema record ↔ (presentKeys schema record).Nodup) ∧
      (¬ (presentKeys schema record).Nodup →
        ∃ before attr after, schema.keyAttributes = before ++ attr :: after ∧ before.Nodup ∧
          (∀ known ∈ before, known ∈ Members.names record) ∧ attr ∈ before ∧
          ofRecord schema record = .error (.missingKeyAttribute schema.table attr)) := by
  refine ⟨⟨fun decides => ?_, presenceDecides_of_nodup distinct⟩, refused_of_repeated distinct⟩
  by_contra repeated
  obtain ⟨before, attr, _, _, _, known, again, refused⟩ := refused_of_repeated distinct repeated
  obtain ⟨other, ⟨_, _, _, _, lacks⟩, same⟩ := decides.missing _ refused
  obtain ⟨-, rfl⟩ := SplitError.missingKeyAttribute.inj same
  exact lacks (known attr again)

/-- A record with two key attributes and another member, and a schema in which they stand the other
way round. -/
theorem splits_by_presence_posts :
    let schema := TableSchema.ofKeys "posts" ["author", "created"]
    let record : Members := [("title", .string "Hello"), ("created", .number (.ofUInt32 7)),
      ("author", .string "Ann")]
    Members.Distinct record ∧ (presentKeys schema record).Nodup ∧ PresenceDecides schema record ∧
      ofRecord schema record = .ok ⟨[("author", .string "Ann"), ("created", .number (.ofUInt32 7))],
        [("title", .string "Hello")]⟩ := by
  intro schema record
  have distinct : Members.Distinct record := by decide
  have nodup : (presentKeys schema record).Nodup := by decide
  exact ⟨distinct, nodup, (splits_by_presence_iff distinct).1.mpr nodup, rfl⟩

/-- A key attribute that the schema names twice is refused although the record has it. -/
theorem repeated_key_is_refused :
    let schema := TableSchema.ofKeys "t" ["id", "id"]
    let record : Members := [("id", .number (.ofUInt32 1))]
    (∀ attr ∈ schema.keyAttributes, attr ∈ Members.names record) ∧
      ofRecord schema record = .error (.missingKeyAttribute "t" "id") ∧
      ¬ PresenceDecides schema record := by
  intro schema record
  have present : ∀ attr ∈ schema.keyAttributes, attr ∈ Members.names record := by decide
  have refused : ofRecord schema record = .error (.missingKeyAttribute "t" "id") := rfl
  refine ⟨present, refused, fun decides => ?_⟩
  obtain ⟨item, ok⟩ := decides.ok_iff.mpr present
  rw [refused] at ok
  cases ok

end Item

end TableSeed
