import Mathlib
import TableSeed.Schema.Reader

/-!
# Fields of a schema's objects

An object is read exactly if each of its fields stands there once, or may be left out, and if the
members with other names can be skipped. So what is read depends on the value of each field and not on
where the field stands.
-/

namespace TableSeed.Schema

open Json (Tree Stop Fault)

/-- A member of an object in a tree; its name may be broken. -/
abbrev Member := Option String × Tree

section Results

variable {α β : Type} {a : α} {b : β}

/-- One reader after the other succeeds if both do. -/
theorem bind_eq_ok_iff {result : Result α} {next : α → Result β} :
    (result >>= next) = .ok b ↔ ∃ a, result = .ok a ∧ next a = .ok b := by
  cases result <;> simp [bind, Except.bind]

/-- A lifted result is good if the result is. -/
theorem lift_eq_ok_iff {result : Except Fault α} : lift result = .ok a ↔ result = .ok a := by
  cases result <;> simp [lift]

/-- A good result goes on with its value. -/
theorem ok_bind (a : α) (next : α → Result β) : (Except.ok a >>= next) = next a := rfl

/-- The name of a member is a text. -/
theorem lift_readText (name : String) : lift (Tree.readText (some name)) = .ok name := rfl

/-- A tree is whole if nothing stopped it. -/
theorem readStop_eq_ok_iff {stop : Option Stop} {u : Unit} :
    Tree.readStop stop = .ok u ↔ stop = none := by
  cases stop <;> simp [Tree.readStop]

/-- A field that is required is there. -/
theorem required_eq_ok_iff {name : String} {field : Option α} :
    required name field = .ok a ↔ field = some a := by
  cases field <;> simp [required]

/-- A field is read once, if it has not been seen before. -/
theorem once_eq_ok_iff {name : String} {read : Tree → Result α} {seen seen' : Option α} {t : Tree} :
    once name read seen t = .ok seen' ↔ seen = none ∧ ∃ a, read t = .ok a ∧ some a = seen' := by
  cases seen with
  | some a => simp [once]
  | none => cases result : read t <;> simp [once, result, bind, Except.bind, pure, Except.pure]

end Results

/-! ## Places -/

/-- Where a tree stands in the text of a schema. -/
inductive Place where
  | schema | keys | key | role | types | type | text
  /-- In what is skipped. -/
  | ignored
  deriving DecidableEq

namespace Place

/-- The place of the value of a member, if an object at a place may have a member of that name. -/
def member? : Place → Option String → Option Place
  | .schema, some "TableName" => some .text
  | .schema, some "KeySchema" => some .keys
  | .schema, some "AttributeDefinitions" => some .types
  | .schema, some _ => some .ignored
  | .key, some "AttributeName" => some .text
  | .key, some "KeyType" => some .role
  | .key, some _ => some .ignored
  | .type, some "AttributeName" => some .text
  | .type, some "AttributeType" => some .text
  | .type, some _ => some .ignored
  | .ignored, _ => some .ignored
  | _, _ => none

/-- The place of the items of a list at a place. -/
def item? : Place → Option Place
  | .keys => some .key
  | .types => some .type
  | .ignored => some .ignored
  | _ => none

end Place

/-! ## Fields -/

/-- The values of the members with a name. -/
def valuesOf (name : String) (ms : List Member) : List Tree :=
  (ms.filter fun m => m.1 = some name).map Prod.snd

/-- What members say of a field: it is left out, or it stands there once and is read. -/
def Field {α : Type} (read : Tree → Result α) (name : String) (ms : List Member) : Option α → Prop
  | none => valuesOf name ms = []
  | some a => ∃ t, valuesOf name ms = [t] ∧ read t = .ok a

/-- What members say of a field after others, which said something of it already or not. -/
def FieldAfter {α : Type} (read : Tree → Result α) (name : String) (ms : List Member)
    (seen : Option α) (value : Option α) : Prop :=
  match seen with
  | none => Field read name ms value
  | some a => valuesOf name ms = [] ∧ value = some a

/-- A member may stand at the place, and can be skipped if it is no field. -/
def Passes (p : Place) (m : Member) : Prop :=
  ∃ q, p.member? m.1 = some q ∧ (q = .ignored → m.2.skip = .ok ())

section

variable {α : Type} {read : Tree → Result α} {name : String} {label : Option String} {t : Tree}
  {ms ms' before after : List Member} {seen value : Option α} {p : Place}

/-- The values of a name include that of a member of the name. -/
theorem valuesOf_self : valuesOf name ((some name, t) :: ms) = t :: valuesOf name ms := by
  simp [valuesOf]

/-- The values of a name leave out that of another member. -/
theorem valuesOf_other (other : label ≠ some name) :
    valuesOf name ((label, t) :: ms) = valuesOf name ms := by
  simp [valuesOf, other]

/-- No members say nothing more of a field. -/
theorem fieldAfter_nil : FieldAfter read name [] seen value ↔ value = seen := by
  cases seen <;> cases value <;> simp [FieldAfter, Field, valuesOf]

/-- A member of another name says nothing of a field. -/
theorem field_other (other : label ≠ some name) :
    Field read name ((label, t) :: ms) value ↔ Field read name ms value := by
  unfold Field
  rw [valuesOf_other other]

/-- A member of another name says nothing more of a field. -/
theorem fieldAfter_other (other : label ≠ some name) :
    FieldAfter read name ((label, t) :: ms) seen value ↔ FieldAfter read name ms seen value := by
  unfold FieldAfter
  rw [field_other other, valuesOf_other other]

/-- A field that stands in front is read there, and stands nowhere else. -/
theorem field_self : Field read name ((some name, t) :: ms) value ↔
    valuesOf name ms = [] ∧ ∃ a, read t = .ok a ∧ value = some a := by
  unfold Field
  rw [valuesOf_self]
  cases value with
  | none => simp
  | some a =>
    constructor
    · rintro ⟨t', only, result⟩
      obtain ⟨rfl, others⟩ := List.cons.inj only
      exact ⟨others, a, result, rfl⟩
    · rintro ⟨others, a, result, same⟩
      cases same
      exact ⟨t, by rw [others], result⟩

/-- A member of the name is read as the field, if that has not been seen before. -/
theorem fieldAfter_self : FieldAfter read name ((some name, t) :: ms) seen value ↔
    ∃ seen', once name read seen t = .ok seen' ∧ FieldAfter read name ms seen' value := by
  simp only [once_eq_ok_iff]
  cases seen with
  | some a =>
    rw [FieldAfter, valuesOf_self]
    simp
  | none =>
    rw [FieldAfter, field_self]
    constructor
    · rintro ⟨others, a, result, rfl⟩
      exact ⟨some a, ⟨rfl, a, result, rfl⟩, others, rfl⟩
    · rintro ⟨_, ⟨-, a, result, rfl⟩, others, rfl⟩
      exact ⟨others, a, result, rfl⟩

/-- A member that is a field may stand at its place, whatever its value. -/
theorem passes_of_field {q : Place} (isField : p.member? label = some q) (known : q ≠ .ignored) :
    Passes p (label, t) :=
  ⟨q, isField, fun unknown => absurd unknown known⟩

/-- A member that is no field may stand at its place if it can be skipped. -/
theorem passes_iff_skip (unknown : p.member? label = some .ignored) :
    Passes p (label, t) ↔ t.skip = .ok () := by
  simp [Passes, unknown]

/-- After a member that is no field the others are read, if it can be skipped. -/
theorem skip_eq_ok_iff {rest : Result α} {a : α} (unknown : p.member? label = some .ignored) :
    (lift t.skip >>= fun _ => rest) = .ok a ↔ Passes p (label, t) ∧ rest = .ok a := by
  rw [bind_eq_ok_iff, passes_iff_skip unknown]
  simp only [lift_eq_ok_iff, exists_and_right]
  exact and_congr_left fun _ => ⟨fun ⟨_, skipped⟩ => skipped, fun skipped => ⟨(), skipped⟩⟩

end

/-! ## Objects -/

/-- A key attribute is read from an object exactly if it has its name once and its role at most once. -/
theorem readKeyMembers_ok_iff {ms : List Member} {attr : Option String} {role : Option KeyRole}
    {stop : Option Stop} {k : KeyElement} : readKeyMembers attr role stop ms = .ok k ↔
      stop = none ∧ (∀ m ∈ ms, Passes .key m) ∧
        FieldAfter readString "AttributeName" ms attr (some k.name) ∧
        ∃ r, FieldAfter readRole "KeyType" ms role r ∧ r.getD .hash = k.role := by
  induction ms generalizing attr role with
  | nil =>
    obtain ⟨name, keyRole⟩ := k
    rw [readKeyMembers]
    simp only [bind_eq_ok_iff, lift_eq_ok_iff, readStop_eq_ok_iff, required_eq_ok_iff, fieldAfter_nil]
    constructor
    · rintro ⟨-, rfl, name, rfl, same⟩
      cases same
      exact ⟨rfl, List.forall_mem_nil _, rfl, role, rfl, rfl⟩
    · rintro ⟨rfl, -, rfl, r, rfl, rfl⟩
      exact ⟨(), rfl, name, rfl, rfl⟩
  | cons m ms ih =>
    obtain ⟨label, t⟩ := m
    rw [List.forall_mem_cons]
    by_cases isName : label = some "AttributeName"
    · subst isName
      have step : readKeyMembers attr role stop ((some "AttributeName", t) :: ms) =
        (once "AttributeName" readString attr t >>= fun attr => readKeyMembers attr role stop ms) := rfl
      have passes : Passes .key (some "AttributeName", t) := passes_of_field rfl (by decide)
      have other : some "AttributeName" ≠ some "KeyType" := by decide
      simp only [step, bind_eq_ok_iff, ih, fieldAfter_self, fieldAfter_other other, passes, true_and]
      grind
    by_cases isRole : label = some "KeyType"
    · subst isRole
      have step : readKeyMembers attr role stop ((some "KeyType", t) :: ms) =
        (once "KeyType" readRole role t >>= fun role => readKeyMembers attr role stop ms) := rfl
      have passes : Passes .key (some "KeyType", t) := passes_of_field rfl (by decide)
      simp only [step, bind_eq_ok_iff, ih, fieldAfter_self, fieldAfter_other isName, passes, true_and]
      grind
    rw [fieldAfter_other isName]
    simp only [fieldAfter_other isRole]
    cases label with
    | none => simp [readKeyMembers, Tree.readText, lift, bind, Except.bind, Passes, Place.member?]
    | some name =>
      have unknown : Place.key.member? (some name) = some .ignored := by
        unfold Place.member?
        split <;> simp_all
      have step : readKeyMembers attr role stop ((some name, t) :: ms) =
          (lift t.skip >>= fun _ => readKeyMembers attr role stop ms) := by
        rw [readKeyMembers, lift_readText, ok_bind]
        split <;> simp_all
      rw [step, skip_eq_ok_iff unknown, ih, and_left_comm, and_assoc]

/-- An attribute type is read from an object exactly if it has its name once and its type once. -/
theorem readAttributeMembers_ok_iff {ms : List Member} {attr type : Option String}
    {stop : Option Stop} {d : AttributeDefinition} : readAttributeMembers attr type stop ms = .ok d ↔
      stop = none ∧ (∀ m ∈ ms, Passes .type m) ∧
        FieldAfter readString "AttributeName" ms attr (some d.name) ∧
        FieldAfter readString "AttributeType" ms type (some d.type) := by
  induction ms generalizing attr type with
  | nil =>
    obtain ⟨name, attributeType⟩ := d
    rw [readAttributeMembers]
    simp only [bind_eq_ok_iff, lift_eq_ok_iff, readStop_eq_ok_iff, required_eq_ok_iff, fieldAfter_nil]
    constructor
    · rintro ⟨-, rfl, name, rfl, type, rfl, same⟩
      cases same
      exact ⟨rfl, List.forall_mem_nil _, rfl, rfl⟩
    · rintro ⟨rfl, -, rfl, rfl⟩
      exact ⟨(), rfl, name, rfl, attributeType, rfl, rfl⟩
  | cons m ms ih =>
    obtain ⟨label, t⟩ := m
    rw [List.forall_mem_cons]
    by_cases isName : label = some "AttributeName"
    · subst isName
      have step : readAttributeMembers attr type stop ((some "AttributeName", t) :: ms) =
        (once "AttributeName" readString attr t >>= fun attr =>
          readAttributeMembers attr type stop ms) := rfl
      have passes : Passes .type (some "AttributeName", t) := passes_of_field rfl (by decide)
      have other : some "AttributeName" ≠ some "AttributeType" := by decide
      simp only [step, bind_eq_ok_iff, ih, fieldAfter_self, fieldAfter_other other, passes, true_and]
      grind
    by_cases isType : label = some "AttributeType"
    · subst isType
      have step : readAttributeMembers attr type stop ((some "AttributeType", t) :: ms) =
        (once "AttributeType" readString type t >>= fun type =>
          readAttributeMembers attr type stop ms) := rfl
      have passes : Passes .type (some "AttributeType", t) := passes_of_field rfl (by decide)
      simp only [step, bind_eq_ok_iff, ih, fieldAfter_self, fieldAfter_other isName, passes, true_and]
      grind
    rw [fieldAfter_other isName, fieldAfter_other isType]
    cases label with
    | none => simp [readAttributeMembers, Tree.readText, lift, bind, Except.bind, Passes, Place.member?]
    | some name =>
      have unknown : Place.type.member? (some name) = some .ignored := by
        unfold Place.member?
        split <;> simp_all
      have step : readAttributeMembers attr type stop ((some name, t) :: ms) =
          (lift t.skip >>= fun _ => readAttributeMembers attr type stop ms) := by
        rw [readAttributeMembers, lift_readText, ok_bind]
        split <;> simp_all
      rw [step, skip_eq_ok_iff unknown, ih, and_left_comm, and_assoc]

/-- A schema is read from an object exactly if it has its table and its keys once and the types of
attributes at most once. -/
theorem readMembers_ok_iff {ms : List Member} {draft : Draft} {stop : Option Stop}
    {schema : TableSchema} : readMembers draft stop ms = .ok schema ↔
      stop = none ∧ (∀ m ∈ ms, Passes .schema m) ∧
        FieldAfter readString "TableName" ms draft.table (some schema.table) ∧
        FieldAfter (readSequence readKey) "KeySchema" ms draft.keys (some schema.keys) ∧
        ∃ types, FieldAfter (readSequence readAttribute) "AttributeDefinitions" ms draft.attributes types ∧
          types.getD [] = schema.attributes := by
  induction ms generalizing draft with
  | nil =>
    obtain ⟨table, keys, attributes⟩ := schema
    rw [readMembers]
    simp only [bind_eq_ok_iff, lift_eq_ok_iff, readStop_eq_ok_iff, required_eq_ok_iff, fieldAfter_nil]
    constructor
    · rintro ⟨-, rfl, table, hasTable, keys, hasKeys, same⟩
      cases same
      exact ⟨rfl, List.forall_mem_nil _, hasTable.symm, hasKeys.symm, draft.attributes, rfl, rfl⟩
    · rintro ⟨rfl, -, hasTable, hasKeys, types, rfl, rfl⟩
      exact ⟨(), rfl, table, hasTable.symm, keys, hasKeys.symm, rfl⟩
  | cons m ms ih =>
    obtain ⟨label, t⟩ := m
    rw [List.forall_mem_cons]
    by_cases isTable : label = some "TableName"
    · subst isTable
      have step : readMembers draft stop ((some "TableName", t) :: ms) =
        (once "TableName" readString draft.table t >>= fun table =>
          readMembers { draft with table } stop ms) := rfl
      have passes : Passes .schema (some "TableName", t) := passes_of_field rfl (by decide)
      have notKeys : some "TableName" ≠ some "KeySchema" := by decide
      have notTypes : some "TableName" ≠ some "AttributeDefinitions" := by decide
      simp only [step, bind_eq_ok_iff, ih, fieldAfter_self, fieldAfter_other notKeys,
        fieldAfter_other notTypes, passes, true_and]
      grind
    by_cases isKeys : label = some "KeySchema"
    · subst isKeys
      have step : readMembers draft stop ((some "KeySchema", t) :: ms) =
        (once "KeySchema" (readSequence readKey) draft.keys t >>= fun keys =>
          readMembers { draft with keys } stop ms) := rfl
      have passes : Passes .schema (some "KeySchema", t) := passes_of_field rfl (by decide)
      have notTypes : some "KeySchema" ≠ some "AttributeDefinitions" := by decide
      simp only [step, bind_eq_ok_iff, ih, fieldAfter_self, fieldAfter_other isTable,
        fieldAfter_other notTypes, passes, true_and]
      grind
    by_cases isTypes : label = some "AttributeDefinitions"
    · subst isTypes
      have step : readMembers draft stop ((some "AttributeDefinitions", t) :: ms) =
        (once "AttributeDefinitions" (readSequence readAttribute) draft.attributes t >>=
          fun attributes => readMembers { draft with attributes } stop ms) := rfl
      have passes : Passes .schema (some "AttributeDefinitions", t) := passes_of_field rfl (by decide)
      simp only [step, bind_eq_ok_iff, ih, fieldAfter_self, fieldAfter_other isTable,
        fieldAfter_other isKeys, passes, true_and]
      grind
    rw [fieldAfter_other isTable, fieldAfter_other isKeys]
    simp only [fieldAfter_other isTypes]
    cases label with
    | none => simp [readMembers, Tree.readText, lift, bind, Except.bind, Passes, Place.member?]
    | some name =>
      have unknown : Place.schema.member? (some name) = some .ignored := by
        unfold Place.member?
        split <;> simp_all
      have step : readMembers draft stop ((some name, t) :: ms) =
          (lift t.skip >>= fun _ => readMembers draft stop ms) := by
        rw [readMembers, lift_readText, ok_bind]
        split <;> simp_all
      rw [step, skip_eq_ok_iff unknown, ih, and_left_comm, and_assoc]

section

variable {ms : List Member} {stop : Option Stop}

/-- An object reads as a key element if it is whole, its members pass, and they say its name and
perhaps its role. -/
theorem readKey_object_ok_iff {k : KeyElement} : readKey (.object ms stop) = .ok k ↔
    stop = none ∧ (∀ m ∈ ms, Passes .key m) ∧
      Field readString "AttributeName" ms (some k.name) ∧
      ∃ r, Field readRole "KeyType" ms r ∧ r.getD .hash = k.role :=
  readKeyMembers_ok_iff

/-- An object reads as an attribute definition if it is whole, its members pass, and they say its
name and its type. -/
theorem readAttribute_object_ok_iff {d : AttributeDefinition} :
    readAttribute (.object ms stop) = .ok d ↔ stop = none ∧ (∀ m ∈ ms, Passes .type m) ∧
      Field readString "AttributeName" ms (some d.name) ∧
      Field readString "AttributeType" ms (some d.type) :=
  readAttributeMembers_ok_iff

/-- An object reads as a schema if it is whole, its members pass, and they say its table, its keys
and perhaps its attribute types. -/
theorem read_object_ok_iff {schema : TableSchema} : read (.object ms stop) = .ok schema ↔
    stop = none ∧ (∀ m ∈ ms, Passes .schema m) ∧
      Field readString "TableName" ms (some schema.table) ∧
      Field (readSequence readKey) "KeySchema" ms (some schema.keys) ∧
      ∃ types, Field (readSequence readAttribute) "AttributeDefinitions" ms types ∧
        types.getD [] = schema.attributes :=
  readMembers_ok_iff

end

end TableSeed.Schema
