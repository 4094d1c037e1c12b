import TableSeed.Item
import TableSeed.Proofs.Json.ReadBack
import TableSeed.Proofs.Schema.Fields

/-!
# Texts of one schema

A schema is read back from its own text. A text may also be changed in ways that do not matter: members
may change their places and others may join them, a role that is the default may be left out, and so may
an empty list of attribute types. Such changes may be made inside what is skipped as well.
-/

namespace TableSeed.Schema

open Json (Tree Stop)

/-- What is read at a place. -/
def Place.Value : Place → Type
  | .schema => TableSchema
  | .keys => List KeyElement
  | .key => KeyElement
  | .role => KeyRole
  | .types => List AttributeDefinition
  | .type => AttributeDefinition
  | .text => String
  | .ignored => Unit

/-- Reads the tree at a place. -/
def Place.read : (p : Place) → Tree → Result p.Value
  | .schema => Schema.read
  | .keys => readSequence readKey
  | .key => readKey
  | .role => readRole
  | .types => readSequence readAttribute
  | .type => readAttribute
  | .text => readString
  | .ignored => fun t => lift t.skip

/-- A change of a tree at a place that does not matter for what is read there. -/
inductive Edit : Place → Tree → Tree → Prop where
  /-- Members change their places. -/
  | reorder {p : Place} {ms ms' : List Member} {stop : Option Stop} : ms.Perm ms' →
    Edit p (.object ms stop) (.object ms' stop)
  /-- A member with another name joins, whose value can be skipped. -/
  | add {p : Place} {label : Option String} {t : Tree} {stop : Option Stop}
    (before after : List Member) : p.member? label = some .ignored → t.skip = .ok () →
    Edit p (.object (before ++ after) stop) (.object (before ++ (label, t) :: after) stop)
  /-- The value of a member changes. -/
  | member {p q : Place} {label : Option String} {t t' : Tree} {stop : Option Stop}
    (before after : List Member) : p.member? label = some q → Edit q t t' →
    Edit p (.object (before ++ (label, t) :: after) stop)
      (.object (before ++ (label, t') :: after) stop)
  /-- An item of a list changes. -/
  | item {p q : Place} {t t' : Tree} {stop : Option Stop} (before after : List Tree) :
    p.item? = some q → Edit q t t' →
    Edit p (.array (before ++ t :: after) stop) (.array (before ++ t' :: after) stop)
  /-- The role of a partition key is left out. -/
  | noRole {t : Tree} {stop : Option Stop} (before after : List Member) : readRole t = .ok .hash →
    Edit .key (.object (before ++ (some "KeyType", t) :: after) stop) (.object (before ++ after) stop)
  /-- The role of a partition key is left out of a key attribute written as a list. -/
  | noRoleItem {name t : Tree} {stop : Option Stop} : readRole t = .ok .hash →
    Edit .key (.array [name, t] stop) (.array [name] stop)
  /-- An empty list of attribute types is left out. -/
  | noTypes {stop : Option Stop} (before after : List Member) :
    Edit .schema (.object (before ++ (some "AttributeDefinitions", .array [] none) :: after) stop)
      (.object (before ++ after) stop)

variable {p q : Place} {t t' : Tree} {ms ms' ms'' before after : List Member} {stop : Option Stop}
  {label : Option String} {name : String}

/-! ## Fields in another place -/

/-- The members of a field may come in any order. -/
theorem field_perm {α : Type} {read : Tree → Result α} {value : Option α} (perm : ms.Perm ms')
    (field : Field read name ms value) : Field read name ms' value := by
  have values : (valuesOf name ms).Perm (valuesOf name ms') := (perm.filter _).map _
  cases value with
  | none =>
    rw [Field] at field
    rw [field] at values
    exact values.nil_eq.symm
  | some a =>
    obtain ⟨t, only, result⟩ := field
    rw [only] at values
    exact ⟨t, List.perm_singleton.mp values.symm, result⟩

/-- What was said of an object by its members is said of it by others as well. -/
structure Fits (p : Place) (ms ms' : List Member) : Prop where
  passes : (∀ m ∈ ms, Passes p m) → ∀ m ∈ ms', Passes p m
  field : ∀ {name q}, p.member? (some name) = some q → q ≠ .ignored → ∀ {value},
    Field q.read name ms value → Field q.read name ms' value

/-- What is said by members, by others and by more is said by all of them. -/
theorem Fits.trans (first : Fits p ms ms') (second : Fits p ms' ms'') : Fits p ms ms'' where
  passes all := second.passes (first.passes all)
  field isField known _ said := second.field isField known (first.field isField known said)

/-- The order of members does not matter. -/
theorem fits_of_perm (perm : ms.Perm ms') : Fits p ms ms' where
  passes all m mem := all m (perm.mem_iff.mpr mem)
  field _ _ _ said := field_perm perm said

/-- Another member says nothing of the fields. -/
theorem fits_cons (unknown : p.member? label = some .ignored) (skipped : t.skip = .ok ()) :
    Fits p ms ((label, t) :: ms) where
  passes all := List.forall_mem_cons.mpr ⟨(passes_iff_skip unknown).mpr skipped, all⟩
  field {name q} isField known value said := by
    have other : label ≠ some name := by
      rintro rfl
      exact known (Option.some.inj (isField.symm.trans unknown))
    exact (field_other other).mpr said

/-- A value that says what another one says may stand for it. -/
theorem fits_value (isMember : p.member? label = some q)
    (keeps : ∀ a, q.read t = .ok a → q.read t' = .ok a) :
    Fits p ((label, t) :: ms) ((label, t') :: ms) where
  passes all := by
    obtain ⟨⟨q', isMember', skipped⟩, others⟩ := List.forall_mem_cons.mp all
    refine List.forall_mem_cons.mpr ⟨⟨q', isMember', fun unknown => ?_⟩, others⟩
    obtain rfl := Option.some.inj (isMember.symm.trans isMember')
    subst unknown
    exact lift_eq_ok_iff.mp (keeps () (lift_eq_ok_iff.mpr (skipped rfl)))
  field {name q'} isField known value said := by
    by_cases same : label = some name
    · subst same
      obtain rfl := Option.some.inj (isMember.symm.trans isField)
      obtain ⟨others, a, result, rfl⟩ := field_self.mp said
      exact field_self.mpr ⟨others, a, keeps a result, rfl⟩
    · exact (field_other same).mpr ((field_other same).mp said)

/-! ## Reading an object -/

/-- Members are skipped if each value can be. -/
theorem skipMembers_eq_ok_iff {ms : List Member} :
    Tree.skipMembers ms = .ok () ↔ ∀ m ∈ ms, m.2.skip = .ok () := by
  induction ms with
  | nil => simp [Tree.skipMembers]
  | cons m ms ih =>
    obtain ⟨label, t⟩ := m
    rw [List.forall_mem_cons, ← ih, Tree.skipMembers]
    cases t.skip <;> simp [bind, Except.bind]

/-- An object is skipped if it is whole and each member passes. -/
theorem skip_object_ok_iff : (Tree.object ms stop).skip = .ok () ↔
    stop = none ∧ ∀ m ∈ ms, Passes .ignored m := by
  have skipped (m : Member) : Passes .ignored m ↔ m.2.skip = .ok () := passes_iff_skip rfl
  simp only [skipped]
  rw [← skipMembers_eq_ok_iff, Tree.skip]
  cases Tree.skipMembers ms <;> cases stop <;> simp [bind, Except.bind, Tree.skipStop]

/-- What an object says is said by members that fit it. -/
theorem Fits.read (fits : Fits p ms ms') (notRole : p ≠ .role) {a : p.Value}
    (read : p.read (.object ms stop) = .ok a) : p.read (.object ms' stop) = .ok a := by
  cases p with
  | schema =>
    obtain ⟨whole, passes, table, keys, types, field, same⟩ := read_object_ok_iff.mp read
    have table := fits.field (q := .text) rfl (by decide) table
    have keys := fits.field (q := .keys) rfl (by decide) keys
    have field := fits.field (q := .types) rfl (by decide) field
    exact read_object_ok_iff.mpr ⟨whole, fits.passes passes, table, keys, types, field, same⟩
  | key =>
    obtain ⟨whole, passes, attr, role, field, same⟩ := readKey_object_ok_iff.mp read
    have attr := fits.field (q := .text) rfl (by decide) attr
    have field := fits.field (q := .role) rfl (by decide) field
    exact readKey_object_ok_iff.mpr ⟨whole, fits.passes passes, attr, role, field, same⟩
  | type =>
    obtain ⟨whole, passes, attr, type⟩ := readAttribute_object_ok_iff.mp read
    have attr := fits.field (q := .text) rfl (by decide) attr
    have type := fits.field (q := .text) rfl (by decide) type
    exact readAttribute_object_ok_iff.mpr ⟨whole, fits.passes passes, attr, type⟩
  | ignored =>
    obtain ⟨whole, passes⟩ := skip_object_ok_iff.mp (lift_eq_ok_iff.mp read)
    exact lift_eq_ok_iff.mpr (skip_object_ok_iff.mpr ⟨whole, fits.passes passes⟩)
  | role => exact absurd rfl notRole
  | keys | types | text => cases read

/-- A role written as an object has a single member. -/
theorem readRole_perm {role : KeyRole} (perm : ms.Perm ms') (read : readRole (.object ms stop) = .ok role) :
    readRole (.object ms' stop) = .ok role := by
  have single : ∃ m, ms = [m] := by
    cases ms with
    | nil => cases stop <;> cases read
    | cons m rest =>
      cases rest with
      | nil => exact ⟨m, rfl⟩
      | cons m' rest =>
        obtain ⟨label, t⟩ := m
        simp [readRole, bind_eq_ok_iff] at read
  obtain ⟨m, rfl⟩ := single
  rwa [List.perm_singleton.mp perm.symm]

/-! ## Reading a list -/

/-- An item may be exchanged for one that is read alike. -/
theorem readAll_item {α : Type} {read : Tree → Result α} (keeps : ∀ a, read t = .ok a → read t' = .ok a)
    {before after : List Tree} {values : List α}
    (all : readAll read (before ++ t :: after) = .ok values) :
    readAll read (before ++ t' :: after) = .ok values := by
  induction before generalizing values with
  | nil =>
    obtain ⟨a, first, others⟩ := bind_eq_ok_iff.mp all
    exact bind_eq_ok_iff.mpr ⟨a, keeps a first, others⟩
  | cons u before ih =>
    obtain ⟨a, first, others⟩ := bind_eq_ok_iff.mp all
    obtain ⟨rest, later, same⟩ := bind_eq_ok_iff.mp others
    exact bind_eq_ok_iff.mpr ⟨a, first, bind_eq_ok_iff.mpr ⟨rest, ih later, same⟩⟩

/-- An item of a sequence may be exchanged for one that is read alike. -/
theorem readSequence_item {α : Type} {read : Tree → Result α}
    (keeps : ∀ a, read t = .ok a → read t' = .ok a) {before after : List Tree} {values : List α}
    (all : readSequence read (.array (before ++ t :: after) stop) = .ok values) :
    readSequence read (.array (before ++ t' :: after) stop) = .ok values := by
  obtain ⟨values', items, whole⟩ := bind_eq_ok_iff.mp all
  exact bind_eq_ok_iff.mpr ⟨values', readAll_item keeps items, whole⟩

/-- Items are skipped if each of them can be. -/
theorem skipItems_eq_ok_iff {items : List Tree} :
    Tree.skipItems items = .ok () ↔ ∀ t ∈ items, t.skip = .ok () := by
  induction items with
  | nil => simp [Tree.skipItems]
  | cons t items ih =>
    rw [List.forall_mem_cons, ← ih, Tree.skipItems]
    cases t.skip <;> simp [bind, Except.bind]

/-- An array is skipped if it is whole and each item can be. -/
theorem skip_array_ok_iff {items : List Tree} : (Tree.array items stop).skip = .ok () ↔
    stop = none ∧ ∀ t ∈ items, t.skip = .ok () := by
  rw [← skipItems_eq_ok_iff, Tree.skip]
  cases Tree.skipItems items <;> cases stop <;> simp [bind, Except.bind, Tree.skipStop]

/-- An item may be exchanged for one that is skipped alike. -/
theorem skip_item (keeps : t.skip = .ok () → t'.skip = .ok ()) {before after : List Tree}
    (skipped : (Tree.array (before ++ t :: after) stop).skip = .ok ()) :
    (Tree.array (before ++ t' :: after) stop).skip = .ok () := by
  obtain ⟨whole, all⟩ := skip_array_ok_iff.mp skipped
  have item : t'.skip = .ok () := keeps (all t List.mem_append_cons_self)
  refine skip_array_ok_iff.mpr ⟨whole, ?_⟩
  simp only [List.mem_append, List.mem_cons] at all ⊢
  rintro u (mem | rfl | mem)
  · exact all u (.inl mem)
  · exact item
  · exact all u (.inr (.inr mem))

/-! ## What may be left out -/

/-- The role of a key may be left out of an object if it is the hash role. -/
theorem readKey_noRole {k : KeyElement} (isHash : readRole t = .ok .hash)
    (read : readKey (.object ((some "KeyType", t) :: ms) stop) = .ok k) :
    readKey (.object ms stop) = .ok k := by
  obtain ⟨whole, passes, attr, role, field, same⟩ := readKey_object_ok_iff.mp read
  obtain ⟨others, role, result, rfl⟩ := field_self.mp field
  obtain rfl : role = .hash := Except.ok.inj (result.symm.trans isHash)
  have attr : Field readString "AttributeName" ms (some k.name) :=
    (field_other (by decide)).mp attr
  exact readKey_object_ok_iff.mpr ⟨whole, (List.forall_mem_cons.mp passes).2, attr, none, others, same⟩

/-- The role of a key may be left out of an array if it is the hash role. -/
theorem readKey_noRoleItem {k : KeyElement} {nameTree : Tree} (isHash : readRole t = .ok .hash)
    (read : readKey (.array [nameTree, t] stop) = .ok k) : readKey (.array [nameTree] stop) = .ok k := by
  obtain ⟨attr, named, read⟩ := bind_eq_ok_iff.mp read
  obtain ⟨role, result, read⟩ := bind_eq_ok_iff.mp read
  obtain rfl : role = .hash := Except.ok.inj (result.symm.trans isHash)
  exact bind_eq_ok_iff.mpr ⟨attr, named, read⟩

/-- An empty list of attribute types may be left out. -/
theorem read_noTypes {schema : TableSchema}
    (read : Schema.read (.object ((some "AttributeDefinitions", .array [] none) :: ms) stop) = .ok schema) :
    Schema.read (.object ms stop) = .ok schema := by
  obtain ⟨whole, passes, table, keys, types, field, same⟩ := read_object_ok_iff.mp read
  obtain ⟨others, types, result, rfl⟩ := field_self.mp field
  obtain rfl : types = [] := Except.ok.inj result.symm
  have table : Field readString "TableName" ms (some schema.table) :=
    (field_other (by decide)).mp table
  have keys : Field (readSequence readKey) "KeySchema" ms (some schema.keys) :=
    (field_other (by decide)).mp keys
  exact read_object_ok_iff.mpr
    ⟨whole, (List.forall_mem_cons.mp passes).2, table, keys, none, others, same⟩

/-! ## Edits -/

/-- What is read at a place stays the same. An object may stand for a role too, but then it has a
single member, and items stand in the lists of keys and of types and in what is skipped. -/
theorem Edit.read (edit : Edit p t t') {a : p.Value} (read : p.read t = .ok a) :
    p.read t' = .ok a := by
  induction edit with
  | @reorder p ms ms' stop perm =>
    by_cases isRole : p = .role
    · subst isRole
      exact readRole_perm perm read
    · exact (fits_of_perm perm).read isRole read
  | @add p label t stop before after unknown skipped =>
    have notRole : p ≠ .role := by
      rintro rfl
      cases unknown
    have fits : Fits p (before ++ after) (before ++ (label, t) :: after) :=
      (fits_cons unknown skipped).trans (fits_of_perm List.perm_middle.symm)
    exact fits.read notRole read
  | @member p q label t t' stop before after isMember edit ih =>
    have notRole : p ≠ .role := by
      rintro rfl
      cases isMember
    have fits : Fits p (before ++ (label, t) :: after) (before ++ (label, t') :: after) :=
      (fits_of_perm List.perm_middle).trans
        ((fits_value isMember fun _ read => ih read).trans (fits_of_perm List.perm_middle.symm))
    exact fits.read notRole read
  | @item p q t t' stop before after isItem edit ih =>
    cases p with
    | keys =>
      cases isItem
      exact readSequence_item (fun _ read => ih read) read
    | types =>
      cases isItem
      exact readSequence_item (fun _ read => ih read) read
    | ignored =>
      cases isItem
      have keeps (skipped : t.skip = .ok ()) : t'.skip = .ok () :=
        lift_eq_ok_iff.mp (ih (lift_eq_ok_iff.mpr skipped))
      exact lift_eq_ok_iff.mpr (skip_item keeps (lift_eq_ok_iff.mp read))
    | schema | key | role | type | text => cases isItem
  | noRole before after isHash =>
    have front := (fits_of_perm (p := .key) List.perm_middle).read (by decide) read
    exact readKey_noRole isHash front
  | noRoleItem isHash => exact readKey_noRoleItem isHash read
  | noTypes before after =>
    have front := (fits_of_perm (p := .schema) List.perm_middle).read (by decide) read
    exact read_noTypes front

/-- Many changes leave what is read as it is. -/
theorem read_edits {schema : TableSchema} (edits : Relation.ReflTransGen (Edit .schema) t t')
    (read : Schema.read t = .ok schema) : Schema.read t' = .ok schema := by
  induction edits with
  | refl => exact read
  | tail _ edit ih => exact edit.read (p := .schema) ih

/-- A field that is read has the only value that stands there under its name. -/
theorem Field.read_of_mem {α : Type} {read : Tree → Result α} {a : α}
    (field : Field read name ms (some a)) (mem : (some name, t) ∈ ms) : read t = .ok a := by
  obtain ⟨t', only, result⟩ := field
  have standsThere : t ∈ valuesOf name ms :=
    List.mem_map.mpr ⟨(some name, t), List.mem_filter.mpr ⟨mem, by simp⟩, rfl⟩
  rw [only, List.mem_singleton] at standsThere
  rwa [standsThere]

end TableSeed.Schema

namespace TableSeed

open Json (Tree)
open Schema (Edit readKey readAttribute readAll readSequence)

namespace TableSchema

variable {text text' : String} {schema schema' : TableSchema}

/-- A text is parsed as the schema that its tree reads as, if nothing comes after it. -/
theorem parse_eq_ok_iff : parse text = .ok schema ↔
    Schema.read (Tree.ofText text).1 = .ok schema ∧ (Tree.ofText text).2 = false := by
  obtain ⟨⟨tree, excess⟩, built⟩ : ∃ built, Tree.ofText text = built := ⟨_, rfl⟩
  rw [parse, built]
  cases read : Schema.read tree <;> cases excess <;>
    simp [read, bind, Except.bind, pure, Except.pure, throw, throwThe, MonadExceptOf.throw]

/-! ## The text of a schema -/

/-- Values are read from the array of their trees if each of them is. -/
theorem readSequence_tree {α : Type} {read : Tree → Schema.Result α} {toJson : α → Json.Value}
    (reads : ∀ a, read (toJson a).tree = .ok a) (values : List α) :
    readSequence read (Json.Value.array (values.map toJson)).tree = .ok values := by
  have items : readAll read (Json.Value.itemTrees (values.map toJson)) = .ok values := by
    induction values with
    | nil => rfl
    | cons a values ih =>
      exact Schema.bind_eq_ok_iff.mpr ⟨a, reads a, Schema.bind_eq_ok_iff.mpr ⟨values, ih, rfl⟩⟩
  exact Schema.bind_eq_ok_iff.mpr ⟨values, items, rfl⟩

/-- A key element is read from its tree. -/
theorem readKey_tree (k : KeyElement) : readKey (keyToJson k).tree = .ok k := by
  obtain ⟨name, role⟩ := k
  cases role <;> rfl

/-- An attribute definition is read from its tree. -/
theorem readAttribute_tree (d : AttributeDefinition) :
    readAttribute (attributeToJson d).tree = .ok d := rfl

/-- A schema is read from its tree, in which an empty list of attribute types is not written. -/
theorem read_tree (schema : TableSchema) : Schema.read schema.toJson.tree = .ok schema := by
  obtain ⟨table, keys, attributes⟩ := schema
  have keysRead := readSequence_tree readKey_tree keys
  have typesRead := readSequence_tree readAttribute_tree attributes
  have tablePasses {t : Tree} : Schema.Passes .schema (some "TableName", t) :=
    Schema.passes_of_field rfl (by decide)
  have keysPass {t : Tree} : Schema.Passes .schema (some "KeySchema", t) :=
    Schema.passes_of_field rfl (by decide)
  have typesPass {t : Tree} : Schema.Passes .schema (some "AttributeDefinitions", t) :=
    Schema.passes_of_field rfl (by decide)
  cases attributes with
  | nil =>
    apply Schema.read_object_ok_iff.mpr
    refine ⟨rfl, ?_, ⟨_, rfl, rfl⟩, ⟨_, rfl, keysRead⟩, none, rfl, rfl⟩
    simp [Json.Value.memberTrees, tablePasses, keysPass]
  | cons d attributes =>
    apply Schema.read_object_ok_iff.mpr
    refine ⟨rfl, ?_, ⟨_, rfl, rfl⟩, ⟨_, rfl, keysRead⟩, some (d :: attributes), ⟨_, rfl, typesRead⟩, rfl⟩
    simp [Json.Value.memberTrees, tablePasses, keysPass, typesPass]

/-- A schema is read back from its text. -/
theorem parse_render (schema : TableSchema) : parse schema.render = .ok schema := by
  rw [parse_eq_ok_iff, render, Tree.ofText_render]
  exact ⟨read_tree schema, rfl⟩

/-! ## Other texts of a schema -/

/-- The second text is the first one after changes that do not matter. -/
def Edited (text text' : String) : Prop :=
  Relation.ReflTransGen (Edit .schema) (Tree.ofText text).1 (Tree.ofText text').1 ∧
    (Tree.ofText text').2 = (Tree.ofText text).2

/-- A text after changes that do not matter is parsed as the same schema. -/
theorem parse_edited (edited : Edited text text') (accepted : parse text = .ok schema) :
    parse text' = .ok schema := by
  obtain ⟨read, whole⟩ := parse_eq_ok_iff.mp accepted
  exact parse_eq_ok_iff.mpr ⟨Schema.read_edits edited.1 read, edited.2.trans whole⟩

/-- The texts give their keys in the same way. -/
def SameKeys (text text' : String) : Prop :=
  ∃ ms ms' stop stop' keys, (Tree.ofText text).1 = .object ms stop ∧
    (Tree.ofText text').1 = .object ms' stop' ∧ (some "KeySchema", keys) ∈ ms ∧
    (some "KeySchema", keys) ∈ ms'

/-- The key attributes are those of the list of keys, whatever else stands in the text. -/
theorem keys_of_sameKeys (same : SameKeys text text') (accepted : parse text = .ok schema)
    (accepted' : parse text' = .ok schema') : schema.keys = schema'.keys := by
  obtain ⟨ms, ms', stop, stop', keys, built, built', mem, mem'⟩ := same
  obtain ⟨read, -⟩ := parse_eq_ok_iff.mp accepted
  obtain ⟨read', -⟩ := parse_eq_ok_iff.mp accepted'
  rw [built, Schema.read_object_ok_iff] at read
  rw [built', Schema.read_object_ok_iff] at read'
  obtain ⟨-, -, -, field, -⟩ := read
  obtain ⟨-, -, -, field', -⟩ := read'
  exact Except.ok.inj ((field.read_of_mem mem).symm.trans (field'.read_of_mem mem'))

/-- The name of the table does not matter to splitting off the key attributes. -/
theorem takeKeys_eq_ok {table table' : String} {names : List String} {key record : Json.Members}
    {item : Item} (taken : Item.takeKeys table key record names = .ok item) :
    Item.takeKeys table' key record names = .ok item := by
  induction names generalizing key record with
  | nil => exact taken
  | cons attr names ih =>
    unfold Item.takeKeys at taken ⊢
    cases found : Json.Members.get? attr record with
    | none =>
      rw [found] at taken
      cases taken
    | some v =>
      rw [found] at taken
      exact ih taken

/-- What is stored, and under which key, depends on the names of the key attributes only. -/
theorem ofRecord_eq_ok {record : Json.Members} {item : Item}
    (same : schema.keyAttributes = schema'.keyAttributes)
    (taken : Item.ofRecord schema record = .ok item) : Item.ofRecord schema' record = .ok item := by
  unfold Item.ofRecord at taken ⊢
  rw [← same]
  exact takeKeys_eq_ok taken

/-- A schema is read back from its text and from that text after changes that do not matter, and its
keys depend on the list of keys only. -/
theorem schema_texts :
    (∀ schema, parse (render schema) = .ok schema) ∧
    (∀ text text' schema, parse text = .ok schema → Edited text text' → parse text' = .ok schema) ∧
    ∀ text text' schema schema', parse text = .ok schema → parse text' = .ok schema' →
      SameKeys text text' → schema.keyAttributes = schema'.keyAttributes ∧
        ∀ record item, Item.ofRecord schema record = .ok item ↔ Item.ofRecord schema' record = .ok item := by
  refine ⟨parse_render, ?_, ?_⟩
  · intro text text' schema accepted edited
    exact parse_edited edited accepted
  · intro text text' schema schema' accepted accepted' same
    have names : schema.keyAttributes = schema'.keyAttributes :=
      congrArg (List.map KeyElement.name) (keys_of_sameKeys same accepted accepted')
    refine ⟨names, fun record item => ⟨?_, ?_⟩⟩
    · exact ofRecord_eq_ok names
    · exact ofRecord_eq_ok names.symm

/-- The keys come first, the default role and the empty list are left out, and a member joins. -/
theorem schema_texts_shortened :
    parse (Json.Value.object [("KeySchema", .array [.object [("AttributeName", .string "id")]]),
      ("Note", .array []), ("TableName", .string "t")]).render = .ok ⟨"t", [⟨"id", .hash⟩], []⟩ := by
  have accepted : parse (Json.Value.object [("TableName", .string "t"), ("KeySchema", .array [.object
      [("AttributeName", .string "id"), ("KeyType", .string "HASH")]]),
      ("AttributeDefinitions", .array [])]).render = .ok ⟨"t", [⟨"id", .hash⟩], []⟩ := by
    rw [parse, Tree.ofText_render]
    rfl
  refine schema_texts.2.1 _ _ _ accepted ?_
  unfold Edited
  rw [Tree.ofText_render, Tree.ofText_render]
  refine ⟨?_, rfl⟩
  apply Relation.ReflTransGen.head (.noTypes [_, _] [])
  apply Relation.ReflTransGen.head (.reorder (List.Perm.swap _ _ _))
  apply Relation.ReflTransGen.head (.member [] [_] rfl (.item [] [] rfl (.noRole [_] [] rfl)))
  exact Relation.ReflTransGen.single (.add [_] [_] rfl rfl)

/-! ## Roles as objects -/

/-- A member joins an object somewhere in a tree. -/
inductive Joins (m : Schema.Member) : Tree → Tree → Prop where
  | here {stop : Option Json.Stop} (before after : List Schema.Member) :
    Joins m (.object (before ++ after) stop) (.object (before ++ m :: after) stop)
  | member {label : Option String} {t t' : Tree} {stop : Option Json.Stop}
    (before after : List Schema.Member) : Joins m t t' →
    Joins m (.object (before ++ (label, t) :: after) stop)
      (.object (before ++ (label, t') :: after) stop)
  | item {t t' : Tree} {stop : Option Json.Stop} (before after : List Tree) : Joins m t t' →
    Joins m (.array (before ++ t :: after) stop) (.array (before ++ t' :: after) stop)

/-- The text of a schema with one key whose role is written as an object. -/
def roleText (role : Json.Members) : String :=
  (Json.Value.object [("TableName", .string "t"), ("KeySchema", .array [.object
    [("AttributeName", .string "id"), ("KeyType", .object role)]])]).render

/-- No member may join a role that is written as an object. -/
theorem role_object_is_closed :
    parse (roleText [("HASH", .null)]) = .ok ⟨"t", [⟨"id", .hash⟩], []⟩ ∧
    Joins (some "note", .null) (Tree.ofText (roleText [("HASH", .null)])).1
      (Tree.ofText (roleText [("HASH", .null), ("note", .null)])).1 ∧
    parse (roleText [("HASH", .null), ("note", .null)]) = .error (.text .malformed) := by
  unfold roleText parse
  rw [Tree.ofText_render, Tree.ofText_render]
  refine ⟨rfl, ?_, rfl⟩
  exact .member [_] [] (.item [] [] (.member [_] [] (.here [_] [])))

end TableSchema

end TableSeed
