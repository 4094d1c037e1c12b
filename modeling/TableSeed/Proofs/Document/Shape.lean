import TableSeed.Document.Basic
import TableSeed.Proofs.Document.Templates
import TableSeed.Proofs.Traversal

/-!
# What is read as a document

A document is an object of groups, each an object with a schema and entries, beside the modules that
it declares. Reading goes through the members in order and stops at the first that has another shape,
and looks for the schema of a group before it goes through the entries. What was read has the members
of the value in their order, with all that stood in them.
-/

namespace TableSeed

open Json (Value Members)

/-- The member that declares a module. -/
def Dependency.member (d : Dependency) : String × Value := (d.name, .string d.moduleName)

/-- The member that is an entry. -/
def Entry.member (entry : Entry) : String × Value := (entry.key, .object entry.record.raw)

variable {members declared own : Members} {name : String} {v : Value} {e : DocumentError}
  {document : Document} {group : Group} {entries : List Entry} {dependencies : List Dependency}
  {m : String × Value}

namespace Document

/-- Reads a declaration of a module. -/
def readDependency : String × Value → Except DocumentError Dependency
  | (name, .string moduleName) => .ok ⟨name, moduleName⟩
  | (name, _) => .error (.moduleNotText name)

/-- Reads what is declared. -/
def readModules : Value → Except DocumentError (List Dependency)
  | .object declared => readDependencies declared
  | _ => .error .dependenciesNotAnObject

/-- Reads an entry. -/
def readEntry (group : String) : String × Value → Except DocumentError Entry
  | (key, .object fields) => .ok ⟨key, RecordTemplate.ofMembers fields⟩
  | (key, _) => .error (.entryNotAnObject group key)

/-- Modules are read member by member. -/
theorem readDependencies_eq (declared : Members) :
    readDependencies declared = declared.mapM readDependency := by
  induction declared with
  | nil => rfl
  | cons m rest ih =>
    obtain ⟨name, v⟩ := m
    rw [List.mapM_cons, ← ih]
    cases v <;> rfl

/-- Entries are read member by member, without the member for the schema. -/
theorem readEntries_eq (group : String) (own : Members) :
    readEntries group own = (own.filter fun m => m.1 ≠ schemaName).mapM (readEntry group) := by
  induction own with
  | nil => rfl
  | cons m rest ih =>
    obtain ⟨key, v⟩ := m
    unfold readEntries
    split_ifs with isSchema
    · rw [List.filter_cons_of_neg (by simp [isSchema]), ih]
    · rw [List.filter_cons_of_pos (by simp [isSchema]), List.mapM_cons, ← ih]
      cases v <;> rfl

/-- A member reads as a module if it is the member of that module. -/
theorem readDependency_ok_iff {d : Dependency} : readDependency m = .ok d ↔ m = d.member := by
  obtain ⟨name, v⟩ := m
  obtain ⟨name', moduleName⟩ := d
  cases v <;> simp [readDependency, Dependency.member]

/-- A member reads as a module if its value is a text. -/
theorem exists_readDependency_iff :
    (∃ d, readDependency m = .ok d) ↔ ∃ moduleName, m.2 = .string moduleName := by
  obtain ⟨name, v⟩ := m
  cases v <;> simp [readDependency]

/-- A member that reads as no module is told by its name. -/
theorem readDependency_error_iff :
    readDependency m = .error e ↔ (∀ moduleName, m.2 ≠ .string moduleName) ∧ e = .moduleNotText m.1 := by
  obtain ⟨name, v⟩ := m
  cases v <;> simp [readDependency, eq_comm]

/-- A member that reads as an entry is the member of that entry. -/
theorem readEntry_ok {entry : Entry} (ok : readEntry name m = .ok entry) : m = entry.member := by
  obtain ⟨key, v⟩ := m
  cases v with
  | object fields =>
    obtain rfl := Except.ok.inj ok
    rw [Entry.member, RecordTemplate.raw_ofMembers]
  | _ => cases ok

/-- A member reads as an entry if its value is an object. -/
theorem exists_readEntry_iff :
    (∃ entry, readEntry name m = .ok entry) ↔ ∃ fields, m.2 = .object fields := by
  obtain ⟨key, v⟩ := m
  cases v <;> simp [readEntry]

/-- A member that reads as no entry is told by its name and that of the group. -/
theorem readEntry_error_iff : readEntry name m = .error e ↔
    (∀ fields, m.2 ≠ .object fields) ∧ e = .entryNotAnObject name m.1 := by
  obtain ⟨key, v⟩ := m
  cases v <;> simp [readEntry, eq_comm]

/-- The value declares modules: it is an object of texts. -/
def DeclaresModules (v : Value) : Prop :=
  ∃ declared, v = .object declared ∧ ∀ m ∈ declared, ∃ moduleName, m.2 = .string moduleName

/-- The value describes a group: it is an object with a text for the schema and else only objects. -/
def DescribesGroup (v : Value) : Prop :=
  ∃ own, v = .object own ∧ (∃ schema, Members.get? schemaName own = some (.string schema)) ∧
    ∀ m ∈ own, m.1 ≠ schemaName → ∃ fields, m.2 = .object fields

/-- The member may stand in a document. -/
def Fits (m : String × Value) : Prop :=
  if m.1 = dependenciesName then DeclaresModules m.2 else DescribesGroup m.2

/-- The value describes a document. -/
def DescribesDocument (v : Value) : Prop := ∃ members, v = .object members ∧ ∀ m ∈ members, Fits m

/-- What is wrong with a value that should declare modules. -/
inductive ModulesFault : Value → DocumentError → Prop where
  | notAnObject {v : Value} (other : ∀ declared, v ≠ .object declared) :
    ModulesFault v .dependenciesNotAnObject
  /-- The first member that is no text. -/
  | moduleNotText {before after : Members} {name : String} {v : Value}
    (texts : ∀ m ∈ before, ∃ moduleName, m.2 = .string moduleName)
    (other : ∀ moduleName, v ≠ .string moduleName) :
    ModulesFault (.object (before ++ (name, v) :: after)) (.moduleNotText name)

/-- What is wrong with a value that should describe a group. -/
inductive GroupFault (group : String) : Value → DocumentError → Prop where
  | notAnObject {v : Value} (other : ∀ own, v ≠ .object own) :
    GroupFault group v (.groupNotAnObject group)
  | missingSchema {own : Members}
    (missing : ∀ schema, Members.get? schemaName own ≠ some (.string schema)) :
    GroupFault group (.object own) (.missingSchema group)
  /-- The first entry that is no object, in a group that has a schema. -/
  | entryNotAnObject {before after : Members} {key schema : String} {v : Value}
    (found : Members.get? schemaName (before ++ (key, v) :: after) = some (.string schema))
    (objects : ∀ m ∈ before, m.1 ≠ schemaName → ∃ fields, m.2 = .object fields)
    (isEntry : key ≠ schemaName) (other : ∀ fields, v ≠ .object fields) :
    GroupFault group (.object (before ++ (key, v) :: after)) (.entryNotAnObject group key)

/-- What is wrong with a member of a document. -/
def MemberFault (m : String × Value) (e : DocumentError) : Prop :=
  if m.1 = dependenciesName then ModulesFault m.2 e else GroupFault m.1 m.2 e

/-- What is wrong with a value that should describe a document: the fault of the first member that
has one. -/
inductive DocumentFault : Value → DocumentError → Prop where
  | notAnObject {v : Value} (other : ∀ members, v ≠ .object members) : DocumentFault v .notAnObject
  | member {before after : Members} {m : String × Value} {e : DocumentError}
    (fine : ∀ n ∈ before, Fits n) (fault : MemberFault m e) :
    DocumentFault (.object (before ++ m :: after)) e

/-- The values that read as modules are those that declare modules. -/
theorem exists_readModules_iff :
    (∃ dependencies, readModules v = .ok dependencies) ↔ DeclaresModules v := by
  have each (declared : Members) : (∃ dependencies, readDependencies declared = .ok dependencies) ↔
      ∀ m ∈ declared, ∃ moduleName, m.2 = .string moduleName := by
    rw [readDependencies_eq, exists_mapM_eq_ok_iff]
    exact forall₂_congr fun m _ => exists_readDependency_iff
  constructor
  · rintro ⟨dependencies, ok⟩
    cases v with
    | object declared => exact ⟨declared, rfl, (each declared).mp ⟨dependencies, ok⟩⟩
    | _ => cases ok
  · rintro ⟨declared, rfl, texts⟩
    exact (each declared).mpr texts

/-- The modules are those of the members, in order. -/
theorem value_of_readModules (ok : readModules v = .ok dependencies) :
    v = .object (dependencies.map Dependency.member) := by
  cases v with
  | object declared =>
    rw [readModules, readDependencies_eq, mapM_eq_ok_iff] at ok
    rw [Value.object.injEq, ← List.forall₂_eq_eq_eq, List.forall₂_map_right_iff]
    exact ok.imp fun _ _ => readDependency_ok_iff.mp
  | _ => cases ok

/-- The error for modules is that of their first fault. -/
theorem readModules_error_iff : readModules v = .error e ↔ ModulesFault v e := by
  constructor
  · intro failed
    cases v with
    | object declared =>
      rw [readModules, readDependencies_eq, mapM_eq_error_iff] at failed
      obtain ⟨before, ⟨name, v⟩, after, rfl, fine, failed⟩ := failed
      obtain ⟨other, rfl⟩ := readDependency_error_iff.mp failed
      exact .moduleNotText (fun m mem => exists_readDependency_iff.mp (fine m mem)) other
    | _ =>
      obtain rfl := Except.error.inj failed
      exact .notAnObject (by simp)
  · intro fault
    cases fault with
    | notAnObject other =>
      cases v with
      | object declared => exact absurd rfl (other declared)
      | _ => rfl
    | @moduleNotText before after name v texts other =>
      rw [readModules, readDependencies_eq, mapM_eq_error_iff]
      refine ⟨before, (name, v), after, rfl, fun m mem => ?_, ?_⟩
      · exact exists_readDependency_iff.mpr (texts m mem)
      · exact readDependency_error_iff.mpr ⟨other, rfl⟩

/-- The entries are the members but for the schema, in order. -/
theorem members_of_readEntries (ok : readEntries name own = .ok entries) :
    entries.map Entry.member = own.filter fun m => m.1 ≠ schemaName := by
  rw [readEntries_eq, mapM_eq_ok_iff] at ok
  rw [eq_comm, ← List.forall₂_eq_eq_eq, List.forall₂_map_right_iff]
  exact ok.imp fun _ _ => readEntry_ok

/-- Entries are read if each member but the one for the schema has an object. -/
theorem exists_readEntries_iff : (∃ entries, readEntries name own = .ok entries) ↔
    ∀ m ∈ own, m.1 ≠ schemaName → ∃ fields, m.2 = .object fields := by
  rw [readEntries_eq, exists_mapM_eq_ok_iff]
  simp only [exists_readEntry_iff, List.mem_filter, decide_eq_true_eq, and_imp]

/-- Entries are not read because of the first that is no object. -/
theorem readEntries_error_iff : readEntries name own = .error e ↔
    ∃ before key v after, own = before ++ (key, v) :: after ∧
      (∀ m ∈ before, m.1 ≠ schemaName → ∃ fields, m.2 = .object fields) ∧ key ≠ schemaName ∧
      (∀ fields, v ≠ .object fields) ∧ e = .entryNotAnObject name key := by
  rw [readEntries_eq, mapM_eq_error_iff]
  constructor
  · rintro ⟨shown, ⟨key, v⟩, others, split, fine, failed⟩
    obtain ⟨before, tail, rfl, rfl, shown⟩ := List.filter_eq_append_iff.mp split
    obtain ⟨skipped, after, rfl, schemas, isEntry, -⟩ := List.filter_eq_cons_iff.mp shown
    obtain ⟨other, rfl⟩ := readEntry_error_iff.mp failed
    refine ⟨before ++ skipped, key, v, after, (List.append_assoc ..).symm, ?_, ?_, other, rfl⟩
    · refine List.forall_mem_append.mpr ⟨fun m mem entry => ?_, fun m mem entry => ?_⟩
      · exact exists_readEntry_iff.mp (fine m (List.mem_filter.mpr ⟨mem, decide_eq_true entry⟩))
      · exact absurd (decide_eq_true entry) (schemas m mem)
    · exact of_decide_eq_true isEntry
  · rintro ⟨before, key, v, after, rfl, objects, isEntry, other, rfl⟩
    refine ⟨before.filter fun m => m.1 ≠ schemaName, (key, v),
      after.filter fun m => m.1 ≠ schemaName, ?_, fun m mem => ?_, ?_⟩
    · rw [List.filter_append, List.filter_cons_of_pos (by simpa using isEntry)]
    · obtain ⟨mem, entry⟩ := List.mem_filter.mp mem
      exact exists_readEntry_iff.mpr (objects m mem (of_decide_eq_true entry))
    · exact readEntry_error_iff.mpr ⟨other, rfl⟩

/-- A group is read as its entries are, once its schema is found. -/
theorem readGroup_of_schema {schema : String}
    (found : Members.get? schemaName own = some (.string schema)) :
    readGroup name (.object own) = (readEntries name own).map fun entries => ⟨name, schema, entries⟩ := by
  rw [readGroup, found]
  cases readEntries name own <;> rfl

/-- A group without a schema is not read, whatever its entries are. -/
theorem readGroup_of_missing
    (missing : ∀ schema, Members.get? schemaName own ≠ some (.string schema)) :
    readGroup name (.object own) = .error (.missingSchema name) := by
  rw [readGroup]
  split
  · rename_i schema found
    exact absurd found (missing schema)
  · rfl

/-- A group has to be an object. -/
theorem readGroup_of_not_object (other : ∀ own, v ≠ .object own) :
    readGroup name v = .error (.groupNotAnObject name) := by
  cases v with
  | object own => exact absurd rfl (other own)
  | _ => rfl

/-- A value has a schema, or is an object that has none, or is no object. -/
theorem group_cases (v : Value) :
    (∃ own schema, v = .object own ∧ Members.get? schemaName own = some (.string schema)) ∨
      (∃ own, v = .object own ∧ ∀ schema, Members.get? schemaName own ≠ some (.string schema)) ∨
      ∀ own, v ≠ .object own := by
  by_cases object : ∃ own, v = .object own
  · obtain ⟨own, rfl⟩ := object
    by_cases found : ∃ schema, Members.get? schemaName own = some (.string schema)
    · obtain ⟨schema, found⟩ := found
      exact .inl ⟨own, schema, rfl, found⟩
    · exact .inr (.inl ⟨own, rfl, not_exists.mp found⟩)
  · exact .inr (.inr (not_exists.mp object))

/-- The values that read as groups are those that describe groups. -/
theorem exists_readGroup_iff : (∃ group, readGroup name v = .ok group) ↔ DescribesGroup v := by
  constructor
  · rintro ⟨group, ok⟩
    obtain ⟨own, schema, rfl, found⟩ | ⟨own, rfl, missing⟩ | other := group_cases v
    · rw [readGroup_of_schema found, map_eq_ok_iff] at ok
      obtain ⟨entries, read, -⟩ := ok
      exact ⟨own, rfl, ⟨schema, found⟩, exists_readEntries_iff.mp ⟨entries, read⟩⟩
    · rw [readGroup_of_missing missing] at ok
      cases ok
    · rw [readGroup_of_not_object other] at ok
      cases ok
  · rintro ⟨own, rfl, ⟨schema, found⟩, objects⟩
    obtain ⟨entries, read⟩ := exists_readEntries_iff.mpr objects
    refine ⟨⟨name, schema, entries⟩, ?_⟩
    rw [readGroup_of_schema found, read]
    rfl

/-- The error for a group is that of its first fault. -/
theorem readGroup_error_iff : readGroup name v = .error e ↔ GroupFault name v e := by
  constructor
  · intro failed
    obtain ⟨own, schema, rfl, found⟩ | ⟨own, rfl, missing⟩ | other := group_cases v
    · rw [readGroup_of_schema found, map_eq_error_iff] at failed
      obtain ⟨before, key, v, after, rfl, objects, isEntry, other, rfl⟩ :=
        readEntries_error_iff.mp failed
      exact .entryNotAnObject found objects isEntry other
    · rw [readGroup_of_missing missing] at failed
      obtain rfl := Except.error.inj failed
      exact .missingSchema missing
    · rw [readGroup_of_not_object other] at failed
      obtain rfl := Except.error.inj failed
      exact .notAnObject other
  · intro fault
    cases fault with
    | notAnObject other => exact readGroup_of_not_object other
    | missingSchema missing => exact readGroup_of_missing missing
    | entryNotAnObject found objects isEntry other =>
      rw [readGroup_of_schema found, map_eq_error_iff, readEntries_error_iff]
      exact ⟨_, _, _, _, rfl, objects, isEntry, other, rfl⟩

end Document

/-- A group with what was read of it. -/
structure Group.ReadFrom (group : Group) (own : Members) : Prop where
  schema : Members.get? Document.schemaName own = some (.string group.schema)
  /-- One entry for every other member, in order, with its name and its fields. -/
  entries : group.entries.map Entry.member = own.filter fun m => m.1 ≠ Document.schemaName

/-- A document with what was read of it. -/
structure Document.ReadFrom (document : Document) (members : Members) : Prop where
  /-- The modules in the order of their declaration. -/
  dependencies : ∀ v, Members.get? dependenciesName members = some v →
    v = .object (document.dependencies.map Dependency.member)
  no_dependencies : Members.get? dependenciesName members = none → document.dependencies = []
  /-- One group for every other member, in order and with its name. -/
  groups : List.Forall₂
    (fun m group => m.1 = group.name ∧ ∃ own, m.2 = .object own ∧ group.ReadFrom own)
    (members.filter fun m => m.1 ≠ dependenciesName) document.groups

namespace Document

/-- What a member of a document gives. -/
inductive Part where
  | dependencies (declared : List Dependency)
  | group (group : Group)

/-- Reads a member of a document. -/
def readPart (m : String × Value) : Except DocumentError Part :=
  if m.1 = dependenciesName then (readModules m.2).map .dependencies
  else (readGroup m.1 m.2).map .group

/-- The document with what one more member gives. -/
def add (document : Document) : Part → Document
  | .dependencies declared => { document with dependencies := declared }
  | .group group => { document with groups := document.groups ++ [group] }

/-- A document is read member by member, and the parts are added up in order. -/
theorem readMembers_eq (document : Document) (members : Members) :
    readMembers document members = (members.mapM readPart).map (·.foldl add document) := by
  induction members generalizing document with
  | nil => rfl
  | cons m rest ih =>
    obtain ⟨name, v⟩ := m
    rw [List.mapM_cons, readPart]
    unfold readMembers
    split_ifs with isDependencies
    · cases v with
      | object declared =>
        simp only [ih, readModules]
        cases readDependencies declared <;> cases rest.mapM readPart <;> rfl
      | _ => rfl
    · simp only [ih]
      cases readGroup name v <;> cases rest.mapM readPart <;> rfl

/-- The members that are read are those that may stand in a document. -/
theorem exists_readPart_iff : (∃ part, readPart m = .ok part) ↔ Fits m := by
  unfold readPart Fits
  split_ifs with isDependencies
  · rw [← exists_readModules_iff]
    cases readModules m.2 <;> simp [Except.map]
  · rw [← exists_readGroup_iff]
    cases readGroup m.1 m.2 <;> simp [Except.map]

/-- The error for a member is that of its fault. -/
theorem readPart_error_iff : readPart m = .error e ↔ MemberFault m e := by
  unfold readPart MemberFault
  split_ifs with isDependencies
  · rw [map_eq_error_iff, readModules_error_iff]
  · rw [map_eq_error_iff, readGroup_error_iff]

/-- A value is a document exactly if it describes one. -/
theorem exists_ofJson_iff : (∃ document, ofJson v = .ok document) ↔ DescribesDocument v := by
  have each (members : Members) : (∃ document, readMembers {} members = .ok document) ↔
      ∀ m ∈ members, Fits m := by
    have parts : (∃ parts, members.mapM readPart = .ok parts) ↔ ∀ m ∈ members, Fits m := by
      rw [exists_mapM_eq_ok_iff]
      exact forall₂_congr fun m _ => exists_readPart_iff
    rw [readMembers_eq, ← parts]
    cases members.mapM readPart <;> simp [Except.map]
  constructor
  · rintro ⟨document, ok⟩
    cases v with
    | object members => exact ⟨members, rfl, (each members).mp ⟨document, ok⟩⟩
    | _ => cases ok
  · rintro ⟨members, rfl, fits⟩
    exact (each members).mpr fits

/-- A value is no document because of the first member that is wrong. -/
theorem ofJson_error_iff : ofJson v = .error e ↔ DocumentFault v e := by
  constructor
  · intro failed
    cases v with
    | object members =>
      rw [ofJson, readMembers_eq, map_eq_error_iff, mapM_eq_error_iff] at failed
      obtain ⟨before, m, after, rfl, fine, failed⟩ := failed
      exact .member (fun n mem => exists_readPart_iff.mp (fine n mem)) (readPart_error_iff.mp failed)
    | _ =>
      obtain rfl := Except.error.inj failed
      exact .notAnObject (by simp)
  · intro fault
    cases fault with
    | notAnObject other =>
      cases v with
      | object members => exact absurd rfl (other members)
      | _ => rfl
    | member fine fault =>
      rw [ofJson, readMembers_eq, map_eq_error_iff, mapM_eq_error_iff]
      exact ⟨_, _, _, rfl, fun n mem => exists_readPart_iff.mpr (fine n mem),
        readPart_error_iff.mpr fault⟩

/-- A group that was read has the schema and the entries of the value. -/
theorem readFrom_of_readGroup (ok : readGroup name v = .ok group) :
    name = group.name ∧ ∃ own, v = .object own ∧ group.ReadFrom own := by
  obtain ⟨own, schema, rfl, found⟩ | ⟨own, rfl, missing⟩ | other := group_cases v
  · rw [readGroup_of_schema found, map_eq_ok_iff] at ok
    obtain ⟨entries, read, rfl⟩ := ok
    exact ⟨rfl, own, rfl, found, members_of_readEntries read⟩
  · rw [readGroup_of_missing missing] at ok
    cases ok
  · rw [readGroup_of_not_object other] at ok
    cases ok

/-- Only a member under the name of the dependencies declares any. -/
theorem readPart_dependencies (ok : readPart m = .ok (.dependencies dependencies)) :
    m.1 = dependenciesName ∧ m.2 = .object (dependencies.map Dependency.member) := by
  unfold readPart at ok
  split_ifs at ok with isDependencies
  · obtain ⟨declared, read, same⟩ := map_eq_ok_iff.mp ok
    cases same
    exact ⟨isDependencies, value_of_readModules read⟩
  · obtain ⟨group, read, same⟩ := map_eq_ok_iff.mp ok
    cases same

/-- Every other member is a group. -/
theorem readPart_group (ok : readPart m = .ok (.group group)) :
    m.1 ≠ dependenciesName ∧ m.1 = group.name ∧ ∃ own, m.2 = .object own ∧ group.ReadFrom own := by
  unfold readPart at ok
  split_ifs at ok with isDependencies
  · obtain ⟨declared, read, same⟩ := map_eq_ok_iff.mp ok
    cases same
  · obtain ⟨group, read, same⟩ := map_eq_ok_iff.mp ok
    cases same
    exact ⟨isDependencies, readFrom_of_readGroup read⟩

variable {parts : List Part}

/-- The groups come in the order of the members. -/
theorem groups_of_parts (read : List.Forall₂ (fun m part => readPart m = .ok part) members parts)
    (document : Document) : ∃ groups, (parts.foldl add document).groups = document.groups ++ groups ∧
      List.Forall₂
        (fun m group => m.1 = group.name ∧ ∃ own, m.2 = .object own ∧ group.ReadFrom own)
        (members.filter fun m => m.1 ≠ dependenciesName) groups := by
  induction read generalizing document with
  | nil => exact ⟨[], (List.append_nil _).symm, .nil⟩
  | @cons m part members parts first _ ih =>
    obtain ⟨groups, same, each⟩ := ih (document.add part)
    cases part with
    | dependencies declared =>
      refine ⟨groups, same, ?_⟩
      rwa [List.filter_cons_of_neg (by simpa using (readPart_dependencies first).1)]
    | group group =>
      obtain ⟨other, whole⟩ := readPart_group first
      refine ⟨group :: groups, ?_, ?_⟩
      · rw [List.foldl_cons, same, add, List.append_assoc, List.singleton_append]
      · rw [List.filter_cons_of_pos (by simpa using other)]
        exact .cons whole each

/-- Where no member declares modules, none are added. -/
theorem dependencies_of_parts_of_none
    (read : List.Forall₂ (fun m part => readPart m = .ok part) members parts)
    (none : dependenciesName ∉ Members.names members) (document : Document) :
    (parts.foldl add document).dependencies = document.dependencies := by
  induction read generalizing document with
  | nil => rfl
  | @cons m part members parts first _ ih =>
    obtain ⟨differs, later⟩ := not_or.mp (List.mem_cons.not.mp none)
    rw [List.foldl_cons, ih later]
    cases part with
    | dependencies declared => exact absurd (readPart_dependencies first).1.symm differs
    | group group => rfl

/-- The modules are those of the one member that declares any. -/
theorem dependencies_of_parts
    (read : List.Forall₂ (fun m part => readPart m = .ok part) members parts)
    (distinct : Members.Distinct members)
    (found : Members.get? dependenciesName members = some v) (document : Document) :
    v = .object ((parts.foldl add document).dependencies.map Dependency.member) := by
  induction read generalizing document with
  | nil => cases found
  | @cons m part members parts first others ih =>
    obtain ⟨new, distinct⟩ := List.nodup_cons.mp distinct
    rw [Members.get?] at found
    split_ifs at found with here
    · obtain rfl := Option.some.inj found
      rw [here] at new
      rw [List.foldl_cons, dependencies_of_parts_of_none others new]
      cases part with
      | dependencies declared => exact (readPart_dependencies first).2
      | group group => exact absurd here (readPart_group first).1
    · exact ih distinct found _

/-- A document that was read has the members of the value. -/
theorem readFrom_of_ofJson (distinct : Members.Distinct members)
    (ok : ofJson (.object members) = .ok document) : document.ReadFrom members := by
  rw [ofJson, readMembers_eq, map_eq_ok_iff] at ok
  obtain ⟨parts, read, rfl⟩ := ok
  rw [mapM_eq_ok_iff] at read
  constructor
  case dependencies => exact fun v found => dependencies_of_parts read distinct found {}
  case no_dependencies =>
    exact fun none => dependencies_of_parts_of_none read (Members.get?_eq_none_iff.mp none) {}
  case groups =>
    obtain ⟨groups, same, each⟩ := groups_of_parts read {}
    rw [same]
    exact each

end Document

/-- The member of a group with its schema, then its entries. -/
def Group.member (group : Group) : String × Value :=
  (group.name, .object ((Document.schemaName, .string group.schema) :: group.entries.map Entry.member))

/-- The members of a document: its modules, if it declares any, then its groups. -/
def Document.restored (document : Document) (declares : Bool) : Members :=
  (if declares then [(dependenciesName, .object (document.dependencies.map Dependency.member))]
    else []) ++ document.groups.map Group.member

/-- The member that is found and the others. -/
theorem perm_filter_of_get? (distinct : Members.Distinct members)
    (found : Members.get? name members = some v) :
    ((name, v) :: members.filter fun m => m.1 ≠ name).Perm members := by
  rw [← distinct.erase_eq]
  exact (Members.perm_erase found).symm

/-- A group gives back the value that it was read from, up to the order of its members. -/
theorem Group.ReadFrom.rearranged (readFrom : group.ReadFrom own)
    (distinct : Members.Distinct own) : (Value.object own).Rearranged group.member.2 := by
  rw [Group.member, readFrom.entries]
  exact Value.rearranged_of_perm distinct (perm_filter_of_get? distinct readFrom.schema).symm

/-- A document gives back the value that it was read from, up to the order of members. -/
theorem Document.ReadFrom.rearranged (readFrom : document.ReadFrom members)
    (distinct : (Value.object members).Distinct) : (Value.object members).Rearranged
      (.object (document.restored (Members.get? dependenciesName members).isSome)) := by
  obtain ⟨names, values⟩ := distinct
  rw [Value.membersDistinct_iff] at values
  have groups : List.Forall₂ (fun m n => m.1 = n.1 ∧ m.2.Rearranged n.2)
      (members.filter fun m => m.1 ≠ dependenciesName) (document.groups.map Group.member) := by
    have each : ∀ m ∈ members.filter fun m => m.1 ≠ dependenciesName, m.2.Distinct :=
      fun m mem => values m (List.mem_of_mem_filter mem)
    rw [List.forall₂_map_right_iff]
    refine ((List.forall₂_and_left _ _).mpr ⟨each, readFrom.groups⟩).imp ?_
    rintro ⟨_, _⟩ group ⟨distinct, rfl, own, rfl, readFrom⟩
    exact ⟨rfl, readFrom.rearranged distinct.1⟩
  cases found : Members.get? dependenciesName members with
  | none =>
    have all : (members.filter fun m => m.1 ≠ dependenciesName) = members := by
      have none := Members.get?_eq_none_iff.mp found
      refine List.filter_eq_self.mpr fun m mem => decide_eq_true fun same => none ?_
      exact same ▸ List.mem_map_of_mem mem
    rw [all] at groups
    exact Value.rearranged_object_of_forall₂ groups
  | some v =>
    obtain rfl := readFrom.dependencies v found
    calc
      (Value.object members).sorted = (Value.object (_ :: members.filter _)).sorted :=
        Value.rearranged_of_perm names (perm_filter_of_get? names found).symm
      _ = (Value.object (document.restored true)).sorted :=
        Value.rearranged_object_of_forall₂ (.cons ⟨rfl, .refl _⟩ groups)

/-- What it is to read a document from a value. -/
structure Document.ReadsAll (v : Value) : Prop where
  /-- There is a document exactly if the value describes one. -/
  ok_iff : (∃ document, ofJson v = .ok document) ↔ DescribesDocument v
  /-- Else there is the fault of the first member that has one. -/
  error_iff : ∀ e, ofJson v = .error e ↔ DocumentFault v e
  /-- The document has all members in order, and they give the value back. -/
  content : ∀ document, ofJson v = .ok document → ∃ members, v = .object members ∧
    document.ReadFrom members ∧
    v.Rearranged (.object (document.restored (Members.get? dependenciesName members).isSome))

/-- A value in which no object has a name twice is read as the document that it describes, with all
that stands in it, or it is refused for its first fault. -/
theorem Document.reads_all (distinct : v.Distinct) : ReadsAll v where
  ok_iff := exists_ofJson_iff
  error_iff _ := ofJson_error_iff
  content document ok := by
    obtain ⟨members, rfl, -⟩ := exists_ofJson_iff.mp ⟨document, ok⟩
    have readFrom := readFrom_of_ofJson distinct.1 ok
    exact ⟨members, rfl, readFrom, readFrom.rearranged distinct⟩

/-- A document whose structural members stand between others. -/
theorem Document.reads_all_posts :
    let ann : Value := .object [("name", .string "Ann")]
    let post : Value := .object [("author", .string "->Users.ann.name"), ("likes", .string "=1 + 1")]
    let v : Value := .object
      [("Users", .object [("ann", ann), ("_schema", .string "users")]),
        ("_dependencies", .object [("lib", .string "lib"), ("names", .string "helpers/names")]),
        ("Posts", .object [("_schema", .string "posts"), ("p1", post), ("p2", post)])]
    (ofJson v).map (fun d => d.groups.map fun g => (g.name, g.schema, g.entries.map (·.key))) =
        .ok [("Users", "users", ["ann"]), ("Posts", "posts", ["p1", "p2"])] ∧
      ReadsAll v := by
  intro ann post v
  have distinct : v.Distinct := by
    simp [v, ann, post, Value.Distinct, Value.MembersDistinct, Members.Distinct, Members.names]
  exact ⟨rfl, reads_all distinct⟩

/-- A group that has no schema is reported for that, and not for its entries. -/
example : Document.ofJson (.object [("Users", .object [("ann", .null), ("bob", .object [])])]) =
    .error (.missingSchema "Users") := rfl

end TableSeed
