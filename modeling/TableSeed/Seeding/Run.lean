import TableSeed.Resolution
import TableSeed.Seeding.Batch
import TableSeed.Seeding.Error

/-!
# Seeding

A run binds the given values and the modules of the document, and then stores group after group in
the order of the document. For each group it finds the schema, drops the table if it is asked to,
creates the table, resolves and splits every entry, inserts all of them, and commits the resolved
records, which later groups can refer to. The first failure ends the run; what earlier groups have
stored stays.
-/

namespace TableSeed

/-- What a run is asked to do. -/
structure SeedOptions where
  /-- Drop each table before it is created. -/
  dropTables : Bool := false
  /-- The directory of the modules. -/
  dependencyDir : String := "."
  /-- How many inserts of a group may be in flight together; none is no cap. -/
  maxConcurrentInserts : Option Nat := none
  /-- Values that expressions see under the names. -/
  bindings : Json.Members := []

/-- What was stored of a group. -/
structure GroupSummary where
  group : String
  table : String
  records : Nat
  deriving DecidableEq, Repr

/-- What a run has stored. -/
structure SeedSummary where
  /-- The groups in the order in which they were stored. -/
  groups : List GroupSummary := []
  /-- The number of modules that were bound. -/
  dependencies : Nat := 0
  deriving DecidableEq, Repr

namespace SeedSummary

/-- The number of stored records. -/
def records (s : SeedSummary) : Nat := s.groups.foldl (fun n g => n + g.records) 0

end SeedSummary

/-- The state of a run on a store of state `σ`. -/
structure Run (σ : Type) where
  /-- The sandbox, which also keeps the log. -/
  sandbox : Sandbox
  commits : Commits := {}
  store : σ
  /-- The number of permits that may be taken before the next pause, if it is limited. -/
  allowance : Option Nat

namespace Run

variable {σ : Type}

/-- The log of the run. -/
def log (r : Run σ) : Log := r.sandbox.world.log

/-- Writes to the log. -/
def note (r : Run σ) (level : LogLevel) (text : String) : Run σ :=
  { r with sandbox := r.sandbox.note level text }

/-- Replaces the log. -/
def setLog (r : Run σ) (log : Log) : Run σ :=
  { r with sandbox := { r.sandbox with world := { r.sandbox.world with log } } }

/-- A run whose sandbox has the given values bound, in order. -/
def start (sandbox : Sandbox) (bindings : Json.Members) (store : σ)
    (allowance : Option Nat := none) : Run σ :=
  { sandbox := bindings.foldl (fun s b => (s.bindJson b.1 b.2).1) sandbox, store, allowance }

/-- Binds the modules of a document: how many were bound. -/
def loadDependencies (r : Run σ) (directory : ModuleDirectory) (dependencies : List Dependency) :
    Except SeedError Nat × Run σ :=
  match r.sandbox.loadAll directory dependencies with
  | (.ok n, sandbox) => (.ok n, { r with sandbox })
  | (.error (.execution _ _ .aborted), sandbox) => (.error .aborted, { r with sandbox })
  | (.error e, sandbox) => (.error (.dependency e), { r with sandbox })

/-- Resolves and splits an entry. -/
def prepare (r : Run σ) (group : String) (schema : TableSchema) (entry : Entry) :
    Except SeedError PreparedEntry × Run σ :=
  let (resolved, sandbox) := entry.record.resolve r.commits r.sandbox
  let r := { r with sandbox }
  match resolved with
  | .error (.reference e) => (.error (.reference group entry.key e), r)
  | .error .aborted => (.error .aborted, r)
  | .ok record =>
    match Item.ofRecord schema record with
    | .error e => (.error (.split group entry.key e), r)
    | .ok item => (.ok ⟨entry.key, record, item⟩, r)

/-- Resolves and splits the entries of a group, in order. -/
def prepareAll (r : Run σ) (group : String) (schema : TableSchema) :
    List Entry → Except SeedError (List PreparedEntry) × Run σ
  | [] => (.ok [], r)
  | entry :: rest =>
    match r.prepare group schema entry with
    | (.error e, r) => (.error e, r)
    | (.ok p, r) =>
      match prepareAll r group schema rest with
      | (.error e, r) => (.error e, r)
      | (.ok ps, r) => (.ok (p :: ps), r)

/-- Commits a record; the first one of an entry stays. -/
def commit (r : Run σ) (group : String) (p : PreparedEntry) : Run σ :=
  let (commits, fresh) := r.commits.commit group p.key p.record
  let r := { r with commits }
  if fresh then r
  else r.note .warn s!"Entry '{group}.{p.key}' already committed, keeping the first"

/-- Makes a call of the store for a table. -/
def call (r : Run σ) (table : String) (operation : StoreOperation)
    (f : σ → Except StoreError Unit × σ) : Except SeedError Unit × Run σ :=
  let (result, store) := f r.store
  let r := { r with store }
  match result with
  | .ok () => (.ok (), r)
  | .error e => (.error (.storage table operation e), r)

/-- Drops the table of a group, if the run is asked to. -/
def dropTable (r : Run σ) (calls : TableStore σ) (dropTables : Bool) (table : String) :
    Except SeedError Unit × Run σ :=
  if dropTables then
    (r.note .info s!"Drop table: {table}").call table .dropTable (calls.drop table)
  else (.ok (), r)

/-- Creates the table of a group. -/
def createTable (r : Run σ) (calls : TableStore σ) (schema : TableSchema) :
    Except SeedError Unit × Run σ :=
  (r.note .info s!"Create table: {schema.table}").call schema.table .createTable (calls.create schema)

/-- The run about to insert the entries of a group. -/
def announce (r : Run σ) (table : String) (entries : List PreparedEntry) : Run σ :=
  r.note .info s!"Insert {entries.length} items: {table}"

/-- The inserts of a group before any has begun. -/
def begin (r : Run σ) (cap : Option Nat) : Batch σ := .start cap r.store r.log r.allowance

/-- The run after the inserts of a group. -/
def resume (r : Run σ) (b : Batch σ) : Run σ :=
  { r with store := b.store, allowance := b.allowance }.setLog b.log

/-- Inserts the entries of a group. -/
def insertAll (r : Run σ) (calls : TableStore σ) (table : String) (entries : List PreparedEntry)
    (cap : Option Nat) : Except SeedError Unit × Run σ :=
  let r := r.announce table entries
  let b := (r.begin cap).runAll calls table entries
  match b.outcome with
  | .ok () => (.ok (), r.resume b)
  | .error e => (.error (.storage table .insert e), r.resume b)

/-- Makes the table of a group ready and resolves and splits its entries: the schema of the table
and the entries. -/
def openGroup (r : Run σ) (calls : TableStore σ) (schemas : SchemaSource) (options : SeedOptions)
    (group : Group) : Except SeedError (TableSchema × List PreparedEntry) × Run σ :=
  match schemas.load group.schema with
  | .error e => (.error (.schema group.name e), r)
  | .ok schema =>
    match r.dropTable calls options.dropTables schema.table with
    | (.error e, r) => (.error e, r)
    | (.ok (), r) =>
      match r.createTable calls schema with
      | (.error e, r) => (.error e, r)
      | (.ok (), r) =>
        match r.prepareAll group.name schema group.entries with
        | (.error e, r) => (.error e, r)
        | (.ok entries, r) => (.ok (schema, entries), r)

/-- Commits the records of a group, in order. -/
def commitAll (r : Run σ) (group : String) (entries : List PreparedEntry) : Run σ :=
  entries.foldl (fun r p => r.commit group p) r

/-- Stores a group. -/
def seedGroup (r : Run σ) (calls : TableStore σ) (schemas : SchemaSource) (options : SeedOptions)
    (group : Group) : Except SeedError GroupSummary × Run σ :=
  match r.openGroup calls schemas options group with
  | (.error e, r) => (.error e, r)
  | (.ok (schema, entries), r) =>
    match r.insertAll calls schema.table entries options.maxConcurrentInserts with
    | (.error e, r) => (.error e, r)
    | (.ok (), r) =>
      (.ok ⟨group.name, schema.table, entries.length⟩, r.commitAll group.name entries)

/-- Stores groups, in order. -/
def seedGroups (r : Run σ) (calls : TableStore σ) (schemas : SchemaSource) (options : SeedOptions) :
    List Group → Except SeedError (List GroupSummary) × Run σ
  | [] => (.ok [], r)
  | group :: rest =>
    match r.seedGroup calls schemas options group with
    | (.error e, r) => (.error e, r)
    | (.ok summary, r) =>
      match seedGroups r calls schemas options rest with
      | (.error e, r) => (.error e, r)
      | (.ok summaries, r) => (.ok (summary :: summaries), r)

end Run

/-- Where a run finds what the document names. -/
structure SeedSources where
  schemas : SchemaSource
  /-- The files among which modules are found. -/
  files : FileTree

/-- Seeds a document into a store, from a sandbox in which nothing is bound: the summary or the
error, and the state in which the run ends. -/
def seed {σ : Type} (calls : TableStore σ) (sources : SeedSources) (document : Document)
    (options : SeedOptions) (sandbox : Sandbox) (store : σ) : Except SeedError SeedSummary × Run σ :=
  let r := Run.start sandbox options.bindings store calls.fullAllowance
  match r.loadDependencies ⟨sources.files, options.dependencyDir⟩ document.dependencies with
  | (.error e, r) => (.error e, r)
  | (.ok dependencies, r) =>
    match r.seedGroups calls sources.schemas options document.groups with
    | (.error e, r) => (.error e, r)
    | (.ok groups, r) => (.ok ⟨groups, dependencies⟩, r)

end TableSeed
