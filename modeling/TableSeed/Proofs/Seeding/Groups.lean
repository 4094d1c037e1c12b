import TableSeed.Proofs.Seeding.Steps
import TableSeed.Proofs.Store.Calls

/-!
# Groups that were stored

What a run has done is told by the groups that it has stored, each with its schema, its resolved
and split entries and the course of its inserts. From them follow the calls that were made and the
records that are committed.
-/

namespace TableSeed

/-- Two sandboxes differ in nothing but their logs. -/
def Sandbox.SameButLog (s s' : Sandbox) : Prop :=
  ∃ log, s' = { s with world := { s.world with log } }

/-- An entry is resolved against the committed records, in a sandbox that goes over into another,
and split by the schema. -/
structure Prepares (commits : Commits) (schema : TableSchema) (s : Sandbox) (entry : Entry)
    (p : PreparedEntry) (s' : Sandbox) : Prop where
  key : p.key = entry.key
  record : entry.record.resolve commits s = (.ok p.record, s')
  item : Item.ofRecord schema p.record = .ok p.item

/-- Entries are resolved and split, one after the other. -/
inductive PreparesAll (commits : Commits) (schema : TableSchema) :
    Sandbox → List Entry → List PreparedEntry → Sandbox → Prop where
  | nil {s : Sandbox} : PreparesAll commits schema s [] [] s
  | cons {s s' s'' : Sandbox} {entry : Entry} {p : PreparedEntry} {entries : List Entry}
    {ps : List PreparedEntry} : Prepares commits schema s entry p s' →
    PreparesAll commits schema s' entries ps s'' →
    PreparesAll commits schema s (entry :: entries) (p :: ps) s''

/-- The calls that make a table ready. -/
def readying (dropTables : Bool) (table : String) : List StoreCall :=
  (if dropTables then [.drop table] else []) ++ [.create table]

/-- The table of a group is made ready: the state of the store before and after. -/
def Readies {σ : Type} (calls : TableStore σ) (dropTables : Bool) (schema : TableSchema)
    (store store' : σ) : Prop :=
  ∃ dropped, (if dropTables then calls.drop schema.table store = (.ok (), dropped)
    else dropped = store) ∧ calls.create schema dropped = (.ok (), store')

/-- A group whose inserts have been made. -/
structure StoredGroup (σ : Type) where
  group : Group
  schema : TableSchema
  /-- The entries, resolved and split. -/
  entries : List PreparedEntry
  /-- The inserts, after all have ended. -/
  batch : Batch σ

namespace StoredGroup

variable {σ : Type}

/-- The name of the group's table. -/
def table (s : StoredGroup σ) : String := s.schema.table

/-- What the run tells of the group. -/
def summary (s : StoredGroup σ) : GroupSummary := ⟨s.group.name, s.table, s.entries.length⟩

/-- The entries in the order in which they were inserted. -/
def inserted (s : StoredGroup σ) : List PreparedEntry :=
  s.batch.started.reverse.filterMap (s.entries[·]?)

/-- The calls that were made for the group. -/
def calls (dropTables : Bool) (s : StoredGroup σ) : List StoreCall :=
  readying dropTables s.table ++ s.inserted.map fun p => .insert s.table p.item

/-- The records of the group are committed, in order. -/
def commit (commits : Commits) (s : StoredGroup σ) : Commits :=
  s.entries.foldl (fun commits p => (commits.commit s.group.name p.key p.record).1) commits

end StoredGroup

/-- The committed records after some groups. -/
def committed {σ : Type} (stored : List (StoredGroup σ)) : Commits :=
  stored.foldl StoredGroup.commit {}

namespace Run

variable {σ : Type} {calls : TableStore σ} {schemas : SchemaSource} {options : SeedOptions}

/-- The table of a group is ready, and its entries are resolved and split. -/
structure Opens (calls : TableStore σ) (schemas : SchemaSource) (options : SeedOptions) (r : Run σ)
    (group : Group) (schema : TableSchema) (entries : List PreparedEntry) (r' : Run σ) : Prop where
  loads : schemas.load group.schema = .ok schema
  readies : Readies calls options.dropTables schema r.store r'.store
  prepares : ∃ s, r.sandbox.SameButLog s ∧
    PreparesAll r.commits schema s group.entries entries r'.sandbox
  commits : r'.commits = r.commits
  allowance : r'.allowance = r.allowance

/-- A group is stored: its table is made ready, its inserts are made in a way that `ends` allows
and all end well, and its records are committed. -/
structure Stores (calls : TableStore σ) (schemas : SchemaSource) (options : SeedOptions)
    (ends : String → List PreparedEntry → Batch σ → Batch σ → Prop) (r : Run σ)
    (s : StoredGroup σ) (r' : Run σ) : Prop where
  opens : ∃ opened, r.Opens calls schemas options s.group s.schema s.entries opened ∧
    ends s.table s.entries
      ((opened.announce s.table s.entries).begin options.maxConcurrentInserts) s.batch ∧
    r' = ((opened.announce s.table s.entries).resume s.batch).commitAll s.group.name s.entries
  ok : s.batch.result? s.entries.length = some (.ok ())

/-- Groups are stored, one after the other. -/
inductive StoresAll (calls : TableStore σ) (schemas : SchemaSource) (options : SeedOptions)
    (ends : String → List PreparedEntry → Batch σ → Batch σ → Prop) :
    Run σ → List (StoredGroup σ) → Run σ → Prop where
  | nil {r : Run σ} : StoresAll calls schemas options ends r [] r
  | cons {r r' r'' : Run σ} {s : StoredGroup σ} {stored : List (StoredGroup σ)} :
    r.Stores calls schemas options ends s r' → StoresAll calls schemas options ends r' stored r'' →
    StoresAll calls schemas options ends r (s :: stored) r''

/-- The run itself moves the inserts of a group. -/
def OwnMoves (calls : TableStore σ) (table : String) (entries : List PreparedEntry)
    (b b' : Batch σ) : Prop := b' = b.runAll calls table entries

/-- The inserts of a group move in any order, while the store makes no calls of itself. -/
def AnyMoves (calls : TableStore σ) (made : σ → List StoreCall) (table : String)
    (entries : List PreparedEntry) (b b' : Batch σ) : Prop :=
  ∃ moves, (∀ m ∈ moves, Move.Silent made m) ∧
    b' = b.follow calls table (Batch.smallSize < entries.length) entries moves

/-! ## What a run that goes well has done -/

section Successes

variable {r r' : Run σ} {schema : TableSchema} {group : Group}

/-- A sandbox differs from itself in nothing. -/
theorem sameButLog_refl (s : Sandbox) : s.SameButLog s := ⟨s.world.log, rfl⟩

/-- Differences in the log add up to one. -/
theorem sameButLog_trans {s s' s'' : Sandbox} (first : s.SameButLog s')
    (second : s'.SameButLog s'') :
    s.SameButLog s'' := by
  obtain ⟨log, rfl⟩ := first
  obtain ⟨log', rfl⟩ := second
  exact ⟨log', rfl⟩

/-- An entry that is prepared is resolved and split. -/
theorem prepare_ok {name : String} {entry : Entry} {p : PreparedEntry}
    (ok : r.prepare name schema entry = (.ok p, r')) :
    Prepares r.commits schema r.sandbox entry p r'.sandbox ∧
      r' = { r with sandbox := r'.sandbox } := by
  unfold prepare at ok
  cases resolved : entry.record.resolve r.commits r.sandbox with
  | mk result sandbox =>
    simp only [resolved] at ok
    cases result with
    | error e => cases e <;> simp at ok
    | ok record =>
      cases split : Item.ofRecord schema record with
      | error e => simp [split] at ok
      | ok item =>
        simp only [split, Prod.mk.injEq, Except.ok.injEq] at ok
        obtain ⟨rfl, rfl⟩ := ok
        exact ⟨⟨rfl, resolved, split⟩, rfl⟩

/-- Entries that are prepared are resolved and split, one after the other. -/
theorem prepareAll_ok {name : String} {entries : List Entry} {ps : List PreparedEntry}
    (ok : r.prepareAll name schema entries = (.ok ps, r')) :
    PreparesAll r.commits schema r.sandbox entries ps r'.sandbox ∧
      r' = { r with sandbox := r'.sandbox } := by
  induction entries generalizing r ps with
  | nil =>
    simp only [prepareAll, Prod.mk.injEq, Except.ok.injEq] at ok
    obtain ⟨rfl, rfl⟩ := ok
    exact ⟨.nil, rfl⟩
  | cons entry rest ih =>
    rw [prepareAll_cons, andThen_eq_ok_iff] at ok
    obtain ⟨p, middle, first, ok⟩ := ok
    obtain ⟨ps', last, others, ok⟩ := andThen_eq_ok_iff.mp ok
    cases ok
    obtain ⟨prepares, same⟩ := prepare_ok first
    obtain ⟨prepares', same'⟩ := ih others
    rw [same] at prepares' same'
    exact ⟨.cons prepares prepares', same'⟩

/-- A call of the store changes its state only. -/
theorem call_ok {table : String} {operation : StoreOperation}
    {f : σ → Except StoreError Unit × σ} (ok : r.call table operation f = (.ok (), r')) :
    f r.store = (.ok (), r'.store) ∧ r' = { r with store := r'.store } := by
  unfold call at ok
  cases called : f r.store with
  | mk result store =>
    simp only [called] at ok
    cases result with
    | error e => simp at ok
    | ok u =>
      simp only [Prod.mk.injEq, true_and] at ok
      subst ok
      exact ⟨rfl, rfl⟩

/-- A note changes the log only. -/
theorem sameButLog_note (s : Sandbox) (level : LogLevel) (text : String) :
    s.SameButLog (s.note level text) := ⟨_, rfl⟩

/-- A table that is dropped is gone before it is created. -/
theorem dropTable_ok {table : String}
    (ok : r.dropTable calls options.dropTables table = (.ok (), r')) :
    (if options.dropTables then calls.drop table r.store = (.ok (), r'.store)
      else r'.store = r.store) ∧ r.sandbox.SameButLog r'.sandbox ∧ r'.commits = r.commits ∧
      r'.allowance = r.allowance := by
  unfold dropTable at ok
  split at ok
  · rename_i drops
    obtain ⟨called, same⟩ := call_ok ok
    rw [same]
    exact ⟨by simpa [drops, note] using called, sameButLog_note _ _ _, rfl, rfl⟩
  · rename_i keeps
    simp only [Prod.mk.injEq, true_and] at ok
    subst ok
    exact ⟨by simp [keeps], sameButLog_refl _, rfl, rfl⟩

/-- A table that is created is there afterwards. -/
theorem createTable_ok (ok : r.createTable calls schema = (.ok (), r')) :
    calls.create schema r.store = (.ok (), r'.store) ∧ r.sandbox.SameButLog r'.sandbox ∧
      r'.commits = r.commits ∧ r'.allowance = r.allowance := by
  unfold createTable at ok
  obtain ⟨called, same⟩ := call_ok ok
  rw [same]
  exact ⟨called, sameButLog_note _ _ _, rfl, rfl⟩

/-- A group that is opened has its table ready and its entries prepared. Preparing them changes the
sandbox only, so the table is still as it was created. -/
theorem openGroup_ok {entries : List PreparedEntry}
    (ok : r.openGroup calls schemas options group = (.ok (schema, entries), r')) :
    r.Opens calls schemas options group schema entries r' := by
  cases loads : schemas.load group.schema with
  | error e => simp [openGroup, loads] at ok
  | ok found =>
    rw [openGroup_eq r calls schemas options loads, andThen_eq_ok_iff] at ok
    obtain ⟨_, dropped, dropping, ok⟩ := ok
    obtain ⟨_, created, creating, ok⟩ := andThen_eq_ok_iff.mp ok
    obtain ⟨ps, prepared, preparing, ok⟩ := andThen_eq_ok_iff.mp ok
    cases ok
    obtain ⟨drops, log, commits, allowance⟩ := dropTable_ok dropping
    obtain ⟨creates, log', commits', allowance'⟩ := createTable_ok creating
    obtain ⟨prepares, same⟩ := prepareAll_ok preparing
    rw [commits', commits] at prepares
    rw [same]
    exact ⟨loads, ⟨dropped.store, drops, creates⟩,
      ⟨created.sandbox, sameButLog_trans log log', prepares⟩, commits'.trans commits,
      allowance'.trans allowance⟩

/-- A commit changes the committed records, and the log. -/
theorem commit_frame (r : Run σ) (name : String) (p : PreparedEntry) :
    (r.commit name p).commits = (r.commits.commit name p.key p.record).1 ∧
      (r.commit name p).store = r.store ∧ (r.commit name p).allowance = r.allowance ∧
      r.sandbox.SameButLog (r.commit name p).sandbox := by
  unfold commit
  cases r.commits.commit name p.key p.record with
  | mk commits fresh =>
    cases fresh with
    | true => exact ⟨rfl, rfl, rfl, sameButLog_refl _⟩
    | false => exact ⟨rfl, rfl, rfl, sameButLog_note _ _ _⟩

/-- Commits change the committed records, and the log. -/
theorem commitAll_frame (r : Run σ) (name : String) (entries : List PreparedEntry) :
    (r.commitAll name entries).commits =
        entries.foldl (fun commits p => (commits.commit name p.key p.record).1) r.commits ∧
      (r.commitAll name entries).store = r.store ∧
      (r.commitAll name entries).allowance = r.allowance ∧
      r.sandbox.SameButLog (r.commitAll name entries).sandbox := by
  induction entries generalizing r with
  | nil => exact ⟨rfl, rfl, rfl, sameButLog_refl _⟩
  | cons p rest ih =>
    obtain ⟨commits, store, allowance, log⟩ := commit_frame r name p
    obtain ⟨commits', store', allowance', log'⟩ := ih (r.commit name p)
    rw [commits] at commits'
    exact ⟨commits', store'.trans store, allowance'.trans allowance, sameButLog_trans log log'⟩

/-- A group that is seeded is stored. -/
theorem seedGroup_ok {summary : GroupSummary}
    (ok : r.seedGroup calls schemas options group = (.ok summary, r')) :
    ∃ s : StoredGroup σ, r.Stores calls schemas options (OwnMoves calls) s r' ∧
      s.group = group ∧ s.summary = summary := by
  rw [seedGroup_eq, andThen_eq_ok_iff] at ok
  obtain ⟨⟨schema, entries⟩, opened, opening, ok⟩ := ok
  obtain ⟨_, inserted, inserting, ok⟩ := andThen_eq_ok_iff.mp ok
  cases ok
  obtain ⟨outcome, ended, same⟩ := insertAll_eq opened calls schema.table entries
    options.maxConcurrentInserts
  rw [same] at inserting
  cases outcome with
  | error e => cases inserting
  | ok u =>
    cases inserting
    exact ⟨⟨group, schema, entries,
      opened.inserts calls schema.table entries options.maxConcurrentInserts⟩,
      ⟨⟨opened, openGroup_ok opening, rfl, rfl⟩, ended⟩, rfl, rfl⟩

/-- Groups that are seeded are stored. -/
theorem seedGroups_ok {groups : List Group} {summaries : List GroupSummary}
    (ok : r.seedGroups calls schemas options groups = (.ok summaries, r')) :
    ∃ stored : List (StoredGroup σ),
      r.StoresAll calls schemas options (OwnMoves calls) stored r' ∧
      stored.map (·.group) = groups ∧ stored.map (·.summary) = summaries := by
  induction groups generalizing r summaries with
  | nil =>
    simp only [seedGroups, Prod.mk.injEq, Except.ok.injEq] at ok
    obtain ⟨rfl, rfl⟩ := ok
    exact ⟨[], .nil, rfl, rfl⟩
  | cons group rest ih =>
    rw [seedGroups_cons, andThen_eq_ok_iff] at ok
    obtain ⟨summary, middle, first, ok⟩ := ok
    obtain ⟨summaries', last, others, ok⟩ := andThen_eq_ok_iff.mp ok
    cases ok
    obtain ⟨s, stores, rfl, rfl⟩ := seedGroup_ok first
    obtain ⟨stored, storesAll, rfl, rfl⟩ := ih others
    exact ⟨s :: stored, .cons stores storesAll, rfl, rfl⟩

end Successes

/-! ## What storing groups changes -/

section Changes

variable {ends ends' : String → List PreparedEntry → Batch σ → Batch σ → Prop}
  {made : σ → List StoreCall} {r r' r'' : Run σ} {s : StoredGroup σ}
  {stored before after : List (StoredGroup σ)}

/-- Groups that are stored after others are stored with them. -/
theorem StoresAll.append (first : r.StoresAll calls schemas options ends before r')
    (second : r'.StoresAll calls schemas options ends after r'') :
    r.StoresAll calls schemas options ends (before ++ after) r'' := by
  induction first with
  | nil => exact second
  | cons stores _ ih => exact .cons stores (ih second)

/-- Between groups a run has stored the earlier ones and is yet to store the later ones. -/
theorem StoresAll.split (whole : r.StoresAll calls schemas options ends (before ++ after) r'') :
    ∃ r', r.StoresAll calls schemas options ends before r' ∧
      r'.StoresAll calls schemas options ends after r'' := by
  induction before generalizing r with
  | nil => exact ⟨r, .nil, whole⟩
  | cons s before ih =>
    cases whole with
    | cons stores rest =>
      obtain ⟨r', first, second⟩ := ih rest
      exact ⟨r', .cons stores first, second⟩

/-- What the run does of itself is one way in which inserts may move. -/
theorem anyMoves_of_ownMoves {table : String} {entries : List PreparedEntry} {b b' : Batch σ}
    (own : OwnMoves calls table entries b b') : AnyMoves calls made table entries b b' := by
  obtain ⟨moves, ofRun, same⟩ := Batch.exists_follow_eq_runAll calls table entries b
  exact ⟨moves, fun m mem => (ofRun m mem).silent, own.trans same⟩

/-- What holds of a group at every moment holds after any moves. -/
theorem AnyMoves.sound {cap : Option Nat} {table : String} {entries : List PreparedEntry}
    {b : Batch σ} (moves : AnyMoves calls made table entries (r.begin cap) b) :
    b.Sound cap (decide (Batch.smallSize < entries.length)) entries.length := by
  obtain ⟨moves, -, rfl⟩ := moves
  exact (Batch.sound_start _ _ _).follow calls table moves

/-- A stored group has inserted each of its entries once, and well. -/
theorem Stores.all_ok (stores : r.Stores calls schemas options (AnyMoves calls made) s r') {i : Nat}
    (bound : i < s.entries.length) :
    s.batch.started.count i = 1 ∧ s.batch.results.lookup i = some (.ok ()) := by
  obtain ⟨⟨opened, -, moves, -⟩, ok⟩ := stores
  exact moves.sound.result_ok_iff.mp ok i bound

/-- A group that is stored in one way is stored in every wider way. -/
theorem Stores.mono (stores : r.Stores calls schemas options ends s r')
    (wider : ∀ table entries b b', ends table entries b b' → ends' table entries b b') :
    r.Stores calls schemas options ends' s r' := by
  obtain ⟨⟨opened, opens, way, same⟩, ok⟩ := stores
  exact ⟨⟨opened, opens, wider _ _ _ _ way, same⟩, ok⟩

/-- Groups that are stored in one way are stored in every wider way. -/
theorem StoresAll.mono (storesAll : r.StoresAll calls schemas options ends stored r')
    (wider : ∀ table entries b b', ends table entries b b' → ends' table entries b b') :
    r.StoresAll calls schemas options ends' stored r' := by
  induction storesAll with
  | nil => exact .nil
  | cons stores _ ih => exact .cons (stores.mono wider) ih

/-- A stored group has committed its records. -/
theorem Stores.commits (stores : r.Stores calls schemas options ends s r') :
    r'.commits = s.commit r.commits := by
  obtain ⟨⟨opened, opens, -, rfl⟩, -⟩ := stores
  rw [(commitAll_frame _ _ _).1]
  change s.entries.foldl _ opened.commits = _
  rw [opens.commits]
  rfl

/-- A group among those that were stored was stored at some time. -/
theorem StoresAll.exists_of_mem (storesAll : r.StoresAll calls schemas options ends stored r')
    (mem : s ∈ stored) : ∃ r₁ r₂ : Run σ, r₁.Stores calls schemas options ends s r₂ := by
  obtain ⟨before, after, rfl⟩ := List.append_of_mem mem
  obtain ⟨r₁, -, rest⟩ := storesAll.split
  cases rest with
  | cons stores _ => exact ⟨r₁, _, stores⟩

/-- Stored groups have committed their records. -/
theorem StoresAll.commits (storesAll : r.StoresAll calls schemas options ends stored r') :
    r'.commits = stored.foldl StoredGroup.commit r.commits := by
  induction storesAll with
  | nil => rfl
  | cons stores _ ih => rw [ih, stores.commits, List.foldl_cons]

/-- Making a table ready makes its calls. -/
theorem made_readies (records : calls.Records made) {dropTables : Bool} {schema : TableSchema}
    {store store' : σ} (readies : Readies calls dropTables schema store store') :
    made store' = made store ++ readying dropTables schema.table := by
  obtain ⟨dropped, drops, creates⟩ := readies
  have created := records.create schema dropped
  rw [creates] at created
  rw [show made store' = _ from created, readying]
  cases dropTables with
  | true =>
    have called := records.drop schema.table store
    rw [if_pos rfl] at drops
    rw [drops] at called
    rw [show made dropped = _ from called]
    simp
  | false =>
    rw [if_neg Bool.false_ne_true] at drops
    rw [drops]
    simp

/-- A group whose inserts have moved has made its table ready and started inserts. -/
theorem Opens.calls_made {opened : Run σ} (records : calls.Records made)
    (opens : r.Opens calls schemas options s.group s.schema s.entries opened)
    (moves : AnyMoves calls made s.table s.entries
      ((opened.announce s.table s.entries).begin options.maxConcurrentInserts) s.batch) :
    made s.batch.store = made r.store ++ s.calls options.dropTables := by
  obtain ⟨moves, silent, same⟩ := moves
  have nothing :
      made ((opened.announce s.table s.entries).begin options.maxConcurrentInserts).store =
        made opened.store ++ Batch.inserts s.table s.entries
          ((opened.announce s.table s.entries).begin options.maxConcurrentInserts) :=
    (List.append_nil _).symm
  have called := Batch.made_follow records (decide (Batch.smallSize < s.entries.length)) silent
    (made opened.store) nothing
  rw [← same] at called
  rw [called, made_readies records opens.readies, List.append_assoc]
  congr 2
  simp only [Batch.inserts, StoredGroup.inserted, List.map_filterMap]

/-- A stored group has made its calls. -/
theorem Stores.calls_made (records : calls.Records made)
    (stores : r.Stores calls schemas options (AnyMoves calls made) s r') :
    made r'.store = made r.store ++ s.calls options.dropTables := by
  obtain ⟨⟨opened, opens, moves, rfl⟩, -⟩ := stores
  rw [(commitAll_frame _ _ _).2.1]
  exact opens.calls_made records moves

/-- Stored groups have made their calls. -/
theorem StoresAll.calls_made (records : calls.Records made)
    (storesAll : r.StoresAll calls schemas options (AnyMoves calls made) stored r') :
    made r'.store = made r.store ++ stored.flatMap (·.calls options.dropTables) := by
  induction storesAll with
  | nil => simp
  | cons stores _ ih =>
    rw [ih, stores.calls_made records, List.flatMap_cons, List.append_assoc]

end Changes

end Run

end TableSeed
