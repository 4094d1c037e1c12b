import TableSeed.Proofs.Seeding.Groups

/-!
# Groups that fail

A group fails at its first step that does: its schema is not found, its table is not dropped or not
created, an entry is not resolved or not split, or an insert fails. Each step tells which calls had
been made by then.
-/

namespace TableSeed

/-- An entry is not resolved or not split, in a given sandbox. -/
inductive EntryFails (commits : Commits) (schema : TableSchema) (group : String) (s : Sandbox)
    (entry : Entry) : SeedError → Prop where
  | reference {e : ReferenceError} :
    (entry.record.resolve commits s).1 = .error (.reference e) →
    EntryFails commits schema group s entry (.reference group entry.key e)
  | aborted : (entry.record.resolve commits s).1 = .error .aborted →
    EntryFails commits schema group s entry .aborted
  | split {record : Json.Members} {e : SplitError} :
    (entry.record.resolve commits s).1 = .ok record → Item.ofRecord schema record = .error e →
    EntryFails commits schema group s entry (.split group entry.key e)

namespace Run

variable {σ : Type} {calls : TableStore σ} {schemas : SchemaSource} {options : SeedOptions}

/-- A group fails before its first insert: the error, the calls that were made for it and the state
of the store afterwards. -/
inductive Refuses (calls : TableStore σ) (schemas : SchemaSource) (options : SeedOptions)
    (r : Run σ) (group : Group) : SeedError → List StoreCall → σ → Prop where
  | schema {e : SchemaSourceError} : schemas.load group.schema = .error e →
    Refuses calls schemas options r group (.schema group.name e) [] r.store
  | drop {schema : TableSchema} {e : StoreError} {store : σ} :
    schemas.load group.schema = .ok schema → options.dropTables = true →
    calls.drop schema.table r.store = (.error e, store) →
    Refuses calls schemas options r group (.storage schema.table .dropTable e)
      [.drop schema.table] store
  | create {schema : TableSchema} {e : StoreError} {dropped store : σ} :
    schemas.load group.schema = .ok schema →
    (if options.dropTables then calls.drop schema.table r.store = (.ok (), dropped)
      else dropped = r.store) →
    calls.create schema dropped = (.error e, store) →
    Refuses calls schemas options r group (.storage schema.table .createTable e)
      (readying options.dropTables schema.table) store
  | entry {schema : TableSchema} {e : SeedError} {store : σ} {s s' : Sandbox}
    {before after : List Entry} {entry : Entry} {ps : List PreparedEntry} :
    schemas.load group.schema = .ok schema →
    Readies calls options.dropTables schema r.store store → r.sandbox.SameButLog s →
    group.entries = before ++ entry :: after → PreparesAll r.commits schema s before ps s' →
    EntryFails r.commits schema group.name s' entry e →
    Refuses calls schemas options r group e (readying options.dropTables schema.table) store

/-- An insert of a group fails, after its table was made ready and its entries were prepared. -/
structure Breaks (calls : TableStore σ) (schemas : SchemaSource) (options : SeedOptions)
    (ends : String → List PreparedEntry → Batch σ → Batch σ → Prop) (r : Run σ)
    (s : StoredGroup σ) (e : StoreError) (r' : Run σ) : Prop where
  opens : ∃ opened, r.Opens calls schemas options s.group s.schema s.entries opened ∧
    ends s.table s.entries
      ((opened.announce s.table s.entries).begin options.maxConcurrentInserts) s.batch ∧
    r' = (opened.announce s.table s.entries).resume s.batch
  failed : s.batch.result? s.entries.length = some (.error e)

/-- A group fails: the error and the calls that were made for it. -/
inductive Fails (calls : TableStore σ) (schemas : SchemaSource) (options : SeedOptions)
    (ends : String → List PreparedEntry → Batch σ → Batch σ → Prop) (r : Run σ) (group : Group) :
    SeedError → List StoreCall → Run σ → Prop where
  | refuses {e : SeedError} {own : List StoreCall} {r' : Run σ} :
    r.Refuses calls schemas options group e own r'.store → r'.commits = r.commits →
    Fails calls schemas options ends r group e own r'
  | breaks {s : StoredGroup σ} {e : StoreError} {r' : Run σ} :
    s.group = group → r.Breaks calls schemas options ends s e r' →
    Fails calls schemas options ends r group (.storage s.table .insert e)
      (s.calls options.dropTables) r'

section Errors

variable {r r' : Run σ} {schema : TableSchema} {group : Group} {e : SeedError}

/-- An entry that is not prepared is not resolved or not split. -/
theorem prepare_error {name : String} {entry : Entry}
    (error : r.prepare name schema entry = (.error e, r')) :
    EntryFails r.commits schema name r.sandbox entry e ∧ r' = { r with sandbox := r'.sandbox } := by
  unfold prepare at error
  cases resolved : entry.record.resolve r.commits r.sandbox with
  | mk result sandbox =>
    simp only [resolved] at error
    cases result with
    | error cause =>
      cases cause with
      | reference cause =>
        simp only [Prod.mk.injEq, Except.error.injEq] at error
        obtain ⟨rfl, rfl⟩ := error
        exact ⟨.reference (by rw [resolved]), rfl⟩
      | aborted =>
        simp only [Prod.mk.injEq, Except.error.injEq] at error
        obtain ⟨rfl, rfl⟩ := error
        exact ⟨.aborted (by rw [resolved]), rfl⟩
    | ok record =>
      cases split : Item.ofRecord schema record with
      | ok item => simp [split] at error
      | error cause =>
        simp only [split, Prod.mk.injEq, Except.error.injEq] at error
        obtain ⟨rfl, rfl⟩ := error
        exact ⟨.split (by rw [resolved]) split, rfl⟩

/-- Entries that are not all prepared are prepared up to one that fails. -/
theorem prepareAll_error {name : String} {entries : List Entry}
    (error : r.prepareAll name schema entries = (.error e, r')) :
    (∃ before entry after ps s, entries = before ++ entry :: after ∧
      PreparesAll r.commits schema r.sandbox before ps s ∧
      EntryFails r.commits schema name s entry e) ∧ r' = { r with sandbox := r'.sandbox } := by
  induction entries generalizing r with
  | nil => simp [prepareAll] at error
  | cons entry rest ih =>
    rw [prepareAll_cons, andThen_eq_error_iff] at error
    rcases error with first | ⟨p, middle, first, error⟩
    · obtain ⟨fails, same⟩ := prepare_error first
      exact ⟨⟨[], entry, rest, [], _, rfl, .nil, fails⟩, same⟩
    · obtain ⟨prepares, same⟩ := prepare_ok first
      rcases andThen_eq_error_iff.mp error with others | ⟨ps, last, -, error⟩
      · obtain ⟨⟨before, failing, after, ps, s, rfl, prepares', fails⟩, same'⟩ := ih others
        rw [same] at prepares' fails same'
        exact ⟨⟨entry :: before, failing, after, p :: ps, s, rfl, .cons prepares prepares', fails⟩,
          same'⟩
      · cases error

/-- A call of the store that fails changes its state only. -/
theorem call_error {table : String} {operation : StoreOperation}
    {f : σ → Except StoreError Unit × σ} (error : r.call table operation f = (.error e, r')) :
    ∃ cause, f r.store = (.error cause, r'.store) ∧ e = .storage table operation cause ∧
      r' = { r with store := r'.store } := by
  unfold call at error
  cases called : f r.store with
  | mk result store =>
    simp only [called] at error
    cases result with
    | ok u => simp at error
    | error cause =>
      simp only [Prod.mk.injEq, Except.error.injEq] at error
      obtain ⟨rfl, rfl⟩ := error
      exact ⟨cause, rfl, rfl, rfl⟩

/-- A group that is not opened fails before its first insert. -/
theorem openGroup_error (error : r.openGroup calls schemas options group = (.error e, r')) :
    ∃ own, r.Refuses calls schemas options group e own r'.store ∧ r'.commits = r.commits := by
  cases loads : schemas.load group.schema with
  | error cause =>
    simp only [openGroup, loads] at error
    cases error
    exact ⟨_, .schema loads, rfl⟩
  | ok schema =>
    rw [openGroup_eq r calls schemas options loads, andThen_eq_error_iff] at error
    rcases error with dropping | ⟨_, dropped, dropping, error⟩
    · unfold dropTable at dropping
      split at dropping
      · rename_i drops
        obtain ⟨cause, called, rfl, same⟩ := call_error dropping
        exact ⟨_, .drop loads drops called, by rw [same]; rfl⟩
      · cases dropping
    obtain ⟨drops, log, commits, -⟩ := dropTable_ok dropping
    rcases andThen_eq_error_iff.mp error with creating | ⟨_, created, creating, error⟩
    · obtain ⟨cause, called, rfl, same⟩ := call_error creating
      exact ⟨_, .create loads drops called, by rw [same]; exact commits⟩
    obtain ⟨creates, log', commits', -⟩ := createTable_ok creating
    rcases andThen_eq_error_iff.mp error with preparing | ⟨ps, prepared, -, error⟩
    · obtain ⟨⟨before, entry, after, ps, s, split, prepares, fails⟩, same⟩ :=
        prepareAll_error preparing
      rw [commits', commits] at prepares fails
      rw [same]
      exact ⟨_, .entry loads ⟨_, drops, creates⟩ (sameButLog_trans log log') split prepares fails,
        commits'.trans commits⟩
    · cases error

/-- A group that is not seeded fails. -/
theorem seedGroup_error (error : r.seedGroup calls schemas options group = (.error e, r')) :
    ∃ own, r.Fails calls schemas options (OwnMoves calls) group e own r' := by
  rw [seedGroup_eq, andThen_eq_error_iff] at error
  rcases error with opening | ⟨⟨schema, entries⟩, opened, opening, error⟩
  · obtain ⟨own, refuses, commits⟩ := openGroup_error opening
    exact ⟨own, .refuses refuses commits⟩
  rcases andThen_eq_error_iff.mp error with inserting | ⟨_, inserted, -, error⟩
  · obtain ⟨outcome, ended, same⟩ := insertAll_eq opened calls schema.table entries
      options.maxConcurrentInserts
    rw [same] at inserting
    cases outcome with
    | ok u => cases inserting
    | error cause =>
      cases inserting
      exact ⟨_, .breaks (s := ⟨group, schema, entries,
        opened.inserts calls schema.table entries options.maxConcurrentInserts⟩) rfl
        ⟨⟨opened, openGroup_ok opening, rfl, rfl⟩, ended⟩⟩
  · cases error

/-- Groups that are not all seeded are stored up to one that fails. -/
theorem seedGroups_error {groups : List Group}
    (error : r.seedGroups calls schemas options groups = (.error e, r')) :
    ∃ (stored : List (StoredGroup σ)) (middle : Run σ) (group : Group) (rest : List Group)
      (own : List StoreCall), groups = stored.map (·.group) ++ group :: rest ∧
      r.StoresAll calls schemas options (OwnMoves calls) stored middle ∧
      middle.Fails calls schemas options (OwnMoves calls) group e own r' := by
  induction groups generalizing r with
  | nil => simp [seedGroups] at error
  | cons group rest ih =>
    rw [seedGroups_cons, andThen_eq_error_iff] at error
    rcases error with first | ⟨summary, middle, first, error⟩
    · obtain ⟨own, fails⟩ := seedGroup_error first
      exact ⟨[], r, group, rest, own, rfl, .nil, fails⟩
    · obtain ⟨s, stores, rfl, -⟩ := seedGroup_ok first
      rcases andThen_eq_error_iff.mp error with others | ⟨summaries, last, -, error⟩
      · obtain ⟨stored, middle', failing, rest', own, rfl, storesAll, fails⟩ := ih others
        exact ⟨s :: stored, middle', failing, rest', own, rfl, .cons stores storesAll, fails⟩
      · cases error

end Errors

/-! ## The calls of a group that fails -/

section Calls

variable {ends : String → List PreparedEntry → Batch σ → Batch σ → Prop}
  {made : σ → List StoreCall} {r r' : Run σ} {group : Group} {e : SeedError}
  {own : List StoreCall} {store : σ}

/-- A group that fails before its first insert has made the calls of its steps. -/
theorem Refuses.calls_made (records : calls.Records made)
    (refuses : r.Refuses calls schemas options group e own store) :
    made store = made r.store ++ own := by
  cases refuses with
  | schema _ => simp
  | @drop schema cause _ _ _ called =>
    have recorded := records.drop schema.table r.store
    rwa [called] at recorded
  | @create schema cause dropped _ _ drops called =>
    have created := records.create schema dropped
    rw [called] at created
    rw [show made store = _ from created, readying]
    split_ifs at drops with dropping
    · have recorded := records.drop schema.table r.store
      rw [drops] at recorded
      rw [show made dropped = _ from recorded]
      simp [dropping]
    · rw [drops]
      simp [dropping]
  | entry _ readies _ _ _ _ => exact made_readies records readies

/-- A group of which an insert fails has made its table ready and started inserts. -/
theorem Breaks.calls_made {s : StoredGroup σ} {cause : StoreError} (records : calls.Records made)
    (breaks : r.Breaks calls schemas options (AnyMoves calls made) s cause r') :
    made r'.store = made r.store ++ s.calls options.dropTables := by
  obtain ⟨⟨opened, opens, moves, rfl⟩, -⟩ := breaks
  exact opens.calls_made records moves

/-- A group that fails has committed nothing. -/
theorem Fails.commits (fails : r.Fails calls schemas options ends group e own r') :
    r'.commits = r.commits := by
  cases fails with
  | refuses _ commits => exact commits
  | breaks _ breaks =>
    obtain ⟨⟨opened, opens, -, rfl⟩, -⟩ := breaks
    exact opens.commits

/-- A group that fails has made the calls of its steps. -/
theorem Fails.calls_made (records : calls.Records made)
    (fails : r.Fails calls schemas options (AnyMoves calls made) group e own r') :
    made r'.store = made r.store ++ own := by
  cases fails with
  | refuses refuses _ => exact refuses.calls_made records
  | breaks _ breaks => exact breaks.calls_made records

end Calls

end Run

end TableSeed
