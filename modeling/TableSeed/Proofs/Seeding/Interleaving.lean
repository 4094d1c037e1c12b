import TableSeed.Proofs.Seeding.Failures

/-!
# Runs under every schedule

A run of groups as single steps: a group is opened or refused, its inserts move in any order while
the store goes on as it likes, and once they have come to an end the group fails or commits. At
every moment the run has made the calls of the groups it has stored and of no group after the
present one, and it has committed the records of the stored groups only.
-/

namespace TableSeed

/-- What a run is at. -/
inductive Phase (σ : Type) where
  /-- No group is under way. -/
  | idle
  /-- The entries of a group are being inserted. -/
  | inserting (group : Group) (schema : TableSchema) (entries : List PreparedEntry)
    (batch : Batch σ)
  /-- The run has ended with an error. -/
  | failed (e : SeedError)

/-- A run of groups under way. -/
structure Progress (σ : Type) where
  run : Run σ
  phase : Phase σ := .idle
  /-- The groups that are still to be opened. -/
  pending : List Group
  /-- What has been told of the groups that were stored. -/
  summaries : List GroupSummary := []

namespace Progress

variable {σ : Type}

/-- A step of a run of groups. -/
inductive Step (calls : TableStore σ) (made : σ → List StoreCall) (schemas : SchemaSource)
    (options : SeedOptions) : Progress σ → Progress σ → Prop where
  | opens {run opened : Run σ} {group : Group} {schema : TableSchema}
    {entries : List PreparedEntry} {pending : List Group} {summaries : List GroupSummary} :
    run.openGroup calls schemas options group = (.ok (schema, entries), opened) →
    Step calls made schemas options ⟨run, .idle, group :: pending, summaries⟩
      ⟨opened.announce schema.table entries, .inserting group schema entries
        ((opened.announce schema.table entries).begin options.maxConcurrentInserts), pending,
        summaries⟩
  | refuses {run refused : Run σ} {group : Group} {e : SeedError} {pending : List Group}
    {summaries : List GroupSummary} :
    run.openGroup calls schemas options group = (.error e, refused) →
    Step calls made schemas options ⟨run, .idle, group :: pending, summaries⟩
      ⟨refused, .failed e, pending, summaries⟩
  | moves {run : Run σ} {group : Group} {schema : TableSchema} {entries : List PreparedEntry}
    {b : Batch σ} {pending : List Group} {summaries : List GroupSummary} (m : Move σ) :
    m.Silent made →
    Step calls made schemas options ⟨run, .inserting group schema entries b, pending, summaries⟩
      ⟨run, .inserting group schema entries
        (b.move calls schema.table (Batch.smallSize < entries.length) entries m), pending,
        summaries⟩
  | fails {run : Run σ} {group : Group} {schema : TableSchema} {entries : List PreparedEntry}
    {b : Batch σ} {e : StoreError} {pending : List Group} {summaries : List GroupSummary} :
    b.result? entries.length = some (.error e) →
    Step calls made schemas options ⟨run, .inserting group schema entries b, pending, summaries⟩
      ⟨run.resume b, .failed (.storage schema.table .insert e), pending, summaries⟩
  | commits {run : Run σ} {group : Group} {schema : TableSchema} {entries : List PreparedEntry}
    {b : Batch σ} {pending : List Group} {summaries : List GroupSummary} :
    b.result? entries.length = some (.ok ()) →
    Step calls made schemas options ⟨run, .inserting group schema entries b, pending, summaries⟩
      ⟨(run.resume b).commitAll group.name entries, .idle, pending,
        summaries ++ [⟨group.name, schema.table, entries.length⟩]⟩

/-- One state of a run comes after another. -/
def Reaches (calls : TableStore σ) (made : σ → List StoreCall) (schemas : SchemaSource)
    (options : SeedOptions) : Progress σ → Progress σ → Prop :=
  Relation.ReflTransGen (Step calls made schemas options)

/-- What has become of a run: the groups that it has stored, and the group it is at. -/
inductive Tells (calls : TableStore σ) (made : σ → List StoreCall) (schemas : SchemaSource)
    (options : SeedOptions) (first : Run σ) (groups : List Group) :
    List (StoredGroup σ) → Progress σ → Prop where
  | idle {stored : List (StoredGroup σ)} {run : Run σ} {pending : List Group} :
    groups = stored.map (·.group) ++ pending →
    first.StoresAll calls schemas options (Run.AnyMoves calls made) stored run →
    Tells calls made schemas options first groups stored
      ⟨run, .idle, pending, stored.map (·.summary)⟩
  | inserting {stored : List (StoredGroup σ)} {run opened : Run σ} {s : StoredGroup σ}
    {pending : List Group} :
    groups = stored.map (·.group) ++ s.group :: pending →
    first.StoresAll calls schemas options (Run.AnyMoves calls made) stored run →
    run.Opens calls schemas options s.group s.schema s.entries opened →
    Run.AnyMoves calls made s.table s.entries
      ((opened.announce s.table s.entries).begin options.maxConcurrentInserts) s.batch →
    Tells calls made schemas options first groups stored
      ⟨opened.announce s.table s.entries, .inserting s.group s.schema s.entries s.batch, pending,
        stored.map (·.summary)⟩
  | failed {stored : List (StoredGroup σ)} {run failed : Run σ} {group : Group} {e : SeedError}
    {own : List StoreCall} {pending : List Group} :
    groups = stored.map (·.group) ++ group :: pending →
    first.StoresAll calls schemas options (Run.AnyMoves calls made) stored run →
    run.Fails calls schemas options (Run.AnyMoves calls made) group e own failed →
    Tells calls made schemas options first groups stored
      ⟨failed, .failed e, pending, stored.map (·.summary)⟩

section Runs

variable {calls : TableStore σ} {made : σ → List StoreCall} {schemas : SchemaSource}
  {options : SeedOptions} {first : Run σ} {groups : List Group} {stored : List (StoredGroup σ)}
  {p p' : Progress σ}

/-- A step leaves the stored groups, or adds the group that was under way. -/
theorem Tells.step (tells : Tells calls made schemas options first groups stored p)
    (step : Step calls made schemas options p p') :
    ∃ stored', Tells calls made schemas options first groups stored' p' := by
  cases step with
  | opens opening =>
    cases tells with
    | idle same storesAll =>
      exact ⟨stored, .inserting (s := ⟨_, _, _, _⟩) same storesAll (Run.openGroup_ok opening)
        ⟨[], by simp, rfl⟩⟩
  | refuses opening =>
    cases tells with
    | idle same storesAll =>
      obtain ⟨own, refuses, commits⟩ := Run.openGroup_error opening
      exact ⟨stored, .failed same storesAll (.refuses refuses commits)⟩
  | moves m silent =>
    cases tells with
    | @inserting run opened s pending same storesAll opens moves =>
      obtain ⟨earlier, silently, followed⟩ := moves
      refine ⟨stored, .inserting (s := ⟨s.group, s.schema, s.entries, s.batch.move calls s.table
        (Batch.smallSize < s.entries.length) s.entries m⟩) same storesAll opens
        ⟨earlier ++ [m], ?_, ?_⟩⟩
      · intro m' mem
        rcases List.mem_append.mp mem with old | new
        · exact silently m' old
        · rw [List.mem_singleton.mp new]
          exact silent
      · simp only [Batch.follow, List.foldl_append, List.foldl_cons, List.foldl_nil]
        rw [followed]
        rfl
  | fails failed =>
    cases tells with
    | inserting same storesAll opens moves =>
      exact ⟨stored, .failed same storesAll (.breaks rfl ⟨⟨_, opens, moves, rfl⟩, failed⟩)⟩
  | commits ok =>
    cases tells with
    | @inserting run opened s pending same storesAll opens moves =>
      have stores : run.Stores calls schemas options (Run.AnyMoves calls made) s _ :=
        ⟨⟨opened, opens, moves, rfl⟩, ok⟩
      refine ⟨stored ++ [s], ?_⟩
      have told : stored.map (·.summary) ++ [⟨s.group.name, s.schema.table, s.entries.length⟩] =
          (stored ++ [s]).map (·.summary) := by
        rw [List.map_append]
        rfl
      rw [told]
      exact .idle (by rw [same]; simp) (storesAll.append (.cons stores .nil))

/-- Every run tells which groups it has stored. -/
theorem exists_tells (reached : Reaches calls made schemas options ⟨first, .idle, groups, []⟩ p) :
    ∃ stored, Tells calls made schemas options first groups stored p := by
  induction reached with
  | refl => exact ⟨[], .idle rfl .nil⟩
  | tail _ step ih =>
    obtain ⟨stored, tells⟩ := ih
    exact tells.step step

/-- The inserts of a group may make any moves, one after the other. -/
theorem reaches_follow (calls : TableStore σ) (made : σ → List StoreCall) (schemas : SchemaSource)
    (options : SeedOptions) (run : Run σ) (group : Group) (schema : TableSchema)
    (entries : List PreparedEntry) (b : Batch σ) (pending : List Group)
    (summaries : List GroupSummary) {moves : List (Move σ)} (silent : ∀ m ∈ moves, m.Silent made) :
    Reaches calls made schemas options
      ⟨run, .inserting group schema entries b, pending, summaries⟩
      ⟨run, .inserting group schema entries
        (b.follow calls schema.table (Batch.smallSize < entries.length) entries moves), pending,
        summaries⟩ := by
  induction moves generalizing b with
  | nil => exact .refl
  | cons m moves ih =>
    exact .head (.moves m (silent m List.mem_cons_self))
      (ih _ fun later mem => silent later (List.mem_cons_of_mem _ mem))

/-- A run has ended as told: with the summaries of all groups, or with an error. -/
def EndsAs (outcome : Except SeedError (List GroupSummary) × Run σ) (p : Progress σ) : Prop :=
  p.run = outcome.2 ∧
    match outcome.1 with
    | .ok summaries => p.phase = .idle ∧ p.pending = [] ∧ p.summaries = summaries
    | .error e => p.phase = .failed e

/-- Seeding groups takes such steps. -/
theorem exists_reaches_seedGroups (calls : TableStore σ) (made : σ → List StoreCall)
    (schemas : SchemaSource) (options : SeedOptions) (r : Run σ) (groups : List Group)
    (earlier : List GroupSummary) :
    ∃ p, Reaches calls made schemas options ⟨r, .idle, groups, earlier⟩ p ∧
      p.EndsAs ((r.seedGroups calls schemas options groups).1.map (earlier ++ ·),
        (r.seedGroups calls schemas options groups).2) := by
  induction groups generalizing r earlier with
  | nil => exact ⟨_, .refl, rfl, rfl, rfl, (List.append_nil _).symm⟩
  | cons group rest ih =>
    rw [Run.seedGroups_cons, Run.seedGroup_eq]
    rcases opening : r.openGroup calls schemas options group with ⟨e | ⟨schema, entries⟩, opened⟩
    · exact ⟨_, .single (.refuses opening), rfl, rfl⟩
    · obtain ⟨outcome, ended, inserted⟩ := Run.insertAll_eq opened calls schema.table entries
        options.maxConcurrentInserts
      obtain ⟨moves, own, same⟩ := Batch.exists_follow_eq_runAll calls schema.table entries
        ((opened.announce schema.table entries).begin options.maxConcurrentInserts)
      have moved := reaches_follow calls made schemas options
        (opened.announce schema.table entries) group schema entries
        ((opened.announce schema.table entries).begin options.maxConcurrentInserts) rest earlier
        fun m mem => (own m mem).silent
      rw [← same] at moved
      simp only [Run.andThen, inserted]
      cases outcome with
      | error e => exact ⟨_, .head (.opens opening) (moved.tail (.fails ended)), rfl, rfl⟩
      | ok u =>
        obtain ⟨p, reached, run, told⟩ := ih
          (((opened.announce schema.table entries).resume (opened.inserts calls schema.table entries
            options.maxConcurrentInserts)).commitAll group.name entries)
          (earlier ++ [⟨group.name, schema.table, entries.length⟩])
        refine ⟨p, .head (.opens opening) (moved.trans (.head (.commits ended) reached)), ?_⟩
        simp only [Except.mapError] at run told ⊢
        rcases others : Run.seedGroups _ calls schemas options rest with ⟨e | summaries, last⟩
        all_goals rw [others] at run told
        · exact ⟨run, told⟩
        · exact ⟨run, told.1, told.2.1, told.2.2.trans (List.append_assoc _ _ _)⟩

end Runs

end Progress

/-! ## What holds under every schedule -/

/-- What holds of the inserts of a group at every moment, however they move. -/
structure Batch.Governed {σ : Type} (calls : TableStore σ) (table : String) (cap : Option Nat)
    (entries : List PreparedEntry) (b : Batch σ) : Prop where
  /-- No more inserts are in flight than the cap allows, and a cap allows one at least. -/
  capped : ∀ k, cap = some k → b.fanOut.inFlight.length ≤ max k 1
  /-- No insert starts twice. -/
  once : b.started.Nodup
  /-- The group ends well exactly if each insert was started once and has ended well. -/
  ok_iff : b.result? entries.length = some (.ok ()) ↔
    ∀ i < entries.length, b.started.count i = 1 ∧ b.results.lookup i = some (.ok ())
  /-- Nothing waits while a permit is free. -/
  busy : b.fanOut.waiting ≠ [] → b.fanOut.free = some 0
  /-- As long as the group has not ended, there is an insert that goes on when it is looked at. -/
  goesOn : b.result? entries.length = none → ∃ i < entries.length,
    ((b.pause calls).move calls table (smallSize < entries.length) entries
      (.look i)).fanOut.work entries.length < b.fanOut.work entries.length
  /-- The group ends once every entry has been looked at often enough, whatever else happens. -/
  ends : ∀ rounds : List (List (Move σ)), (∀ moves ∈ rounds, Fair entries.length moves) →
    4 * entries.length ≤ rounds.length →
    ((b.follow calls table (smallSize < entries.length) entries rounds.flatten).result?
      entries.length).isSome

/-- The work of a group is at most four moves for each entry. -/
theorem FanOut.work_le (n : Nat) (f : FanOut) : f.work n ≤ 4 * n := by
  have most (i : Nat) : (f.stage i).distance ≤ 4 := by
    cases f.stage i <;> simp [Stage.distance]
  calc f.work n ≤ ∑ _i ∈ Finset.range n, 4 := Finset.sum_le_sum fun i _ => most i
    _ = 4 * n := by simp [Nat.mul_comm]

/-- Moves in any order keep the inserts of a group governed. -/
theorem Batch.Sound.governed {σ : Type} {calls : TableStore σ} {table : String} {cap : Option Nat}
    {entries : List PreparedEntry} {b : Batch σ}
    (sound : b.Sound cap (decide (smallSize < entries.length)) entries.length) :
    b.Governed calls table cap entries where
  capped := by
    rintro k rfl
    exact sound.permits.inFlight_le
  once := sound.once
  ok_iff := sound.result_ok_iff
  busy := sound.permits.waits
  goesOn unfinished := by
    obtain ⟨i, bound, active⟩ := sound.exists_active unfinished
    have paused : (b.pause calls).Sound cap (decide (smallSize < entries.length)) entries.length :=
      sound.congr rfl rfl rfl rfl rfl
    exact ⟨i, bound, paused.work_look calls table (result_eq_none_iff.mp unfinished).1 bound active
      (exhausted_pause calls b)⟩
  ends rounds fair many :=
    sound.result_of_fair calls table rounds fair ((FanOut.work_le _ _).trans many)

namespace Progress

variable {σ : Type}

/-- The calls that a run has made after those for the groups it has stored, if `before` are the
latter: only calls for the group that comes next. -/
def CallsOnly (calls : TableStore σ) (made : σ → List StoreCall) (schemas : SchemaSource)
    (options : SeedOptions) (next : Option Group) (before : List StoreCall) (p : Progress σ) :
    Prop :=
  match p.phase with
  | .idle => made p.run.store = before
  | .inserting group schema entries b => next = some group ∧
    made b.store =
      before ++ readying options.dropTables schema.table ++ b.inserts schema.table entries
  | .failed e => ∃ group own r, next = some group ∧
    Run.Fails calls schemas options (Run.AnyMoves calls made) r group e own p.run ∧
    made p.run.store = before ++ own

/-- Under every schedule of the inserts and every cap, the inserts of a group are governed, records
are committed and later groups are touched only after all inserts of a group have ended well. Runs
as they are made are runs under one such schedule. -/
theorem governed_under_every_schedule (calls : TableStore σ) (schemas : SchemaSource)
    (options : SeedOptions) (first : Run (σ × List StoreCall)) (groups : List Group) :
    (∀ p, Reaches calls.recorded Prod.snd schemas options ⟨first, .idle, groups, []⟩ p →
      (∀ group schema entries b, p.phase = .inserting group schema entries b →
        b.Governed calls.recorded schema.table options.maxConcurrentInserts entries) ∧
      ∃ stored : List (StoredGroup (σ × List StoreCall)), stored.map (·.group) <+: groups ∧
        (∀ s ∈ stored, ∀ i < s.entries.length,
          s.batch.started.count i = 1 ∧ s.batch.results.lookup i = some (.ok ())) ∧
        p.run.commits = stored.foldl StoredGroup.commit first.commits ∧
        p.CallsOnly calls.recorded Prod.snd schemas options groups[stored.length]?
          (first.store.2 ++ stored.flatMap (·.calls options.dropTables))) ∧
    ∃ p, Reaches calls.recorded Prod.snd schemas options ⟨first, .idle, groups, []⟩ p ∧
      p.EndsAs (first.seedGroups calls.recorded schemas options groups) := by
  constructor
  · intro p reached
    obtain ⟨stored, tells⟩ := exists_tells reached
    have records := calls.records_recorded
    have allOk {run : Run (σ × List StoreCall)}
        (storesAll : first.StoresAll calls.recorded schemas options
          (Run.AnyMoves calls.recorded Prod.snd) stored run) (s : StoredGroup (σ × List StoreCall))
        (mem : s ∈ stored) (i : Nat) (bound : i < s.entries.length) :
        s.batch.started.count i = 1 ∧ s.batch.results.lookup i = some (.ok ()) := by
      obtain ⟨r₁, r₂, stores⟩ := storesAll.exists_of_mem mem
      exact stores.all_ok bound
    cases tells with
    | idle same storesAll =>
      refine ⟨by simp, stored, ⟨_, same.symm⟩, allOk storesAll, storesAll.commits, ?_⟩
      exact storesAll.calls_made records
    | @inserting run opened s pending same storesAll opens moves =>
      refine ⟨?_, stored, ⟨_, same.symm⟩, allOk storesAll, opens.commits.trans storesAll.commits,
        ?_, ?_⟩
      · rintro _ _ _ _ ⟨⟩
        exact moves.sound.governed
      · rw [same, List.getElem?_append_right (by simp)]
        simp
      · rw [opens.calls_made records moves, storesAll.calls_made records, List.append_assoc,
          List.append_assoc]
        simp only [Batch.inserts, StoredGroup.calls, StoredGroup.inserted, List.map_filterMap,
          List.append_assoc]
        rfl
    | @failed run failed group e own pending same storesAll fails =>
      refine ⟨by simp, stored, ⟨_, same.symm⟩, allOk storesAll,
        fails.commits.trans storesAll.commits, group, own, run, ?_, fails, ?_⟩
      · rw [same, List.getElem?_append_right (by simp)]
        simp
      · rw [fails.calls_made records, storesAll.calls_made records]
  · obtain ⟨p, reached, told⟩ := exists_reaches_seedGroups calls.recorded Prod.snd schemas options
      first groups []
    refine ⟨p, reached, ?_⟩
    cases outcome : first.seedGroups calls.recorded schemas options groups with
    | mk result last =>
      rw [outcome] at told
      cases result with
      | error e => exact told
      | ok summaries => exact told

/-- The store in memory, but with inserts that give way once. -/
def givingWay : TableStore MemoryStore :=
  { MemoryStore.store with
    startInsert := fun _ _ s => (.givesWay, s), resumeInsert := MemoryStore.insert }

/-- With a cap of zero there is one permit: one insert of two is in flight, and the other waits. -/
theorem governed_with_one_permit :
    let schema : TableSchema := .ofKeys "users" ["id"]
    let group : Group := ⟨"Users", "users",
      [⟨"ann", [("id", .literal (.string "ann"))]⟩, ⟨"bob", [("id", .literal (.string "bob"))]⟩]⟩
    let first : Run (MemoryStore × List StoreCall) :=
      .start ⟨⟨{}, [], 0, 0⟩, ⟨0⟩, ⟨0⟩, [], 1, Lua.Meter.interval⟩ [] ({}, []) (some 128)
    let schemas : SchemaSource := .registered [("users", schema)]
    let options : SeedOptions := { maxConcurrentInserts := some 0 }
    ∃ p b, Reaches givingWay.recorded Prod.snd schemas options ⟨first, .idle, [group], []⟩ p ∧
      (∃ entries, p.phase = .inserting group schema entries b ∧
        b.Governed givingWay.recorded schema.table (some 0) entries) ∧
      b.fanOut.inFlight = [0] ∧ b.fanOut.waiting = [1] := by
  intro schema group first schemas options
  let entries : List PreparedEntry :=
    [⟨"ann", [("id", .string "ann")], ⟨[("id", .string "ann")], []⟩⟩,
      ⟨"bob", [("id", .string "bob")], ⟨[("id", .string "bob")], []⟩⟩]
  have opening : first.openGroup givingWay.recorded schemas options group =
      (.ok (schema, entries), (first.openGroup givingWay.recorded schemas options group).2) := rfl
  have steps : Reaches givingWay.recorded Prod.snd schemas options ⟨first, .idle, [group], []⟩ _ :=
    .tail (.tail (.single (.opens opening)) (.moves (.look 0) trivial)) (.moves (.look 1) trivial)
  exact ⟨_, _, steps, ⟨_, rfl, ((governed_under_every_schedule givingWay schemas options first
    [group]).1 _ steps).1 _ _ _ _ rfl⟩, rfl, rfl⟩

end Progress

end TableSeed
