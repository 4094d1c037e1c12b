import TableSeed.Proofs.FanOut.Completion
import TableSeed.Seeding.Run

/-!
# Steps of a run

A run is a chain of steps, and the first one that fails is the last. `Run.andThen` puts two steps
together, the parts of a run are written with it, and two lemmas take a chain apart again: a chain
that goes well has gone well at each step, and a chain that fails has failed at one step after the
others before it went well.
-/

namespace TableSeed

namespace Run

variable {σ α β : Type}

/-- Goes on after a step that went well. A step that failed is the last one. -/
def andThen (step : Except SeedError α × Run σ) (next : α → Run σ → Except SeedError β × Run σ) :
    Except SeedError β × Run σ :=
  match step with
  | (.error e, r) => (.error e, r)
  | (.ok a, r) => next a r

section Chains

variable {step : Except SeedError α × Run σ} {next : α → Run σ → Except SeedError β × Run σ}
  {last : Run σ}

/-- A chain that goes well has gone well at its first step and after it. -/
theorem andThen_eq_ok_iff {b : β} : andThen step next = (.ok b, last) ↔
    ∃ a middle, step = (.ok a, middle) ∧ next a middle = (.ok b, last) := by
  obtain ⟨result, r⟩ := step
  cases result with
  | error e => simp [andThen]
  | ok a => simp [andThen]

/-- A chain that fails has failed at its first step, or after that went well. -/
theorem andThen_eq_error_iff {e : SeedError} : andThen step next = (.error e, last) ↔
    step = (.error e, last) ∨
      ∃ a middle, step = (.ok a, middle) ∧ next a middle = (.error e, last) := by
  obtain ⟨result, r⟩ := step
  cases result with
  | error e => simp [andThen]
  | ok a => simp [andThen]

end Chains

/-! ## The parts of a run as chains -/

section Parts

variable (r : Run σ) (calls : TableStore σ) (schemas : SchemaSource) (options : SeedOptions)

/-- Entries are prepared one after the other. -/
theorem prepareAll_cons (name : String) (schema : TableSchema) (entry : Entry)
    (rest : List Entry) : r.prepareAll name schema (entry :: rest) =
      andThen (r.prepare name schema entry) fun p r =>
        andThen (r.prepareAll name schema rest) fun ps r => (.ok (p :: ps), r) := by
  rw [prepareAll]
  rcases r.prepare name schema entry with ⟨e | p, middle⟩
  · rfl
  · simp only [andThen]
    rcases middle.prepareAll name schema rest with ⟨e | ps, last⟩ <;> rfl

/-- A group is opened by dropping its table, creating it and preparing the entries. -/
theorem openGroup_eq {group : Group} {schema : TableSchema}
    (loads : schemas.load group.schema = .ok schema) : r.openGroup calls schemas options group =
      andThen (r.dropTable calls options.dropTables schema.table) fun _ r =>
        andThen (r.createTable calls schema) fun _ r =>
          andThen (r.prepareAll group.name schema group.entries) fun entries r =>
            (.ok (schema, entries), r) := by
  simp only [openGroup, loads]
  rcases r.dropTable calls options.dropTables schema.table with ⟨e | u, dropped⟩
  · rfl
  · simp only [andThen]
    rcases dropped.createTable calls schema with ⟨e | u, created⟩
    · rfl
    · simp only
      rcases created.prepareAll group.name schema group.entries with ⟨e | entries, prepared⟩ <;> rfl

/-- A group is seeded by opening it, inserting the entries and committing their records. -/
theorem seedGroup_eq (group : Group) : r.seedGroup calls schemas options group =
    andThen (r.openGroup calls schemas options group) fun opened r =>
      andThen (r.insertAll calls opened.1.table opened.2 options.maxConcurrentInserts) fun _ r =>
        (.ok ⟨group.name, opened.1.table, opened.2.length⟩, r.commitAll group.name opened.2) := by
  rw [seedGroup]
  rcases r.openGroup calls schemas options group with ⟨e | ⟨schema, entries⟩, opened⟩
  · rfl
  · simp only [andThen]
    rcases opened.insertAll calls schema.table entries options.maxConcurrentInserts with
      ⟨e | u, inserted⟩ <;> rfl

/-- Groups are seeded one after the other. -/
theorem seedGroups_cons (group : Group) (rest : List Group) :
    r.seedGroups calls schemas options (group :: rest) =
      andThen (r.seedGroup calls schemas options group) fun summary r =>
        andThen (r.seedGroups calls schemas options rest) fun summaries r =>
          (.ok (summary :: summaries), r) := by
  rw [seedGroups]
  rcases r.seedGroup calls schemas options group with ⟨e | summary, middle⟩
  · rfl
  · simp only [andThen]
    rcases middle.seedGroups calls schemas options rest with ⟨e | summaries, last⟩ <;> rfl

end Parts

/-! ## The inserts of a group -/

/-- The inserts of a group after the run itself has made them. -/
def inserts (r : Run σ) (calls : TableStore σ) (table : String) (entries : List PreparedEntry)
    (cap : Option Nat) : Batch σ :=
  ((r.announce table entries).begin cap).runAll calls table entries

/-- All inserts end, and the run goes on as they have ended. -/
theorem insertAll_eq (r : Run σ) (calls : TableStore σ) (table : String)
    (entries : List PreparedEntry) (cap : Option Nat) : ∃ outcome,
      (r.inserts calls table entries cap).result? entries.length = some outcome ∧
      r.insertAll calls table entries cap =
        (outcome.mapError (.storage table .insert),
          (r.announce table entries).resume (r.inserts calls table entries cap)) := by
  have ended : (r.inserts calls table entries cap).result? entries.length =
      some (r.inserts calls table entries cap).outcome := Batch.result_runAll _ _ _ _ _ _ _
  refine ⟨_, ended, ?_⟩
  simp only [insertAll, inserts]
  cases (((r.announce table entries).begin cap).runAll calls table entries).outcome <;> rfl

end Run

/-- Seeding binds the modules and stores the groups. -/
theorem seed_eq {σ : Type} (calls : TableStore σ) (sources : SeedSources) (document : Document)
    (options : SeedOptions) (sandbox : Sandbox) (store : σ) :
    seed calls sources document options sandbox store =
      Run.andThen ((Run.start sandbox options.bindings store calls.fullAllowance).loadDependencies
          ⟨sources.files, options.dependencyDir⟩ document.dependencies) fun dependencies r =>
        Run.andThen (r.seedGroups calls sources.schemas options document.groups) fun groups r =>
          (.ok ⟨groups, dependencies⟩, r) := by
  rw [seed]
  rcases (Run.start sandbox options.bindings store calls.fullAllowance).loadDependencies _ _ with
    ⟨e | dependencies, begun⟩
  · rfl
  · simp only [Run.andThen]
    rcases begun.seedGroups calls sources.schemas options document.groups with
      ⟨e | groups, last⟩ <;> rfl

end TableSeed
