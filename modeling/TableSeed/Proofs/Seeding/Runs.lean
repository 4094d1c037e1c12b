import TableSeed.Proofs.Commits.Records
import TableSeed.Proofs.Seeding.Courses

/-!
# Whole runs

A run first binds the given values and the modules of the document, which makes no call. Then it
stores groups until one fails or all are stored. The entries of each group are resolved against the
records of the groups before it, in the sandbox that those have left.
-/

namespace TableSeed

/-- The groups are prepared one after the other, each against the records that are committed before
it, in the sandbox that the one before has left but for the log. -/
inductive PreparesGroups {σ : Type} :
    Commits → Sandbox → List (StoredGroup σ) → Sandbox → Prop where
  | nil {commits : Commits} {s s' : Sandbox} : s.SameButLog s' → PreparesGroups commits s [] s'
  | cons {commits : Commits} {s s₀ s₁ s' : Sandbox} {g : StoredGroup σ}
    {rest : List (StoredGroup σ)} : s.SameButLog s₀ →
    PreparesAll commits g.schema s₀ g.group.entries g.entries s₁ →
    PreparesGroups (g.commit commits) s₁ rest s' → PreparesGroups commits s (g :: rest) s'

/-- The sandbox in which a run binds modules: the given values are bound. -/
def boundSandbox (options : SeedOptions) (sandbox : Sandbox) : Sandbox :=
  options.bindings.foldl (fun s b => (s.bindJson b.1 b.2).1) sandbox

/-- A run has bound the given values and the modules of the document. -/
structure Begins {σ : Type} (calls : TableStore σ) (sources : SeedSources) (document : Document)
    (options : SeedOptions) (sandbox : Sandbox) (store : σ) (dependencies : Nat) (r : Run σ) :
    Prop where
  bound : (boundSandbox options sandbox).loadAll ⟨sources.files, options.dependencyDir⟩
    document.dependencies = (.ok dependencies, r.sandbox)
  commits : r.commits = {}
  store : r.store = store
  allowance : r.allowance = calls.fullAllowance

/-- The error of a run whose modules are not bound. -/
def SeedError.ofDependency : DependencyError → SeedError
  | .execution _ _ .aborted => .aborted
  | e => .dependency e

section Whole

variable {σ : Type} {calls : TableStore σ} {sources : SeedSources} {document : Document}
  {options : SeedOptions} {sandbox : Sandbox} {store : σ} {summary : SeedSummary} {e : SeedError}
  {r r' : Run σ} {stored : List (StoredGroup σ)} {schemas : SchemaSource}

/-- What is left but for the log prepares groups alike. -/
theorem PreparesGroups.of_sameButLog {commits : Commits} {s s' t : Sandbox}
    (same : s.SameButLog s') (prepares : PreparesGroups commits s' stored t) :
    PreparesGroups commits s stored t := by
  cases prepares with
  | nil log => exact .nil (Run.sameButLog_trans same log)
  | cons log first rest => exact .cons (Run.sameButLog_trans same log) first rest

/-- Groups that are stored are prepared one after the other. -/
theorem Run.StoresAll.prepares
    {ends : String → List PreparedEntry → Batch σ → Batch σ → Prop}
    (storesAll : r.StoresAll calls schemas options ends stored r') :
    PreparesGroups r.commits r.sandbox stored r'.sandbox := by
  induction storesAll with
  | nil => exact .nil (Run.sameButLog_refl _)
  | @cons r middle r'' s stored stores _ ih =>
    rw [stores.commits] at ih
    obtain ⟨⟨opened, opens, -, rfl⟩, -⟩ := stores
    obtain ⟨s₀, log, prepares⟩ := opens.prepares
    refine .cons log prepares (ih.of_sameButLog ?_)
    exact Run.sameButLog_trans ⟨_, rfl⟩ (Run.commitAll_frame _ _ _).2.2.2

/-- Binding the modules of a document changes the sandbox only. -/
theorem Run.loadDependencies_frame (r : Run σ) (directory : ModuleDirectory)
    (dependencies : List Dependency) :
    r.loadDependencies directory dependencies =
      ((r.sandbox.loadAll directory dependencies).1.mapError SeedError.ofDependency,
        { r with sandbox := (r.sandbox.loadAll directory dependencies).2 }) := by
  unfold Run.loadDependencies
  cases r.sandbox.loadAll directory dependencies with
  | mk result sandbox =>
    cases result with
    | ok n => rfl
    | error e =>
      cases e with
      | execution name moduleName cause => cases cause <;> rfl
      | notFound | read | emptyModule => rfl

/-- A run ends before its first group if a module is not bound, and otherwise it seeds its groups. -/
theorem seed_cases (calls : TableStore σ) (sources : SeedSources) (document : Document)
    (options : SeedOptions) (sandbox : Sandbox) (store : σ) :
    (∃ (cause : DependencyError) (r : Run σ),
      (boundSandbox options sandbox).loadAll ⟨sources.files, options.dependencyDir⟩
        document.dependencies = (.error cause, r.sandbox) ∧ r.store = store ∧ r.commits = {} ∧
      seed calls sources document options sandbox store = (.error (.ofDependency cause), r)) ∨
    ∃ (dependencies : Nat) (begun : Run σ),
      Begins calls sources document options sandbox store dependencies begun ∧
      seed calls sources document options sandbox store =
        Run.andThen (begun.seedGroups calls sources.schemas options document.groups) fun groups r =>
          (.ok ⟨groups, dependencies⟩, r) := by
  rw [seed_eq, Run.loadDependencies_frame]
  cases loaded : (boundSandbox options sandbox).loadAll ⟨sources.files, options.dependencyDir⟩
      document.dependencies with
  | mk result bound =>
    have started : (Run.start sandbox options.bindings store calls.fullAllowance).sandbox.loadAll
        ⟨sources.files, options.dependencyDir⟩ document.dependencies = (result, bound) := loaded
    rw [started]
    cases result with
    | error cause => exact .inl ⟨cause, _, rfl, rfl, rfl, rfl⟩
    | ok dependencies => exact .inr ⟨dependencies, _, ⟨loaded, rfl, rfl, rfl⟩, rfl⟩

/-- A run that goes well has bound its modules and stored all groups. -/
theorem seed_ok (ok : seed calls sources document options sandbox store = (.ok summary, r)) :
    ∃ (begun : Run σ) (stored : List (StoredGroup σ)),
      Begins calls sources document options sandbox store summary.dependencies begun ∧
      begun.StoresAll calls sources.schemas options (Run.OwnMoves calls) stored r ∧
      stored.map (·.group) = document.groups ∧ stored.map (·.summary) = summary.groups := by
  rcases seed_cases calls sources document options sandbox store with
    ⟨cause, _, -, -, -, same⟩ | ⟨dependencies, begun, begins, same⟩
  · rw [same] at ok
    cases ok
  · rw [same, Run.andThen_eq_ok_iff] at ok
    obtain ⟨groups, last, storing, ok⟩ := ok
    cases ok
    obtain ⟨stored, storesAll, same, told⟩ := Run.seedGroups_ok storing
    exact ⟨begun, stored, begins, storesAll, same, told⟩

/-- A run that fails has not bound its modules, or has stored groups up to one that fails. -/
theorem seed_error (error : seed calls sources document options sandbox store = (.error e, r)) :
    (∃ cause, (boundSandbox options sandbox).loadAll ⟨sources.files, options.dependencyDir⟩
        document.dependencies = (.error cause, r.sandbox) ∧ e = .ofDependency cause ∧
        r.store = store ∧ r.commits = {}) ∨
      ∃ (dependencies : Nat) (begun middle : Run σ) (stored : List (StoredGroup σ)) (group : Group)
        (rest : List Group) (own : List StoreCall),
        Begins calls sources document options sandbox store dependencies begun ∧
        document.groups = stored.map (·.group) ++ group :: rest ∧
        begun.StoresAll calls sources.schemas options (Run.OwnMoves calls) stored middle ∧
        middle.Fails calls sources.schemas options (Run.OwnMoves calls) group e own r := by
  rcases seed_cases calls sources document options sandbox store with
    ⟨cause, _, failed, store', commits, same⟩ | ⟨dependencies, begun, begins, same⟩
  · rw [same] at error
    cases error
    exact .inl ⟨cause, failed, rfl, store', commits⟩
  · rw [same, Run.andThen_eq_error_iff] at error
    rcases error with storing | ⟨groups, last, -, error⟩
    · obtain ⟨stored, middle, group, rest, own, same, storesAll, fails⟩ := Run.seedGroups_error storing
      exact .inr ⟨dependencies, begun, middle, stored, group, rest, own, begins, same, storesAll,
        fails⟩
    · cases error

end Whole

end TableSeed
