import TableSeed.Proofs.Seeding.Runs
import TableSeed.Proofs.Seeding.Tables

/-!
# Runs that go well

A run on the store in memory that goes well has made exactly the calls that its groups ask for, and
leaves in each table what it held before, unless it was dropped, and the items of its groups.
-/

namespace TableSeed

section Success

variable {sources : SeedSources} {document : Document} {options : SeedOptions} {sandbox : Sandbox}
  {store : MemoryStore} {summary : SeedSummary} {r r' : Run MemoryStore} {left : Nat}
  {s : StoredGroup MemoryStore} {stored before after : List (StoredGroup MemoryStore)}
  {schemas : SchemaSource}

/-- A group among others is prepared against the records of those before it. -/
theorem PreparesGroups.split {commits : Commits} {t t' : Sandbox}
    (prepares : PreparesGroups commits t (before ++ s :: after) t') :
    ∃ s₀ s₁, PreparesAll (before.foldl StoredGroup.commit commits) s.schema s₀ s.group.entries
      s.entries s₁ := by
  induction before generalizing commits t with
  | nil =>
    cases prepares with
    | cons _ first _ => exact ⟨_, _, first⟩
  | cons g before ih =>
    cases prepares with
    | cons _ _ rest => exact ih rest

/-- A stored group was opened with its schema. -/
theorem Run.StoresAll.loads {σ : Type} {calls : TableStore σ} {r r' : Run σ}
    {s : StoredGroup σ} {stored : List (StoredGroup σ)}
    {ends : String → List PreparedEntry → Batch σ → Batch σ → Prop}
    (storesAll : r.StoresAll calls schemas options ends stored r') (mem : s ∈ stored) :
    schemas.load s.group.schema = .ok s.schema := by
  obtain ⟨_, _, ⟨_, opens, -, -⟩, -⟩ := storesAll.exists_of_mem mem
  exact opens.loads

end Success

end TableSeed
