import TableSeed.Proofs.FanOut.TwoStores
import TableSeed.Proofs.Seeding.Runs
import TableSeed.Proofs.Store.MemoryTables

/-!
# Runs that drop tables first

A run that drops each table before it creates it looks only at what it has put there itself. What
other runs have left in the store has no influence on it, and stays where no drop was issued.
-/

namespace TableSeed

namespace TableStore

variable {σ : Type}

end TableStore

namespace Run

variable {σ α : Type} {calls : TableStore σ} {related : σ → σ → Prop}
  {fresh : String → σ → σ → Prop} {r : Run σ} {t : σ} {options : SeedOptions} {table : String}

/-- The run on another store. -/
def onStore (r : Run σ) (t : σ) : Run σ := { r with store := t }

/-- Two parts of runs have the same result, and leave runs that differ at most in their stores,
which are related. -/
def EndAlike (related : σ → σ → Prop) (first second : α × Run σ) : Prop :=
  ∃ t, related first.2.store t ∧ second = (first.1, first.2.onStore t)

/-- Parts of a run that end alike go on alike, if what follows does. -/
theorem EndAlike.andThen {β : Type} {stepped : σ → σ → Prop}
    {first second : Except SeedError α × Run σ} {next : α → Run σ → Except SeedError β × Run σ}
    (alike : EndAlike stepped first second) (stops : ∀ s t, stepped s t → related s t)
    (goesOn : ∀ a middle t, stepped middle.store t →
      EndAlike related (next a middle) (next a (middle.onStore t))) :
    EndAlike related (Run.andThen first next) (Run.andThen second next) := by
  obtain ⟨t, kept, rfl⟩ := alike
  obtain ⟨result, middle⟩ := first
  cases result with
  | error e => exact ⟨t, stops _ _ kept, rfl⟩
  | ok a => exact goesOn a middle t kept

end Run

namespace MemoryStore

variable {s t s' t' : MemoryStore} {made : List StoreCall}

/-- Two stores after the same calls. They agree on each table that was dropped, and every other
table is still what it was. -/
structure Since (s t : MemoryStore) (made : List StoreCall) (s' t' : MemoryStore) : Prop where
  calls : s'.calls = s.calls ++ made ∧ t'.calls = t.calls ++ made
  dropped : ∀ table, .drop table ∈ made → t'.table? table = s'.table? table
  others : ∀ table, .drop table ∉ made →
    s'.table? table = s.table? table ∧ t'.table? table = t.table? table

/-- A table that is dropped is gone from both stores. -/
theorem Since.drop (since : Since s t made s' t') (name : String) :
    Since s t (made ++ [.drop name]) (drop name s').2 (drop name t').2 where
  calls := by
    rw [show (MemoryStore.drop name s').2.calls = s'.calls ++ [.drop name] from rfl,
      show (MemoryStore.drop name t').2.calls = t'.calls ++ [.drop name] from rfl,
      since.calls.1, since.calls.2, List.append_assoc, List.append_assoc]
    exact ⟨rfl, rfl⟩
  dropped table mem := by
    rw [table?_drop, table?_drop]
    split_ifs with here
    · rfl
    · exact since.dropped table (by simpa [here] using mem)
  others table not_mem := by
    obtain ⟨before, here⟩ : .drop table ∉ made ∧ table ≠ name := by simpa using not_mem
    rw [table?_drop, table?_drop, if_neg here, if_neg here]
    exact since.others table before

/-- A call that changes the tables of a name only, and these alike, keeps stores in agreement if
the table was dropped. -/
theorem Since.call (since : Since s t made s' t') {name : String} (dropped : .drop name ∈ made)
    (call : StoreCall) (other : ∀ table, call ≠ .drop table) {s'' t'' : MemoryStore}
    (calls : s''.calls = s'.calls ++ [call] ∧ t''.calls = t'.calls ++ [call])
    (here : t'.table? name = s'.table? name → t''.table? name = s''.table? name)
    (elsewhere : ∀ table ≠ name,
      s''.table? table = s'.table? table ∧ t''.table? table = t'.table? table) :
    Since s t (made ++ [call]) s'' t'' where
  calls := by
    rw [calls.1, calls.2, since.calls.1, since.calls.2, List.append_assoc, List.append_assoc]
    exact ⟨rfl, rfl⟩
  dropped table mem := by
    have before : .drop table ∈ made := by simpa [Ne.symm (other table)] using mem
    by_cases same : table = name
    · subst same
      exact here (since.dropped table before)
    · rw [(elsewhere table same).1, (elsewhere table same).2]
      exact since.dropped table before
  others table not_mem := by
    have before : .drop table ∉ made := fun mem => not_mem (List.mem_append_left _ mem)
    have apart : table ≠ name := fun same => before (same ▸ dropped)
    rw [(elsewhere table apart).1, (elsewhere table apart).2]
    exact since.others table before

end MemoryStore

end TableSeed
