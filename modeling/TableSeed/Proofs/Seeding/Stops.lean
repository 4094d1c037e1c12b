import TableSeed.Proofs.Seeding.Runs

/-!
# Runs that fail

A run on a store whose inserts never give way stops at its first step that fails. The calls that it
has made by then are those of the steps before, and the one that failed. Only among the inserts of
a large group may others have come before the one that failed first, if permits ran out.
-/

namespace TableSeed

namespace Batch

variable {σ : Type} {insert : Item → σ → Except StoreError Unit × σ}
  {entries : List PreparedEntry} {cap : Option Nat} {full left k n : Nat} {e : StoreError}
  {results : List (Nat × Except StoreError Unit)}

/-- Inserts end with the first at which an entry has failed and all entries before it have been
inserted. -/
def Soonest (results : List (Nat × Except StoreError Unit)) : Prop :=
  ∃ i result rest, results = (i, result) :: rest ∧
    ∀ k e, rest.lookup k = some (.error e) → ∃ j < k, rest.lookup j = none

/-- Inserts were made one after the other in a given order until the failure of an entry could be
told. -/
structure BreaksOff (insert : Item → σ → Except StoreError Unit × σ) (entries : List PreparedEntry)
    (order : List Nat) (store : σ) (last : Batch σ) (k : Nat) (e : StoreError) : Prop where
  inserted : Inserted insert entries store last.results last.store
  started : last.started = last.results.map Prod.fst
  inTurn : last.started.reverse <+: order
  failed : last.results.lookup k = some (.error e)
  /-- It is the first entry that failed. -/
  earlier : ∀ j < k, last.results.lookup j = some (.ok ())
  soonest : Soonest last.results
  /-- In the order of the entries its insert is the last one. -/
  inOrder : order = List.range entries.length → last.started.reverse = List.range (k + 1)

/-- An entry has no result exactly if its insert has not ended. -/
theorem lookup_eq_none_iff (j : Nat) : results.lookup j = none ↔ j ∉ results.map Prod.fst := by
  rw [← Option.not_isSome_iff_eq_none, List.lookup_isSome_iff]
  simp

/-- If entries are inserted in their order, the one that fails is the last one, and all before it
were inserted. -/
theorem Soonest.inOrder (soonest : Soonest results)
    (order : (results.map Prod.fst).reverse <+: List.range n)
    (failed : results.lookup k = some (.error e)) :
    (results.map Prod.fst).reverse = List.range (k + 1) ∧
      ∀ j < k, results.lookup j = some (.ok ()) := by
  obtain ⟨i, result, rest, rfl, untold⟩ := soonest
  have begun : (rest.map Prod.fst).reverse ++ [i] = List.range (rest.length + 1) := by
    have taken := List.prefix_iff_eq_take.mp order
    rw [List.take_range, Nat.min_eq_left (by simpa using order.length_le)] at taken
    simpa using taken
  rw [List.range_succ] at begun
  obtain ⟨before, same⟩ := List.append_inj' begun rfl
  obtain rfl : i = rest.length := List.singleton_inj.mp same
  have ended {j : Nat} (earlier : j < rest.length) : rest.lookup j ≠ none := by
    rw [Ne, lookup_eq_none_iff, not_not, ← List.mem_reverse, before]
    exact List.mem_range.mpr earlier
  have bound {j : Nat} {r : Except StoreError Unit} (found : rest.lookup j = some r) :
      j < rest.length := by
    by_contra late
    rw [(lookup_eq_none_iff j).mpr] at found
    · cases found
    · rw [← List.mem_reverse, before, List.mem_range]
      exact late
  have well {j : Nat} (early : j < rest.length) : rest.lookup j = some (.ok ()) := by
    cases found : rest.lookup j with
    | none => exact absurd found (ended early)
    | some r =>
      cases r with
      | ok u => rfl
      | error e =>
        obtain ⟨j', earlier, missing⟩ := untold j e found
        exact absurd missing (ended (earlier.trans early))
  have last : k = rest.length := by
    rw [List.lookup_cons] at failed
    by_contra other
    rw [beq_false_of_ne other] at failed
    have early := bound failed
    rw [well early] at failed
    cases failed
  subst last
  refine ⟨?_, fun j early => ?_⟩
  · rw [List.map_cons, List.reverse_cons, before, List.range_succ]
  · rw [List.lookup_cons, beq_false_of_ne early.ne]
    exact well early

end Batch

namespace Run

variable {σ : Type}

/-- A group fails on a store whose inserts never give way: the error, the calls that were made for
the group and the run afterwards. -/
inductive StopsIn (calls : TableStore σ) (insert : String → Item → σ → Except StoreError Unit × σ)
    (schemas : SchemaSource) (options : SeedOptions) (left : Nat) (r : Run σ) (group : Group) :
    SeedError → List StoreCall → Run σ → Prop where
  /-- A step before the inserts fails. -/
  | early {e : SeedError} {own : List StoreCall} {r' : Run σ} :
    r.Refuses calls schemas options group e own r'.store →
    StopsIn calls insert schemas options left r group e own r'
  /-- The insert of an entry fails. -/
  | insert {s : StoredGroup σ} {opened r' : Run σ} {k : Nat} {e : StoreError} :
    s.group = group → r.Opens calls schemas options s.group s.schema s.entries opened →
    OwnMoves calls s.table s.entries
      ((opened.announce s.table s.entries).begin options.maxConcurrentInserts) s.batch →
    s.batch.BreaksOff (insert s.table) s.entries
      (insertionOrder options.maxConcurrentInserts 128 left s.entries.length) opened.store k e →
    (options.maxConcurrentInserts = none ∨ s.entries.length ≤ Batch.smallSize ∨
      s.entries.length ≤ left → s.inserted = s.entries.take (k + 1)) →
    r'.store = s.batch.store →
    StopsIn calls insert schemas options left r group (.storage s.table .insert e)
      (s.calls options.dropTables) r'

end Run

/-- A run on a store whose inserts never give way fails: the error, the calls that were made and the
run afterwards. -/
inductive Halts {σ : Type} (calls : TableStore σ)
    (insert : String → Item → σ → Except StoreError Unit × σ) (sources : SeedSources)
    (document : Document) (options : SeedOptions) (sandbox : Sandbox) (store : σ) :
    SeedError → List StoreCall → Run σ → Prop where
  /-- A module is not bound. -/
  | dependency {cause : DependencyError} {r : Run σ} :
    (boundSandbox options sandbox).loadAll ⟨sources.files, options.dependencyDir⟩
      document.dependencies = (.error cause, r.sandbox) → r.store = store →
    Halts calls insert sources document options sandbox store (.ofDependency cause) [] r
  /-- A group fails after those before it were stored. -/
  | group {dependencies : Nat} {begun middle r : Run σ} {stored : List (StoredGroup σ)}
    {group : Group} {rest : List Group} {e : SeedError} {own : List StoreCall} :
    Begins calls sources document options sandbox store dependencies begun →
    document.groups = stored.map (·.group) ++ group :: rest →
    begun.StoresAll calls sources.schemas options (Run.OwnMoves calls) stored middle →
    (∀ before s after, stored = before ++ s :: after →
      s.inserted = (insertionOrder options.maxConcurrentInserts 128
        (leftAfter options.maxConcurrentInserts 128 128 (entryCount before))
        s.entries.length).filterMap (s.entries[·]?)) →
    middle.StopsIn calls insert sources.schemas options
      (leftAfter options.maxConcurrentInserts 128 128 (entryCount stored)) group e own r →
    Halts calls insert sources document options sandbox store e
      (stored.flatMap (·.calls options.dropTables) ++ own) r

section Errors

variable {σ : Type} {calls : TableStore σ}
  {insert : String → Item → σ → Except StoreError Unit × σ} {sources : SeedSources}
  {document : Document} {options : SeedOptions} {sandbox : Sandbox} {store : σ} {e : SeedError}
  {r r' : Run σ} {group : Group} {own : List StoreCall} {left : Nat}

/-- The calls of a run that fails are those that its store has recorded. -/
theorem Halts.calls_made {made : σ → List StoreCall} (records : calls.Records made)
    (halts : Halts calls insert sources document options sandbox store e own r) :
    made r.store = made store ++ own := by
  cases halts with
  | dependency _ same => rw [same, List.append_nil]
  | @group dependencies begun middle _ stored _ rest _ own begins _ storesAll _ stops =>
    have called := (storesAll.mono fun _ _ _ _ => Run.anyMoves_of_ownMoves).calls_made records
    rw [begins.store] at called
    rw [← List.append_assoc, ← called]
    cases stops with
    | early refuses => exact refuses.calls_made records
    | insert _ opens moves _ _ same =>
      rw [same]
      exact opens.calls_made records (Run.anyMoves_of_ownMoves moves)

end Errors

end TableSeed
