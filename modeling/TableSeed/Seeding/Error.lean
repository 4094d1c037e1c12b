import TableSeed.Commits.Basic
import TableSeed.Expression.Modules
import TableSeed.Schema.Source
import TableSeed.Store.Basic
import TableSeed.Wording

/-!
# Errors of a run

A run ends at its first error, which names the step that failed.
-/

namespace TableSeed

/-- A call of the store. -/
inductive StoreOperation where
  | dropTable | createTable | insert
  deriving DecidableEq, Repr

namespace StoreOperation

/-- The name of the call in messages. -/
def name : StoreOperation → String
  | .dropTable => "drop table"
  | .createTable => "create table"
  | .insert => "insert"

end StoreOperation

/-- Why a run ends early. -/
inductive SeedError where
  | dependency (e : DependencyError)
  | schema (group : String) (e : SchemaSourceError)
  | reference (group entry : String) (e : ReferenceError)
  | split (group entry : String) (e : SplitError)
  | storage (table : String) (operation : StoreOperation) (e : StoreError)
  /-- A helper could not go on, which ends the run on the spot. -/
  | aborted

namespace SeedError

/-- The message of what caused the error, outermost first. -/
def causes (w : Wording) : SeedError → List String
  | .dependency e => [e.message w.moduleFile w.expression]
  | .schema _ e => e.chain w.file w.json
  | .reference _ _ e => [e.message]
  | .split _ _ e => [e.message]
  | .storage _ _ e => e.chain w.database w.json
  | .aborted => []

/-- Where the run failed. -/
def place : SeedError → String
  | .dependency _ => ""
  | .schema group _ => s!"group '{group}': failed to load schema: "
  | .reference group entry _ => s!"entry '{group}.{entry}': "
  | .split group entry _ => s!"entry '{group}.{entry}': "
  | .storage table operation _ => s!"table '{table}': {operation.name} failed: "
  | .aborted => "aborted"

/-- The message of the error. -/
def message (w : Wording) (e : SeedError) : String := e.place ++ ": ".intercalate (e.causes w)

/-- The message of the error and, again, those of what caused it. -/
def chain (w : Wording) (e : SeedError) : List String := e.message w :: e.causes w

end SeedError

end TableSeed
