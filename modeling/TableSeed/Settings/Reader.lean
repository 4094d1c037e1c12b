import TableSeed.Settings.Basic
import TableSeed.Toml.Reader

/-!
# Reading settings

Settings are written as a TOML document. Each setting has its own type of value, and names that are
no settings are passed over. The bindings are a table of any values, which come out sorted by name.
-/

namespace TableSeed.Settings

/-- The text that a value is. -/
def textOf? : Toml.Value → Option String
  | .text s => some s
  | _ => none

/-- The truth value that a value is. -/
def booleanOf? : Toml.Value → Option Bool
  | .scalar (.boolean b) => some b
  | _ => none

/-- The count that a value is: a natural number of 64 bits. -/
def countOf? : Toml.Value → Option Nat
  | .scalar (.integer n) => if 0 ≤ n && n < 0x10000000000000000 then some n.toNat else none
  | _ => none

/-- The bindings that a value is. -/
def bindingsOf? (v : Toml.Value) : Option Json.Members :=
  match v.toJson?.map Json.Value.sorted with
  | some (.object members) => some members
  | _ => none

/-- Takes account of a name and its value. -/
def set? (s : Settings) (name : String) (v : Toml.Value) : Option Settings :=
  match name with
  | "database_url" => (textOf? v).map fun t => { s with databaseUrl := some t }
  | "drop_tables" => (booleanOf? v).map fun b => { s with dropTables := b }
  | "schema_dir" => (textOf? v).map fun t => { s with schemaDir := some t }
  | "dependency_dir" => (textOf? v).map fun t => { s with dependencyDir := some t }
  | "max_concurrent_inserts" => (countOf? v).map fun n => { s with maxConcurrentInserts := some n }
  | "bindings" => (bindingsOf? v).map fun members => { s with bindings := members }
  | _ => some s

/-- Reads settings. -/
def parse? (document : String) : Option Settings := do
  (← Toml.parse? document).foldlM (fun (s : Settings) m => s.set? m.1 m.2) {}

end TableSeed.Settings
