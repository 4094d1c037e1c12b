import TableSeed.Proofs.Seeding.Failures
import TableSeed.Proofs.Store.MemoryTables

/-!
# Groups on a store whose inserts never give way

On such a store a run inserts the entries of each group one after the other, in an order that
depends only on the cap, the number of entries of the group and the number of entries of the groups
before it.
-/

namespace TableSeed

/-- The permits that are left before the next pause once `n` entries have been inserted. Without a
cap no permits are taken. -/
def leftAfter (cap : Option Nat) (full left n : Nat) : Nat :=
  if cap.isSome then permitsLeft full left n else left

/-- Entries may be inserted in two steps. -/
theorem leftAfter_add (cap : Option Nat) (full left m n : Nat) :
    leftAfter cap full (leftAfter cap full left m) n = leftAfter cap full left (m + n) := by
  unfold leftAfter
  split_ifs
  · exact permitsLeft_add full left m n
  · rfl

/-- The number of entries of some groups. -/
def entryCount {σ : Type} (stored : List (StoredGroup σ)) : Nat :=
  (stored.map (·.entries.length)).sum

namespace StoredGroup

variable {σ : Type} {s : StoredGroup σ}

/-- Entries that were inserted in an order of their positions. -/
theorem inserted_eq {order : List Nat} (same : s.batch.started.reverse = order) :
    s.inserted = order.filterMap (s.entries[·]?) := by
  rw [inserted, same]

/-- The entries at the first positions are the first entries. -/
theorem filterMap_range_take {α : Type} (entries : List α) (n : Nat) :
    (List.range n).filterMap (entries[·]?) = entries.take n := by
  induction n with
  | zero => rfl
  | succ n ih =>
    rw [List.range_succ, List.filterMap_append, ih, List.take_add_one]
    rfl

/-- The entries at all positions are all entries. -/
theorem filterMap_range {α : Type} (entries : List α) :
    (List.range entries.length).filterMap (entries[·]?) = entries := by
  rw [filterMap_range_take, List.take_length]

/-- Entries that were inserted in an order of all positions were each inserted once. -/
theorem inserted_perm {cap : Option Nat} {full left : Nat}
    (order : s.inserted = (insertionOrder cap full left s.entries.length).filterMap
      (s.entries[·]?)) : s.inserted.Perm s.entries := by
  have perm := (insertionOrder_perm cap full left s.entries.length).filterMap (s.entries[·]?)
  rwa [← order, filterMap_range] at perm

end StoredGroup

namespace Run

section Courses

variable {σ : Type} {calls : TableStore σ} {schemas : SchemaSource} {options : SeedOptions}
  {insert : String → Item → σ → Except StoreError Unit × σ} {full left : Nat} {r r' : Run σ}
  {s : StoredGroup σ} {stored before after : List (StoredGroup σ)}

/-- A group whose entries were inserted has taken its course. -/
theorem Opens.course {opened : Run σ} (immediate : calls.Immediate insert)
    (allowance : calls.allowance = some full) (left_eq : r.allowance = some left)
    (opens : r.Opens calls schemas options s.group s.schema s.entries opened)
    (own : OwnMoves calls s.table s.entries
      ((opened.announce s.table s.entries).begin options.maxConcurrentInserts) s.batch) :
    Batch.Course (insert s.table) s.entries options.maxConcurrentInserts full left
      ((opened.announce s.table s.entries).begin options.maxConcurrentInserts) s.batch := by
  have begun : (opened.announce s.table s.entries).allowance = some left :=
    opens.allowance.trans left_eq
  have course := Batch.course_runAll immediate allowance s.table s.entries
    options.maxConcurrentInserts (opened.announce s.table s.entries).store
    (opened.announce s.table s.entries).log left
  rw [← begun] at course
  exact own ▸ course

/-- A stored group has inserted its entries in order, and has used up permits. -/
theorem Stores.order (immediate : calls.Immediate insert) (allowance : calls.allowance = some full)
    (left_eq : r.allowance = some left)
    (stores : r.Stores calls schemas options (OwnMoves calls) s r') :
    s.batch.started.reverse =
        insertionOrder options.maxConcurrentInserts full left s.entries.length ∧
      r'.allowance = some (leftAfter options.maxConcurrentInserts full left s.entries.length) := by
  obtain ⟨⟨opened, opens, own, rfl⟩, ok⟩ := stores
  rw [(commitAll_frame _ _ _).2.2.1]
  exact (opens.course immediate allowance left_eq own).complete (Batch.failure_of_result_ok ok)

/-- Stored groups have used up permits. -/
theorem StoresAll.allowance (immediate : calls.Immediate insert)
    (allowance : calls.allowance = some full) (left_eq : r.allowance = some left)
    (storesAll : r.StoresAll calls schemas options (OwnMoves calls) stored r') :
    r'.allowance = some (leftAfter options.maxConcurrentInserts full left (entryCount stored)) := by
  induction storesAll generalizing left with
  | nil => simp [leftAfter, permitsLeft, entryCount, left_eq]
  | @cons r r' r'' s stored stores _ ih =>
    rw [ih (stores.order immediate allowance left_eq).2, leftAfter_add]
    rfl

/-- Each of the stored groups has inserted its entries in an order that depends on the entries
before it. -/
theorem StoresAll.inserted (immediate : calls.Immediate insert)
    (allowance : calls.allowance = some full) (left_eq : r.allowance = some left)
    (storesAll : r.StoresAll calls schemas options (OwnMoves calls) (before ++ s :: after) r') :
    s.inserted = (insertionOrder options.maxConcurrentInserts full
      (leftAfter options.maxConcurrentInserts full left (entryCount before))
      s.entries.length).filterMap (s.entries[·]?) := by
  obtain ⟨middle, first, rest⟩ := storesAll.split
  cases rest with
  | cons stores _ =>
    exact StoredGroup.inserted_eq
      (stores.order immediate allowance (first.allowance immediate allowance left_eq)).1

end Courses

end Run

/-! ## More entries than permits -/

/-- A group of numbered entries in a table of its name. -/
def numbered (name : String) (n : Nat) : Group where
  name := name
  schema := name
  entries := (List.range n).map fun i => ⟨toString i, [("id", .literal (.string (toString i)))]⟩

/-- The schemas of the groups of a document, each with a table of the group's name. -/
def ownTables (document : Document) : SeedSources where
  schemas := .registered (document.groups.map fun g => (g.schema, .ofKeys g.name ["id"]))
  files := {}

/-- A sandbox without any tables, which is enough for records without expressions. -/
def bareSandbox : Sandbox where
  world := { heap := {}, now := 0, entropy := 0 }
  globals := ⟨0⟩
  bindings := ⟨0⟩

end TableSeed
