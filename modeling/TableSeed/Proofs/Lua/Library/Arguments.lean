import TableSeed.Lua.Arguments
import TableSeed.Proofs.Lua.ActionReach

/-!
# Arguments of library functions

Arguments that lie within a set of tables are read into values that lie there.
-/

namespace TableSeed.Lua

open TableSeed.Lua.Action

variable {R : Reach}

namespace Arguments

/-- The arguments refer to no table outside of a set. -/
def Within (R : Reach) (args : Arguments) : Prop := Value.AllWithin R args.values

variable {α : Type} {Q : α → Prop} {args : Arguments}

/-- Each argument is within reach, and one that is missing is nil. -/
theorem Within.value (within : args.Within R) (i : Nat) : (args.value i).Within R :=
  Value.AllWithin.getD within _

variable (args) (i : Nat)

/-- A bad argument is a message without references. -/
@[simp] theorem within_bad (why : String) : (args.bad i why : Action α).Within R Q := trivial

/-- A mismatch of types is a message without references. -/
@[simp] theorem within_mismatch (expected : String) :
    (args.mismatch i expected : Action α).Within R Q := trivial

/-- Any argument is accepted if it is there. -/
@[simp] theorem within_any {P : Value → Prop} :
    (args.any i).Within R P ↔ (args.has i → P (args.value i)) := by
  unfold Arguments.any
  split <;> simp [*]

/-- A numeric argument is the number that it stands for. -/
@[simp] theorem within_num {P : Num → Prop} :
    (args.num i).Within R P ↔ ∀ n, (args.value i).toNum? = some n → P n := by
  unfold Arguments.num
  split <;> simp [*]

/-- An integer argument is the integer that its number stands for. -/
@[simp] theorem within_int {P : Int64 → Prop} :
    (args.int i).Within R P ↔
      ∀ n, (args.value i).toNum?.bind Num.toInt64? = some n → P n := by
  unfold Arguments.int
  split
  · split <;> simp [*]
  · simp [*]

/-- An integer argument that may be missing has a default. -/
@[simp] theorem within_intOr (default : Int64) {P : Int64 → Prop} :
    (args.intOr i default).Within R P ↔
      ∀ n, (if args.isAbsent i then some default else
        (args.value i).toNum?.bind Num.toInt64?) = some n → P n := by
  unfold Arguments.intOr
  split <;> simp

/-- A float argument is its number as a float. -/
@[simp] theorem within_float {P : Binary64 → Prop} :
    (args.float i).Within R P ↔ ∀ n, (args.value i).toNum? = some n → P n.toBinary64 := by
  simp [Arguments.float]

/-- A string argument is the text that it stands for. -/
@[simp] theorem within_bytes {P : Bytes → Prop} :
    (args.bytes i).Within R P ↔ ∀ s, (args.value i).toBytes? = some s → P s := by
  unfold Arguments.bytes
  split <;> simp [*]

/-- A string argument that may be missing has a default. -/
@[simp] theorem within_bytesOr (default : Bytes) {P : Bytes → Prop} :
    (args.bytesOr i default).Within R P ↔
      ∀ s, (if args.isAbsent i then some default else (args.value i).toBytes?) = some s → P s := by
  unfold Arguments.bytesOr
  split <;> simp

/-- A table argument is that table. -/
@[simp] theorem within_table {P : TableRef → Prop} :
    (args.table i).Within R P ↔ ∀ t, args.value i = .table t → P t := by
  unfold Arguments.table
  split <;> simp_all

/-- A table argument within the set. -/
theorem Within.table {args : Arguments} (within : args.Within R) (i : Nat) :
    (args.table i).Within R R.tables := by
  rw [within_table]
  intro t isTable
  exact (Value.within_table t).mp (isTable ▸ within.value i)

end Arguments

/-- Doing something for each item of a list in turn. -/
theorem Action.forM_within {α : Type} (xs : List α) {f : α → Action PUnit}
    (each : ∀ x ∈ xs, (f x).Within R fun _ => True) : (xs.forM f).Within R fun _ => True := by
  induction xs with
  | nil => trivial
  | cons x rest ih =>
    exact (each x (List.mem_cons_self ..)).bind fun _ _ =>
      ih fun y mem => each y (List.mem_cons_of_mem _ mem)

/-- A fold of actions stays within reach if each step keeps the condition. -/
theorem Action.foldlM_within {α β : Type} {xs : List α} {f : β → α → Action β} {P : β → Prop} {b : β}
    (first : P b) (each : ∀ b x, P b → (f b x).Within R P) : (xs.foldlM f b).Within R P := by
  induction xs generalizing b with
  | nil => exact first
  | cons x rest ih => exact (each b x first).bind fun _ next => ih next

/-- Actions over a list stay within reach if each of them does. -/
theorem Action.mapM_within {α β : Type} (xs : List α) {f : α → Action β}
    (each : ∀ x, (f x).Within R fun _ => True) : (xs.mapM f).Within R fun _ => True := by
  have looped (found : List β) : (List.mapM.loop f xs found).Within R fun _ => True := by
    induction xs generalizing found with
    | nil => trivial
    | cons x rest ih => exact (each x).bind fun y _ => ih (y :: found)
  exact looped []

end TableSeed.Lua
