import TableSeed.Lua.Library.Basics
import TableSeed.Proofs.Lua.Library.Arguments

/-!
# What basic functions reach

A basic function asks only for tables that its arguments refer to, and its results refer to no others.
-/

namespace TableSeed.Lua

open TableSeed.Lua.Action

variable {R : Reach}

namespace Basics

variable {args : Arguments}

/-- Failing with a value stays within reach. -/
theorem raise_within {v : Value} (value : v.Within R) (level : Int64) :
    (raise v level).Within R (Value.AllWithin R) := by
  unfold raise
  split
  · rw [within_ite]
    exact ⟨fun _ => ⟨trivial, fun _ _ => trivial⟩, fun _ => trivial⟩
  · exact value

/-- An assertion gives its arguments on or fails with one of them. -/
theorem assert_within (within : args.Within R) : (assert args).Within R (Value.AllWithin R) := by
  simp only [assert, within_bind, within_ite, Arguments.within_any, within_pure]
  intro _
  exact ⟨fun _ => within, fun _ => ⟨fun _ => raise_within (within.value 2) 1,
    fun _ => raise_within (Value.within_ofText _) 1⟩⟩

/-- The metatable of a value within reach, or its protecting field, is within reach. -/
theorem getmetatable_within (within : args.Within R) :
    (getmetatable args).Within R (Value.AllWithin R) := by
  simp only [getmetatable, within_bind, Arguments.within_any]
  intro _
  have value := within.value 1
  generalize args.value 1 = v at value
  cases v with
  | table t =>
    rw [within_bind, within_request]
    refine ⟨value, fun metatable meets => ?_⟩
    cases metatable with
    | none => simp
    | some m =>
      simp only [within_bind, within_get, within_pure, Value.allWithin_cons, Value.allWithin_nil,
        and_true]
      refine ⟨meets m rfl, fun shown read => ?_⟩
      split
      · exact meets m rfl
      · exact read
  | _ => simp

/-- Setting a metatable stays within reach. -/
theorem setmetatable_within (within : args.Within R) :
    (setmetatable args).Within R (Value.AllWithin R) := by
  refine (within.table 1).bind fun t table => ?_
  have given (m : Option TableRef) (meets : ∀ r, m = some r → R r) :
      (do
        let shown ← Value.metafield (.table t) .metatable
        if shown.isNil then
          request (.setMetatable t m)
          return [.table t]
        else complain "cannot change a protected metatable" : Action (List Value)).Within R
        (Value.AllWithin R) := by
    refine (Value.metafield_within (v := .table t) table _).bind fun shown _ => ?_
    rw [within_ite, within_bind]
    exact ⟨fun _ => ⟨⟨table, meets⟩, fun _ _ => by simpa using table⟩, fun _ => trivial⟩
  have value := within.value 2
  split
  · rename_i m isTable
    exact given (some m) fun r found => by
      cases found
      exact (Value.within_table m).mp (isTable ▸ value)
  · split
    · exact given none nofun
    · trivial
  · trivial

/-- The next entry of a table within reach is within reach. -/
theorem next_within (within : args.Within R) : (next args).Within R (Value.AllWithin R) := by
  refine (within.table 1).bind fun t table => ?_
  dsimp only
  rw [within_ite]
  constructor
  · intro _
    rw [within_bind, within_request]
    refine ⟨table, fun found reached => ?_⟩
    split
    · simpa using reached _ rfl
    · simp
  · intro _
    split
    · trivial
    · rw [within_bind, within_request]
      refine ⟨table, fun found reached => ?_⟩
      split
      · simpa using reached _ rfl
      · simp
      · trivial

/-- The iterator of a table is within reach, and so is the table. -/
theorem pairs_within (within : args.Within R) : (pairs args).Within R (Value.AllWithin R) := by
  simp only [pairs, within_bind, Arguments.within_any]
  intro _
  refine (Value.metafield_within (within.value 1) .pairs).mono fun handler met => ?_
  rw [within_ite]
  refine ⟨fun _ => by simp [within.value 1], fun _ => ?_⟩
  refine Within.bind (Q := Value.AllWithin R) ⟨⟨met, by simp [within.value 1]⟩, fun _ results => results⟩
    fun results reached => ?_
  simp only [within_pure, Value.allWithin_cons, Value.allWithin_nil, and_true]
  exact ⟨reached.getD 0, reached.getD 1, reached.getD 2⟩

/-- One step over the positions of a table stays within reach. -/
theorem ipairsStep_within (within : args.Within R) :
    (ipairsStep args).Within R (Value.AllWithin R) := by
  simp only [ipairsStep, within_bind, Arguments.within_int]
  intro n _
  refine (Value.index_within (within.value 1) (Value.within_integer _)).mono fun v read => ?_
  split <;> simp [read]

/-- Reading a number from its argument refers to nothing. -/
theorem tonumber_within : (tonumber args).Within R (Value.AllWithin R) := by
  simp only [tonumber, within_bind, within_ite, Arguments.within_any, Arguments.within_int]
  refine ⟨fun _ _ => ?_, fun _ _ _ => ?_⟩
  · split <;> simp
  · split
    · rw [within_ite]
      refine ⟨fun _ => trivial, fun _ => ?_⟩
      split <;> simp
    · trivial

/-- The arguments from a position on are within reach. -/
theorem select_within (within : args.Within R) : (select args).Within R (Value.AllWithin R) := by
  have rest (n : Nat) : Value.AllWithin R ((args.values.drop 1).drop n) :=
    (Value.AllWithin.drop within 1).drop n
  simp only [select, within_bind, within_ite, within_pure, Arguments.within_bad,
    Arguments.within_int]
  exact ⟨fun _ => by simp, fun _ _ _ => ⟨fun _ => ⟨fun _ => trivial, fun _ => rest _⟩,
    fun _ => ⟨fun _ => trivial, fun _ => rest _⟩⟩⟩

/-- A length refers to nothing. -/
theorem rawlen_within (within : args.Within R) : (rawlen args).Within R (Value.AllWithin R) := by
  have value := within.value 1
  unfold rawlen
  generalize args.value 1 = v at value
  cases v with
  | table t =>
    rw [within_bind, within_request]
    exact ⟨value, fun _ _ => by simp⟩
  | string s => simp
  | _ => trivial

/-- The outcome of a protected call is within reach if the function, its arguments and its handler
are. -/
theorem attempt_within {f : Value} {values : List Value} {handler : Option Value}
    (function : f.Within R) (arguments : Value.AllWithin R values)
    (handled : ∀ h, handler = some h → h.Within R) :
    (attempt f values handler).Within R (Value.AllWithin R) := by
  rw [attempt, within_bind, within_request]
  exact ⟨⟨function, arguments, handled⟩, fun outcome reached =>
    (Value.allWithin_cons _ _).mpr ⟨trivial, reached⟩⟩

/-- Printing asks only for the texts of its arguments. -/
theorem print_within (within : args.Within R) : (print args).Within R (Value.AllWithin R) := by
  refine (forM_within args.values fun v mem => ?_).bind fun _ _ => by simp
  exact (Value.toText_within (within v mem)).bind fun _ _ => trivial

/-- Warning asks for nothing. -/
theorem warn_within : (warn args).Within R (Value.AllWithin R) := by
  simp only [warn, within_bind, Arguments.within_bytes]
  intro _ _
  refine (forM_within _ fun i _ => ?_).mono fun _ _ => by simp
  simp

end Basics

/-- The results of a basic function. -/
theorem BaseFunction.run_within (f : BaseFunction) {values : List Value}
    (within : Value.AllWithin R values) : (f.run values).Within R (Value.AllWithin R) := by
  have args : Arguments.Within R ⟨f.name, values⟩ := within
  cases f with
  | assert => exact Basics.assert_within args
  | error =>
    simp only [run, within_bind, Arguments.within_intOr]
    exact fun n _ => Basics.raise_within (args.value 1) n
  | getmetatable => exact Basics.getmetatable_within args
  | ipairs => simp [run, args.value 1]
  | ipairsStep => exact Basics.ipairsStep_within args
  | next => exact Basics.next_within args
  | pairs => exact Basics.pairs_within args
  | pcall =>
    simp only [run, within_bind, Arguments.within_any]
    exact fun _ => Basics.attempt_within (args.value 1) (within.drop 1) fun _ none => absurd none (by simp)
  | print => exact Basics.print_within args
  | rawequal => simp [run]
  | rawget =>
    refine (args.table 1).bind fun t table => ?_
    simp only [within_bind, Arguments.within_any]
    intro _
    split
    · rw [within_bind, within_get]
      exact ⟨table, fun v read => by simpa using read⟩
    · simp
  | rawlen => exact Basics.rawlen_within args
  | rawset =>
    refine (args.table 1).bind fun t table => ?_
    simp only [within_bind, Arguments.within_any]
    intro _ _
    exact (Value.rawSetIndex_within table (args.value 2) (args.value 3)).mono
      fun _ _ => by simpa using table
  | select => exact Basics.select_within args
  | setmetatable => exact Basics.setmetatable_within args
  | tonumber => exact Basics.tonumber_within
  | tostring =>
    simp only [run, within_bind, Arguments.within_any]
    exact fun _ => (Value.toText_within (args.value 1)).mono fun _ _ => by simp
  | type => simp [run]
  | warn => exact Basics.warn_within
  | xpcall =>
    simp only [run]
    rw [within_ite]
    refine ⟨fun _ => Basics.attempt_within (args.value 1) (within.drop 2) fun h handler => ?_,
      fun _ => trivial⟩
    cases handler
    exact args.value 2

end TableSeed.Lua
