import TableSeed.Lua.Library
import TableSeed.Proofs.Lua.Library.Basics
import TableSeed.Proofs.Lua.Library.Helpers
import TableSeed.Proofs.Lua.Library.Tables
import TableSeed.Proofs.Lua.Library.Texts

/-!
# What library functions reach

A library function that is given values within a set of tables asks only for what lies there, and its
results lie there too: what it makes is its own, and everything else it has from its arguments.
-/

namespace TableSeed.Lua

open TableSeed.Lua.Action

variable {R : Reach}

namespace Mathematics

variable {args : Arguments}

/-- A whole number, as an integer where it fits, refers to nothing. -/
@[simp] theorem within_wholeValue (x : Binary64) : (wholeValue x).Within R := by
  unfold wholeValue
  split <;> trivial

/-- A function of floats gives a float. -/
theorem ofFloat_within (f : Float → Float) : (ofFloat f args).Within R (Value.AllWithin R) := by
  simp [ofFloat]

/-- Rounding gives a number. -/
theorem round_within (f : Float → Float) : (round f args).Within R (Value.AllWithin R) := by
  unfold round
  split <;> simp

/-- A remainder is a number. -/
theorem fmod_within : (fmod args).Within R (Value.AllWithin R) := by
  unfold fmod
  split <;> simp

/-- The parts of a number are numbers. -/
theorem modf_within : (modf args).Within R (Value.AllWithin R) := by
  unfold modf
  split <;> simp

/-- A logarithm is a number. -/
theorem log_within : (log args).Within R (Value.AllWithin R) := by
  simp [log]

/-- A significand and an exponent are numbers. -/
theorem frexp_within : (frexp args).Within R (Value.AllWithin R) := by
  simp [frexp]

/-- A scaled number is a number. -/
theorem ldexp_within : (ldexp args).Within R (Value.AllWithin R) := by
  simp [ldexp]

/-- A random number is drawn from the world, and refers to nothing. -/
theorem random_within : (random args).Within R (Value.AllWithin R) := by
  unfold random
  split <;> simp [randomBetween]

/-- Setting where the random numbers start asks for nothing in the heap. -/
theorem randomseed_within : (randomseed args).Within R (Value.AllWithin R) := by
  simp [randomseed]

/-- The best argument is one of the arguments, if comparing two of them stays within reach. -/
theorem best_within (within : args.Within R) {better : Value → Value → Action Bool}
    (compared : ∀ a b : Value, a.Within R → b.Within R → (better a b).Within R fun _ => True) :
    (best args better).Within R (Value.AllWithin R) := by
  simp only [best, within_bind, Arguments.within_num]
  intro _ _
  refine (foldlM_within (within.value 1) fun winner i held => ?_).mono fun v held => by simpa using held
  simp only [within_bind, within_pure, Arguments.within_num]
  intro _ _
  refine (compared _ _ (within.value (i + 2)) held).mono fun isBetter _ => ?_
  split
  · exact within.value (i + 2)
  · exact held

end Mathematics

/-- The results of a mathematical function. -/
theorem MathFunction.run_within (f : MathFunction) {values : List Value}
    (within : Value.AllWithin R values) : (f.run values).Within R (Value.AllWithin R) := by
  have args : Arguments.Within R ⟨f.name, values⟩ := within
  cases f with
  | max => exact Mathematics.best_within args fun _ _ first second => Value.less_within second first
  | min => exact Mathematics.best_within args fun _ _ first second => Value.less_within first second
  | ceil | floor => exact Mathematics.round_within _
  | fmod => exact Mathematics.fmod_within
  | modf => exact Mathematics.modf_within
  | log => exact Mathematics.log_within
  | frexp => exact Mathematics.frexp_within
  | ldexp => exact Mathematics.ldexp_within
  | random => exact Mathematics.random_within
  | randomseed => exact Mathematics.randomseed_within
  | acos | asin | cos | cosh | exp | log10 | sin | sinh | sqrt | tan | tanh =>
    exact Mathematics.ofFloat_within _
  | abs | tointeger | type =>
    simp [run]
    split <;> simp
  | atan | deg | pow | rad | ult => simp [run]

namespace Helpers

variable (args : Arguments) (i : Nat)

/-- A bad argument of a helper is a message without references. -/
@[simp] theorem within_bad {α : Type} {Q : α → Prop} (why : String) :
    (bad args i why : Action α).Within R Q := trivial

variable {args} in
/-- What a helper is given is its argument. -/
theorem received_within (within : args.Within R) :
    (received args i).Within R fun v => v = args.value i := by
  unfold received
  have value := within.value i
  rw [within_ite]
  refine ⟨fun aborted => ?_, fun _ => rfl⟩
  rw [(Value.isAborted_iff _).mp aborted] at value
  exact value

variable {args} in
/-- A text that a helper is given is the text of its argument. -/
theorem text_within (within : args.Within R) :
    (text args i).Within R fun s => args.text? i = some s := by
  refine (received_within i within).bind fun v same => ?_
  subst same
  split
  · split <;> simp [Arguments.text?, *]
  · trivial

variable {args} in
/-- A whole number that a helper is given refers to nothing. -/
theorem whole_within (within : args.Within R) : (whole args i).Within R fun _ => True := by
  refine (received_within i within).bind fun v _ => ?_
  split
  · trivial
  · split <;> trivial
  · trivial

/-- An optional text refers to nothing. -/
@[simp] theorem allWithin_textOrNil (s : Option String) : Value.AllWithin R (textOrNil s) := by
  cases s <;> simp [textOrNil]

/-- Filling a table within reach with values within reach stays within reach. -/
theorem fillFrom_within {t : TableRef} (table : R t) (i : Nat) {vs : List Value}
    (values : Value.AllWithin R vs) : (fillFrom t i vs).Within R fun _ => True := by
  induction vs generalizing i with
  | nil => trivial
  | cons v rest ih =>
    rw [Value.allWithin_cons] at values
    exact ⟨⟨table, trivial, values.1⟩, fun _ _ => ih (i + 1) values.2⟩

/-- A list of values within reach is a new table within reach. -/
theorem list_within {values : List Value} (within : Value.AllWithin R values) :
    (list values).Within R (·.Within R) :=
  ⟨trivial, fun _ made => (fillFrom_within made 1 within).bind fun _ _ => made⟩

variable {args} in
/-- A check of a type stays within reach. -/
theorem check_within (within : args.Within R) (names : List String) :
    (check args names).Within R (Value.AllWithin R) :=
  (received_within 1 within).bind fun _ _ => by simp

end Helpers

/-- The results of a helper that goes on. -/
theorem HelperFunction.run_within (f : HelperFunction) {values : List Value}
    (within : Value.AllWithin R values) (goesOn : R.aborted ∨ ¬f.Aborts values) :
    (f.run values).Within R (Value.AllWithin R) := by
  have args : Arguments.Within R ⟨f.name, values⟩ := within
  have first := Helpers.text_within 1 args
  have second := Helpers.text_within 2 args
  cases f with
  | isGuid =>
    refine (Helpers.received_within 1 args).bind fun v _ => ?_
    split <;> simp
  | formatDate =>
    refine first.bind fun s isText => second.bind fun format isFormat => ?_
    split
    · simp
    · rename_i t isDate
      split
      · simp
      · rename_i unwritable
        exact goesOn.resolve_right fun goesOn =>
          goesOn ⟨rfl, s, format, t, isText, isFormat, isDate, unwritable⟩
  | addDays =>
    exact first.bind fun _ _ => (Helpers.whole_within 2 args).bind fun _ _ => by simp
  | split =>
    refine first.bind fun _ _ => second.bind fun _ _ => ?_
    refine (Helpers.list_within fun v mem => ?_).bind fun _ made => by simpa using made
    obtain ⟨piece, -, rfl⟩ := List.mem_map.mp mem
    trivial
  | lower | upper | trim | parseDate | log | warn => exact first.bind fun _ _ => by simp
  | contains | startsWith | endsWith =>
    exact first.bind fun _ _ => second.bind fun _ _ => by simp
  | isNil | isString | isNumber | isTable | isBoolean => exact Helpers.check_within args _
  | guid | now | timestamp => simp [run]

/-- The library function is a helper that cannot go on. -/
def Builtin.Aborts (f : Builtin) (values : List Value) : Prop :=
  ∃ helper, f = .helper helper ∧ helper.Aborts values

/-- What a library function asks for and its results, when its arguments lie within a set and so
does the table that an iterator keeps. -/
theorem Builtin.run_within {f : Builtin} (function : (Value.builtin f).Within R)
    {values : List Value} (within : Value.AllWithin R values)
    (goesOn : R.aborted ∨ ¬f.Aborts values) : (f.run values).Within R (Value.AllWithin R) := by
  cases f with
  | base f => exact f.run_within within
  | string f => exact f.run_within within
  | table f => exact f.run_within within
  | math f => exact f.run_within within
  | utf8 f => exact f.run_within values
  | helper f => exact f.run_within within (goesOn.imp_right fun goesOn aborts => goesOn ⟨f, rfl, aborts⟩)
  | gmatchStep state => exact Strings.gmatchStep_within function

end TableSeed.Lua
