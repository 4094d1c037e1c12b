import TableSeed.Lua.Heap
import TableSeed.Lua.Library.Helpers

/-!
# Helpers

A helper answers a call with values or with an error about one of its arguments, and it runs to the
end by itself. There is one call only that it cannot go on with: that of `format_date` with a date and
a format in which no date can be written. It cannot go on with the failure of such a call for an
argument either.
-/

namespace TableSeed.Lua

/-- The text that an argument is, if it is one. -/
def Arguments.text? (args : Arguments) (i : Nat) : Option String :=
  (args.value i).toBytes?.bind Bytes.toText?

/-- The helper cannot go on: it is to write a date in a format in which no date can be written. -/
def HelperFunction.Aborts (f : HelperFunction) (values : List Value) : Prop :=
  f = .formatDate ∧ ∃ s format t, (⟨f.name, values⟩ : Arguments).text? 1 = some s ∧
    (⟨f.name, values⟩ : Arguments).text? 2 = some format ∧ Calendar.DateTime.parse? s = some t ∧
      t.format? format = none

/-- Whether the world can answer a request, without a call and wherever the function stands. -/
def Request.isOfWorld : Request → Bool
  | .call _ _ | .attempt _ _ _ | .position _ => false
  | _ => true

namespace Action

variable {α β : Type} {Q : α → Prop}

/-- An action that is done goes on with its result. -/
theorem done_bind (a : α) (f : α → Action β) : (done a >>= f) = f a := rfl

/-- The action needs the world only; its result meets a condition, or it fails because of an
argument. -/
def Settles (Q : α → Prop) : Action α → Prop
  | .done a => Q a
  | .fail fault => ∃ text, fault = .value (.failure (.badCall text))
  | .ask r next => r.isOfWorld = true ∧ ∀ answer, (next answer).Settles Q

/-- One action after the other settles if both do. -/
theorem Settles.bind {a : Action α} {f : α → Action β} {P : β → Prop} (settles : a.Settles Q)
    (next : ∀ x, Q x → (f x).Settles P) : (a >>= f).Settles P := by
  induction a with
  | done a => exact next a settles
  | fail fault => exact settles
  | ask r go ih => exact ⟨settles.1, fun answer => ih answer (settles.2 answer)⟩

/-- A request that a world answers settles. -/
theorem settles_request {r : Request} (isOfWorld : r.isOfWorld = true) :
    (request r).Settles fun _ => True := ⟨isOfWorld, fun _ => trivial⟩

/-- Such an action runs to its end at once. -/
theorem Settles.perform {a : Action α} (settles : a.Settles Q) (w : World) :
    (∃ x, Q x ∧ (w.perform a).1 = .done x) ∨
      ∃ text, (w.perform a).1 = .failed (.value (.failure (.badCall text))) := by
  induction a generalizing w with
  | done a => exact .inl ⟨a, settles, rfl⟩
  | fail fault =>
    obtain ⟨text, rfl⟩ := settles
    exact .inr ⟨text, rfl⟩
  | ask r next ih =>
    obtain ⟨isOfWorld, later⟩ := settles
    cases r with
    | call | attempt | position => cases isOfWorld
    | entropy =>
      unfold World.perform
      exact ih w.draw.1 (later _) w.draw.2
    | get | set | border | next | create | metatable | setMetatable | method | note | clock
    | reseed => exact ih _ (later _) _

end Action

namespace Helpers

variable {args : Arguments} {i : Nat}

/-- A helper goes on with an argument that is no failure of another one. -/
theorem received_settles (goesOn : (args.value i).isAborted = false) :
    (received args i).Settles fun v => v = args.value i := by
  rw [received, goesOn]
  exact rfl

/-- A text that a helper is given settles as the text of its argument. -/
theorem text_settles (goesOn : (args.value i).isAborted = false) :
    (text args i).Settles fun s => args.text? i = some s := by
  refine (received_settles goesOn).bind fun v same => ?_
  subst same
  split
  · rename_i b isBytes
    split
    · rename_i s isText
      exact (congrArg (·.bind Bytes.toText?) isBytes).trans isText
    · exact ⟨_, rfl⟩
  · exact ⟨_, rfl⟩

/-- A whole number that a helper is given settles. -/
theorem whole_settles (goesOn : (args.value i).isAborted = false) :
    (whole args i).Settles fun _ => True := by
  refine (received_settles goesOn).bind fun v _ => ?_
  split
  · trivial
  · split
    · trivial
    · exact ⟨_, rfl⟩
  · exact ⟨_, rfl⟩

/-- A check of a type settles. -/
theorem check_settles (goesOn : (args.value 1).isAborted = false) (names : List String) :
    (check args names).Settles fun _ => True :=
  (received_settles goesOn).bind fun _ _ => trivial

/-- Filling a table settles. -/
theorem fillFrom_settles (t : TableRef) (i : Nat) (vs : List Value) :
    (fillFrom t i vs).Settles fun _ => True := by
  induction vs generalizing i with
  | nil => trivial
  | cons v rest ih => exact ⟨rfl, fun _ => ih (i + 1)⟩

/-- A list of values settles. -/
theorem list_settles (vs : List Value) : (list vs).Settles fun _ => True :=
  (Action.settles_request rfl).bind fun t _ => (fillFrom_settles t 1 vs).bind fun _ _ => trivial

/-- A text argument is read as it is. -/
theorem text_of_text? {s : String} (isText : args.text? i = some s) : text args i = .done s := by
  obtain ⟨b, isBytes, isText⟩ := Option.bind_eq_some_iff.mp isText
  have goesOn : (args.value i).isAborted = false := by
    cases value : args.value i with
    | failure f =>
      rw [value] at isBytes
      cases isBytes
    | _ => rfl
  rw [text, received, goesOn, if_neg Bool.false_ne_true, Action.done_bind, isBytes]
  dsimp only
  rw [isText]

end Helpers

namespace HelperFunction

/-- A helper that can go on answers its call with values or with an error about an argument. -/
theorem settles (f : HelperFunction) {values : List Value} (goesOn : ¬f.Aborts values)
    (sound : ∀ v ∈ values, v.isAborted = false) : (f.run values).Settles fun _ => True := by
  have argument (i : Nat) : ((⟨f.name, values⟩ : Arguments).value i).isAborted = false := by
    rw [Arguments.value, List.getD_eq_getElem?_getD]
    cases found : values[i - 1]? with
    | none => rfl
    | some v => exact sound v (List.mem_of_getElem? found)
  have first := Helpers.text_settles (argument 1)
  have second := Helpers.text_settles (argument 2)
  cases f with
  | guid => exact ⟨rfl, fun _ => ⟨rfl, fun _ => trivial⟩⟩
  | now | timestamp => exact ⟨rfl, fun _ => trivial⟩
  | isGuid =>
    refine (Helpers.received_settles (argument 1)).bind fun v _ => ?_
    split <;> trivial
  | formatDate =>
    refine first.bind fun s isText => second.bind fun format isFormat => ?_
    split
    · trivial
    · rename_i t isDate
      split
      · trivial
      · rename_i unwritable
        exact absurd ⟨rfl, s, format, t, isText, isFormat, isDate, unwritable⟩ goesOn
  | parseDate | lower | upper | trim => exact first.bind fun _ _ => trivial
  | addDays => exact first.bind fun _ _ => (Helpers.whole_settles (argument 2)).bind fun _ _ => trivial
  | split =>
    exact first.bind fun _ _ => second.bind fun _ _ => (Helpers.list_settles _).bind fun _ _ => trivial
  | contains | startsWith | endsWith => exact first.bind fun _ _ => second.bind fun _ _ => trivial
  | isNil | isString | isNumber | isTable | isBoolean => exact Helpers.check_settles (argument 1) _
  | log | warn => exact first.bind fun _ _ => ⟨rfl, fun _ => trivial⟩

/-- The call that a helper cannot go on with. -/
theorem run_of_aborts {f : HelperFunction} {values : List Value} (aborts : f.Aborts values) :
    f.run values = Helpers.abort := by
  obtain ⟨rfl, s, format, t, isText, isFormat, isDate, unwritable⟩ := aborts
  rw [run, Helpers.text_of_text? isText, Action.done_bind, Helpers.text_of_text? isFormat,
    Action.done_bind, isDate]
  dsimp only
  rw [unwritable]

end HelperFunction

end TableSeed.Lua
