import TableSeed.Proofs.Lua.Reach
import TableSeed.Lua.Operation

/-!
# What actions reach

An action lies within a set of tables if it asks only for what lies there, whatever it is answered,
and hands on nothing else. So an operation of the language that is given values within the set has a
result within it.
-/

namespace TableSeed.Lua

variable {R : Reach}

/-- The request asks for nothing outside of a set of tables. -/
def Request.Within (R : Reach) : Request → Prop
  | .get t _ | .border t | .next t _ | .metatable t => R t
  | .set t k v => R t ∧ k.Within R ∧ v.Within R
  | .setMetatable t m => R t ∧ ∀ r, m = some r → R r
  | .call f args => f.Within R ∧ Value.AllWithin R args
  | .attempt f args handler =>
    f.Within R ∧ Value.AllWithin R args ∧ ∀ h, handler = some h → h.Within R
  | .create _ _ | .method _ | .position _ | .note _ _ | .clock | .entropy | .reseed _ => True

/-- The answer refers to nothing outside of a set of tables. -/
def Request.Admits (R : Reach) : (r : Request) → r.Answer → Prop
  | .get _ _, v | .method _, v => Value.Within R v
  | .next _ _, found => ∀ e : Key × Value, found = some (some e) → e.1.Within R ∧ e.2.Within R
  | .create _ _, r => R r
  | .metatable _, m => ∀ r, m = some r → R r
  | .call _ _, vs => Value.AllWithin R vs
  | .attempt _ _ _, outcome => Value.AllWithin R outcome.2
  | .set _ _ _, _ | .setMetatable _ _, _ | .border _, _ | .position _, _ | .note _ _, _ | .clock, _
  | .entropy, _ | .reseed _, _ => True

/-- The error refers to nothing outside of a set of tables. -/
def Fault.Within (R : Reach) : Fault → Prop
  | .value v => v.Within R
  | .here _ | .caller _ => True

namespace Action

variable {α β : Type} {Q : α → Prop}

/-- The action asks for nothing outside of a set of tables, as long as the answers lie within it, and
its result meets a condition. -/
def Within (R : Reach) (Q : α → Prop) : Action α → Prop
  | .done a => Q a
  | .fail fault => fault.Within R
  | .ask r next => r.Within R ∧ ∀ answer, r.Admits R answer → (next answer).Within R Q

/-- An action that is done is within reach if its result meets the condition. -/
@[simp] theorem within_done (a : α) : (done a).Within R Q ↔ Q a := Iff.rfl

/-- A result that is given asks for nothing. -/
@[simp] theorem within_pure (a : α) : (pure a : Action α).Within R Q ↔ Q a := Iff.rfl

/-- A message without a place refers to nothing. -/
@[simp] theorem within_complain (text : String) : (complain text : Action α).Within R Q := trivial

/-- A request is within reach if what it asks for is, and every answer meets the condition. -/
@[simp] theorem within_request (r : Request) (P : r.Answer → Prop) :
    (request r).Within R P ↔ r.Within R ∧ ∀ answer, r.Admits R answer → P answer := Iff.rfl

/-- What runs after an action has its results to go on with. -/
@[simp] theorem within_bind (a : Action α) (f : α → Action β) (P : β → Prop) :
    (a >>= f).Within R P ↔ a.Within R fun x => (f x).Within R P := by
  induction a with
  | done a => rfl
  | fail fault => rfl
  | ask r next ih => exact and_congr_right fun _ => forall_congr' fun answer => imp_congr_right fun _ => ih answer

/-- A choice is within reach if the action that is chosen is. -/
@[simp] theorem within_ite (c : Prop) [Decidable c] (a b : Action α) :
    (if c then a else b).Within R Q ↔ (c → a.Within R Q) ∧ (¬c → b.Within R Q) := by
  split <;> simp [*]

/-- The result of an action within reach may be known to meet less. -/
theorem Within.mono {a : Action α} {P : α → Prop} (within : a.Within R P) (weaker : ∀ x, P x → Q x) :
    a.Within R Q := by
  induction a with
  | done a => exact weaker a within
  | fail fault => exact within
  | ask r next ih => exact ⟨within.1, fun answer admitted => ih answer (within.2 answer admitted)⟩

/-- An action and what goes on with its results. -/
theorem Within.bind {a : Action α} {f : α → Action β} {P : β → Prop} (within : a.Within R Q)
    (next : ∀ x, Q x → (f x).Within R P) : (a >>= f).Within R P :=
  (within_bind a f P).mpr (within.mono next)

/-- Looking up a key needs the table within reach. -/
@[simp] theorem within_get (t : TableRef) (k : Key) (P : Value → Prop) :
    (get t k).Within R P ↔ R t ∧ ∀ v : Value, v.Within R → P v := Iff.rfl

/-- Setting a key needs the table, the key and the value within reach. -/
@[simp] theorem within_set (t : TableRef) (k : Key) (v : Value) (P : Unit → Prop) :
    (set t k v).Within R P ↔ (R t ∧ k.Within R ∧ v.Within R) ∧ P () :=
  and_congr_right fun _ => ⟨fun all => all () trivial, fun one _ _ => one⟩

/-- The clock may be read by any action. -/
@[simp] theorem within_clock (P : Int → Prop) : (request .clock).Within R P ↔ ∀ n, P n :=
  ⟨fun all n => all.2 n trivial, fun all => ⟨trivial, fun n _ => all n⟩⟩

/-- A random number may be drawn by any action. -/
@[simp] theorem within_entropy (P : UInt64 → Prop) : (request .entropy).Within R P ↔ ∀ n, P n :=
  ⟨fun all n => all.2 n trivial, fun all => ⟨trivial, fun n _ => all n⟩⟩

/-- Any action may set where the random numbers start. -/
@[simp] theorem within_reseed (n : UInt64) (P : Unit → Prop) :
    (request (.reseed n)).Within R P ↔ P () :=
  ⟨fun all => all.2 () trivial, fun one => ⟨trivial, fun _ _ => one⟩⟩

/-- Any action may write to the log. -/
@[simp] theorem within_note (warning : Bool) (text : String) (P : Unit → Prop) :
    (request (.note warning text)).Within R P ↔ P () :=
  ⟨fun all => all.2 () trivial, fun one => ⟨trivial, fun _ _ => one⟩⟩

/-- The first result of a call is within reach if the function and its arguments are. -/
theorem call1_within {f : Value} {args : List Value} (function : f.Within R)
    (arguments : Value.AllWithin R args) : (call1 f args).Within R (·.Within R) :=
  ⟨⟨function, arguments⟩, fun _ results => results.headD⟩

end Action

namespace Value

open TableSeed.Lua.Action

variable {v w k : Value}

/-- The metafield of a value under a key is within reach. -/
theorem metafieldKey_within (value : v.Within R) (field : Key) :
    (metafieldKey v field).Within R (·.Within R) := by
  cases v with
  | table t =>
    refine ⟨value, fun metatable meets => ?_⟩
    cases metatable with
    | none => exact trivial
    | some m => exact ⟨meets m rfl, fun found within => within⟩
  | _ => trivial

/-- The metafield of a value for an event is within reach. -/
theorem metafield_within (value : v.Within R) (e : Event) :
    (metafield v e).Within R (·.Within R) := metafieldKey_within value e.key

/-- Reading the value under a key, if it can be one, and going on with it. -/
theorem getKey_within {α : Type} {Q : α → Prop} {t : TableRef} (table : R t) (key? : Option Key)
    {go : Value → Action α} (next : ∀ found : Value, found.Within R → (go found).Within R Q) :
    (match key? with
      | some key => do
        let found ← Action.get t key
        go found
      | none => do
        let found ← pure Value.nil
        go found : Action α).Within R Q := by
  cases key? with
  | none => exact next .nil trivial
  | some key => exact ⟨table, next⟩

/-- A chain of index metafields, followed so far, stays within reach. -/
theorem indexWithin_within (fuel : Nat) (value : v.Within R) (key : k.Within R) :
    (indexWithin fuel v k).Within R (·.Within R) := by
  induction fuel generalizing v with
  | zero => trivial
  | succ fuel ih =>
    cases v with
    | table t =>
      refine getKey_within value k.toKey? fun found read => ?_
      rw [within_ite]
      refine ⟨fun _ => read, fun _ => (metafield_within value .index).bind fun handler met => ?_⟩
      rw [within_ite, within_ite]
      exact ⟨fun _ => trivial, fun _ => ⟨fun _ => call1_within met (by simp [key, value]),
        fun _ => ih met⟩⟩
    | string s =>
      dsimp only [indexWithin]
      cases k.toKey? with
      | none => exact trivial
      | some key => exact ⟨trivial, fun _ within => within⟩
    | _ => trivial

/-- Indexing a value stays within reach. -/
theorem index_within (value : v.Within R) (key : k.Within R) :
    (index v k).Within R (·.Within R) := indexWithin_within _ value key

/-- Setting a key of a table without its metafields stays within reach. -/
theorem rawSetIndex_within {t : TableRef} (table : R t) (key : k.Within R) (value : v.Within R) :
    (rawSetIndex t k v).Within R fun _ => True := by
  unfold rawSetIndex
  cases isKey : k.toKey? with
  | none => trivial
  | some _ => exact ⟨⟨table, Key.within_of_toKey? isKey key, value⟩, fun _ _ => trivial⟩

/-- A chain of metafields for new keys, followed so far, stays within reach. -/
theorem setIndexWithin_within (fuel : Nat) (target : w.Within R) (key : k.Within R)
    (value : v.Within R) : (setIndexWithin fuel w k v).Within R fun _ => True := by
  induction fuel generalizing w with
  | zero => trivial
  | succ fuel ih =>
    cases w with
    | table t =>
      have stored (handler : Value) (met : handler.Within R) :
          (if handler.isNil then rawSetIndex t k v
            else if handler.isFunction then do
              let _ ← call handler [.table t, k, v]
            else setIndexWithin fuel handler k v).Within R fun _ => True := by
        rw [within_ite, within_ite]
        refine ⟨fun _ => rawSetIndex_within target key value, fun _ => ⟨fun _ => ?_, fun _ => ih met⟩⟩
        exact ⟨⟨met, by simpa [key, value] using target⟩, fun _ _ => trivial⟩
      refine getKey_within target k.toKey? fun found _ => ?_
      rw [within_ite]
      exact ⟨fun _ => (metafield_within target .newIndex).bind stored, fun _ => stored .nil trivial⟩
    | _ => trivial

/-- Setting a key of a value stays within reach. -/
theorem setIndex_within (target : w.Within R) (key : k.Within R) (value : v.Within R) :
    (setIndex w k v).Within R fun _ => True := setIndexWithin_within _ target key value

section Operators

variable {a b : Value}

/-- The handler for two operands is within reach. -/
theorem handler2_within (left : a.Within R) (right : b.Within R) (field : Key) :
    (handler2 a b field).Within R (·.Within R) := by
  refine (metafieldKey_within left field).bind fun first met => ?_
  rw [within_ite]
  exact ⟨fun _ => metafieldKey_within right field, fun _ => met⟩

/-- The result of a metamethod of two operands. -/
theorem call1_pair_within {handler : Value} (met : handler.Within R) (left : a.Within R)
    (right : b.Within R) : (call1 handler [a, b]).Within R (·.Within R) :=
  call1_within met (by simp [left, right])

/-- Whether the result of a metamethod of two operands is true. -/
theorem truth_within {handler : Value} (met : handler.Within R) (left : a.Within R)
    (right : b.Within R) (f : Bool → Bool) :
    (do return f (← call1 handler [a, b]).truthy : Action Bool).Within R fun _ => True :=
  (call1_pair_within met left right).bind fun _ _ => trivial

/-- Arithmetic stays within reach. -/
theorem arithmetic_within (op : BinaryOp) (left : a.Within R) (right : b.Within R) :
    (arithmetic op a b).Within R (·.Within R) := by
  unfold arithmetic
  dsimp only
  split
  · split
    · exact within_ofNum _
    · trivial
  · refine (handler2_within left right _).bind fun handler met => ?_
    rw [within_ite]
    exact ⟨fun _ => call1_pair_within met left right, fun _ => trivial⟩

/-- Concatenation stays within reach. -/
theorem concat_within (left : a.Within R) (right : b.Within R) :
    (concat a b).Within R (·.Within R) := by
  unfold concat
  split
  · rw [within_ite]
    exact ⟨fun _ => trivial, fun _ => trivial⟩
  · refine (handler2_within left right _).bind fun handler met => ?_
    rw [within_ite]
    exact ⟨fun _ => call1_pair_within met left right, fun _ => trivial⟩

/-- A test for equality stays within reach. -/
theorem equals_within (left : a.Within R) (right : b.Within R) :
    (equals a b).Within R fun _ => True := by
  unfold equals
  split
  · rw [within_ite]
    refine ⟨fun _ => trivial, fun _ => (handler2_within left right _).bind fun handler met => ?_⟩
    rw [within_ite]
    exact ⟨fun _ => trivial, fun _ => truth_within met left right id⟩
  · trivial

/-- The message that two values cannot be compared refers to nothing. -/
theorem incomparable_within : (incomparable a b : Action Bool).Within R fun _ => True := by
  unfold incomparable
  split <;> trivial

/-- A test for less stays within reach. -/
theorem less_within (left : a.Within R) (right : b.Within R) :
    (less a b).Within R fun _ => True := by
  unfold less
  split
  · trivial
  · refine (handler2_within left right _).bind fun handler met => ?_
    rw [within_ite]
    exact ⟨fun _ => incomparable_within, fun _ => truth_within met left right id⟩

/-- A test for less or equal stays within reach. -/
theorem lessEqual_within (left : a.Within R) (right : b.Within R) :
    (lessEqual a b).Within R fun _ => True := by
  unfold lessEqual
  split
  · trivial
  · refine (handler2_within left right _).bind fun handler met => ?_
    rw [within_ite]
    refine ⟨fun _ => truth_within met left right id, fun _ => ?_⟩
    refine (handler2_within right left _).bind fun reverse met => ?_
    rw [within_ite]
    exact ⟨fun _ => incomparable_within, fun _ => truth_within met right left not⟩

/-- The length operator stays within reach. -/
theorem length_within (value : v.Within R) : (length v).Within R (·.Within R) := by
  cases v with
  | table t =>
    refine (metafield_within value .length).bind fun handler met => ?_
    rw [within_ite]
    exact ⟨fun _ => ⟨value, fun _ _ => trivial⟩,
      fun _ => call1_within met (by simpa using value)⟩
  | string s => trivial
  | _ => trivial

/-- Every binary operation stays within reach. -/
theorem binary_within (op : BinaryOp) (left : a.Within R) (right : b.Within R) :
    (binary op a b).Within R (·.Within R) := by
  cases op with
  | concat => exact concat_within left right
  | eq | ne => exact (equals_within left right).bind fun _ _ => trivial
  | lt => exact (less_within left right).bind fun _ _ => trivial
  | gt => exact (less_within right left).bind fun _ _ => trivial
  | le => exact (lessEqual_within left right).bind fun _ _ => trivial
  | ge => exact (lessEqual_within right left).bind fun _ _ => trivial
  | _ => exact arithmetic_within _ left right

/-- The sign change stays within reach. -/
theorem minus_within (value : v.Within R) : (minus v).Within R (·.Within R) := by
  unfold minus
  split
  · exact within_ofNum _
  · refine (metafield_within value .minus).bind fun handler met => ?_
    rw [within_ite]
    exact ⟨fun _ => trivial, fun _ => call1_pair_within met value value⟩

/-- The bitwise complement stays within reach. -/
theorem bitNot_within (value : v.Within R) : (bitNot v).Within R (·.Within R) := by
  unfold bitNot
  split
  · split <;> trivial
  · refine (metafield_within value .bitNot).bind fun handler met => ?_
    rw [within_ite]
    exact ⟨fun _ => trivial, fun _ => call1_pair_within met value value⟩

/-- Every unary operation stays within reach. -/
theorem unary_within (op : UnaryOp) (value : v.Within R) :
    (unary op v).Within R (·.Within R) := by
  cases op with
  | minus => exact minus_within value
  | bitNot => exact bitNot_within value
  | not => trivial
  | length => exact length_within value

end Operators

/-- Turning a value into a text stays within reach. -/
theorem toText_within (value : v.Within R) : (toText v).Within R fun _ => True := by
  cases v with
  | table r =>
    refine (metafield_within value .toText).bind fun handler met => ?_
    rw [within_ite]
    constructor
    · intro _
      refine (call1_within met (by simpa using value)).bind fun text _ => ?_
      cases text <;> trivial
    · intro _
      refine (metafield_within value .name).bind fun name _ => ?_
      cases name <;> trivial
  | _ => trivial

end Value

end TableSeed.Lua
