import TableSeed.Lua.Value

/-!
# Actions

An action is what an operation or a library function does: it asks the machine for one thing after
another and goes on with each answer. Tables, calls, the log and the clock are only reached by
asking, so what an action can do to a heap is what its requests can do.
-/

namespace TableSeed.Lua

/-- What an action can ask of the machine. -/
inductive Request where
  /-- The value under a key. -/
  | get (t : TableRef) (k : Key)
  /-- Gives a key a value. -/
  | set (t : TableRef) (k : Key) (v : Value)
  /-- A border of a table. -/
  | border (t : TableRef)
  /-- The entry after a key. -/
  | next (t : TableRef) (k : Option Key)
  /-- A new table with room for list items and other entries. -/
  | create (items entries : Nat)
  /-- A table's metatable. -/
  | metatable (t : TableRef)
  | setMetatable (t : TableRef) (m : Option TableRef)
  /-- The method that strings have under a key. -/
  | method (k : Key)
  /-- The results of a call. -/
  | call (f : Value) (args : List Value)
  /-- The results of a call, or the error that ended it, after a handler has seen it. -/
  | attempt (f : Value) (args : List Value) (handler : Option Value)
  /-- Where the function of a level stands: its chunk and line, as a text before a message. -/
  | position (level : Nat)
  /-- Writes to the log. -/
  | note (warning : Bool) (text : String)
  /-- The time, in seconds since 1970. -/
  | clock
  /-- A number to take for a random one. -/
  | entropy
  /-- Starts the random numbers anew. -/
  | reseed (n : UInt64)

/-- What the machine answers to a request. -/
abbrev Request.Answer : Request → Type
  | .get _ _ => Value
  | .set _ _ _ => Unit
  | .border _ => Nat
  | .next _ _ => Option (Option (Key × Value))
  | .create _ _ => TableRef
  | .metatable _ => Option TableRef
  | .setMetatable _ _ => Unit
  | .method _ => Value
  | .call _ _ => List Value
  | .attempt _ _ _ => Bool × List Value
  | .position _ => String
  | .note _ _ => Unit
  | .clock => Int
  | .entropy => UInt64
  | .reseed _ => Unit

/-- Why an action fails. -/
inductive Fault where
  /-- With an error value. -/
  | value (v : Value)
  /-- With a message about the place where the action's own function stands. -/
  | here (text : String)
  /-- With a message about the place that called the action's function. -/
  | caller (text : String)

/-- A computation that asks the machine for what it needs. -/
inductive Action (α : Type) where
  | done (a : α)
  | fail (fault : Fault)
  | ask (r : Request) (next : r.Answer → Action α)

namespace Action

variable {α β : Type}

/-- The action that goes on with the result of another. -/
def bind : Action α → (α → Action β) → Action β
  | .done a, f => f a
  | .fail fault, _ => .fail fault
  | .ask r next, f => .ask r fun answer => bind (next answer) f

instance : Monad Action where
  pure := .done
  bind := bind

instance : Inhabited (Action α) := ⟨.fail (.value .nil)⟩

/-- Asks for one thing. -/
@[inline] def request (r : Request) : Action r.Answer := .ask r .done

/-- Fails with a message about the caller's place. -/
def complain (text : String) : Action α := .fail (.caller text)

/-- Fails with a message about the own place. -/
def refuse (text : String) : Action α := .fail (.here text)

/-- The value under a key of a table. -/
@[inline] def get (t : TableRef) (k : Key) : Action Value := request (.get t k)

/-- Gives a key of a table a value. -/
@[inline] def set (t : TableRef) (k : Key) (v : Value) : Action Unit := request (.set t k v)

/-- The results of a call. -/
@[inline] def call (f : Value) (args : List Value) : Action (List Value) := request (.call f args)

/-- The first result of a call. -/
def call1 (f : Value) (args : List Value) : Action Value := do
  return (← call f args).headD .nil

/-- A new empty table. -/
def create : Action TableRef := request (.create 0 0)

end Action

end TableSeed.Lua
