import TableSeed.Lua.Heap
import TableSeed.Lua.Meter

/-!
# Machine states

A machine evaluates expressions and executes statements with a stack of frames, each of which says
what is done with the outcome of what runs above it. A normal outcome is delivered to the frame on
top; every other outcome, such as a returned value or an error, goes down the stack until a frame
takes it.
-/

namespace TableSeed.Lua

/-- Where the function at work stands. -/
inductive Site where
  /-- In a function that is not written in Lua. -/
  | native
  | line (chunk : String) (number : Nat)
  deriving DecidableEq, Repr

/-- The site as a text before a message. -/
def Site.text : Site → String
  | .native => ""
  | .line chunk number => s!"{chunk}:{number}: "

/-- Where an action's own function stands and where that function was called. -/
structure Place where
  own : Site
  caller : Site
  deriving DecidableEq, Repr

/-- What a running function sees. -/
structure Env where
  /-- The variables in scope, innermost first. -/
  vars : List CellRef
  /-- The arguments beyond the parameters. -/
  varargs : List Value := []
  chunk : String

/-- The site of a line in the chunk of an environment. -/
def Env.site (env : Env) (line : Nat) : Site := .line env.chunk line

/-- Where an assignment puts its value. -/
inductive Assignee where
  | cell (r : CellRef)
  | field (object key : Value)

/-- A target of an assignment before its parts have values. -/
inductive Target where
  | cell (distance : Nat)
  | field

/-- How a loop goes on after a round. -/
inductive Round where
  | whileTrue (condition : Expr) (body : List Stat)
  | forever (body : List Stat)
  /-- So many more rounds, counting on from a number by a step. -/
  | count (rounds : Nat) (current step : Int64) (body : List Stat)
  /-- Floats from a number by a step up to a limit. -/
  | floats (current limit step : Binary64) (body : List Stat)
  | each (function state control : Value) (names : Nat) (body : List Stat) (line : Nat)

/-- What is done with a list of values. -/
inductive Task where
  /-- Keeps the first value. -/
  | first
  | index (line : Nat)
  | binary (op : BinaryOp) (line : Nat)
  | unary (op : UnaryOp) (line : Nat)
  /-- Calls the first value with the others; a tail call takes the place of the function. -/
  | call (tail : Bool) (line : Nat)
  /-- Looks up a method of the first value, to be called with it and more arguments. -/
  | select (name : Bytes) (args : List Expr) (tail : Bool) (line : Nat)
  /-- Calls the first value, a method of the object, with more arguments. -/
  | invoke (object : Value) (args : List Expr) (tail : Bool) (line : Nat)
  | both (right : Expr)
  | either (right : Expr)
  /-- Makes a table; a field is a list item or a key and its value. -/
  | table (items entries : Nat) (fields : List Bool) (line : Nat)
  | give
  | declare (kinds : List LocalKind) (rest : List Stat) (line : Nat)
  | assign (targets : List Target) (line : Nat)
  | store (rest : List (Assignee × Value)) (line : Nat)
  | branch (body otherwise : List Stat)
  | whileTest (condition : Expr) (body : List Stat)
  | leaveIf
  | numericFor (body : List Stat) (line : Nat)
  | genericFor (names : Nat) (body : List Stat) (line : Nat)
  | each (function state : Value) (names : Nat) (body : List Stat) (line : Nat)

/-- The outcome of what ran. -/
inductive Signal where
  /-- Values, or the normal end of statements. -/
  | deliver (vs : List Value)
  /-- The running function returns values. -/
  | give (vs : List Value)
  /-- The running function is replaced by a call. -/
  | tail (f : ClosureRef) (args : List Value)
  | leave
  | jump (label : String) (env : Env)
  | raise (v : Value)

/-- What runs. -/
inductive Control where
  | signal (s : Signal)
  | eval (e : Expr) (env : Env)
  | exec (body : List Stat) (env : Env)
  /-- Goes on after a label. -/
  | land (body : List Stat) (env : Env)
  | finish (task : Task) (values : List Value) (env : Env)
  | round (r : Round) (env : Env)
  | apply (f : Value) (args : List Value) (caller : Site)
  | act (a : Action (List Value)) (place : Place)

/-- What is done with the outcome of what runs above. -/
inductive Frame where
  /-- Values found so far, last first, and expressions still to evaluate, for a task. -/
  | collect (found : List Value) (rest : List Expr) (env : Env) (task : Task)
  | follow (rest : List Stat) (env : Env)
  /-- The statements of a block, in which a jump may find its label. -/
  | block (body : List Stat)
  | loop (r : Round) (env : Env)
  /-- A value to be closed, and the statements that see it. -/
  | close (v : Value) (rest : List Stat)
  /-- A value is being closed; then the outcome goes on. -/
  | closing (s : Signal)
  | activation (caller : Site)
  | native (next : List Value → Action (List Value)) (place : Place)
  | protect (handler : Option Value) (next : Bool × List Value → Action (List Value)) (place : Place)
  /-- A handler has been given the error. -/
  | handled (next : Bool × List Value → Action (List Value)) (place : Place)

namespace Frame

/-- Whether the frame belongs to a call of a function written in Lua. -/
def isActivation : Frame → Bool
  | .activation _ => true
  | _ => false

/-- Whether the frame belongs to a call that a library function or an operation made. -/
def isNative : Frame → Bool
  | .native _ _ | .protect _ _ _ | .handled _ _ | .closing _ => true
  | _ => false

/-- Where the function that the frame runs was called. -/
def caller? : Frame → Option Site
  | .activation caller => some caller
  | .native _ place | .protect _ _ place | .handled _ place =>
    if place.own = .native then some place.caller else none
  | _ => none

end Frame

/-- The state of a machine. -/
structure Machine where
  control : Control
  /-- The frames, the top one first. -/
  stack : List Frame := []
  /-- The number of calls of functions written in Lua. -/
  depth : Nat := 0
  /-- The number of calls made by library functions and operations. -/
  natives : Nat := 0
  world : World
  meter : Meter

end TableSeed.Lua
