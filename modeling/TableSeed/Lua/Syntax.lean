import TableSeed.Lua.Value

/-!
# Lua syntax

Variables are resolved when a source is parsed: a local variable is the number of variables
declared after it that are in scope, and a free name is a field of the outermost variable, the
environment. A label carries the number of variables in scope where it stands.
-/

namespace TableSeed.Lua

/-- Operators with two operands that are both evaluated. -/
inductive BinaryOp where
  | add | sub | mul | mod | pow | div | floorDiv | bitAnd | bitOr | bitXor | shiftLeft | shiftRight
  | concat | eq | lt | le | ne | gt | ge
  deriving DecidableEq, Repr

/-- Operators with one operand. -/
inductive UnaryOp where
  | minus | bitNot | not | length
  deriving DecidableEq, Repr

/-- What a declaration says about a local variable. -/
inductive LocalKind where
  | regular | constant | toClose
  deriving DecidableEq, Repr

/-- A value that a source can spell out. -/
inductive Literal where
  | nil
  | boolean (b : Bool)
  | number (n : Num)
  | string (s : Bytes)

namespace Literal

/-- The literal of a text. -/
def ofText (s : String) : Literal := .string (Bytes.ofText s)

/-- The value that a literal spells out. -/
def value : Literal → Value
  | .nil => .nil
  | .boolean b => .boolean b
  | .number n => .ofNum n
  | .string s => .string s

end Literal

mutual

/-- An expression. -/
inductive Expr where
  | const (c : Literal)
  | vararg
  /-- A local variable by its distance, with its name for messages. -/
  | var (distance : Nat) (name : String)
  | index (object key : Expr) (line : Nat)
  | call (function : Expr) (args : List Expr) (line : Nat)
  | method (object : Expr) (name : Bytes) (args : List Expr) (line : Nat)
  | lambda (body : FunctionBody)
  | both (left right : Expr)
  | either (left right : Expr)
  | binary (op : BinaryOp) (left right : Expr) (line : Nat)
  | unary (op : UnaryOp) (operand : Expr) (line : Nat)
  /-- An expression in parentheses has one value. -/
  | paren (e : Expr)
  /-- A table with room for list items and for other entries. -/
  | table (items entries : Nat) (fields : List Field) (line : Nat)

/-- A field of a table constructor. -/
inductive Field where
  | item (e : Expr)
  | entry (key value : Expr)

/-- A function: the number of its parameters, whether it takes more arguments, and its body. -/
inductive FunctionBody where
  | mk (params : Nat) (variadic : Bool) (body : List Stat)

/-- A statement. -/
inductive Stat where
  | locals (kinds : List LocalKind) (values : List Expr) (line : Nat)
  | assign (targets values : List Expr) (line : Nat)
  | call (e : Expr)
  | block (body : List Stat)
  | whileLoop (condition : Expr) (body : List Stat)
  /-- A loop that only leaving ends. -/
  | loop (body : List Stat)
  /-- Leaves the innermost loop when the condition holds. -/
  | leaveIf (condition : Expr)
  | branch (condition : Expr) (body otherwise : List Stat)
  | numericFor (start stop : Expr) (step : Option Expr) (body : List Stat) (line : Nat)
  | genericFor (names : Nat) (values : List Expr) (body : List Stat) (line : Nat)
  /-- A local function, which sees itself. -/
  | localFunction (body : FunctionBody)
  | give (values : List Expr)
  /-- Returns what a call returns, in place of the running function. -/
  | giveCall (e : Expr)
  | leave
  | jump (label : String)
  | label (name : String) (scope : Nat)

end

instance : Inhabited Expr := ⟨.vararg⟩

instance : Inhabited Stat := ⟨.leave⟩

instance : Inhabited FunctionBody := ⟨.mk 0 false []⟩

end TableSeed.Lua
