import TableSeed.Lua.Numeral
import TableSeed.Text.Bytes

/-!
# Lua values

Tables and closures live in a heap and are values by reference. The functions of the libraries are
values by name, so that a value holds no code. A failure is the error value of a function that is
not written in Lua. A key is a value that can index a table: neither nil nor NaN, and a whole float
is the integer it equals.
-/

namespace TableSeed.Lua

/-- The place of a table in the heap. -/
structure TableRef where
  index : Nat
  deriving DecidableEq, Repr, Inhabited

/-- The place of a variable in the heap. -/
structure CellRef where
  index : Nat
  deriving DecidableEq, Repr, Inhabited

/-- The place of a closure in the heap. -/
structure ClosureRef where
  index : Nat
  deriving DecidableEq, Repr, Inhabited

/-- The basic functions. -/
inductive BaseFunction where
  | assert | error | getmetatable | ipairs | next | pairs | pcall | print | rawequal | rawget
  | rawlen | rawset | select | setmetatable | tonumber | tostring | type | warn | xpcall
  /-- The iterator that `ipairs` gives. -/
  | ipairsStep
  deriving DecidableEq, Repr, Ord

/-- The string functions. -/
inductive StringFunction where
  | byte | char | dump | find | format | gmatch | gsub | len | lower | «match» | pack | packsize
  | rep | reverse | sub | unpack | upper
  deriving DecidableEq, Repr, Ord

/-- The table functions. -/
inductive TableFunction where
  | concat | insert | move | pack | remove | sort | unpack
  deriving DecidableEq, Repr, Ord

/-- The mathematical functions. -/
inductive MathFunction where
  | abs | acos | asin | atan | ceil | cos | cosh | deg | exp | floor | fmod | frexp | ldexp | log
  | log10 | max | min | modf | pow | rad | random | randomseed | sin | sinh | sqrt | tan | tanh
  | tointeger | type | ult
  deriving DecidableEq, Repr, Ord

/-- The UTF-8 functions. -/
inductive Utf8Function where
  | char | codepoint | codes | len | offset
  /-- The iterator that `codes` gives; a lax one takes any number below `2^31`. -/
  | codesStep (lax : Bool)
  deriving DecidableEq, Repr, Ord

/-- The functions of the helper library for seed documents. -/
inductive HelperFunction where
  | guid | isGuid | now | timestamp | parseDate | formatDate | addDays | lower | upper | trim
  | split | contains | startsWith | endsWith | isNil | isString | isNumber | isTable | isBoolean
  | log | warn
  deriving DecidableEq, Repr, Ord

/-- A function that is not written in Lua. -/
inductive Builtin where
  | base (f : BaseFunction)
  | string (f : StringFunction)
  | table (f : TableFunction)
  | math (f : MathFunction)
  | utf8 (f : Utf8Function)
  | helper (f : HelperFunction)
  /-- The iterator that `gmatch` gives; its progress is kept in a table of its own. -/
  | gmatchStep (state : Nat)
  deriving DecidableEq, Repr, Ord

/-- The error value of a function that is not written in Lua. -/
inductive Failure where
  /-- The chunk has used up its instructions. -/
  | instructionLimit (limit : Nat)
  /-- A helper was called with arguments it does not take. -/
  | badCall (text : String)
  /-- A helper could not go on. The whole run ends as soon as the value comes out of the language. -/
  | aborted
  deriving DecidableEq, Repr, Ord

namespace Failure

/-- The message of the failure. -/
def message : Failure → String
  | .instructionLimit limit => s!"instruction limit of {limit} exceeded"
  | .badCall text => text
  | .aborted => "a Display implementation returned an error unexpectedly: Error"

end Failure

/-- A Lua value. -/
inductive Value where
  | nil
  | boolean (b : Bool)
  | integer (n : Int64)
  | float (x : Binary64)
  | string (s : Bytes)
  | table (r : TableRef)
  | closure (r : ClosureRef)
  | builtin (f : Builtin)
  | failure (f : Failure)
  deriving DecidableEq, Inhabited

/-- A value that can index a table. -/
inductive Key where
  | boolean (b : Bool)
  | integer (n : Int64)
  | float (x : Binary64)
  | string (s : Bytes)
  | table (r : TableRef)
  | closure (r : ClosureRef)
  | builtin (f : Builtin)
  | failure (f : Failure)
  deriving DecidableEq

namespace Key

/-- The kinds of keys in their order. -/
def rank : Key → Nat
  | .integer _ => 0
  | .string _ => 1
  | .boolean _ => 2
  | .float _ => 3
  | .table _ => 4
  | .closure _ => 5
  | .builtin _ => 6
  | .failure _ => 7

/-- A total order of keys: integers first, then strings by their bytes. -/
def order : Key → Key → Ordering
  | .integer a, .integer b => if a < b then .lt else if a = b then .eq else .gt
  | .string a, .string b => Bytes.order a b
  | .boolean a, .boolean b => compare a.toNat b.toNat
  | .float a, .float b => compare a.bits b.bits
  | .table a, .table b => compare a.index b.index
  | .closure a, .closure b => compare a.index b.index
  | .builtin a, .builtin b => compare a b
  | .failure a, .failure b => compare a b
  | a, b => compare a.rank b.rank

/-- The key as a value. -/
def toValue : Key → Value
  | .boolean b => .boolean b
  | .integer n => .integer n
  | .float x => .float x
  | .string s => .string s
  | .table r => .table r
  | .closure r => .closure r
  | .builtin f => .builtin f
  | .failure f => .failure f

/-- The key of a text. -/
def ofText (s : String) : Key := .string (Bytes.ofText s)

end Key

/-- The integer that a float is exactly, when it fits 64 bits. -/
def Num.floatToInt64? (x : Binary64) : Option Int64 :=
  match x.toInt? with
  | some n => if -0x8000000000000000 ≤ n ∧ n < 0x8000000000000000 then some (Int64.ofInt n) else none
  | none => none

namespace Value

/-- The value of a text. -/
def ofText (s : String) : Value := .string (Bytes.ofText s)

/-- The value of a number. -/
def ofNum : Num → Value
  | .integer n => .integer n
  | .float x => .float x

/-- The key that a value is; none for nil and NaN. -/
def toKey? : Value → Option Key
  | .nil => none
  | .boolean b => some (.boolean b)
  | .integer n => some (.integer n)
  | .float x =>
    match Num.floatToInt64? x with
    | some n => some (.integer n)
    | none => if x.isNaN then none else some (.float x)
  | .string s => some (.string s)
  | .table r => some (.table r)
  | .closure r => some (.closure r)
  | .builtin f => some (.builtin f)
  | .failure f => some (.failure f)

/-- Whether the value is the failure of a helper that could not go on. -/
def isAborted : Value → Bool
  | .failure .aborted => true
  | _ => false

/-- All values but nil and false are true. -/
@[inline] def truthy : Value → Bool
  | .nil => false
  | .boolean b => b
  | _ => true

/-- Whether the value is nil. -/
@[inline] def isNil : Value → Bool
  | .nil => true
  | _ => false

/-- The name of a value's type. -/
def typeName : Value → String
  | .nil => "nil"
  | .boolean _ => "boolean"
  | .integer _ => "number"
  | .float _ => "number"
  | .string _ => "string"
  | .table _ => "table"
  | .closure _ => "function"
  | .builtin _ => "function"
  | .failure _ => "userdata"

end Value

end TableSeed.Lua
