import TableSeed.Lua.Library.Basics
import TableSeed.Lua.Library.Helpers
import TableSeed.Lua.Library.Mathematics
import TableSeed.Lua.Library.Strings
import TableSeed.Lua.Library.Tables
import TableSeed.Lua.Library.Utf8Text

/-!
# Library functions

What each function that is not written in Lua does.
-/

namespace TableSeed.Lua

/-- What a library function does with its arguments. -/
def Builtin.run (f : Builtin) (args : List Value) : Action (List Value) :=
  match f with
  | .base f => f.run args
  | .string f => f.run args
  | .table f => f.run args
  | .math f => f.run args
  | .utf8 f => f.run args
  | .helper f => f.run args
  | .gmatchStep state => Strings.gmatchStep ⟨state⟩

end TableSeed.Lua
