/-!
# Environments

An environment gives variables their values. A variable keeps the first value that it is given.
-/

namespace TableSeed

/-- The variables that have a value, in the order in which they were given one. -/
structure Environment where
  values : List (String × String) := []
  deriving DecidableEq, Repr

namespace Environment

/-- The value of a variable. -/
def get? (e : Environment) (name : String) : Option String := e.values.lookup name

/-- Gives a variable a value, unless it has one. -/
def define (e : Environment) (name value : String) : Environment :=
  if (e.get? name).isSome then e else ⟨e.values ++ [(name, value)]⟩

/-- The directory below which programs keep their settings. -/
def settingsDirectory? (e : Environment) : Option String :=
  match (e.get? "XDG_CONFIG_HOME").filter (·.startsWith "/") with
  | some directory => some directory
  | none => ((e.get? "HOME").filter fun home => !home.isEmpty).map fun home => home ++ "/.config"

end Environment

end TableSeed
