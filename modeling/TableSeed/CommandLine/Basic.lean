import TableSeed.Settings.Basic

/-!
# Command lines

A command line names one of two commands: to seed the tables of a document, or to list the tables
of a database. It may instead ask for help or for the version.
-/

namespace TableSeed.CommandLine

/-- What `seed` is given. -/
structure SeedArguments where
  /-- The path of the document. -/
  document : String
  /-- The path of the file of settings. -/
  config : Option String := none
  noColor : Bool := false
  options : SettingOptions := {}
  deriving DecidableEq, Repr

/-- What `tables` is given. -/
structure TablesArguments where
  database : Option String := none
  /-- The path of the file of settings. -/
  config : Option String := none
  noColor : Bool := false
  deriving DecidableEq, Repr

/-- A command. -/
inductive Command where
  | seed (a : SeedArguments)
  | tables (a : TablesArguments)
  deriving DecidableEq, Repr

/-- What a command line asks for. -/
structure Invocation where
  verbose : Bool
  command : Command
  deriving DecidableEq, Repr

/-- What is wrong with a command line. -/
inductive UsageError where
  /-- There is no such option, or no such argument is expected. -/
  | unknownArgument (argument : String)
  /-- An option has no value. -/
  | noValue (option : String)
  /-- A path is empty. -/
  | emptyValue (option : String)
  /-- A value is no number of 64 bits. -/
  | notANumber (option value : String)
  /-- An option that takes no value has one. -/
  | tooManyValues (option : String)
  /-- An option is given twice. -/
  | repeated (option : String)
  /-- There is no such command. -/
  | unknownCommand (name : String)
  /-- Only options are given. -/
  | noCommand
  /-- Nothing is given. -/
  | nothing
  /-- The document is not given. -/
  | noDocument
  deriving DecidableEq, Repr

namespace UsageError

/-- The message of the error. -/
def message : UsageError → String
  | .unknownArgument argument => s!"unexpected argument '{argument}'"
  | .noValue option => s!"a value is required for '{option}'"
  | .emptyValue option => s!"the value for '{option}' is empty"
  | .notANumber option value => s!"invalid value '{value}' for '{option}'"
  | .tooManyValues option => s!"'{option}' takes no value"
  | .repeated option => s!"'{option}' is given more than once"
  | .unknownCommand name => s!"unrecognized command '{name}'"
  | .noCommand | .nothing => "a command is required: seed or tables"
  | .noDocument => "the path of a seed document is required"

end UsageError

/-- Why a command line is no invocation. -/
inductive Interruption where
  | wrong (e : UsageError)
  /-- It asks for help. -/
  | help
  /-- It asks for the version. -/
  | version
  deriving DecidableEq, Repr

end TableSeed.CommandLine
