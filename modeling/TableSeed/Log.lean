/-!
# Log lines

A run tells what it does in lines of text with a level. Lines are kept in the order in which they
are written.
-/

namespace TableSeed

/-- How much a log line matters. -/
inductive LogLevel where
  | debug | info | warn
  deriving DecidableEq, Repr

/-- One line of the log. -/
structure LogLine where
  level : LogLevel
  text : String
  deriving DecidableEq, Repr

namespace LogLevel

/-- The name of the level. -/
def name : LogLevel → String
  | .debug => "DEBUG"
  | .info => "INFO"
  | .warn => "WARN"

end LogLevel

/-- The lines written so far, newest first. -/
abbrev Log := List LogLine

namespace Log

/-- Adds a line. -/
def write (log : Log) (level : LogLevel) (text : String) : Log := ⟨level, text⟩ :: log

/-- The lines in the order in which they were written. -/
def lines (log : Log) : List LogLine := log.reverse

end Log

end TableSeed
