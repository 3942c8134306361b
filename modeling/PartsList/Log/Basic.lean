/-!
# Log lines

Lines of the log: how much each matters, which part of the program it comes from, and which values
it tells.
-/

namespace PartsList

/-- How much a line matters. -/
inductive LogLevel
  /-- Something failed. -/
  | error
  /-- Something is out of the ordinary. -/
  | warn
  /-- The course of the program. -/
  | info
  /-- Details of its course. -/
  | debug
  /-- Everything else. -/
  | trace
deriving DecidableEq, Repr

namespace LogLevel

/-- The level as it is written in front of a line. -/
def name : LogLevel → String
  | error => "ERROR"
  | warn => "WARN"
  | info => "INFO"
  | debug => "DEBUG"
  | trace => "TRACE"

/-- The least verbosity at which lines of the level are written. -/
def verbosity : LogLevel → Nat
  | error => 1
  | warn => 2
  | info => 3
  | debug => 4
  | trace => 5

end LogLevel

/-- A line of the log. -/
structure LogLine where
  /-- How much it matters. -/
  level : LogLevel
  /-- The part of the program that it comes from. -/
  target : String
  /-- What it says. -/
  message : String
  /-- Names of the values that it tells. -/
  fields : List String := ["message"]
deriving DecidableEq, Repr

end PartsList
