import PartsList.Log.Directive
import PartsList.Settings.Basic

/-!
# The log filter

A filter is a list of directives and decides which lines of the log are written.  Of the directives
that apply to a line the most specific one decides, and of several that are as specific the last
one.
-/

namespace PartsList

/-- Directives in the order in which they are given. -/
structure LogFilter where
  /-- The directives. -/
  directives : List LogDirective
deriving DecidableEq, Repr

namespace LogFilter

/-- Name of the environment variable that names a filter. -/
def variableName : String := "RUST_LOG"

/-- Reads directives with commas between them, up to the first that cannot be read.  Nothing between
two commas is no directive. -/
def read (text : String) : Except DirectiveFault LogFilter :=
  (((text.splitOn ",").filter (· != "")).mapM LogDirective.read).map LogFilter.mk

/-- The filter that applies when none is named. -/
def standard (debug : Bool) : LogFilter :=
  (read (defaultLogFilter debug)).toOption.getD ⟨[]⟩

/-- The filter that applies: the one the environment names, unless it cannot be read.  There is none
when a part of the named one would begin or end inside a character. -/
def choose? (environment : Option String) (debug : Bool) : Option LogFilter :=
  match environment.map read with
  | some (.ok filter) => some filter
  | some (.error .severed) => none
  | some (.error .unreadable) | none => some (standard debug)

/-- The directive that decides about a line. -/
def deciding? (filter : LogFilter) (line : LogLine) : Option LogDirective :=
  match filter.directives.filter (·.appliesTo line) with
  | [] => none
  | first :: rest => some (rest.foldl LogDirective.moreSpecific first)

/-- The line is written. -/
def passes (filter : LogFilter) (line : LogLine) : Bool :=
  match filter.deciding? line with
  | some directive => line.level.verbosity ≤ directive.verbosity
  | none => false

/-- The lines that are written. -/
def select (filter : LogFilter) (lines : List LogLine) : List LogLine :=
  lines.filter filter.passes

end LogFilter

end PartsList
