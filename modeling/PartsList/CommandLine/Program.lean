import PartsList.CommandLine.Options
import PartsList.Job.Launch
import PartsList.Log.Filter
import PartsList.Settings.File

/-!
# The program

What the program does with its command line: it reads the options and the settings file, checks the
settings before and behind the options, says that it starts, and launches the job.
-/

namespace PartsList

/-- What keeps the program from finishing its job. -/
inductive ProgramError
  /-- The settings cannot be used. -/
  | config (error : ConfigError)
  /-- The job cannot go on. -/
  | job (error : JobError)
deriving DecidableEq, Repr

namespace ConfigError

/-- What is behind the error, in words. -/
def causes : ConfigError → List String
  | io _ error => [error.message]
  | unreadable _ | invalid _ => []

end ConfigError

namespace JobError

/-- What is behind the error, in words, the nearest cause first. -/
def causes : JobError → List String
  | config error => [error.message]
  | database error => [error.message]
  | checkpoint error => [error.message]
  | spill error => [error.message]
  | engine error => [error.message]
  | output _ error => [error.message]
  | io error => [error.message]
  | inputNotFound _ | overflow _ => []

end JobError

namespace ProgramError

/-- The error in words. -/
def message : ProgramError → String
  | config error => error.message
  | job error => error.message

/-- What is behind the error, in words, the nearest cause first. -/
def causes : ProgramError → List String
  | config error => error.causes
  | job error => error.causes

/-- Causes one below the other; several of them are numbered. -/
def causesText : List String → String
  | [] => ""
  | [cause] => "\n\nCaused by:\n    " ++ cause
  | causes =>
    "\n\nCaused by:" ++
      String.join (causes.mapIdx fun index cause => "\n    " ++ toString index ++ ": " ++ cause)

/-- What the program says about the error. -/
def text (error : ProgramError) : String :=
  "Error: " ++ error.message ++ causesText error.causes

end ProgramError

/-- How the program ends. -/
inductive Ending
  /-- It is told nothing that asks for a job. -/
  | refused (refusal : Refusal)
  /-- Its log filter would cut a character in two, and it breaks down. -/
  | brokeDown
  /-- It cannot finish its job. -/
  | failed (error : ProgramError)
  /-- The job is finished. -/
  | finished (report : Report)

namespace Ending

/-- The exit code. -/
def exitCode : Ending → Nat
  | refused .usage => 2
  | refused _ => 0
  | brokeDown => 101
  | failed _ => 1
  | finished report => report.exitCode

end Ending

/-- A run of the program. -/
structure ProgramRun where
  /-- The lines of the log that are written. -/
  log : List LogLine := []
  /-- How it ends. -/
  ending : Ending
  /-- The disk at the end. -/
  disk : Disk

namespace Program

/-- What the program says about its version. -/
def versionText : String := "bomharvest " ++ appVersion

/-- How the program is called. -/
def usageText : String := "Usage: bomharvest [OPTIONS]"

/-- The line of the help text for an option. -/
def helpLine (name : OptionName) : String :=
  let letter := name.letter?.elim "    " fun letter => "-" ++ letter.toString ++ ", "
  let value :=
    match name.kind with
    | .absent => ""
    | .path => " <PATH>"
    | .number => " <NUMBER>"
  "\n  " ++ letter ++ "--" ++ name.spelling ++ value

/-- What the program says when it is asked for help. -/
def helpText : String :=
  usageText ++ "\n\nOptions:" ++ String.join (OptionName.all.map helpLine)

/-- The first line of the log. -/
def greeting : LogLine where
  level := .info
  target := "bomharvest"
  message := appName ++ " starting v" ++ appVersion

/-- The settings from the settings file, if one is named. -/
def fileSettings (options : Options) (home : Path) (disk : Disk) :
    Except ConfigError Settings × Disk :=
  match options.path? .config with
  | some path => (Settings.standard home).load path disk
  | none => (.ok (Settings.standard home), disk)

/-- The settings of the file with the options in their place. -/
def settings (options : Options) (home : Path) (disk : Disk) : Except ConfigError Settings × Disk :=
  match fileSettings options home disk with
  | (.error error, disk) => (.error error, disk)
  | (.ok settings, disk) =>
    let settings := options.override settings
    match settings.validate with
    | .error error => (.error (.invalid error), disk)
    | .ok () => (.ok settings, disk)

/-- What the log says of a job up to the loading of the library, if there can be a log. -/
def openingLines? (surroundings : Surroundings) (settings : Settings) : Option (List LogLine) :=
  (LogFilter.choose? surroundings.logFilter settings.debug).map fun filter =>
    filter.select (greeting :: (surroundings.libraryPlace settings).announcement)

/-- Runs a job with the given settings. -/
def runJob (surroundings : Surroundings) (settings : Settings) (interrupted : Bool) (disk : Disk) :
    ProgramRun :=
  match openingLines? surroundings settings with
  | none => { ending := .brokeDown, disk := disk }
  | some log =>
    match surroundings.launch settings interrupted disk with
    | .error failure =>
      { log := log, ending := .failed (.job failure.error), disk := failure.disk }
    | .ok progress => { log := log, ending := .finished progress.report, disk := progress.disk }

/-- Runs the program on a command line. -/
def run (surroundings : Surroundings) (words : List String) (disk : Disk) : ProgramRun :=
  match Options.read words with
  | .error refusal => { ending := .refused refusal, disk := disk }
  | .ok options =>
    match settings options surroundings.home disk with
    | (.error error, disk) => { ending := .failed (.config error), disk := disk }
    | (.ok settings, disk) => runJob surroundings settings false disk

end Program

end PartsList
