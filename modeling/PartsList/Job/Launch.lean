import PartsList.Extraction.Library
import PartsList.Job.Run

/-!
# Launching a job

A job needs an engine before anything else: without the library it does not even look at its
settings.
-/

namespace PartsList

/-- What the program finds around it. -/
structure Surroundings where
  /-- The user's home directory. -/
  home : Path
  /-- Log filter that the environment names. -/
  logFilter : Option String := none
  /-- Path of the library that the environment names. -/
  libraryPath : Option Path := none
  /-- Loads the library. -/
  loader : Loader
  /-- The machine. -/
  host : Host
  /-- Time of day. -/
  today : Timestamp

namespace Surroundings

/-- Where the library for a job is looked for. -/
def libraryPlace (surroundings : Surroundings) (settings : Settings) : LibraryPlace :=
  .choose settings.libraryPath surroundings.libraryPath

/-- Loads the library and runs a job with it. -/
def launch (surroundings : Surroundings) (settings : Settings) (interrupted : Bool) (disk : Disk) :
    Except JobFailure Progress :=
  match (surroundings.libraryPlace settings).engine surroundings.loader with
  | .error error => .error { error := .engine error, disk := disk }
  | .ok engine =>
    Job.run
      { settings := settings
        engine := engine
        host := surroundings.host
        today := surroundings.today }
      interrupted disk

end Surroundings

end PartsList
