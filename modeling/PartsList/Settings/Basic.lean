import PartsList.Number.Word
import PartsList.Path
import PartsList.Settings.Layout
import PartsList.Text.CharClass

/-!
# Settings

All that can be chosen for a run, the choices that are made when nothing is said, and the check
that a choice makes sense.
-/

namespace PartsList

/-- The name under which the program presents itself. -/
def appName : String := "Bomharvest"

/-- The version of the program. -/
def appVersion : String := "0.6.0"

/-- The directory for the program's own files, below the user's home directory. -/
def appDirectory (home : Path) : Path :=
  home.join ".bomharvest"

/-- Log filter that applies when the environment names none. -/
def defaultLogFilter (debug : Bool) : String :=
  if debug then "bomharvest=debug,info" else "bomharvest=info,warn"

/-- When a file gets another attempt. -/
structure RetryPolicy where
  /-- Failures of the machine earn another attempt. -/
  enabled : Bool := false
  /-- How many further attempts a file gets at most. -/
  maxRetries : Nat := 1
deriving DecidableEq, Repr

/-- The choices for a run. -/
structure Settings where
  /-- Directory that is searched for documents. -/
  inputDir : Path
  /-- File for the rows. -/
  rowsOutput : Path
  /-- File for the summaries. -/
  summaryOutput : Path
  /-- File of the store. -/
  databasePath : Path
  /-- File of the checkpoint. -/
  checkpointPath : Path
  /-- Directory of the spill files. -/
  fallbackDir : Path
  /-- How many files are processed at most; zero for all. -/
  maxFiles : Nat
  /-- Number of workers, when it is not derived from the host. -/
  workers : Option Nat
  /-- How long one file may take. -/
  perFileTimeoutSecs : Nat
  /-- How large a file may be. -/
  maxFileSizeMb : Nat
  /-- Most memory that is planned for one worker. -/
  maxMemoryPerWorkerMb : Nat
  /-- Number of writers. -/
  writerPoolSize : Nat
  /-- When a file gets another attempt. -/
  retry : RetryPolicy
  /-- Files of the checkpoint are skipped. -/
  resume : Bool
  /-- Only the failed files of the checkpoint are processed. -/
  retryFailedOnly : Bool
  /-- More is logged. -/
  debug : Bool
  /-- Time between two signs of life of a worker. -/
  heartbeatIntervalMs : Nat
  /-- How many missing signs of life make a worker count as stalled. -/
  stallMultiple : Nat
  /-- How many rows or results a writer collects before it commits them. -/
  batchRows : Nat
  /-- How long a writer collects results before it commits them. -/
  batchIntervalMs : Nat
  /-- How long a full writer is waited for. -/
  writerSendTimeoutMs : Nat
  /-- How long workers and writers are waited for at the end. -/
  joinTimeoutSecs : Nat
  /-- The library that reads documents. -/
  libraryPath : Option Path
  /-- The labels and distances of the table. -/
  layout : Layout

namespace Settings

/-- The choices that are made when nothing is said, for a user with the given home directory. -/
def standard (home : Path) : Settings where
  inputDir := ⟨"."⟩
  rowsOutput := ⟨"bom_rows.csv"⟩
  summaryOutput := ⟨"bom_summary.csv"⟩
  databasePath := (appDirectory home).join "bom.sqlite"
  checkpointPath := (appDirectory home).join "checkpoint.json"
  fallbackDir := (appDirectory home).join "fallback"
  maxFiles := 0
  workers := none
  perFileTimeoutSecs := 120
  maxFileSizeMb := 200
  maxMemoryPerWorkerMb := 4096
  writerPoolSize := 2
  retry := {}
  resume := false
  retryFailedOnly := false
  debug := false
  heartbeatIntervalMs := 2000
  stallMultiple := 5
  batchRows := 500
  batchIntervalMs := 2000
  writerSendTimeoutMs := 10000
  joinTimeoutSecs := 30
  libraryPath := none
  layout := {}

end Settings

/-- A setting that makes no sense. -/
structure SettingError where
  /-- The setting. -/
  field : String
  /-- What is wrong with it. -/
  reason : String
deriving DecidableEq, Repr

namespace SettingError

/-- The error in words. -/
def message (error : SettingError) : String :=
  "Invalid setting " ++ error.field ++ ": " ++ error.reason

end SettingError

namespace Settings

/-- The rules that settings have to keep, each with the error that its violation is. -/
def rules (settings : Settings) : List (Bool × SettingError) :=
  [(settings.writerPoolSize != 0, ⟨"writer_pool_size", "must be at least 1"⟩),
   (settings.workers != some 0, ⟨"workers", "must be at least 1 when set"⟩),
   (settings.perFileTimeoutSecs != 0, ⟨"per_file_timeout_secs", "must be positive"⟩),
   (settings.heartbeatIntervalMs != 0 && settings.stallMultiple != 0,
     ⟨"heartbeat_interval_ms", "heartbeat interval and stall multiple must be positive"⟩),
   (settings.batchRows != 0, ⟨"batch_rows", "must be at least 1"⟩),
   (settings.batchIntervalMs != 0, ⟨"batch_interval_ms", "must be positive"⟩),
   (!Text.isBlankText settings.layout.anchorText, ⟨"layout.anchor_text", "must not be empty"⟩),
   (!Text.isBlankText settings.layout.terminator, ⟨"layout.terminator", "must not be empty"⟩),
   (decide ((0 : Coordinate) < settings.layout.rowToleranceY) &&
      decide ((0 : Coordinate) < settings.layout.columnToleranceX),
     ⟨"layout", "tolerances must be positive"⟩)]

/-- The first rule that the settings break, if any. -/
def validate (settings : Settings) : Except SettingError Unit :=
  match settings.rules.find? (!·.1) with
  | some (_, error) => .error error
  | none => .ok ()

/-- How large a file may be, in bytes; the largest word when that is less. -/
def maxFileSizeBytes (settings : Settings) : Nat :=
  Word.mulUpTo settings.maxFileSizeMb (1024 * 1024)

end Settings

end PartsList
