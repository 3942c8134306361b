import PartsList.Disk.Operations
import PartsList.Number.Binary
import PartsList.Settings.Basic
import PartsList.Toml.Reader

/-!
# Settings files

How settings are read from a TOML file.  What the file does not mention keeps the value that applies
when nothing is said, and what no setting is named after is passed over.
-/

namespace PartsList

namespace Toml

/-- A text. -/
def toText? : Toml → Option String
  | .text value => some value
  | _ => none

/-- A path. -/
def toPath? (value : Toml) : Option Path :=
  value.toText?.map Path.mk

/-- A truth value. -/
def toBool? : Toml → Option Bool
  | .boolean value => some value
  | _ => none

/-- A natural number below `limit`. -/
def toNat? (limit : Nat) : Toml → Option Nat
  | .integer value => if 0 ≤ value ∧ value < limit then some value.toNat else none
  | _ => none

/-- A machine word. -/
def toWord? : Toml → Option Nat :=
  toNat? Word.size

/-- A coordinate.  An integer is rounded once. -/
def toCoordinate? : Toml → Option Coordinate
  | .float value => some (narrowed value)
  | .integer value =>
    let magnitude := value.natAbs.toUInt64.toFloat32
    some (if value < 0 then -magnitude else magnitude)
  | _ => none

/-- An array of texts. -/
def toTexts? : Toml → Option (List String)
  | .array items => items.mapM toText?
  | _ => none

/-- The fields of a record in the order of their names.  A record is a table or an array of its
first fields; a date counts as a table without any. -/
def toFields? (names : List String) : Toml → Option (List (Option Toml))
  | .table entries =>
    some (names.map fun name => (entries.find? (·.1 == name)).map (·.2))
  | .array items =>
    some ((items.take names.length).map some ++
      List.replicate (names.length - items.length) none)
  | .dateTime => some (names.map fun _ => none)
  | _ => none

/-- A field that has a value when it is missing. -/
def field {α : Type} (reader : Toml → Option α) (standard : α) (given : Option Toml) : Option α :=
  match given with
  | some value => reader value
  | none => some standard

/-- A field that may be missing. -/
def optional {α : Type} (reader : Toml → Option α) (standard : Option α) (given : Option Toml) :
    Option (Option α) :=
  match given with
  | some value => (reader value).map some
  | none => some standard

end Toml

namespace RetryPolicy

/-- The policy that a value describes. -/
def ofToml? (value : Toml) : Option RetryPolicy := do
  let standard : RetryPolicy := {}
  match ← value.toFields? ["enabled", "max_retries"] with
  | [enabled, maxRetries] =>
    return {
      enabled := ← Toml.field Toml.toBool? standard.enabled enabled
      maxRetries := ← Toml.field (Toml.toNat? (Nat.pow 2 32)) standard.maxRetries maxRetries }
  | _ => none

end RetryPolicy

namespace Layout

/-- Names of the fields in their order. -/
def fieldNames : List String :=
  ["anchor_text", "header_keywords", "secondary_header", "terminator", "width_labels",
   "termination_keywords", "row_tolerance_y", "column_tolerance_x", "noise_leading_columns"]

/-- The layout that a value describes. -/
def ofToml? (value : Toml) : Option Layout := do
  let standard : Layout := {}
  match ← value.toFields? fieldNames with
  | [anchorText, headerKeywords, secondaryHeader, terminator, widthLabels, terminationKeywords,
      rowToleranceY, columnToleranceX, noiseLeadingColumns] =>
    return {
      anchorText := ← Toml.field Toml.toText? standard.anchorText anchorText
      headerKeywords := ← Toml.field Toml.toTexts? standard.headerKeywords headerKeywords
      secondaryHeader := ← Toml.field Toml.toText? standard.secondaryHeader secondaryHeader
      terminator := ← Toml.field Toml.toText? standard.terminator terminator
      widthLabels := ← Toml.field Toml.toTexts? standard.widthLabels widthLabels
      terminationKeywords :=
        ← Toml.field Toml.toTexts? standard.terminationKeywords terminationKeywords
      rowToleranceY := ← Toml.field Toml.toCoordinate? standard.rowToleranceY rowToleranceY
      columnToleranceX :=
        ← Toml.field Toml.toCoordinate? standard.columnToleranceX columnToleranceX
      noiseLeadingColumns :=
        ← Toml.field Toml.toWord? standard.noiseLeadingColumns noiseLeadingColumns }
  | _ => none

end Layout

/-- Why a settings file cannot be used. -/
inductive ConfigError
  /-- The file cannot be read. -/
  | io (path : Path) (error : OsError)
  /-- The file is no TOML text, or a setting has the wrong form. -/
  | unreadable (path : Path)
  /-- A setting makes no sense. -/
  | invalid (error : SettingError)
deriving DecidableEq, Repr

namespace ConfigError

/-- The error in words. -/
def message : ConfigError → String
  | io path error => "I/O error reading " ++ path.spelling ++ ": " ++ error.message
  | unreadable path => "Invalid configuration file " ++ path.spelling
  | invalid error => error.message

end ConfigError

namespace Settings

/-- Names of the fields in their order. -/
def fieldNames : List String :=
  ["input_dir", "rows_output", "summary_output", "database_path", "checkpoint_path",
   "fallback_dir", "max_files", "workers", "per_file_timeout_secs", "max_file_size_mb",
   "max_memory_per_worker_mb", "writer_pool_size", "retry", "resume", "retry_failed_only", "debug",
   "heartbeat_interval_ms", "stall_multiple", "batch_rows", "batch_interval_ms",
   "writer_send_timeout_ms", "join_timeout_secs", "pdfium_library_path", "layout"]

/-- The settings with those that a value describes in their place. -/
def override? (base : Settings) (value : Toml) : Option Settings := do
  match ← value.toFields? fieldNames with
  | [inputDir, rowsOutput, summaryOutput, databasePath, checkpointPath, fallbackDir, maxFiles,
      workers, perFileTimeoutSecs, maxFileSizeMb, maxMemoryPerWorkerMb, writerPoolSize, retry,
      resume, retryFailedOnly, debug, heartbeatIntervalMs, stallMultiple, batchRows,
      batchIntervalMs, writerSendTimeoutMs, joinTimeoutSecs, libraryPath, layout] =>
    return {
      inputDir := ← Toml.field Toml.toPath? base.inputDir inputDir
      rowsOutput := ← Toml.field Toml.toPath? base.rowsOutput rowsOutput
      summaryOutput := ← Toml.field Toml.toPath? base.summaryOutput summaryOutput
      databasePath := ← Toml.field Toml.toPath? base.databasePath databasePath
      checkpointPath := ← Toml.field Toml.toPath? base.checkpointPath checkpointPath
      fallbackDir := ← Toml.field Toml.toPath? base.fallbackDir fallbackDir
      maxFiles := ← Toml.field Toml.toWord? base.maxFiles maxFiles
      workers := ← Toml.optional Toml.toWord? base.workers workers
      perFileTimeoutSecs :=
        ← Toml.field Toml.toWord? base.perFileTimeoutSecs perFileTimeoutSecs
      maxFileSizeMb := ← Toml.field Toml.toWord? base.maxFileSizeMb maxFileSizeMb
      maxMemoryPerWorkerMb :=
        ← Toml.field Toml.toWord? base.maxMemoryPerWorkerMb maxMemoryPerWorkerMb
      writerPoolSize := ← Toml.field Toml.toWord? base.writerPoolSize writerPoolSize
      retry := ← Toml.field RetryPolicy.ofToml? base.retry retry
      resume := ← Toml.field Toml.toBool? base.resume resume
      retryFailedOnly := ← Toml.field Toml.toBool? base.retryFailedOnly retryFailedOnly
      debug := ← Toml.field Toml.toBool? base.debug debug
      heartbeatIntervalMs :=
        ← Toml.field Toml.toWord? base.heartbeatIntervalMs heartbeatIntervalMs
      stallMultiple := ← Toml.field (Toml.toNat? (Nat.pow 2 32)) base.stallMultiple stallMultiple
      batchRows := ← Toml.field Toml.toWord? base.batchRows batchRows
      batchIntervalMs := ← Toml.field Toml.toWord? base.batchIntervalMs batchIntervalMs
      writerSendTimeoutMs :=
        ← Toml.field Toml.toWord? base.writerSendTimeoutMs writerSendTimeoutMs
      joinTimeoutSecs := ← Toml.field Toml.toWord? base.joinTimeoutSecs joinTimeoutSecs
      libraryPath := ← Toml.optional Toml.toPath? base.libraryPath libraryPath
      layout := ← Toml.field Layout.ofToml? base.layout layout }
  | _ => none

/-- The settings that the text of a file describes. -/
def ofFileText? (base : Settings) (text : String) : Option Settings :=
  (Toml.read text).bind base.override?

/-- Reads settings from a file and checks them. -/
def load (base : Settings) (path : Path) (disk : Disk) : Except ConfigError Settings × Disk :=
  match Disk.readText path disk with
  | (.error error, disk) => (.error (.io path error), disk)
  | (.ok text, disk) =>
    match base.ofFileText? text with
    | none => (.error (.unreadable path), disk)
    | some settings =>
      match settings.validate with
      | .error error => (.error (.invalid error), disk)
      | .ok () => (.ok settings, disk)

end Settings

end PartsList
