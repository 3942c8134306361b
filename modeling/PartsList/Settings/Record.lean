import PartsList.Json.Value
import PartsList.Number.Shortest
import PartsList.Settings.Basic

/-!
# Settings as JSON values

The settings written out field by field.
-/

namespace PartsList

namespace RetryPolicy

/-- The policy as a JSON value. -/
def toJson (policy : RetryPolicy) : Json :=
  .record [("enabled", .bool policy.enabled), ("max_retries", .natural policy.maxRetries)]

end RetryPolicy

namespace Layout

/-- A list of texts as a JSON value. -/
def textsJson (texts : List String) : Json :=
  .array (texts.map Json.text)

/-- The layout as a JSON value.  A tolerance is written by the given function. -/
def toJson (single : Coordinate → Json) (layout : Layout) : Json :=
  .record
    [("anchor_text", .text layout.anchorText),
     ("header_keywords", textsJson layout.headerKeywords),
     ("secondary_header", .text layout.secondaryHeader),
     ("terminator", .text layout.terminator),
     ("width_labels", textsJson layout.widthLabels),
     ("termination_keywords", textsJson layout.terminationKeywords),
     ("row_tolerance_y", single layout.rowToleranceY),
     ("column_tolerance_x", single layout.columnToleranceX),
     ("noise_leading_columns", .natural layout.noiseLeadingColumns)]

end Layout

namespace Settings

/-- A path as a JSON value. -/
def pathJson (path : Path) : Json :=
  .text path.spelling

/-- The settings as a JSON value.  A tolerance is written by the given function. -/
def toJson (single : Coordinate → Json) (settings : Settings) : Json :=
  .record
    [("input_dir", pathJson settings.inputDir),
     ("rows_output", pathJson settings.rowsOutput),
     ("summary_output", pathJson settings.summaryOutput),
     ("database_path", pathJson settings.databasePath),
     ("checkpoint_path", pathJson settings.checkpointPath),
     ("fallback_dir", pathJson settings.fallbackDir),
     ("max_files", .natural settings.maxFiles),
     ("workers", settings.workers.elim .null Json.natural),
     ("per_file_timeout_secs", .natural settings.perFileTimeoutSecs),
     ("max_file_size_mb", .natural settings.maxFileSizeMb),
     ("max_memory_per_worker_mb", .natural settings.maxMemoryPerWorkerMb),
     ("writer_pool_size", .natural settings.writerPoolSize),
     ("retry", settings.retry.toJson),
     ("resume", .bool settings.resume),
     ("retry_failed_only", .bool settings.retryFailedOnly),
     ("debug", .bool settings.debug),
     ("heartbeat_interval_ms", .natural settings.heartbeatIntervalMs),
     ("stall_multiple", .natural settings.stallMultiple),
     ("batch_rows", .natural settings.batchRows),
     ("batch_interval_ms", .natural settings.batchIntervalMs),
     ("writer_send_timeout_ms", .natural settings.writerSendTimeoutMs),
     ("join_timeout_secs", .natural settings.joinTimeoutSecs),
     ("pdfium_library_path", settings.libraryPath.elim .null pathJson),
     ("layout", settings.layout.toJson single)]

end Settings

end PartsList
