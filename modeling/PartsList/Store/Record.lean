import PartsList.Number.Shortest
import PartsList.Store.Database

/-!
# Summaries as JSON values

What the store answers, written out field by field.
-/

namespace PartsList

namespace FileSummary

/-- The summary as a JSON value. -/
def toJson (summary : FileSummary) : Json :=
  .record
    [("file_path", .text summary.filePath.spelling),
     ("file_name", .text summary.fileName),
     ("success", .bool summary.success),
     ("failing_stage", .optionalText (summary.failingStage.map Stage.name)),
     ("error_code", .text summary.errorCode.name),
     ("error_message", .optionalText summary.errorMessage),
     ("duration_ms", .natural summary.durationMs),
     ("row_count", .natural summary.rowCount),
     ("page_count", .natural summary.pageCount),
     ("size_bytes", .natural summary.sizeBytes),
     ("memory_peak_mb", summary.memoryPeakMb.elim .null Json.double),
     ("attempt", .natural summary.attempt)]

end FileSummary

namespace UpsertCounts

/-- The figures of a batch as a JSON value. -/
def toJson (counts : UpsertCounts) : Json :=
  .record [("results", .natural counts.results), ("rows", .natural counts.rows)]

end UpsertCounts

end PartsList
