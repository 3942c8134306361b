import PartsList.Csv
import PartsList.Disk.Operations
import PartsList.Number.Shortest

/-!
# Exports

The rows and the summaries of the store as files of comma separated values.  The rows of all files
share one list of columns: every header that occurs, in the order in which it occurs first.
-/

namespace PartsList

/-- Why an export cannot be written. -/
inductive ExportError
  /-- The directory cannot be made. -/
  | directory (error : OsError)
  /-- The file cannot be opened. -/
  | output (path : Path) (error : OsError)
deriving DecidableEq, Repr

namespace Export

/-- The headers of rows, each once, in the order in which they occur first. -/
def headerUnion (rows : List Row) : List String :=
  (rows.flatMap Row.headers).foldl
    (fun headers header => if header ∈ headers then headers else headers ++ [header]) []

/-- The titles of the columns in front of the headers. -/
def rowTitles : List String :=
  ["source_path", "file_name", "page", "row_index"]

/-- The record of a row. -/
def rowRecord (headers : List String) (row : Row) : List String :=
  [row.filePath.spelling, row.fileName, toString row.page, toString row.rowIndex] ++
    headers.map fun header => (row.get? header).getD ""

/-- The records of rows, their titles first. -/
def rowRecords (rows : List Row) : List (List String) :=
  let headers := headerUnion rows
  (rowTitles ++ headers) :: rows.map (rowRecord headers)

/-- The titles of the columns of summaries. -/
def summaryTitles : List String :=
  ["file_name", "source_path", "success", "failing_stage", "error_code", "error_message",
   "duration_ms", "row_count", "page_count", "size_bytes", "memory_peak_mb", "attempt"]

/-- The record of a summary. -/
def summaryRecord (summary : FileSummary) : List String :=
  [summary.fileName, summary.filePath.spelling, if summary.success then "true" else "false",
   (summary.failingStage.map Stage.name).getD "", summary.errorCode.name,
   summary.errorMessage.getD "", toString summary.durationMs, toString summary.rowCount,
   toString summary.pageCount, toString summary.sizeBytes,
   (summary.memoryPeakMb.map fun x => writeOnePlace (Binary.ofDouble x)).getD "",
   toString summary.attempt]

/-- The records of summaries, their titles first. -/
def summaryRecords (summaries : List FileSummary) : List (List String) :=
  summaryTitles :: summaries.map summaryRecord

/-- Writes records to a file, making its directory if need be. -/
def writeRecords (path : Path) (records : List (List String)) (disk : Disk) :
    Except ExportError Unit × Disk :=
  match Disk.makeParent path disk with
  | (.error error, disk) => (.error (.directory error), disk)
  | (.ok (), disk) =>
    match Disk.writeFile path (.ofBytes (Disk.bytesOf (Csv.write records))) disk with
    | (.error error, disk) => (.error (.output path error), disk)
    | (.ok (), disk) => (.ok (), disk)

/-- Writes rows to a file. -/
def writeRows (path : Path) (rows : List Row) (disk : Disk) : Except ExportError Unit × Disk :=
  writeRecords path (rowRecords rows) disk

/-- Writes summaries to a file. -/
def writeSummaries (path : Path) (summaries : List FileSummary) (disk : Disk) :
    Except ExportError Unit × Disk :=
  writeRecords path (summaryRecords summaries) disk

end Export

end PartsList
