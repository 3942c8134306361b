import PartsList.Json.Decode
import PartsList.Json.Printer
import PartsList.Json.Reader
import PartsList.Number.Shortest
import PartsList.Result.Basic

/-!
# Result lines

A result as one line of JSON text, and how it is read back.  A record may also be given as an array
of its fields in order.
-/

namespace PartsList

/-- Bound of the integers in result lines, except the attempt number. -/
def wordLimit : Nat := Nat.pow 2 64

/-- Bound of the attempt number. -/
def attemptLimit : Nat := Nat.pow 2 32

namespace Json

/-- A double precision number; null when it has no numeral. -/
def double (x : Float) : Json :=
  ((NumberStyle.lineDouble.numeral? (Binary.ofDouble x)).map Json.number).getD .null

end Json

namespace Cell

/-- The cell as a JSON value. -/
def toJson (cell : Cell) : Json :=
  .record [("header", .text cell.header), ("value", .text cell.value)]

/-- The cell that a JSON value describes. -/
def ofJson? (value : Json) : Option Cell := do
  match ← value.toFields? ["header", "value"] 2 with
  | [header, value] =>
    return ⟨← Json.required Json.toText? header, ← Json.required Json.toText? value⟩
  | _ => none

end Cell

namespace Row

/-- The row as a JSON value. -/
def toJson (row : Row) : Json :=
  .record
    [("file_name", .text row.fileName),
     ("file_path", .text row.filePath.spelling),
     ("page", .natural row.page),
     ("row_index", .natural row.rowIndex),
     ("cells", .array (row.cells.map Cell.toJson))]

/-- The row that a JSON value describes. -/
def ofJson? (value : Json) : Option Row := do
  match ← value.toFields? ["file_name", "file_path", "page", "row_index", "cells"] 5 with
  | [fileName, filePath, page, rowIndex, cells] =>
    return {
      fileName := ← Json.required Json.toText? fileName
      filePath := ⟨← Json.required Json.toText? filePath⟩
      page := ← Json.required (Json.toNat? wordLimit) page
      rowIndex := ← Json.required (Json.toNat? wordLimit) rowIndex
      cells := ← Json.required (Json.toList? Cell.ofJson?) cells }
  | _ => none

end Row

namespace Metrics

/-- The figures as a JSON value. -/
def toJson (metrics : Metrics) : Json :=
  .record
    [("duration_ms", .natural metrics.durationMs),
     ("size_bytes", .natural metrics.sizeBytes),
     ("page_count", .natural metrics.pageCount),
     ("memory_peak_mb", metrics.memoryPeakMb.elim .null .double)]

/-- The figures that a JSON value describes. -/
def ofJson? (value : Json) : Option Metrics := do
  match ← value.toFields? ["duration_ms", "size_bytes", "page_count", "memory_peak_mb"] 4 with
  | [durationMs, sizeBytes, pageCount, memoryPeakMb] =>
    return {
      durationMs := ← Json.required (Json.toNat? wordLimit) durationMs
      sizeBytes := ← Json.required (Json.toNat? wordLimit) sizeBytes
      pageCount := ← Json.required (Json.toNat? wordLimit) pageCount
      memoryPeakMb := ← Json.optional Json.toDouble? memoryPeakMb }
  | _ => none

end Metrics

namespace ExtractionResult

/-- The result as a JSON value. -/
def toJson (result : ExtractionResult) : Json :=
  .record
    [("filename", .text result.fileName),
     ("filepath", .text result.filePath.spelling),
     ("success", .bool result.success),
     ("failing_stage", .optionalText (result.failingStage.map Stage.name)),
     ("error_code", .text result.errorCode.name),
     ("error_message", .optionalText result.errorMessage),
     ("rows", .array (result.rows.map Row.toJson)),
     ("metrics", result.metrics.toJson),
     ("attempt", .natural result.attempt)]

/-- The names of a result's fields in order. -/
def fieldNames : List String :=
  ["filename", "filepath", "success", "failing_stage", "error_code", "error_message", "rows",
   "metrics", "attempt"]

/-- The result that a JSON value describes. -/
def ofJson? (value : Json) : Option ExtractionResult := do
  match ← value.toFields? fieldNames 9 with
  | [fileName, filePath, success, failingStage, errorCode, errorMessage, rows, metrics, attempt] =>
    return {
      fileName := ← Json.required Json.toText? fileName
      filePath := ⟨← Json.required Json.toText? filePath⟩
      success := ← Json.required Json.toBool? success
      failingStage :=
        ← Json.optional (fun name => name.toName?.bind Stage.ofName?) failingStage
      errorCode := ← Json.required (fun name => name.toName?.bind ErrorCode.ofName?) errorCode
      errorMessage := ← Json.optional Json.toText? errorMessage
      rows := ← Json.required (Json.toList? Row.ofJson?) rows
      metrics := ← Json.required Metrics.ofJson? metrics
      attempt := ← Json.required (Json.toNat? attemptLimit) attempt }
  | _ => none

/-- The result as a line of text. -/
def line (result : ExtractionResult) : String :=
  result.toJson.render

/-- The result that a line of text describes. -/
def ofLine? (line : String) : Option ExtractionResult :=
  (Json.read line).bind ofJson?

end ExtractionResult

end PartsList
