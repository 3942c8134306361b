import PartsList.Path
import PartsList.Result.ErrorCode

/-!
# Results

What the work on one file yields: its rows, or the reason why there are none.
-/

namespace PartsList

/-- One value of a row under its header. -/
structure Cell where
  /-- The column's header. -/
  header : String
  /-- The value. -/
  value : String
deriving DecidableEq, Repr

/-- One row of a parts list and where it comes from. -/
structure Row where
  /-- Name of the file. -/
  fileName : String
  /-- Path of the file. -/
  filePath : Path
  /-- Number of the page. -/
  page : Nat
  /-- Position of the row in the table of its page, from zero on. -/
  rowIndex : Nat
  /-- The values in the order of the columns. -/
  cells : List Cell
deriving DecidableEq, Repr

namespace Row

/-- The value under the first column with the given header. -/
def get? (row : Row) (header : String) : Option String :=
  (row.cells.find? (·.header == header)).map (·.value)

/-- The headers in the order of the columns. -/
def headers (row : Row) : List String :=
  row.cells.map (·.header)

end Row

/-- Figures recorded for one file. -/
structure Metrics where
  /-- Time spent, in milliseconds. -/
  durationMs : Nat := 0
  /-- Size of the file. -/
  sizeBytes : Nat := 0
  /-- Number of pages. -/
  pageCount : Nat := 0
  /-- Memory in use after the file, in mebibytes. -/
  memoryPeakMb : Option Float := none

/-- The outcome of one file. -/
structure ExtractionResult where
  /-- Name of the file. -/
  fileName : String
  /-- Path of the file. -/
  filePath : Path
  /-- The file yielded rows. -/
  success : Bool
  /-- Where the work failed. -/
  failingStage : Option Stage
  /-- Why the work failed. -/
  errorCode : ErrorCode
  /-- The failure in words. -/
  errorMessage : Option String
  /-- The rows of all pages. -/
  rows : List Row
  /-- Figures of the work. -/
  metrics : Metrics
  /-- Which attempt at the file this is, from one on. -/
  attempt : Nat

namespace ExtractionResult

/-- A file that yielded rows, at its first attempt. -/
def succeeded (path : Path) (rows : List Row) (metrics : Metrics) : ExtractionResult where
  fileName := path.fileName
  filePath := path
  success := true
  failingStage := none
  errorCode := .none
  errorMessage := none
  rows := rows
  metrics := metrics
  attempt := 1

/-- A file that failed, at its first attempt. -/
def failed (path : Path) (code : ErrorCode) (message : String) (metrics : Metrics) :
    ExtractionResult where
  fileName := path.fileName
  filePath := path
  success := false
  failingStage := code.stage?
  errorCode := code
  errorMessage := some message
  rows := []
  metrics := metrics
  attempt := 1

/-- The same outcome as that of another attempt. -/
def withAttempt (result : ExtractionResult) (attempt : Nat) : ExtractionResult :=
  { result with attempt := attempt }

/-- How many rows the file yielded. -/
def rowCount (result : ExtractionResult) : Nat :=
  result.rows.length

end ExtractionResult

end PartsList
