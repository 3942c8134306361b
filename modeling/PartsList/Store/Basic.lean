import PartsList.Number.Word
import PartsList.Result.Line

/-!
# The store

What is kept of all files: the rows of each file and a summary of its last result.  A row is keyed
by its file, page and position, a summary by its file.  A delivered result replaces all rows of its
file, so delivering it twice leaves what delivering it once leaves.
-/

namespace PartsList

/-- A row as it is stored. -/
structure StoredRow where
  /-- The file, as its path is spelled. -/
  filePath : String
  /-- The page. -/
  page : Nat
  /-- Position of the row on its page. -/
  rowIndex : Nat
  /-- Name of the file. -/
  fileName : String
  /-- The cells as JSON text. -/
  cells : String
deriving DecidableEq, Repr

/-- A summary as it is stored. -/
structure StoredSummary where
  /-- The file, as its path is spelled. -/
  filePath : String
  /-- Name of the file. -/
  fileName : String
  /-- The file yielded rows. -/
  success : Bool
  /-- Name of the stage that failed. -/
  failingStage : Option String
  /-- Name of the outcome's code. -/
  errorCode : String
  /-- The failure in words. -/
  errorMessage : Option String
  /-- Time spent, in milliseconds. -/
  durationMs : Nat
  /-- Number of rows. -/
  rowCount : Nat
  /-- Number of pages. -/
  pageCount : Nat
  /-- Size of the file. -/
  sizeBytes : Nat
  /-- Memory in use after the file. -/
  memoryPeakMb : Option Float
  /-- Which attempt the result is from. -/
  attempt : Nat

namespace StoredRow

/-- The row as it is stored. -/
def ofRow (row : Row) : StoredRow where
  filePath := row.filePath.spelling
  page := row.page
  rowIndex := row.rowIndex
  fileName := row.fileName
  cells := (Json.array (row.cells.map Cell.toJson)).render

/-- The row that is stored, when the text of its cells can be read. -/
def toRow? (stored : StoredRow) : Option Row := do
  let cells ← (Json.read stored.cells).bind (Json.toList? Cell.ofJson?)
  return {
    fileName := stored.fileName
    filePath := ⟨stored.filePath⟩
    page := stored.page
    rowIndex := stored.rowIndex
    cells := cells }

/-- Both rows have the same key. -/
def sameKey (row other : StoredRow) : Bool :=
  row.filePath == other.filePath && row.page == other.page && row.rowIndex == other.rowIndex

/-- Order of rows: by the text of the path, then by page and position read as signed numbers. -/
def order (row other : StoredRow) : Ordering :=
  (compareOfLessAndEq row.filePath other.filePath).then <|
    (compareOfLessAndEq (Word.signed row.page) (Word.signed other.page)).then <|
      compareOfLessAndEq (Word.signed row.rowIndex) (Word.signed other.rowIndex)

/-- The row comes no later than the other one. -/
def ranked (row other : StoredRow) : Bool :=
  (row.order other).isLE

end StoredRow

namespace StoredSummary

/-- A figure as it is kept: one that is no number is not, and zero has no sign. -/
def keptFigure (figure : Option Float) : Option Float :=
  (figure.filter (!·.isNaN)).map fun x => if x == 0 then 0 else x

/-- The summary of a result. -/
def ofResult (result : ExtractionResult) : StoredSummary where
  filePath := result.filePath.spelling
  fileName := result.fileName
  success := result.success
  failingStage := result.failingStage.map Stage.name
  errorCode := result.errorCode.name
  errorMessage := result.errorMessage
  durationMs := result.metrics.durationMs
  rowCount := result.rowCount
  pageCount := result.metrics.pageCount
  sizeBytes := result.metrics.sizeBytes
  memoryPeakMb := keptFigure result.metrics.memoryPeakMb
  attempt := result.attempt

/-- The summary comes no later than the other one: order by the text of the path. -/
def ranked (summary other : StoredSummary) : Bool :=
  (compareOfLessAndEq summary.filePath other.filePath).isLE

end StoredSummary

/-- Rows and summaries, one of each per key, in no particular order. -/
structure Store where
  /-- The rows. -/
  rows : List StoredRow := []
  /-- The summaries. -/
  summaries : List StoredSummary := []

namespace Store

/-- The rows without those of one file. -/
def dropRows (path : String) (rows : List StoredRow) : List StoredRow :=
  rows.filter (·.filePath != path)

/-- Puts a row in the place of the row with the same key. -/
def putRow (rows : List StoredRow) (row : StoredRow) : List StoredRow :=
  rows.filter (!row.sameKey ·) ++ [row]

/-- Puts a summary in the place of the summary of the same file. -/
def putSummary (summaries : List StoredSummary) (summary : StoredSummary) : List StoredSummary :=
  summaries.filter (·.filePath != summary.filePath) ++ [summary]

/-- The rows a result leaves: those of its file are replaced by its own if it succeeded, and by none
if it failed. -/
def deliverRows (rows : List StoredRow) (result : ExtractionResult) : List StoredRow :=
  let others := dropRows result.filePath.spelling rows
  if result.success then (result.rows.map StoredRow.ofRow).foldl putRow others else others

/-- The store after a result. -/
def deliver (store : Store) (result : ExtractionResult) : Store where
  rows := deliverRows store.rows result
  summaries := putSummary store.summaries (StoredSummary.ofResult result)

/-- The store after several results, one after the other. -/
def deliverAll (store : Store) (results : List ExtractionResult) : Store :=
  results.foldl deliver store

end Store

end PartsList
