import PartsList.Extraction.Boundary
import PartsList.Extraction.Columns
import PartsList.Extraction.Validation
import PartsList.Plan

/-!
# Extraction

The work on one file: check it, find the table on each page, group its texts into rows and columns,
and collect the rows of all pages.  Whatever is wrong with a file ends in a result that says so.
-/

namespace PartsList

/-- What one page yields. -/
inductive PageOutcome
  /-- The page does not have the anchor. -/
  | noAnchor
  /-- The table's region cannot be found. -/
  | unresolved (error : BoundaryError)
  /-- The rows of the table. -/
  | rows (rows : List Row)

/-- How files are processed. -/
structure Pipeline where
  /-- The labels and distances of the table. -/
  layout : Layout
  /-- How large a file may be. -/
  maxFileSizeBytes : Nat
  /-- How much memory a document may need, when that is limited. -/
  memoryBudgetBytes : Option Nat := none

namespace Pipeline

/-- The rows from the one that holds the anchor on; all rows when none does. -/
def fromHeader (anchor : Anchor) (rows : List (List (Span Coordinate))) :
    List (List (Span Coordinate)) :=
  match rows.dropWhile fun row => !row.any fun span => span.box.sameEdges anchor.box with
  | [] => rows
  | rest => rest

/-- Rows of a page from the values of a table. -/
def tableRows (path : Path) (pageNumber : Nat) (table : MappedTable) : List Row :=
  table.rows.mapIdx fun index values => {
    fileName := path.fileName
    filePath := path
    page := pageNumber
    rowIndex := index
    cells := List.zipWith Cell.mk table.headers values }

/-- The table of a page whose anchor and region are known. -/
def readTable (layout : Layout) (anchor : Anchor) (region : TableRegion) : MappedTable :=
  match fromHeader anchor (groupRows region.spans layout.rowToleranceY) with
  | [] => ⟨[], [], 0⟩
  | header :: rows => mapColumns (ColumnRules.ofLayout layout) header rows

/-- What one page yields. -/
def extractPage (layout : Layout) (path : Path) (page : Page Coordinate) : PageOutcome :=
  match Anchor.find? page layout.anchorText with
  | none => .noAnchor
  | some anchor =>
    match TableRegion.resolve page anchor layout with
    | .error error => .unresolved error
    | .ok region => .rows (tableRows path page.number (readTable layout anchor region))

namespace PageOutcomes

/-- All rows, in the order of the pages. -/
def allRows (outcomes : List PageOutcome) : List Row :=
  outcomes.flatMap fun outcome =>
    match outcome with
    | .rows rows => rows
    | _ => []

/-- The first region that cannot be found. -/
def firstError (outcomes : List PageOutcome) : Option BoundaryError :=
  outcomes.findSome? fun outcome =>
    match outcome with
    | .unresolved error => some error
    | _ => none

/-- No page has the anchor. -/
def noneAnchored (outcomes : List PageOutcome) : Bool :=
  outcomes.all fun outcome =>
    match outcome with
    | .noAnchor => true
    | _ => false

end PageOutcomes

/-- The rows of a document, or the code and the words for why there are none. -/
def extractDocument (layout : Layout) (path : Path) (document : Document) :
    Except (ErrorCode × String) (List Row) :=
  let outcomes := document.readablePages.map (extractPage layout path)
  let rows := PageOutcomes.allRows outcomes
  if PageOutcomes.noneAnchored outcomes then
    .error (.anchorNotFound, "\"" ++ layout.anchorText ++ "\" not found on any page")
  else if rows.isEmpty then
    match PageOutcomes.firstError outcomes with
    | some error => .error (error.code, error.message)
    | none => .error (.noRowsExtracted, "table regions held no data rows")
  else .ok rows

/-- The result of a file that failed a check. -/
def rejection (path : Path) (report : ValidationReport) : ExtractionResult :=
  ExtractionResult.failed path report.code (report.message.getD report.code.name)
    { sizeBytes := report.sizeBytes, pageCount := report.pageCount }

/-- The failure of a document that would need too much memory, in words. -/
def memoryMessage (estimate budget : Nat) : String :=
  "estimated " ++ toString estimate ++ " bytes exceeds worker budget of " ++ toString budget ++
    " bytes"

/-- The size of a file that the engine is asked for; else the result of the file. -/
def precheck (pipeline : Pipeline) (path : Path) (status : Except OsError FileStatus) :
    Except ExtractionResult Nat :=
  match checkFile pipeline.maxFileSizeBytes path status with
  | .error report => .error (rejection path report)
  | .ok sizeBytes =>
    match pipeline.memoryBudgetBytes with
    | none => .ok sizeBytes
    | some budget =>
      let estimate := estimatedDocumentMemory sizeBytes
      if budget < estimate then
        .error (ExtractionResult.failed path .memoryLimitExceeded (memoryMessage estimate budget)
          { sizeBytes := sizeBytes })
      else .ok sizeBytes

/-- The result of a file of the given size, after the engine's answer. -/
def finish (pipeline : Pipeline) (path : Path) (sizeBytes : Nat)
    (answer : Except EngineError Document) : ExtractionResult :=
  match checkDocument sizeBytes answer with
  | (report, none) => rejection path report
  | (report, some document) =>
    let metrics : Metrics := { sizeBytes := sizeBytes, pageCount := report.pageCount }
    match extractDocument pipeline.layout path document with
    | .ok rows => ExtractionResult.succeeded path rows metrics
    | .error (code, message) => ExtractionResult.failed path code message metrics

/-- The result of a file whose engine answers and does not break down. -/
def process (pipeline : Pipeline) (path : Path) (status : Except OsError FileStatus)
    (answer : Except EngineError Document) : ExtractionResult :=
  match pipeline.precheck path status with
  | .error result => result
  | .ok sizeBytes => pipeline.finish path sizeBytes answer

end Pipeline

end PartsList
