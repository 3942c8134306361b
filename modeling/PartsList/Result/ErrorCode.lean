/-!
# Outcome codes

What became of a file: the code of its outcome, and the stage of the work at which it failed.
-/

namespace PartsList

/-- The step of the work at which a file failed. -/
inductive Stage
  /-- Checks of the file before its text is read. -/
  | validation
  /-- Check of the memory the document would need. -/
  | resourceCheck
  /-- Search for the label that marks the table. -/
  | anchorSearch
  /-- Search for the edges of the table. -/
  | boundaryResolution
  /-- Reading of the table's rows. -/
  | rowParsing
  /-- The worker that processed the file. -/
  | worker
deriving DecidableEq, Repr

namespace Stage

/-- All stages. -/
def all : List Stage :=
  [validation, resourceCheck, anchorSearch, boundaryResolution, rowParsing, worker]

/-- The stage's name in files and in the store. -/
def name : Stage → String
  | validation => "validation"
  | resourceCheck => "resource_check"
  | anchorSearch => "anchor_search"
  | boundaryResolution => "boundary_resolution"
  | rowParsing => "row_parsing"
  | worker => "worker"

/-- The stage with the given name. -/
def ofName? (text : String) : Option Stage :=
  all.find? (·.name == text)

end Stage

/-- The outcome of a file: `none` for success, else the reason for the failure. -/
inductive ErrorCode
  /-- The file succeeded. -/
  | none
  /-- There is no such file. -/
  | fileNotFound
  /-- The file is larger than allowed. -/
  | fileTooLarge
  /-- The file holds nothing. -/
  | fileEmpty
  /-- The document cannot be opened or read. -/
  | invalidDocument
  /-- The document has no pages. -/
  | noPages
  /-- No page has the label that marks the table. -/
  | anchorNotFound
  /-- No known header stands next to the label. -/
  | headerNotRecognized
  /-- The label that closes the table is missing. -/
  | terminatorNotFound
  /-- The table's region holds no text. -/
  | emptyTableRegion
  /-- The table's region has no extent. -/
  | invalidTableBoundary
  /-- The table has no rows. -/
  | noRowsExtracted
  /-- The document would need more memory than allowed. -/
  | memoryLimitExceeded
  /-- The file took longer than allowed. -/
  | timeout
  /-- The worker failed while it processed the file. -/
  | workerError
  /-- Any other reason. -/
  | unknown
deriving DecidableEq, Repr

namespace ErrorCode

/-- All codes. -/
def all : List ErrorCode :=
  [none, fileNotFound, fileTooLarge, fileEmpty, invalidDocument, noPages, anchorNotFound,
   headerNotRecognized, terminatorNotFound, emptyTableRegion, invalidTableBoundary,
   noRowsExtracted, memoryLimitExceeded, timeout, workerError, unknown]

/-- The code's name in files and in the store. -/
def name : ErrorCode → String
  | none => "none"
  | fileNotFound => "file_not_found"
  | fileTooLarge => "file_too_large"
  | fileEmpty => "file_empty"
  | invalidDocument => "invalid_document"
  | noPages => "no_pages"
  | anchorNotFound => "anchor_not_found"
  | headerNotRecognized => "header_not_recognized"
  | terminatorNotFound => "terminator_not_found"
  | emptyTableRegion => "empty_table_region"
  | invalidTableBoundary => "invalid_table_boundary"
  | noRowsExtracted => "no_rows_extracted"
  | memoryLimitExceeded => "memory_limit_exceeded"
  | timeout => "timeout"
  | workerError => "worker_error"
  | unknown => "unknown"

/-- The code with the given name. -/
def ofName? (text : String) : Option ErrorCode :=
  all.find? (·.name == text)

/-- The code stands for a failure. -/
def isError (code : ErrorCode) : Bool :=
  code != none

/-- The failure may be due to the machine and not to the document, so that another attempt can
help. -/
def isRetryable : ErrorCode → Bool
  | timeout | workerError | unknown => true
  | _ => false

/-- The stage at which a failure with this code happens. -/
def stage? : ErrorCode → Option Stage
  | none => Option.none
  | fileNotFound | fileTooLarge | fileEmpty | invalidDocument | noPages => some .validation
  | memoryLimitExceeded => some .resourceCheck
  | anchorNotFound => some .anchorSearch
  | headerNotRecognized | terminatorNotFound | emptyTableRegion | invalidTableBoundary =>
    some .boundaryResolution
  | noRowsExtracted => some .rowParsing
  | timeout | workerError | unknown => some .worker

end ErrorCode

end PartsList
