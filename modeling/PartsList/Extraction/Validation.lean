import PartsList.Disk.Operations
import PartsList.Extraction.Document

/-!
# Validation

The checks a file has to pass before its text is read: it is there, it is neither too large nor
empty, it is a document with pages, and its first page can be read.
-/

namespace PartsList

/-- What the checks of a file found. -/
structure ValidationReport where
  /-- All checks passed. -/
  ok : Bool
  /-- Code of the first check that failed. -/
  code : ErrorCode
  /-- The failure in words. -/
  message : Option String
  /-- Size of the file, as far as it is known. -/
  sizeBytes : Nat
  /-- Number of pages, as far as it is known. -/
  pageCount : Nat
deriving DecidableEq, Repr

namespace ValidationReport

/-- The report of a file that passed. -/
def passed (sizeBytes pageCount : Nat) : ValidationReport :=
  ⟨true, .none, none, sizeBytes, pageCount⟩

/-- The report of a file that failed a check. -/
def rejected (code : ErrorCode) (message : String) (sizeBytes pageCount : Nat) :
    ValidationReport :=
  ⟨false, code, some message, sizeBytes, pageCount⟩

end ValidationReport

/-- Checks what the system tells about a file, and yields the file's size. -/
def checkFile (maxSizeBytes : Nat) (path : Path) (status : Except OsError FileStatus) :
    Except ValidationReport Nat :=
  match status with
  | .error error =>
    .error (.rejected .fileNotFound (path.spelling ++ ": " ++ error.message) 0 0)
  | .ok status =>
    if !status.isFile then
      .error (.rejected .fileNotFound (path.spelling ++ " is not a regular file") 0 0)
    else if maxSizeBytes < status.size then
      .error (.rejected .fileTooLarge
        (toString status.size ++ " bytes exceeds limit of " ++ toString maxSizeBytes ++ " bytes")
        status.size 0)
    else if status.size = 0 then .error (.rejected .fileEmpty "file is empty" 0 0)
    else .ok status.size

/-- The failure of a document that cannot be opened, in words. -/
def openFailure : EngineError → String
  | .encrypted => "document is encrypted"
  | error => error.message

/-- Checks what an engine made of a file of the given size, and yields the document if it passes. -/
def checkDocument (sizeBytes : Nat) (answer : Except EngineError Document) :
    ValidationReport × Option Document :=
  match answer with
  | .error error => (.rejected .invalidDocument (openFailure error) sizeBytes 0, none)
  | .ok document =>
    match document.pages with
    | [] => (.rejected .noPages "document has no pages" sizeBytes 0, none)
    | .error error :: _ =>
      (.rejected .invalidDocument ("first page unreadable: " ++ error.message) sizeBytes
        document.pageCount, none)
    | .ok _ :: _ => (.passed sizeBytes document.pageCount, some document)

/-- Runs all checks, asking the engine only for a file that passes its own. -/
def validate (maxSizeBytes : Nat) (path : Path) (status : Except OsError FileStatus)
    (answer : Except EngineError Document) : ValidationReport × Option Document :=
  match checkFile maxSizeBytes path status with
  | .error report => (report, none)
  | .ok sizeBytes => checkDocument sizeBytes answer

end PartsList
