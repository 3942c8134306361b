import PartsList.Geometry.Page
import PartsList.Path

/-!
# Documents

What an engine makes of a file: the text of its pages, each of which may be unreadable on its own,
or the reason why the file is no document.  An engine is asked for a path, and its answer may depend
on how often it was asked for that path before.
-/

namespace PartsList

/-- Why an engine cannot read a document or a page. -/
inductive EngineError
  /-- The file cannot be read. -/
  | io (reason : String)
  /-- The engine's library is missing. -/
  | library (reason : String)
  /-- The file is no document. -/
  | unopened (path : Path) (reason : String)
  /-- The document is encrypted. -/
  | encrypted
  /-- A page cannot be read. -/
  | page (number : Nat) (reason : String)
deriving DecidableEq, Repr

namespace EngineError

/-- The error in words. -/
def message : EngineError → String
  | io reason => "I/O error: " ++ reason
  | library reason => "PDFium library unavailable: " ++ reason
  | unopened path reason => "Cannot open document " ++ path.spelling ++ ": " ++ reason
  | encrypted => "Document is encrypted"
  | page number reason => "Page " ++ toString number ++ " unreadable: " ++ reason

end EngineError

/-- A document: for each page its text, or why it cannot be read. -/
structure Document where
  /-- The pages in their order. -/
  pages : List (Except EngineError (Page Coordinate))

namespace Document

/-- Number of pages. -/
def pageCount (document : Document) : Nat :=
  document.pages.length

/-- The pages that can be read. -/
def readablePages (document : Document) : List (Page Coordinate) :=
  document.pages.filterMap Except.toOption

end Document

/-- How the reading of a document ends. -/
inductive Loading
  /-- The document. -/
  | opened (document : Document)
  /-- The reason why there is none. -/
  | failed (error : EngineError)
  /-- The engine breaks down; what it says is all that is left of its work. -/
  | brokeDown (reason : String)
  /-- The engine breaks down and takes its worker down with it. -/
  | crashed

/-- One reading of a document. -/
structure Load where
  /-- How it ends. -/
  outcome : Loading
  /-- How long it takes, in microseconds. -/
  elapsed : Nat := 0
  /-- The run is interrupted meanwhile. -/
  interrupts : Bool := false

/-- An engine: its answer for a path that is asked for the given time, counted from one. -/
abbrev Engine := Path → (time : Nat) → Load

/-- How often an engine was asked for each path. -/
structure LoadLog where
  /-- The spellings of the paths, one for each time. -/
  asked : List String := []

namespace LoadLog

/-- How often the engine was asked for a path. -/
def times (log : LoadLog) (path : Path) : Nat :=
  log.asked.count path.spelling

/-- The log after one more request. -/
def note (log : LoadLog) (path : Path) : LoadLog :=
  ⟨path.spelling :: log.asked⟩

/-- How often the engine was asked at all. -/
def total (log : LoadLog) : Nat :=
  log.asked.length

end LoadLog

end PartsList
