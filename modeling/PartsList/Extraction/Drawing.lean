import PartsList.Extraction.Pipeline
import PartsList.Result.Line

/-!
# Drawing files

Documents that are written down page by page in a JSON file, for trial runs that need no library.  A
file may also say which pages cannot be read, that it takes long, or that the engine breaks down.
-/

namespace PartsList

/-- A document as a drawing file describes it. -/
structure Drawing where
  /-- The pages. -/
  pages : List (Page Coordinate)
  /-- Numbers of the pages that cannot be read. -/
  unreadablePages : List Nat := []
  /-- How long it takes to read the document, in milliseconds. -/
  delayMs : Nat := 0
  /-- The engine breaks down. -/
  breaksDown : Bool := false

namespace Json

/-- A single precision number. -/
def single (x : Float32) : Json :=
  match NumberStyle.lineSingle.numeral? (Binary.ofSingle x) with
  | some numeral => .number numeral
  | none => .null

end Json

namespace Box

/-- A box as a JSON value. -/
def toJson (box : Box Coordinate) : Json :=
  .record
    [("x0", Json.single box.x0), ("y0", Json.single box.y0), ("x1", Json.single box.x1),
     ("y1", Json.single box.y1)]

/-- The box that a JSON value describes. -/
def ofJson? (value : Json) : Option (Box Coordinate) := do
  match ← value.toFields? ["x0", "y0", "x1", "y1"] 4 with
  | [x0, y0, x1, y1] =>
    return {
      x0 := ← Json.required Json.toSingle? x0
      y0 := ← Json.required Json.toSingle? y0
      x1 := ← Json.required Json.toSingle? x1
      y1 := ← Json.required Json.toSingle? y1 }
  | _ => none

end Box

namespace Span

/-- A span as a JSON value. -/
def toJson (span : Span Coordinate) : Json :=
  .record [("text", .text span.text), ("bbox", span.box.toJson)]

/-- The span that a JSON value describes. -/
def ofJson? (value : Json) : Option (Span Coordinate) := do
  match ← value.toFields? ["text", "bbox"] 2 with
  | [text, box] =>
    return {
      text := ← Json.required Json.toText? text
      box := ← Json.required Box.ofJson? box }
  | _ => none

end Span

namespace Page

/-- A page as a JSON value. -/
def toJson (page : Page Coordinate) : Json :=
  .record
    [("number", .natural page.number),
     ("width", Json.single page.width),
     ("height", Json.single page.height),
     ("spans", .array (page.spans.map Span.toJson))]

/-- The page that a JSON value describes. -/
def ofJson? (value : Json) : Option (Page Coordinate) := do
  match ← value.toFields? ["number", "width", "height", "spans"] 4 with
  | [number, width, height, spans] =>
    return {
      number := ← Json.required (Json.toNat? wordLimit) number
      width := ← Json.required Json.toSingle? width
      height := ← Json.required Json.toSingle? height
      spans := ← Json.required (Json.toList? Span.ofJson?) spans }
  | _ => none

end Page

namespace Drawing

/-- A drawing as a JSON value. -/
def toJson (drawing : Drawing) : Json :=
  .record
    [("pages", .array (drawing.pages.map Page.toJson)),
     ("unreadable_pages", .array (drawing.unreadablePages.map Json.natural)),
     ("delay_ms", .natural drawing.delayMs),
     ("panic", .bool drawing.breaksDown)]

/-- The drawing that a JSON value describes.  All fields but the pages may be missing. -/
def ofJson? (value : Json) : Option Drawing := do
  match ← value.toFields? ["pages", "unreadable_pages", "delay_ms", "panic"] 1 with
  | [pages, unreadablePages, delayMs, breaksDown] =>
    return {
      pages := ← Json.required (Json.toList? Page.ofJson?) pages
      unreadablePages :=
        ← Json.defaulted (Json.toList? (Json.toNat? wordLimit)) [] unreadablePages
      delayMs := ← Json.defaulted (Json.toNat? wordLimit) 0 delayMs
      breaksDown := ← Json.defaulted Json.toBool? false breaksDown }
  | _ => none

/-- The text of a drawing's file. -/
def fileText (drawing : Drawing) : String :=
  drawing.toJson.render

/-- The drawing that the bytes of a file describe. -/
def ofBytes? (bytes : List UInt8) : Option Drawing :=
  (Json.readBytes bytes).bind ofJson?

/-- Writes a drawing to a file in a directory, and tells the file's path. -/
def write (drawing : Drawing) (directory : Path) (name : String) : DiskM Path := do
  let path := directory.join name
  Disk.writeFile path (.ofBytes (Disk.bytesOf drawing.fileText))
  return path

/-- A page of the drawing as the engine yields it. -/
def readPage (drawing : Drawing) (page : Page Coordinate) : Except EngineError (Page Coordinate) :=
  if page.number ∈ drawing.unreadablePages then
    .error (.page page.number "fixture marks page unreadable")
  else .ok page

/-- How the reading of the drawing at a path ends. -/
def loading (drawing : Drawing) (path : Path) : Loading :=
  if drawing.breaksDown then .brokeDown ("fixture engine asked to panic on " ++ path.spelling)
  else .opened ⟨drawing.pages.map drawing.readPage⟩

end Drawing

/-- An engine that reads drawing files. -/
structure DrawingEngine where
  /-- How many drawings it has opened. -/
  opened : Nat := 0
  /-- The run is interrupted with the drawing that brings the count to this number. -/
  interruptAfter : Option Nat := none
  /-- The run was interrupted. -/
  interrupted : Bool := false
deriving DecidableEq, Repr

namespace DrawingEngine

/-- The engine's name. -/
def name : String := "fixture"

/-- The engine after one more drawing was opened. -/
def note (engine : DrawingEngine) : DrawingEngine :=
  { engine with
    opened := engine.opened + 1
    interrupted :=
      engine.interrupted ||
        match engine.interruptAfter with
        | some count => decide (count ≤ engine.opened + 1)
        | none => false }

/-- Reads the drawing at a path. -/
def load (engine : DrawingEngine) (path : Path) (disk : Disk) : Load × DrawingEngine × Disk :=
  match Disk.readFile path disk with
  | (.error error, disk) => ({ outcome := .failed (.io error.message) }, engine, disk)
  | (.ok bytes, disk) =>
    match Drawing.ofBytes? bytes with
    | none => ({ outcome := .failed (.unopened path "no drawing file") }, engine, disk)
    | some drawing =>
      let after := engine.note
      ({ outcome := drawing.loading path
         elapsed := drawing.delayMs * 1000
         interrupts := after.interrupted && !engine.interrupted }, after, disk)

/-- Processes one file; an error is what the engine says when it breaks down. -/
def process (pipeline : Pipeline) (engine : DrawingEngine) (path : Path) (disk : Disk) :
    Except String ExtractionResult × DrawingEngine × Disk :=
  match pipeline.precheck path (disk.status path) with
  | .error result => (.ok result, engine, disk)
  | .ok sizeBytes =>
    let (answer, engine, disk) := engine.load path disk
    match answer.outcome with
    | .opened document => (.ok (pipeline.finish path sizeBytes (.ok document)), engine, disk)
    | .failed error => (.ok (pipeline.finish path sizeBytes (.error error)), engine, disk)
    | .brokeDown reason => (.error reason, engine, disk)
    | .crashed => (.error "", engine, disk)

end DrawingEngine

/-! ## Drawings for trials -/

namespace Drawing

/-- A text at a place. -/
def place (text : String) (x0 y0 x1 y1 : Coordinate) : Span Coordinate where
  text := text
  box := ⟨x0, y0, x1, y1⟩

/-- A page with the given texts. -/
def page (number : Nat) (spans : List (Span Coordinate)) : Page Coordinate where
  number := number
  width := 612
  height := 792
  spans := spans

/-- The texts of one row of the table whose upper edge is at `y`: part number, description and
quantity, as far as they are not empty. -/
def rowSpans (y : Coordinate) (partNumber description quantity : String) : List (Span Coordinate) :=
  [place partNumber 60 y 70 (y + 10), place description 120 y 180 (y + 10),
   place quantity 225 y 235 (y + 10)].filter fun span => span.text != ""

/-- The texts of the rows from the one whose upper edge is at `y` on, and the label below them. -/
def rowsSpans (y : Coordinate) : List (String × String × String) → List (Span Coordinate)
  | [] => [place "CUT PIPE LENGTH" 100 (y + 8) 190 (y + 18)]
  | (partNumber, description, quantity) :: rows =>
    rowSpans y partNumber description quantity ++ rowsSpans (y + 12) rows

/-- A page with a parts list of the given rows, a note above it and the title block below it. -/
def tablePage (number : Nat) (rows : List (String × String × String)) : Page Coordinate :=
  page number <|
    [place "NOTES: SHOP FABRICATION" 50 30 160 40, place "PT NO" 50 100 80 110,
     place "DESCRIPTION" 100 100 200 110, place "QTY" 220 100 240 110] ++
      rowsSpans 120 rows ++ [place "DRAWING NO. ISO-0001" 400 700 520 710]

/-- A page without a parts list. -/
def coverPage (number : Nat) : Page Coordinate :=
  page number [place "GENERAL ARRANGEMENT" 200 300 400 320]

/-- A drawing whose only page has a parts list of one row. -/
def singleRow (partNumber : String) : Drawing where
  pages := [tablePage 1 [(partNumber, "PIPE SMLS", "2")]]

end Drawing

end PartsList
