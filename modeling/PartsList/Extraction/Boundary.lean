import PartsList.Extraction.Anchor
import PartsList.Number.Shortest
import PartsList.Result.ErrorCode
import PartsList.Settings.Layout

/-!
# Boundaries

The region of the table on a page.  Drawings have no lines around it, so the region follows from
text alone: the anchor and the headers beside it give its upper edge and its width, a closing label
gives its lower edge, and the width of a character gives the margin.  The region is then drawn close
around the texts inside it.
-/

namespace PartsList

/-- The edges of a region. -/
structure Boundary where
  /-- Upper edge. -/
  top : Coordinate
  /-- Left edge. -/
  left : Coordinate
  /-- Right edge. -/
  right : Coordinate
  /-- Lower edge. -/
  bottom : Coordinate

/-- Why the table's region cannot be found. -/
inductive BoundaryError
  /-- None of the expected headers stands on the anchor's line. -/
  | headerNotRecognized (expected : String)
  /-- The closing label does not stand below the secondary header. -/
  | terminatorNotFound (terminator secondary : String)
  /-- No text lies in the estimated region. -/
  | emptyTableRegion
  /-- The region has no extent. -/
  | invalidTableBoundary (boundary : Boundary)

namespace Boundary

/-- The edges of a box. -/
def ofBox (box : Box Coordinate) : Boundary :=
  ⟨box.y0, box.x0, box.x1, box.y1⟩

/-- The region has extent in both directions. -/
def isValid (boundary : Boundary) : Bool :=
  decide (boundary.top < boundary.bottom) && decide (boundary.left < boundary.right)

/-- The box lies inside the region, edges included. -/
def contains (boundary : Boundary) (box : Box Coordinate) : Bool :=
  decide (boundary.left ≤ box.x0) && decide (box.x1 ≤ boundary.right) &&
    decide (boundary.top ≤ box.y0) && decide (box.y1 ≤ boundary.bottom)

/-- The region with a margin on all sides. -/
def padded (boundary : Boundary) (margin : Coordinate) : Boundary :=
  ⟨boundary.top - margin, boundary.left - margin, boundary.right + margin,
    boundary.bottom + margin⟩

/-- The region, refused when it has no extent. -/
def checked (boundary : Boundary) : Except BoundaryError Boundary :=
  if boundary.isValid then .ok boundary else .error (.invalidTableBoundary boundary)

/-- The region's edges in words. -/
def describe (boundary : Boundary) : String :=
  let edge (x : Coordinate) := NumberStyle.message.write (Binary.ofSingle x)
  "TableBoundary \x7b top: " ++ edge boundary.top ++ ", left: " ++ edge boundary.left ++
    ", right: " ++ edge boundary.right ++ ", bottom: " ++ edge boundary.bottom ++ " \x7d"

end Boundary

namespace BoundaryError

/-- The outcome of a file with this error. -/
def code : BoundaryError → ErrorCode
  | headerNotRecognized _ => .headerNotRecognized
  | terminatorNotFound _ _ => .terminatorNotFound
  | emptyTableRegion => .emptyTableRegion
  | invalidTableBoundary _ => .invalidTableBoundary

/-- The error in words. -/
def message : BoundaryError → String
  | headerNotRecognized expected => "No header keyword (" ++ expected ++ ") next to the anchor"
  | terminatorNotFound terminator secondary =>
    "Terminator \"" ++ terminator ++ "\" not found below \"" ++ secondary ++ "\""
  | emptyTableRegion => "No text inside the estimated table region"
  | invalidTableBoundary boundary => "Degenerate table boundary " ++ boundary.describe

end BoundaryError

/-- A region and the texts inside it, in document order. -/
structure TableRegion where
  /-- The edges. -/
  boundary : Boundary
  /-- The texts. -/
  spans : List (Span Coordinate)
  /-- Width of a character. -/
  characterWidth : Coordinate

namespace TableRegion

/-- How far a header may lie off the anchor's line, as a share of the anchor's height. -/
def headerToleranceRatio : Coordinate := 0.2

/-- Margin around the table, in characters. -/
def marginCharacters : Coordinate := 2

/-- Margin above the header, in heights of the anchor. -/
def marginHeights : Coordinate := 2

/-- The text stands right of the anchor and on its line. -/
def isHeaderCandidate (anchor : Box Coordinate) (span : Span Coordinate) : Bool :=
  decide (anchor.x1 ≤ span.box.x0) &&
    (decide (Scalar.abs (span.box.centerY - anchor.centerY) ≤
        headerToleranceRatio * anchor.height) ||
      span.box.overlapsVertically anchor)

/-- The texts right of the anchor on its line. -/
def headerCandidates (page : Page Coordinate) (anchor : Box Coordinate) :
    List (Span Coordinate) :=
  page.spans.filter (isHeaderCandidate anchor)

/-- One of the texts contains one of the keywords; true when there are no keywords. -/
def recognizes (keywords : List String) (spans : List (Span Coordinate)) : Bool :=
  let texts := spans.map fun span => (Text.normalize span.text).toList
  keywords.isEmpty ||
    keywords.any fun keyword => texts.any fun text =>
      Text.contains text (Text.normalize keyword).toList

/-- The box around the anchor and the headers beside it. -/
def headerBox (anchor : Box Coordinate) (candidates : List (Span Coordinate)) : Box Coordinate :=
  candidates.foldl (fun box span => box.union span.box) anchor

/-- The text is the given label. -/
def isLabel (label : String) (span : Span Coordinate) : Bool :=
  Text.normalize span.text == Text.normalize label

/-- The box of the secondary header, or of the anchor when the page has no such header. -/
def secondaryBox (page : Page Coordinate) (anchor : Box Coordinate) (layout : Layout) :
    Box Coordinate :=
  ((page.spans.find? (isLabel layout.secondaryHeader)).map (·.box)).getD anchor

/-- The closing label: the first such text below the secondary header and not left of it. -/
def terminator? (page : Page Coordinate) (secondary : Box Coordinate) (layout : Layout) :
    Option (Span Coordinate) :=
  page.spans.find? fun span =>
    isLabel layout.terminator span && decide (secondary.y1 ≤ span.box.y0) &&
      decide (secondary.x0 ≤ span.box.x0)

/-- The greatest of some widths. -/
def greatestWidth : List Coordinate → Option Coordinate
  | [] => none
  | width :: widths => some (widths.foldl Scalar.greatest width)

/-- The width of a character: the greatest one among the width labels, else that of the anchor. -/
def estimateCharacterWidth (page : Page Coordinate) (anchorSpan : Option (Span Coordinate))
    (layout : Layout) : Coordinate :=
  let labels := layout.widthLabels.map Text.normalize
  let labelled := page.spans.filter fun span => labels.contains (Text.normalize span.text)
  ((greatestWidth (labelled.filterMap Span.characterWidth)).or
    (anchorSpan.bind Span.characterWidth)).getD 0

/-- The region as the labels suggest it. -/
def estimate (anchor header : Box Coordinate) (terminator : Span Coordinate)
    (margin : Coordinate) : Boundary where
  top := header.y0 - marginHeights * anchor.height
  left := anchor.x0 - margin
  right := header.x1 + margin
  bottom := terminator.box.y1 + margin

/-- The box around all spans. -/
def tightBox : List (Span Coordinate) → Option (Box Coordinate)
  | [] => none
  | span :: spans => some (spans.foldl (fun box span => box.union span.box) span.box)

/-- The region of the table that starts at the anchor. -/
def resolve (page : Page Coordinate) (anchor : Anchor) (layout : Layout) :
    Except BoundaryError TableRegion := do
  let anchorSpan := page.spans[anchor.spanIndex]?
  let candidates := headerCandidates page anchor.box
  if !recognizes layout.headerKeywords (anchorSpan.toList ++ candidates) then
    throw (.headerNotRecognized (String.intercalate ", " layout.headerKeywords))
  let header := headerBox anchor.box candidates
  let some terminator := terminator? page (secondaryBox page anchor.box layout) layout
    | throw (.terminatorNotFound layout.terminator layout.secondaryHeader)
  let characterWidth := estimateCharacterWidth page anchorSpan layout
  let margin := marginCharacters * characterWidth
  let region ← (estimate anchor.box header terminator margin).checked
  let spans := page.spans.filter fun span => region.contains span.box
  let some tight := tightBox spans
    | throw .emptyTableRegion
  let boundary ← ((Boundary.ofBox tight).padded margin).checked
  return { boundary, spans, characterWidth }

end TableRegion

end PartsList
