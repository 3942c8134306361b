import PartsList.Geometry.Page
import PartsList.Text.Lowercase

/-!
# Anchors

The label that marks the start of the table: the first text on the page that contains it, whatever
the case of its letters.
-/

namespace PartsList

/-- Where the anchor's label stands on a page. -/
structure Anchor where
  /-- The box of the text that contains the label. -/
  box : Box Coordinate
  /-- Number of the page. -/
  pageNumber : Nat
  /-- Share of the text that the label takes. -/
  confidence : Coordinate
  /-- Position of the text among the texts of the page. -/
  spanIndex : Nat

namespace Anchor

/-- Share of a text of `whole` characters that a label of `part` characters takes, at most one. -/
def share (part whole : Nat) : Coordinate :=
  Scalar.least (Scalar.ofNat part / Scalar.ofNat whole) (Scalar.ofNat 1)

/-- The anchor in the given span, when the span contains the label in small letters. -/
def inSpan? (label : List Char) (pageNumber index : Nat) (span : Span Coordinate) : Option Anchor :=
  let text := (Text.normalize span.text).toList
  if Text.contains text label then
    some {
      box := span.box
      pageNumber := pageNumber
      confidence := share label.length text.length
      spanIndex := index }
  else none

/-- The first anchor among spans that are counted from `index` on. -/
def inSpans? (label : List Char) (pageNumber : Nat) : (index : Nat) → List (Span Coordinate) →
    Option Anchor
  | _, [] => none
  | index, span :: spans =>
    (inSpan? label pageNumber index span).or (inSpans? label pageNumber (index + 1) spans)

/-- The first text of the page that contains the label.  A blank label is on no page. -/
def find? (page : Page Coordinate) (label : String) : Option Anchor :=
  let label := (Text.normalize label).toList
  if label.isEmpty then none else inSpans? label page.number 0 page.spans

end Anchor

end PartsList
