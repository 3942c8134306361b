import PartsList.Geometry.Page

/-!
# Rows

Texts grouped into the rows they are drawn in.  Texts are visited from top to bottom; each joins the
first row whose mean vertical center is near enough, or opens a new row.
-/

namespace PartsList

variable {α : Type} [Scalar α]

/-- A row that is being collected. -/
structure Band (α : Type) where
  /-- Sum of the vertical centers of its texts. -/
  centerSum : α
  /-- Its texts in the order in which they joined. -/
  spans : List (Span α)

namespace Band

/-- A row with one text. -/
def single (span : Span α) : Band α :=
  ⟨span.box.centerY, [span]⟩

/-- Mean vertical center of the row. -/
def mean (band : Band α) : α :=
  band.centerSum / Scalar.ofNat band.spans.length

/-- The row with one more text. -/
def push (band : Band α) (span : Span α) : Band α :=
  ⟨band.centerSum + span.box.centerY, band.spans ++ [span]⟩

/-- The text's center lies within the tolerance of the row's mean center. -/
def near (tolerance : α) (band : Band α) (span : Span α) : Bool :=
  decide (Scalar.abs (band.mean - span.box.centerY) ≤ tolerance)

end Band

/-- Adds a text to the first row near it, or opens a row for it behind the others. -/
def joinBands (tolerance : α) (span : Span α) : List (Band α) → List (Band α)
  | [] => [Band.single span]
  | band :: bands =>
    if band.near tolerance span then band.push span :: bands
    else band :: joinBands tolerance span bands

/-- The texts from top to bottom, by the total order of their centers. -/
def fromTop (spans : List (Span α)) : List (Span α) :=
  spans.mergeSort fun left right => Scalar.ranked left.box.centerY right.box.centerY

/-- The texts from left to right, by the total order of their centers. -/
def fromLeft (spans : List (Span α)) : List (Span α) :=
  spans.mergeSort fun left right => Scalar.ranked left.box.centerX right.box.centerX

/-- The rows in the order in which they are opened. -/
def collectBands (tolerance : α) (spans : List (Span α)) : List (Band α) :=
  (fromTop spans).foldl (fun bands span => joinBands tolerance span bands) []

/-- The rows from top to bottom, each from left to right. -/
def groupRows (spans : List (Span α)) (tolerance : α) : List (List (Span α)) :=
  let bands := (collectBands tolerance spans).mergeSort fun left right =>
    Scalar.ranked left.mean right.mean
  bands.map fun band => fromLeft band.spans

/-- The text of a row: its texts that are not blank, trimmed, with single blanks between them. -/
def rowText (row : List (Span α)) : String :=
  String.intercalate " " ((row.map fun span => Text.trim span.text).filter (· ≠ ""))

end PartsList
