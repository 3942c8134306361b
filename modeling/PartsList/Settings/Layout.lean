import PartsList.Number.Scalar

/-!
# Layout of a parts list

The labels and distances by which the table is recognized on a drawing.
-/

namespace PartsList

/-- Labels and tolerances that describe the table. -/
structure Layout where
  /-- Label at the start of the table's header. -/
  anchorText : String := "PT NO"
  /-- At least one of these has to stand on the header line. -/
  headerKeywords : List String := ["DESCRIPTION", "QTY", "N.S.", "SIZE", "ITEM CODE"]
  /-- Header below which the closing label is looked for. -/
  secondaryHeader : String := "DESCRIPTION"
  /-- Label that closes the table. -/
  terminator : String := "CUT PIPE LENGTH"
  /-- Labels by which the width of a character is estimated. -/
  widthLabels : List String := ["PT NO", "DESCRIPTION", "QTY"]
  /-- A row that mentions one of these ends the table. -/
  terminationKeywords : List String := ["TOTAL", "CUT PIPE LENGTH"]
  /-- Vertical distance within which texts share a row. -/
  rowToleranceY : Coordinate := 3
  /-- Horizontal distance that counts as near a column. -/
  columnToleranceX : Coordinate := 15
  /-- A row whose first columns, this many, are all empty is noise. -/
  noiseLeadingColumns : Nat := 2

end PartsList
