import PartsList.Extraction.Rows
import PartsList.Settings.Layout
import PartsList.Text.Keyword

/-!
# Columns

The texts of data rows placed under the headers they are drawn below.  A text belongs to the column
whose center is nearest, unless it is too far from every one.  A row that mentions a closing keyword
ends the table, and a row that is empty, or empty in its leading columns, is left out.
-/

namespace PartsList

variable {α : Type} [Scalar α]

/-- How texts are placed in columns. -/
structure ColumnRules (α : Type) where
  /-- Distance that counts as near. -/
  tolerance : α
  /-- A row that is empty in this many leading columns is noise. -/
  noiseLeadingColumns : Nat
  /-- Words that end the table. -/
  keywords : List String

namespace ColumnRules

/-- Rules with the given words that end the table, blank ones left out. -/
def make (tolerance : α) (noiseLeadingColumns : Nat) (keywords : List String) : ColumnRules α :=
  ⟨tolerance, noiseLeadingColumns, (keywords.map Text.trim).filter (· ≠ "")⟩

/-- The rules of a layout. -/
def ofLayout (layout : Layout) : ColumnRules Coordinate :=
  make layout.columnToleranceX layout.noiseLeadingColumns layout.terminationKeywords

/-- The text mentions a word that ends the table. -/
def terminates (rules : ColumnRules α) (text : String) : Bool :=
  rules.keywords.any (Text.mentions text)

/-- A text this far from every column, or farther, belongs to none. -/
def reach (rules : ColumnRules α) : α :=
  Scalar.ofNat 3 * rules.tolerance

end ColumnRules

/-- Headers and the rows under them. -/
structure MappedTable where
  /-- Headers from left to right. -/
  headers : List String
  /-- One value per header for each row. -/
  rows : List (List String)
  /-- How many texts belong to no column. -/
  unmatchedCells : Nat
deriving DecidableEq, Repr

/-- The nearest of the columns counted from `index` on, with its distance; of equally near ones the
first. -/
def nearestColumn (x : α) : (index : Nat) → List α → Option (Nat × α)
  | _, [] => none
  | index, center :: centers =>
    let distance := Scalar.abs (center - x)
    match nearestColumn x (index + 1) centers with
    | some (other, least) =>
      if Scalar.ranked distance least then some (index, distance) else some (other, least)
    | none => some (index, distance)

/-- The column a text belongs to. -/
def columnOf? (rules : ColumnRules α) (centers : List α) (span : Span α) : Option Nat :=
  match nearestColumn span.box.centerX 0 centers with
  | some (column, distance) => if distance < rules.reach then some column else none
  | none => none

/-- A value with one more text, a blank between it and what is there. -/
def appendText (value text : String) : String :=
  if value = "" then text else value ++ " " ++ text

/-- The texts of a row placed in columns: a value per column, and how many texts belong to none. -/
def placeRow (rules : ColumnRules α) (centers : List α) (row : List (Span α)) :
    List String × Nat :=
  let spans := (fromLeft row).filter fun span => Text.trim span.text ≠ ""
  spans.foldl
    (fun placed span =>
      match columnOf? rules centers span with
      | some column =>
        (placed.1.modify column fun value => appendText value (Text.trim span.text), placed.2)
      | none => (placed.1, placed.2 + 1))
    (centers.map fun _ => "", 0)

/-- The row holds nothing, or nothing in its leading columns. -/
def isNoise (rules : ColumnRules α) (values : List String) : Bool :=
  values.all (· == "") ||
    (0 < rules.noiseLeadingColumns && (values.take rules.noiseLeadingColumns).all (· == ""))

/-- The rows in front of the first one that ends the table. -/
def dataRows (rules : ColumnRules α) (rows : List (List (Span α))) : List (List (Span α)) :=
  rows.takeWhile fun row => !rules.terminates (rowText row)

/-- The data rows placed under the headers. -/
def mapColumns (rules : ColumnRules α) (header : List (Span α)) (rows : List (List (Span α))) :
    MappedTable :=
  let headerSpans := fromLeft header
  let centers := headerSpans.map fun span => span.box.centerX
  let placed := (dataRows rules rows).map (placeRow rules centers)
  { headers := headerSpans.map fun span => Text.trim span.text
    rows := (placed.map Prod.fst).filter fun values => !isNoise rules values
    unmatchedCells := (placed.map Prod.snd).foldr (· + ·) 0 }

end PartsList
