import PartsList.Number.Scalar

/-!
# Boxes

Rectangles on a page.  The origin is the top left corner and `y` grows downward, so `y0` is the top
edge of a box and `y1` its bottom edge.
-/

namespace PartsList

/-- A rectangle given by its edges. -/
structure Box (α : Type) where
  /-- Left edge. -/
  x0 : α
  /-- Top edge. -/
  y0 : α
  /-- Right edge. -/
  x1 : α
  /-- Bottom edge. -/
  y1 : α
deriving Repr, DecidableEq

namespace Box

variable {α : Type} [Scalar α]

/-- Horizontal extent, zero for an inverted box. -/
def width (box : Box α) : α :=
  Scalar.greatest (box.x1 - box.x0) (Scalar.ofNat 0)

/-- Vertical extent, zero for an inverted box. -/
def height (box : Box α) : α :=
  Scalar.greatest (box.y1 - box.y0) (Scalar.ofNat 0)

/-- Horizontal center. -/
def centerX (box : Box α) : α :=
  (box.x0 + box.x1) * Scalar.half

/-- Vertical center. -/
def centerY (box : Box α) : α :=
  (box.y0 + box.y1) * Scalar.half

/-- The least box around both boxes. -/
def union (box other : Box α) : Box α where
  x0 := Scalar.least box.x0 other.x0
  y0 := Scalar.least box.y0 other.y0
  x1 := Scalar.greatest box.x1 other.x1
  y1 := Scalar.greatest box.y1 other.y1

/-- The two boxes share some vertical extent. -/
def overlapsVertically (box other : Box α) : Bool :=
  decide (box.y0 < other.y1) && decide (other.y0 < box.y1)

/-- The other box lies inside this one, edges included. -/
def contains (box other : Box α) : Bool :=
  decide (box.x0 ≤ other.x0) && decide (other.x1 ≤ box.x1) &&
    decide (box.y0 ≤ other.y0) && decide (other.y1 ≤ box.y1)

/-- The boxes have equal edges, compared as numbers. -/
def sameEdges (box other : Box α) : Bool :=
  box.x0 == other.x0 && box.y0 == other.y0 && box.x1 == other.x1 && box.y1 == other.y1

end Box

end PartsList
