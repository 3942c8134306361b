import PartsList.Geometry.Box
import PartsList.Text.CharClass

/-!
# Positioned text

The text of a page as spans: pieces of text with the box they are drawn in, in the order in which
the document lists them.
-/

namespace PartsList

/-- A piece of text and where it is drawn. -/
structure Span (α : Type) where
  /-- The text as the document holds it. -/
  text : String
  /-- The box around the drawn text. -/
  box : Box α
deriving Repr, DecidableEq

namespace Span

variable {α : Type} [Scalar α]

/-- Width of one character, the span's width shared out evenly; a blank span has none. -/
def characterWidth (span : Span α) : Option α :=
  match (Text.trim span.text).length with
  | 0 => none
  | count => some (span.box.width / Scalar.ofNat count)

end Span

/-- The text of one page. -/
structure Page (α : Type) where
  /-- Number of the page, starting at one. -/
  number : Nat
  /-- Width of the page. -/
  width : α
  /-- Height of the page. -/
  height : α
  /-- Positioned text in document order. -/
  spans : List (Span α)
deriving Repr, DecidableEq

end PartsList
