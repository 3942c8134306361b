/-!
# Character classes, mappings and blanks

Classes of characters are lists of code point ranges, and mappings between letters are lists of
runs.  A character belongs to a class when one of its ranges holds it, and a mapping moves it by the
offset of the first run that holds it.  White space is the class of characters that are taken away
from the ends of texts.
-/

namespace PartsList.Text

/-- The character lies in one of the ranges, both ends included. -/
def inRanges (ranges : List (Nat × Nat)) (c : Char) : Bool :=
  ranges.any fun range => range.1 ≤ c.toNat && c.toNat ≤ range.2

/-- Every `step`-th code point from `first` to `last`, each mapped by adding `offset`. -/
structure MappingRun where
  /-- First code point of the run. -/
  first : Nat
  /-- Last code point of the run. -/
  last : Nat
  /-- Distance between neighbours of the run. -/
  step : Nat
  /-- What is added to a code point of the run. -/
  offset : Int
deriving DecidableEq, Repr

namespace MappingRun

/-- The character is one of the run's code points. -/
def holds (run : MappingRun) (c : Char) : Bool :=
  run.first ≤ c.toNat && c.toNat ≤ run.last && (c.toNat - run.first) % run.step == 0

/-- The character moved by the run's offset. -/
def shift (run : MappingRun) (c : Char) : Char :=
  Char.ofNat (c.toNat + run.offset).toNat

end MappingRun

/-- The character's image: itself unless a run holds it. -/
def mapByRuns (runs : List MappingRun) (c : Char) : Char :=
  match runs.find? (·.holds c) with
  | some run => run.shift c
  | none => c

/-! ## White space -/

/-- Ranges of the characters that the Unicode standard calls white space. -/
def blankRanges : List (Nat × Nat) :=
  [(9, 13), (32, 32), (133, 133), (160, 160), (5760, 5760), (8192, 8202), (8232, 8233),
   (8239, 8239), (8287, 8287), (12288, 12288)]

/-- The character is white space. -/
def isBlank (c : Char) : Bool :=
  inRanges blankRanges c

/-- The characters without the white space in front. -/
def dropBlank (cs : List Char) : List Char :=
  cs.dropWhile isBlank

/-- The characters without the white space at either end. -/
def trimChars (cs : List Char) : List Char :=
  (dropBlank (dropBlank cs).reverse).reverse

/-- The text without the white space at either end. -/
def trim (text : String) : String :=
  String.ofList (trimChars text.toList)

/-- The text holds nothing but white space. -/
def isBlankText (text : String) : Bool :=
  text.toList.all isBlank

end PartsList.Text
