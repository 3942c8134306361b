import PartsList.Text.CaseTable
import PartsList.Text.WordTable

/-!
# Keywords in text

A keyword occurs in a text where its characters stand next to each other, case ignored, and where
both ends of the occurrence are word boundaries: exactly one of the two characters around the
boundary belongs to a word.
-/

namespace PartsList.Text

/-- The character belongs to a word. -/
def isWord (c : Char) : Bool :=
  if c.toNat < 128 then c.isAlphanum || c == '_' else inRanges wordRanges c

/-- The character that stands for all characters equal to `c` when case is ignored. -/
def fold (c : Char) : Char :=
  if c.toNat < 128 then c.toLower else mapByRuns foldingRuns c

/-- One of the two neighbours belongs to a word and the other does not, a missing one counting as
not. -/
def isBoundary (left right : Option Char) : Bool :=
  left.any isWord != right.any isWord

/-- What follows `keyword` at the front of the text, when the text starts with it. -/
def dropFolded : (keyword text : List Char) → Option (List Char)
  | [], text => some text
  | _ :: _, [] => none
  | k :: keyword, c :: text => if fold k == fold c then dropFolded keyword text else none

/-- The keyword starts at the front of `text`, which stands after the character `before`, and both
its ends are word boundaries. -/
def keywordHere (keyword : List Char) (before : Option Char) (text : List Char) : Bool :=
  match dropFolded keyword text with
  | none => false
  | some rest =>
    let last := ((text.take keyword.length).getLast?).or before
    isBoundary before text.head? && isBoundary last rest.head?

/-- The keyword occurs somewhere in `text`, which stands after the character `before`. -/
def keywordFrom (keyword : List Char) (before : Option Char) : List Char → Bool
  | [] => keywordHere keyword before []
  | c :: rest => keywordHere keyword before (c :: rest) || keywordFrom keyword (some c) rest

/-- The keyword occurs in the text, case ignored, between word boundaries. -/
def mentions (text keyword : String) : Bool :=
  keywordFrom keyword.toList none text.toList

end PartsList.Text
