import PartsList.Text.CaseTable
import PartsList.Text.CharClass

/-!
# Small letters

Text in small letters.  Two letters need more than a mapping of single characters: a capital I with
a dot becomes two characters, and a capital sigma becomes a final sigma where it ends a word.
-/

namespace PartsList.Text

/-- The first character that is not skipped in a search for cased letters has case. -/
def nextIsCased (cs : List Char) : Bool :=
  match cs.dropWhile (inRanges caseIgnorableRanges) with
  | c :: _ => inRanges casedRanges c
  | [] => false

/-- The small form of a character, after the characters `before` (nearest first) and in front of
the characters `after`. -/
def lowercaseAt (before : List Char) (c : Char) (after : List Char) : List Char :=
  if c.toNat < 128 then [c.toLower]
  else if c == 'Σ' then
    if nextIsCased before && !nextIsCased after then ['ς'] else ['σ']
  else if c == 'İ' then ['i', Char.ofNat 0x307]
  else [mapByRuns lowercaseRuns c]

/-- The small forms of `cs`, which stands after the characters `before` (nearest first). -/
def lowercaseAfter (before : List Char) : List Char → List Char
  | [] => []
  | c :: rest => lowercaseAt before c rest ++ lowercaseAfter (c :: before) rest

/-- The text in small letters. -/
def lowercase (text : String) : String :=
  String.ofList (lowercaseAfter [] text.toList)

/-- The form in which labels are compared: trimmed, in small letters. -/
def normalize (text : String) : String :=
  lowercase (trim text)

/-- One text occurs in the other as a block of neighbouring characters. -/
def contains (text part : List Char) : Bool :=
  match text with
  | [] => part.isEmpty
  | _ :: rest => part.isPrefixOf text || contains rest part

end PartsList.Text
