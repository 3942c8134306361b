import PartsList.Number.Numeral

/-!
# JSON values

A JSON text as a tree.  Numbers are kept as they are written, because whether a number is an
integer is a matter of its text; members keep their order and may repeat; and a string whose
escapes name half of a surrogate pair denotes no text.
-/

namespace PartsList

/-- A JSON value. -/
inductive Json
  /-- The null value. -/
  | null
  /-- A truth value. -/
  | bool (value : Bool)
  /-- A number. -/
  | number (value : Numeral)
  /-- A string; nothing when its escapes denote no text. -/
  | string (value : Option String)
  /-- An array. -/
  | array (items : List Json)
  /-- An object, its members in the order of the text. -/
  | object (members : List (Option String × Json))
deriving Repr

namespace Json

/-- A string value. -/
def text (value : String) : Json :=
  .string (some value)

/-- The text of a string value, null when there is none. -/
def optionalText (value : Option String) : Json :=
  value.elim .null text

/-- A natural number. -/
def natural (n : Nat) : Json :=
  .number (Numeral.ofNat n)

/-- An object with the given members. -/
def record (members : List (String × Json)) : Json :=
  .object (members.map fun member => (some member.1, member.2))

end Json

end PartsList
