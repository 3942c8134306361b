import PartsList.Json.Value
import PartsList.Number.Hexadecimal
import PartsList.Text.Utf8

/-!
# Reading JSON

The tree of a JSON text.  The grammar is strict: no comma in front of a closing bracket, no zero in
front of other digits, no control character inside a string, and nothing but blanks after the
value.  Bytes that are no characters are allowed in strings, which then denote no text.
-/

namespace PartsList

namespace Json

/-- The blank characters of the format. -/
def isSpace (c : Char) : Bool :=
  c == ' ' || c == '\n' || c == '\r' || c == '\t'

/-- The input without the blanks in front. -/
def skipSpace (input : List Char) : List Char :=
  input.dropWhile isSpace

/-- The number that four hexadecimal digits write. -/
def hexCode (a b c d : Char) : Option Nat :=
  Hexadecimal.number? [a, b, c, d]

/-- The character that a one letter escape writes. -/
def escapedChar (c : Char) : Option Char :=
  match c with
  | '"' => some '"'
  | '\\' => some '\\'
  | '/' => some '/'
  | 'b' => some (Char.ofNat 8)
  | 'f' => some (Char.ofNat 12)
  | 'n' => some '\n'
  | 'r' => some '\r'
  | 't' => some '\t'
  | _ => none

/-- What stands for a stray byte in the input: a character that the format allows nowhere. -/
def strayMark : Char := Char.ofNat 0

/-- What stands for the character that has to make way for the mark of a stray byte: another one
that the format allows nowhere. -/
def displacedMark : Char := Char.ofNat 1

/-- The code of a stray byte in a string, which is the code of no character. -/
def strayCode : Nat := 0x110000

/-- A character of a text, in the input of the reader. -/
def markText (c : Char) : Char :=
  if c = strayMark then displacedMark else c

/-- The codes of a string up to its closing quote, and what follows the quote.  A character stands
for its code point, a numbered escape for its number. -/
def readCodes : List Char → Option (List Nat × List Char)
  | [] => none
  | '"' :: rest => some ([], rest)
  | '\\' :: 'u' :: a :: b :: c :: d :: rest => do
    let code ← hexCode a b c d
    let (codes, rest) ← readCodes rest
    return (code :: codes, rest)
  | '\\' :: c :: rest => do
    let c ← escapedChar c
    let (codes, rest) ← readCodes rest
    return (c.toNat :: codes, rest)
  | c :: rest =>
    if c = strayMark then do
      let (codes, rest) ← readCodes rest
      return (strayCode :: codes, rest)
    else if c.toNat < 32 || c == '\\' then none
    else do
      let (codes, rest) ← readCodes rest
      return (c.toNat :: codes, rest)

/-- The code is the first half of a surrogate pair. -/
def isHighHalf (code : Nat) : Bool :=
  0xD800 ≤ code && code < 0xDC00

/-- The code is the second half of a surrogate pair. -/
def isLowHalf (code : Nat) : Bool :=
  0xDC00 ≤ code && code < 0xE000

/-- The characters that codes stand for, a pair of surrogate halves for one character; nothing when
a half stands alone or a code is that of no character. -/
def joinHalves : List Nat → Option (List Char)
  | [] => some []
  | code :: rest =>
    if isHighHalf code then
      match rest with
      | low :: rest =>
        if isLowHalf low then
          (joinHalves rest).map
            (Char.ofNat (0x10000 + (code - 0xD800) * 0x400 + (low - 0xDC00)) :: ·)
        else none
      | [] => none
    else if isLowHalf code || code = strayCode then none
    else (joinHalves rest).map (Char.ofNat code :: ·)

/-- A string behind its opening quote, and what follows it. -/
def readString (input : List Char) : Option (Option String × List Char) := do
  let (codes, rest) ← readCodes input
  return ((joinHalves codes).map String.ofList, rest)

/-- Digits at the front, and what follows them. -/
def spanDigits (input : List Char) : List Char × List Char :=
  input.span Char.isDigit

/-- The digits before the point of a number. -/
def readWhole (input : List Char) : Option (List Char × List Char) :=
  match spanDigits input with
  | ([], _) => none
  | ('0' :: _ :: _, _) => none
  | (digits, rest) => some (digits, rest)

/-- The digits behind a point, if one follows. -/
def readFraction : List Char → Option (Option (List Char) × List Char)
  | '.' :: rest =>
    match spanDigits rest with
    | ([], _) => none
    | (digits, rest) => some (some digits, rest)
  | rest => some (none, rest)

/-- The sign in front of an exponent's digits. -/
def readSign : List Char → Bool × List Char
  | '-' :: rest => (true, rest)
  | '+' :: rest => (false, rest)
  | rest => (false, rest)

/-- The exponent, if one follows. -/
def readExponent (input : List Char) : Option (Option (Bool × List Char) × List Char) :=
  match input with
  | c :: rest =>
    if c = 'e' ∨ c = 'E' then
      let (negative, rest) := readSign rest
      match spanDigits rest with
      | ([], _) => none
      | (digits, rest) => some (some (negative, digits), rest)
    else some (none, input)
  | [] => some (none, [])

/-- A number behind its sign, and what follows it. -/
def readUnsigned (negative : Bool) (input : List Char) : Option (Numeral × List Char) := do
  let (whole, rest) ← readWhole input
  let (fraction, rest) ← readFraction rest
  let (exponent, rest) ← readExponent rest
  return (⟨negative, whole, fraction, exponent⟩, rest)

/-- A number, and what follows it. -/
def readNumber : List Char → Option (Numeral × List Char)
  | '-' :: rest => readUnsigned true rest
  | input => readUnsigned false input

mutual

/-- A value at the front of the input, and what follows it; `fuel` bounds the depth of calls. -/
def readValue : (fuel : Nat) → List Char → Option (Json × List Char)
  | 0, _ => none
  | fuel + 1, input =>
    match skipSpace input with
    | 'n' :: 'u' :: 'l' :: 'l' :: rest => some (.null, rest)
    | 't' :: 'r' :: 'u' :: 'e' :: rest => some (.bool true, rest)
    | 'f' :: 'a' :: 'l' :: 's' :: 'e' :: rest => some (.bool false, rest)
    | '"' :: rest => do
      let (value, rest) ← readString rest
      return (.string value, rest)
    | '[' :: rest =>
      match skipSpace rest with
      | ']' :: rest => some (.array [], rest)
      | rest => do
        let (items, rest) ← readItems fuel rest
        return (.array items, rest)
    | '{' :: rest =>
      match skipSpace rest with
      | '}' :: rest => some (.object [], rest)
      | rest => do
        let (members, rest) ← readMembers fuel rest
        return (.object members, rest)
    | rest => do
      let (value, rest) ← readNumber rest
      return (.number value, rest)

/-- The items of an array from its first one on, up to the closing bracket. -/
def readItems : (fuel : Nat) → List Char → Option (List Json × List Char)
  | 0, _ => none
  | fuel + 1, input => do
    let (item, rest) ← readValue fuel input
    match skipSpace rest with
    | ',' :: rest =>
      let (items, rest) ← readItems fuel rest
      return (item :: items, rest)
    | ']' :: rest => return ([item], rest)
    | _ => none

/-- The members of an object from its first one on, up to the closing brace. -/
def readMembers : (fuel : Nat) → List Char → Option (List (Option String × Json) × List Char)
  | 0, _ => none
  | fuel + 1, input =>
    match skipSpace input with
    | '"' :: rest => do
      let (name, rest) ← readString rest
      match skipSpace rest with
      | ':' :: rest =>
        let (value, rest) ← readValue fuel rest
        match skipSpace rest with
        | ',' :: rest =>
          let (members, rest) ← readMembers fuel rest
          return ((name, value) :: members, rest)
        | '}' :: rest => return ([(name, value)], rest)
        | _ => none
      | _ => none
    | _ => none

end

/-- The value of a whole input. -/
def readChars (input : List Char) : Option Json := do
  let (value, rest) ← readValue (2 * input.length + 2) input
  match skipSpace rest with
  | [] => return value
  | _ => none

/-- The value of a whole text. -/
def read (text : String) : Option Json :=
  readChars (text.toList.map markText)

/-- The value that the bytes of a text denote. -/
def readBytes (bytes : List UInt8) : Option Json :=
  readChars ((Utf8.decode bytes).map fun c => c.elim strayMark markText)

end Json

end PartsList
