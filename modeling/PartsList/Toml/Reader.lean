import PartsList.Toml.Numbers
import PartsList.Toml.Strings
import PartsList.Toml.Tables

/-!
# Reading TOML

The value of a TOML text.  Values nest to a limited depth, and so do the parts of a key.
-/

namespace PartsList

namespace Toml

/-- Values nest less deeply than this, and keys have fewer parts. -/
def depthLimit : Nat := 80

/-- The character may stand in a key without quotes. -/
def isBare (c : Char) : Bool :=
  c.isAlphanum || c == '-' || c == '_'

/-- One part of a key, and what follows it. -/
def readPart (input : List Char) : Option (String × List Char) :=
  match readLineString input with
  | some part => some part
  | none =>
    match input.span isBare with
    | ([], _) => none
    | (chars, rest) => some (String.ofList chars, rest)

/-- The parts of a key between dots, and what follows them; `fuel` bounds their number. -/
def readParts : (fuel : Nat) → List Char → Option (List String × List Char)
  | 0, _ => none
  | fuel + 1, input => do
    let (part, rest) ← readPart (skipSpace input)
    match skipSpace rest with
    | '.' :: rest =>
      let (parts, rest) ← readParts fuel rest
      return (part :: parts, rest)
    | rest => return ([part], rest)

/-- A key, and what follows it and the blanks behind it. -/
def readKey (input : List Char) : Option (Key × List Char) := do
  let (parts, rest) ← readParts (depthLimit - 1) input
  return ({ front := parts.dropLast, last := ← parts.getLast? }, rest)

/-- What follows blanks, line ends and comments; `comment` says that the input begins inside of a
comment. -/
def skipGap : (comment : Bool) → List Char → Option (List Char)
  | _, [] => some []
  | _, '\n' :: rest => skipGap false rest
  | _, '\r' :: '\n' :: rest => skipGap false rest
  | true, c :: rest => if isPlain c then skipGap true rest else none
  | false, c :: rest =>
    if c = '#' then skipGap true rest
    else if isSpace c then skipGap false rest
    else some (c :: rest)

mutual

/-- A value at the front of the input, and what follows it; `fuel` bounds the depth of calls and
`levels` the depth of values. -/
def readValue : (fuel levels : Nat) → List Char → Option (Toml × List Char)
  | 0, _, _ => none
  | fuel + 1, levels, input =>
    match input with
    | '"' :: _ => (readString input).map fun (value, rest) => (.text value, rest)
    | '\'' :: _ => (readString input).map fun (value, rest) => (.text value, rest)
    | 't' :: 'r' :: 'u' :: 'e' :: rest => some (.boolean true, rest)
    | 'f' :: 'a' :: 'l' :: 's' :: 'e' :: rest => some (.boolean false, rest)
    | '[' :: rest =>
      match levels with
      | 0 => none
      | levels + 1 => do
        let (items, rest) ← readItems fuel levels rest
        return (.array items, rest)
    | '{' :: rest =>
      match levels with
      | 0 => none
      | levels + 1 =>
        match skipSpace rest with
        | '}' :: rest => some (.table [], rest)
        | rest => do
          let (assignments, rest) ← readAssignments fuel levels rest
          return (← ofAssignments assignments, rest)
    | input => readNumber input

/-- The items of an array up to the closing bracket.  A comma may stand behind the last one. -/
def readItems : (fuel levels : Nat) → List Char → Option (List Toml × List Char)
  | 0, _, _ => none
  | fuel + 1, levels, input => do
    match ← skipGap false input with
    | ']' :: rest => return ([], rest)
    | rest =>
      let (item, rest) ← readValue fuel levels rest
      match ← skipGap false rest with
      | ',' :: rest =>
        let (items, rest) ← readItems fuel levels rest
        return (item :: items, rest)
      | ']' :: rest => return ([item], rest)
      | _ => none

/-- The assignments inside braces from the first one on, up to the closing brace. -/
def readAssignments : (fuel levels : Nat) → List Char → Option (List (Key × Toml) × List Char)
  | 0, _, _ => none
  | fuel + 1, levels, input => do
    let (key, rest) ← readKey input
    let (value, rest) ← readValue fuel levels (skipSpace (← readMark '=' rest))
    match skipSpace rest with
    | ',' :: rest =>
      let (assignments, rest) ← readAssignments fuel levels rest
      return ((key, value) :: assignments, rest)
    | '}' :: rest => return ([(key, value)], rest)
    | _ => none

end

/-- A statement at the front of the input, and what follows it. -/
def readStatement (input : List Char) : Option (Statement × List Char) :=
  match input with
  | '[' :: '[' :: rest => do
    let (key, rest) ← readKey rest
    return (.element key, ← readMark ']' (← readMark ']' rest))
  | '[' :: rest => do
    let (key, rest) ← readKey rest
    return (.header key, ← readMark ']' rest)
  | input => do
    let (key, rest) ← readKey input
    let rest := skipSpace (← readMark '=' rest)
    let (value, rest) ← readValue (2 * rest.length + 2) (depthLimit - 1) rest
    return (.assign key value, rest)

/-- Nothing but blanks and a comment is left in the line. -/
def lineIsOver (input : List Char) : Bool :=
  match skipSpace input with
  | [] => true
  | '#' :: _ => true
  | rest => endsLine rest

/-- The statements of a text, each at the end of its line; `fuel` bounds their number. -/
def readStatements : (fuel : Nat) → List Char → Option (List Statement)
  | 0, _ => none
  | fuel + 1, input => do
    match ← skipGap false input with
    | [] => return []
    | rest =>
      let (statement, rest) ← readStatement rest
      if lineIsOver rest then return statement :: (← readStatements fuel rest) else none

/-- The text without the mark that may stand in front of it. -/
def skipByteOrderMark : List Char → List Char
  | c :: rest => if c.toNat = 0xFEFF then rest else c :: rest
  | [] => []

/-- The value of a whole text. -/
def readChars (input : List Char) : Option Toml := do
  ofStatements (← readStatements (input.length + 1) (skipByteOrderMark input))

/-- The value of a whole text. -/
def read (text : String) : Option Toml :=
  readChars text.toList

end Toml

end PartsList
