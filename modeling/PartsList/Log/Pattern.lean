import PartsList.Number.Hexadecimal

/-!
# Patterns

Patterns for the values of a log line, and whether a text is a pattern.  Groups and sets of
characters are closed, a repetition sign has something in front of it, and a backslash stands in
front of a character that it can change.  Counted repetitions need a closing brace, which a pattern
in a filter cannot hold, and the edges of words are not supported; both are no patterns.
-/

namespace PartsList

/-- What a backslash and the characters behind it stand for. -/
inductive PatternEscape
  /-- A character. -/
  | literal (c : Char)
  /-- Any of several characters. -/
  | oneOf
  /-- A place in the text. -/
  | position
deriving DecidableEq, Repr

namespace PatternEscape

/-- The character whose number is written with `count` hexadecimal digits. -/
def readNumbered (count : Nat) (text : List Char) : Option (PatternEscape × List Char) := do
  if text.length < count then none
  let code ← Hexadecimal.number? (text.take count)
  if code < 0xD800 ∨ (0xDFFF < code ∧ code < 0x110000) then
    some (.literal (Char.ofNat code), text.drop count)
  else none

/-- The control characters that have a letter. -/
def control? (c : Char) : Option Char :=
  ([('a', '\x07'), ('f', '\x0c'), ('t', '\t'), ('n', '\n'), ('r', '\r'), ('v', '\x0b')].lookup c)

/-- Reads what stands behind a backslash. -/
def read? : List Char → Option (PatternEscape × List Char)
  | [] => none
  | c :: rest =>
    if c = 'x' then readNumbered 2 rest
    else if c = 'u' then readNumbered 4 rest
    else if c = 'U' then readNumbered 8 rest
    else if c = 'p' ∨ c = 'P' then readProperty rest
    else if ['d', 's', 'w', 'D', 'S', 'W'].contains c then some (.oneOf, rest)
    else if c = 'A' ∨ c = 'z' then some (.position, rest)
    else if c.isAlphanum then (control? c).map fun c => (.literal c, rest)
    else if c.toNat < 128 ∧ c ≠ '<' ∧ c ≠ '>' then some (.literal c, rest)
    else none
where
  /-- A kind of characters, named by a letter. -/
  readProperty : List Char → Option (PatternEscape × List Char)
    | c :: rest =>
      if ['L', 'M', 'N', 'P', 'S', 'Z', 'C'].contains c then some (.oneOf, rest) else none
    | [] => none

end PatternEscape

/-- How far a pattern has been read. -/
structure PatternReading where
  /-- Number of groups that are open. -/
  groups : Nat := 0
  /-- A repetition sign can follow. -/
  repeatable : Bool := false
  /-- What is left of the pattern. -/
  rest : List Char
deriving DecidableEq, Repr

namespace PatternReading

/-- Something that can be repeated has been read. -/
def item (reading : PatternReading) (rest : List Char) : PatternReading :=
  { reading with repeatable := true, rest := rest }

/-! ## Sets of characters -/

/-- Names of sets that stand between colons. -/
def setNames : List String :=
  ["alnum", "alpha", "ascii", "blank", "cntrl", "digit", "graph", "lower", "print", "punct",
   "space", "upper", "word", "xdigit"]

/-- What follows a named set, when one stands at the front. -/
def readNamedSet (text : List Char) : Option (List Char) := do
  let rest ← dropFront ['[', ':'] text
  let rest := if rest.head? = some '^' then rest.drop 1 else rest
  let name := rest.takeWhile (· ≠ ':')
  if !setNames.contains (String.ofList name) then none
  dropFront [':', ']'] (rest.drop name.length)
where
  /-- What follows the given front. -/
  dropFront (front text : List Char) : Option (List Char) :=
    if front.isPrefixOf text then some (text.drop front.length) else none

/-- What follows the signs at the front of a set: a caret, hyphens that stand for themselves, and a
closing bracket that does. -/
def openSet (text : List Char) : List Char :=
  let text := if text.head? = some '^' then text.drop 1 else text
  let hyphens := text.takeWhile (· = '-')
  if hyphens.isEmpty then (if text.head? = some ']' then text.drop 1 else text)
  else text.drop hyphens.length

/-- Reads an element of a set. -/
def readElement : List Char → Option (PatternEscape × List Char)
  | [] => none
  | c :: rest =>
    if c = '\\' then (PatternEscape.read? rest).filter fun (escape, _) => escape ≠ .position
    else some (.literal c, rest)

/-- Reads an element of a set or a range between two of them. -/
def readRange (text : List Char) : Option (List Char) := do
  let (first, rest) ← readElement text
  match rest with
  | [] => none
  | c :: behind =>
    if c ≠ '-' ∨ behind.head? = some ']' ∨ behind.head? = some '-' then some rest
    else
      match first, ← readElement behind with
      | .literal first, (.literal last, rest) => if first ≤ last then some rest else none
      | _, _ => none

/-- What follows a set, of which `depth` brackets are open.  The fuel bounds the number of
elements. -/
def readSet : (fuel depth : Nat) → List Char → Option (List Char)
  | 0, _, _ => none
  | _ + 1, 0, text => some text
  | fuel + 1, depth + 1, text =>
    match text with
    | [] => none
    | '[' :: rest =>
      match readNamedSet text with
      | some rest => readSet fuel (depth + 1) rest
      | none => readSet fuel (depth + 2) (openSet rest)
    | ']' :: rest => readSet fuel depth rest
    | '&' :: '&' :: rest => readSet fuel (depth + 1) rest
    | '-' :: '-' :: rest => readSet fuel (depth + 1) rest
    | '~' :: '~' :: rest => readSet fuel (depth + 1) rest
    | _ => (readRange text).bind (readSet fuel (depth + 1))

/-! ## Groups -/

/-- The characters can switch the way of matching in a group: each of them once, those behind a
hyphen being switched off. -/
def areFlags (flags : List Char) : Bool :=
  let letters := flags.filter (· ≠ '-')
  letters.all ['i', 'm', 's', 'U', 'u', 'R', 'x'].contains &&
    decide letters.Nodup && decide (flags.length ≤ letters.length + 1) &&
    flags.getLast? != some '-'

/-- The characters can name a group. -/
def isGroupName : List Char → Bool
  | [] => false
  | first :: rest =>
    (first.isAlpha || first == '_') &&
      rest.all fun c => c.isAlphanum || ['_', '.', '[', ']'].contains c

/-- Reads what stands behind an opening parenthesis. -/
def openGroup (reading : PatternReading) : List Char → Option PatternReading
  | '?' :: 'P' :: '<' :: rest => named rest
  | '?' :: '<' :: rest => named rest
  | '?' :: rest =>
    let flags := rest.takeWhile fun c => c ≠ ':' ∧ c ≠ ')'
    if !areFlags flags then none
    else
      match rest.drop flags.length with
      | ':' :: rest =>
        some { reading with groups := reading.groups + 1, repeatable := false, rest := rest }
      | ')' :: rest =>
        if flags.isEmpty then none else some { reading with repeatable := false, rest := rest }
      | _ => none
  | rest => some { reading with groups := reading.groups + 1, repeatable := false, rest := rest }
where
  /-- Behind the mark of a group with a name. -/
  named (rest : List Char) : Option PatternReading :=
    let name := rest.takeWhile (· ≠ '>')
    if isGroupName name && name.length < rest.length then
      some { reading with
        groups := reading.groups + 1
        repeatable := false
        rest := rest.drop (name.length + 1) }
    else none

/-! ## Patterns -/

/-- Reads the next thing of a pattern. -/
def step? (reading : PatternReading) : Option PatternReading :=
  match reading.rest with
  | [] => none
  | '(' :: rest => reading.openGroup rest
  | ')' :: rest =>
    if reading.groups = 0 then none
    else some { reading with groups := reading.groups - 1, repeatable := true, rest := rest }
  | '|' :: rest => some { reading with repeatable := false, rest := rest }
  | '[' :: rest => (readSet (rest.length + 1) 1 (openSet rest)).map reading.item
  | '\\' :: rest => (PatternEscape.read? rest).map fun (_, rest) => reading.item rest
  | '{' :: _ => none
  | c :: rest =>
    if ['*', '+', '?'].contains c ∧ !reading.repeatable then none else some (reading.item rest)

/-- The rest of a pattern can be read in `fuel` steps. -/
def finishes : (fuel : Nat) → PatternReading → Bool
  | 0, reading => reading.rest.isEmpty && reading.groups == 0
  | fuel + 1, reading =>
    if reading.rest.isEmpty then reading.groups == 0
    else
      match reading.step? with
      | some reading => finishes fuel reading
      | none => false

end PatternReading

/-- The text is a pattern. -/
def isPattern (text : List Char) : Bool :=
  PatternReading.finishes text.length { rest := text }

end PartsList
