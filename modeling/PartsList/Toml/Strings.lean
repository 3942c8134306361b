import PartsList.Number.Hexadecimal

/-!
# Strings in TOML

The four kinds of strings: basic ones with escapes and literal ones without, each on one line or on
several.  A line end inside a string counts as a line feed, and the one right behind the opening
quotes does not count.
-/

namespace PartsList

namespace Toml

/-- The blank characters inside a line. -/
def isSpace (c : Char) : Bool :=
  c == ' ' || c == '\t'

/-- The input without the blanks in front. -/
def skipSpace (input : List Char) : List Char :=
  input.dropWhile isSpace

/-- The character may stand in comments and strings: all but control characters, the tab
excepted. -/
def isPlain (c : Char) : Bool :=
  c == '\t' || (c.toNat ≥ 0x20 && c.toNat != 0x7F)

/-- The character with the given number, if there is one. -/
def numbered (digits : List Char) : Option Char := do
  let code ← Hexadecimal.number? digits
  if code.isValidChar then some (Char.ofNat code) else none

/-- The character that a one letter escape writes. -/
def escapedChar (c : Char) : Option Char :=
  match c with
  | '"' => some '"'
  | '\\' => some '\\'
  | 'b' => some (Char.ofNat 8)
  | 'f' => some (Char.ofNat 12)
  | 'n' => some '\n'
  | 'r' => some '\r'
  | 't' => some '\t'
  | _ => none

/-- Adds a character in front of what was read. -/
def push {α : Type} (c : Char) (read : Option (List Char × α)) : Option (List Char × α) :=
  read.map fun (chars, rest) => (c :: chars, rest)

/-- A basic string behind its opening quote, and what follows it. -/
def readBasic : List Char → Option (List Char × List Char)
  | [] => none
  | '"' :: rest => some ([], rest)
  | '\\' :: 'u' :: a :: b :: c :: d :: rest => do
    push (← numbered [a, b, c, d]) (readBasic rest)
  | '\\' :: 'U' :: a :: b :: c :: d :: e :: f :: g :: h :: rest => do
    push (← numbered [a, b, c, d, e, f, g, h]) (readBasic rest)
  | '\\' :: c :: rest => do push (← escapedChar c) (readBasic rest)
  | c :: rest => if isPlain c && c != '\\' then push c (readBasic rest) else none

/-- A literal string behind its opening quote, and what follows it. -/
def readLiteral : List Char → Option (List Char × List Char)
  | [] => none
  | '\'' :: rest => some ([], rest)
  | c :: rest => if isPlain c then push c (readLiteral rest) else none

/-- The input without a line end in front. -/
def skipFirstLineEnd : List Char → List Char
  | '\n' :: rest => rest
  | '\r' :: '\n' :: rest => rest
  | rest => rest

/-- Nothing but blanks is left in the line. -/
def endsLine (input : List Char) : Bool :=
  match skipSpace input with
  | '\n' :: _ => true
  | '\r' :: '\n' :: _ => true
  | _ => false

/-- What stands behind three closing quotes: of up to five quotes the first ones belong to the
string. -/
def closeLines (quote : Char) (input : List Char) : List Char × List Char :=
  match input with
  | a :: b :: rest =>
    if a = quote ∧ b = quote then ([quote, quote], rest)
    else if a = quote then ([quote], b :: rest)
    else ([], input)
  | [a] => if a = quote then ([quote], []) else ([], input)
  | [] => ([], [])

/-- A basic string of several lines behind its opening quotes, and what follows it.  `skipping` says
that the blanks and line ends in front are passed over, because a backslash stood at the end of a
line. -/
def readBasicLines : (skipping : Bool) → List Char → Option (List Char × List Char)
  | _, [] => none
  | true, ' ' :: rest => readBasicLines true rest
  | true, '\t' :: rest => readBasicLines true rest
  | skipping, '\n' :: rest =>
    if skipping then readBasicLines true rest else push '\n' (readBasicLines false rest)
  | skipping, '\r' :: '\n' :: rest =>
    if skipping then readBasicLines true rest else push '\n' (readBasicLines false rest)
  | _, '"' :: '"' :: '"' :: rest => some (closeLines '"' rest)
  | _, '"' :: rest => push '"' (readBasicLines false rest)
  | _, '\\' :: 'u' :: a :: b :: c :: d :: rest => do
    push (← numbered [a, b, c, d]) (readBasicLines false rest)
  | _, '\\' :: 'U' :: a :: b :: c :: d :: e :: f :: g :: h :: rest => do
    push (← numbered [a, b, c, d, e, f, g, h]) (readBasicLines false rest)
  | _, '\\' :: c :: rest =>
    if endsLine (c :: rest) then readBasicLines true (c :: rest)
    else do push (← escapedChar c) (readBasicLines false rest)
  | _, c :: rest => if isPlain c && c != '\\' then push c (readBasicLines false rest) else none

/-- A literal string of several lines behind its opening quotes, and what follows it. -/
def readLiteralLines : List Char → Option (List Char × List Char)
  | [] => none
  | '\n' :: rest => push '\n' (readLiteralLines rest)
  | '\r' :: '\n' :: rest => push '\n' (readLiteralLines rest)
  | '\'' :: '\'' :: '\'' :: rest => some (closeLines '\'' rest)
  | c :: rest => if isPlain c then push c (readLiteralLines rest) else none

/-- A string on one line, and what follows it. -/
def readLineString : List Char → Option (String × List Char)
  | '"' :: rest => (readBasic rest).map fun (chars, rest) => (String.ofList chars, rest)
  | '\'' :: rest => (readLiteral rest).map fun (chars, rest) => (String.ofList chars, rest)
  | _ => none

/-- A string of any kind, and what follows it. -/
def readString (input : List Char) : Option (String × List Char) :=
  match input with
  | '"' :: '"' :: '"' :: rest =>
    (readBasicLines false (skipFirstLineEnd rest)).map fun (chars, rest) =>
      (String.ofList chars, rest)
  | '\'' :: '\'' :: '\'' :: rest =>
    (readLiteralLines (skipFirstLineEnd rest)).map fun (chars, rest) =>
      (String.ofList chars, rest)
  | input => readLineString input

end Toml

end PartsList
