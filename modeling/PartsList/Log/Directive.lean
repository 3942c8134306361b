import PartsList.Log.Basic
import PartsList.Log.Pattern
import PartsList.Number.Numeral
import PartsList.Text.AlphanumericTable
import PartsList.Text.CharClass

/-!
# Log directives

A directive says how much is written of some lines of the log.  It is a target, a stretch of work
and a value in brackets, and a verbosity behind an equals sign, each of which can be missing.  Its
parts are found in the text without blanks around it, but they are taken at the same places of the
text with its blanks.
-/

namespace PartsList

/-- A value that the lines of a directive tell. -/
structure LogField where
  /-- Its name. -/
  name : String
  /-- The directive asks for a certain value. -/
  hasValue : Bool := false
deriving DecidableEq, Repr

/-- How much is written of some lines. -/
structure LogDirective where
  /-- Beginning of the names of the parts that the lines come from; any part without it. -/
  target : Option String := none
  /-- Name of the stretch of work during which the directive applies. -/
  span : Option String := none
  /-- Value that the lines tell. -/
  field : Option LogField := none
  /-- Zero for nothing, five for everything. -/
  verbosity : Nat
deriving DecidableEq, Repr

/-- Why a text is no directive. -/
inductive DirectiveFault
  /-- It has another form, or a part of it cannot be read. -/
  | unreadable
  /-- A part of it would begin or end inside a character. -/
  | severed
deriving DecidableEq, Repr

namespace LogField

/-- The text is a number that has a plus sign. -/
def isPlusNumber : List Char → Bool
  | '+' :: text =>
    let digits := text.takeWhile Char.isDigit
    let rest := text.drop digits.length
    let (fraction, rest) :=
      match rest with
      | '.' :: rest => (rest.takeWhile Char.isDigit, rest.dropWhile Char.isDigit)
      | _ => ([], rest)
    if digits.isEmpty && fraction.isEmpty then
      rest.length = text.length &&
        ["inf", "infinity", "nan"].contains (String.ofList text).toLower
    else rest.isEmpty || isExponent rest
  | _ => false
where
  /-- The letter of an exponent and its digits. -/
  isExponent : List Char → Bool
    | letter :: rest =>
      let digits := if rest.head? = some '-' ∨ rest.head? = some '+' then rest.drop 1 else rest
      (letter == 'e' || letter == 'E') && !digits.isEmpty && digits.all Char.isDigit
    | [] => false

/-- The text is a value that a directive can ask for. -/
def isValue (text : List Char) : Bool :=
  isPlusNumber text || isPattern text

/-- Reads a field: its name and, behind an equals sign, a value. -/
def read (text : List Char) : Except DirectiveFault LogField :=
  let name := text.takeWhile (· ≠ '=')
  match text.drop name.length with
  | [] => if text.isEmpty then .error .unreadable else .ok { name := String.ofList name }
  | _ :: rest =>
    if isValue (rest.takeWhile (· ≠ '=')) then
      .ok { name := String.ofList name, hasValue := true }
    else .error .unreadable

end LogField

/-! ## Parts of a text -/

/-- A place in a text. -/
structure Cursor where
  /-- Bytes in front of the place. -/
  position : Nat := 0
  /-- The text behind it. -/
  rest : List Char
deriving DecidableEq, Repr

namespace Cursor

/-- The place behind the next character, which takes a byte. -/
def next (cursor : Cursor) : Cursor :=
  ⟨cursor.position + 1, cursor.rest.drop 1⟩

/-- The next place at which one of the given characters stands, or the end. -/
def upTo (ends : List Char) (cursor : Cursor) : Cursor :=
  let part := cursor.rest.takeWhile fun c => !ends.contains c
  ⟨cursor.position + (String.ofList part).utf8ByteSize, cursor.rest.drop part.length⟩

/-- The text without its first `count` bytes, unless a character stands across that place. -/
def dropBytes : (count : Nat) → List Char → Except DirectiveFault (List Char)
  | 0, text => .ok text
  | _, [] => .error .severed
  | count, c :: text =>
    if c.utf8Size ≤ count then dropBytes (count - c.utf8Size) text else .error .severed

/-- The part of a text from a place on. -/
def toEnd (cursor : Cursor) (text : List Char) : Except DirectiveFault (List Char) :=
  dropBytes cursor.position text

/-- The part of a text from a place to a later one. -/
def toPlace (cursor stop : Cursor) (text : List Char) : Except DirectiveFault (List Char) := do
  let rest ← stop.toEnd text
  cursor.toEnd (text.take (text.length - rest.length))

end Cursor

namespace LogDirective

/-! ## Reading -/

/-- The verbosity at which everything is written. -/
def everything : Nat := 5

/-- Names of the verbosities, from zero on. -/
def verbosityNames : List String :=
  ["off", "error", "warn", "info", "debug", "trace"]

/-- The verbosity with the given number. -/
def verbosityOfNumber? (text : List Char) : Option Nat :=
  let digits := if text.head? = some '+' then text.drop 1 else text
  if digits.isEmpty || !digits.all Char.isDigit then none
  else
    let number := Numeral.digitsValue digits
    if number ≤ everything then some number else none

/-- The verbosity with the given name or number.  The case of its letters does not matter. -/
def verbosity? (text : List Char) : Option Nat :=
  (verbosityOfNumber? text).or
    (verbosityNames.findIdx? (· == (String.ofList text).toLower))

/-- The character can begin a target. -/
def beginsTarget (c : Char) : Bool :=
  Text.isAlphanumeric c || ['-', ':', '_'].contains c

/-- Reads what stands alone: a verbosity or else a target. -/
def readAlone (text : List Char) : LogDirective :=
  match verbosity? text with
  | some verbosity => { verbosity := verbosity }
  | none => { target := some (String.ofList text), verbosity := everything }

/-- Reads the verbosity at the end of a directive. -/
def readVerbosity (text : List Char) (directive : LogDirective) (cursor : Cursor) :
    Except DirectiveFault LogDirective := do
  match cursor.rest with
  | [] => return directive
  | '=' :: _ =>
    match ← cursor.next.toEnd text with
    | [] => return directive
    | part =>
      match verbosity? part with
      | some verbosity => return { directive with verbosity := verbosity }
      | none => throw .unreadable
  | _ => throw .unreadable

/-- Reads the field behind an opening brace. -/
def readField (text : List Char) (directive : LogDirective) (cursor : Cursor) :
    Except DirectiveFault LogDirective := do
  let stop := cursor.upTo ['}']
  match stop.rest with
  | [] => throw .unreadable
  | _ :: behind =>
    let field ← LogField.read (← cursor.toPlace stop text)
    if behind.head? = some ']' then
      readVerbosity text { directive with field := some field } stop.next.next
    else throw .unreadable

/-- Reads what stands behind an opening bracket. -/
def readBrackets (text : List Char) (directive : LogDirective) (cursor : Cursor) :
    Except DirectiveFault LogDirective := do
  let stop := cursor.upTo [']', '{']
  match stop.rest with
  | [] => throw .unreadable
  | c :: _ =>
    let span ← cursor.toPlace stop text
    if c = ']' then
      readVerbosity text { directive with span := some (String.ofList span) } stop.next
    else if span.isEmpty then readField text directive stop.next
    else readField text { directive with span := some (String.ofList span) } stop.next

/-- Reads a directive.  Without a verbosity everything is written. -/
def read (text : String) : Except DirectiveFault LogDirective := do
  let text := text.toList
  let start : Cursor := { rest := Text.trimChars text }
  let directive : LogDirective := { verbosity := everything }
  match start.rest with
  | [] => throw .unreadable
  | '[' :: _ => readBrackets text directive start.next
  | first :: _ =>
    if !beginsTarget first then throw .unreadable
    let stop := start.upTo ['=', '[']
    match stop.rest with
    | [] => return readAlone text
    | c :: _ =>
      let target ← start.toPlace stop text
      let directive := { directive with target := some (String.ofList target) }
      if c = '=' then readVerbosity text directive stop
      else readBrackets text directive stop.next

/-! ## Applying -/

/-- The directive does not depend on what the program is doing, nor on the values it tells. -/
def isSteady (directive : LogDirective) : Bool :=
  directive.span.isNone && directive.field.all (!·.hasValue)

/-- The directive has a say in whether a line is written that comes outside of any named stretch of
work. -/
def appliesTo (directive : LogDirective) (line : LogLine) : Bool :=
  directive.isSteady &&
    directive.target.all (·.toList.isPrefixOf line.target.toList) &&
    directive.field.all (line.fields.contains ·.name)

/-- How far the target narrows the lines down. -/
def narrowness (directive : LogDirective) : Nat :=
  directive.target.elim 0 (·.utf8ByteSize + 1)

/-- Name of the field, empty without one, and whether there is one. -/
def fieldRank (directive : LogDirective) : List String :=
  (directive.field.map (·.name)).toList

/-- The one of two directives that decides when both apply, the second being the later one: the one
with the longer target, then the one with a field, then the one whose field comes later in the
alphabet, then the later one. -/
def moreSpecific (earlier later : LogDirective) : LogDirective :=
  if earlier.narrowness < later.narrowness then later
  else if later.narrowness < earlier.narrowness then earlier
  else if later.fieldRank < earlier.fieldRank then earlier
  else later

end LogDirective

end PartsList
