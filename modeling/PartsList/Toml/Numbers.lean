import PartsList.Number.Hexadecimal
import PartsList.Number.Numeral
import PartsList.Timestamp
import PartsList.Toml.Tables

/-!
# Numbers and dates in TOML

Integers in base ten, sixteen, eight and two, floating point numbers, dates and times of day.  An
underscore may stand between two digits.
-/

namespace PartsList

namespace Toml

/-- The digits that follow a digit, and what follows them. -/
def readMoreDigits (isDigit : Char → Bool) : List Char → Option (List Char × List Char)
  | [] => some ([], [])
  | '_' :: c :: rest =>
    if isDigit c then (readMoreDigits isDigit rest).map fun (digits, rest) => (c :: digits, rest)
    else none
  | c :: rest =>
    if isDigit c then (readMoreDigits isDigit rest).map fun (digits, rest) => (c :: digits, rest)
    else if c = '_' then none
    else some ([], c :: rest)

/-- Digits, at least one, and what follows them. -/
def readDigits (isDigit : Char → Bool) : List Char → Option (List Char × List Char)
  | c :: rest =>
    if isDigit c then (readMoreDigits isDigit rest).map fun (digits, rest) => (c :: digits, rest)
    else none
  | [] => none

/-- A sign, if there is one: whether it is a minus sign, and what follows it. -/
def readSign : List Char → Bool × List Char
  | '-' :: rest => (true, rest)
  | '+' :: rest => (false, rest)
  | rest => (false, rest)

/-- The digits of a decimal integer, of which the first is zero only if it is the only one. -/
def readWhole : List Char → Option (List Char × List Char)
  | '0' :: rest => some (['0'], rest)
  | rest => readDigits Char.isDigit rest

/-- The integer, if it fits 64 bits. -/
def fitting (value : Int) : Option Toml :=
  if -Nat.pow 2 63 ≤ value ∧ value < Nat.pow 2 63 then some (.integer value) else none

/-- An integer in the given base, behind the sign of the base. -/
def readBased (base : Nat) (input : List Char) : Option (Toml × List Char) := do
  let (digits, rest) ← readDigits (Hexadecimal.isDigitOf base) input
  return (← fitting (Hexadecimal.baseNumber base digits), rest)

/-- An integer, and what follows it. -/
def readInteger : List Char → Option (Toml × List Char)
  | '0' :: 'x' :: rest => readBased 16 rest
  | '0' :: 'o' :: rest => readBased 8 rest
  | '0' :: 'b' :: rest => readBased 2 rest
  | input => do
    let (negative, rest) := readSign input
    let (digits, rest) ← readWhole rest
    let value : Int := Hexadecimal.baseNumber 10 digits
    return (← fitting (if negative then -value else value), rest)

/-- Digits behind a point, if one follows. -/
def readFraction : List Char → Option (Option (List Char) × List Char)
  | '.' :: rest => do
    let (digits, rest) ← readDigits Char.isDigit rest
    return (some digits, rest)
  | rest => some (none, rest)

/-- An exponent, if one follows. -/
def readExponent : List Char → Option (Option (Bool × List Char) × List Char)
  | [] => some (none, [])
  | c :: rest =>
    if c = 'e' ∨ c = 'E' then do
      let (negative, rest) := readSign rest
      let (digits, rest) ← readDigits Char.isDigit rest
      return (some (negative, digits), rest)
    else some (none, c :: rest)

/-- A number with a point or an exponent, and what follows it.  A positive one must not be too
large; a negative one that is too large is minus infinity. -/
def readDecimal (input : List Char) : Option (Toml × List Char) := do
  let (negative, rest) := readSign input
  let (whole, rest) ← readWhole rest
  let (fraction, rest) ← readFraction rest
  let (exponent, rest) ← readExponent rest
  if fraction.isNone ∧ exponent.isNone then none
  let x := (Numeral.mk negative whole fraction exponent).nearestDouble
  if x.isInf ∧ !negative then none
  return (.float x, rest)

/-- An infinity or what is no number, and what follows it. -/
def readSpecial (input : List Char) : Option (Toml × List Char) :=
  let (negative, rest) := readSign input
  match rest with
  | 'i' :: 'n' :: 'f' :: rest =>
    let infinity : Float := 1 / 0
    some (.float (if negative then -infinity else infinity), rest)
  | 'n' :: 'a' :: 'n' :: rest => some (.float (0 / 0), rest)
  | _ => none

/-- A given character. -/
def readMark (mark : Char) : List Char → Option (List Char)
  | c :: rest => if c = mark then some rest else none
  | [] => none

/-- A number of two digits within bounds. -/
def readPair (least most : Nat) (input : List Char) : Option (Nat × List Char) := do
  let (value, rest) ← Timestamp.readPair input
  if least ≤ value ∧ value ≤ most then some (value, rest) else none

/-- What follows a fraction of a second, if there is one. -/
def skipFraction : List Char → Option (List Char)
  | '.' :: rest =>
    if (rest.takeWhile Char.isDigit).isEmpty then none else some (rest.dropWhile Char.isDigit)
  | rest => some rest

/-- What follows a time of day. -/
def skipTime (input : List Char) : Option (List Char) := do
  let (_, rest) ← readPair 0 23 input
  let (_, rest) ← readPair 0 59 (← readMark ':' rest)
  let (_, rest) ← readPair 0 60 (← readMark ':' rest)
  skipFraction rest

/-- What follows an offset from universal time, if there is one. -/
def skipOffset (input : List Char) : Option (List Char) :=
  match input with
  | c :: rest =>
    if c = 'Z' ∨ c = 'z' then some rest
    else if c = '+' ∨ c = '-' then do
      let (_, rest) ← readPair 0 23 rest
      let (_, rest) ← readPair 0 59 (← readMark ':' rest)
      return rest
    else some input
  | [] => some []

/-- What follows a date. -/
def skipDate (input : List Char) : Option (List Char) := do
  let (century, rest) ← Timestamp.readPair input
  let (year, rest) ← Timestamp.readPair rest
  let (month, rest) ← readPair 1 12 (← readMark '-' rest)
  let (_, rest) ← readPair 1 (Timestamp.monthLength (100 * century + year) month)
    (← readMark '-' rest)
  return rest

/-- What follows the time and the offset behind a date, if there are any. -/
def skipDayTime (input : List Char) : List Char :=
  match input with
  | c :: rest =>
    if c = 'T' ∨ c = 't' ∨ c = ' ' then ((skipTime rest).bind skipOffset).getD input else input
  | [] => []

/-- A date or a time, and what follows it. -/
def readDateTime (input : List Char) : Option (Toml × List Char) :=
  match skipDate input with
  | some rest => some (.dateTime, skipDayTime rest)
  | none => (skipTime input).map ((.dateTime, ·))

/-- A date or a number, and what follows it. -/
def readNumber (input : List Char) : Option (Toml × List Char) :=
  (readDateTime input).or <| (readDecimal input).or <| (readSpecial input).or <| readInteger input

end Toml

end PartsList
