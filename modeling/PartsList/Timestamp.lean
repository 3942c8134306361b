import PartsList.Number.Numeral
import PartsList.Text.CharClass

/-!
# Points in time

Points in time as checkpoints record them, and their text: date, time of day and offset from
universal time.  Reading allows blanks between the parts and a blank in place of the letter between
date and time; writing uses universal time and as many groups of three fraction digits as needed.
-/

namespace PartsList

/-- A point in time. -/
structure Timestamp where
  /-- Seconds since the beginning of 1970. -/
  seconds : Int
  /-- Billionths of a second; from one billion on they belong to a leap second. -/
  nanos : Nat
deriving DecidableEq, Repr

namespace Timestamp

/-! ## The calendar -/

/-- The year has a leap day. -/
def isLeapYear (year : Int) : Bool :=
  year % 4 == 0 && (year % 100 != 0 || year % 400 == 0)

/-- Number of days in a month. -/
def monthLength (year : Int) (month : Nat) : Nat :=
  if month = 2 then (if isLeapYear year then 29 else 28)
  else if month = 4 ∨ month = 6 ∨ month = 9 ∨ month = 11 then 30
  else 31

/-- Days from the beginning of 1970 to a date.  Years are counted from March on, so that a leap day
ends its year. -/
def daysOfDate (year : Int) (month day : Nat) : Int :=
  let year := if month ≤ 2 then year - 1 else year
  let era := year / 400
  let yearOfEra := year - era * 400
  let shifted : Int := (month + 9) % 12
  let dayOfYear := (153 * shifted + 2) / 5 + day - 1
  let dayOfEra := yearOfEra * 365 + yearOfEra / 4 - yearOfEra / 100 + dayOfYear
  era * 146097 + dayOfEra - 719468

/-- Year, month and day of a number of days since the beginning of 1970. -/
def dateOfDays (days : Int) : Int × Nat × Nat :=
  let days := days + 719468
  let era := days / 146097
  let dayOfEra := days - era * 146097
  let yearOfEra :=
    (dayOfEra - dayOfEra / 1460 + dayOfEra / 36524 - dayOfEra / 146096) / 365
  let dayOfYear := dayOfEra - (365 * yearOfEra + yearOfEra / 4 - yearOfEra / 100)
  let shifted := (5 * dayOfYear + 2) / 153
  let day := dayOfYear - (153 * shifted + 2) / 5 + 1
  let month := if shifted < 10 then shifted + 3 else shifted - 9
  let year := yearOfEra + era * 400 + (if month ≤ 2 then 1 else 0)
  (year, month.toNat, day.toNat)

/-! ## Reading -/

/-- A number of at most `most` digits behind blanks, and what follows it. -/
def readDigits (most : Nat) (input : List Char) : Option (Nat × List Char) :=
  let input := Text.dropBlank input
  let digits := (input.take most).takeWhile Char.isDigit
  if digits.isEmpty then none else some (Numeral.digitsValue digits, input.drop digits.length)

/-- A year: four digits at most, or any number of them behind a sign. -/
def readYear (input : List Char) : Option (Int × List Char) :=
  match Text.dropBlank input with
  | '-' :: rest => (readSigned rest).map fun (year, rest) => (-year, rest)
  | '+' :: rest => readSigned rest
  | rest => (readDigits 4 rest).map fun (year, rest) => (year, rest)
where
  /-- The digits behind a sign. -/
  readSigned (rest : List Char) : Option (Int × List Char) :=
    let digits := rest.takeWhile Char.isDigit
    if digits.isEmpty then none else some (Numeral.digitsValue digits, rest.drop digits.length)

/-- The given character behind blanks. -/
def readMark (mark : Char) (input : List Char) : Option (List Char) :=
  match Text.dropBlank input with
  | c :: rest => if c = mark then some rest else none
  | [] => none

/-- Billionths of a second behind a point, if one follows.  Digits beyond the ninth are dropped. -/
def readFraction : List Char → Option (Nat × List Char)
  | '.' :: rest =>
    let digits := rest.takeWhile Char.isDigit
    if digits.isEmpty then none
    else
      let kept := digits.take 9
      some (Numeral.digitsValue kept * Nat.pow 10 (9 - kept.length), rest.drop digits.length)
  | rest => some (0, rest)

/-- Two digits. -/
def readPair : List Char → Option (Nat × List Char)
  | a :: b :: rest =>
    if a.isDigit && b.isDigit then some (Numeral.digitsValue [a, b], rest) else none
  | _ => none

/-- Hours and minutes of an offset, as seconds. -/
def readOffsetTime (input : List Char) : Option (Int × List Char) := do
  let (hours, rest) ← readPair input
  let rest := rest.dropWhile fun c => c == ':' || Text.isBlank c
  let (minutes, rest) ← readPair rest
  if 60 ≤ minutes then none
  let seconds := hours * 3600 + minutes * 60
  if 86400 ≤ seconds then none
  return (seconds, rest)

/-- An offset from universal time, in seconds. -/
def readOffset (input : List Char) : Option (Int × List Char) :=
  match Text.dropBlank input with
  | 'Z' :: rest => some (0, rest)
  | 'z' :: rest => some (0, rest)
  | '+' :: rest => readOffsetTime rest
  | '-' :: rest => negated rest
  | '−' :: rest => negated rest
  | a :: b :: c :: rest =>
    if [a, b, c].map Char.toUpper = ['U', 'T', 'C'] then some (0, rest) else none
  | _ => none
where
  /-- An offset behind a minus sign. -/
  negated (rest : List Char) : Option (Int × List Char) :=
    (readOffsetTime rest).map fun (seconds, rest) => (-seconds, rest)

/-- The letter between date and time. -/
def readSeparator : List Char → Option (List Char)
  | c :: rest => if c = 'T' ∨ c = 't' ∨ c = ' ' then some rest else none
  | [] => none

/-- First year that can be told. -/
def firstYear : Int := -262143

/-- Last year that can be told. -/
def lastYear : Int := 262142

/-- The point in time lies in the years that can be told. -/
def isTellable (time : Timestamp) : Bool :=
  daysOfDate firstYear 1 1 ≤ time.seconds / 86400 &&
    time.seconds / 86400 ≤ daysOfDate lastYear 12 31

/-- The point in time that a text describes.  Both the date in the text and the date in universal
time lie in the years that can be told. -/
def read? (text : String) : Option Timestamp := do
  let (year, rest) ← readYear text.toList
  let (month, rest) ← readDigits 2 (← readMark '-' rest)
  let (day, rest) ← readDigits 2 (← readMark '-' rest)
  let (hour, rest) ← readDigits 2 (← readSeparator rest)
  let (minute, rest) ← readDigits 2 (← readMark ':' rest)
  let (second, rest) ← readDigits 2 (← readMark ':' rest)
  let (fraction, rest) ← readFraction rest
  let (offset, rest) ← readOffset rest
  if !(Text.dropBlank rest).isEmpty then none
  if month < 1 ∨ 12 < month ∨ day < 1 ∨ monthLength year month < day then none
  if 23 < hour ∨ 59 < minute ∨ 60 < second then none
  if year < firstYear ∨ lastYear < year then none
  let nanos := if second = 60 then fraction + 1000000000 else fraction
  let clock : Int := hour * 3600 + minute * 60 + Nat.min second 59
  let time : Timestamp := ⟨daysOfDate year month day * 86400 + clock - offset, nanos⟩
  if time.isTellable then some time else none

/-! ## Writing -/

/-- A number with zeros in front up to a width. -/
def padded (width n : Nat) : List Char :=
  let digits := Numeral.digits n
  List.replicate (width - digits.length) '0' ++ digits

/-- A year: four digits, or a sign and at least four when four do not do. -/
def writeYear (year : Int) : List Char :=
  if 0 ≤ year ∧ year ≤ 9999 then padded 4 year.toNat
  else (if year < 0 then '-' else '+') :: padded 4 year.natAbs

/-- The fraction of a second in groups of three digits, none if it is zero. -/
def writeFraction (nanos : Nat) : List Char :=
  if nanos = 0 then []
  else if nanos % 1000000 = 0 then '.' :: padded 3 (nanos / 1000000)
  else if nanos % 1000 = 0 then '.' :: padded 6 (nanos / 1000)
  else '.' :: padded 9 nanos

/-- The text of a point in time. -/
def write (time : Timestamp) : String :=
  let (year, month, day) := dateOfDays (time.seconds / 86400)
  let clock := (time.seconds % 86400).toNat
  let leap := time.nanos / 1000000000
  String.ofList <|
    writeYear year ++ '-' :: padded 2 month ++ '-' :: padded 2 day ++
      'T' :: padded 2 (clock / 3600) ++ ':' :: padded 2 (clock / 60 % 60) ++
      ':' :: padded 2 (clock % 60 + leap) ++ writeFraction (time.nanos % 1000000000) ++ ['Z']

end Timestamp

end PartsList
