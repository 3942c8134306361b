import PartsList.Number.Binary
import PartsList.Number.Numeral

/-!
# Decimal text of a floating point number

The fewest decimal digits that lie nearer to a floating point number than to any other one, and of
several such numbers with equally many digits the one nearest to it.  How the digits are written,
with or without an exponent, is a matter of style.  Where a number of decimal places is asked for
instead, the number is rounded to it.
-/

namespace PartsList

/-- The decimal number `coefficient * 10 ^ exponent`. -/
structure Decimal where
  /-- The digits, as one number. -/
  coefficient : Nat
  /-- The power of ten the digits are counted in. -/
  exponent : Int
deriving DecidableEq, Repr

namespace Decimal

/-- The same number without zeros at the end of its digits; `fuel` bounds how many are taken off. -/
def stripZeros : (fuel : Nat) → Decimal → Decimal
  | 0, d => d
  | fuel + 1, d =>
    if d.coefficient ≠ 0 ∧ d.coefficient % 10 = 0 then
      stripZeros fuel ⟨d.coefficient / 10, d.exponent + 1⟩
    else d

end Decimal

/-- The positive rational number `numerator / denominator * 10 ^ (-exponent)` as a quotient of
natural numbers. -/
def scaleDown (numerator denominator : Nat) (exponent : Int) : Nat × Nat :=
  match exponent with
  | .ofNat e => (numerator, denominator * Nat.pow 10 e)
  | .negSucc e => (numerator * Nat.pow 10 (e + 1), denominator)

/-- An interval of rational numbers around a value, all over one denominator. -/
structure RoundingInterval where
  /-- Numerator of the lower end. -/
  lower : Nat
  /-- Numerator of the value. -/
  value : Nat
  /-- Numerator of the upper end. -/
  upper : Nat
  /-- The common denominator. -/
  denominator : Nat
  /-- The ends belong to the interval. -/
  closed : Bool
deriving Repr

namespace RoundingInterval

/-- The numbers that round to `mantissa * 2 ^ exponent`: up to half the way to its neighbours, the
ends included for an even mantissa. -/
def around (mantissa : Nat) (exponent : Int) (narrow : Bool) : RoundingInterval :=
  let lower := if narrow then 4 * mantissa - 1 else 4 * mantissa - 2
  match exponent - 2 with
  | .ofNat up =>
    ⟨lower * Nat.pow 2 up, 4 * mantissa * Nat.pow 2 up, (4 * mantissa + 2) * Nat.pow 2 up, 1,
      mantissa % 2 == 0⟩
  | .negSucc down =>
    ⟨lower, 4 * mantissa, 4 * mantissa + 2, Nat.pow 2 (down + 1), mantissa % 2 == 0⟩

/-- The decimal number lies in the interval. -/
def holds (interval : RoundingInterval) (d : Decimal) : Bool :=
  let (low, lowBase) := scaleDown interval.lower interval.denominator d.exponent
  let (high, highBase) := scaleDown interval.upper interval.denominator d.exponent
  if interval.closed then low ≤ d.coefficient * lowBase && d.coefficient * highBase ≤ high
  else low < d.coefficient * lowBase && d.coefficient * highBase < high

/-- Position of the decimal point: the least `e` with value below `10 ^ e`. -/
def magnitude (interval : RoundingInterval) : Int :=
  let guess : Int :=
    (Numeral.digits interval.value).length - (Numeral.digits interval.denominator).length
  let (top, base) := scaleDown interval.value interval.denominator guess
  if top < base then guess else guess + 1

/-- The interval's number with the given unit that is nearest to the value, if one of the two
neighbours of the value on that grid lies in the interval.  A tie goes to the even one. -/
def nearestOnGrid (interval : RoundingInterval) (unit : Int) : Option Decimal :=
  let (top, base) := scaleDown interval.value interval.denominator unit
  let below : Decimal := ⟨top / base, unit⟩
  let above : Decimal := ⟨top / base + 1, unit⟩
  let rest := 2 * (top % base)
  match interval.holds below, interval.holds above with
  | false, false => none
  | true, false => some below
  | false, true => some above
  | true, true =>
    if rest < base then some below
    else if base < rest then some above
    else if below.coefficient % 2 = 0 then some below else some above

/-- The first grid, from `digits` digits on, that has a number in the interval; `fuel` bounds the
search. -/
def search (interval : RoundingInterval) : (fuel digits : Nat) → Decimal
  | 0, digits =>
    match interval.nearestOnGrid (interval.magnitude - digits) with
    | some d => d.stripZeros 20
    | none => ⟨0, 0⟩
  | fuel + 1, digits =>
    match interval.nearestOnGrid (interval.magnitude - digits) with
    | some d => d.stripZeros 20
    | none => search interval fuel (digits + 1)

/-- The shortest number of the interval, and of the shortest ones the nearest to the value. -/
def shortest (interval : RoundingInterval) : Decimal :=
  interval.search 16 1

end RoundingInterval

/-- How a decimal number is written. -/
structure NumberStyle where
  /-- Least position of the decimal point that is written without an exponent. -/
  leastPoint : Int
  /-- Greatest position of the decimal point that is written without an exponent. -/
  greatestPoint : Int
  /-- A positive exponent has a plus sign. -/
  plusSign : Bool
  /-- The text of a value that is no number. -/
  nanText : String
  /-- The text of an infinity without its sign. -/
  infiniteText : String
deriving Repr

namespace NumberStyle

/-- Single precision numbers in messages. -/
def message : NumberStyle := ⟨-3, 16, false, "NaN", "inf"⟩

/-- Double precision numbers in result lines. -/
def lineDouble : NumberStyle := ⟨-4, 16, true, "null", "null"⟩

/-- Single precision numbers in drawing files. -/
def lineSingle : NumberStyle := ⟨-5, 13, true, "null", "null"⟩

/-- How a positive decimal number is laid out.  A whole number has one zero behind its point. -/
def layout (style : NumberStyle) (negative : Bool) (d : Decimal) : Numeral :=
  let digits := Numeral.digits d.coefficient
  let point : Int := digits.length + d.exponent
  if style.leastPoint ≤ point ∧ point ≤ style.greatestPoint then
    if 0 ≤ d.exponent then
      ⟨negative, digits ++ List.replicate d.exponent.toNat '0', some ['0'], none⟩
    else if 0 < point then
      ⟨negative, digits.take point.toNat, some (digits.drop point.toNat), none⟩
    else
      ⟨negative, ['0'], some (List.replicate (-point).toNat '0' ++ digits), none⟩
  else
    let fraction := if digits.length = 1 then none else some (digits.drop 1)
    ⟨negative, digits.take 1, fraction,
      some (point - 1 < 0, Numeral.digits (point - 1).natAbs)⟩

/-- The numeral of a floating point value; an infinity and a value that is no number have none. -/
def numeral? (style : NumberStyle) : Binary → Option Numeral
  | .finite negative mantissa exponent narrow =>
    if mantissa = 0 then some ⟨negative, ['0'], some ['0'], none⟩
    else
      some (style.layout negative (RoundingInterval.around mantissa exponent narrow).shortest)
  | _ => none

/-- The text of a floating point value. -/
def write (style : NumberStyle) (value : Binary) : String :=
  match style.numeral? value, value with
  | some numeral, _ => String.ofList (numeral.chars style.plusSign)
  | none, .infinite true => "-" ++ style.infiniteText
  | none, .infinite false => style.infiniteText
  | none, _ => style.nanText

end NumberStyle

/-! ## One decimal place

The exact value rounded to the nearest number of tenths, a tie going to the even neighbour. -/

/-- The natural number nearest to a quotient; a tie goes to the even one. -/
def roundedQuotient (numerator denominator : Nat) : Nat :=
  let whole := numerator / denominator
  let rest := 2 * (numerator % denominator)
  if rest < denominator then whole
  else if denominator < rest then whole + 1
  else if whole % 2 = 0 then whole else whole + 1

/-- The text of a natural number of tenths. -/
def writeTenths (tenths : Nat) : String :=
  toString (tenths / 10) ++ "." ++ toString (tenths % 10)

/-- The text of a floating point value with one decimal place. -/
def writeOnePlace : Binary → String
  | .nan => "NaN"
  | .infinite negative => if negative then "-inf" else "inf"
  | .finite negative mantissa exponent _ =>
    let tenths :=
      match exponent with
      | .ofNat up => 10 * mantissa * Nat.pow 2 up
      | .negSucc down => roundedQuotient (10 * mantissa) (Nat.pow 2 (down + 1))
    (if negative then "-" else "") ++ writeTenths tenths

end PartsList
