import PartsList.Json.Value
import PartsList.Number.Binary

/-!
# Typed values in JSON

How a record, an integer or a floating point number is found in a JSON value.  A record is an object
or an array of the fields in order; unknown members are passed over, a known one may not repeat.  An
integer is written without point, exponent or negative zero.
-/

namespace PartsList

namespace Numeral

/-- Adds a digit to a number that has to stay below `2 ^ 64`. -/
def pushDigit (value : Nat) (digit : Char) : Option Nat :=
  let next := 10 * value + (digit.toNat - 48)
  if next < Nat.pow 2 64 then some next else none

/-- The longest front of the digits that fits, added to a number, and how many digits are left
out. -/
def pushDigits (value : Nat) : List Char → Nat × Nat
  | [] => (value, 0)
  | digit :: rest =>
    match pushDigit value digit with
    | some next => pushDigits next rest
    | none => (value, rest.length + 1)

/-- The power of ten nearest to `10 ^ exponent`. -/
def powerOfTen (exponent : Nat) : Float :=
  Float.ofScientific 1 false exponent

/-- The number divided by a power of ten, in steps that stay representable. -/
def divideByPower (x : Float) (exponent : Nat) : Float :=
  if exponent ≤ 308 then x / powerOfTen exponent
  else if x == 0 then x
  else divideByPower (x / powerOfTen 308) (exponent - 308)
termination_by exponent

/-- A natural number times a power of ten; nothing when the result is too large. -/
def scale (coefficient : Nat) (exponent : Int) : Option Float :=
  let x := coefficient.toUInt64.toFloat
  match exponent with
  | .ofNat up =>
    if 308 < up then if coefficient = 0 then some x else none
    else
      let y := x * powerOfTen up
      if y.isInf then none else some y
  | .negSucc down => some (divideByPower x (down + 1))

/-- The number as a floating point number: as many leading digits as fit 64 bits, converted, times
a power of ten, each step rounded.  Nothing when the number is too large. -/
def toDouble? (n : Numeral) : Option Float := do
  let (head, dropped) := pushDigits 0 n.whole
  let digits := n.fraction.getD []
  let (coefficient, unread) := pushDigits head digits
  let shift : Int := dropped - (digits.length - unread : Nat)
  let exponent : Int :=
    match n.exponent with
    | some (true, digits) => shift - digitsValue digits
    | some (false, digits) => shift + digitsValue digits
    | none => shift
  let x ← scale coefficient exponent
  return if n.negative then -x else x

/-- The number is written as an integer. -/
def isIntegral (n : Numeral) : Bool :=
  n.fraction.isNone && n.exponent.isNone

/-- The number as a natural number below `limit`. -/
def toNat? (limit : Nat) (n : Numeral) : Option Nat :=
  let value := digitsValue n.whole
  if n.isIntegral ∧ ¬ n.negative ∧ value < limit then some value else none

/-- The number as a single precision number.  An integer of 64 bits is rounded once, any other
number by way of double precision. -/
def toSingle? (n : Numeral) : Option Float32 :=
  let value := digitsValue n.whole
  if n.isIntegral ∧ ¬ n.negative ∧ value < Nat.pow 2 64 then some value.toUInt64.toFloat32
  else if n.isIntegral ∧ n.negative ∧ 0 < value ∧ value ≤ Nat.pow 2 63 then
    some (-value.toUInt64.toFloat32)
  else n.toDouble?.map narrowed

end Numeral

namespace Json

/-- A truth value. -/
def toBool? : Json → Option Bool
  | .bool value => some value
  | _ => none

/-- A text. -/
def toText? : Json → Option String
  | .string value => value
  | _ => none

/-- An array's items. -/
def toItems? : Json → Option (List Json)
  | .array items => some items
  | _ => none

/-- A natural number below `limit`. -/
def toNat? (limit : Nat) : Json → Option Nat
  | .number n => n.toNat? limit
  | _ => none

/-- A double precision number. -/
def toDouble? : Json → Option Float
  | .number n => n.toDouble?
  | _ => none

/-- A single precision number. -/
def toSingle? : Json → Option Float32
  | .number n => n.toSingle?
  | _ => none

/-- Null, or a value that the given reader takes. -/
def toOption? {α : Type} (reader : Json → Option α) : Json → Option (Option α)
  | .null => some none
  | value => (reader value).map some

/-- An array whose items the given reader takes. -/
def toList? {α : Type} (reader : Json → Option α) (value : Json) : Option (List α) := do
  (← value.toItems?).mapM reader

/-- A name: a string, or an object that maps the name to null. -/
def toName? : Json → Option String
  | .string value => value
  | .object [(name, .null)] => name
  | _ => none

/-- The values of the members with the given name. -/
def membersNamed (name : String) (members : List (Option String × Json)) : List Json :=
  members.filterMap fun member => if member.1 = some name then some member.2 else none

/-- The member with the given name, when it has one; nothing at all when it repeats. -/
def memberNamed (name : String) (members : List (Option String × Json)) : Option (Option Json) :=
  match membersNamed name members with
  | [] => some none
  | [value] => some (some value)
  | _ => none

/-- A record's fields in the order of their names, each with its value if it has one.  The array
form may leave out fields behind the first `least` ones. -/
def toFields? (names : List String) (least : Nat) : Json → Option (List (Option Json))
  | .array items =>
    if least ≤ items.length ∧ items.length ≤ names.length then
      some (items.map some ++ List.replicate (names.length - items.length) none)
    else none
  | .object members =>
    if members.all (·.1.isSome) then names.mapM fun name => memberNamed name members else none
  | _ => none

/-- A field that has to be there. -/
def required {α : Type} (reader : Json → Option α) (field : Option Json) : Option α :=
  field.bind reader

/-- A field that may be missing or null. -/
def optional {α : Type} (reader : Json → Option α) (field : Option Json) : Option (Option α) :=
  match field with
  | none => some none
  | some value => toOption? reader value

/-- A field that has a value when it is missing. -/
def defaulted {α : Type} (reader : Json → Option α) (value : α) (field : Option Json) : Option α :=
  match field with
  | none => some value
  | some given => reader given

end Json

end PartsList
