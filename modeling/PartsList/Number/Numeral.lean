/-!
# Numerals

A number as it is written in decimal: digits before and behind a point, and an exponent.  It is read
as the nearest number of double precision; numerals far beyond the range of such numbers are settled
by their size alone.
-/

namespace PartsList

/-- A number as it is written. -/
structure Numeral where
  /-- A minus sign stands in front. -/
  negative : Bool
  /-- Digits before the point. -/
  whole : List Char
  /-- Digits behind the point, when there is one. -/
  fraction : Option (List Char)
  /-- Sign and digits of the exponent, when there is one. -/
  exponent : Option (Bool × List Char)
deriving DecidableEq, Repr

namespace Numeral

/-- The decimal digits of a natural number. -/
def digits (n : Nat) : List Char :=
  Nat.toDigits 10 n

/-- The number that digits write. -/
def digitsValue (digits : List Char) : Nat :=
  digits.foldl (fun value digit => 10 * value + (digit.toNat - 48)) 0

/-- The numeral of a natural number. -/
def ofNat (n : Nat) : Numeral :=
  ⟨false, digits n, none, none⟩

/-- The text of a numeral.  `plus` says whether a positive exponent has a plus sign. -/
def chars (plus : Bool) (n : Numeral) : List Char :=
  (if n.negative then ['-'] else []) ++ n.whole ++
    (match n.fraction with
     | some digits => '.' :: digits
     | none => []) ++
    (match n.exponent with
     | some (true, digits) => 'e' :: '-' :: digits
     | some (false, digits) => 'e' :: ((if plus then ['+'] else []) ++ digits)
     | none => [])

/-- The exponent as it is written. -/
def writtenExponent (n : Numeral) : Int :=
  match n.exponent with
  | some (true, digits) => -(digitsValue digits : Int)
  | some (false, digits) => digitsValue digits
  | none => 0

/-- The double precision number nearest to `coefficient * 10 ^ exponent`. -/
def nearestScaled (coefficient : Nat) (exponent : Int) : Float :=
  let size := (digits coefficient).length + exponent
  if coefficient = 0 ∨ size < -400 then 0
  else if 400 < size then 1 / 0
  else
    match exponent with
    | .ofNat up => Float.ofScientific coefficient false up
    | .negSucc down => Float.ofScientific coefficient true (down + 1)

/-- The double precision number nearest to the numeral. -/
def nearestDouble (n : Numeral) : Float :=
  let fraction := n.fraction.getD []
  let x := nearestScaled (digitsValue (n.whole ++ fraction)) (n.writtenExponent - fraction.length)
  if n.negative then -x else x

end Numeral

end PartsList
