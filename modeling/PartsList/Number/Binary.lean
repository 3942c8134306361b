/-!
# Binary floating point values

What the bit pattern of a floating point number says: not a number, an infinity, or a sign with
`mantissa * 2 ^ exponent`.
-/

namespace PartsList

/-- The value of a floating point number. -/
inductive Binary
  /-- No number. -/
  | nan
  /-- An infinity, with its sign. -/
  | infinite (negative : Bool)
  /-- The number `mantissa * 2 ^ exponent` with its sign.  `narrow` says that the next smaller
  magnitude is only half as far away as the next larger one. -/
  | finite (negative : Bool) (mantissa : Nat) (exponent : Int) (narrow : Bool)
deriving DecidableEq, Repr

namespace Binary

/-- Reads a bit pattern with `fractionBits` bits of fraction below `exponentBits` bits of
exponent. -/
def ofBits (fractionBits exponentBits bits : Nat) : Binary :=
  let fraction := bits % Nat.pow 2 fractionBits
  let field := bits / Nat.pow 2 fractionBits % Nat.pow 2 exponentBits
  let negative := bits / Nat.pow 2 (fractionBits + exponentBits) % 2 == 1
  let bias : Int := Nat.pow 2 (exponentBits - 1) - 1
  if field = Nat.pow 2 exponentBits - 1 then
    if fraction = 0 then .infinite negative else .nan
  else if field = 0 then
    .finite negative fraction (1 - bias - fractionBits) false
  else
    .finite negative (Nat.pow 2 fractionBits + fraction) (field - bias - fractionBits)
      (fraction == 0 && 1 < field)

/-- The value of a single precision number. -/
def ofSingle (x : Float32) : Binary :=
  ofBits 23 8 x.toBits.toNat

/-- The value of a double precision number. -/
def ofDouble (x : Float) : Binary :=
  ofBits 52 11 x.toBits.toNat

/-- The single precision number nearest to a value, an even mantissa winning a tie. -/
def toSingle : Binary → Float32
  | nan => Float32.ofBits 0x7fc00000
  | infinite negative => Float32.ofBits (if negative then 0xff800000 else 0x7f800000)
  | finite negative mantissa exponent _ =>
    let magnitude :=
      match exponent with
      | .ofNat up => Float32.ofScientific (mantissa * Nat.pow 2 up) false 0
      | .negSucc down => Float32.ofScientific (mantissa * Nat.pow 5 (down + 1)) true (down + 1)
    if negative then -magnitude else magnitude

end Binary

/-- The single precision number nearest to a double precision one. -/
def narrowed (x : Float) : Float32 :=
  (Binary.ofDouble x).toSingle

end PartsList
