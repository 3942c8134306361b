/-!
# Scalars

The arithmetic that geometry needs, apart from the numbers it runs on: binary floating point when
the program runs, exact numbers when its laws are stated.  Comparison comes in two kinds.  The order
`≤` is that of the numbers themselves and may leave two values unrelated; the rank of the total
order places every value, so that sorting by it is always defined.
-/

namespace PartsList

/-- Numbers that serve as coordinates. -/
class Scalar (α : Type) extends Add α, Sub α, Mul α, Div α, LT α, LE α, BEq α where
  /-- The number nearest to a count. -/
  ofNat : Nat → α
  /-- One half. -/
  half : α
  /-- Distance from zero. -/
  abs : α → α
  /-- The smaller number; of a number and a value that is none, the number. -/
  least : α → α → α
  /-- The larger number; of a number and a value that is none, the number. -/
  greatest : α → α → α
  /-- The first value comes no later than the second in the total order. -/
  ranked : α → α → Bool
  /-- Strict comparison can be computed. -/
  decLt : DecidableLT α
  /-- Comparison can be computed. -/
  decLe : DecidableLE α

namespace Scalar

instance {α : Type} [Scalar α] : DecidableLT α := Scalar.decLt

instance {α : Type} [Scalar α] : DecidableLE α := Scalar.decLe

/-- Position of a single precision number in the total order, negative zero before zero and the
value that is no number after infinity. -/
def singleRank (x : Float32) : Int :=
  let bits := x.toBits.toNat
  if bits < Nat.pow 2 31 then bits else Nat.pow 2 31 - 1 - (bits : Int)

instance : Scalar Float32 where
  ofNat n := n.toUInt64.toFloat32
  half := 0.5
  abs := Float32.abs
  least x y := if x.isNaN then y else if y < x then y else x
  greatest x y := if x.isNaN then y else if x < y then y else x
  ranked x y := singleRank x ≤ singleRank y
  decLt := inferInstance
  decLe := inferInstance

/-- Position of a double precision number in the total order. -/
def doubleRank (x : Float) : Int :=
  let bits := x.toBits.toNat
  if bits < Nat.pow 2 63 then bits else Nat.pow 2 63 - 1 - (bits : Int)

instance : Scalar Float where
  ofNat n := n.toUInt64.toFloat
  half := 0.5
  abs := Float.abs
  least x y := if x.isNaN then y else if y < x then y else x
  greatest x y := if x.isNaN then y else if x < y then y else x
  ranked x y := doubleRank x ≤ doubleRank y
  decLt := inferInstance
  decLe := inferInstance

end Scalar

/-- Coordinates on a page, in points. -/
abbrev Coordinate := Float32

end PartsList
