/-!
# Words

Arithmetic on natural numbers that have to fit a machine word.  A result that does not fit is an
error and never wraps around, except where an operation says that it stops at the largest word.
-/

namespace PartsList

/-- An arithmetic result that does not fit. -/
inductive Overflow
  /-- A sum is too large. -/
  | addition
  /-- A product is too large. -/
  | multiplication
  /-- A span of time is too long. -/
  | duration
  /-- A time is too late for the clock. -/
  | instant
  /-- A queue is too long to be counted through. -/
  | queue
  /-- More room is needed than there are addresses. -/
  | room
deriving DecidableEq, Repr

namespace Overflow

/-- The error in words. -/
def message : Overflow → String
  | addition => "attempt to add with overflow"
  | multiplication => "attempt to multiply with overflow"
  | duration => "overflow when multiplying duration by scalar"
  | instant => "overflow when adding duration to instant"
  | queue => "bounded channel capacity is too large"
  | room => "capacity overflow"

end Overflow

namespace Word

/-- The number of different words. -/
def size : Nat := Nat.pow 2 64

/-- The sum of two words. -/
def add (a b : Nat) : Except Overflow Nat :=
  if a + b < size then .ok (a + b) else .error .addition

/-- The product of two words. -/
def mul (a b : Nat) : Except Overflow Nat :=
  if a * b < size then .ok (a * b) else .error .multiplication

/-- The product of two words, or the largest word when that is less. -/
def mulUpTo (a b : Nat) : Nat :=
  Nat.min (a * b) (size - 1)

/-- The word read as a signed number. -/
def signed (a : Nat) : Int :=
  if a < Nat.pow 2 63 then a else (a : Int) - size

end Word

end PartsList
