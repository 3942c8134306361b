/-!
# Hexadecimal digits

The digits of base sixteen, of which the letters may be of either case, and the numbers they write.
Digits of a smaller base are those of them that are small enough.
-/

namespace PartsList

namespace Hexadecimal

/-- The value of a digit. -/
def value? (c : Char) : Option Nat :=
  if '0' ≤ c ∧ c ≤ '9' then some (c.toNat - 48)
  else if 'a' ≤ c ∧ c ≤ 'f' then some (c.toNat - 87)
  else if 'A' ≤ c ∧ c ≤ 'F' then some (c.toNat - 55)
  else none

/-- The digit that has a value, in lower case. -/
def digit (n : Nat) : Char :=
  Nat.digitChar n

/-- The number that digits write. -/
def number? (digits : List Char) : Option Nat :=
  digits.foldlM (fun number digit => (value? digit).map (16 * number + ·)) 0

theorem value?_digit {n : Nat} (small : n < 16) : value? (digit n) = some n :=
  have all : ∀ n < 16, value? (digit n) = some n := by decide
  all n small

/-- A digit is no control character. -/
theorem le_toNat_digit {n : Nat} (small : n < 16) : 32 ≤ (digit n).toNat :=
  have all : ∀ n < 16, 32 ≤ (digit n).toNat := by decide
  all n small

theorem foldlM_value? {digits : List Char} {start number : Nat}
    (read : digits.foldlM (fun number digit => (value? digit).map (16 * number + ·)) start =
      some number) : ∀ c ∈ digits, (value? c).isSome := by
  induction digits generalizing start with
  | nil => exact List.forall_mem_nil _
  | cons digit digits induction =>
    rw [List.foldlM_cons] at read
    obtain ⟨next, first, read⟩ := Option.bind_eq_some_iff.1 read
    exact List.forall_mem_cons.2 ⟨by rw [← Option.isSome_map, first]; rfl, induction read⟩

/-- All characters of a number that is written are digits. -/
theorem isSome_value_of_number? {digits : List Char} {n : Nat} (read : number? digits = some n) :
    ∀ c ∈ digits, (value? c).isSome :=
  foldlM_value? read

/-- Two digits write a byte. -/
theorem number?_digits {n : Nat} (byte : n < 256) :
    number? ['0', '0', digit (n / 16), digit (n % 16)] = some n := by
  have high : value? (digit (n / 16)) = some (n / 16) := value?_digit (by omega)
  have low : value? (digit (n % 16)) = some (n % 16) := value?_digit (by omega)
  have zero : value? '0' = some 0 := by decide
  simp only [number?, List.foldlM_cons, List.foldlM_nil, zero, high, low, Option.map_some,
    Option.bind_eq_bind, Option.bind_some, Option.pure_def, Option.some.injEq]
  omega

/-- The character is a digit of the base, which is sixteen at most. -/
def isDigitOf (base : Nat) (c : Char) : Bool :=
  match value? c with
  | some value => decide (value < base)
  | none => false

/-- The number that digits of a base write. -/
def baseNumber (base : Nat) (digits : List Char) : Nat :=
  digits.foldl (fun number digit => base * number + (value? digit).getD 0) 0

end Hexadecimal

end PartsList
