/-!
# Characters in bytes

The characters that bytes encode, one to four bytes each.  A byte that belongs to no character is
stray and stands for itself, so that a byte below 128 is always seen.
-/

namespace PartsList.Utf8

/-- The lower six bits of a byte that continues a character. -/
def continuation? (byte : UInt8) : Option Nat :=
  if 0x80 ≤ byte.toNat ∧ byte.toNat < 0xC0 then some (byte.toNat - 0x80) else none

/-- The code that a first part and the next `count` bytes spell. -/
def spelled? (head : Nat) (count : Nat) (rest : List UInt8) : Option Nat :=
  let bytes := rest.take count
  if bytes.length < count then none
  else bytes.foldlM (fun code byte => (continuation? byte).map (64 * code + ·)) head

/-- The character with the given code, which has to be large enough for the bytes it takes. -/
def characterFrom? (least code : Nat) : Option Char :=
  if least ≤ code ∧ code.isValidChar then some (Char.ofNat code) else none

/-- The character that begins with a byte, and how many of the bytes behind it belong to it. -/
def character? (first : UInt8) (rest : List UInt8) : Option (Char × Nat) :=
  let first := first.toNat
  if first < 0x80 then some (Char.ofNat first, 0)
  else if first < 0xC0 then none
  else if first < 0xE0 then
    ((spelled? (first - 0xC0) 1 rest).bind (characterFrom? 0x80)).map (·, 1)
  else if first < 0xF0 then
    ((spelled? (first - 0xE0) 2 rest).bind (characterFrom? 0x800)).map (·, 2)
  else if first < 0xF8 then
    ((spelled? (first - 0xF0) 3 rest).bind (characterFrom? 0x10000)).map (·, 3)
  else none

/-- The characters of bytes behind those already read, which come last first; nothing for a stray
byte. -/
def decodeFrom (done : List (Option Char)) : List UInt8 → List (Option Char)
  | [] => done.reverse
  | first :: rest =>
    match character? first rest with
    | some (c, used) => decodeFrom (some c :: done) (rest.drop used)
    | none => decodeFrom (none :: done) rest
termination_by bytes => bytes.length

/-- The characters of bytes; nothing for a stray byte. -/
def decode (bytes : List UInt8) : List (Option Char) :=
  decodeFrom [] bytes

end PartsList.Utf8
