import PartsList.Number.Hexadecimal
import PartsList.Number.Numeral
import PartsList.Path

/-!
# Database addresses

The path of a database names its file, or no file at all, or else it is an address: it begins with
`file:`, its parts can hold escaped bytes, and behind a question mark options say how the file is
opened.  An option that is not known is skipped; a known one needs a known value.
-/

namespace PartsList

/-- What may be done with the file of a database. -/
inductive DatabaseAccess
  /-- Everything; a missing file is made. -/
  | create
  /-- Reading and writing. -/
  | write
  /-- Reading. -/
  | read
  /-- There is no file to do anything with. -/
  | memory
deriving DecidableEq, Repr

namespace DatabaseAccess

/-- The word for the access in an address. -/
def ofWord? (word : String) : Option DatabaseAccess :=
  [("rwc", create), ("rw", write), ("ro", read), ("memory", memory)].lookup word

/-- How much the access allows. -/
def extent : DatabaseAccess → Nat
  | read => 0
  | write => 1
  | create => 2
  | memory => 3

/-- The access may be narrowed down to another one.  What needs no file is always allowed. -/
def allows (access other : DatabaseAccess) : Bool :=
  other == memory || other.extent ≤ access.extent

end DatabaseAccess

/-- How changes to a database are kept until they are taken over into its file. -/
inductive ChangeLog
  /-- In a log with an index, both of them files. -/
  | indexed
  /-- In a log without an index file. -/
  | unindexed
  /-- There is no log; the old state is kept in a journal instead. -/
  | none
deriving DecidableEq, Repr

/-- How a database is opened. -/
structure DatabaseAddress where
  /-- Path of the file; empty for a database that nobody else can open. -/
  file : String
  /-- What may be done with it. -/
  access : DatabaseAccess := .create
  /-- Nobody changes the file, so it can only be read. -/
  immutable : Bool := false
  /-- How changes are kept. -/
  changes : ChangeLog := .indexed
deriving DecidableEq, Repr

namespace DatabaseAddress

/-! ## Parts of an address -/

/-- The beginning of an address. -/
def scheme : String := "file:"

/-- The byte that two digits behind a percent sign stand for. -/
def escapedByte? (high low : Char) : Option UInt8 :=
  (Hexadecimal.number? [high, low]).map UInt8.ofNat

/-- The bytes of a character. -/
def bytesOfChar (c : Char) : List UInt8 :=
  (String.singleton c).toUTF8.data.toList

/-- The bytes of a part, which goes up to one of the characters that can end it, and what follows.
An escaped zero byte hides the rest of the part. -/
def readPart (ends : List Char) : List Char → List UInt8 × List Char
  | [] => ([], [])
  | '%' :: high :: low :: rest =>
    match escapedByte? high low with
    | some byte =>
      if byte = 0 then ([], rest.dropWhile fun c => !ends.contains c)
      else (byte :: (readPart ends rest).1, (readPart ends rest).2)
    | none =>
      let (part, rest) := readPart ends (high :: low :: rest)
      (bytesOfChar '%' ++ part, rest)
  | c :: rest =>
    if ends.contains c then ([], c :: rest)
    else (bytesOfChar c ++ (readPart ends rest).1, (readPart ends rest).2)

/-- The text of a part.  Bytes that are no text are spelled one by one. -/
def textOfPart (part : List UInt8) : String :=
  match String.fromUTF8? ⟨part.toArray⟩ with
  | some text => text
  | none => "%" ++ String.intercalate "%" (part.map fun byte => toString byte.toNat)

/-- The options behind the question mark, each a name and a value.  Those without a name do not
count.  The fuel bounds their number. -/
def readOptions : (fuel : Nat) → List Char → List (String × String)
  | 0, _ => []
  | fuel + 1, text =>
    let (name, rest) := readPart ['=', '&'] text
    match rest with
    | '=' :: rest =>
      if name.isEmpty then readOptions fuel ((rest.dropWhile (· ≠ '&')).drop 1)
      else
        let (value, rest) := readPart ['&'] rest
        (textOfPart name, textOfPart value) :: readOptions fuel (rest.drop 1)
    | _ =>
      let options := if rest.isEmpty then [] else readOptions fuel (rest.drop 1)
      if name.isEmpty then options else (textOfPart name, "") :: options

/-- What follows the name of the machine, which can only be the own one. -/
def dropMachine (text : List Char) : Option (List Char) :=
  match text with
  | '/' :: '/' :: rest =>
    let machine := String.ofList (rest.takeWhile (· ≠ '/'))
    if machine = "" ∨ machine = "localhost" then some (rest.dropWhile (· ≠ '/')) else none
  | text => some text

/-! ## Options -/

/-- The log that a way of reaching files allows, by the name of the way. -/
def changesOf? (system : String) : Option ChangeLog :=
  [("unix", .indexed), ("unix-excl", .unindexed), ("unix-dotfile", .none),
   ("unix-none", .none)].lookup system

/-- The way of reaching files that keeps everything in memory. -/
def memorySystem : String := "memdb"

/-- The word says yes. -/
def saysYes (word : String) : Bool :=
  if word.toList.head?.any Char.isDigit then
    Numeral.digitsValue (word.toList.takeWhile Char.isDigit) % 256 ≠ 0
  else ["on", "yes", "true"].contains word.toLower

/-- The first option with the given name says yes. -/
def isSwitchedOn (name : String) (options : List (String × String)) : Bool :=
  (options.find? (·.1 = name)).elim false fun option => saysYes option.2

/-- The address with an option taken into account. -/
def apply (address : DatabaseAddress) (option : String × String) : Option DatabaseAddress :=
  match option with
  | ("mode", word) =>
    (DatabaseAccess.ofWord? word).bind fun access =>
      if address.access.allows access then some { address with access := access } else none
  | ("cache", word) => if word = "shared" ∨ word = "private" then some address else none
  | _ => some address

/-- The database has no file. -/
def isUnnamed (address : DatabaseAddress) : Bool :=
  address.file == "" || address.file == ":memory:" || address.access == .memory

/-- The database can only be read. -/
def isReadOnly (address : DatabaseAddress) : Bool :=
  address.access == .read || (address.immutable && !address.isUnnamed)

/-- The address when files are reached in the way that the options name last. -/
def reach (options : List (String × String)) (address : DatabaseAddress) :
    Option DatabaseAddress :=
  match (options.filter (·.1 = "vfs")).getLast? with
  | none => some address
  | some (_, system) =>
    if system = memorySystem then
      some { file := "", access := if address.isReadOnly then .read else address.access }
    else (changesOf? system).map fun changes => { address with changes := changes }

/-! ## Reading -/

/-- Reads what stands behind the beginning of an address. -/
def ofAddress? (text : List Char) : Option DatabaseAddress := do
  let text ← dropMachine text
  let (file, rest) := readPart ['?'] (text.takeWhile (· ≠ '#'))
  let options := readOptions rest.length (rest.drop 1)
  let address ← options.foldlM apply { file := textOfPart file }
  let address ← reach options { address with immutable := isSwitchedOn "immutable" options }
  if isSwitchedOn "nolock" options then some { address with changes := .none } else some address

/-- Reads the path of a database.  A path that is cut short by its own text is none. -/
def ofPath? (path : Path) : Option DatabaseAddress :=
  let text := path.spelling.toList
  if text.contains (Char.ofNat 0) then none
  else if scheme.toList.isPrefixOf text then ofAddress? (text.drop scheme.length)
  else some { file := path.spelling }

end DatabaseAddress

end PartsList
