import PartsList.Disk.Basic

/-!
# Places that paths lead to

Where a path leads on a disk.  Every piece in front of the last has to be a directory or a link to
one; a path that ends in a slash has to lead to a directory, and cannot lead to a file that would be
made; and after forty links the search is given up.
-/

namespace PartsList

/-- What happens to the last piece of a path. -/
inductive LastPiece
  /-- It is followed if it is a link. -/
  | followed
  /-- It is taken as it is. -/
  | kept
  /-- It is followed if it is a link, and made into a file if it is missing. -/
  | made
deriving DecidableEq, Repr

/-- Where a path leads. -/
structure Place where
  /-- The location. -/
  location : Location
  /-- What stands there. -/
  entry : Option Entry
  /-- There is a slash behind the name of what stands there, or would stand there. -/
  slash : Bool
deriving DecidableEq, Repr

namespace Disk

/-- How many links are followed for one path. -/
def linkLimit : Nat := 40

/-- Most bytes of a name. -/
def nameLimit : Nat := 255

/-- A path has fewer bytes than this. -/
def pathLimit : Nat := 4096

/-- The piece stays in the directory it stands in. -/
def isSilent (piece : String) : Bool :=
  piece == "" || piece == "."

/-- The directory above. -/
def above (location : Location) : Location :=
  if location = [] ∨ location = absoluteRoot then absoluteRoot else location.dropLast

/-- Where a link's text starts, for a link in the given directory, and its pieces. -/
def linkStart (directory : Location) (target : String) : Location × List String :=
  match Path.pieces ⟨target⟩ with
  | "" :: pieces => (absoluteRoot, pieces)
  | pieces => (directory, pieces)

/-- Where the pieces of a path lead from a directory on.  The last piece may name a file even in
front of a slash, unless it is to be made.  `follow` says where a link in a directory and the pieces
behind it lead. -/
def walk (disk : Disk) (last : LastPiece)
    (follow : Location → String → List String → Except OsError Place) :
    Location → List String → Except OsError Place
  | at_, [] =>
    if disk.entryAt? at_ ≠ some .directory then .error .notADirectory
    else .ok ⟨at_, some .directory, false⟩
  | at_, piece :: rest =>
    if disk.entryAt? at_ ≠ some .directory then .error .notADirectory
    else if isSilent piece then disk.walk last follow at_ rest
    else if piece = ".." then disk.walk last follow (above at_) rest
    else if last = .made ∧ rest ≠ [] ∧ rest.all (· == "") then .error .isADirectory
    else if nameLimit < piece.utf8ByteSize then .error .nameTooLong
    else
      let location := at_ ++ [piece]
      match disk.entryAt? location with
      | none =>
        if rest.isEmpty then .ok ⟨location, none, false⟩
        else if rest.all (· == "") then .ok ⟨location, none, true⟩
        else .error .notFound
      | some (.link target) =>
        if rest.isEmpty && last == .kept then .ok ⟨location, some (.link target), false⟩
        else follow at_ target rest
      | some (.file id) =>
        if rest.isEmpty then .ok ⟨location, some (.file id), false⟩
        else if rest.all (· == "") then .ok ⟨location, some (.file id), true⟩
        else .error .notADirectory
      | some .directory => disk.walk last follow location rest

/-- Where the pieces of a path lead from a directory on, when `links` more links may be
followed. -/
def resolvePieces (disk : Disk) (last : LastPiece) :
    (links : Nat) → Location → List String → Except OsError Place
  | 0 => disk.walk last fun _ _ _ => .error .linkLoop
  | links + 1 =>
    disk.walk last fun directory target rest =>
      let (start, front) := linkStart directory target
      disk.resolvePieces last links start (front ++ rest)

/-- Where a path leads, whatever stands in front of its last slash. -/
def locate (disk : Disk) (last : LastPiece) (path : Path) : Except OsError Place :=
  if path.spelling = "" then .error .notFound
  else if path.spelling.toList.contains (Char.ofNat 0) then .error .nulCharacter
  else if pathLimit ≤ path.spelling.utf8ByteSize then .error .nameTooLong
  else
    let (start, pieces) := linkStart [] path.spelling
    disk.resolvePieces last linkLimit start pieces

/-- Where a path leads. -/
def resolve (disk : Disk) (last : LastPiece) (path : Path) : Except OsError Place := do
  let place ← disk.locate last path
  match place.entry with
  | some (.file _) => if place.slash then .error .notADirectory else .ok place
  | _ => .ok place

end Disk

end PartsList
