import PartsList.Path
import PartsList.Store.Database

/-!
# Disks

Files, directories and links below a working directory.  A location is the list of names that lead
to it; the tree of absolute paths hangs below a name that no file can have.  The content of a file
is kept apart from its place in the tree, so that a file that was opened can still be written after
its name is gone.
-/

namespace PartsList

/-- Why the system refuses an operation on a file. -/
inductive OsError
  /-- There is no such file or directory. -/
  | notFound
  /-- Something is there already. -/
  | alreadyExists
  /-- A file stands where a directory has to be. -/
  | notADirectory
  /-- A directory stands where a file has to be. -/
  | isADirectory
  /-- A name is too long. -/
  | nameTooLong
  /-- Links lead to links without end. -/
  | linkLoop
  /-- The path holds a character that ends it. -/
  | nulCharacter
  /-- The bytes of the file are no text. -/
  | notText
  /-- There is no room left. -/
  | noSpace
  /-- There is too much going on already. -/
  | exhausted
deriving DecidableEq, Repr

namespace OsError

/-- The error in words. -/
def message : OsError → String
  | notFound => "No such file or directory (os error 2)"
  | alreadyExists => "File exists (os error 17)"
  | notADirectory => "Not a directory (os error 20)"
  | isADirectory => "Is a directory (os error 21)"
  | nameTooLong => "File name too long (os error 36)"
  | linkLoop => "Too many levels of symbolic links (os error 40)"
  | nulCharacter => "file name contained an unexpected NUL byte"
  | notText => "stream did not contain valid UTF-8"
  | noSpace => "No space left on device (os error 28)"
  | exhausted => "Resource temporarily unavailable (os error 11)"

end OsError

/-- The names that lead to a place, from the working directory on. -/
abbrev Location := List String

/-- Number of a file, which stays the same whatever its name. -/
abbrev FileId := Nat

/-- What a file holds. -/
inductive Content
  /-- Zero bytes, this many, and then the given bytes. -/
  | bytes (zeros : Nat) (tail : List UInt8)
  /-- A database. -/
  | database (database : Database)

namespace Content

/-- Content with the given bytes. -/
def ofBytes (tail : List UInt8) : Content :=
  .bytes 0 tail

/-- Size in bytes; a database counts as one page. -/
def size : Content → Nat
  | .bytes zeros tail => zeros + tail.length
  | .database _ => 4096

/-- The bytes.  Those of a database are not told. -/
def toBytes : Content → List UInt8
  | .bytes zeros tail => List.replicate zeros 0 ++ tail
  | .database _ => [0]

/-- The content with bytes added at its end.  A database takes none. -/
def append (content : Content) (more : List UInt8) : Content :=
  match content with
  | .bytes zeros tail => .bytes zeros (tail ++ more)
  | .database image => .database image

end Content

/-- What stands at a location. -/
inductive Entry
  /-- A file. -/
  | file (id : FileId)
  /-- A directory. -/
  | directory
  /-- A link to another path. -/
  | link (target : String)
deriving DecidableEq, Repr

/-- A tree of files, the contents of the files, and the verdicts that the system will give on coming
operations for reasons of its own, an error standing for a refusal. -/
structure Disk where
  /-- What stands at the locations, one entry per location. -/
  entries : List (Location × Entry) := []
  /-- What the files hold, one entry per file. -/
  contents : List (FileId × Content) := []
  /-- Number of the next new file. -/
  nextFile : FileId := 0
  /-- Verdicts on coming operations. -/
  faults : List (Option OsError) := []

/-- Work on a disk that the system may refuse.  What was done before a refusal stays done. -/
abbrev DiskM (α : Type) := ExceptT OsError (StateM Disk) α

namespace Disk

/-- The root of absolute paths. -/
def absoluteRoot : Location := ["/"]

/-- What stands at a location. -/
def entryAt? (disk : Disk) (location : Location) : Option Entry :=
  if location = [] ∨ location = absoluteRoot then some .directory
  else (disk.entries.find? (·.1 == location)).map (·.2)

/-- What a file holds. -/
def content? (disk : Disk) (id : FileId) : Option Content :=
  (disk.contents.find? (·.1 == id)).map (·.2)

/-- The disk with an entry at a location. -/
def putEntry (disk : Disk) (location : Location) (entry : Entry) : Disk :=
  { disk with entries := disk.entries.filter (·.1 != location) ++ [(location, entry)] }

/-- The disk without an entry at a location. -/
def removeEntry (disk : Disk) (location : Location) : Disk :=
  { disk with entries := disk.entries.filter (·.1 != location) }

/-- The disk with another content of a file. -/
def putContent (disk : Disk) (id : FileId) (content : Content) : Disk :=
  { disk with contents := disk.contents.filter (·.1 != id) ++ [(id, content)] }

/-- The disk with a new file at a location, and the file's number. -/
def addFile (disk : Disk) (location : Location) (content : Content) : FileId × Disk :=
  (disk.nextFile,
    { (disk.putEntry location (.file disk.nextFile)).putContent disk.nextFile content with
      nextFile := disk.nextFile + 1 })

/-- The names of what stands in a directory. -/
def children (disk : Disk) (directory : Location) : List String :=
  disk.entries.filterMap fun entry =>
    match entry.1.getLast? with
    | some name => if entry.1.dropLast = directory then some name else none
    | none => none

end Disk

end PartsList
