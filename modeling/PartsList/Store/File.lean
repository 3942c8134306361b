import PartsList.Disk.Operations
import PartsList.Store.Address
import PartsList.Store.Image

/-!
# Database files

A database lies in a file, and as long as it is used, further files lie beside it: a journal, a log
of changes and its index.  Opening it makes the directory and the file as far as they are missing,
and brings the database to the current version; a file that holds anything else is refused, and so
is one whose further files cannot be made.  What is open stays open when the file's name goes.
-/

namespace PartsList

/-- An open database. -/
structure Connection where
  /-- The number of its file. -/
  file : FileId
  /-- It can only be read. -/
  readOnly : Bool := false
deriving DecidableEq, Repr

namespace Connection

/-- The database behind a connection. -/
def database? (connection : Connection) (disk : Disk) : Option Database :=
  match disk.content? connection.file with
  | some (.database database) => some database
  | _ => none

/-- The database behind a connection; one without tables when the file holds none. -/
def database (connection : Connection) (disk : Disk) : Database :=
  (connection.database? disk).getD {}

/-- The disk with another database behind a connection. -/
def put (connection : Connection) (database : Database) (disk : Disk) : Disk :=
  disk.putContent connection.file (.database database)

/-- Delivers results in one transaction.  A database that can only be read takes none. -/
def upsert (connection : Connection) (results : List ExtractionResult) (disk : Disk) :
    Except DatabaseError UpsertCounts × Disk :=
  match connection.database? disk with
  | none => (.error .refused, disk)
  | some database =>
    if connection.readOnly && !results.isEmpty then (.error .refused, disk)
    else
      let (outcome, database) := database.upsert results
      (outcome, connection.put database disk)

end Connection

/-! ## The place of a database file -/

/-- What stands beside a database file.  A file that holds nothing looks like none. -/
inductive Sibling
  /-- Nothing, or an empty file. -/
  | absent
  /-- A file. -/
  | file
  /-- A directory. -/
  | directory
  /-- A link to a directory or to a file that holds something. -/
  | link
  /-- Another link. -/
  | deadLink
deriving DecidableEq, Repr

namespace Sibling

/-- It is a link. -/
def isLink : Sibling → Bool
  | link | deadLink => true
  | absent | file | directory => false

end Sibling

namespace Disk

/-- Most bytes of the full path of a database file, so that there is room for the names of the files
beside it. -/
def databasePathLimit : Nat := 504

/-- Bytes that the full path of the working directory takes. -/
def workspaceLength : Nat := 15

/-- Links that are followed for one database. -/
def databaseLinkLimit : Nat := 201

/-- Bytes of the full path of a location. -/
def fullLength (location : Location) : Nat :=
  location.foldr (fun name length => name.utf8ByteSize + 1 + length) workspaceLength

/-- A file stands at the location. -/
def isFileAt (disk : Disk) (location : Location) : Bool :=
  match disk.entryAt? location with
  | some (.file _) => true
  | _ => false

/-- The location that pieces lead to from a directory on.  Dots and slashes behind a name do not ask
for a directory, and nothing has to be there; but no file stands where a directory has to be.
`follow` says where a link in a directory and the pieces behind it lead. -/
def settleWalk (disk : Disk) (follow : Location → String → List String → Option Location) :
    Location → List String → Option Location
  | at_, [] => some at_
  | at_, piece :: rest =>
    if isSilent piece then disk.settleWalk follow at_ rest
    else if piece = ".." then disk.settleWalk follow (above at_) rest
    else
      let location := at_ ++ [piece]
      if nameLimit < piece.utf8ByteSize ∨ databasePathLimit + 8 ≤ fullLength location ∨
          disk.isFileAt at_ then
        none
      else
        match disk.entryAt? location with
        | some (.link target) => follow at_ target rest
        | _ => disk.settleWalk follow location rest

/-- The location that pieces lead to from a directory on, links followed as far as there are any, of
which `links` more may be followed. -/
def settle (disk : Disk) : (links : Nat) → Location → List String → Option Location
  | 0 => disk.settleWalk fun _ _ _ => none
  | links + 1 =>
    disk.settleWalk fun directory target rest =>
      let (start, front) := linkStart directory target
      disk.settle links start (front ++ rest)

/-- The location of the database file with the given path. -/
def databaseLocation? (disk : Disk) (path : String) : Option Location := do
  let (start, pieces) := linkStart [] path
  let location ← disk.settle databaseLinkLimit start pieces
  if fullLength location ≤ databasePathLimit then some location else none

/-- The location beside a file, under its name with an ending. -/
def siblingLocation (location : Location) (ending : String) : Location :=
  location.dropLast ++ [location.getLast?.getD "" ++ ending]

/-- The file holds something. -/
def isFilled (disk : Disk) (id : FileId) : Bool :=
  0 < ((disk.content? id).map Content.size).getD 0

/-- A link at a location leads to a directory or to a file that holds something. -/
def leadsSomewhere (disk : Disk) (location : Location) : Bool :=
  match disk.resolvePieces .followed linkLimit location.dropLast location.getLast?.toList with
  | .ok ⟨_, some .directory, _⟩ => true
  | .ok ⟨_, some (.file id), false⟩ => disk.isFilled id
  | _ => false

/-- What stands beside a file, under its name with an ending. -/
def sibling (disk : Disk) (location : Location) (ending : String) : Sibling :=
  let location := siblingLocation location ending
  match disk.entryAt? location with
  | none => .absent
  | some (.file id) => if disk.isFilled id then .file else .absent
  | some .directory => .directory
  | some (.link _) => if disk.leadsSomewhere location then .link else .deadLink

/-- The disk without what stands beside a file under its name with an ending, unless it is a
directory or looks like nothing. -/
def clearSibling (disk : Disk) (location : Location) (ending : String) : Disk :=
  match disk.sibling location ending with
  | .file | .link => disk.removeEntry (siblingLocation location ending)
  | .absent | .directory | .deadLink => disk

end Disk

namespace Database

/-! ## Opening -/

/-- Ending of the file that keeps the old state during a change. -/
def journalEnding : String := "-journal"

/-- Ending of the log of changes. -/
def logEnding : String := "-wal"

/-- Ending of the index of that log. -/
def indexEnding : String := "-shm"

/-- Longest name of a database file, in bytes: it leaves room for the ending of the journal. -/
def nameLimit : Nat := Disk.nameLimit - journalEnding.utf8ByteSize

/-- Most bytes of a file that counts as empty. -/
def emptyLimit : Nat := 1

/-- The database would have to be made, but it can only be read. -/
def unwritable : DatabaseError :=
  .migrationFailed 1 "attempt to write a readonly database"

/-- The database would have to be made, but the files beside it cannot be. -/
def unlogged : DatabaseError :=
  .migrationFailed 1 "unable to open database file"

/-- The directory of a database cannot be made. -/
def directoryError (path : Path) (error : OsError) : DatabaseError :=
  .migrationFailed 0
    ("cannot create " ++ (path.parent?.getD path).spelling ++ ": " ++ error.message)

/-- The journal cannot be made: its name is too long, or something stands in its way that cannot be
removed. -/
def lacksJournal (disk : Disk) (location : Location) : Bool :=
  nameLimit < (location.getLast?.getD "").utf8ByteSize ||
    [.directory, .deadLink].contains (disk.sibling location journalEnding)

/-- The log or its index cannot be opened, because a link stands in its place. -/
def lacksLog (address : DatabaseAddress) (disk : Disk) (location : Location) : Bool :=
  match address.changes with
  | .none => false
  | .unindexed => (disk.sibling location logEnding).isLink
  | .indexed =>
    (disk.sibling location logEnding).isLink || (disk.sibling location indexEnding).isLink

/-- The index of the log cannot be written, because a directory stands in its place. -/
def lacksIndex (address : DatabaseAddress) (disk : Disk) (location : Location) : Bool :=
  address.changes == .indexed && disk.sibling location indexEnding == .directory

/-- What is left beside a database cannot be read. -/
def isDisturbed (address : DatabaseAddress) (disk : Disk) (location : Location) : Bool :=
  [.directory, .link].contains (disk.sibling location journalEnding) ||
    (match address.changes with
     | .none => [.directory, .link, .file].contains (disk.sibling location logEnding)
     | .indexed | .unindexed => disk.sibling location logEnding == .directory) ||
    lacksLog address disk location

/-- Opens a database that only this connection can see. -/
def openUnnamed (address : DatabaseAddress) (disk : Disk) :
    Except DatabaseError Connection × Disk :=
  if address.isReadOnly then (.error unwritable, disk)
  else
    (.ok { file := disk.nextFile },
      { disk.putContent disk.nextFile (.database fresh) with nextFile := disk.nextFile + 1 })

/-- Makes a new database in an empty file at a location, for which a journal can be made. -/
def write (address : DatabaseAddress) (location : Location) (id : FileId) (disk : Disk) :
    Except DatabaseError Connection × Disk :=
  let disk := (disk.clearSibling location journalEnding).clearSibling location logEnding
  if lacksLog address disk location then (.error unlogged, Connection.put { file := id } {} disk)
  else if lacksIndex address disk location then
    (.error unwritable, Connection.put { file := id } {} disk)
  else (.ok { file := id }, Connection.put { file := id } fresh disk)

/-- Makes a new database in an empty file at a location. -/
def establish (address : DatabaseAddress) (location : Location) (id : FileId) (disk : Disk) :
    Except DatabaseError Connection × Disk :=
  if address.immutable then (.error unwritable, disk)
  else if address.isReadOnly || disk.sibling location logEnding == .directory then
    (.error .refused, disk)
  else if lacksJournal disk location then
    (.error (if address.changes = .none then unlogged else .refused), disk)
  else write address location id disk

/-- Opens a database that a file at a location holds. -/
def reopen (address : DatabaseAddress) (location : Location) (id : FileId) (database : Database)
    (disk : Disk) : Except DatabaseError Connection × Disk :=
  if !address.immutable && isDisturbed address disk location then (.error .refused, disk)
  else if address.isReadOnly || lacksIndex address disk location then
    if database.versioned then (.ok { file := id, readOnly := true }, disk)
    else (.error unwritable, disk)
  else (.ok { file := id }, Connection.put { file := id } database.migrate disk)

/-- The file holds a database that something else has written, without the tables used here. -/
def isForeign : Content → Bool
  | .bytes 0 tail => DatabaseImage.isImage tail
  | _ => false

/-- Opens the database in a file. -/
def openContent (address : DatabaseAddress) (location : Location) (id : FileId) (disk : Disk) :
    Except DatabaseError Connection × Disk :=
  match disk.content? id with
  | some (.database database) => reopen address location id database disk
  | some content =>
    if content.size ≤ emptyLimit then establish address location id disk
    else if isForeign content then reopen address location id {} disk
    else (.error .refused, disk)
  | none => (.error .refused, disk)

/-- Opens the database at a location, whose directory has to be there. -/
def openLocation (address : DatabaseAddress) (location : Location) (disk : Disk) :
    Except DatabaseError Connection × Disk :=
  match disk.entryAt? location.dropLast, disk.entryAt? location with
  | some .directory, some (.file id) => openContent address location id disk
  | some .directory, none =>
    if address.access = .create then
      let (id, disk) := disk.addFile location (.ofBytes [])
      openContent address location id disk
    else (.error .refused, disk)
  | _, _ => (.error .refused, disk)

/-- Opens the database at an address. -/
def openAddress (address : DatabaseAddress) (disk : Disk) :
    Except DatabaseError Connection × Disk :=
  if address.isUnnamed then openUnnamed address disk
  else
    match disk.databaseLocation? address.file with
    | some location => openLocation address location disk
    | none => (.error .refused, disk)

/-- Opens a database. -/
def openAt (path : Path) (disk : Disk) : Except DatabaseError Connection × Disk :=
  match Disk.makeParent path disk with
  | (.error error, disk) => (.error (directoryError path error), disk)
  | (.ok (), disk) =>
    match DatabaseAddress.ofPath? path with
    | some address => openAddress address disk
    | none => (.error .refused, disk)

end Database

end PartsList
