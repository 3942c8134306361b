import PartsList.Disk.Resolve

/-!
# Operations on files

What the program asks of a disk: the state of a file, its bytes, new directories, writing, removing
and replacing.  A file that replaces another is written where no path leads and then put in its
place, so that it is seen as a whole or not at all.
-/

namespace PartsList

/-- What the system tells about a file. -/
structure FileStatus where
  /-- It is a file and not a directory. -/
  isFile : Bool
  /-- Its size in bytes. -/
  size : Nat
deriving DecidableEq, Repr

namespace Disk

/-- The state of what a path leads to, links followed. -/
def status (disk : Disk) (path : Path) : Except OsError FileStatus := do
  match (← disk.resolve .followed path).entry with
  | some (.file id) => return ⟨true, ((disk.content? id).map Content.size).getD 0⟩
  | some _ => return ⟨false, 4096⟩
  | none => throw .notFound

/-- The path leads to a directory. -/
def isDirectory (disk : Disk) (path : Path) : Bool :=
  match disk.status path with
  | .ok status => !status.isFile
  | .error _ => false

/-- The path leads to a file. -/
def isFile (disk : Disk) (path : Path) : Bool :=
  match disk.status path with
  | .ok status => status.isFile
  | .error _ => false

/-- Takes the system's verdict on the next operation. -/
def verdict : DiskM Unit := do
  let disk ← get
  set { disk with faults := disk.faults.tail }
  match disk.faults.head? with
  | some (some error) => throw error
  | _ => return ()

/-- Where a path leads. -/
def find (last : LastPiece) (path : Path) : DiskM Place := do
  (← get).resolve last path

/-- The file at a path. -/
def openFile (path : Path) : DiskM FileId := do
  match (← find .followed path).entry with
  | some (.file id) => return id
  | some _ => throw .isADirectory
  | none => throw .notFound

/-- The bytes of a file. -/
def readFile (path : Path) : DiskM (List UInt8) := do
  verdict
  let id ← openFile path
  return (((← get).content? id).map Content.toBytes).getD []

/-- The text that bytes encode. -/
def textOf? (bytes : List UInt8) : Option String :=
  String.fromUTF8? ⟨bytes.toArray⟩

/-- The bytes that encode a text. -/
def bytesOf (text : String) : List UInt8 :=
  text.toUTF8.data.toList

/-- The text of a file. -/
def readText (path : Path) : DiskM String := do
  match textOf? (← readFile path) with
  | some text => return text
  | none => throw .notText

/-- The file at a path, a new one with the given content if there is none. -/
def openOrCreate (path : Path) : DiskM FileId := do
  let place ← (← get).locate .made path
  match place.entry with
  | some (.file id) => return id
  | some _ => throw .isADirectory
  | none => modifyGet fun disk => disk.addFile place.location (.ofBytes [])

/-- Opens a file for adding to its end. -/
def openAppend (path : Path) : DiskM FileId := do
  verdict
  openOrCreate path

/-- Adds bytes to the end of an open file. -/
def append (id : FileId) (bytes : List UInt8) : DiskM Unit := do
  verdict
  let disk ← get
  match disk.content? id with
  | some content => set (disk.putContent id (content.append bytes))
  | none => return ()

/-- Opens a file and removes what it holds. -/
def openEmpty (path : Path) : DiskM FileId := do
  verdict
  let id ← openOrCreate path
  modify (·.putContent id (.ofBytes []))
  return id

/-- Writes a file, in place of what it held. -/
def writeFile (path : Path) (content : Content) : DiskM Unit := do
  let id ← openEmpty path
  modify (·.putContent id content)

/-- Makes one directory, whose parent has to be there. -/
def makeDirectory (path : Path) : DiskM Unit := do
  verdict
  let place ← find .kept path.withoutSlashes
  match place.entry with
  | some _ => throw .alreadyExists
  | none => modify (·.putEntry place.location .directory)

/-- Makes a directory, or finds that it is there. -/
def ensureDirectory (path : Path) : DiskM Unit := do
  tryCatch (makeDirectory path) fun error => do
    if (← get).isDirectory path then return () else throw error

/-- Makes a directory and those above it, as far as they are missing; `fuel` bounds how far up the
search goes. -/
def makeDirectoriesUp : (fuel : Nat) → Path → DiskM Unit
  | 0, path => ensureDirectory path
  | fuel + 1, path => do
    if path.components.isEmpty then return ()
    tryCatch (ensureDirectory path) fun error => do
      match error, path.parent? with
      | .notFound, some parent =>
        makeDirectoriesUp fuel parent
        ensureDirectory path
      | error, _ => throw error

/-- Makes a directory and those above it, as far as they are missing. -/
def makeDirectories (path : Path) : DiskM Unit :=
  makeDirectoriesUp (path.components.length + 1) path

/-- Makes the directory that a path lies in, as far as the path names one. -/
def makeParent (path : Path) : DiskM Unit := do
  match path.parent? with
  | some parent => if parent.spelling = "" then return () else makeDirectories parent
  | none => return ()

/-- Removes a file or a link. -/
def removeFile (path : Path) : DiskM Unit := do
  verdict
  let place ← find .kept path
  match place.entry with
  | some .directory => throw .isADirectory
  | some _ => modify (·.removeEntry place.location)
  | none => throw .notFound

/-- Makes an empty file in a directory, to which no path leads yet. -/
def createNameless (directory : Path) : DiskM FileId := do
  verdict
  match (← find .followed directory).entry with
  | some .directory =>
    modifyGet fun disk =>
      (disk.nextFile,
        { disk.putContent disk.nextFile (.ofBytes []) with nextFile := disk.nextFile + 1 })
  | some _ => throw .notADirectory
  | none => throw .notFound

/-- Waits until all that was written is kept for good. -/
def flush : DiskM Unit :=
  verdict

/-- Writes a new file in a directory, to which no path leads yet. -/
def writeNameless (directory : Path) (bytes : List UInt8) : DiskM FileId := do
  let id ← createNameless directory
  append id bytes
  flush
  return id

/-- Puts a file at a path, in place of a file or link there. -/
def placeFile (path : Path) (id : FileId) : DiskM Unit := do
  verdict
  let place ← find .kept path
  match place.entry with
  | some .directory => throw .isADirectory
  | none =>
    if place.slash then throw .notADirectory
    else modify (·.putEntry place.location (.file id))
  | some _ => modify (·.putEntry place.location (.file id))

/-- Makes a link. -/
def makeLink (path : Path) (target : String) : DiskM Unit := do
  if target = "" then throw .notFound
  let place ← find .kept path
  match place.entry with
  | some _ => throw .alreadyExists
  | none =>
    if place.slash then throw .notFound
    else modify (·.putEntry place.location (.link target))

/-- The names in a directory. -/
def listDirectory (path : Path) : DiskM (List String) := do
  verdict
  let place ← find .followed path
  match place.entry with
  | some .directory => return (← get).children place.location
  | some _ => throw .notADirectory
  | none => throw .notFound

end Disk

end PartsList
