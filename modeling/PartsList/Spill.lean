import PartsList.Disk.Operations
import PartsList.Text.CharClass

/-!
# Spill files

Results that no writer takes are added, one line each, to a file of their producer.  Afterwards all
such files are replayed into the store, in the order of their paths, and removed.  A line that was
cut off or is no result is skipped.
-/

namespace PartsList

/-- The extension of spill files. -/
def spillExtension : String := "jsonl"

/-- Who writes a spill file. -/
inductive Producer
  /-- A worker. -/
  | worker (id : Nat)
  /-- A writer. -/
  | writer (id : Nat)
  /-- The manager of the run. -/
  | manager
deriving DecidableEq, Repr

namespace Producer

/-- The producer's name. -/
def name : Producer → String
  | worker id => "worker-" ++ toString id
  | writer id => "writer-" ++ toString id
  | manager => "manager"

end Producer

/-- Why results cannot be spilled or replayed. -/
inductive SpillError
  /-- The system refuses. -/
  | io (path : Path) (error : OsError)
  /-- The database refuses. -/
  | database (error : DatabaseError)
deriving DecidableEq, Repr

namespace SpillError

/-- The error in words. -/
def message : SpillError → String
  | io path error => "Spill file I/O error at " ++ path.spelling ++ ": " ++ error.message
  | database error => "Replay failed: " ++ error.message

end SpillError

/-- A producer's spill file.  It is opened with the first result and stays open. -/
structure SpillFile where
  /-- The file's path. -/
  path : Path
  /-- The file, once it is open. -/
  file : Option FileId := none
  /-- How many results were written. -/
  written : Nat := 0
deriving DecidableEq, Repr

namespace SpillFile

/-- The spill file of a producer in a directory. -/
def forProducer (directory : Path) (producer : Producer) : SpillFile where
  path := directory.join (producer.name ++ "." ++ spillExtension)

/-- The bytes of a result's line. -/
def lineBytes (result : ExtractionResult) : List UInt8 :=
  Disk.bytesOf (result.line ++ "\n")

/-- The open file. -/
def opened (spill : SpillFile) : DiskM FileId := do
  match spill.file with
  | some id => return id
  | none =>
    match spill.path.parent? with
    | some parent => Disk.makeDirectories parent
    | none => pure ()
    Disk.openAppend spill.path

/-- Adds a result's line to an open file and waits until it is kept for good. -/
def writeLine (id : FileId) (result : ExtractionResult) : DiskM Unit := do
  Disk.append id (lineBytes result)
  Disk.flush

/-- Adds a result's line to the file. -/
def persist (spill : SpillFile) (result : ExtractionResult) (disk : Disk) :
    Except SpillError Unit × SpillFile × Disk :=
  match spill.opened disk with
  | (.error error, disk) => (.error (.io spill.path error), spill, disk)
  | (.ok id, disk) =>
    let spill := { spill with file := some id }
    match writeLine id result disk with
    | (.error error, disk) => (.error (.io spill.path error), spill, disk)
    | (.ok (), disk) => (.ok (), { spill with written := spill.written + 1 }, disk)

end SpillFile

/-- What a spill file holds: its results, and how many of its lines are none. -/
structure SpillContent where
  /-- The results in the order of their lines. -/
  results : List ExtractionResult := []
  /-- How many lines are no results. -/
  skipped : Nat := 0

namespace SpillContent

/-- The byte that ends a line. -/
def lineFeed : UInt8 := 10

/-- The lines of a file, without their line ends; a part behind the last line end counts unless it
is empty. -/
def splitLines : List UInt8 → List (List UInt8)
  | [] => []
  | byte :: rest =>
    if byte = lineFeed then [] :: splitLines rest
    else
      match splitLines rest with
      | line :: lines => (byte :: line) :: lines
      | [] => [[byte]]

/-- What a line holds: nothing if it is blank, a result, or neither. -/
inductive LineContent
  /-- White space. -/
  | blank
  /-- A result. -/
  | result (result : ExtractionResult)
  /-- Anything else. -/
  | unreadable

/-- What a line holds. -/
def readLine (bytes : List UInt8) : LineContent :=
  match Disk.textOf? bytes with
  | none => .unreadable
  | some text =>
    if Text.isBlankText text then .blank
    else
      match ExtractionResult.ofLine? text with
      | some result => .result result
      | none => .unreadable

/-- The content with one more line in front. -/
def addLine (line : LineContent) (content : SpillContent) : SpillContent :=
  match line with
  | .blank => content
  | .result result => { content with results := result :: content.results }
  | .unreadable => { content with skipped := content.skipped + 1 }

/-- What the bytes of a file hold. -/
def ofBytes (bytes : List UInt8) : SpillContent :=
  (splitLines bytes).foldr (fun line content => addLine (readLine line) content) {}

end SpillContent

namespace Spill

/-- Reads a spill file. -/
def read (path : Path) (disk : Disk) : Except SpillError SpillContent × Disk :=
  match Disk.readFile path disk with
  | (.ok bytes, disk) => (.ok (SpillContent.ofBytes bytes), disk)
  | (.error error, disk) => (.error (.io path error), disk)

/-- The path is that of a spill file on the disk. -/
def isSpillFile (disk : Disk) (path : Path) : Bool :=
  disk.isFile path && path.extension? == some spillExtension

/-- The spill files in a directory, in the order of their paths.  A missing directory has none. -/
def files (directory : Path) (disk : Disk) : Except SpillError (List Path) × Disk :=
  match Disk.listDirectory directory disk with
  | (.ok names, disk) =>
    (.ok (Path.sort ((names.map directory.join).filter (isSpillFile disk))), disk)
  | (.error .notFound, disk) => (.ok [], disk)
  | (.error error, disk) => (.error (.io directory error), disk)

end Spill

/-- What a replay of spill files did. -/
structure ReplayStats where
  /-- How many files were replayed. -/
  files : Nat := 0
  /-- How many results they held. -/
  results : Nat := 0
  /-- How many rows were written. -/
  rows : Nat := 0
  /-- How many lines were skipped. -/
  skippedLines : Nat := 0
deriving DecidableEq, Repr

namespace ReplayStats

/-- The figures after one more file. -/
def add (stats : ReplayStats) (counts : UpsertCounts) (skipped : Nat) : ReplayStats where
  files := stats.files + 1
  results := stats.results + counts.results
  rows := stats.rows + counts.rows
  skippedLines := stats.skippedLines + skipped

end ReplayStats

namespace Spill

/-- Delivers the results of a spill file in one transaction.  A database that can only be read takes
none. -/
def deliver (results : List ExtractionResult) (database : Database) (readOnly : Bool) :
    Except DatabaseError UpsertCounts × Database :=
  if readOnly && !results.isEmpty then (.error .refused, database) else database.upsert results

/-- Replays one spill file and removes it: its results reach the database in one transaction before
the file goes. -/
def replayFile (path : Path) (database : Database) (disk : Disk) (readOnly : Bool) :
    Except SpillError (UpsertCounts × Nat) × Database × Disk :=
  match read path disk with
  | (.error error, disk) => (.error error, database, disk)
  | (.ok content, disk) =>
    match deliver content.results database readOnly with
    | (.error error, database) => (.error (.database error), database, disk)
    | (.ok counts, database) =>
      match Disk.removeFile path disk with
      | (.error error, disk) => (.error (.io path error), database, disk)
      | (.ok (), disk) => (.ok (counts, content.skipped), database, disk)

/-- Replays spill files one after the other and stops at the first that fails. -/
def replayFiles (stats : ReplayStats) (database : Database) (disk : Disk) (readOnly : Bool) :
    List Path → Except SpillError ReplayStats × Database × Disk
  | [] => (.ok stats, database, disk)
  | path :: paths =>
    match replayFile path database disk readOnly with
    | (.error error, database, disk) => (.error error, database, disk)
    | (.ok (counts, skipped), database, disk) =>
      replayFiles (stats.add counts skipped) database disk readOnly paths

/-- Replays all spill files of a directory. -/
def reconcile (directory : Path) (database : Database) (disk : Disk) (readOnly : Bool := false) :
    Except SpillError ReplayStats × Database × Disk :=
  match files directory disk with
  | (.error error, disk) => (.error error, database, disk)
  | (.ok paths, disk) => replayFiles {} database disk readOnly paths

end Spill

end PartsList
