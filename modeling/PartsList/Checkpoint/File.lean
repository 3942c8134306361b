import PartsList.Checkpoint.Basic
import PartsList.Disk.Operations
import PartsList.Json.Decode
import PartsList.Json.Printer
import PartsList.Json.Reader

/-!
# Checkpoint files

How a checkpoint is written to a file and read back.  A saved file replaces the one before as a
whole.  A missing file is an empty checkpoint; one that cannot be read is an error.
-/

namespace PartsList

/-- Why a checkpoint cannot be read or written. -/
inductive CheckpointError
  /-- The system refuses. -/
  | io (path : Path) (error : OsError)
  /-- The file does not hold a checkpoint. -/
  | corrupt (path : Path)
  /-- The file cannot be put in its place. -/
  | unplaced (path : Path)
deriving DecidableEq, Repr

namespace CheckpointError

/-- The error in words. -/
def message : CheckpointError → String
  | io path error => "Checkpoint I/O error at " ++ path.spelling ++ ": " ++ error.message
  | corrupt path => "Checkpoint " ++ path.spelling ++ " is corrupt"
  | unplaced path => "Cannot replace checkpoint " ++ path.spelling

end CheckpointError

namespace PathSet

/-- The set as a JSON value. -/
def toJson (set : PathSet) : Json :=
  .array (set.paths.map fun path => .text path.spelling)

/-- The set that a JSON value describes. -/
def ofJson? (value : Json) : Option PathSet := do
  let texts ← Json.toList? Json.toText? value
  return ofList (texts.map Path.mk)

end PathSet

namespace Checkpoint

/-- The checkpoint as a JSON value. -/
def toJson (checkpoint : Checkpoint) : Json :=
  .record
    [("completed", checkpoint.completed.toJson),
     ("failed", checkpoint.failed.toJson),
     ("updated_at", .optionalText (checkpoint.updatedAt.map Timestamp.write))]

/-- The checkpoint that a JSON value describes.  Missing fields are empty. -/
def ofJson? (value : Json) : Option Checkpoint := do
  match ← value.toFields? ["completed", "failed", "updated_at"] 0 with
  | [completed, failed, updatedAt] =>
    return {
      completed := ← Json.defaulted PathSet.ofJson? {} completed
      failed := ← Json.defaulted PathSet.ofJson? {} failed
      updatedAt :=
        ← Json.optional (fun text => text.toText?.bind Timestamp.read?) updatedAt }
  | _ => none

/-- The text of a checkpoint's file. -/
def fileText (checkpoint : Checkpoint) : String :=
  checkpoint.toJson.renderPretty

/-- The checkpoint that the bytes of a file describe. -/
def ofBytes? (bytes : List UInt8) : Option Checkpoint :=
  (Json.readBytes bytes).bind ofJson?

/-- Reads a checkpoint. -/
def load (path : Path) (disk : Disk) : Except CheckpointError Checkpoint × Disk :=
  match Disk.readFile path disk with
  | (.ok bytes, disk) =>
    match ofBytes? bytes with
    | some checkpoint => (.ok checkpoint, disk)
    | none => (.error (.corrupt path), disk)
  | (.error .notFound, disk) => (.ok {}, disk)
  | (.error error, disk) => (.error (.io path error), disk)

/-- The directory that a checkpoint's file lies in. -/
def directoryOf (path : Path) : Path :=
  match path.parent? with
  | some parent => if parent.spelling = "" then ⟨"."⟩ else parent
  | none => ⟨"."⟩

/-- Saves a checkpoint under the given time.  The time is recorded whether or not the file can be
written. -/
@[irreducible]
def save (checkpoint : Checkpoint) (path : Path) (now : Timestamp) (disk : Disk) :
    Except CheckpointError Unit × Checkpoint × Disk :=
  let checkpoint := { checkpoint with updatedAt := some now }
  match Disk.makeDirectories (directoryOf path) disk with
  | (.error error, disk) => (.error (.io path error), checkpoint, disk)
  | (.ok (), disk) =>
    match Disk.writeNameless (directoryOf path) (Disk.bytesOf checkpoint.fileText) disk with
    | (.error error, disk) => (.error (.io path error), checkpoint, disk)
    | (.ok id, disk) =>
      match Disk.placeFile path id disk with
      | (.error _, disk) => (.error (.unplaced path), checkpoint, disk)
      | (.ok (), disk) => (.ok (), checkpoint, disk)

end Checkpoint

end PartsList
