import PartsList.Checkpoint.File
import PartsList.Proofs.Disk.Replacing

/-!
# How saves end

A save makes the directories that are missing, writes a new file to which no path leads yet and puts
that in its place.  It can fail at each of these steps, and the file of the checkpoint is replaced
by the last of them only.
-/

namespace PartsList.Checkpoint

open Disk

variable {path : Path} {bytes : List UInt8} {disk : Disk}

/-- When a checkpoint was last saved makes no difference to a save. -/
theorem save_updatedAt (checkpoint : Checkpoint) (time : Option Timestamp) (path : Path)
    (now : Timestamp) (disk : Disk) :
    { checkpoint with updatedAt := time : Checkpoint }.save path now disk =
      checkpoint.save path now disk := by
  unfold save
  rfl

/-- Saving a checkpoint leaves nothing but the time in it. -/
theorem checkpoint_save (checkpoint : Checkpoint) (path : Path) (now : Timestamp) (disk : Disk) :
    (checkpoint.save path now disk).2.1 = { checkpoint with updatedAt := some now } := by
  unfold save
  dsimp only
  split
  · rfl
  · split
    · rfl
    · split <;> rfl

/-- How a save of the given bytes can end: its answer, and the disk it leaves. -/
inductive SaveEnds (path : Path) (bytes : List UInt8) (disk : Disk) :
    Except CheckpointError Unit → Disk → Prop
  /-- The directories cannot be made. -/
  | barred {error : OsError} {after : Disk}
      (made : makeDirectories (directoryOf path) disk = (.error error, after)) :
      SaveEnds path bytes disk (.error (.io path error)) after
  /-- The new file cannot be written. -/
  | unwritten {opened after : Disk} {error : OsError}
      (made : makeDirectories (directoryOf path) disk = (.ok (), opened))
      (drafts : opened.Drafts bytes (.error error) after) :
      SaveEnds path bytes disk (.error (.io path error)) after
  /-- The new file cannot be put in its place. -/
  | unplaced {opened written : Disk} {id : FileId}
      (made : makeDirectories (directoryOf path) disk = (.ok (), opened))
      (drafts : opened.Drafts bytes (.ok id) written) :
      SaveEnds path bytes disk (.error (.unplaced path)) written.judged
  /-- The new file is in its place. -/
  | placed {opened written : Disk} {id : FileId} {place : Place}
      (made : makeDirectories (directoryOf path) disk = (.ok (), opened))
      (drafts : opened.Drafts bytes (.ok id) written)
      (found : written.resolve .kept path = .ok place) (solid : place.entry ≠ some .directory)
      (bare : place.slash = false) :
      SaveEnds path bytes disk (.ok ()) (written.judged.putEntry place.location (.file id))

/-- The bytes that a save under the given time writes. -/
def savedBytes (checkpoint : Checkpoint) (now : Timestamp) : List UInt8 :=
  bytesOf { checkpoint with updatedAt := some now : Checkpoint }.fileText

theorem saveEnds_save (checkpoint : Checkpoint) (path : Path) (now : Timestamp) (disk : Disk) :
    SaveEnds path (checkpoint.savedBytes now) disk (checkpoint.save path now disk).1
      (checkpoint.save path now disk).2.2 := by
  unfold save
  dsimp only
  rcases made : makeDirectories (directoryOf path) disk with ⟨error | _, opened⟩
  · exact .barred made
  · dsimp only
    have drafts := drafts_writeNameless (directoryOf path) (checkpoint.savedBytes now) opened
    unfold savedBytes at drafts ⊢
    rcases wrote : writeNameless (directoryOf path)
        (bytesOf { checkpoint with updatedAt := some now : Checkpoint }.fileText) opened with
      ⟨error | id, written⟩
    · rw [wrote] at drafts
      exact .unwritten made drafts
    · rw [wrote] at drafts
      rcases placeFile_cases path id written with
        ⟨error, refused⟩ | ⟨place, found, solid, bare, placed⟩
      · dsimp only
        rw [refused]
        exact .unplaced made drafts
      · dsimp only
        rw [placed]
        exact .placed made drafts found solid bare

end PartsList.Checkpoint
