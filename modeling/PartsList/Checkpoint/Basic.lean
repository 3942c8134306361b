import PartsList.Path
import PartsList.Timestamp

/-!
# Checkpoints

Which files are done: those that were completed and those that failed, as two sets of paths that are
compared by their components and kept in their order.
-/

namespace PartsList

/-- A set of paths in order.  Of two spellings of one path it keeps the first that was put in. -/
structure PathSet where
  /-- The paths, each later than the one before. -/
  paths : List Path := []
deriving DecidableEq, Repr

namespace PathSet

/-- The path is in the set, whatever its spelling. -/
def contains (set : PathSet) (path : Path) : Bool :=
  set.paths.any path.same

/-- Puts a path into a sorted list, unless it is there. -/
def insertSorted (path : Path) : List Path → List Path
  | [] => [path]
  | first :: rest =>
    match path.order first with
    | .lt => path :: first :: rest
    | .eq => first :: rest
    | .gt => first :: insertSorted path rest

/-- The set with one more path. -/
def insert (set : PathSet) (path : Path) : PathSet :=
  ⟨insertSorted path set.paths⟩

/-- The set without a path, whatever its spelling. -/
def erase (set : PathSet) (path : Path) : PathSet :=
  ⟨set.paths.filter (!path.same ·)⟩

/-- The set of the given paths. -/
def ofList (paths : List Path) : PathSet :=
  paths.foldl insert {}

end PathSet

/-- The files that are done. -/
structure Checkpoint where
  /-- Files that were completed. -/
  completed : PathSet := {}
  /-- Files that failed. -/
  failed : PathSet := {}
  /-- When the checkpoint was last saved. -/
  updatedAt : Option Timestamp := none
deriving DecidableEq, Repr

namespace Checkpoint

/-- Records that a file was completed. -/
def markCompleted (checkpoint : Checkpoint) (path : Path) : Checkpoint :=
  { checkpoint with
    completed := checkpoint.completed.insert path
    failed := checkpoint.failed.erase path }

/-- Records that a file failed. -/
def markFailed (checkpoint : Checkpoint) (path : Path) : Checkpoint :=
  { checkpoint with
    completed := checkpoint.completed.erase path
    failed := checkpoint.failed.insert path }

/-- Records the outcome of a file. -/
def mark (checkpoint : Checkpoint) (path : Path) (success : Bool) : Checkpoint :=
  if success then checkpoint.markCompleted path else checkpoint.markFailed path

/-- The set that holds the files with the given outcome. -/
def side (checkpoint : Checkpoint) (success : Bool) : PathSet :=
  if success then checkpoint.completed else checkpoint.failed

/-- Records the outcome of a file unless it is recorded, and tells whether that changed anything. -/
def settle (checkpoint : Checkpoint) (path : Path) (success : Bool) : Bool × Checkpoint :=
  if (checkpoint.side success).contains path then (false, checkpoint)
  else (true, checkpoint.mark path success)

/-- The file was completed or failed. -/
def isProcessed (checkpoint : Checkpoint) (path : Path) : Bool :=
  checkpoint.completed.contains path || checkpoint.failed.contains path

end Checkpoint

end PartsList
