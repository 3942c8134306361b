import PartsList.Checkpoint.Basic
import PartsList.Store.Database

/-!
# Agreement with the store

A file that the checkpoint records gets the outcome that the store has for it.  Files that only one
of them knows stay as they are.
-/

namespace PartsList

namespace Checkpoint

/-- Gives a file the outcome of its summary if the checkpoint records it, and tells whether that
changed anything. -/
def correct (checkpoint : Checkpoint) (summary : FileSummary) : Bool × Checkpoint :=
  if checkpoint.isProcessed summary.filePath then
    checkpoint.settle summary.filePath summary.success
  else (false, checkpoint)

/-- Gives all recorded files the outcomes of their summaries, and counts the changes. -/
def align : List FileSummary → Checkpoint → Nat × Checkpoint
  | [], checkpoint => (0, checkpoint)
  | summary :: summaries, checkpoint =>
    let (changed, checkpoint) := checkpoint.correct summary
    let (count, checkpoint) := align summaries checkpoint
    (count + changed.toNat, checkpoint)

end Checkpoint

end PartsList
