import PartsList.Job.Channel
import PartsList.Job.Message
import PartsList.Sha256
import PartsList.Spill

/-!
# Routing

Which writer a result goes to, and what happens when that writer does not take it.  All results of
a path go to the same writer.
-/

namespace PartsList

/-- The inbox of a writer. -/
abbrev Inbox := Channel WriterMessage

/-- Bytes that a waiting message takes. -/
def messageBytes : Nat := 16

/-- An inbox for so many waiting messages. -/
def makeInbox (capacity : Nat) : Except Overflow Inbox :=
  Channel.make messageBytes capacity

/-- The writer, among so many, that keeps the results of a path. -/
def shardOf (path : Path) (shards : Nat) : Nat :=
  if shards ≤ 1 then 0 else Sha256.leading (Disk.bytesOf path.spelling) % shards

/-- The inbox that a path's results go to. -/
def inboxOf? (inboxes : List Inbox) (path : Path) : Option Inbox :=
  inboxes[shardOf path inboxes.length]?

/-- The inboxes after a result was put into that of its writer, if that takes it. -/
def post? (inboxes : List Inbox) (result : ExtractionResult) : Option (List Inbox) := do
  let inbox ← inboxOf? inboxes result.filePath
  let inbox ← inbox.send? (.result result)
  return inboxes.set (shardOf result.filePath inboxes.length) inbox

/-- What a delivery leaves behind. -/
structure Routed where
  /-- Where the result went. -/
  delivery : Delivery
  /-- The inboxes. -/
  inboxes : List Inbox
  /-- The sender's spill file. -/
  spill : SpillFile
  /-- The disk. -/
  disk : Disk

/-- Delivers a result to its writer, or to the sender's spill file when the writer does not take
it. -/
def route (inboxes : List Inbox) (spill : SpillFile) (disk : Disk) (result : ExtractionResult) :
    Routed :=
  match post? inboxes result with
  | some inboxes => ⟨.writer, inboxes, spill, disk⟩
  | none =>
    match spill.persist result disk with
    | (.ok (), spill, disk) => ⟨.fallback, inboxes, spill, disk⟩
    | (.error _, spill, disk) => ⟨.lost, inboxes, spill, disk⟩

end PartsList
