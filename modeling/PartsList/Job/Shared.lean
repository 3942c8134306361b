import PartsList.Extraction.Document
import PartsList.Job.Routing
import PartsList.Timestamp

/-!
# What threads share

The channels between the threads of a job, the disk, the engine's log and the clocks.
-/

namespace PartsList

/-- What the threads of a job share. -/
structure Shared where
  /-- The tasks that wait for a worker. -/
  tasks : Channel Command
  /-- What workers have told the manager. -/
  events : Channel WorkerEvent
  /-- The writers' inboxes. -/
  inboxes : List Inbox
  /-- The disk. -/
  disk : Disk
  /-- How often the engine was asked for each path. -/
  loads : LoadLog := {}
  /-- Time since the start. -/
  now : Instant := 0
  /-- Time of day. -/
  today : Timestamp
  /-- Memory that the program takes up, when the system tells it, in bytes. -/
  residentBytes : Option Nat := none
  /-- The job is to stop early. -/
  interrupted : Bool := false
  /-- Verdicts on the coming starts of workers, true standing for a refusal. -/
  startRefusals : List Bool := []

/-- A started task may take this much longer than its file may take before the manager gives up on
its worker, in microseconds. -/
def timeoutGrace : Nat := 500000

namespace Shared

/-- Memory that the program takes up, when the system tells it, in mebibytes. -/
def memoryMb (shared : Shared) : Option Float :=
  shared.residentBytes.map fun bytes => bytes.toFloat / 1048576

/-- The shared state after a delivery, and the sender's spill file. -/
def afterRouting (shared : Shared) (routed : Routed) : Shared :=
  { shared with inboxes := routed.inboxes, disk := routed.disk }

/-- The writer of a path's results has no room for one more. -/
def writerIsFull (shared : Shared) (path : Path) : Bool :=
  match inboxOf? shared.inboxes path with
  | some inbox => inbox.isFull
  | none => false

/-- Puts an event into the manager's queue.  Nothing when there is no room; an event that nobody
will receive is dropped. -/
def report? (shared : Shared) (event : WorkerEvent) : Option Shared :=
  if shared.events.receiverGone then some shared
  else do return { shared with events := ← shared.events.send? event }

end Shared

end PartsList
