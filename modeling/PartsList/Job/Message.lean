import PartsList.Result.Line
import PartsList.Number.Word
import PartsList.Supervisor

/-!
# Tasks and messages

What the threads of a job tell each other.  The manager gives tasks to the workers, the workers
report to the manager, and whoever has a result hands it to a writer.
-/

namespace PartsList

/-- Number of a task. -/
abbrev TaskId := Nat

/-- One attempt at a file. -/
structure Task where
  /-- The task's number. -/
  id : TaskId
  /-- The file. -/
  path : Path
  /-- Which attempt at the file this is, from one on. -/
  attempt : Nat := 1
deriving DecidableEq, Repr

namespace Task

/-- The next attempt at the same file. -/
def next (task : Task) (id : TaskId) : Task where
  id := id
  path := task.path
  attempt := task.attempt + 1

/-- The next attempt's number does not fit. -/
def isLast (task : Task) : Bool :=
  decide (attemptLimit ≤ task.attempt + 1)

/-- The next attempt at the same file, when its number fits. -/
def retry (task : Task) (id : TaskId) : Except Overflow Task :=
  if task.isLast then .error .addition else .ok (task.next id)

end Task

/-- How a result gets into the store. -/
inductive Delivery
  /-- A writer took it. -/
  | writer
  /-- It went to a spill file. -/
  | fallback
  /-- Neither took it. -/
  | lost
  /-- The worker kept it back because the file took too long. -/
  | withheld
deriving DecidableEq, Repr

namespace Delivery

/-- The delivery's name. -/
def name : Delivery → String
  | writer => "writer"
  | fallback => "fallback"
  | lost => "lost"
  | withheld => "withheld"

end Delivery

/-- What became of a task. -/
structure Outcome where
  /-- The task. -/
  task : TaskId
  /-- The result of the file. -/
  result : ExtractionResult
  /-- How the result was delivered. -/
  delivery : Delivery

/-- What a manager tells a worker. -/
inductive Command
  /-- Process a file. -/
  | process (task : Task)
  /-- Leave. -/
  | stop
deriving DecidableEq, Repr

/-- What a worker tells the manager. -/
inductive WorkerEvent
  /-- The worker is alive. -/
  | heartbeat (worker : WorkerId) (time : Instant)
  /-- The worker has started with a task. -/
  | started (worker : WorkerId) (task : TaskId) (time : Instant)
  /-- The worker is done with a task. -/
  | finished (worker : WorkerId) (outcome : Outcome)
  /-- The worker has left. -/
  | exited (worker : WorkerId)

/-- What a writer is told. -/
inductive WriterMessage
  /-- Keep a result. -/
  | result (result : ExtractionResult)
  /-- Commit what is left, and leave. -/
  | shutdown

end PartsList
