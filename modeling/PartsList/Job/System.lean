import PartsList.Job.Manager
import PartsList.Job.Worker

/-!
# Threads

The manager, the workers and the writers of a job side by side.  They take steps in any order: a
move says who takes the next step, and a course is a list of moves.  A move that its thread cannot
make changes nothing.
-/

namespace PartsList

/-- The threads of a job and what they share. -/
structure System where
  /-- What the workers go by. -/
  rules : WorkerRules
  /-- What the threads share. -/
  shared : Shared
  /-- The manager. -/
  manager : Manager
  /-- The workers, also those that have left. -/
  workers : List Worker := []
  /-- The writers. -/
  writers : List Writer

/-- Who takes the next step, and which one. -/
inductive Move
  /-- The manager does something. -/
  | manager (action : Manager.Action)
  /-- A worker goes on; a patient one waits for a writer without room. -/
  | worker (id : WorkerId) (patient : Bool)
  /-- A worker gives a sign of life. -/
  | beat (id : WorkerId)
  /-- A writer handles the next message. -/
  | writer (id : Nat)
  /-- A writer has held its batch for long enough. -/
  | flush (id : Nat)
  /-- Time passes, in microseconds. -/
  | pass (microseconds : Nat)
  /-- The program comes to take up so much memory, in bytes, or the system no longer tells it. -/
  | measure (residentBytes : Option Nat)
  /-- The job is told to stop early. -/
  | interrupt
deriving DecidableEq, Repr

namespace System

/-- What the writers that have left did. -/
def finishedStats (system : System) : List WriterStats :=
  (system.writers.filter (·.finished)).map (·.stats)

/-- The new workers when the manager has started some. -/
def hired (before after : Manager) : List Worker :=
  (List.range' before.nextWorker (after.nextWorker - before.nextWorker)).map fun id =>
    Worker.start id before.settings.fallbackDir

/-- The manager's step. -/
def moveManager? (system : System) (action : Manager.Action) : Option System := do
  let (manager, shared) ← system.manager.step? system.shared system.finishedStats action
  return { system with
    manager := manager
    shared := shared
    workers := system.workers ++ hired system.manager manager }

/-- The system with another state of a worker. -/
def putWorker (system : System) (worker : Worker) : System :=
  { system with
    workers := system.workers.map fun other => if other.id == worker.id then worker else other }

/-- A worker's step. -/
def moveWorker? (system : System) (id : WorkerId) (patient : Bool) : Option System := do
  let worker ← system.workers.find? (·.id == id)
  let (worker, shared) ← worker.step? system.rules patient system.shared
  return { system.putWorker worker with shared := shared }

/-- A worker's sign of life, which is skipped when the manager's queue has no room. -/
def beat? (system : System) (id : WorkerId) : Option System := do
  let worker ← system.workers.find? (·.id == id)
  match worker.phase with
  | .gone _ => none
  | _ =>
    let shared ← system.shared.report? (.heartbeat id system.shared.now)
    return { system with shared := shared }

/-- The system with another state of a writer; the inbox of one that has left is closed. -/
def putWriter (system : System) (writer : Writer) (inbox : Inbox) (disk : Disk) : System :=
  { system with
    writers := system.writers.set writer.id writer
    shared :=
      { system.shared with
        disk := disk
        inboxes :=
          system.shared.inboxes.set writer.id
            { inbox with receiverGone := inbox.receiverGone || writer.finished } } }

/-- A writer's step: it handles a message, or leaves when no more can come. -/
def moveWriter? (system : System) (id : Nat) : Option System := do
  let writer ← system.writers[id]?
  let inbox ← system.shared.inboxes[id]?
  if writer.finished then none
  else
    match inbox.receive? with
    | some (message, inbox) =>
      let (writer, disk) := writer.accept system.shared.disk message
      return system.putWriter writer inbox disk
    | none =>
      if inbox.senderGone then
        let (writer, disk) := writer.leave system.shared.disk
        return system.putWriter writer inbox disk
      else none

/-- A writer commits what it holds because it has held it for long enough. -/
def flushWriter? (system : System) (id : Nat) : Option System := do
  let writer ← system.writers[id]?
  let inbox ← system.shared.inboxes[id]?
  if writer.finished then none
  else
    let (writer, disk) := writer.flush system.shared.disk
    return system.putWriter writer inbox disk

/-- The system after a move; nothing when the move's thread has to wait. -/
def move? (system : System) : Move → Option System
  | .manager action => system.moveManager? action
  | .worker id patient => system.moveWorker? id patient
  | .beat id => system.beat? id
  | .writer id => system.moveWriter? id
  | .flush id => system.flushWriter? id
  | .pass microseconds =>
    some { system with
      shared := { system.shared with now := system.shared.now + microseconds } }
  | .measure residentBytes =>
    some { system with shared := { system.shared with residentBytes := residentBytes } }
  | .interrupt => some { system with shared := { system.shared with interrupted := true } }

/-- The system after a move, which changes nothing when its thread has to wait. -/
def step (system : System) (move : Move) : System :=
  (system.move? move).getD system

/-- The system after a course. -/
def run (system : System) (moves : List Move) : System :=
  moves.foldl step system

/-- All threads are done or were given up on. -/
def isFinished (system : System) : Bool :=
  system.manager.phase == .finished

/-! ## A patient course -/

/-- The moves that are tried one after the other when nobody loses patience: first those of the
writers, then those of the manager, then those of the workers. -/
def usualMoves (system : System) : List Move :=
  (List.range system.writers.length).map Move.writer ++
    Manager.Action.usual.map Move.manager ++
    system.workers.map fun worker => Move.worker worker.id true

/-- The first usual move that can be made, and the system after it. -/
def next? (system : System) : Option (Move × System) :=
  system.usualMoves.findSome? fun move => (system.move? move).map ((move, ·))

/-- Runs the threads with patience until they are done or all wait; `fuel` bounds the steps. -/
def settle : (fuel : Nat) → System → System
  | 0, system => system
  | fuel + 1, system =>
    if system.isFinished then system
    else
      match system.next? with
      | none => system
      | some (_, system) => settle fuel system

/-- The most attempts that the tasks of a job can need. -/
def mostAttempts (system : System) : Nat :=
  (system.manager.pending.length + system.manager.inFlight.length) *
    (system.manager.settings.retry.maxRetries + 1)

/-- More steps than a patient course has. -/
def patience (system : System) : Nat :=
  32 * (system.mostAttempts + system.workers.length + system.writers.length + 4)

/-- Runs the threads with patience until they are done. -/
def complete (system : System) : System :=
  system.settle system.patience

end System

end PartsList
