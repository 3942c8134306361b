import PartsList.Extraction.Pipeline
import PartsList.Job.Shared

/-!
# Workers

A worker takes tasks one after the other.  It announces each task, processes the file, delivers the
result and reports the outcome.  An engine that breaks down costs the file and not the worker.  The
time that a file takes counts from when its task was taken, before the manager has room for the
announcement.  A result that comes too late is not delivered, and the manager decides about the
file.
-/

namespace PartsList

/-- What all workers of a job go by. -/
structure WorkerRules where
  /-- How files are processed. -/
  pipeline : Pipeline
  /-- The engine that reads documents. -/
  engine : Engine
  /-- How long one file may take, in microseconds. -/
  timeout : Nat

/-- What a worker is about to do. -/
inductive WorkerPhase
  /-- Take the next task. -/
  | idle
  /-- Announce a task that was taken at the given time. -/
  | announcing (task : Task) (started : Instant)
  /-- Process the file of such a task. -/
  | processing (task : Task) (started : Instant)
  /-- Deliver the result of such a task. -/
  | delivering (task : Task) (started : Instant) (result : ExtractionResult)
  /-- Report an outcome. -/
  | reporting (outcome : Outcome)
  /-- Announce that it leaves, on its own account or because it broke down. -/
  | leaving (broken : Bool)
  /-- Nothing: it has left. -/
  | gone (broken : Bool)

/-- A worker. -/
structure Worker where
  /-- Its number. -/
  id : WorkerId
  /-- Its spill file. -/
  spill : SpillFile
  /-- What it is about to do. -/
  phase : WorkerPhase := .idle

namespace Worker

/-- A worker that waits for its first task. -/
def start (id : WorkerId) (spillDirectory : Path) : Worker where
  id := id
  spill := .forProducer spillDirectory (.worker id)

/-- A file takes at least this long, in microseconds. -/
def leastElapsed : Nat := 1

/-- The result of a file on which the engine broke down. -/
def breakdown (path : Path) (reason : String) : ExtractionResult :=
  ExtractionResult.failed path .workerError ("worker panicked: " ++ reason) {}

/-- The engine's answer for a path, and the shared state after it. -/
def load (rules : WorkerRules) (path : Path) (shared : Shared) : Load × Shared :=
  let answer := rules.engine path (shared.loads.times path + 1)
  (answer,
    { shared with
      loads := shared.loads.note path
      now := shared.now + answer.elapsed
      interrupted := shared.interrupted || answer.interrupts })

/-- The result of a file; nothing when the engine takes the worker down. -/
def process (rules : WorkerRules) (path : Path) (shared : Shared) :
    Option ExtractionResult × Shared :=
  match rules.pipeline.precheck path (shared.disk.status path) with
  | .error result => (some result, shared)
  | .ok sizeBytes =>
    let (answer, shared) := load rules path shared
    match answer.outcome with
    | .opened document => (some (rules.pipeline.finish path sizeBytes (.ok document)), shared)
    | .failed error => (some (rules.pipeline.finish path sizeBytes (.error error)), shared)
    | .brokeDown reason => (some (breakdown path reason), shared)
    | .crashed => (none, shared)

/-- Whole seconds of a span of time. -/
def seconds (microseconds : Nat) : Nat :=
  microseconds / 1000000

/-- The result of a file that took too long. -/
def overrun (path : Path) (elapsed timeout : Nat) (metrics : Metrics) : ExtractionResult :=
  ExtractionResult.failed path .timeout
    ("processing took " ++ toString (seconds elapsed) ++ "s, limit is " ++
      toString (seconds timeout) ++ "s")
    metrics

/-- The result with the number of its attempt and the figures of its work. -/
def stamp (result : ExtractionResult) (attempt elapsed : Nat) (memoryMb : Option Float) :
    ExtractionResult :=
  { result with
    attempt := attempt
    metrics :=
      { result.metrics with durationMs := elapsed / 1000, memoryPeakMb := memoryMb } }

/-- When the work began whose time a result tells.  Whoever finds something in a file measures the
work on it; of an engine that broke down only the task's time is known. -/
def measuredFrom (result : ExtractionResult) (started begun : Instant) : Instant :=
  if result.errorCode = .workerError then started else begun

/-- What to do now with the result of a task that was taken and whose file was opened at the given
times. -/
def judge (rules : WorkerRules) (task : Task) (started begun now : Instant)
    (memoryMb : Option Float) (result : ExtractionResult) : WorkerPhase :=
  let worked := now - measuredFrom result started begun
  if rules.timeout < now - started then
    .reporting {
      task := task.id
      result :=
        stamp (overrun task.path (now - started) rules.timeout result.metrics) task.attempt worked
          memoryMb
      delivery := .withheld }
  else .delivering task started (stamp result task.attempt worked memoryMb)

/-- Processes the file of a task that was taken at the given time. -/
def work (rules : WorkerRules) (worker : Worker) (task : Task) (started : Instant)
    (shared : Shared) : Worker × Shared :=
  let begun := shared.now
  match process rules task.path shared with
  | (none, shared) => ({ worker with phase := .leaving true }, shared)
  | (some result, shared) =>
    let shared := { shared with now := shared.now + leastElapsed }
    ({ worker with
        phase := judge rules task started begun shared.now shared.memoryMb result }, shared)

/-- The result of a task that was taken at the given time has to be delivered by then: halfway
between the end of the file's time and when the manager gives up on the worker. -/
def deadline (rules : WorkerRules) (started : Instant) : Instant :=
  started + rules.timeout + timeoutGrace / 2

/-- Delivers the result of a task. -/
def deliver (worker : Worker) (task : Task) (result : ExtractionResult) (shared : Shared) :
    Worker × Shared :=
  let routed := route shared.inboxes worker.spill shared.disk result
  ({ worker with
      spill := routed.spill
      phase := .reporting { task := task.id, result := result, delivery := routed.delivery } },
    shared.afterRouting routed)

/-- Takes the next task. -/
def take? (worker : Worker) (shared : Shared) : Option (Worker × Shared) :=
  match shared.tasks.receive? with
  | some (.process task, tasks) =>
    some ({ worker with phase := .announcing task shared.now }, { shared with tasks := tasks })
  | some (.stop, tasks) =>
    some ({ worker with phase := .leaving false }, { shared with tasks := tasks })
  | none =>
    if shared.tasks.senderGone then some ({ worker with phase := .leaving false }, shared) else none

/-- The worker's next step; nothing when it has to wait.  A patient worker waits for a writer that
has no room, as long as the result can still be delivered in time; one that is not patient has
waited for as long as it may wait for a writer. -/
def step? (rules : WorkerRules) (patient : Bool) (worker : Worker) (shared : Shared) :
    Option (Worker × Shared) :=
  match worker.phase with
  | .idle => worker.take? shared
  | .announcing task started => do
    let shared ← shared.report? (.started worker.id task.id started)
    return ({ worker with phase := .processing task started }, shared)
  | .processing task started => some (worker.work rules task started shared)
  | .delivering task started result =>
    if patient && shared.writerIsFull result.filePath &&
      decide (shared.now < deadline rules started)
    then none
    else some (worker.deliver task result shared)
  | .reporting outcome => do
    return ({ worker with phase := .idle }, ← shared.report? (.finished worker.id outcome))
  | .leaving broken => do
    return ({ worker with phase := .gone broken }, ← shared.report? (.exited worker.id))
  | .gone _ => none

/-- Lets a worker run on its own until it has to wait or has left; `fuel` bounds its steps.  It
waits for no writer. -/
def run (rules : WorkerRules) : (fuel : Nat) → Worker → Shared → Worker × Shared
  | 0, worker, shared => (worker, shared)
  | fuel + 1, worker, shared =>
    match worker.step? rules false shared with
    | none => (worker, shared)
    | some (worker, shared) => run rules fuel worker shared

/-- Steps a worker needs for so many tasks: five for each, two to leave. -/
def stepsFor (tasks : Nat) : Nat :=
  5 * tasks + 2

/-- Lets a worker run on its own through all tasks that wait. -/
def runAll (rules : WorkerRules) (worker : Worker) (shared : Shared) : Worker × Shared :=
  worker.run rules (stepsFor shared.tasks.waiting.length) shared

end Worker

end PartsList
