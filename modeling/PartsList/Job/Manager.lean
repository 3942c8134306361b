import PartsList.Checkpoint.File
import PartsList.Job.Report
import PartsList.Job.Shared

/-!
# The manager

The manager gives the tasks of a job to the workers and accounts for their outcomes.  Each file is
in one place at a time: it waits, it is with the workers, or its final outcome is recorded.  The
manager replaces workers that leave early, gives up on files that take too long, retries files that
failed because of the machine, and keeps the checkpoint.
-/

namespace PartsList

/-- A task that was given to the workers. -/
structure InFlight where
  /-- The task. -/
  task : Task
  /-- The worker that has started with it. -/
  worker : Option WorkerId := none
  /-- When it was started with. -/
  startedAt : Option Instant := none
deriving DecidableEq, Repr

/-- What the manager knows of a worker. -/
structure WorkerSlot where
  /-- The worker. -/
  worker : WorkerId
  /-- The task it is known to be at. -/
  current : Option TaskId := none
  /-- The manager has given up on it and replaced it. -/
  abandoned : Bool := false
deriving DecidableEq, Repr

/-- An outcome that the manager recorded. -/
structure Recorded where
  /-- The task. -/
  task : Task
  /-- What became of it. -/
  outcome : Outcome
  /-- It is the last word on the file; else another attempt was queued. -/
  final : Bool

/-- An attempt at saving the checkpoint. -/
structure SaveAttempt where
  /-- The checkpoint. -/
  checkpoint : Checkpoint
  /-- The outcomes that were recorded by then, the latest first. -/
  recorded : List Recorded
  /-- The answer. -/
  answer : Except CheckpointError Unit
  /-- The disk that it left. -/
  disk : Disk

/-- What the manager is about to do. -/
inductive ManagerPhase
  /-- Give tasks to workers and take their events. -/
  | dispatching
  /-- Send this many more orders to leave. -/
  | stopping (left : Nat)
  /-- Wait for the workers to leave. -/
  | collecting
  /-- Ask the writers to leave, from this one on. -/
  | closing (next : Nat)
  /-- Wait for the writers to leave. -/
  | awaiting
  /-- Nothing: all have left or were given up on. -/
  | finished
deriving DecidableEq, Repr

/-- The manager of a job. -/
structure Manager where
  /-- The choices for the job. -/
  settings : Settings
  /-- What it is about to do. -/
  phase : ManagerPhase := .dispatching
  /-- Tasks that wait to be given to a worker, the next one first. -/
  pending : List Task
  /-- Tasks that were given to the workers. -/
  inFlight : List InFlight := []
  /-- The workers that have not left. -/
  workers : List WorkerSlot := []
  /-- Number of the next worker. -/
  nextWorker : WorkerId := 0
  /-- Number of the next task. -/
  nextTask : TaskId
  /-- Supervision of the workers. -/
  supervisor : Supervisor
  /-- The manager's spill file. -/
  spill : SpillFile
  /-- The files that are done. -/
  checkpoint : Checkpoint
  /-- Final outcomes since the checkpoint was last saved. -/
  sinceSave : Nat := 0
  /-- All tasks were given to workers at least once. -/
  draining : Bool := false
  /-- Workers are no longer replaced. -/
  stopping : Bool := false
  /-- The figures of the job. -/
  report : Report
  /-- The outcomes that were recorded, the latest first. -/
  history : List Recorded := []
  /-- The attempts at saving the checkpoint, the latest first. -/
  saves : List SaveAttempt := []
  /-- The number of an attempt did not fit. -/
  fault : Option Overflow := none

namespace Manager

/-- The checkpoint is saved after this many final outcomes. -/
def checkpointEvery : Nat := 50

/-- How long one file may take, in microseconds. -/
def timeout (manager : Manager) : Nat :=
  manager.settings.perFileTimeoutSecs * 1000000

/-- Some file has no final outcome. -/
def hasWork (manager : Manager) : Bool :=
  !manager.pending.isEmpty || !manager.inFlight.isEmpty

/-- The entry of a task that was given to the workers. -/
def flight? (manager : Manager) (task : TaskId) : Option InFlight :=
  manager.inFlight.find? (·.task.id == task)

/-- Takes a task back from the workers. -/
def land (manager : Manager) (task : TaskId) : Manager :=
  { manager with inFlight := manager.inFlight.filter (·.task.id != task) }

/-- What is known of a worker. -/
def slot? (manager : Manager) (worker : WorkerId) : Option WorkerSlot :=
  manager.workers.find? (·.worker == worker)

/-- Changes what is known of a worker. -/
def changeSlot (manager : Manager) (worker : WorkerId) (change : WorkerSlot → WorkerSlot) :
    Manager :=
  { manager with
    workers := manager.workers.map fun slot => if slot.worker == worker then change slot else slot }

/-- Notes a sign of life. -/
def hear (manager : Manager) (worker : WorkerId) (time : Instant) : Manager :=
  { manager with supervisor := (manager.supervisor.heartbeat worker time).2 }

/-! ## Workers -/

/-- Starts a worker, if the system allows it. -/
def spawn (manager : Manager) (shared : Shared) : Manager × Shared :=
  let rest := { shared with startRefusals := shared.startRefusals.tail }
  if shared.startRefusals.head? = some true then (manager, rest)
  else
    ({ manager with
        nextWorker := manager.nextWorker + 1
        workers := manager.workers ++ [{ worker := manager.nextWorker }]
        supervisor := manager.supervisor.register manager.nextWorker shared.now
        report := { manager.report with workersSpawned := manager.report.workersSpawned + 1 } },
      rest)

/-- Starts so many workers. -/
def spawnAll : (count : Nat) → Manager → Shared → Manager × Shared
  | 0, manager, shared => (manager, shared)
  | count + 1, manager, shared =>
    let (manager, shared) := manager.spawn shared
    spawnAll count manager shared

/-- Starts a worker in the place of another, unless the job is ending. -/
def replace (manager : Manager) (shared : Shared) : Manager × Shared :=
  if manager.stopping then (manager, shared) else manager.spawn shared

/-! ## Outcomes -/

/-- The task gets another attempt after a failure with the given code. -/
def earnsRetry (manager : Manager) (task : Task) (code : ErrorCode) : Bool :=
  manager.settings.retry.enabled && code.isRetryable &&
    decide (task.attempt ≤ manager.settings.retry.maxRetries)

/-- Queues the next attempt at a file. -/
def requeue (manager : Manager) (task : Task) : Manager :=
  { manager with
    pending := manager.pending ++ [task.next manager.nextTask]
    nextTask := manager.nextTask + 1
    report := { manager.report with retried := manager.report.retried + 1 }
    fault := if task.isLast then some .addition else manager.fault }

/-- Saves the checkpoint.  A failure to do so is passed over. -/
def save (manager : Manager) (shared : Shared) : Manager × Shared :=
  let saved := manager.checkpoint.save manager.settings.checkpointPath shared.today shared.disk
  ({ manager with
      checkpoint := saved.2.1
      saves := ⟨saved.2.1, manager.history, saved.1, saved.2.2⟩ :: manager.saves },
    { shared with disk := saved.2.2 })

/-- Saves the checkpoint when that is due. -/
def saveIfDue (manager : Manager) (shared : Shared) : Manager × Shared :=
  if checkpointEvery ≤ manager.sinceSave then { manager with sinceSave := 0 }.save shared
  else (manager, shared)

/-- Makes an outcome the last word on its file. -/
def settle (manager : Manager) (task : Task) (outcome : Outcome) : Manager :=
  { manager with
    report := manager.report.countFinal outcome.result
    checkpoint := manager.checkpoint.mark task.path outcome.result.success
    sinceSave := manager.sinceSave + 1 }

/-- Accounts for an outcome: the file gets another attempt, or the outcome is its last word. -/
def record (manager : Manager) (shared : Shared) (task : Task) (outcome : Outcome) :
    Manager × Shared :=
  let code := outcome.result.errorCode
  let again := !outcome.result.success && manager.earnsRetry task code
  let manager :=
    { manager with
      report := (manager.report.countDelivery outcome.delivery).countFailure code
      history := ⟨task, outcome, !again⟩ :: manager.history }
  if again then (manager.requeue task, shared)
  else (manager.settle task outcome).saveIfDue shared

/-- Delivers a result of the manager's own and accounts for it. -/
def conclude (manager : Manager) (shared : Shared) (task : Task) (result : ExtractionResult) :
    Manager × Shared :=
  let result := result.withAttempt task.attempt
  let routed := route shared.inboxes manager.spill shared.disk result
  let outcome := { task := task.id, result := result, delivery := routed.delivery : Outcome }
  { manager with spill := routed.spill }.record (shared.afterRouting routed) task outcome

/-- The result of a file that the manager gives up on. -/
def timeoutResult (manager : Manager) (entry : InFlight) (now : Instant) : ExtractionResult :=
  ExtractionResult.failed entry.task.path .timeout
    ("exceeded the " ++ toString manager.settings.perFileTimeoutSecs ++ "s per-file timeout")
    { durationMs := (entry.startedAt.elim 0 (now - ·)) / 1000 }

/-- Gives up on a file that took too long. -/
def concludeTimeout (manager : Manager) (shared : Shared) (entry : InFlight) : Manager × Shared :=
  manager.conclude shared entry.task (manager.timeoutResult entry shared.now)

/-- The result of a file whose worker left in the middle of it. -/
def orphanResult (path : Path) : ExtractionResult :=
  ExtractionResult.failed path .workerError "worker exited before reporting an outcome" {}

/-! ## Events -/

/-- A worker has started with a task. -/
def onStarted (manager : Manager) (worker : WorkerId) (task : TaskId) (time : Instant) : Manager :=
  let manager := (manager.hear worker time).changeSlot worker ({ · with current := some task })
  { manager with
    inFlight := manager.inFlight.map fun entry =>
      if entry.task.id == task then { entry with worker := some worker, startedAt := some time }
      else entry }

/-- A worker is done with a task. -/
def onFinished (manager : Manager) (shared : Shared) (worker : WorkerId) (outcome : Outcome) :
    Manager × Shared :=
  let manager :=
    (manager.hear worker shared.now).changeSlot worker fun slot =>
      if slot.current = some outcome.task then { slot with current := none } else slot
  match manager.flight? outcome.task with
  | none => (manager, shared)
  | some entry =>
    let manager := manager.land outcome.task
    if outcome.delivery = .withheld then manager.concludeTimeout shared entry
    else manager.record shared entry.task outcome

/-- Accounts for the task that a worker was at when it left. -/
def concludeOrphan (manager : Manager) (shared : Shared) (slot : WorkerSlot) : Manager × Shared :=
  match slot.current.bind manager.flight? with
  | none => (manager, shared)
  | some entry =>
    (manager.land entry.task.id).conclude shared entry.task (orphanResult entry.task.path)

/-- A worker has left. -/
def onExited (manager : Manager) (shared : Shared) (worker : WorkerId) : Manager × Shared :=
  match manager.slot? worker with
  | none => (manager, shared)
  | some slot =>
    let manager :=
      { manager with
        workers := manager.workers.filter (·.worker != worker)
        supervisor := manager.supervisor.remove worker }
    let (manager, shared) := manager.concludeOrphan shared slot
    if !slot.abandoned && manager.hasWork then manager.replace shared else (manager, shared)

/-- Handles an event. -/
def onEvent (manager : Manager) (shared : Shared) : WorkerEvent → Manager × Shared
  | .heartbeat worker time => (manager.hear worker time, shared)
  | .started worker task time => (manager.onStarted worker task time, shared)
  | .finished worker outcome => manager.onFinished shared worker outcome
  | .exited worker => manager.onExited shared worker

/-- Takes the next event. -/
def receive? (manager : Manager) (shared : Shared) : Option (Manager × Shared) := do
  let (event, events) ← shared.events.receive?
  return manager.onEvent { shared with events := events } event

/-! ## Dispatching -/

/-- Puts the next task into the workers' queue. -/
def feed? (manager : Manager) (shared : Shared) : Option (Manager × Shared) :=
  match manager.pending with
  | [] => none
  | task :: rest => do
    let tasks ← shared.tasks.send? (.process task)
    return (
      { manager with
        pending := rest
        inFlight := manager.inFlight ++ [{ task := task }]
        report := { manager.report with dispatched := manager.report.dispatched + 1 } },
      { shared with tasks := tasks })

/-- Takes so many events that wait. -/
def receiveMany : (count : Nat) → Manager → Shared → Manager × Shared
  | 0, manager, shared => (manager, shared)
  | count + 1, manager, shared =>
    match manager.receive? shared with
    | none => (manager, shared)
    | some (manager, shared) => receiveMany count manager shared

/-- The task took so long that its worker is given up on. -/
def isExpired (manager : Manager) (now : Instant) (entry : InFlight) : Bool :=
  match entry.startedAt with
  | some time => decide (manager.timeout + timeoutGrace < now - time)
  | none => false

/-- Gives up on a task and on its worker. -/
def expire (state : Manager × Shared) (task : TaskId) : Manager × Shared :=
  let (manager, shared) := state
  match manager.flight? task with
  | none => (manager, shared)
  | some entry =>
    let manager :=
      match entry.worker with
      | some worker => manager.changeSlot worker ({ · with abandoned := true, current := none })
      | none => manager
    let (manager, shared) := (manager.land task).concludeTimeout shared entry
    manager.replace shared

/-- Takes the events that wait, reports stalls and gives up on tasks that take too long. -/
def inspect (manager : Manager) (shared : Shared) : Manager × Shared :=
  let (manager, shared) := receiveMany shared.events.waiting.length manager shared
  let manager := { manager with supervisor := (manager.supervisor.check shared.now).2 }
  let expired := (manager.inFlight.filter (manager.isExpired shared.now)).map (·.task.id)
  expired.foldl expire (manager, shared)

/-- The tasks among commands. -/
def tasksOf (commands : List Command) : List Task :=
  commands.filterMap fun command =>
    match command with
    | .process task => some task
    | .stop => none

/-- Takes back the tasks that no worker has taken, and turns to the workers' end. -/
def beginShutdown (manager : Manager) (shared : Shared) : Manager × Shared :=
  let back := tasksOf shared.tasks.waiting
  ({ manager with
      phase := .stopping manager.workers.length
      stopping := true
      pending := manager.pending ++ back
      inFlight := manager.inFlight.filter fun entry => !back.any (·.id == entry.task.id)
      report := manager.report.enter .shuttingDown },
    { shared with tasks := { shared.tasks with waiting := [] } })

/-- Enters the part of the course in which nothing waits. -/
def beginDraining (manager : Manager) : Manager :=
  if manager.pending.isEmpty && !manager.draining then
    { manager with draining := true, report := manager.report.enter .draining }
  else manager

/-- Looks whether there is anything left to do, and turns to the end if there is not. -/
def turn (manager : Manager) (shared : Shared) : Manager × Shared :=
  if shared.interrupted then
    { manager with report := { manager.report with interrupted := true } }.beginShutdown shared
  else
    let manager := manager.beginDraining
    if !manager.hasWork || manager.workers.isEmpty then manager.beginShutdown shared
    else (manager, shared)

/-! ## The end -/

/-- Gives up on the workers that have not left, and counts what is left to do.  From then on the
manager gives no tasks and takes no events. -/
def endWorkers (manager : Manager) (shared : Shared) : Manager × Shared :=
  ({ manager with
      phase := .closing 0
      workers := []
      report :=
        { manager.report with
          forceTerminated := manager.report.forceTerminated + manager.workers.length
          notStarted := manager.pending.length
          unfinished := manager.inFlight.length
          stallEvents := manager.supervisor.stallEvents } },
    { shared with
      tasks := { shared.tasks with senderGone := true }
      events := { shared.events with receiverGone := true } })

/-- Sends an order to leave to the workers; nothing when the queue has no room. -/
def sendStop? (shared : Shared) : Option Shared := do
  return { shared with tasks := ← shared.tasks.send? .stop }

/-- What the manager can do next. -/
inductive Action
  /-- Put a task into the workers' queue. -/
  | feed
  /-- Take an event. -/
  | receive
  /-- Look after stalls and expired tasks. -/
  | inspect
  /-- Look whether anything is left to do. -/
  | look
  /-- Go on with the end. -/
  | proceed
  /-- Lose patience with the end. -/
  | giveUp
deriving DecidableEq, Repr

/-- The actions that a manager tries one after the other when it has patience. -/
def Action.usual : List Action :=
  [.feed, .receive, .look, .proceed]

/-- An action while the job runs.  The manager first looks whether anything is left to do. -/
def dispatch? (manager : Manager) (shared : Shared) (action : Action) : Option (Manager × Shared) :=
  let (turned, sharedAfter) := manager.turn shared
  if turned.phase ≠ .dispatching then some (turned, sharedAfter)
  else
    match action with
    | .feed => turned.feed? sharedAfter
    | .receive => turned.receive? sharedAfter
    | .inspect => some (turned.inspect sharedAfter)
    | .look => if turned.draining = manager.draining then none else some (turned, sharedAfter)
    | .proceed | .giveUp => none

/-- An action while orders to leave are sent to the workers. -/
def stop? (manager : Manager) (shared : Shared) (left : Nat) (action : Action) :
    Option (Manager × Shared) :=
  match left, action with
  | 0, .proceed => some ({ manager with phase := .collecting }, shared)
  | left + 1, .proceed => do
    return ({ manager with phase := .stopping left }, ← sendStop? shared)
  | _, .giveUp => some ({ manager with phase := .collecting }, shared)
  | _, _ => none

/-- An action while the workers leave. -/
def collect? (manager : Manager) (shared : Shared) (action : Action) : Option (Manager × Shared) :=
  match action with
  | .receive => if manager.workers.isEmpty then none else manager.receive? shared
  | .proceed => if manager.workers.isEmpty then some (manager.endWorkers shared) else none
  | .giveUp => some (manager.endWorkers shared)
  | _ => none

/-- An action while the writers are asked to leave. -/
def close? (manager : Manager) (shared : Shared) (next : Nat) (action : Action) :
    Option (Manager × Shared) :=
  match shared.inboxes[next]? with
  | none => some ({ manager with phase := .awaiting }, shared)
  | some inbox =>
    let skip := some ({ manager with phase := .closing (next + 1) }, shared)
    match action with
    | .proceed =>
      if inbox.receiverGone then skip
      else do
        let inbox ← inbox.send? .shutdown
        return ({ manager with phase := .closing (next + 1) },
          { shared with inboxes := shared.inboxes.set next inbox })
    | .giveUp => skip
    | _ => none

/-- Counts the writers that have left, each with what it did, and saves the checkpoint. -/
def endWriters (manager : Manager) (shared : Shared) (stats : List WriterStats) :
    Manager × Shared :=
  let missing := shared.inboxes.length - stats.length
  let report :=
    { manager.report with
      forceTerminated := manager.report.forceTerminated + missing
      writerStats := stats }
  let manager := { manager with phase := .finished, report := report }
  manager.save { shared with inboxes := shared.inboxes.map ({ · with senderGone := true }) }

/-- An action while the writers leave, of whom those with the given figures have left. -/
def await? (manager : Manager) (shared : Shared) (stats : List WriterStats) (action : Action) :
    Option (Manager × Shared) :=
  match action with
  | .proceed =>
    if stats.length < shared.inboxes.length then none else some (manager.endWriters shared stats)
  | .giveUp => some (manager.endWriters shared stats)
  | _ => none

/-- The manager after an action, when the writers that have left have the given figures; nothing
when the action has to wait. -/
def step? (manager : Manager) (shared : Shared) (stats : List WriterStats) (action : Action) :
    Option (Manager × Shared) :=
  if manager.fault.isSome then none
  else
    match manager.phase with
    | .dispatching => manager.dispatch? shared action
    | .stopping left => manager.stop? shared left action
    | .collecting => manager.collect? shared action
    | .closing next => manager.close? shared next action
    | .awaiting => manager.await? shared stats action
    | .finished => none

end Manager

end PartsList
