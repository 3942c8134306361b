import PartsList.Checkpoint.Alignment
import PartsList.Export
import PartsList.Job.System
import PartsList.Selection

/-!
# Jobs

One job from end to end: the settings are checked, the database and the checkpoint are opened, files
are found and selected, the threads do their work, spill files are replayed, the checkpoint is made
to agree with the store, and the store is exported.  What is wrong with a file is told in the
report; only what keeps the job itself from going on is an error.
-/

namespace PartsList

/-- What keeps a job from going on. -/
inductive JobError
  /-- A setting makes no sense. -/
  | config (error : SettingError)
  /-- The database does not answer. -/
  | database (error : DatabaseError)
  /-- The checkpoint cannot be read. -/
  | checkpoint (error : CheckpointError)
  /-- Spill files cannot be replayed. -/
  | spill (error : SpillError)
  /-- The engine is missing. -/
  | engine (error : EngineError)
  /-- The input directory is missing. -/
  | inputNotFound (path : Path)
  /-- An export cannot be opened. -/
  | output (path : Path) (error : OsError)
  /-- The system refuses. -/
  | io (error : OsError)
  /-- A number does not fit. -/
  | overflow (kind : Overflow)
deriving DecidableEq, Repr

namespace JobError

/-- The error in words. -/
def message : JobError → String
  | config error => "Configuration error: " ++ error.message
  | database error => "Database error: " ++ error.message
  | checkpoint error => "Checkpoint error: " ++ error.message
  | spill error => "Fallback error: " ++ error.message
  | engine error => "Document engine error: " ++ error.message
  | inputNotFound path => "Input directory not found: " ++ path.spelling
  | output path error => "Cannot write " ++ path.spelling ++ ": " ++ error.message
  | io error => "I/O error: " ++ error.message
  | overflow kind => kind.message

/-- The error of writers that do not start. -/
def ofStart : Writers.StartError → JobError
  | .database error => .database error
  | .overflow kind => .overflow kind

/-- The error of a refused export. -/
def ofExport : ExportError → JobError
  | .directory error => .io error
  | .output path error => .output path error

end JobError

/-- A job. -/
structure Job where
  /-- The choices for the job. -/
  settings : Settings
  /-- The engine that reads documents. -/
  engine : Engine
  /-- The machine. -/
  host : Host
  /-- Time of day. -/
  today : Timestamp
  /-- Verdicts on the starts of workers, true standing for a refusal. -/
  startRefusals : List Bool := []

/-- How far a job has come. -/
structure Progress where
  /-- The connection to the database. -/
  connection : Connection
  /-- The files that are done. -/
  checkpoint : Checkpoint
  /-- The course and the figures so far. -/
  report : Report
  /-- The disk. -/
  disk : Disk
  /-- How often the engine was asked for each path. -/
  loads : LoadLog := {}

/-- A job that cannot go on, and what it leaves behind. -/
structure JobFailure where
  /-- The reason. -/
  error : JobError
  /-- The disk. -/
  disk : Disk
  /-- How often the engine was asked for each path. -/
  loads : LoadLog := {}

namespace Job

/-- How files are selected. -/
def mode (job : Job) : SelectionMode :=
  .ofFlags job.settings.resume job.settings.retryFailedOnly

/-- How many files are selected at most. -/
def limit (job : Job) : Option Nat :=
  if job.settings.maxFiles = 0 then none else some job.settings.maxFiles

/-- Reads the checkpoint.  One that cannot be read matters only if it is needed to select files. -/
def loadCheckpoint (job : Job) (disk : Disk) : Except CheckpointError Checkpoint × Disk :=
  match Checkpoint.load job.settings.checkpointPath disk with
  | (.ok checkpoint, disk) => (.ok checkpoint, disk)
  | (.error error, disk) =>
    if job.mode.usesCheckpoint then (.error error, disk) else (.ok {}, disk)

/-- The report of a job that has found and selected files. -/
def selectionReport (discovered selected : List Path) : Report where
  states := [.init, .discovering]
  discovered := discovered.length
  scheduled := selected.length

/-- Sets the job up and selects its files. -/
def prepare (job : Job) (disk : Disk) : Except JobFailure (List Path × Progress) :=
  match job.settings.validate with
  | .error error => .error { error := .config error, disk := disk }
  | .ok () =>
    match Database.openAt job.settings.databasePath disk with
    | (.error error, disk) => .error { error := .database error, disk := disk }
    | (.ok connection, disk) =>
      match job.loadCheckpoint disk with
      | (.error error, disk) => .error { error := .checkpoint error, disk := disk }
      | (.ok checkpoint, disk) =>
        match discover? disk job.settings.inputDir with
        | none => .error { error := .inputNotFound job.settings.inputDir, disk := disk }
        | some discovered =>
          let selected := selectFiles discovered checkpoint job.mode job.limit
          .ok (selected,
            { connection := connection
              checkpoint := checkpoint
              report := selectionReport discovered selected
              disk := disk })

/-! ## The work of the threads -/

/-- The first attempts at files. -/
def firstTasks (paths : List Path) : List Task :=
  paths.mapIdx fun index path => { id := index, path := path }

/-- What the workers of the job go by. -/
def workerRules (job : Job) (plan : Plan) : WorkerRules where
  pipeline := {
    layout := job.settings.layout
    maxFileSizeBytes := job.settings.maxFileSizeBytes
    memoryBudgetBytes := some plan.memoryPerWorkerBytes }
  engine := job.engine
  timeout := job.settings.perFileTimeoutSecs * 1000000

/-- How the writers of the job are set up. -/
def writerSetup (job : Job) (plan : Plan) : Writers.Setup where
  database := job.settings.databasePath
  count := plan.writerCount
  capacity := plan.writerCapacity
  batchRows := job.settings.batchRows
  spillDirectory := job.settings.fallbackDir

/-- What the threads share at the start. -/
def sharedAtStart (job : Job) (plan : Plan) (progress : Progress) (inboxes : List Inbox)
    (disk : Disk) : Shared where
  tasks := { capacity := Nat.max plan.taskCapacity 1 }
  events := { capacity := Nat.max plan.eventCapacity 1 }
  inboxes := inboxes
  disk := disk
  loads := progress.loads
  today := job.today
  startRefusals := job.startRefusals

/-- The manager at the start, before it has started workers. -/
def managerAtStart (job : Job) (plan : Plan) (paths : List Path) (progress : Progress)
    (supervisor : Supervisor) : Manager where
  settings := job.settings
  pending := firstTasks paths
  nextTask := paths.length
  supervisor := supervisor
  spill := .forProducer job.settings.fallbackDir .manager
  checkpoint := progress.checkpoint
  report := { progress.report with plan := some plan }.enter .dispatching

/-- The longest wait, in seconds, that ends at a time the clock can show.  The clock counts from the
start of the machine, which is taken to be an hour ago at least. -/
def longestWait : Nat := Nat.pow 2 63 - 1 - 3600

/-- The wait for threads that are to end has an end itself. -/
def checkWait (job : Job) : Except Overflow Unit :=
  if job.settings.joinTimeoutSecs ≤ longestWait then .ok () else .error .instant

/-- Why a job ends that could not start a worker. -/
def desertion (job : Job) : JobError :=
  match job.checkWait with
  | .error overflow => .overflow overflow
  | .ok () => .io .exhausted

/-- The threads at the start.  There has to be at least one worker. -/
def systemAtStart (job : Job) (plan : Plan) (paths : List Path) (progress : Progress)
    (supervisor : Supervisor) (writers : List (Writer × Inbox)) (disk : Disk) :
    Except JobFailure System :=
  let idle := job.managerAtStart plan paths progress supervisor
  let (manager, shared) :=
    Manager.spawnAll plan.workerCount idle
      (job.sharedAtStart plan progress (writers.map (·.2)) disk)
  if manager.workers.isEmpty then
    .error
      { error := job.desertion
        disk := (Writers.shutdown (writers.map (·.1)) shared.disk).2
        loads := shared.loads }
  else
    .ok
      { rules := job.workerRules plan
        shared := shared
        manager := manager
        workers := System.hired idle manager
        writers := writers.map (·.1) }

/-- Starts the threads for the selected files. -/
def engage (job : Job) (paths : List Path) (progress : Progress) : Except JobFailure System :=
  match Plan.derive job.host job.settings paths.length with
  | .error overflow => .error { error := .overflow overflow, disk := progress.disk }
  | .ok plan =>
    match Writers.start (job.writerSetup plan) progress.disk with
    | (.error error, disk) => .error { error := .ofStart error, disk := disk }
    | (.ok writers, disk) =>
      match Supervisor.start job.settings.heartbeatIntervalMs job.settings.stallMultiple with
      | .error overflow => .error { error := .overflow overflow, disk := disk }
      | .ok supervisor => job.systemAtStart plan paths progress supervisor writers disk

/-- What number did not fit while the threads did their work, or when they were to end. -/
def faultOfWork? (job : Job) (system : System) : Option Overflow :=
  system.manager.fault.or
    (match job.checkWait with
     | .error overflow => some overflow
     | .ok () => none)

/-- How far the job has come when its threads are done. -/
def afterWork (job : Job) (progress : Progress) (system : System) : Except JobFailure Progress :=
  match job.faultOfWork? system with
  | some overflow =>
    .error
      { error := .overflow overflow
        disk := system.shared.disk
        loads := system.shared.loads }
  | none =>
    .ok
      { progress with
        checkpoint := system.manager.checkpoint
        report := system.manager.report
        disk := system.shared.disk
        loads := system.shared.loads }

/-- Lets the threads do their work. -/
def work (job : Job) (paths : List Path) (progress : Progress) : Except JobFailure Progress := do
  let system ← job.engage paths progress
  job.afterWork progress system.complete

/-! ## The end -/

/-- Saves the checkpoint if the replay changed it.  A failure to do so is passed over. -/
def saveCorrections (job : Job) (progress : Progress) : Progress :=
  if progress.report.checkpointCorrections = 0 then progress
  else
    let (_, checkpoint, disk) :=
      progress.checkpoint.save job.settings.checkpointPath job.today progress.disk
    { progress with checkpoint := checkpoint, disk := disk }

/-- Makes the checkpoint agree with the store. -/
def alignCheckpoint (job : Job) (progress : Progress) : Except JobFailure Progress :=
  match (progress.connection.database progress.disk).loadSummaries with
  | .error error =>
    .error { error := .database error, disk := progress.disk, loads := progress.loads }
  | .ok summaries =>
    let (count, checkpoint) := progress.checkpoint.align summaries
    .ok
      (job.saveCorrections
        { progress with
          checkpoint := checkpoint
          report := { progress.report with checkpointCorrections := count } })

/-- Replays the spill files. -/
def reconcile (job : Job) (progress : Progress) : Except JobFailure Progress :=
  let report := progress.report.enter .reconciling
  match Spill.reconcile job.settings.fallbackDir
      (progress.connection.database progress.disk) progress.disk progress.connection.readOnly with
  | (.error error, database, disk) =>
    .error
      { error := .spill error
        disk := progress.connection.put database disk
        loads := progress.loads }
  | (.ok stats, database, disk) =>
    job.alignCheckpoint
      { progress with
        disk := progress.connection.put database disk
        report := { report with reconciled := stats } }

/-- Exports the rows of the store. -/
def exportRows (job : Job) (progress : Progress) : Except JobFailure Progress :=
  match (progress.connection.database progress.disk).loadRows with
  | .error error =>
    .error { error := .database error, disk := progress.disk, loads := progress.loads }
  | .ok rows =>
    match Export.writeRows job.settings.rowsOutput rows progress.disk with
    | (.error error, disk) =>
      .error { error := .ofExport error, disk := disk, loads := progress.loads }
    | (.ok (), disk) => .ok { progress with disk := disk }

/-- Exports the summaries of the store. -/
def exportSummaries (job : Job) (progress : Progress) : Except JobFailure Progress :=
  match (progress.connection.database progress.disk).loadSummaries with
  | .error error =>
    .error { error := .database error, disk := progress.disk, loads := progress.loads }
  | .ok summaries =>
    match Export.writeSummaries job.settings.summaryOutput summaries progress.disk with
    | (.error error, disk) =>
      .error { error := .ofExport error, disk := disk, loads := progress.loads }
    | (.ok (), disk) => .ok { progress with disk := disk }

/-- Exports the store. -/
def conclude (job : Job) (progress : Progress) : Except JobFailure Progress := do
  let progress ← job.exportRows { progress with report := progress.report.enter .reporting }
  let progress ← job.exportSummaries progress
  return { progress with report := progress.report.enter .done }

/-- The job was interrupted before any worker was started. -/
def skip (paths : List Path) (progress : Progress) : Progress :=
  { progress with
    report := { progress.report with interrupted := true, notStarted := paths.length } }

/-- Runs a job on a disk.  If it is interrupted beforehand, no file is processed. -/
def run (job : Job) (interrupted : Bool) (disk : Disk) : Except JobFailure Progress := do
  let (paths, progress) ← job.prepare disk
  if interrupted then job.conclude (skip paths progress)
  else
    let progress ← if paths.isEmpty then pure progress else job.work paths progress
    job.conclude (← job.reconcile progress)

end Job

end PartsList
