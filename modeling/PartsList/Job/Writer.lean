import PartsList.Job.Routing
import PartsList.Store.File

/-!
# Writers

A writer collects results and commits them in batches, each batch in one transaction.  A batch that
the database refuses goes to the writer's spill file.
-/

namespace PartsList

/-- What a writer did. -/
structure WriterStats where
  /-- The writer. -/
  writer : Nat
  /-- How many results it committed. -/
  results : Nat := 0
  /-- How many rows it committed. -/
  rows : Nat := 0
  /-- How many transactions took effect. -/
  commits : Nat := 0
  /-- How many transactions were refused. -/
  failedCommits : Nat := 0
  /-- How many results it spilled. -/
  spilled : Nat := 0
deriving DecidableEq, Repr

/-- A writer. -/
structure Writer where
  /-- Its number. -/
  id : Nat
  /-- Its connection to the database. -/
  connection : Connection
  /-- It commits when it holds this many rows or results. -/
  batchRows : Nat
  /-- Its spill file. -/
  spill : SpillFile
  /-- The results it holds, in the order in which they came. -/
  buffer : List ExtractionResult := []
  /-- How many rows it holds. -/
  bufferedRows : Nat := 0
  /-- What it did. -/
  stats : WriterStats
  /-- What it has told the log about results that it could neither commit nor spill: the file of
  each and why, the latest first. -/
  losses : List (Path × SpillError) := []
  /-- It has left. -/
  finished : Bool := false

namespace Writer

/-- A writer that holds nothing.  A batch has at least one row. -/
def start (id : Nat) (connection : Connection) (batchRows : Nat) (spillDirectory : Path) :
    Writer where
  id := id
  connection := connection
  batchRows := Nat.max batchRows 1
  spill := .forProducer spillDirectory (.writer id)
  stats := { writer := id }

/-- Spills one result.  Of one that is lost only the log is told. -/
def spillOne (state : Writer × Disk) (result : ExtractionResult) : Writer × Disk :=
  let (writer, disk) := state
  match writer.spill.persist result disk with
  | (.ok (), spill, disk) =>
    ({ writer with
        spill := spill
        stats := { writer.stats with spilled := writer.stats.spilled + 1 } }, disk)
  | (.error error, spill, disk) =>
    ({ writer with spill := spill, losses := (result.filePath, error) :: writer.losses }, disk)

/-- The writer after a transaction took effect. -/
def committed (writer : Writer) (counts : UpsertCounts) : Writer :=
  { writer with
    stats :=
      { writer.stats with
        results := writer.stats.results + counts.results
        rows := writer.stats.rows + counts.rows
        commits := writer.stats.commits + 1 } }

/-- The writer after a transaction was refused. -/
def refused (writer : Writer) : Writer :=
  { writer with stats := { writer.stats with failedCommits := writer.stats.failedCommits + 1 } }

/-- Commits what the writer holds, or spills it. -/
def flush (writer : Writer) (disk : Disk) : Writer × Disk :=
  if writer.buffer.isEmpty then (writer, disk)
  else
    let batch := writer.buffer
    let writer := { writer with buffer := [], bufferedRows := 0 }
    match writer.connection.upsert batch disk with
    | (.ok counts, disk) => (writer.committed counts, disk)
    | (.error _, disk) => batch.foldl spillOne (writer.refused, disk)

/-- The writer holds a full batch. -/
def isDue (writer : Writer) : Bool :=
  decide (writer.batchRows ≤ writer.bufferedRows) ||
    decide (writer.batchRows ≤ writer.buffer.length)

/-- The writer with one more result. -/
def keep (writer : Writer) (result : ExtractionResult) : Writer :=
  { writer with
    buffer := writer.buffer ++ [result]
    bufferedRows := writer.bufferedRows + result.rowCount }

/-- Commits what the writer holds, and leaves. -/
def leave (writer : Writer) (disk : Disk) : Writer × Disk :=
  let (writer, disk) := writer.flush disk
  ({ writer with finished := true }, disk)

/-- Handles a message. -/
def accept (writer : Writer) (disk : Disk) (message : WriterMessage) : Writer × Disk :=
  match message with
  | .result result =>
    let writer := writer.keep result
    if writer.isDue then writer.flush disk else (writer, disk)
  | .shutdown => writer.leave disk

end Writer

namespace Writers

/-- How writers are set up. -/
structure Setup where
  /-- Path of the database. -/
  database : Path
  /-- How many writers there are. -/
  count : Nat
  /-- How many messages can wait for each of them. -/
  capacity : Nat
  /-- A writer commits when it holds this many rows or results. -/
  batchRows : Nat
  /-- Directory of the spill files. -/
  spillDirectory : Path
deriving DecidableEq, Repr

/-- Why writers do not start. -/
inductive StartError
  /-- The database cannot be opened. -/
  | database (error : DatabaseError)
  /-- A queue would be too long. -/
  | overflow (kind : Overflow)
deriving DecidableEq, Repr

/-- Bytes that the farewell of a writer takes in the queue of farewells. -/
def farewellBytes : Nat := 56

/-- The queue of farewells has room for every writer. -/
def checkFarewells (count : Nat) : Except Overflow Unit := do
  let _ : Channel WriterStats ← Channel.make farewellBytes count

/-- Opens the database for each of so many writers, the first with the given number, and makes its
inbox, which holds at least one message. -/
def startFrom (setup : Setup) (first : Nat) :
    (count : Nat) → Disk → Except StartError (List (Writer × Inbox)) × Disk
  | 0, disk => (.ok [], disk)
  | count + 1, disk =>
    match Database.openAt setup.database disk with
    | (.error error, disk) => (.error (.database error), disk)
    | (.ok connection, disk) =>
      match makeInbox (Nat.max setup.capacity 1) with
      | .error kind => (.error (.overflow kind), disk)
      | .ok inbox =>
        let writer := Writer.start first connection setup.batchRows setup.spillDirectory
        match startFrom setup (first + 1) count disk with
        | (.error error, disk) => (.error error, disk)
        | (.ok writers, disk) => (.ok ((writer, inbox) :: writers), disk)

/-- Starts writers with their inboxes, at least one. -/
def start (setup : Setup) (disk : Disk) : Except StartError (List (Writer × Inbox)) × Disk :=
  let count := Nat.max setup.count 1
  match checkFarewells count with
  | .error kind => (.error (.overflow kind), disk)
  | .ok () => startFrom setup 0 count disk

/-- Lets a result's writer handle it at once. -/
def submit (state : List Writer × Disk) (result : ExtractionResult) : List Writer × Disk :=
  let (writers, disk) := state
  let shard := shardOf result.filePath writers.length
  match writers[shard]? with
  | none => (writers, disk)
  | some writer =>
    let (writer, disk) := writer.accept disk (.result result)
    (writers.set shard writer, disk)

/-- Lets all writers leave, one after the other. -/
def shutdown : List Writer → Disk → List Writer × Disk
  | [], disk => ([], disk)
  | writer :: writers, disk =>
    let (writer, disk) := writer.accept disk .shutdown
    let (writers, disk) := shutdown writers disk
    (writer :: writers, disk)

end Writers

end PartsList
