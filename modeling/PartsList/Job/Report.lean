import PartsList.Job.Writer
import PartsList.Plan

/-!
# Reports

The course and the figures of a job.
-/

namespace PartsList

/-- A part of a job's course.  The order of the constructors is the order in which they come. -/
inductive JobState
  /-- The job is set up. -/
  | init
  /-- Files are searched for and selected. -/
  | discovering
  /-- Tasks are given to workers. -/
  | dispatching
  /-- All tasks were given to workers at least once. -/
  | draining
  /-- Workers and writers are asked to leave. -/
  | shuttingDown
  /-- Spill files are replayed. -/
  | reconciling
  /-- The store is exported. -/
  | reporting
  /-- The job has ended. -/
  | done
deriving DecidableEq, Repr

namespace JobState

/-- All parts in their order. -/
def all : List JobState :=
  [init, discovering, dispatching, draining, shuttingDown, reconciling, reporting, done]

/-- The part's name. -/
def name : JobState → String
  | init => "init"
  | discovering => "discovering"
  | dispatching => "dispatching"
  | draining => "draining"
  | shuttingDown => "shutting_down"
  | reconciling => "reconciling"
  | reporting => "reporting"
  | done => "done"

end JobState

/-- Exit code of an interrupted job. -/
def exitInterrupted : Nat := 2

/-- The figures of a job. -/
structure Report where
  /-- The job was interrupted. -/
  interrupted : Bool := false
  /-- The parts of its course so far. -/
  states : List JobState := []
  /-- Its sizes, once they are derived. -/
  plan : Option Plan := none
  /-- How many documents were found. -/
  discovered : Nat := 0
  /-- How many files were selected. -/
  scheduled : Nat := 0
  /-- How many tasks were given to workers. -/
  dispatched : Nat := 0
  /-- How many files succeeded in the end. -/
  succeeded : Nat := 0
  /-- How many files failed in the end. -/
  failed : Nat := 0
  /-- How many further attempts were queued. -/
  retried : Nat := 0
  /-- How many attempts took too long. -/
  timedOut : Nat := 0
  /-- How many attempts ended with a failure of the worker. -/
  workerErrors : Nat := 0
  /-- How many rows the successful files yielded. -/
  rows : Nat := 0
  /-- How many results went to a spill file of a worker or the manager. -/
  fallbackDeliveries : Nat := 0
  /-- How many results were lost. -/
  lostDeliveries : Nat := 0
  /-- How many files wait for an attempt at the end. -/
  notStarted : Nat := 0
  /-- How many files were with a worker at the end. -/
  unfinished : Nat := 0
  /-- How many workers were started. -/
  workersSpawned : Nat := 0
  /-- How many workers and writers did not leave in time. -/
  forceTerminated : Nat := 0
  /-- How many stalls were reported. -/
  stallEvents : Nat := 0
  /-- What the replay of spill files did. -/
  reconciled : ReplayStats := {}
  /-- How many entries of the checkpoint were corrected after the replay. -/
  checkpointCorrections : Nat := 0
  /-- What the writers did. -/
  writerStats : List WriterStats := []
  /-- How often each code was the final outcome of a file. -/
  errorCounts : List (ErrorCode × Nat) := []
deriving DecidableEq, Repr

namespace Report

/-- Enters a part of the job's course. -/
def enter (report : Report) (state : JobState) : Report :=
  { report with states := report.states ++ [state] }

/-- How many files have a final outcome. -/
def completed (report : Report) : Nat :=
  report.succeeded + report.failed

/-- The program's exit code after the job. -/
def exitCode (report : Report) : Nat :=
  if report.interrupted then exitInterrupted else 0

/-- The counts with one more for a code. -/
def addCode (code : ErrorCode) : List (ErrorCode × Nat) → List (ErrorCode × Nat)
  | [] => [(code, 1)]
  | (other, count) :: counts =>
    if other = code then (other, count + 1) :: counts else (other, count) :: addCode code counts

/-- How often a code was the final outcome of a file. -/
def countOf (report : Report) (code : ErrorCode) : Nat :=
  (report.errorCounts.find? (·.1 == code)).elim 0 (·.2)

/-- Counts how a result was delivered. -/
def countDelivery (report : Report) : Delivery → Report
  | .fallback => { report with fallbackDeliveries := report.fallbackDeliveries + 1 }
  | .lost => { report with lostDeliveries := report.lostDeliveries + 1 }
  | .writer | .withheld => report

/-- Counts the failures of the machine. -/
def countFailure (report : Report) : ErrorCode → Report
  | .timeout => { report with timedOut := report.timedOut + 1 }
  | .workerError => { report with workerErrors := report.workerErrors + 1 }
  | _ => report

/-- Counts the final outcome of a file. -/
def countFinal (report : Report) (result : ExtractionResult) : Report :=
  let report := { report with errorCounts := addCode result.errorCode report.errorCounts }
  if result.success then
    { report with succeeded := report.succeeded + 1, rows := report.rows + result.rowCount }
  else { report with failed := report.failed + 1 }

end Report

end PartsList
