import PartsList.Job.Report
import PartsList.Json.Value

/-!
# Reports as JSON values

The figures of a job written out field by field.
-/

namespace PartsList

namespace Plan

/-- The plan as a JSON value. -/
def toJson (plan : Plan) : Json :=
  .record
    [("worker_count", .natural plan.workerCount),
     ("writer_count", .natural plan.writerCount),
     ("memory_per_worker_mb", .natural plan.memoryPerWorkerMb),
     ("reserved_cores", .natural plan.reservedCores),
     ("task_capacity", .natural plan.taskCapacity),
     ("event_capacity", .natural plan.eventCapacity),
     ("writer_capacity", .natural plan.writerCapacity)]

end Plan

namespace ReplayStats

/-- The figures of a replay as a JSON value. -/
def toJson (stats : ReplayStats) : Json :=
  .record
    [("files", .natural stats.files),
     ("results", .natural stats.results),
     ("rows", .natural stats.rows),
     ("skipped_lines", .natural stats.skippedLines)]

end ReplayStats

namespace WriterStats

/-- The figures of a writer as a JSON value. -/
def toJson (stats : WriterStats) : Json :=
  .record
    [("writer_id", .natural stats.writer),
     ("results", .natural stats.results),
     ("rows", .natural stats.rows),
     ("commits", .natural stats.commits),
     ("failed_commits", .natural stats.failedCommits),
     ("spilled", .natural stats.spilled)]

end WriterStats

namespace Report

/-- The report as a JSON value. -/
def toJson (report : Report) : Json :=
  .record
    [("interrupted", .bool report.interrupted),
     ("states", .array (report.states.map fun state => .text state.name)),
     ("plan", report.plan.elim .null Plan.toJson),
     ("discovered", .natural report.discovered),
     ("scheduled", .natural report.scheduled),
     ("dispatched", .natural report.dispatched),
     ("succeeded", .natural report.succeeded),
     ("failed", .natural report.failed),
     ("retried", .natural report.retried),
     ("timed_out", .natural report.timedOut),
     ("worker_errors", .natural report.workerErrors),
     ("rows", .natural report.rows),
     ("fallback_deliveries", .natural report.fallbackDeliveries),
     ("lost_deliveries", .natural report.lostDeliveries),
     ("not_started", .natural report.notStarted),
     ("unfinished", .natural report.unfinished),
     ("workers_spawned", .natural report.workersSpawned),
     ("force_terminated", .natural report.forceTerminated),
     ("stall_events", .natural report.stallEvents),
     ("reconciled", report.reconciled.toJson),
     ("checkpoint_corrections", .natural report.checkpointCorrections),
     ("writer_stats", .array (report.writerStats.map WriterStats.toJson)),
     ("error_counts",
      .record (report.errorCounts.map fun (code, count) => (code.name, .natural count)))]

end Report

end PartsList
