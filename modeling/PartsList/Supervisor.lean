import PartsList.Number.Word

/-!
# Supervision

Signs of life of workers.  A worker that gives none for too long counts as stalled, is reported
once, and counts as alive again with its next sign of life.
-/

namespace PartsList

/-- Number of a worker. -/
abbrev WorkerId := Nat

/-- A point in time, in microseconds. -/
abbrev Instant := Nat

/-- What is known of a worker. -/
structure Liveness where
  /-- The worker. -/
  worker : WorkerId
  /-- Its latest sign of life. -/
  lastSeen : Instant
  /-- It was reported as stalled and gave no sign of life since. -/
  stalled : Bool
deriving DecidableEq, Repr

/-- The workers under supervision. -/
structure Supervisor where
  /-- Silence longer than this makes a worker count as stalled, in microseconds. -/
  stallAfter : Nat
  /-- The workers, each once. -/
  workers : List Liveness := []
  /-- How many stalls were reported. -/
  stallEvents : Nat := 0
deriving DecidableEq, Repr

namespace Supervisor

/-- Longest span of time that can be told, in seconds. -/
def longestSeconds : Nat := Word.size - 1

/-- Supervision of workers that give a sign of life every `intervalMs` milliseconds and may miss
that many of them. -/
def start (intervalMs multiple : Nat) : Except Overflow Supervisor :=
  let spanMs := intervalMs * Nat.max multiple 1
  if longestSeconds < spanMs / 1000 then .error .duration else .ok { stallAfter := spanMs * 1000 }

/-- The worker's record. -/
def find? (supervisor : Supervisor) (worker : WorkerId) : Option Liveness :=
  supervisor.workers.find? (·.worker == worker)

/-- No longer supervises a worker. -/
def remove (supervisor : Supervisor) (worker : WorkerId) : Supervisor :=
  { supervisor with workers := supervisor.workers.filter (·.worker != worker) }

/-- Supervises a worker from a point in time on. -/
def register (supervisor : Supervisor) (worker : WorkerId) (now : Instant) : Supervisor :=
  { supervisor with workers := (supervisor.remove worker).workers ++ [⟨worker, now, false⟩] }

/-- A record after a sign of life. -/
def revive (record : Liveness) (now : Instant) : Liveness :=
  { record with lastSeen := Nat.max record.lastSeen now, stalled := false }

/-- Notes a sign of life, and tells whether it ends a stall. -/
def heartbeat (supervisor : Supervisor) (worker : WorkerId) (now : Instant) : Bool × Supervisor :=
  match supervisor.find? worker with
  | none => (false, supervisor)
  | some record =>
    (record.stalled,
      { supervisor with
        workers := supervisor.workers.map fun other =>
          if other.worker == worker then revive other now else other })

/-- The worker was silent for too long and was not reported yet. -/
def isOverdue (supervisor : Supervisor) (now : Instant) (record : Liveness) : Bool :=
  !record.stalled && decide (supervisor.stallAfter < now - record.lastSeen)

/-- Reports the workers that became stalled, in the order of their numbers. -/
def check (supervisor : Supervisor) (now : Instant) : List WorkerId × Supervisor :=
  let overdue := supervisor.workers.filter (supervisor.isOverdue now)
  ((overdue.map (·.worker)).mergeSort (· ≤ ·),
    { supervisor with
      workers := supervisor.workers.map fun record =>
        if supervisor.isOverdue now record then { record with stalled := true } else record
      stallEvents := supervisor.stallEvents + overdue.length })

/-- The worker counts as stalled. -/
def isStalled (supervisor : Supervisor) (worker : WorkerId) : Bool :=
  match supervisor.find? worker with
  | some record => record.stalled
  | none => false

end Supervisor

end PartsList
