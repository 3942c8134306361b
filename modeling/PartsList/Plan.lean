import PartsList.Settings.Basic

/-!
# Plans

How many workers and writers a run has, how much memory each worker may use and how long the queues
between them are, derived from the host and the settings.
-/

namespace PartsList

/-- What a run knows of the machine. -/
structure Host where
  /-- Cores that can be used. -/
  cores : Nat
  /-- Memory in bytes. -/
  ramBytes : Nat
deriving DecidableEq, Repr

namespace Host

/-- The machine as the system describes it.  There is a core even when it tells of none, and eight
gibibytes of memory when it tells of none. -/
def measured (cores ramBytes : Nat) : Host where
  cores := Nat.max cores 1
  ramBytes := if ramBytes = 0 then 8 * 1024 * 1024 * 1024 else ramBytes

/-- Memory in mebibytes, rounded down. -/
def ramMb (host : Host) : Nat :=
  host.ramBytes / (1024 * 1024)

end Host

/-- Numbers that stand for amounts of memory. -/
class Amount (α : Type) extends Scalar α where
  /-- The whole part of a positive number, at most the largest word; zero for any other value. -/
  wholePart : α → Nat

instance : Amount Float where
  wholePart x := x.toUInt64.toNat

/-- How memory is shared out among workers. -/
structure MemoryPolicy (α : Type) where
  /-- Share of the machine's memory that a run may use at all. -/
  safetyFraction : α
  /-- Held back for everything else on the machine. -/
  osReserveMb : Nat := 2048
  /-- Held back for each writer. -/
  writerReserveMb : Nat := 256
  /-- Least memory of a worker. -/
  minPerWorkerMb : Nat := 512
  /-- Most memory of a worker, unless the least is more. -/
  capPerWorkerMb : Nat := 4096

namespace MemoryPolicy

/-- The policy that applies when nothing is said. -/
def standard : MemoryPolicy Float where
  safetyFraction := 0.85

/-- A value moved to the nearest bound when it lies outside of them. -/
def clamp (value least most : Nat) : Nat :=
  Nat.max least (Nat.min value most)

/-- Memory left for all workers. -/
def usable {α : Type} [Amount α] (policy : MemoryPolicy α) (host : Host) (writerReserve : Nat) :
    α :=
  Scalar.ofNat host.ramMb * policy.safetyFraction - Scalar.ofNat policy.osReserveMb -
    Scalar.ofNat writerReserve

/-- Memory for one worker before the bounds apply. -/
def share {α : Type} [Amount α] (usable : α) (workers : Nat) : Nat :=
  if usable ≤ Scalar.ofNat 0 then 0
  else Amount.wholePart (usable / Scalar.ofNat (Nat.max workers 1))

/-- Memory for one worker in mebibytes. -/
def budgetMb {α : Type} [Amount α] (policy : MemoryPolicy α) (host : Host)
    (workers writers : Nat) : Except Overflow Nat := do
  let writerReserve ← Word.mul policy.writerReserveMb writers
  let perWorker := share (policy.usable host writerReserve) workers
  return clamp perWorker policy.minPerWorkerMb
    (Nat.max policy.capPerWorkerMb policy.minPerWorkerMb)

end MemoryPolicy

/-- The sizes of a run. -/
structure Plan where
  /-- Number of workers. -/
  workerCount : Nat
  /-- Number of writers. -/
  writerCount : Nat
  /-- Memory for one worker. -/
  memoryPerWorkerMb : Nat
  /-- Cores that workers do not use. -/
  reservedCores : Nat
  /-- Length of the task queue. -/
  taskCapacity : Nat
  /-- Length of the queue of workers' events. -/
  eventCapacity : Nat
  /-- Length of each writer's queue. -/
  writerCapacity : Nat
deriving DecidableEq, Repr

namespace Plan

/-- Cores held back: one per writer, and one each for supervision, management and the system. -/
def coresHeldBack (writers : Nat) : Except Overflow Nat := do
  Word.add (← Word.add (← Word.add writers 1) 1) 1

/-- Workers that the host has cores for, at least one. -/
def workersFor (host : Host) (writers : Nat) : Except Overflow Nat := do
  return Nat.max (host.cores - (← coresHeldBack writers)) 1

/-- The plan for a number of tasks, with the given shares of memory.  There are never more workers
than tasks. -/
def deriveWith {α : Type} [Amount α] (policy : MemoryPolicy α) (host : Host) (settings : Settings)
    (taskCount : Nat) : Except Overflow Plan := do
  let writers := Nat.max settings.writerPoolSize 1
  let computed ← workersFor host writers
  let requested := Nat.max (settings.workers.getD computed) 1
  let workers := Nat.min requested (Nat.max taskCount 1)
  let policy := { policy with capPerWorkerMb := settings.maxMemoryPerWorkerMb }
  return {
    workerCount := workers
    writerCount := writers
    memoryPerWorkerMb := ← policy.budgetMb host workers writers
    reservedCores := ← coresHeldBack writers
    taskCapacity := ← Word.mul workers 2
    eventCapacity := ← Word.add (← Word.mul workers 4) 16
    writerCapacity := ← Word.mul workers 2 }

/-- The plan for a number of tasks. -/
def derive (host : Host) (settings : Settings) (taskCount : Nat) : Except Overflow Plan :=
  deriveWith MemoryPolicy.standard host settings taskCount

/-- Memory for one worker in bytes; the largest word when that is less. -/
def memoryPerWorkerBytes (plan : Plan) : Nat :=
  Word.mulUpTo plan.memoryPerWorkerMb (1024 * 1024)

end Plan

/-- How much larger a document is in memory than its file. -/
def documentMemoryFactor : Nat := 8

/-- Memory that a document of the given size is estimated to need. -/
def estimatedDocumentMemory (sizeBytes : Nat) : Nat :=
  Word.mulUpTo sizeBytes documentMemoryFactor

end PartsList
