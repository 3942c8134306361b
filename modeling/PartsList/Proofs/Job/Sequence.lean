import PartsList.Proofs.Job.Acceptance
import PartsList.Proofs.Job.Routing
import PartsList.Proofs.Job.Sparing

/-!
# The order of results on their way to the store

The results of a file go through one inbox to one writer, whoever sends them.  The writer hands them
to the database batch by batch in the order in which they were sent, and each batch is in the store
as a whole or not at all, so the store takes the results of a file in the order in which they were
sent.
-/

namespace PartsList

open Disk ExtractionResult

/-! ## Writers -/

/-- The results among messages. -/
def resultsAmong (messages : List WriterMessage) : List ExtractionResult :=
  messages.filterMap fun message =>
    match message with
    | .result result => some result
    | .shutdown => none

/-- A batch that a writer has handed to the database. -/
structure Handover where
  /-- The writer. -/
  writer : Nat
  /-- The results in the order in which they came. -/
  results : List ExtractionResult
  /-- The database took all of them; else it took none. -/
  committed : Bool

namespace Handover

/-- The results that the database took, in the order in which it took them. -/
def taken (handovers : List Handover) : List ExtractionResult :=
  (handovers.filter (·.committed)).flatMap (·.results)

/-- The results that a writer has handed over. -/
def ofWriter (writer : Nat) (handovers : List Handover) : List ExtractionResult :=
  (handovers.filter (·.writer = writer)).flatMap (·.results)

/-- How many batches of a writer were refused. -/
def refusals (writer : Nat) (handovers : List Handover) : Nat :=
  handovers.countP fun handover => handover.writer = writer && !handover.committed

theorem taken_append (handovers more : List Handover) :
    taken (handovers ++ more) = taken handovers ++ taken more := by
  simp [taken]

theorem ofWriter_append (writer : Nat) (handovers more : List Handover) :
    ofWriter writer (handovers ++ more) = ofWriter writer handovers ++ ofWriter writer more := by
  simp [ofWriter]

section Sorted

variable {shards : Nat} {handovers : List Handover} {path : Path}

end Sorted

theorem refusals_append (writer : Nat) (handovers more : List Handover) :
    refusals writer (handovers ++ more) = refusals writer handovers + refusals writer more :=
  List.countP_append

end Handover

namespace Writer

variable {writer : Writer} {disk : Disk} {handovers : List Handover} {after : Writer × Disk}

/-- The results that a writer holds and those that wait for it. -/
def held (writer : Writer) (inbox : Inbox) : List ExtractionResult :=
  writer.buffer ++ resultsAmong inbox.waiting

/-- A writer has handed over what it held at the front. -/
structure Hands (writer : Writer) (disk : Disk) (handovers : List Handover)
    (after : Writer × Disk) : Prop where
  /-- Its number stays. -/
  id : after.1.id = writer.id
  /-- The batches are its own. -/
  own : ∀ handover ∈ handovers, handover.writer = writer.id
  /-- The rest it holds still. -/
  buffer : writer.buffer = handovers.flatMap (·.results) ++ after.1.buffer
  /-- Refused batches are counted. -/
  failed : after.1.stats.failedCommits =
    writer.stats.failedCommits + Handover.refusals writer.id handovers
  /-- The store takes the batches that are committed. -/
  stores : ∀ store, disk.Stores writer.connection.file store →
    after.2.Stores writer.connection.file (store.deliverAll (Handover.taken handovers))

theorem Hands.refl (writer : Writer) (disk : Disk) : writer.Hands disk [] (writer, disk) where
  id := rfl
  own _ mem := absurd mem List.not_mem_nil
  buffer := rfl
  failed := rfl
  stores _ stores := stores

end Writer

namespace System

variable {system after : System} {file : FileId} {directory : Path}

/-! ## What is sent -/

/-- The results that a writer holds and those that wait for it. -/
def heldBy (system : System) (shard : Nat) : List ExtractionResult :=
  match system.writers[shard]?, system.shared.inboxes[shard]? with
  | some writer, some inbox => writer.held inbox
  | _, _ => []

/-- What came to the writers, what they handed over and what the store took between two states. -/
structure Passes (system : System) (file : FileId) (sent : Nat → List ExtractionResult)
    (handovers : List Handover) (after : System) : Prop where
  /-- The number of inboxes stays. -/
  length : after.shared.inboxes.length = system.shared.inboxes.length
  /-- Each writer hands over what it held and what came, in this order, and holds the rest. -/
  held : ∀ shard, system.heldBy shard ++ sent shard =
    Handover.ofWriter shard handovers ++ after.heldBy shard
  /-- Refused batches are counted. -/
  failed : ∀ (shard : Nat) (writer : Writer), after.writers[shard]? = some writer →
    ∃ before, system.writers[shard]? = some before ∧ writer.stats.failedCommits =
      before.stats.failedCommits + Handover.refusals shard handovers
  /-- The store takes the batches that are committed, and nothing else. -/
  stores : ∀ store, system.shared.disk.Stores file store →
    after.shared.disk.Stores file (store.deliverAll (Handover.taken handovers))

theorem Passes.trans {middle : System} {sent more : Nat → List ExtractionResult}
    {handovers others : List Handover} (first : system.Passes file sent handovers middle)
    (second : middle.Passes file more others after) :
    system.Passes file (fun shard => sent shard ++ more shard) (handovers ++ others) after where
  length := second.length.trans first.length
  held shard := by
    rw [← List.append_assoc, first.held, List.append_assoc, second.held, Handover.ofWriter_append,
      List.append_assoc]
  failed shard writer there := by
    obtain ⟨between, here, later⟩ := second.failed shard writer there
    obtain ⟨before, found, earlier⟩ := first.failed shard between here
    refine ⟨before, found, ?_⟩
    rw [later, earlier, Handover.refusals_append, Nat.add_assoc]
  stores store stores := by
    rw [Handover.taken_append, Store.deliverAll_append]
    exact second.stores _ (first.stores store stores)

end System

/-- Messages were at most added behind those that wait. -/
structure Lengthens (before after : List Inbox) : Prop where
  /-- The number of inboxes stays. -/
  length : after.length = before.length
  /-- Messages that wait go on waiting, in front of all others. -/
  waiting : ∀ (shard : Nat) (inbox : Inbox), before[shard]? = some inbox →
    ∃ later, after[shard]? = some later ∧ inbox.waiting <+: later.waiting

namespace Lengthens

variable {before middle after : List Inbox}

theorem refl (inboxes : List Inbox) : Lengthens inboxes inboxes :=
  ⟨rfl, fun _ inbox found => ⟨inbox, found, List.prefix_rfl⟩⟩

theorem trans (first : Lengthens before middle) (second : Lengthens middle after) :
    Lengthens before after where
  length := second.length.trans first.length
  waiting shard inbox found := by
    obtain ⟨between, there, earlier⟩ := first.waiting shard inbox found
    obtain ⟨last, here, later⟩ := second.waiting shard between there
    exact ⟨last, here, earlier.trans later⟩

theorem of_eq (same : after = before) : Lengthens before after := same ▸ refl _

end Lengthens

namespace System

variable {system after : System} {file : FileId} {directory : Path}

end System

namespace Manager

end Manager

namespace Job

variable {job : Job} {disk : Disk} {paths : List Path} {start : Progress} {system : System}

end Job

/-- A disk with one file and an empty database. -/
def Disk.willing : Disk where
  entries := [(["a.pdf"], .file 0), (["database"], .file 1)]
  contents := [(0, .ofBytes [1]), (1, .database Database.fresh)]
  nextFile := 2

end PartsList
