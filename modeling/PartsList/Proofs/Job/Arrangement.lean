import PartsList.Proofs.Job.Completion
import PartsList.Proofs.Job.Deeds
import PartsList.Proofs.Job.Posting
import PartsList.Proofs.Job.Results

/-!
# The order of things

Every file, queue and number has its place: writers have inboxes and connections to one database,
spill files lie in one directory, and messages wait for the writers of their paths.  No move of a
thread changes this.
-/

namespace PartsList

open Disk ExtractionResult

/-- The outcome that a worker is about to report. -/
def WorkerPhase.outcome? : WorkerPhase → Option Outcome
  | .reporting outcome => some outcome
  | .announcing _ _ | .processing _ _ | .delivering _ _ _ | .idle | .leaving _ | .gone _ => none

/-- The outcome that an event tells. -/
def WorkerEvent.outcome? : WorkerEvent → Option Outcome
  | .finished _ outcome => some outcome
  | .heartbeat _ _ | .started _ _ _ | .exited _ => none

/-- The outcomes that events tell. -/
def outcomesOf (events : List WorkerEvent) : List Outcome :=
  events.filterMap (·.outcome?)

theorem outcomesOf_append (events more : List WorkerEvent) :
    outcomesOf (events ++ more) = outcomesOf events ++ outcomesOf more :=
  List.filterMap_append

/-- An event that is reported waits for the manager, or is dropped. -/
theorem Shared.report?_eq_some {shared after : Shared} {event : WorkerEvent}
    (reported : shared.report? event = some after) :
    ∃ told, told.Sublist [event] ∧ after.inboxes = shared.inboxes ∧
      after.disk = shared.disk ∧ after.events.waiting = shared.events.waiting ++ told := by
  obtain ⟨events, rfl, -, waiting⟩ := Shared.exists_events_of_report? reported
  refine ⟨_, ?_, rfl, rfl, waiting⟩
  split
  · exact List.nil_sublist _
  · exact List.Sublist.refl _

/-- A sign of life tells of no outcome. -/
theorem Shared.report?_heartbeat {shared after : Shared} {id : WorkerId} {now : Instant}
    (reported : shared.report? (.heartbeat id now) = some after) :
    ∃ told, after.inboxes = shared.inboxes ∧ after.disk = shared.disk ∧
      after.events.waiting = shared.events.waiting ++ told ∧ outcomesOf told = [] := by
  obtain ⟨told, less, inboxes, disk, events⟩ := Shared.report?_eq_some reported
  have silent : (outcomesOf told).Sublist (outcomesOf [.heartbeat id now]) := less.filterMap _
  exact ⟨told, inboxes, disk, events, List.sublist_nil.1 silent⟩

namespace Routes

variable {inboxes : List Inbox} {spill : SpillFile} {disk : Disk} {result : ExtractionResult}
  {routed : Routed}

theorem queues (routes : Routes inboxes spill disk result routed) (owns : result.OwnsRows)
    (shard : Nat) (inbox : Inbox) (found : routed.inboxes[shard]? = some inbox) :
    ∃ before, inboxes[shard]? = some before ∧ ∀ other, .result other ∈ inbox.waiting →
      .result other ∈ before.waiting ∨
        other.OwnsRows ∧ shardOf other.filePath inboxes.length = shard := by
  obtain ⟨before, there, -, waiting⟩ := routes.waiting found
  refine ⟨before, there, fun other mem => (waiting _ mem).imp_right ?_⟩
  rintro ⟨same, place⟩
  cases same
  exact ⟨owns, place⟩

theorem open_ (routes : Routes inboxes spill disk result routed)
    (before : ∀ inbox ∈ inboxes, .shutdown ∉ inbox.waiting ∧ inbox.senderGone = false) :
    ∀ inbox ∈ routed.inboxes, .shutdown ∉ inbox.waiting ∧ inbox.senderGone = false := by
  intro inbox mem
  obtain ⟨shard, found⟩ := List.mem_iff_getElem?.1 mem
  obtain ⟨old, there, sender, waiting⟩ := routes.waiting found
  obtain ⟨none, stays⟩ := before old (List.mem_of_getElem? there)
  refine ⟨fun stop => ?_, sender.trans stays⟩
  rcases waiting _ stop with stop | ⟨same, -⟩
  · exact none stop
  · cases same

end Routes

namespace Manager

/-- Saving the checkpoint may write a file. -/
theorem exists_save (manager : Manager) (shared : Shared) :
    ∃ checkpoint saves disk, manager.save shared =
        ({ manager with checkpoint := checkpoint, saves := saves }, { shared with disk := disk }) ∧
      shared.disk.Develops disk :=
  ⟨_, _, _, rfl, Checkpoint.develops_save _ _ _ _⟩

/-- At its end the manager counts the writers that have not left, closes the inboxes and saves the
checkpoint. -/
theorem exists_endWriters (manager : Manager) (shared : Shared) (stats : List WriterStats) :
    ∃ checkpoint saves disk,
      manager.endWriters shared stats =
        ({ manager with
            phase := .finished
            report :=
              { manager.report with
                forceTerminated :=
                  manager.report.forceTerminated + (shared.inboxes.length - stats.length)
                writerStats := stats }
            checkpoint := checkpoint
            saves := saves },
          { shared with
            inboxes := shared.inboxes.map ({ · with senderGone := true })
            disk := disk }) ∧
      shared.disk.Develops disk :=
  ⟨_, _, _, rfl, Checkpoint.develops_save _ _ _ _⟩

/-- What accounting for an outcome does to what deliveries depend on. -/
structure Records (manager : Manager) (shared : Shared) (task : Task) (outcome : Outcome)
    (after : Manager × Shared) : Prop where
  /-- The spill file stays, -/
  spill : after.1.spill = manager.spill
  /-- the choices, -/
  settings : after.1.settings = manager.settings
  /-- the workers, -/
  nextWorker : after.1.nextWorker = manager.nextWorker
  /-- what comes next, -/
  phase : after.1.phase = manager.phase
  /-- and the tasks with the workers. -/
  inFlight : after.1.inFlight = manager.inFlight
  /-- The outcome is added to the history. -/
  history : ∃ final, after.1.history = ⟨task, outcome, final⟩ :: manager.history
  /-- The inboxes stay, -/
  inboxes : after.2.inboxes = shared.inboxes
  /-- and the events. -/
  events : after.2.events = shared.events
  /-- A file may be written. -/
  develops : shared.disk.Develops after.2.disk

theorem records_record (manager : Manager) (shared : Shared) (task : Task) (outcome : Outcome) :
    manager.Records shared task outcome (manager.record shared task outcome) := by
  simp only [Manager.record]
  split
  · exact ⟨rfl, rfl, rfl, rfl, rfl, ⟨_, rfl⟩, rfl, rfl, Develops.refl _⟩
  · unfold saveIfDue
    split
    · obtain ⟨checkpoint, saves, disk, saved, develops⟩ :=
        exists_save { (settle _ task outcome) with sinceSave := 0 } shared
      rw [saved]
      exact ⟨rfl, rfl, rfl, rfl, rfl, ⟨_, rfl⟩, rfl, rfl, develops⟩
    · exact ⟨rfl, rfl, rfl, rfl, rfl, ⟨_, rfl⟩, rfl, rfl, Develops.refl _⟩

end Manager

namespace System

/-- The outcomes that workers are about to report, and those of which they have told the manager. -/
def outcomes (system : System) : List Outcome :=
  system.workers.filterMap (·.phase.outcome?) ++ outcomesOf system.shared.events.waiting

/-- Every file, queue and number is in its place.  The writers keep one database, and the spill
files lie in one directory. -/
structure Arranged (system : System) (file : FileId) (directory : Path) : Prop where
  /-- Every writer has an inbox, -/
  inboxes : system.shared.inboxes.length = system.writers.length
  /-- a number, -/
  ids : ∀ (shard : Nat) (writer : Writer), system.writers[shard]? = some writer →
    writer.id = shard
  /-- and a connection to the database. -/
  connections : ∀ writer ∈ system.writers, writer.connection.file = file
  /-- The database is a file. -/
  database : file < system.shared.disk.nextFile
  /-- The disk is in order. -/
  numbered : system.shared.disk.Numbered
  /-- Open spill files have numbers. -/
  known : ∀ spill ∈ system.spills, spill.Known system.shared.disk
  /-- Spill files lie in the directory. -/
  paths : ∀ spill ∈ system.spills, ∃ producer : Producer,
    spill.path = directory.join producer.fileName
  /-- Writers hold the results of their paths, -/
  buffers : ∀ (shard : Nat) (writer : Writer), system.writers[shard]? = some writer →
    ∀ result ∈ writer.buffer,
      result.OwnsRows ∧ shardOf result.filePath system.shared.inboxes.length = shard
  /-- and are sent such. -/
  queues : ∀ (shard : Nat) (inbox : Inbox), system.shared.inboxes[shard]? = some inbox →
    ∀ result, .result result ∈ inbox.waiting →
      result.OwnsRows ∧ shardOf result.filePath system.shared.inboxes.length = shard
  /-- Workers deliver results about the files of their tasks. -/
  about : ∀ worker ∈ system.workers, ∀ task started result,
    worker.phase = .delivering task started result →
    result.About task.path
  /-- Workers have numbers of their own, -/
  workers : (system.workers.map (·.id)).Nodup
  /-- which were given out. -/
  hired : ∀ worker ∈ system.workers, worker.id < system.manager.nextWorker
  /-- New workers spill into the directory. -/
  spillsInto : system.manager.settings.fallbackDir = directory

/-- The writers stay. -/
structure Staying (system : System) : Prop where
  /-- No writer has been told to leave, -/
  open_ : ∀ inbox ∈ system.shared.inboxes,
    .shutdown ∉ inbox.waiting ∧ inbox.senderGone = false
  /-- and none has left. -/
  stays : ∀ writer ∈ system.writers, writer.finished = false

variable {system after : System} {file : FileId} {directory : Path}

/-- If no thread was given up on, all writers have told what they did. -/
theorem finished_of_missing (both : system.shared.inboxes.length = system.writers.length)
    (missing : system.shared.inboxes.length - system.finishedStats.length = 0) :
    ∀ writer ∈ system.writers, writer.finished = true := by
  rw [finishedStats, List.length_map, both] at missing
  have all : (system.writers.filter (·.finished)).length = system.writers.length :=
    Nat.le_antisymm (List.length_filter_le _ _) (Nat.sub_eq_zero_iff_le.1 missing)
  exact List.length_filter_eq_length_iff.1 all

/-- Messages that are sent to the right writers and spill files in the right places leave the
arrangement as it is. -/
theorem Arranged.alter (arranged : system.Arranged file directory)
    (writers : after.writers = system.writers)
    (length : after.shared.inboxes.length = system.shared.inboxes.length)
    (queues : ∀ (shard : Nat) (inbox : Inbox), after.shared.inboxes[shard]? = some inbox →
      ∃ before, system.shared.inboxes[shard]? = some before ∧
        ∀ result, .result result ∈ inbox.waiting → .result result ∈ before.waiting ∨
          result.OwnsRows ∧ shardOf result.filePath system.shared.inboxes.length = shard)
    (evolves : system.shared.disk.Evolves after.shared.disk)
    (spills : ∀ spill ∈ after.spills, spill ∈ system.spills ∨
      spill.Known after.shared.disk ∧ ∃ producer : Producer,
        spill.path = directory.join producer.fileName)
    (about : ∀ worker ∈ after.workers, ∀ task started result,
      worker.phase = .delivering task started result →
      result.About task.path)
    (workers : (after.workers.map (·.id)).Nodup)
    (hired : ∀ worker ∈ after.workers, worker.id < after.manager.nextWorker)
    (settings : after.manager.settings = system.manager.settings) :
    after.Arranged file directory where
  inboxes := by rw [length, writers]; exact arranged.inboxes
  ids := by rw [writers]; exact arranged.ids
  connections := by rw [writers]; exact arranged.connections
  database := Nat.lt_of_lt_of_le arranged.database evolves.nextFile
  numbered := evolves.numbered arranged.numbered
  known := by
    intro spill mem
    rcases spills spill mem with mem | ⟨known, -⟩
    · exact (arranged.known spill mem).evolves evolves
    · exact known
  paths := by
    intro spill mem
    rcases spills spill mem with mem | ⟨-, path⟩
    · exact arranged.paths spill mem
    · exact path
  buffers := by rw [writers, length]; exact arranged.buffers
  queues := by
    intro shard inbox found result mem
    obtain ⟨before, there, waiting⟩ := queues shard inbox found
    rw [length]
    rcases waiting result mem with mem | own
    · exact arranged.queues shard before there result mem
    · exact own
  about := about
  workers := workers
  hired := hired
  spillsInto := by rw [settings]; exact arranged.spillsInto

/-! ## The manager -/

/-- The manager is in its place. -/
theorem Arranged.placed (arranged : system.Arranged file directory) :
    (system.withManager (system.manager, system.shared)).Arranged file directory :=
  arranged

/-- The manager may do anything that keeps its choices and the place of its spill file, and that
sends results to their writers only. -/
theorem Arranged.manage {before next : Manager × Shared}
    (arranged : (system.withManager before).Arranged file directory)
    (settings : next.1.settings = before.1.settings)
    (nextWorker : before.1.nextWorker ≤ next.1.nextWorker)
    (spill : next.1.spill = before.1.spill ∨
      next.1.spill.Known next.2.disk ∧ next.1.spill.path = before.1.spill.path)
    (length : next.2.inboxes.length = before.2.inboxes.length)
    (queues : ∀ (shard : Nat) (inbox : Inbox), next.2.inboxes[shard]? = some inbox →
      ∃ other, before.2.inboxes[shard]? = some other ∧
        ∀ result, .result result ∈ inbox.waiting → .result result ∈ other.waiting ∨
          result.OwnsRows ∧ shardOf result.filePath before.2.inboxes.length = shard)
    (evolves : before.2.disk.Evolves next.2.disk) :
    (system.withManager next).Arranged file directory := by
  refine arranged.alter rfl length queues evolves ?_ arranged.about arranged.workers ?_ settings
  · intro other mem
    rcases List.mem_cons.1 mem with rfl | mem
    · rcases spill with same | ⟨known, path⟩
      · exact Or.inl (same ▸ List.mem_cons_self)
      · obtain ⟨producer, place⟩ := arranged.paths _ List.mem_cons_self
        exact Or.inr ⟨known, producer, path.trans place⟩
    · exact Or.inl (List.mem_cons_of_mem _ mem)
  · exact fun worker mem => Nat.lt_of_lt_of_le (arranged.hired worker mem) nextWorker

theorem Arranged.quiet {before next : Manager × Shared}
    (arranged : (system.withManager before).Arranged file directory)
    (quiet : Manager.Quiet before next) : (system.withManager next).Arranged file directory := by
  refine arranged.manage quiet.settings quiet.nextWorker (Or.inl quiet.spill)
    (congrArg List.length quiet.inboxes) (fun shard inbox found => ?_) ?_
  · exact ⟨inbox, quiet.inboxes ▸ found, fun _ mem => Or.inl mem⟩
  · rw [quiet.disk]
    exact Evolves.refl _

theorem Arranged.record {manager : Manager} {shared : Shared}
    (arranged : (system.withManager (manager, shared)).Arranged file directory) (task : Task)
    (outcome : Outcome) :
    (system.withManager (manager.record shared task outcome)).Arranged file directory := by
  have records := manager.records_record shared task outcome
  refine arranged.manage records.settings (Nat.le_of_eq records.nextWorker.symm)
    (Or.inl records.spill) (congrArg List.length records.inboxes) (fun shard inbox found => ?_)
    records.develops.toEvolves
  exact ⟨inbox, records.inboxes ▸ found, fun _ mem => Or.inl mem⟩

theorem Arranged.post {manager : Manager} {shared : Shared}
    (arranged : (system.withManager (manager, shared)).Arranged file directory)
    {result : ExtractionResult} (owns : result.OwnsRows) {routed : Routed}
    (routes : Routes shared.inboxes manager.spill shared.disk result routed) :
    (system.withManager
      ({ manager with spill := routed.spill }, shared.afterRouting routed)).Arranged
      file directory := by
  have known := arranged.known manager.spill List.mem_cons_self
  exact arranged.manage rfl (Nat.le_refl _) (Or.inr ⟨routes.known known, routes.path⟩) routes.length
    (routes.queues owns) routes.develops.toEvolves

/-- No deed of the manager brings anything out of order. -/
theorem Arranged.deed {before next : Manager × Shared}
    (arranged : (system.withManager before).Arranged file directory)
    (deed : Manager.Deed before next) : (system.withManager next).Arranged file directory := by
  cases deed with
  | note quiet => exact arranged.quiet quiet
  | accept quiet => exact (arranged.quiet quiet).record _ _
  | @conclude _ state entry code message metrics quiet =>
      have noted := arranged.quiet quiet
      have about : ((failed entry.task.path code message metrics).withAttempt
          entry.task.attempt).About entry.task.path := about_failed _ code message metrics
      have routes := @routes_route state.2.inboxes state.1.spill state.2.disk
        ((failed entry.task.path code message metrics).withAttempt entry.task.attempt)
        noted.numbered (noted.known _ List.mem_cons_self)
      exact (noted.post about.2 routes).record _ _
  | @save manager shared =>
      obtain ⟨checkpoint, saves, disk, saved, develops⟩ := manager.exists_save shared
      rw [saved]
      exact arranged.manage rfl (Nat.le_refl _) (Or.inl rfl) rfl
        (fun _ inbox found => ⟨inbox, found, fun _ mem => Or.inl mem⟩) develops.toEvolves
  | @dismiss _ _ next inbox sent _ found send quiet inboxes =>
      have waiting : sent.waiting = inbox.waiting ++ [.shutdown] := Channel.waiting_of_send? send
      refine arranged.manage quiet.settings quiet.nextWorker (Or.inl quiet.spill)
        (inboxes ▸ List.length_set) (fun shard other there => ?_) (quiet.disk ▸ Evolves.refl _)
      rw [inboxes] at there
      by_cases here : next = shard
      · subst here
        rw [List.getElem?_set_self (List.getElem?_eq_some_iff.1 found).1] at there
        cases there
        refine ⟨inbox, found, fun result mem => Or.inl ?_⟩
        rw [waiting] at mem
        exact (List.mem_append.1 mem).resolve_right (by simp)
      · rw [List.getElem?_set_ne here] at there
        exact ⟨other, there, fun _ mem => Or.inl mem⟩
  | release _ quiet inboxes =>
      refine arranged.manage quiet.settings quiet.nextWorker (Or.inl quiet.spill)
        (inboxes ▸ List.length_map _) (fun shard other there => ?_) (quiet.disk ▸ Evolves.refl _)
      rw [inboxes] at there
      obtain ⟨inbox, found, rfl⟩ := Option.map_eq_some_iff.1 (List.getElem?_map ▸ there)
      exact ⟨inbox, found, fun _ mem => Or.inl mem⟩

theorem Arranged.deeds {before next : Manager × Shared}
    (arranged : (system.withManager before).Arranged file directory)
    (deeds : Relation.ReflTransGen Manager.Deed before next) :
    (system.withManager next).Arranged file directory := by
  induction deeds with
  | refl => exact arranged
  | tail _ deed induction => exact induction.deed deed

/-- Workers that the manager has started have numbers of their own and spill into the directory. -/
theorem Arranged.hire {next : Manager × Shared}
    (arranged : (system.withManager next).Arranged file directory)
    (old : ∀ worker ∈ system.workers, worker.id < system.manager.nextWorker)
    (spillsInto : system.manager.settings.fallbackDir = directory) :
    (system.withHired next).Arranged file directory := by
  have mem_workers {worker : Worker}
      (mem : worker ∈ system.workers ++ System.hired system.manager next.1) :
      worker ∈ system.workers ∨ ∃ id, system.manager.nextWorker ≤ id ∧ id < next.1.nextWorker ∧
        worker = Worker.start id directory := by
    rw [← spillsInto]
    exact (List.mem_append.1 mem).imp_right mem_hired.1
  refine arranged.alter rfl rfl (fun _ inbox found => ⟨inbox, found, fun _ mem => Or.inl mem⟩)
    (Evolves.refl _) ?_ ?_ ?_ ?_ rfl
  · intro spill mem
    rcases List.mem_cons.1 mem with rfl | mem
    · exact Or.inl List.mem_cons_self
    rcases List.mem_append.1 mem with mem | mem
    · obtain ⟨worker, inside, rfl⟩ := List.mem_map.1 mem
      rcases mem_workers inside with inside | ⟨id, -, -, rfl⟩
      · exact Or.inl (List.mem_cons_of_mem _ (List.mem_append_left _ (List.mem_map_of_mem inside)))
      · exact Or.inr ⟨nofun, .worker id, rfl⟩
    · exact Or.inl (List.mem_cons_of_mem _ (List.mem_append_right _ mem))
  · intro worker mem task started result phase
    rcases mem_workers mem with inside | ⟨id, -, -, rfl⟩
    · exact arranged.about worker inside task started result phase
    · cases phase
  · have fresh : (System.hired system.manager next.1).map (·.id) =
        List.range' system.manager.nextWorker (next.1.nextWorker - system.manager.nextWorker) := by
      rw [System.hired, List.map_map]
      exact List.map_id _
    simp only [withHired, List.map_append, fresh]
    refine List.nodup_append.2 ⟨arranged.workers, List.nodup_range', ?_⟩
    rintro id mem _ new rfl
    obtain ⟨worker, inside, rfl⟩ := List.mem_map.1 mem
    exact absurd (old worker inside) (Nat.not_lt_of_le (List.mem_range'_1.1 new).1)
  · intro worker mem
    rcases mem_workers mem with inside | ⟨id, -, issued, rfl⟩
    · exact arranged.hired worker inside
    · exact issued

theorem Arranged.managed (arranged : system.Arranged file directory) {action : Manager.Action}
    {next : Manager × Shared}
    (stepped : system.manager.step? system.shared system.finishedStats action = some next) :
    (system.withHired next).Arranged file directory := by
  exact (arranged.placed.deeds (Manager.deeds_step? stepped)).hire arranged.hired
    arranged.spillsInto

/-- New workers have nothing to tell. -/
theorem outcomes_withHired (system : System) (next : Manager × Shared) :
    (system.withHired next).outcomes = (system.withManager next).outcomes := by
  have silent := @filterMap_hired _ WorkerPhase.outcome? rfl system.manager next.1
  simp only [outcomes, withHired, withManager, List.filterMap_append, silent, List.append_nil]

/-- The spill files of the others stay when the manager starts workers. -/
theorem spills_subset_withHired (system : System) (next : Manager × Shared) :
    (system.withManager next).spills ⊆ (system.withHired next).spills := by
  intro spill mem
  simp only [spills, withHired, withManager, List.map_append, List.mem_cons,
    List.mem_append] at mem ⊢
  tauto

/-! ## Workers -/

section Workers

variable {front back : List Worker} {worker next : Worker} {shared : Shared}

/-- The system after a worker's step. -/
def withStep (system : System) (front back : List Worker) (after : Worker × Shared) : System :=
  { system with workers := front ++ after.1 :: back, shared := after.2 }

theorem withStep_self (split : system.workers = front ++ worker :: back) :
    system.withStep front back (worker, system.shared) = system := by
  rw [withStep, ← split]

/-- The system without some workers. -/
def withWorkers (system : System) (workers : List Worker) : System :=
  { system with workers := workers }

theorem mem_outcomes {told : List WorkerEvent}
    (events : shared.events.waiting = system.shared.events.waiting ++ told) {outcome : Outcome} :
    outcome ∈ (system.withStep front back (next, shared)).outcomes ↔
      outcome ∈ next.phase.outcome?.toList ++ outcomesOf told ∨
        outcome ∈ (system.withWorkers (front ++ back)).outcomes := by
  unfold outcomes withWorkers withStep
  dsimp only
  rw [events, outcomesOf_append]
  simp only [List.filterMap_append, List.filterMap_cons, List.mem_append]
  cases next.phase.outcome? with
  | none =>
      simp only [Option.toList_none, List.not_mem_nil]
      tauto
  | some told =>
      simp only [Option.toList_some, List.mem_cons, List.not_mem_nil]
      tauto

/-- The spill files of the others stay as they are. -/
theorem exists_spill_withStep (split : system.workers = front ++ worker :: back)
    (file : ∀ id, worker.spill.file = some id → next.spill.file = some id) :
    ∀ spill ∈ system.spills, ∃ spill' ∈ (system.withStep front back (next, shared)).spills,
      ∀ id, spill.file = some id → spill'.file = some id := by
  intro other mem
  rw [System.spills, split] at mem
  simp only [System.spills, withStep, List.map_append, List.map_cons, List.mem_cons,
    List.mem_append] at mem ⊢
  by_cases own : other = worker.spill
  · exact ⟨next.spill, by tauto, own ▸ file⟩
  · exact ⟨other, by tauto, fun _ file => file⟩

/-- Nothing but the worker's state changes in the list of workers. -/
theorem exists_withStep (distinct : (system.workers.map (·.id)).Nodup)
    (mem : worker ∈ system.workers) (same : next.id = worker.id) :
    ∃ front back, system.workers = front ++ worker :: back ∧
      { system.putWorker next with shared := shared } =
        system.withStep front back (next, shared) := by
  obtain ⟨front, back, split⟩ := List.append_of_mem mem
  refine ⟨front, back, split, ?_⟩
  rw [split, List.map_append, List.map_cons, List.nodup_append, List.nodup_cons] at distinct
  obtain ⟨-, ⟨behind, -⟩, before⟩ := distinct
  have still (others : List Worker) (apart : ∀ other ∈ others, other.id ≠ worker.id) :
      others.map (fun other => if other.id == worker.id then next else other) = others := by
    refine (List.map_congr_left fun other mem => ?_).trans (List.map_id' others)
    exact if_neg (by simpa using apart other mem)
  have first := still front fun other mem same =>
    before other.id (List.mem_map_of_mem mem) worker.id List.mem_cons_self same
  have last := still back fun other mem same => behind (same ▸ List.mem_map_of_mem mem)
  rw [putWorker, withStep]
  simp only [split, List.map_append, List.map_cons, same, first, last, beq_self_eq_true, if_true]

theorem Arranged.proceed (arranged : system.Arranged file directory)
    (split : system.workers = front ++ worker :: back) (id : next.id = worker.id)
    (length : shared.inboxes.length = system.shared.inboxes.length)
    (queues : ∀ (shard : Nat) (inbox : Inbox), shared.inboxes[shard]? = some inbox →
      ∃ before, system.shared.inboxes[shard]? = some before ∧
        ∀ result, .result result ∈ inbox.waiting → .result result ∈ before.waiting ∨
          result.OwnsRows ∧ shardOf result.filePath system.shared.inboxes.length = shard)
    (evolves : system.shared.disk.Evolves shared.disk)
    (known : next.spill.Known shared.disk) (place : next.spill.path = worker.spill.path)
    (about : ∀ task started result, next.phase = .delivering task started result →
      result.About task.path) :
    (system.withStep front back (next, shared)).Arranged file directory := by
  have here : worker ∈ system.workers := by simp [split]
  have mem_workers (other : Worker)
      (mem : other ∈ (system.withStep front back (next, shared)).workers) :
      other = next ∨ other ∈ system.workers := by
    rw [split]
    simp only [withStep, List.mem_append, List.mem_cons] at mem ⊢
    tauto
  refine arranged.alter rfl length queues evolves ?_ ?_ ?_ ?_ rfl
  · intro other mem
    rcases List.mem_cons.1 mem with rfl | mem
    · exact Or.inl List.mem_cons_self
    rcases List.mem_append.1 mem with mem | mem
    · obtain ⟨third, among, rfl⟩ := List.mem_map.1 mem
      rcases mem_workers third among with rfl | among
      · refine Or.inr ⟨known, ?_⟩
        rw [place]
        exact arranged.paths _ (List.mem_cons_of_mem _ (List.mem_append_left _
          (List.mem_map_of_mem here)))
      · exact Or.inl (List.mem_cons_of_mem _ (List.mem_append_left _ (List.mem_map_of_mem among)))
    · exact Or.inl (List.mem_cons_of_mem _ (List.mem_append_right _ mem))
  · intro other mem task result phase
    rcases mem_workers other mem with rfl | among
    · exact about task result phase
    · exact arranged.about other among task result phase
  · have same : (system.withStep front back (next, shared)).workers.map (·.id) =
        system.workers.map (·.id) := by
      simp only [withStep, split, List.map_append, List.map_cons, id]
    rw [same]
    exact arranged.workers
  · intro other mem
    rcases mem_workers other mem with rfl | among
    · exact id ▸ arranged.hired worker here
    · exact arranged.hired other among

end Workers

end System

namespace Worker

/-- A worker goes on without delivering anything: it tells the manager of no outcome but the one
that it is about to report, unless its result has to be kept back. -/
structure Passes (worker : Worker) (shared : Shared) (after : Worker × Shared) : Prop where
  /-- Its number stays, -/
  id : after.1.id = worker.id
  /-- its spill file, -/
  spill : after.1.spill = worker.spill
  /-- the inboxes -/
  inboxes : after.2.inboxes = shared.inboxes
  /-- and the disk. -/
  disk : after.2.disk = shared.disk
  /-- It tells of its outcome. -/
  told : ∃ told, after.2.events.waiting = shared.events.waiting ++ told ∧
    ∀ outcome ∈ after.1.phase.outcome?.toList ++ outcomesOf told,
      worker.phase.outcome? = some outcome ∨ outcome.delivery = .withheld
  /-- It is going to deliver a result about the file of its task. -/
  about : ∀ task started result, after.1.phase = .delivering task started result →
    result.About task.path

variable {worker : Worker} {shared : Shared}

/-- A worker that tells nothing. -/
theorem passes_quietly {phase : WorkerPhase} {others : Shared}
    (inboxes : others.inboxes = shared.inboxes) (disk : others.disk = shared.disk)
    (events : others.events = shared.events)
    (tells : ∀ outcome, phase.outcome? = some outcome → outcome.delivery = .withheld)
    (about : ∀ task started result, phase = .delivering task started result →
      result.About task.path) :
    worker.Passes shared ({ worker with phase := phase }, others) := by
  refine ⟨rfl, rfl, inboxes, disk, ⟨[], by rw [events, List.append_nil], fun outcome mem => ?_⟩,
    about⟩
  have own : outcome ∈ phase.outcome?.toList := by simpa [outcomesOf] using mem
  exact Or.inr (tells outcome (Option.mem_toList.1 own))

/-- A worker that tells the manager something. -/
theorem passes_report? {phase : WorkerPhase} {others : Shared} {event : WorkerEvent}
    (reported : shared.report? event = some others)
    (tells : ∀ outcome, event.outcome? = some outcome → worker.phase.outcome? = some outcome)
    (silent : phase.outcome? = none)
    (about : ∀ task started result, phase = .delivering task started result →
      result.About task.path) :
    worker.Passes shared ({ worker with phase := phase }, others) := by
  obtain ⟨told, less, inboxes, disk, events⟩ := Shared.report?_eq_some reported
  refine ⟨rfl, rfl, inboxes, disk, ⟨told, events, fun outcome mem => Or.inl ?_⟩, about⟩
  rw [silent, Option.toList_none, List.nil_append] at mem
  obtain ⟨other, inside, same⟩ := List.mem_filterMap.1 mem
  rw [List.mem_singleton.1 (less.subset inside)] at same
  exact tells outcome same

/-- A worker delivers its result or passes on. -/
theorem Goes.passes_or_delivers {rules : WorkerRules} {after : Worker × Shared}
    (goes : worker.Goes rules shared after) :
    worker.Passes shared after ∨ ∃ task started result,
      worker.phase = .delivering task started result ∧
        after = worker.deliver task result shared := by
  cases goes with
  | take | stop | close | crash =>
      exact Or.inl (passes_quietly rfl rfl rfl (by rintro _ ⟨⟩) (by rintro _ _ _ ⟨⟩))
  | find _ processed =>
      have about := about_of_process processed
      refine Or.inl ?_
      unfold judge
      split
      · refine passes_quietly rfl rfl rfl (fun outcome same => ?_) fun _ _ _ same => nomatch same
        cases same
        rfl
      · refine passes_quietly rfl rfl rfl (fun _ same => nomatch same)
          fun other since stamped same => ?_
        cases same
        exact about_stamp about _ _ _
  | @deliver task started result phase => exact Or.inr ⟨task, started, result, phase, rfl⟩
  | announce _ reported | leave _ reported =>
      exact Or.inl (passes_report? reported (by rintro _ ⟨⟩) rfl (by rintro _ _ _ ⟨⟩))
  | report phase reported =>
      refine Or.inl (passes_report? reported (fun other tells => ?_) rfl (by rintro _ _ _ ⟨⟩))
      cases tells
      rw [phase]
      rfl

end Worker

namespace System

variable {system after : System} {file : FileId} {directory : Path}

theorem Arranged.passes (arranged : system.Arranged file directory) {front back : List Worker}
    {worker : Worker} (split : system.workers = front ++ worker :: back) {next : Worker × Shared}
    (passes : worker.Passes system.shared next) :
    (system.withStep front back next).Arranged file directory := by
  have known := arranged.known worker.spill (List.mem_cons_of_mem _ (List.mem_append_left _
    (List.mem_map_of_mem (by simp [split]))))
  refine arranged.proceed split passes.id (congrArg List.length passes.inboxes)
    (fun shard inbox found => ?_) ?_ ?_ (congrArg SpillFile.path passes.spill) passes.about
  · exact ⟨inbox, passes.inboxes ▸ found, fun _ mem => Or.inl mem⟩
  · rw [passes.disk]
    exact Evolves.refl _
  · rwa [passes.spill, passes.disk]

theorem Arranged.deliver (arranged : system.Arranged file directory) {front back : List Worker}
    {worker : Worker} (split : system.workers = front ++ worker :: back) {task : Task}
    {started : Instant} {result : ExtractionResult}
    (phase : worker.phase = .delivering task started result) :
    (system.withStep front back (worker.deliver task result system.shared)).Arranged
      file directory := by
  have here : worker ∈ system.workers := by simp [split]
  have known := arranged.known worker.spill
    (List.mem_cons_of_mem _ (List.mem_append_left _ (List.mem_map_of_mem here)))
  have about := arranged.about worker here task started result phase
  have routes := @routes_route system.shared.inboxes worker.spill system.shared.disk result
    arranged.numbered known
  exact arranged.proceed split rfl routes.length (routes.queues about.2) routes.develops.toEvolves
    (routes.known known) routes.path fun _ _ _ same => nomatch same

theorem Arranged.goes (arranged : system.Arranged file directory) {front back : List Worker}
    {worker : Worker} (split : system.workers = front ++ worker :: back) {next : Worker × Shared}
    (goes : worker.Goes system.rules system.shared next) :
    (system.withStep front back next).Arranged file directory := by
  rcases goes.passes_or_delivers with passes | ⟨task, started, result, phase, rfl⟩
  · exact arranged.passes split passes
  · exact arranged.deliver split phase

/-! ## Writers -/

end System

namespace Writer

variable {writer : Writer} {disk : Disk} {inbox left : Inbox} {next : Writer × Disk}

theorem Turn.waiting (turn : writer.Turn disk inbox next left) : left.waiting ⊆ inbox.waiting := by
  cases turn with
  | accept received | dismiss received =>
      rw [Channel.waiting_of_receive? received]
      exact List.subset_cons_self _ _
  | close | flush => exact List.Subset.refl _

theorem Turn.continues (turn : writer.Turn disk inbox next left) (numbered : disk.Numbered)
    (known : writer.spill.Known disk) (file : writer.connection.file < disk.nextFile)
    (owns : ∀ result ∈ writer.buffer, result.OwnsRows)
    (owns' : ∀ result, .result result ∈ inbox.waiting → result.OwnsRows) :
    writer.Continues disk next ∧
      ∀ result ∈ next.1.buffer, result ∈ writer.buffer ∨ .result result ∈ inbox.waiting := by
  cases turn with
  | @accept result left received =>
      have first : .result result ∈ inbox.waiting :=
        Channel.waiting_of_receive? received ▸ List.mem_cons_self
      obtain ⟨handles, -⟩ := handles_accept numbered known file owns (owns' result first)
      refine ⟨handles.toContinues.of_keep, fun other mem => ?_⟩
      rcases List.mem_append.1 (handles.buffer mem) with mem | mem
      · exact Or.inl mem
      · exact Or.inr (List.mem_singleton.1 mem ▸ first)
  | flush =>
      obtain ⟨handles, -⟩ := handles_flush numbered known file owns
      exact ⟨handles.toContinues, fun other mem => Or.inl (handles.buffer mem)⟩
  | dismiss | close =>
      obtain ⟨handles, -⟩ := handles_leave numbered known file owns
      exact ⟨handles.toContinues, fun other mem => Or.inl (handles.buffer mem)⟩

end Writer

namespace System

variable {system after : System} {file : FileId} {directory : Path}

/-- A writer that goes on keeps what it held of its inbox, and takes nothing from elsewhere. -/
theorem Arranged.putWriter (arranged : system.Arranged file directory) {id : Nat}
    {writer next : Writer} {inbox left : Inbox} {disk : Disk}
    (works : system.writers[id]? = some writer) (found : system.shared.inboxes[id]? = some inbox)
    (continues : writer.Continues system.shared.disk (next, disk))
    (buffer : ∀ result ∈ next.buffer, result ∈ writer.buffer ∨ .result result ∈ inbox.waiting)
    (waiting : left.waiting ⊆ inbox.waiting) :
    (system.putWriter next left disk).Arranged file directory := by
  have place : next.id = id := continues.id.trans (arranged.ids id writer works)
  have inside := (List.getElem?_eq_some_iff.1 works).1
  have inside' := (List.getElem?_eq_some_iff.1 found).1
  have mem := List.mem_of_getElem? works
  have writers (shard : Nat) (other : Writer)
      (there : (system.writers.set next.id next)[shard]? = some other) :
      shard = id ∧ other = next ∨ system.writers[shard]? = some other := by
    rw [place] at there
    by_cases same : id = shard
    · subst same
      rw [List.getElem?_set_self inside] at there
      exact Or.inl ⟨rfl, (Option.some.inj there).symm⟩
    · rw [List.getElem?_set_ne same] at there
      exact Or.inr there
  have members (other : Writer) (there : other ∈ system.writers.set next.id next) :
      other = next ∨ other ∈ system.writers := by
    obtain ⟨shard, there⟩ := List.mem_iff_getElem?.1 there
    exact (writers shard other there).imp (·.2) List.mem_of_getElem?
  have spills (spill : SpillFile) (there : spill ∈ (system.putWriter next left disk).spills) :
      spill = next.spill ∨ spill ∈ system.spills := by
    rcases List.mem_cons.1 there with rfl | there
    · exact Or.inr List.mem_cons_self
    rcases List.mem_append.1 there with there | there
    · exact Or.inr (List.mem_cons_of_mem _ (List.mem_append_left _ there))
    · obtain ⟨other, among, rfl⟩ := List.mem_map.1 there
      rcases members other among with rfl | among
      · exact Or.inl rfl
      · exact Or.inr (List.mem_cons_of_mem _ (List.mem_append_right _ (List.mem_map_of_mem among)))
  have mine : writer.spill ∈ system.spills :=
    List.mem_cons_of_mem _ (List.mem_append_right _ (List.mem_map_of_mem mem))
  have length : (system.putWriter next left disk).shared.inboxes.length =
      system.shared.inboxes.length := List.length_set
  exact
    { inboxes := by
        simp only [System.putWriter, List.length_set]
        exact arranged.inboxes
      ids := fun shard other there => by
        rcases writers shard other there with ⟨rfl, rfl⟩ | there
        · exact place
        · exact arranged.ids shard other there
      connections := fun other there => by
        rcases members other there with rfl | there
        · rw [continues.connection]
          exact arranged.connections writer mem
        · exact arranged.connections other there
      database := Nat.lt_of_lt_of_le arranged.database continues.evolves.nextFile
      numbered := continues.evolves.numbered arranged.numbered
      known := fun spill there => by
        rcases spills spill there with rfl | there
        · exact continues.known
        · exact (arranged.known spill there).evolves continues.evolves
      paths := fun spill there => by
        rcases spills spill there with rfl | there
        · rw [continues.path]
          exact arranged.paths _ mine
        · exact arranged.paths spill there
      buffers := fun shard other there result held => by
        rw [length]
        rcases writers shard other there with ⟨rfl, rfl⟩ | there
        · rcases buffer result held with held | waits
          · exact arranged.buffers shard writer works result held
          · exact arranged.queues shard inbox found result waits
        · exact arranged.buffers shard other there result held
      queues := fun shard other there result waits => by
        rw [length]
        change (system.shared.inboxes.set next.id _)[shard]? = some other at there
        rw [place] at there
        by_cases same : id = shard
        · subst same
          rw [List.getElem?_set_self inside'] at there
          cases there
          exact arranged.queues id inbox found result (waiting waits)
        · rw [List.getElem?_set_ne same] at there
          exact arranged.queues shard other there result waits
      about := arranged.about
      workers := arranged.workers
      hired := arranged.hired
      spillsInto := arranged.spillsInto }

theorem Arranged.turn (arranged : system.Arranged file directory) {id : Nat} {writer : Writer}
    {inbox left : Inbox} {next : Writer × Disk} (works : system.writers[id]? = some writer)
    (found : system.shared.inboxes[id]? = some inbox)
    (turn : writer.Turn system.shared.disk inbox next left) :
    writer.Continues system.shared.disk next ∧
      (system.putWriter next.1 left next.2).Arranged file directory := by
  have mem := List.mem_of_getElem? works
  have known := arranged.known writer.spill
    (List.mem_cons_of_mem _ (List.mem_append_right _ (List.mem_map_of_mem mem)))
  have there : writer.connection.file < system.shared.disk.nextFile := by
    rw [arranged.connections writer mem]
    exact arranged.database
  obtain ⟨continues, buffer⟩ := turn.continues arranged.numbered known there
    (fun result mem => (arranged.buffers id writer works result mem).1)
    fun result mem => (arranged.queues id inbox found result mem).1
  exact ⟨continues, arranged.putWriter works found continues buffer turn.waiting⟩

/-! ## All threads -/

/-- Signs of life, the passing of time and interruptions touch nothing that has a place. -/
theorem Arranged.share (arranged : system.Arranged file directory) {shared : Shared}
    (inboxes : shared.inboxes = system.shared.inboxes) (disk : shared.disk = system.shared.disk) :
    { system with shared := shared }.Arranged file directory := by
  refine arranged.alter rfl (congrArg List.length inboxes) (fun shard inbox found => ?_) ?_
    (fun _ mem => Or.inl mem) arranged.about arranged.workers arranged.hired rfl
  · exact ⟨inbox, inboxes ▸ found, fun _ mem => Or.inl mem⟩
  · rw [disk]
    exact Evolves.refl _

/-- No move of a thread brings anything out of order. -/
theorem Arranged.moves (arranged : system.Arranged file directory) (moves : system.Moves after) :
    after.Arranged file directory := by
  cases moves with
  | manage stepped => exact arranged.managed stepped
  | work mem goes =>
      obtain ⟨front, back, split, same⟩ := exists_withStep arranged.workers mem goes.id
      exact same ▸ arranged.goes split goes
  | beat _ _ reported =>
      obtain ⟨told, -, inboxes, disk, -⟩ := Shared.report?_eq_some reported
      exact arranged.share inboxes disk
  | serve works found _ turn => exact (arranged.turn works found turn).2
  | pass | interrupt => exact arranged.share rfl rfl

/-- When the manager is done without giving up on anyone, all writers have left. -/
def Ended (system : System) : Prop :=
  system.manager.phase = .finished → system.manager.report.forceTerminated = 0 →
    ∀ writer ∈ system.writers, writer.finished = true

theorem Ended.moves (ended : system.Ended) (arranged : system.Arranged file directory)
    (moves : system.Moves after) : after.Ended := by
  cases moves with
  | @manage action next stepped =>
      intro finished none
      obtain ⟨checkpoint, saves, disk, ends, -⟩ :=
        system.manager.exists_endWriters system.shared system.finishedStats
      have last := (Manager.ends_of_step? stepped finished).trans ends
      have missing : system.shared.inboxes.length - system.finishedStats.length = 0 := by
        rw [withHired, withManager, last] at none
        exact Nat.eq_zero_of_add_eq_zero_left none
      exact @finished_of_missing system arranged.inboxes missing
  | serve works _ stays =>
      intro finished none
      have left := ended finished none _ (List.mem_of_getElem? works)
      exact nomatch left.symm.trans stays
  | work | beat | pass | interrupt => exact ended

theorem Arranged.step (arranged : system.Arranged file directory) (move : Move) :
    (system.step move).Arranged file directory :=
  step_induction (·.Arranged file directory) arranged (fun _ => arranged.moves) move

theorem Arranged.run (arranged : system.Arranged file directory) (course : List Move) :
    (system.run course).Arranged file directory :=
  run_induction (·.Arranged file directory) arranged (fun _ _ arranged => arranged.moves) course

theorem Ended.run (ended : system.Ended) (arranged : system.Arranged file directory)
    (course : List Move) : (system.run course).Ended :=
  (run_induction (fun after => after.Ended ∧ after.Arranged file directory) ⟨ended, arranged⟩
    (fun _ _ ⟨ended, arranged⟩ moves =>
      ⟨ended.moves arranged moves, arranged.moves moves⟩) course).1

end System

end PartsList
