import PartsList.Proofs.Job.Arrangement

/-!
# Threads at the start

Before any worker is started, everything is in its place and nothing has happened.  The manager
starts the first workers by the same deeds by which it replaces others later.
-/

namespace PartsList

open Disk

namespace Writers

variable {setup : Setup} {first count : Nat} {disk opened : Disk} {started : List (Writer × Inbox)}

/-- Writers that were just started: they are connected, hold nothing and have been sent nothing. -/
structure Starts (setup : Setup) (first : Nat) (disk : Disk) (started : List (Writer × Inbox))
    (opened : Disk) : Prop where
  /-- Files evolve. -/
  evolves : disk.Evolves opened
  /-- Each writer holds nothing, and its connection is to a file that is there. -/
  idle : ∀ (index : Nat) (writer : Writer) (inbox : Inbox),
    started[index]? = some (writer, inbox) →
      (∃ connection : Connection, connection.file < opened.nextFile ∧
        writer = Writer.start (first + index) connection setup.batchRows setup.spillDirectory) ∧
          inbox.waiting = [] ∧ inbox.senderGone = false

theorem starts_startFrom (numbered : disk.Numbered)
    (starting : startFrom setup first count disk = (.ok started, opened)) :
    Starts setup first disk started opened := by
  induction count generalizing first disk started with
  | zero =>
      cases starting
      exact ⟨Evolves.refl _, fun _ _ _ there => nomatch there⟩
  | succ count induction =>
      have connects := Database.connects_openAt numbered setup.database
      unfold startFrom at starting
      split at starting
      · cases starting
      · next connection middle connected =>
          rw [connected] at connects
          split at starting
          · cases starting
          · next inbox made =>
              dsimp only at starting
              split at starting
              · cases starting
              · next others last more =>
                  cases starting
                  have rest := induction (connects.evolves.numbered numbered) more
                  refine ⟨connects.evolves.trans rest.evolves, fun index writer box there => ?_⟩
                  cases index with
                  | zero =>
                      cases there
                      have empty : inbox.waiting = [] ∧ inbox.senderGone = false := by
                        unfold makeInbox Channel.make at made
                        split at made
                        · cases made
                        · split at made
                          · cases made
                          · cases made
                            exact ⟨rfl, rfl⟩
                      exact ⟨⟨connection, Nat.lt_of_lt_of_le (connects.file connection rfl)
                        rest.evolves.nextFile, rfl⟩, empty⟩
                  | succ index =>
                      obtain ⟨⟨other, old, rfl⟩, empty⟩ := rest.idle index writer box there
                      exact ⟨⟨other, old, by rw [Nat.succ_add_eq_add_succ]⟩, empty⟩

theorem starts_start (numbered : disk.Numbered)
    (starting : start setup disk = (.ok started, opened)) :
    Starts setup 0 disk started opened := by
  unfold start at starting
  dsimp only at starting
  split at starting
  · cases starting
  · exact starts_startFrom numbered starting

end Writers

namespace System

/-- No worker has been started and nothing has happened. -/
structure Unstarted (system : System) (file : FileId) (directory : Path) (start : Disk) : Prop
    extends system.Arranged file directory, system.Staying where
  /-- Files have evolved since the start. -/
  since : start.Evolves system.shared.disk
  /-- There are no workers. -/
  none : system.workers = []
  /-- Nobody has told anything. -/
  events : system.shared.events.waiting = []
  /-- The manager knows of no outcome. -/
  history : system.manager.history = []
  /-- It has not tried to save the checkpoint. -/
  saves : system.manager.saves = []
  /-- It is about to give out tasks. -/
  phase : system.manager.phase = .dispatching

end System

namespace Job

variable {job : Job} {disk : Disk} {paths : List Path} {progress : Progress} {system : System}

theorem grows_loadCheckpoint (job : Job) (disk : Disk) :
    disk.Grows (job.loadCheckpoint disk).2 := by
  have loads := Checkpoint.grows_load job.settings.checkpointPath disk
  unfold loadCheckpoint
  split
  · next loaded => rwa [loaded] at loads
  · next loaded =>
      rw [loaded] at loads
      split <;> exact loads

theorem evolves_prepare (numbered : disk.Numbered)
    (prepared : job.prepare disk = .ok (paths, progress)) :
    disk.Evolves progress.disk ∧ progress.connection.file < progress.disk.nextFile := by
  have connects := Database.connects_openAt numbered job.settings.databasePath
  obtain ⟨connection, opened, checkpoint, loaded, discovered, connected, read, -, -, rfl⟩ :=
    prepare_eq_ok prepared
  rw [connected] at connects
  have loads := job.grows_loadCheckpoint opened
  rw [read] at loads
  have develops := loads.develops
  exact ⟨connects.evolves.trans develops.toEvolves,
    Nat.lt_of_lt_of_le (connects.file connection rfl) develops.nextFile⟩

/-- Threads come from a state in which nothing has happened: the manager starts the first
workers. -/
theorem exists_unstarted (numbered : disk.Numbered)
    (prepared : job.prepare disk = .ok (paths, progress))
    (engaged : job.engage paths progress = .ok system)
    (one : ∀ writer ∈ system.writers, writer.connection.file = progress.connection.file) :
    ∃ (idle : System) (count : Nat),
      idle.Unstarted progress.connection.file job.settings.fallbackDir disk ∧
        system = idle.withHired (Manager.spawnAll count idle.manager idle.shared) := by
  obtain ⟨evolves, old⟩ := evolves_prepare numbered prepared
  obtain ⟨plan, supervisor, started, opened, -, starting, same, -⟩ := engage_eq_ok engaged
  have starts := Writers.starts_start (evolves.numbered numbered) starting
  let idle : System :=
    { rules := job.workerRules plan
      shared := job.sharedAtStart plan progress (started.map (·.2)) opened
      manager := job.managerAtStart plan paths progress supervisor
      writers := started.map (·.1) }
  have writers (shard : Nat) (writer : Writer) (there : idle.writers[shard]? = some writer) :
      ∃ connection : Connection, connection.file < opened.nextFile ∧
        writer = Writer.start shard connection job.settings.batchRows job.settings.fallbackDir := by
    obtain ⟨⟨other, inbox⟩, found, rfl⟩ := Option.map_eq_some_iff.1 (List.getElem?_map ▸ there)
    have ready := (starts.idle shard other inbox found).1
    rwa [Nat.zero_add] at ready
  have inboxes (shard : Nat) (inbox : Inbox)
      (there : idle.shared.inboxes[shard]? = some inbox) :
      inbox.waiting = [] ∧ inbox.senderGone = false := by
    obtain ⟨⟨writer, other⟩, found, rfl⟩ := Option.map_eq_some_iff.1 (List.getElem?_map ▸ there)
    exact (starts.idle shard writer other found).2
  have spills (spill : SpillFile) (mem : spill ∈ idle.spills) :
      ∃ producer, spill = .forProducer job.settings.fallbackDir producer := by
    rcases List.mem_cons.1 mem with rfl | mem
    · exact ⟨.manager, rfl⟩
    · obtain ⟨writer, among, rfl⟩ := List.mem_map.1 mem
      obtain ⟨shard, there⟩ := List.mem_iff_getElem?.1 among
      obtain ⟨connection, -, rfl⟩ := writers shard writer there
      exact ⟨.writer shard, rfl⟩
  refine ⟨idle, plan.workerCount, ?_, same⟩
  exact
    { inboxes := by simp [idle, sharedAtStart]
      ids := fun shard writer there => by
        obtain ⟨connection, -, rfl⟩ := writers shard writer there
        rfl
      connections := by
        rw [same] at one
        exact one
      database := Nat.lt_of_lt_of_le old starts.evolves.nextFile
      numbered := starts.evolves.numbered (evolves.numbered numbered)
      known := fun spill mem => by
        obtain ⟨producer, rfl⟩ := spills spill mem
        exact nofun
      paths := fun spill mem => by
        obtain ⟨producer, rfl⟩ := spills spill mem
        exact ⟨producer, rfl⟩
      buffers := fun shard writer there result mem => by
        obtain ⟨connection, -, rfl⟩ := writers shard writer there
        cases mem
      queues := fun shard inbox there result mem => by
        rw [(inboxes shard inbox there).1] at mem
        cases mem
      about := fun _ mem => absurd mem List.not_mem_nil
      workers := List.nodup_nil
      hired := fun _ mem => absurd mem List.not_mem_nil
      spillsInto := rfl
      open_ := fun inbox mem => by
        obtain ⟨shard, there⟩ := List.mem_iff_getElem?.1 mem
        obtain ⟨empty, sends⟩ := inboxes shard inbox there
        exact ⟨empty ▸ List.not_mem_nil, sends⟩
      stays := fun writer mem => by
        obtain ⟨shard, there⟩ := List.mem_iff_getElem?.1 mem
        obtain ⟨connection, -, rfl⟩ := writers shard writer there
        rfl
      since := evolves.trans starts.evolves
      none := rfl
      events := rfl
      saves := rfl
      history := rfl
      phase := rfl }

end Job

end PartsList
