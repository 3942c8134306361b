import PartsList.Proofs.Job.Sparing
import PartsList.Proofs.Spill.Abstaining

/-!
# Jobs that spill nothing

If no thread has opened a spill file in the end, the job has spilled nothing: whatever else the
threads have done to the disk, no file has come to hold results.
-/

namespace PartsList

open Disk SpillFile

theorem abstains_route (inboxes : List Inbox) (spill : SpillFile) (disk : Disk)
    (result : ExtractionResult) :
    Abstains (spill, disk)
      ((route inboxes spill disk result).spill, (route inboxes spill disk result).disk) := by
  have persists := abstains_persist spill result disk
  unfold route
  split
  · exact .refl _
  · split
    · next persisted =>
        rw [persisted] at persists
        exact persists
    · next persisted =>
        rw [persisted] at persists
        exact persists

/-! ## Writers -/

namespace Writer

variable {writer : Writer} {disk : Disk} {inbox left : Inbox} {next : Writer × Disk}

theorem abstains_spillOne (state : Writer × Disk) (result : ExtractionResult) :
    Abstains (state.1.spill, state.2)
      ((spillOne state result).1.spill, (spillOne state result).2) := by
  have persists := abstains_persist state.1.spill result state.2
  unfold spillOne
  dsimp only
  split
  · next persisted =>
      rw [persisted] at persists
      exact persists
  · next persisted =>
      rw [persisted] at persists
      exact persists

theorem abstains_foldl (results : List ExtractionResult) (state : Writer × Disk) :
    Abstains (state.1.spill, state.2)
      ((results.foldl spillOne state).1.spill, (results.foldl spillOne state).2) := by
  induction results generalizing state with
  | nil => exact .refl _
  | cons result results induction => exact (abstains_spillOne state result).trans (induction _)

theorem abstains_flush (writer : Writer) (disk : Disk) :
    Abstains (writer.spill, disk) ((writer.flush disk).1.spill, (writer.flush disk).2) := by
  have unspilled := writer.connection.unspilled_upsert writer.buffer disk
  unfold flush
  split
  · exact .refl _
  · dsimp only
    split
    · next taken =>
        rw [taken] at unspilled
        exact .of_unspilled unspilled
    · next refused =>
        rw [refused] at unspilled
        exact (Abstains.of_unspilled unspilled).trans
          (abstains_foldl _ (({ writer with buffer := [], bufferedRows := 0 } : Writer).refused, _))

theorem Turn.abstains (turn : writer.Turn disk inbox next left) :
    Abstains (writer.spill, disk) (next.1.spill, next.2) := by
  cases turn with
  | @accept result =>
      unfold Writer.accept
      dsimp only
      split
      · exact abstains_flush (writer.keep result) disk
      · exact .refl _
  | flush | dismiss | close => exact abstains_flush writer disk

end Writer

/-! ## The manager -/

namespace Manager

variable {manager : Manager} {shared : Shared} {before after : Manager × Shared}

theorem abstains_save (manager : Manager) (shared : Shared) :
    Abstains (manager.spill, shared.disk)
      ((manager.save shared).1.spill, (manager.save shared).2.disk) :=
  .of_unspilled (Checkpoint.unspilled_save _ _ _ _)

theorem abstains_record (manager : Manager) (shared : Shared) (task : Task) (outcome : Outcome) :
    Abstains (manager.spill, shared.disk)
      ((manager.record shared task outcome).1.spill,
        (manager.record shared task outcome).2.disk) := by
  simp only [record]
  split
  · exact .refl _
  · unfold saveIfDue
    split
    · exact abstains_save { (settle _ task outcome) with sinceSave := 0 } shared
    · exact .refl _

theorem abstains_conclude (manager : Manager) (shared : Shared) (task : Task)
    (result : ExtractionResult) :
    Abstains (manager.spill, shared.disk)
      ((manager.conclude shared task result).1.spill,
        (manager.conclude shared task result).2.disk) :=
  (abstains_route shared.inboxes manager.spill shared.disk (result.withAttempt task.attempt)).trans
    (abstains_record _ _ _ _)

theorem Deed.abstains (deed : Deed before after) :
    Abstains (before.1.spill, before.2.disk) (after.1.spill, after.2.disk) := by
  have quietly {noted : Manager × Shared} (quiet : Quiet before noted) :
      Abstains (before.1.spill, before.2.disk) (noted.1.spill, noted.2.disk) := by
    rw [quiet.spill, quiet.disk]
    exact .refl _
  cases deed with
  | note quiet => exact quietly quiet
  | accept quiet => exact (quietly quiet).trans (abstains_record _ _ _ _)
  | conclude quiet => exact (quietly quiet).trans (abstains_conclude _ _ _ _)
  | save => exact abstains_save _ _
  | dismiss _ _ _ quiet =>
      have noted := quietly quiet
      exact noted
  | release _ quiet =>
      have noted := quietly quiet
      exact noted

theorem abstains_of_deeds (deeds : Relation.ReflTransGen Deed before after) :
    Abstains (before.1.spill, before.2.disk) (after.1.spill, after.2.disk) := by
  induction deeds with
  | refl => exact .refl _
  | tail _ deed induction => exact induction.trans deed.abstains

end Manager

/-! ## Workers -/

theorem Worker.Goes.abstains {rules : WorkerRules} {worker : Worker} {shared : Shared}
    {after : Worker × Shared} (goes : worker.Goes rules shared after) :
    Abstains (worker.spill, shared.disk) (after.1.spill, after.2.disk) := by
  have told {event : WorkerEvent} {others : Shared}
      (reported : shared.report? event = some others) :
      Abstains (worker.spill, shared.disk) (worker.spill, others.disk) := by
    obtain ⟨events, rfl, -⟩ := Shared.exists_events_of_report? reported
    exact .refl _
  cases goes with
  | take | stop | close | crash | find => exact .refl _
  | announce _ reported | report _ reported | leave _ reported => exact told reported
  | deliver => exact abstains_route _ _ _ _

/-! ## All threads -/

namespace System

variable {system middle after : System} {file : FileId} {directory : Path}

/-- No thread has opened a spill file. -/
def OpensNone (system : System) : Prop :=
  ∀ spill ∈ system.spills, spill.file = none

/-- If no thread has opened a spill file in the end, none had opened one before, and nothing was
spilled. -/
def Abstains (system after : System) : Prop :=
  after.OpensNone → system.OpensNone ∧ system.shared.disk.Unspilled after.shared.disk

theorem Abstains.refl (system : System) : system.Abstains system :=
  fun none => ⟨none, .refl _⟩

theorem Abstains.trans (first : system.Abstains middle) (second : middle.Abstains after) :
    system.Abstains after := by
  intro none
  obtain ⟨none, later⟩ := second none
  obtain ⟨none, earlier⟩ := first none
  exact ⟨none, earlier.trans later⟩

/-- Of each thread's spill file only the thread decides. -/
theorem Abstains.of_thread {spill last : SpillFile}
    (abstains : SpillFile.Abstains (spill, system.shared.disk) (last, after.shared.disk))
    (mem : last ∈ after.spills)
    (others : ∀ other ∈ system.spills, other = spill ∨ other ∈ after.spills) :
    system.Abstains after := by
  intro none
  obtain ⟨own, unspilled⟩ := abstains (none last mem)
  refine ⟨fun other inside => ?_, unspilled⟩
  rcases others other inside with rfl | still
  · exact own
  · exact none other still

theorem abstains_withHired {action : Manager.Action} {next : Manager × Shared}
    (stepped : system.manager.step? system.shared system.finishedStats action = some next) :
    system.Abstains (system.withHired next) := by
  refine .of_thread (Manager.abstains_of_deeds (Manager.deeds_step? stepped)) List.mem_cons_self
    fun other mem => ?_
  rcases List.mem_cons.1 mem with own | mem
  · exact Or.inl own
  · exact Or.inr (spills_subset_withHired system next (List.mem_cons_of_mem _ mem))

theorem abstains_withStep {front back : List Worker} {worker : Worker} {next : Worker × Shared}
    (split : system.workers = front ++ worker :: back)
    (goes : worker.Goes system.rules system.shared next) :
    system.Abstains (system.withStep front back next) := by
  refine .of_thread goes.abstains (by simp [spills, withStep]) fun other mem => ?_
  simp only [spills, withStep, split, List.map_append, List.map_cons, List.mem_cons,
    List.mem_append] at mem ⊢
  tauto

theorem abstains_putWriter (arranged : system.Arranged file directory) {id : Nat} {writer : Writer}
    {inbox left : Inbox} {next : Writer × Disk} (works : system.writers[id]? = some writer)
    (found : system.shared.inboxes[id]? = some inbox)
    (turn : writer.Turn system.shared.disk inbox next left) :
    system.Abstains (system.putWriter next.1 left next.2) := by
  obtain ⟨continues, -⟩ := arranged.turn works found turn
  have place : next.1.id = id := continues.id.trans (arranged.ids id writer works)
  have inside := (List.getElem?_eq_some_iff.1 works).1
  have put (shard : Nat) (other : Writer)
      (there : (system.writers.set id next.1)[shard]? = some other) :
      other.spill ∈ (system.putWriter next.1 left next.2).spills := by
    rw [← place] at there
    exact List.mem_cons_of_mem _ (List.mem_append_right _
      (List.mem_map_of_mem (List.mem_of_getElem? there)))
  refine .of_thread turn.abstains (put id next.1 (List.getElem?_set_self inside))
    fun other mem => ?_
  rcases List.mem_cons.1 mem with rfl | mem
  · exact Or.inr List.mem_cons_self
  rcases List.mem_append.1 mem with mem | mem
  · exact Or.inr (List.mem_cons_of_mem _ (List.mem_append_left _ mem))
  obtain ⟨third, among, rfl⟩ := List.mem_map.1 mem
  obtain ⟨shard, there⟩ := List.mem_iff_getElem?.1 among
  by_cases here : id = shard
  · subst here
    cases works.symm.trans there
    exact Or.inl rfl
  · exact Or.inr (put shard third ((List.getElem?_set_ne here).trans there))

theorem Moves.abstains (moves : system.Moves after) (arranged : system.Arranged file directory) :
    system.Abstains after := by
  have share {shared : Shared} (disk : shared.disk = system.shared.disk) :
      system.Abstains { system with shared := shared } := fun none =>
    ⟨none, .of_contents (congrArg Disk.contents disk)⟩
  cases moves with
  | manage stepped => exact abstains_withHired stepped
  | work mem goes =>
      obtain ⟨front, back, split, same⟩ := exists_withStep arranged.workers mem goes.id
      exact same ▸ abstains_withStep split goes
  | beat _ _ reported =>
      obtain ⟨events, rfl, -⟩ := Shared.exists_events_of_report? reported
      exact share rfl
  | serve works found _ turn => exact abstains_putWriter arranged works found turn
  | pass | interrupt => exact share rfl

/-- If no thread has opened a spill file at the end of a course, nothing was spilled on it. -/
theorem abstains_run (arranged : system.Arranged file directory) (course : List Move) :
    system.Abstains (system.run course) :=
  (run_induction (fun after => system.Abstains after ∧ after.Arranged file directory)
    ⟨.refl system, arranged⟩ (fun _ _ ⟨abstains, arranged⟩ moves =>
      ⟨abstains.trans (moves.abstains arranged), arranged.moves moves⟩) course).1

end System

/-! ## Jobs -/

namespace Writers

variable {setup : Setup} {disk : Disk}

theorem unspilled_startFrom (first count : Nat) :
    disk.Unspilled (startFrom setup first count disk).2 := by
  induction count generalizing first disk with
  | zero => exact .refl disk
  | succ count induction =>
      have opened := Database.unspilled_openAt setup.database disk
      unfold startFrom
      split
      · next failed =>
          rw [failed] at opened
          exact opened
      · next connection middle connected =>
          rw [connected] at opened
          split
          · exact opened
          · have rest := opened.trans (@induction middle (first + 1))
            dsimp only
            split
            · next failed =>
                rw [failed] at rest
                exact rest
            · next started =>
                rw [started] at rest
                exact rest

theorem unspilled_start : disk.Unspilled (start setup disk).2 := by
  unfold start
  dsimp only
  split
  · exact .refl disk
  · exact unspilled_startFrom 0 _

end Writers

namespace Job

variable {job : Job} {disk : Disk} {paths : List Path} {start : Progress} {system : System}

theorem unspilled_prepare (prepared : job.prepare disk = .ok (paths, start)) :
    disk.Unspilled start.disk := by
  obtain ⟨connection, opened, checkpoint, loaded, discovered, connected, read, -, rfl, rfl⟩ :=
    prepare_eq_ok prepared
  have opens := Database.unspilled_openAt job.settings.databasePath disk
  have loads := job.grows_loadCheckpoint opened
  rw [connected] at opens
  rw [read] at loads
  exact opens.trans loads.unspilled

theorem unspilled_engage (engaged : job.engage paths start = .ok system) :
    start.disk.Unspilled system.shared.disk := by
  obtain ⟨plan, supervisor, writers, opened, -, starting, same, -⟩ := engage_eq_ok engaged
  have starts := @Writers.unspilled_start (job.writerSetup plan) start.disk
  rw [starting] at starts
  rw [same]
  dsimp only
  rw [Manager.disk_spawnAll]
  exact starts

end Job

end PartsList
