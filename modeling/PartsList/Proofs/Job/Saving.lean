import Mathlib.Data.List.Chain
import PartsList.Proofs.Checkpoint.RoundTrip
import PartsList.Proofs.Job.Marking
import PartsList.Proofs.Job.Reconciling

/-!
# Saving the checkpoint

The manager tries to save the checkpoint whenever fifty final outcomes were recorded since it did so
last, and once more in the end.  At any time the checkpoint is the one that the last attempt was
about, with the final outcomes recorded that have come since.  After the replay of the spill files
the job saves it again if there was anything to correct.
-/

namespace PartsList

/-- The checkpoint with outcomes recorded, the last of which comes first. -/
def Checkpoint.markAll (checkpoint : Checkpoint) (outcomes : List Recorded) : Checkpoint :=
  outcomes.foldr
    (fun recorded checkpoint => checkpoint.mark recorded.task.path recorded.outcome.result.success)
    checkpoint

namespace Manager

variable {manager noted : Manager} {shared : Shared} {start : Checkpoint}
  {before after : Manager × Shared}

/-- The choices for the job and the time of day stay as they are. -/
structure Steady (before after : Manager × Shared) : Prop where
  /-- The choices stay. -/
  settings : after.1.settings = before.1.settings
  /-- The time of day stays. -/
  today : after.2.today = before.2.today

theorem Quiet.steady (quiet : Quiet before after) : Steady before after :=
  ⟨quiet.settings, quiet.today⟩

theorem Deed.steady (deed : Deed before after) : Steady before after := by
  cases deed with
  | note quiet => exact quiet.steady
  | @accept _ noted _ entry outcome quiet =>
      have accounts := accounts_record noted.1 noted.2 entry.task outcome
      exact ⟨accounts.settings.trans quiet.settings, accounts.today.trans quiet.today⟩
  | @conclude _ noted entry code message metrics quiet =>
      have accounts := accounts_conclude noted.1 noted.2 entry.task
        (ExtractionResult.failed entry.task.path code message metrics)
      exact ⟨accounts.settings.trans quiet.settings, accounts.today.trans quiet.today⟩
  | save => exact ⟨rfl, rfl⟩
  | dismiss _ _ _ quiet => exact ⟨quiet.settings, quiet.today⟩
  | release _ quiet => exact ⟨quiet.settings, quiet.today⟩

theorem steady_of_deeds (deeds : Relation.ReflTransGen Deed before after) :
    Steady before after := by
  induction deeds with
  | refl => exact ⟨rfl, rfl⟩
  | tail _ deed induction =>
      exact ⟨deed.steady.settings.trans induction.settings, deed.steady.today.trans induction.today⟩

theorem checkpointPath_of_deeds (deeds : Relation.ReflTransGen Deed before after) :
    after.1.settings.checkpointPath = before.1.settings.checkpointPath :=
  congrArg Settings.checkpointPath (steady_of_deeds deeds).settings

/-- The final ones among later records that are not among the earlier ones. -/
def finalsSince (earlier later : List Recorded) : List Recorded :=
  (later.take (later.length - earlier.length)).filter (·.final)

/-- The outcomes that were recorded at the last attempt at saving the checkpoint. -/
def recordedThen (manager : Manager) : List Recorded :=
  (manager.saves.head?.map (·.recorded)).getD []

/-- The final outcomes that have come since, the latest first. -/
def unsaved (manager : Manager) : List Recorded :=
  finalsSince manager.recordedThen manager.history

/-- The checkpoint that the last attempt was about, or the given one if there was none. -/
def checkpointThen (manager : Manager) (start : Checkpoint) : Checkpoint :=
  (manager.saves.head?.map (·.checkpoint)).getD start

section Congr

variable {manager noted : Manager} (saves : noted.saves = manager.saves)
include saves

theorem recordedThen_congr : noted.recordedThen = manager.recordedThen := by
  rw [recordedThen, saves, recordedThen]

theorem checkpointThen_congr (start : Checkpoint) :
    noted.checkpointThen start = manager.checkpointThen start := by
  rw [checkpointThen, saves, checkpointThen]

end Congr

theorem finalsSince_append (front earlier : List Recorded) :
    finalsSince earlier (front ++ earlier) = front.filter (·.final) := by
  rw [finalsSince, List.length_append, Nat.add_sub_cancel, List.take_left]

theorem finalsSince_self (records : List Recorded) : finalsSince records records = [] :=
  finalsSince_append [] records

/-- What the manager keeps in mind of the checkpoint and of the attempts at saving it. -/
structure Tracks (manager : Manager) (start : Checkpoint) : Prop where
  /-- What was recorded stays recorded. -/
  recorded : manager.recordedThen <:+ manager.history
  /-- All outcomes since the last attempt are counted. -/
  counted : manager.unsaved.length ≤ manager.sinceSave
  /-- No attempt has come later than it should. -/
  spaced : (manager.saves.map SaveAttempt.recorded ++ [[]]).IsChain fun later earlier =>
    (finalsSince earlier later).length ≤ checkpointEvery
  /-- The sets are in order. -/
  ordered : manager.checkpoint.IsOrdered
  /-- Outcomes since the last attempt are all that is new. -/
  marked : manager.checkpoint = (manager.checkpointThen start).markAll manager.unsaved
  /-- An attempt that succeeded and has left a file has left the checkpoint in it. -/
  filed : ∀ attempt ∈ manager.saves, attempt.answer = .ok () →
    attempt.disk.isFile manager.settings.checkpointPath = true →
      attempt.disk.checkpointAt manager.settings.checkpointPath = .ok attempt.checkpoint

theorem Tracks.congr (tracks : manager.Tracks start)
    (same : (noted.settings, noted.checkpoint, noted.sinceSave, noted.history, noted.saves) =
      (manager.settings, manager.checkpoint, manager.sinceSave, manager.history, manager.saves)) :
    noted.Tracks start := by
  simp only [Prod.mk.injEq] at same
  obtain ⟨settings, checkpoint, sinceSave, history, saves⟩ := same
  have unsaved : noted.unsaved = manager.unsaved := by
    rw [Manager.unsaved, recordedThen_congr saves, history, Manager.unsaved]
  refine ⟨?_, ?_, ?_, ?_, ?_, ?_⟩
  · rw [recordedThen_congr saves, history]
    exact tracks.recorded
  · rw [unsaved, sinceSave]
    exact tracks.counted
  · rw [saves]
    exact tracks.spaced
  · rw [checkpoint]
    exact tracks.ordered
  · rw [checkpoint, checkpointThen_congr saves, unsaved]
    exact tracks.marked
  · rw [saves, settings]
    exact tracks.filed

/-- A record that is added is new unless it stands for another attempt at its file. -/
theorem unsaved_of_cons (recorded : manager.recordedThen <:+ manager.history) {entry : Recorded}
    (history : noted.history = entry :: manager.history) (saves : noted.saves = manager.saves) :
    noted.unsaved = if entry.final then entry :: manager.unsaved else manager.unsaved := by
  obtain ⟨front, whole⟩ := recorded
  rw [unsaved, unsaved, recordedThen_congr saves, history, ← whole, ← List.cons_append,
    finalsSince_append, finalsSince_append, List.filter_cons]

/-- An attempt at saving the checkpoint leaves nothing to be saved. -/
theorem Tracks.save (tracks : manager.Tracks start)
    (few : manager.unsaved.length ≤ checkpointEvery) (told : shared.today.IsClockTime)
    (count : Nat) : ({ manager with sinceSave := count }.save shared).1.Tracks start := by
  have stamped := manager.checkpoint.checkpoint_save manager.settings.checkpointPath shared.today
    shared.disk
  have none : ({ manager with sinceSave := count }.save shared).1.unsaved = [] :=
    finalsSince_self manager.history
  refine ⟨List.suffix_rfl, ?_, ?_, ?_, ?_, ?_⟩
  · rw [none]
    exact Nat.zero_le _
  · refine List.isChain_cons.2 ⟨fun earlier first => ?_, tracks.spaced⟩
    have last : earlier = manager.recordedThen := by
      rw [recordedThen]
      cases saves : manager.saves <;> rw [saves] at first <;> exact (Option.some.inj first).symm
    rw [last]
    exact few
  · exact (congrArg Checkpoint.IsOrdered stamped).mpr
      ⟨tracks.ordered.completed, tracks.ordered.failed⟩
  · rw [none]
    rfl
  · intro attempt mem answer file
    rcases List.mem_cons.1 mem with rfl | old
    · exact (tracks.ordered.checkpointAt_save told ⟨answer, file⟩).trans
        (congrArg Except.ok stamped.symm)
    · exact tracks.filed attempt old answer file

/-- A final outcome that is recorded is marked and counted, and another attempt is not. -/
theorem Tracks.push (tracks : manager.Tracks start) {entry : Recorded}
    (settings : noted.settings = manager.settings)
    (history : noted.history = entry :: manager.history) (saves : noted.saves = manager.saves)
    (sinceSave : noted.sinceSave = manager.sinceSave + if entry.final then 1 else 0)
    (checkpoint : noted.checkpoint =
      if entry.final then manager.checkpoint.mark entry.task.path entry.outcome.result.success
      else manager.checkpoint) : noted.Tracks start := by
  have unsaved := unsaved_of_cons tracks.recorded history saves
  refine ⟨?_, ?_, ?_, ?_, ?_, ?_⟩
  · rw [recordedThen_congr saves, history]
    exact tracks.recorded.trans (List.suffix_cons _ _)
  · rw [unsaved, sinceSave]
    split
    · exact Nat.succ_le_succ tracks.counted
    · exact tracks.counted
  · rw [saves]
    exact tracks.spaced
  · rw [checkpoint]
    split
    · exact tracks.ordered.mark _ _
    · exact tracks.ordered
  · rw [checkpoint, checkpointThen_congr saves, unsaved, tracks.marked]
    split <;> rfl
  · rw [saves, settings]
    exact tracks.filed

/-- Accounting for an outcome adds to what is to be saved, or saves it. -/
theorem Tracks.record (tracks : manager.Tracks start) (few : manager.sinceSave < checkpointEvery)
    (told : shared.today.IsClockTime) (task : Task) (outcome : Outcome) :
    (manager.record shared task outcome).1.Tracks start ∧
      (manager.record shared task outcome).1.sinceSave < checkpointEvery := by
  unfold Manager.record
  dsimp only
  split
  · next again =>
      rw [again]
      exact ⟨@push _ _ _ tracks ⟨task, outcome, false⟩ rfl rfl rfl rfl rfl, few⟩
  · next final =>
      rw [Bool.not_eq_true] at final
      rw [final]
      generalize settles : Manager.settle _ task outcome = settled
      have pushed : settled.Tracks start ∧ settled.sinceSave = manager.sinceSave + 1 := by
        rw [← settles]
        exact ⟨@push _ _ _ tracks ⟨task, outcome, true⟩ rfl rfl rfl rfl rfl, rfl⟩
      obtain ⟨pushed, counts⟩ := pushed
      unfold saveIfDue
      split
      · refine ⟨pushed.save ?_ told 0, Nat.succ_pos _⟩
        exact Nat.le_trans pushed.counted (counts ▸ few)
      · next early => exact ⟨pushed, Nat.lt_of_not_le early⟩

/-- Whatever the manager does, fewer than fifty final outcomes are not saved afterwards. -/
theorem Deed.tracks (deed : Deed before after) (tracks : before.1.Tracks start)
    (few : before.1.sinceSave < checkpointEvery) (told : before.2.today.IsClockTime) :
    after.1.Tracks start ∧ after.1.sinceSave < checkpointEvery := by
  have quietly {noted : Manager × Shared} (quiet : Quiet before noted) :
      noted.1.Tracks start ∧ noted.1.sinceSave < checkpointEvery := by
    refine ⟨tracks.congr ?_, quiet.sinceSave ▸ few⟩
    rw [quiet.settings, quiet.checkpoint, quiet.sinceSave, quiet.history, quiet.saves]
  cases deed with
  | note quiet => exact quietly quiet
  | @accept _ noted _ entry outcome quiet =>
      obtain ⟨still, few⟩ := quietly quiet
      exact still.record few (quiet.today ▸ told) entry.task outcome
  | @conclude _ noted entry code message metrics quiet =>
      obtain ⟨still, few⟩ := quietly quiet
      have spills (spill : SpillFile) : { noted.1 with spill := spill }.Tracks start :=
        still.congr rfl
      refine (spills _).record ?_ ?_ entry.task _
      · exact few
      · exact quiet.today ▸ told
  | @save manager shared =>
      exact ⟨tracks.save (Nat.le_trans tracks.counted (Nat.le_of_lt few)) told manager.sinceSave,
        few⟩
  | dismiss _ _ _ quiet | release _ quiet =>
      have still := quietly quiet
      exact still

theorem tracks_of_deeds (deeds : Relation.ReflTransGen Deed before after)
    (tracks : before.1.Tracks start) (few : before.1.sinceSave < checkpointEvery)
    (told : before.2.today.IsClockTime) :
    after.1.Tracks start ∧ after.1.sinceSave < checkpointEvery := by
  induction deeds with
  | refl => exact ⟨tracks, few⟩
  | tail earlier deed induction =>
      exact deed.tracks induction.1 induction.2 ((steady_of_deeds earlier).today ▸ told)

end Manager

namespace System

variable {system after : System} {path : Path} {start : Checkpoint}

/-- What the manager keeps in mind of the checkpoint while the threads take their course. -/
structure Tracks (system : System) (path : Path) (start : Checkpoint) : Prop where
  /-- The manager uses the file. -/
  place : system.manager.settings.checkpointPath = path
  /-- The manager knows what is not saved yet. -/
  manager : system.manager.Tracks start
  /-- Those are fewer than fifty outcomes. -/
  few : system.manager.sinceSave < Manager.checkpointEvery
  /-- The clock shows the time of day. -/
  told : system.shared.today.IsClockTime
  /-- The manager tries to save all outcomes before it is done. -/
  finished : system.manager.phase = .finished →
    ∃ attempt earlier, system.manager.saves = attempt :: earlier ∧
      attempt.recorded = system.manager.history

theorem Tracks.managed (tracks : system.Tracks path start) {action : Manager.Action}
    {next : Manager × Shared}
    (stepped : system.manager.step? system.shared system.finishedStats action = some next) :
    (system.withHired next).Tracks path start := by
  have deeds := Manager.deeds_step? stepped
  have steady := Manager.steady_of_deeds deeds
  obtain ⟨manager, few⟩ :=
    Manager.tracks_of_deeds deeds tracks.manager tracks.few tracks.told
  refine ⟨(Manager.checkpointPath_of_deeds deeds).trans tracks.place, manager, few,
    steady.today ▸ tracks.told, fun finished => ?_⟩
  dsimp only [withHired, withManager] at finished ⊢
  rw [Manager.ends_of_step? stepped finished]
  exact ⟨_, _, rfl, rfl⟩

theorem Tracks.moves (tracks : system.Tracks path start) (moves : system.Moves after) :
    after.Tracks path start := by
  have still {shared : Shared} {workers : List Worker} {writers : List Writer}
      (today : shared.today = system.shared.today) :
      Tracks { system with shared := shared, workers := workers, writers := writers } path start :=
    { tracks with told := today ▸ tracks.told }
  cases moves with
  | manage stepped => exact tracks.managed stepped
  | work _ goes => exact still goes.today
  | beat _ _ reported =>
      obtain ⟨events, rfl, -⟩ := Shared.exists_events_of_report? reported
      exact still rfl
  | serve | pass | interrupt => exact still rfl

theorem Tracks.run (tracks : system.Tracks path start) (course : List Move) :
    (system.run course).Tracks path start :=
  run_induction (·.Tracks path start) tracks (fun _ _ tracks => tracks.moves) course

end System

/-- The attempt has succeeded and has left a file, and the file tells the same on the given disk. -/
structure SaveAttempt.Holds (attempt : SaveAttempt) (path : Path) (disk : Disk) : Prop where
  /-- It has succeeded. -/
  answer : attempt.answer = .ok ()
  /-- There is a file. -/
  file : attempt.disk.isFile path = true
  /-- The file tells the same. -/
  spared : disk.checkpointAt path = attempt.disk.checkpointAt path

instance (attempt : SaveAttempt) (path : Path)
    (disk : Disk) : Decidable (attempt.Holds path disk) :=
  decidable_of_iff (attempt.answer = .ok () ∧ attempt.disk.isFile path = true ∧
      disk.checkpointAt path = attempt.disk.checkpointAt path)
    ⟨fun holds => ⟨holds.1, holds.2.1, holds.2.2⟩,
      fun holds => ⟨holds.answer, holds.file, holds.spared⟩⟩

/-- A file that holds tells the checkpoint that the manager has in mind but for what is not
saved. -/
theorem Manager.Tracks.tells {manager : Manager} {start : Checkpoint} {attempt : SaveAttempt}
    {disk : Disk} (tracks : manager.Tracks start) (last : manager.saves.head? = some attempt)
    (holds : attempt.Holds manager.settings.checkpointPath disk) :
    disk.checkpointAt manager.settings.checkpointPath = .ok attempt.checkpoint ∧
      manager.checkpoint = attempt.checkpoint.markAll manager.unsaved := by
  have mem : attempt ∈ manager.saves := List.mem_of_mem_head? last
  refine ⟨holds.spared.trans (tracks.filed attempt mem holds.answer holds.file), ?_⟩
  have marked := tracks.marked
  rwa [Manager.checkpointThen, last] at marked

/-- Once the threads are done, a file that holds tells the checkpoint that the manager has in
mind. -/
theorem System.Tracks.tells {system : System} {path : Path} {start : Checkpoint}
    {attempt : SaveAttempt} {disk : Disk} (tracks : system.Tracks path start)
    (finished : system.manager.phase = .finished)
    (last : system.manager.saves.head? = some attempt) (holds : attempt.Holds path disk) :
    disk.checkpointAt path = .ok system.manager.checkpoint := by
  obtain ⟨final, earlier, saves, all⟩ := tracks.finished finished
  cases Option.some.inj (last.symm.trans (congrArg List.head? saves))
  have unsaved : system.manager.unsaved = [] := by
    rw [Manager.unsaved, Manager.recordedThen, last]
    exact all ▸ Manager.finalsSince_self _
  rw [← tracks.place] at holds ⊢
  obtain ⟨tells, marked⟩ := tracks.manager.tells last holds
  rw [unsaved] at marked
  rw [tells, marked]
  rfl

namespace Job

variable {job : Job} {disk left : Disk} {paths : List Path} {start worked reconciled : Progress}
  {system : System}

/-! ## Whole jobs -/

/-- The checkpoint's file is the same on two disks. -/
def Spares (job : Job) (disk after : Disk) : Prop :=
  after.checkpointAt job.settings.checkpointPath = disk.checkpointAt job.settings.checkpointPath

instance (job : Job) (disk after : Disk) : Decidable (job.Spares disk after) :=
  inferInstanceAs (Decidable (_ = _))

/-- The checkpoint that a job starts with is in order. -/
theorem isOrdered_of_prepare (prepared : job.prepare disk = .ok (paths, start)) :
    start.checkpoint.IsOrdered := by
  obtain ⟨_, opened, checkpoint, loaded, _, -, read, -, -, rfl⟩ := prepare_eq_ok prepared
  unfold loadCheckpoint at read
  split at read
  · next loads =>
      cases read
      exact Checkpoint.isOrdered_of_load loads
  · split at read
    · cases read
    · cases read
      exact Checkpoint.isOrdered_empty

theorem tracks_engage (prepared : job.prepare disk = .ok (paths, start))
    (engaged : job.engage paths start = .ok system) (told : job.today.IsClockTime) :
    system.Tracks job.settings.checkpointPath start.checkpoint := by
  obtain ⟨plan, supervisor, writers, opened, -, -, rfl, -⟩ := engage_eq_ok engaged
  have deeds := Manager.deeds_spawnAll plan.workerCount
    (job.managerAtStart plan paths start supervisor)
    (job.sharedAtStart plan start (writers.map (·.2)) opened)
  have idle : (job.managerAtStart plan paths start supervisor).Tracks start.checkpoint :=
    ⟨List.suffix_rfl, Nat.le_refl 0, List.isChain_singleton _, isOrdered_of_prepare prepared, rfl,
      nofun⟩
  have steady := Manager.steady_of_deeds deeds
  obtain ⟨manager, few⟩ := Manager.tracks_of_deeds deeds idle (Nat.succ_pos 49) told
  refine ⟨Manager.checkpointPath_of_deeds deeds, manager, few, steady.today ▸ told,
    fun finished => ?_⟩
  dsimp only at finished
  rw [Manager.phase_spawnAll] at finished
  cases finished

/-- Corrections that are saved are in the checkpoint's file. -/
theorem checkpointAt_saveCorrections {aligned : Progress} (ordered : aligned.checkpoint.IsOrdered)
    (told : job.today.IsClockTime) (some_ : aligned.report.checkpointCorrections ≠ 0)
    (saves : (job.saveCorrections aligned).checkpoint.Saves job.settings.checkpointPath job.today
      aligned.disk) :
    (job.saveCorrections aligned).disk.checkpointAt job.settings.checkpointPath =
      .ok (job.saveCorrections aligned).checkpoint := by
  unfold saveCorrections at saves ⊢
  rw [if_neg some_] at saves ⊢
  dsimp only at saves ⊢
  rw [Checkpoint.checkpoint_save] at saves ⊢
  have stamped : { aligned.checkpoint with updatedAt := some job.today : Checkpoint }.IsOrdered :=
    ⟨ordered.completed, ordered.failed⟩
  have tells := stamped.checkpointAt_save told saves
  rwa [aligned.checkpoint.save_updatedAt (some job.today)] at tells

/-- In the end the file tells the checkpoint that the job has in mind: what the threads have left to
it, if there was nothing to correct, and else the corrections, if those are saved and stay. -/
theorem checkpointAt_of_reconcile (told : job.today.IsClockTime)
    (ordered : worked.checkpoint.IsOrdered) (reconciles : job.reconcile worked = .ok reconciled)
    (threads : reconciled.report.checkpointCorrections = 0 →
      left.checkpointAt job.settings.checkpointPath = .ok worked.checkpoint)
    (corrections : reconciled.report.checkpointCorrections ≠ 0 →
      reconciled.checkpoint.Saves job.settings.checkpointPath job.today (job.replayed worked) ∧
        job.Spares reconciled.disk left) :
    left.checkpointAt job.settings.checkpointPath = .ok reconciled.checkpoint := by
  obtain ⟨aligned, summaries, rfl, disk, aligns⟩ := alignment_of_reconcile reconciles
  rw [report_saveCorrections] at threads corrections
  by_cases none : aligned.report.checkpointCorrections = 0
  · have unchanged : aligned.checkpoint = worked.checkpoint := by
      have kept := worked.checkpoint.align_eq_of_zero summaries (by rw [aligns]; exact none)
      rwa [aligns] at kept
    rw [threads none, saveCorrections, if_pos none, unchanged]
  · have ordered : aligned.checkpoint.IsOrdered := by
      have kept := ordered.align summaries
      rwa [aligns] at kept
    obtain ⟨saves, spares⟩ := corrections none
    exact spares.trans (checkpointAt_saveCorrections ordered told none (disk ▸ saves))

end Job

end PartsList
