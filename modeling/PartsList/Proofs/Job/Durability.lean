import PartsList.Proofs.Checkpoint.Atomicity
import PartsList.Proofs.Job.Resumption
import PartsList.Proofs.Job.Sparing

/-!
# What a job loses when it is killed

A job that is killed between two deeds of its manager leaves a checkpoint that lacks fewer than
fifty of the final outcomes that the manager has recorded.  One that comes to its end leaves the
checkpoint that it has in mind, with the corrections that the store asked for.  At an ordinary path,
where no links are in the way, every save that succeeds leaves a file.
-/

namespace PartsList

/-! ## Saves at ordinary paths -/

namespace Manager

variable {manager noted : Manager} {shared : Shared} {before next : Manager × Shared}

/-- The attempts at saving the checkpoint that have succeeded have left a file. -/
def LeavesFiles (manager : Manager) : Prop :=
  ∀ attempt ∈ manager.saves, attempt.answer = .ok () →
    attempt.disk.isFile manager.settings.checkpointPath = true

theorem LeavesFiles.congr (leaves : manager.LeavesFiles)
    (settings : noted.settings = manager.settings) (saves : noted.saves = manager.saves) :
    noted.LeavesFiles := by
  rw [LeavesFiles, settings, saves]
  exact leaves

theorem LeavesFiles.save (leaves : manager.LeavesFiles)
    (free : shared.disk.IsFree manager.settings.checkpointPath) :
    (manager.save shared).1.LeavesFiles := by
  intro attempt mem answer
  rcases List.mem_cons.1 mem with rfl | old
  · exact (Checkpoint.saves_of_isFree free answer).2
  · exact leaves attempt old answer

theorem LeavesFiles.record (leaves : manager.LeavesFiles)
    (free : shared.disk.IsFree manager.settings.checkpointPath) (task : Task) (outcome : Outcome) :
    (manager.record shared task outcome).1.LeavesFiles := by
  unfold Manager.record
  dsimp only
  split
  · exact leaves.congr rfl rfl
  · generalize settles : Manager.settle _ task outcome = settled
    have settings : settled.settings = manager.settings := settles ▸ rfl
    have left : settled.LeavesFiles := leaves.congr settings (settles ▸ rfl)
    have anew : { settled with sinceSave := 0 }.LeavesFiles := left.congr rfl rfl
    rw [← settings] at free
    unfold saveIfDue
    split
    · exact anew.save free
    · exact left

end Manager

namespace System

variable {system after : System} {file : FileId} {directory : Path} {start : Disk}
  {before next : Manager × Shared}

/-- Whatever the manager does, its saves leave files when no link has a name that is in the path. -/
theorem Arranged.leavesFiles_deed (arranged : (system.withManager before).Arranged file directory)
    (deed : Manager.Deed before next) (leaves : before.1.LeavesFiles)
    (free : before.2.disk.IsFree before.1.settings.checkpointPath) : next.1.LeavesFiles := by
  cases deed with
  | note quiet => exact leaves.congr quiet.settings quiet.saves
  | @accept _ noted _ entry outcome quiet =>
      refine (leaves.congr quiet.settings quiet.saves).record ?_ entry.task outcome
      rwa [quiet.disk, quiet.settings]
  | @conclude _ state entry code message metrics quiet =>
      have noted := arranged.quiet quiet
      have routes := @routes_route state.2.inboxes state.1.spill state.2.disk
        ((ExtractionResult.failed entry.task.path code message metrics).withAttempt
          entry.task.attempt)
        noted.numbered (noted.known _ List.mem_cons_self)
      have still (spill : SpillFile) : { state.1 with spill := spill }.LeavesFiles :=
        leaves.congr quiet.settings quiet.saves
      rw [← quiet.disk, ← quiet.settings] at free
      unfold Manager.conclude
      dsimp only
      generalize route state.2.inboxes state.1.spill state.2.disk _ = routed at routes ⊢
      exact (still routed.spill).record (routes.develops.isFree free) entry.task _
  | save => exact leaves.save free
  | dismiss _ _ _ quiet | release _ quiet =>
      have still := leaves.congr quiet.settings quiet.saves
      exact still

theorem Arranged.leavesFiles_deeds (arranged : (system.withManager before).Arranged file directory)
    (deeds : Relation.ReflTransGen Manager.Deed before next) (leaves : before.1.LeavesFiles)
    (free : before.2.disk.IsFree before.1.settings.checkpointPath) : next.1.LeavesFiles := by
  induction deeds with
  | refl => exact leaves
  | @tail middle _ earlier deed induction =>
      have develops := arranged.develops_deeds earlier
      refine (arranged.deeds earlier).leavesFiles_deed deed induction ?_
      rw [Manager.checkpointPath_of_deeds earlier]
      exact develops.isFree free

/-- The manager's saves leave files, and no thread gets in their way. -/
structure LeavesFiles (system : System) (file : FileId) (directory path : Path) (start : Disk) :
    Prop where
  /-- Files have evolved since the start, and everything is in its place. -/
  secured : ∃ stored, system.Secured file directory start stored
  /-- The manager uses the file. -/
  place : system.manager.settings.checkpointPath = path
  /-- The saves of the manager leave files. -/
  manager : system.manager.LeavesFiles

variable {path : Path}

theorem LeavesFiles.moves (leaves : system.LeavesFiles file directory path start)
    (free : start.IsFree path) (moves : system.Moves after) :
    after.LeavesFiles file directory path start := by
  obtain ⟨stored, secured⟩ := leaves.secured
  have still : ∃ stored, after.Secured file directory start stored := ⟨_, secured.moves moves⟩
  cases moves with
  | manage stepped =>
      have deeds := Manager.deeds_step? stepped
      refine ⟨still, (Manager.checkpointPath_of_deeds deeds).trans leaves.place,
        secured.placed.leavesFiles_deeds deeds leaves.manager ?_⟩
      exact leaves.place ▸ secured.since.isFree free
  | work | beat | serve | pass | interrupt => exact ⟨still, leaves.place, leaves.manager⟩

end System

namespace Job

variable {job : Job} {disk : Disk} {paths : List Path} {start : Progress} {system : System}

theorem leavesFiles_engage (numbered : disk.Numbered)
    (prepared : job.prepare disk = .ok (paths, start))
    (engaged : job.engage paths start = .ok system)
    (one : ∀ writer ∈ system.writers, writer.connection.file = start.connection.file)
    (free : disk.IsFree job.settings.checkpointPath) :
    system.LeavesFiles start.connection.file job.settings.fallbackDir job.settings.checkpointPath
      disk := by
  obtain ⟨secured, -⟩ := secured_engage numbered prepared engaged one
  have place : system.manager.settings.checkpointPath = job.settings.checkpointPath := by
    obtain ⟨plan, supervisor, writers, opened, -, -, rfl, -⟩ := engage_eq_ok engaged
    exact Manager.checkpointPath_of_deeds (Manager.deeds_spawnAll ..)
  refine ⟨⟨_, secured⟩, place, ?_⟩
  obtain ⟨idle, count, unstarted, rfl⟩ := exists_unstarted numbered prepared engaged one
  have deeds := Manager.deeds_spawnAll count idle.manager idle.shared
  refine unstarted.placed.leavesFiles_deeds deeds ?_ ?_
  · rw [Manager.LeavesFiles, unstarted.saves]
    exact List.forall_mem_nil _
  · have same : idle.manager.settings.checkpointPath = job.settings.checkpointPath :=
      (Manager.checkpointPath_of_deeds deeds).symm.trans place
    exact same ▸ unstarted.since.isFree free

/-- When no link of the disk has a name that is in the checkpoint's path, all saves of the threads
that succeed leave a file, whatever course they take. -/
theorem isFile_of_isFree (numbered : disk.Numbered)
    (prepared : job.prepare disk = .ok (paths, start))
    (engaged : job.engage paths start = .ok system)
    (one : ∀ writer ∈ system.writers, writer.connection.file = start.connection.file)
    (free : disk.IsFree job.settings.checkpointPath) (course : List Move)
    {moment : Manager × Shared} (deeds : Relation.ReflTransGen Manager.Deed
      ((system.run course).manager, (system.run course).shared) moment) {attempt : SaveAttempt}
    (mem : attempt ∈ moment.1.saves) (answer : attempt.answer = .ok ()) :
    attempt.disk.isFile job.settings.checkpointPath = true := by
  have leaves := System.run_induction
    (·.LeavesFiles start.connection.file job.settings.fallbackDir job.settings.checkpointPath disk)
    (leavesFiles_engage numbered prepared engaged one free)
    (fun _ _ leaves moves => leaves.moves free moves) course
  obtain ⟨stored, secured⟩ := leaves.secured
  have place : moment.1.settings.checkpointPath = job.settings.checkpointPath :=
    (Manager.checkpointPath_of_deeds deeds).trans leaves.place
  have left := secured.placed.leavesFiles_deeds deeds leaves.manager
    (leaves.place ▸ secured.since.isFree free)
  exact place ▸ left attempt mem answer

end Job

/-! ## What is saved and what is not -/

namespace Job

variable {job : Job} {disk : Disk} {paths : List Path} {start worked reconciled done : Progress}
  {system : System}

theorem checkpoint_conclude (concludes : job.conclude reconciled = .ok done) :
    done.checkpoint = reconciled.checkpoint := by
  obtain ⟨_, _, _, _, -, -, rfl⟩ := conclude_eq_ok concludes
  rfl

/-- What was saved last holds at the end of the job: what the threads have saved, if there was
nothing to correct, and else the corrections. -/
structure Secures (job : Job) (attempt : SaveAttempt)
    (worked reconciled done : Progress) : Prop where
  /-- There was nothing to correct. -/
  threads : reconciled.report.checkpointCorrections = 0 →
    attempt.Holds job.settings.checkpointPath done.disk
  /-- There was. -/
  corrections : reconciled.report.checkpointCorrections ≠ 0 →
    reconciled.checkpoint.Saves job.settings.checkpointPath job.today (job.replayed worked) ∧
      job.Spares reconciled.disk done.disk

/-- At the end of a job the checkpoint's file tells the checkpoint that the job has in mind. -/
theorem Secures.tells {attempt : SaveAttempt} (secures : job.Secures attempt worked reconciled done)
    (tracks : system.Tracks job.settings.checkpointPath start.checkpoint)
    (told : job.today.IsClockTime) (finished : system.manager.phase = .finished)
    (last : system.manager.saves.head? = some attempt)
    (ended : job.afterWork start system = .ok worked)
    (reconciles : job.reconcile worked = .ok reconciled)
    (concludes : job.conclude reconciled = .ok done) :
    done.disk.checkpointAt job.settings.checkpointPath = .ok done.checkpoint := by
  have inMind : worked.checkpoint = system.manager.checkpoint :=
    congrArg Progress.checkpoint (afterWork_eq_ok ended)
  rw [checkpoint_conclude concludes]
  refine checkpointAt_of_reconcile told (inMind ▸ tracks.manager.ordered) reconciles
    (fun none => ?_)
    secures.corrections
  rw [inMind]
  exact tracks.tells finished last (secures.threads none)

end Job

/-- Whatever course the threads of a job take, fewer than fifty final outcomes were recorded since
the last attempt at saving the checkpoint, whenever the manager is between two deeds, and no attempt
comes when more than fifty were.  If the last attempt has succeeded and nothing else has changed the
file, that tells the checkpoint that the manager has in mind but for those outcomes; before the
first attempt, the checkpoint that the job has started with does.  A job that has worked and comes
to its end leaves in the file the very checkpoint that it has in mind, corrections included, if its
last save has succeeded and nothing else changes the file. -/
theorem checkpoint_durable {job : Job} {disk : Disk} {paths : List Path} {start : Progress}
    {system : System} (told : job.today.IsClockTime)
    (prepared : job.prepare disk = .ok (paths, start))
    (engaged : job.engage paths start = .ok system) (course : List Move) :
    (∀ moment, Relation.ReflTransGen Manager.Deed
        ((system.run course).manager, (system.run course).shared) moment →
      moment.1.unsaved.length < Manager.checkpointEvery ∧
        (moment.1.saves.map SaveAttempt.recorded ++ [[]]).IsChain (fun later earlier =>
          (Manager.finalsSince earlier later).length ≤ Manager.checkpointEvery) ∧
        (∀ attempt ∈ moment.1.saves.head?, attempt.Holds job.settings.checkpointPath moment.2.disk →
          ∃ saved, moment.2.disk.checkpointAt job.settings.checkpointPath = .ok saved ∧
            moment.1.checkpoint = saved.markAll moment.1.unsaved) ∧
        (moment.1.saves = [] →
          moment.1.checkpoint = start.checkpoint.markAll moment.1.unsaved)) ∧
      ((system.run course).isFinished = true →
        ∃ attempt, (system.run course).manager.saves.head? = some attempt ∧
          ∀ worked reconciled done, job.afterWork start (system.run course) = .ok worked →
            job.reconcile worked = .ok reconciled → job.conclude reconciled = .ok done →
              job.Secures attempt worked reconciled done →
                done.disk.checkpointAt job.settings.checkpointPath = .ok done.checkpoint) := by
  have tracks := (Job.tracks_engage prepared engaged told).run course
  constructor
  · intro moment deeds
    obtain ⟨still, few⟩ :=
      Manager.tracks_of_deeds deeds tracks.manager tracks.few tracks.told
    have place : moment.1.settings.checkpointPath = job.settings.checkpointPath :=
      (Manager.checkpointPath_of_deeds deeds).trans tracks.place
    refine ⟨Nat.lt_of_le_of_lt still.counted few, still.spaced, fun attempt last holds => ?_,
      fun none => ?_⟩
    · rw [← place] at holds ⊢
      exact ⟨attempt.checkpoint, still.tells last holds⟩
    · have marked := still.marked
      rwa [Manager.checkpointThen, none] at marked
  · intro finished
    obtain ⟨attempt, earlier, saves, -⟩ := tracks.finished (beq_iff_eq.1 finished)
    have last : (system.run course).manager.saves.head? = some attempt := by rw [saves]; rfl
    exact ⟨attempt, last, fun worked reconciled done ended reconciles concludes secures =>
      secures.tells tracks told (beq_iff_eq.1 finished) last ended reconciles concludes⟩

/-- With one file, its outcome is not saved as long as the manager works, and saved in the end. -/
theorem checkpoint_durable_small : ∃ (start done : Progress) (system : System),
    Job.resuming.prepare .small = .ok ([⟨"./a.pdf"⟩], start) ∧
      Job.resuming.engage [⟨"./a.pdf"⟩] start = .ok system ∧
      (system.run (Job.refusedCourse.take 8)).manager.unsaved.length = 1 ∧
      (system.run (Job.refusedCourse.take 8)).manager.checkpoint =
        start.checkpoint.markAll (system.run (Job.refusedCourse.take 8)).manager.unsaved ∧
      done.checkpoint.failed.paths = [⟨"./a.pdf"⟩] ∧
      done.disk.checkpointAt ⟨"checkpoint"⟩ = .ok done.checkpoint := by
  obtain ⟨⟨paths, start, system, worked, reconciled⟩, prepared, engaged, ended, reconciles,
      checked⟩ :=
    @Job.exists_stages .resuming .small Job.refusedCourse
      (fun stages =>
        match Job.resuming.conclude stages.reconciled with
        | .error _ => false
        | .ok done =>
          let early := stages.system.run (Job.refusedCourse.take 8)
          let late := stages.system.run Job.refusedCourse
          decide (stages.paths = [⟨"./a.pdf"⟩] ∧ early.manager.unsaved.length = 1 ∧
            early.manager.saves.length = 0 ∧ late.isFinished = true ∧
            stages.reconciled.report.checkpointCorrections = 0 ∧
            (∀ attempt ∈ late.manager.saves, attempt.Holds ⟨"checkpoint"⟩ done.disk) ∧
            done.checkpoint.failed.paths = [⟨"./a.pdf"⟩]))
      (by decide +kernel)
  dsimp only at prepared engaged ended reconciles checked
  split at checked
  · cases checked
  · next done concludes =>
      rw [decide_eq_true_eq] at checked
      obtain ⟨rfl, one, unsaved, finished, correct, holds, failed⟩ := checked
      have told : Job.resuming.today.IsClockTime := by decide
      have early := (checkpoint_durable told prepared engaged (Job.refusedCourse.take 8)).1 _ .refl
      obtain ⟨attempt, last, tells⟩ :=
        (checkpoint_durable told prepared engaged Job.refusedCourse).2 finished
      refine ⟨start, done, system, prepared, engaged, one,
        early.2.2.2 (List.length_eq_zero_iff.1 unsaved), failed, ?_⟩
      exact tells worked reconciled done ended reconciles concludes
        ⟨fun _ => holds attempt (List.mem_of_mem_head? last), fun some => absurd correct some⟩

/-- A job that exports its rows to the checkpoint's file. -/
def Job.colliding : Job :=
  { Job.resuming with settings := { Job.resuming.settings with rowsOutput := ⟨"checkpoint"⟩ } }

/-- When all saves succeed and the job comes to its end, the file of such a job tells no
checkpoint. -/
theorem checkpoint_not_durable_colliding : ∃ (start worked reconciled done : Progress)
    (system : System), Job.colliding.prepare .small = .ok ([⟨"./a.pdf"⟩], start) ∧
      Job.colliding.engage [⟨"./a.pdf"⟩] start = .ok system ∧
      (system.run Job.refusedCourse).isFinished = true ∧
      (∀ attempt ∈ (system.run Job.refusedCourse).manager.saves, attempt.answer = .ok ()) ∧
      Job.colliding.afterWork start (system.run Job.refusedCourse) = .ok worked ∧
      Job.colliding.reconcile worked = .ok reconciled ∧
      reconciled.report.checkpointCorrections = 0 ∧
      Job.colliding.conclude reconciled = .ok done ∧
      done.checkpoint.failed.paths = [⟨"./a.pdf"⟩] ∧
      done.disk.checkpointAt ⟨"checkpoint"⟩ = .error (.corrupt ⟨"checkpoint"⟩) := by
  obtain ⟨⟨paths, start, system, worked, reconciled⟩, prepared, engaged, ended, reconciles,
      checked⟩ :=
    @Job.exists_stages .colliding .small Job.refusedCourse
      (fun stages =>
        match Job.colliding.conclude stages.reconciled with
        | .error _ => false
        | .ok done =>
          let late := stages.system.run Job.refusedCourse
          decide (stages.paths = [⟨"./a.pdf"⟩] ∧ late.isFinished = true ∧
            (∀ attempt ∈ late.manager.saves, attempt.answer = .ok ()) ∧
            stages.reconciled.report.checkpointCorrections = 0 ∧
            done.checkpoint.failed.paths = [⟨"./a.pdf"⟩] ∧
            done.disk.checkpointAt ⟨"checkpoint"⟩ = .error (.corrupt ⟨"checkpoint"⟩)))
      (by decide +kernel)
  dsimp only at prepared engaged ended reconciles checked
  split at checked
  · cases checked
  · next done concludes =>
      rw [decide_eq_true_eq] at checked
      obtain ⟨rfl, finished, answers, correct, failed, tells⟩ := checked
      exact ⟨start, worked, reconciled, done, system, prepared, engaged, finished, answers, ended,
        reconciles, correct, concludes, failed, tells⟩

end PartsList
