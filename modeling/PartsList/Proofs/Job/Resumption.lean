import Mathlib.Data.List.Chain
import PartsList.Proofs.Job.Acceptance
import PartsList.Proofs.Job.Saving

/-!
# Jobs that are resumed

A job that resumes goes by the checkpoint's file: it leaves out the files that are done and takes
the others.  Along a chain of such jobs, each of which may be interrupted at any point, no file is
processed again once it has its final outcome, and none is left out for good, as long as each job
finds what the one before it has saved last.
-/

namespace PartsList

namespace Job

variable {job : Job} {disk left : Disk} {paths discovered : List Path}
  {start reconciled : Progress} {worked : Except JobFailure Progress} {finals : List Recorded}
  {last : Option SaveAttempt}

/-! ## From selection to the end -/

/-- What a job leaves on the disk, whether it could go on or not. -/
def leaves : Except JobFailure Progress → Disk
  | .ok progress => progress.disk
  | .error failure => failure.disk

/-- The checkpoint's file tells what the last attempt of the threads at saving the checkpoint has
left in it, or what the job has found there if they have made none. -/
def Stands (job : Job) (start : Disk) : Option SaveAttempt → Disk → Prop
  | none, disk => job.Spares start disk
  | some attempt, disk => attempt.Holds job.settings.checkpointPath disk

instance (job : Job) (start : Disk) :
    (last : Option SaveAttempt) → (disk : Disk) → Decidable (job.Stands start last disk)
  | none, disk => inferInstanceAs (Decidable (job.Spares start disk))
  | some attempt, disk => inferInstanceAs (Decidable (attempt.Holds _ disk))

/-- How the files of a job that has been set up are processed, with their final outcomes and the
last attempt at saving the checkpoint. -/
inductive Processes (job : Job) :
    List Path → Progress → List Recorded → Option SaveAttempt → Progress → Prop
  /-- There are none. -/
  | idle {start : Progress} : job.Processes [] start [] none start
  /-- The threads take any course to their end. -/
  | working {paths : List Path} {start worked : Progress} {system : System} {course : List Move}
      (engaged : job.engage paths start = .ok system)
      (finished : (system.run course).isFinished = true)
      (ended : job.afterWork start (system.run course) = .ok worked) :
      job.Processes paths start (system.run course).manager.finals
        (system.run course).manager.saves.head? worked

/-- How a job ends once its files have been processed, when what it saves last stays in the
checkpoint's file. -/
inductive Ends (job : Job) (start : Disk) (last : Option SaveAttempt) (worked : Progress) :
    Disk → Prop
  /-- The spill files cannot be replayed, or the store cannot be read after that. -/
  | refused {failure : JobFailure} (refused : job.reconcile worked = .error failure)
      (stands : job.Stands start last failure.disk) : job.Ends start last worked failure.disk
  /-- The spill files are replayed, the checkpoint is corrected and saved if need be, and the
  exports are written or not. -/
  | reconciled {reconciled : Progress} (replayed : job.reconcile worked = .ok reconciled)
      (threads : reconciled.report.checkpointCorrections = 0 →
        job.Stands start last (leaves (job.conclude reconciled)))
      (corrections : reconciled.report.checkpointCorrections ≠ 0 →
        reconciled.checkpoint.Saves job.settings.checkpointPath job.today (job.replayed worked) ∧
          job.Spares reconciled.disk (leaves (job.conclude reconciled))) :
      job.Ends start last worked (leaves (job.conclude reconciled))

/-- What a job that has been set up does with the selected files, and what it leaves on the disk. -/
inductive Proceeds (job : Job) :
    List Path → Progress → List Recorded → Except JobFailure Progress → Disk → Prop
  /-- The job was interrupted before any worker was started. -/
  | skipped {paths : List Path} {start : Progress}
      (exports : job.Spares start.disk (leaves (job.conclude (skip paths start)))) :
      job.Proceeds paths start [] (.ok (skip paths start))
        (leaves (job.conclude (skip paths start)))
  /-- The threads cannot be started. -/
  | refused {paths : List Path} {start : Progress} {failure : JobFailure}
      (refused : job.engage paths start = .error failure)
      (spares : job.Spares start.disk failure.disk) :
      job.Proceeds paths start [] (.error failure) failure.disk
  /-- The files are processed. -/
  | processed {paths : List Path} {start worked : Progress} {finals : List Recorded}
      {last : Option SaveAttempt} {left : Disk}
      (processes : job.Processes paths start finals last worked)
      (ends : job.Ends start.disk last worked left) :
      job.Proceeds paths start finals (.ok worked) left

/-! ## Which files are done -/

/-- A job that resumes selects from the discovered files by what the checkpoint's file tells. -/
theorem selection_of_prepare (resumes : job.mode = .resume)
    (calm : (Database.openAt job.settings.databasePath disk).2.faults.head? ≠ some (some .notFound))
    (prepared : job.prepare disk = .ok (paths, start)) :
    (∃ discovered, discover? start.disk job.settings.inputDir = some discovered ∧
      paths = selectFiles discovered start.checkpoint .resume job.limit) ∧
    (Database.openAt job.settings.databasePath disk).2.checkpointAt job.settings.checkpointPath =
      .ok start.checkpoint ∧
    start.disk.checkpointAt job.settings.checkpointPath = .ok start.checkpoint := by
  obtain ⟨connection, opened, checkpoint, loaded, discovered, connected, read, found, rfl, rfl⟩ :=
    prepare_eq_ok prepared
  rw [connected] at calm ⊢
  have loads : Checkpoint.load job.settings.checkpointPath opened = (.ok checkpoint, loaded) := by
    unfold loadCheckpoint at read
    split at read
    · next loads => exact loads.trans read
    · rw [resumes] at read
      cases read
  obtain ⟨tells, rfl⟩ := Checkpoint.load_eq_ok calm loads
  exact ⟨⟨discovered, found, by rw [resumes]⟩, tells, tells⟩

/-- The files that become done while a job works are those that get final outcomes, and the
checkpoint's file tells the checkpoint of the job while what was saved last stands. -/
theorem Processes.marks {worked : Progress}
    (processes : job.Processes paths start finals last worked)
    (prepared : job.prepare disk = .ok (paths, start)) (told : job.today.IsClockTime)
    (read : start.disk.checkpointAt job.settings.checkpointPath = .ok start.checkpoint) :
    (∀ path, worked.checkpoint.isProcessed path =
      (start.checkpoint.isProcessed path || finals.any (path.same ·.task.path))) ∧
    worked.checkpoint.IsOrdered ∧
    ∀ left, job.Stands start.disk last left →
      left.checkpointAt job.settings.checkpointPath = .ok worked.checkpoint := by
  cases processes with
  | idle =>
      exact ⟨fun path => by rw [List.any_nil, Bool.or_false], isOrdered_of_prepare prepared,
        fun _ stands => Eq.trans stands read⟩
  | @working paths start worked system course engaged finished ended =>
      have tracks := (tracks_engage prepared engaged told).run course
      have marks : ∃ idle : Manager, idle.checkpoint = start.checkpoint ∧ idle.history = [] ∧
          idle.Marks (system.run course).manager := by
        obtain ⟨plan, supervisor, writers, opened, -, -, rfl, -⟩ := engage_eq_ok engaged
        refine ⟨job.managerAtStart plan paths start supervisor, rfl, rfl, ?_⟩
        exact (Manager.marks_of_deeds (Manager.deeds_spawnAll _ _ _)).trans
          (System.marks_run _ course)
      obtain ⟨idle, checkpoint, history, entries, entered, processed⟩ := marks
      rw [afterWork_eq_ok ended]
      refine ⟨fun path => ?_, tracks.manager.ordered, fun left stands => ?_⟩
      · rw [Manager.finals, entered, history, List.append_nil, ← checkpoint]
        exact processed path
      · obtain ⟨attempt, earlier, saves, -⟩ := tracks.finished (beq_iff_eq.1 finished)
        rw [saves] at stands
        exact tracks.tells (beq_iff_eq.1 finished) (congrArg List.head? saves) stands

/-- After the files have been processed, the checkpoint's file goes on telling which are done. -/
theorem Ends.tells {worked : Progress} (ends : job.Ends start.disk last worked left)
    (told : job.today.IsClockTime) (ordered : worked.checkpoint.IsOrdered)
    (tells : ∀ left, job.Stands start.disk last left →
      left.checkpointAt job.settings.checkpointPath = .ok worked.checkpoint) :
    ∃ saved, left.checkpointAt job.settings.checkpointPath = .ok saved ∧
      ∀ path, saved.isProcessed path = worked.checkpoint.isProcessed path := by
  cases ends with
  | refused refused stands => exact ⟨_, tells _ stands, fun _ => rfl⟩
  | @reconciled reconciled reconciles threads corrections =>
      refine ⟨reconciled.checkpoint, ?_, isProcessed_of_reconcile reconciles⟩
      exact checkpointAt_of_reconcile told ordered reconciles (fun none => tells _ (threads none))
        corrections

theorem Proceeds.marks (proceeds : job.Proceeds paths start finals worked left)
    (prepared : job.prepare disk = .ok (paths, start)) (told : job.today.IsClockTime)
    (read : start.disk.checkpointAt job.settings.checkpointPath = .ok start.checkpoint) :
    ∃ saved, left.checkpointAt job.settings.checkpointPath = .ok saved ∧
      ∀ path, saved.isProcessed path =
        (start.checkpoint.isProcessed path || finals.any (path.same ·.task.path)) := by
  cases proceeds with
  | skipped spares | refused _ spares =>
      exact ⟨_, Eq.trans spares read, fun path => by rw [List.any_nil, Bool.or_false]⟩
  | processed processes ends =>
      obtain ⟨processed, ordered, tells⟩ := processes.marks prepared told read
      obtain ⟨saved, read, same⟩ := ends.tells told ordered tells
      exact ⟨saved, read, fun path => (same path).trans (processed path)⟩

/-- Final outcomes are those of selected files. -/
theorem Proceeds.selected (proceeds : job.Proceeds paths start finals worked left)
    (prepared : job.prepare disk = .ok (paths, start)) :
    ∀ final ∈ finals, final.task.path ∈ paths := by
  cases proceeds with
  | skipped | refused => exact fun _ mem => absurd mem List.not_mem_nil
  | processed processes =>
      cases processes with
      | idle => exact fun _ mem => absurd mem List.not_mem_nil
      | @working _ _ _ system course engaged =>
          intro final mem
          have counted := (conserved_run prepared engaged course).files final.task.path
          have once : 0 < ((system.run course).manager.finals.map (·.task.path)).count
              final.task.path := List.count_pos_iff.2 (List.mem_map_of_mem mem)
          exact List.count_pos_iff.1 (by omega)

/-- A job that nobody interrupts brings every selected file to its final outcome, if the system lets
workers start. -/
theorem Proceeds.complete {worked : Progress}
    (proceeds : job.Proceeds paths start finals (.ok worked) left)
    (prepared : job.prepare disk = .ok (paths, start)) (grants : job.Grants)
    (quiet : worked.report.interrupted = false) :
    ∀ path ∈ paths, ∃ final ∈ finals, final.task.path = path := by
  cases proceeds with
  | skipped => cases quiet
  | processed processes =>
      cases processes with
      | idle => exact fun _ mem => absurd mem List.not_mem_nil
      | @working _ _ _ system course engaged finished ended =>
          intro path mem
          rw [afterWork_eq_ok ended] at quiet
          obtain ⟨-, cleared⟩ := cleared_run grants prepared engaged finished quiet
          have counted := (conserved_run prepared engaged course).files path
          simp only [cleared.pending, cleared.inFlight, List.map_nil, List.count_nil] at counted
          have once : 0 < paths.count path := List.count_pos_iff.2 mem
          have final : path ∈ (system.run course).manager.finals.map (·.task.path) :=
            List.count_pos_iff.1 (by omega)
          exact List.mem_map.1 final

end Job

/-! ## Chains of jobs -/

/-- One job of a chain. -/
structure Session where
  /-- The job. -/
  job : Job
  /-- The disk that it finds. -/
  disk : Disk
  /-- The files that it selects. -/
  paths : List Path
  /-- How far it has come by then. -/
  start : Progress
  /-- The final outcomes that it gives. -/
  finals : List Recorded
  /-- How far it has come when the files have been processed, or why it cannot start its threads. -/
  worked : Except JobFailure Progress
  /-- The disk that it leaves behind. -/
  left : Disk

namespace Session

variable {session earlier later : Session} {discovered : List Path}

/-- The disk once the session's database has been opened. -/
def opened (session : Session) : Disk :=
  (Database.openAt session.job.settings.databasePath session.disk).2

/-- The session resumes what others have left, finds the given files, and takes any course. -/
structure Resumes (session : Session) (discovered : List Path) : Prop where
  /-- It leaves out files that are done. -/
  mode : session.job.mode = .resume
  /-- The system does not deny that there is a checkpoint's file. -/
  calm : session.opened.faults.head? ≠ some (some .notFound)
  /-- The clock shows the time of day. -/
  told : session.job.today.IsClockTime
  /-- The job is set up. -/
  prepared : session.job.prepare session.disk = .ok (session.paths, session.start)
  /-- It finds the files. -/
  found : discover? session.start.disk session.job.settings.inputDir = some discovered
  /-- It goes on with what it selects. -/
  proceeds :
    session.job.Proceeds session.paths session.start session.finals session.worked session.left

/-- The later session finds the checkpoint's file as the earlier one has left it. -/
def Precedes (earlier later : Session) : Prop :=
  later.opened.checkpointAt later.job.settings.checkpointPath =
    earlier.left.checkpointAt earlier.job.settings.checkpointPath

theorem Resumes.selects (resumes : session.Resumes discovered) :
    session.paths =
      selectFiles discovered session.start.checkpoint .resume session.job.limit := by
  obtain ⟨⟨others, found, selected⟩, -⟩ :=
    Job.selection_of_prepare resumes.mode resumes.calm resumes.prepared
  rw [resumes.found] at found
  cases found
  exact selected

/-- What a session selects was found and is not done yet. -/
theorem Resumes.fresh (resumes : session.Resumes discovered) :
    ∀ path ∈ session.paths,
      path ∈ discovered ∧ session.start.checkpoint.isProcessed path = false := by
  intro path mem
  have candidate : path ∈ candidates discovered session.start.checkpoint .resume := by
    rw [resumes.selects] at mem
    unfold selectFiles at mem
    split at mem
    · exact List.mem_of_mem_take mem
    · exact mem
  simpa using List.mem_filter.1 candidate

/-- A session marks the files to which it gives final outcomes. -/
theorem Resumes.marks (resumes : session.Resumes discovered) :
    ∃ saved, session.left.checkpointAt session.job.settings.checkpointPath = .ok saved ∧
      ∀ path, saved.isProcessed path =
        (session.start.checkpoint.isProcessed path ||
          session.finals.any (path.same ·.task.path)) := by
  obtain ⟨-, -, read⟩ := Job.selection_of_prepare resumes.mode resumes.calm resumes.prepared
  exact resumes.proceeds.marks resumes.prepared resumes.told read

/-- What is done when a session starts is what was done when the one before it started, and what
that one has done. -/
theorem Resumes.carries (first : earlier.Resumes discovered) (second : later.Resumes discovered)
    (precedes : earlier.Precedes later) (path : Path) :
    later.start.checkpoint.isProcessed path =
      (earlier.start.checkpoint.isProcessed path ||
        earlier.finals.any (path.same ·.task.path)) := by
  obtain ⟨saved, left, processed⟩ := first.marks
  obtain ⟨-, read, -⟩ := Job.selection_of_prepare second.mode second.calm second.prepared
  have same : later.start.checkpoint = saved :=
    Except.ok.inj (read.symm.trans (precedes.trans left))
  rw [same, processed]

/-- What was done in one session is done when the other starts. -/
def Feeds (earlier later : Session) : Prop :=
  ∀ path, (earlier.start.checkpoint.isProcessed path ||
    earlier.finals.any (path.same ·.task.path)) = true →
      later.start.checkpoint.isProcessed path = true

instance : Trans Feeds Feeds Feeds where
  trans first second path done := second path (by rw [first path done, Bool.true_or])

theorem pairwise_feeds {chain : List Session}
    (resumes : ∀ session ∈ chain, session.Resumes discovered) (linked : chain.IsChain Precedes) :
    chain.Pairwise Feeds := by
  rw [← List.isChain_iff_pairwise]
  refine linked.imp_of_mem_imp fun earlier later mem mem' precedes path done => ?_
  rw [(resumes earlier mem).carries (resumes later mem') precedes, done]

/-- A session that takes all files, is not interrupted and can start workers leaves every file
done. -/
theorem Resumes.complete (resumes : session.Resumes discovered) (grants : session.job.Grants)
    (all : session.job.settings.maxFiles = 0) {worked : Progress}
    (works : session.worked = .ok worked)
    (quiet : worked.report.interrupted = false) :
    ∃ saved, session.left.checkpointAt session.job.settings.checkpointPath = .ok saved ∧
      ∀ path ∈ discovered, saved.isProcessed path = true := by
  obtain ⟨saved, read, processed⟩ := resumes.marks
  refine ⟨saved, read, fun path mem => ?_⟩
  rw [processed]
  cases done : session.start.checkpoint.isProcessed path with
  | true => exact Bool.true_or _
  | false =>
      have selected : path ∈ session.paths := by
        rw [resumes.selects, Job.limit, if_pos all]
        exact List.mem_filter.2 ⟨mem, by rw [done, Bool.not_false]⟩
      obtain ⟨final, given, same⟩ :=
        (works ▸ resumes.proceeds).complete resumes.prepared grants quiet path selected
      rw [Bool.false_or, List.any_eq_true]
      exact ⟨final, given, same ▸ path.same_refl⟩

end Session

/-- Along a chain of jobs that resume, no file is selected that was done before the chain or got its
final outcome earlier in it; a file that a job selects without giving it a final outcome can be
selected by the next one; and a job that takes all files, is not interrupted and can start workers
leaves every file done. -/
theorem jobs_resumed {discovered : List Path} {chain : List Session}
    (resumes : ∀ session ∈ chain, session.Resumes discovered)
    (linked : chain.IsChain Session.Precedes) :
    (∀ first ∈ chain.head?, ∀ session ∈ chain, ∀ path ∈ session.paths,
      first.start.checkpoint.isProcessed path = false) ∧
    (∀ session ∈ chain, ∀ final ∈ session.finals, final.task.path ∈ session.paths) ∧
    (chain.Pairwise fun earlier later =>
      ∀ final ∈ earlier.finals, ∀ path ∈ later.paths, path.same final.task.path = false) ∧
    (chain.IsChain fun earlier later =>
      ∀ path ∈ earlier.paths, (∀ final ∈ earlier.finals, path.same final.task.path = false) →
        path ∈ candidates discovered later.start.checkpoint .resume) ∧
    ∀ session ∈ chain, session.job.Grants → session.job.settings.maxFiles = 0 →
      ∀ worked, session.worked = .ok worked → worked.report.interrupted = false →
        ∃ saved, session.left.checkpointAt session.job.settings.checkpointPath = .ok saved ∧
          ∀ path ∈ discovered, saved.isProcessed path = true := by
  have feeds := Session.pairwise_feeds resumes linked
  refine ⟨?_, ?_, ?_, ?_, ?_⟩
  · -- What is done when the first job starts is done when any later one does.
    intro first head session mem path selected
    obtain ⟨-, fresh⟩ := (resumes session mem).fresh path selected
    cases chain with
    | nil => cases head
    | cons start rest =>
        cases head
        rcases List.mem_cons.1 mem with rfl | later
        · exact fresh
        · by_contra done
          rw [Bool.not_eq_false] at done
          have carried := (List.pairwise_cons.1 feeds).1 session later path
            (by rw [done, Bool.true_or])
          rw [fresh] at carried
          cases carried
  · intro session mem
    exact (resumes session mem).proceeds.selected (resumes session mem).prepared
  · refine feeds.imp_of_mem fun {earlier later} mem mem' feeds final given path selected => ?_
    obtain ⟨-, fresh⟩ := (resumes later mem').fresh path selected
    by_contra same
    rw [Bool.not_eq_false] at same
    have carried := feeds path (by
      rw [Bool.or_eq_true]
      exact Or.inr (List.any_eq_true.2 ⟨final, given, same⟩))
    rw [fresh] at carried
    cases carried
  · refine linked.imp_of_mem_imp fun earlier later mem mem' precedes path selected unfinished => ?_
    obtain ⟨found, fresh⟩ := (resumes earlier mem).fresh path selected
    have carries := (resumes earlier mem).carries (resumes later mem') precedes path
    rw [fresh, Bool.false_or,
      List.any_eq_false.2 fun final given => by rw [unfinished final given]; exact nofun] at carries
    exact List.mem_filter.2 ⟨found, by rw [carries, Bool.not_false]⟩
  · intro session mem grants all worked
    exact (resumes session mem).complete grants all

/-! ## A chain of two jobs -/

namespace Session

instance (earlier later : Session) : Decidable (earlier.Precedes later) :=
  inferInstanceAs (Decidable (_ = _))

/-- The session of a job whose threads take the given course, and the files that it finds.  Nothing
if the job does not resume, cannot go on, or has anything to correct, or if what its threads save
last does not stand. -/
def follow? (job : Job) (disk : Disk) (course : List Move) : Option (List Path × Session) :=
  match job.stages disk course with
  | .error _ => none
  | .ok stages =>
    match discover? stages.start.disk job.settings.inputDir with
    | none => none
    | some discovered =>
      let done := stages.system.run course
      let left := Job.leaves (job.conclude stages.reconciled)
      if job.mode = .resume ∧
          (Database.openAt job.settings.databasePath disk).2.faults.head? ≠ some (some .notFound) ∧
          job.today.IsClockTime ∧ done.isFinished = true ∧
          stages.reconciled.report.checkpointCorrections = 0 ∧
          job.Stands stages.start.disk done.manager.saves.head? left then
        some (discovered,
          { job := job
            disk := disk
            paths := stages.paths
            start := stages.start
            finals := done.manager.finals
            worked := .ok stages.worked
            left := left })
      else none

theorem resumes_of_follow? {job : Job} {disk : Disk} {course : List Move} {discovered : List Path}
    {session : Session} (followed : follow? job disk course = some (discovered, session)) :
    session.Resumes discovered := by
  unfold follow? at followed
  split at followed
  · cases followed
  · next stages staged =>
      obtain ⟨prepared, engaged, ended, reconciles⟩ := Job.stages_eq_ok staged
      split at followed
      · cases followed
      · next found discovers =>
          dsimp only at followed
          split at followed
          · next checked =>
              obtain ⟨mode, calm, told, finished, correct, stands⟩ := checked
              cases Option.some.inj followed
              exact
                { mode := mode
                  calm := calm
                  told := told
                  prepared := prepared
                  found := discovers
                  proceeds := .processed (.working engaged finished ended)
                    (.reconciled reconciles (fun _ => stands) fun some => absurd correct some) }
          · cases followed

end Session

/-- A job in the working directory that resumes, with one worker whom the engine takes down. -/
def Job.resuming : Job :=
  { Job.small with
    settings :=
      { Job.small.settings with
        databasePath := ⟨":memory:"⟩
        resume := true
        workers := some 1
        writerPoolSize := 1
        retry := { enabled := false } } }

/-- A course on which the job is interrupted before it gives out its file. -/
def Job.interruptedCourse : List Move :=
  [.interrupt, .manager .look, .manager .giveUp, .manager .giveUp, .manager .giveUp,
    .manager .proceed, .manager .giveUp]

theorem jobs_resumed_small : ∃ interrupted finished : Session,
    interrupted.paths = [⟨"./a.pdf"⟩] ∧ interrupted.finals.length = 0 ∧
      finished.paths = [⟨"./a.pdf"⟩] ∧ finished.finals.length = 1 ∧
        ⟨"./a.pdf"⟩ ∈ candidates [⟨"./a.pdf"⟩] finished.start.checkpoint .resume ∧
          ∃ saved, finished.left.checkpointAt ⟨"checkpoint"⟩ = .ok saved ∧
            saved.isProcessed ⟨"./a.pdf"⟩ = true := by
  have runs : (match Session.follow? .resuming .small Job.interruptedCourse with
      | none => false
      | some (found, first) =>
        match Session.follow? .resuming first.left Job.refusedCourse with
        | none => false
        | some (also, second) =>
          decide (found = [⟨"./a.pdf"⟩] ∧ also = [⟨"./a.pdf"⟩] ∧ first.paths = [⟨"./a.pdf"⟩] ∧
            first.finals.length = 0 ∧ second.paths = [⟨"./a.pdf"⟩] ∧ second.finals.length = 1 ∧
            second.worked.toOption.map (·.report.interrupted) = some false ∧
            second.job.settings.checkpointPath = ⟨"checkpoint"⟩ ∧
            second.job.settings.maxFiles = 0 ∧ second.job.startRefusals = [] ∧
            first.Precedes second)) = true := by decide +kernel
  cases one : Session.follow? .resuming .small Job.interruptedCourse with
  | none => simp [one] at runs
  | some answer =>
      obtain ⟨found, first⟩ := answer
      cases two : Session.follow? .resuming first.left Job.refusedCourse with
      | none => simp [one, two] at runs
      | some answer =>
          obtain ⟨also, second⟩ := answer
          simp only [one, two, decide_eq_true_eq] at runs
          obtain ⟨rfl, rfl, selected, none, again, once, quiet, place, all, granted, precedes⟩ :=
            runs
          have resumes : ∀ session ∈ [first, second], session.Resumes [⟨"./a.pdf"⟩] := by
            simp only [List.mem_cons, List.not_mem_nil, or_false]
            rintro session (rfl | rfl)
            · exact Session.resumes_of_follow? one
            · exact Session.resumes_of_follow? two
          have linked : [first, second].IsChain Session.Precedes := by simpa using precedes
          obtain ⟨-, -, -, selectable, complete⟩ := jobs_resumed resumes linked
          refine ⟨first, second, selected, none, again, once, ?_, ?_⟩
          · have next := (List.isChain_pair.1 selectable) ⟨"./a.pdf"⟩ (by simp [selected])
            apply next
            rw [List.length_eq_zero_iff] at none
            simp [none]
          · cases works : second.worked with
            | error => simp [works, Except.toOption] at quiet
            | ok worked =>
                rw [works] at quiet
                obtain ⟨saved, read, done⟩ := complete second (by simp)
                  (by simp [Job.Grants, granted]) all worked works (Option.some.inj quiet)
                exact ⟨saved, place ▸ read, done _ (by simp)⟩

/-- A job that keeps its checkpoint among its spill files. -/
def Job.mingling : Job :=
  { Job.resuming with
    settings := { Job.resuming.settings with checkpointPath := ⟨"spill/checkpoint.jsonl"⟩ } }

/-- All saves of such a job succeed, and when it has come to its end, the next one selects the file
again that has its final outcome: the replay has removed the checkpoint. -/
theorem jobs_not_resumed_mingling : ∃ (start worked reconciled done again : Progress)
    (system : System), Job.mingling.mode = .resume ∧
      Job.mingling.prepare .small = .ok ([⟨"./a.pdf"⟩], start) ∧
      Job.mingling.engage [⟨"./a.pdf"⟩] start = .ok system ∧
      (system.run Job.refusedCourse).isFinished = true ∧
      (∀ attempt ∈ (system.run Job.refusedCourse).manager.saves, attempt.answer = .ok ()) ∧
      (system.run Job.refusedCourse).manager.finals.map (·.task.path) = [⟨"./a.pdf"⟩] ∧
      Job.mingling.afterWork start (system.run Job.refusedCourse) = .ok worked ∧
      Job.mingling.reconcile worked = .ok reconciled ∧
      reconciled.report.checkpointCorrections = 0 ∧
      Job.mingling.conclude reconciled = .ok done ∧
      done.checkpoint.failed.paths = [⟨"./a.pdf"⟩] ∧
      Job.mingling.prepare done.disk = .ok ([⟨"./a.pdf"⟩], again) := by
  obtain ⟨⟨paths, start, system, worked, reconciled⟩, prepared, engaged, ended, reconciles,
      checked⟩ :=
    @Job.exists_stages .mingling .small Job.refusedCourse
      (fun stages =>
        match Job.mingling.conclude stages.reconciled with
        | .error _ => false
        | .ok done =>
          let late := stages.system.run Job.refusedCourse
          decide (stages.paths = [⟨"./a.pdf"⟩] ∧ late.isFinished = true ∧
            (∀ attempt ∈ late.manager.saves, attempt.answer = .ok ()) ∧
            late.manager.finals.map (·.task.path) = [⟨"./a.pdf"⟩] ∧
            stages.reconciled.report.checkpointCorrections = 0 ∧
            done.checkpoint.failed.paths = [⟨"./a.pdf"⟩] ∧
            (Job.mingling.prepare done.disk).toOption.map (·.1) = some [⟨"./a.pdf"⟩]))
      (by
        simp only [Job.stages, Job.reconcile, Spill.reconcile_eq]
        decide +kernel)
  dsimp only at prepared engaged ended reconciles checked
  split at checked
  · cases checked
  · next done concludes =>
      rw [decide_eq_true_eq] at checked
      obtain ⟨rfl, finished, answers, finals, correct, failed, selects⟩ := checked
      cases more : Job.mingling.prepare done.disk with
      | error => simp [more, Except.toOption] at selects
      | ok answer =>
          obtain ⟨paths, again⟩ := answer
          rw [more] at selects
          cases Option.some.inj selects
          exact ⟨start, worked, reconciled, done, again, system, rfl, prepared, engaged, finished,
            answers, finals, ended, reconciles, correct, concludes, failed, more⟩

end PartsList
