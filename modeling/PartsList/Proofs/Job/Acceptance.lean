import PartsList.Proofs.Checkpoint.Reading
import PartsList.Proofs.Job.Reconciling
import PartsList.Proofs.Job.Safekeeping
import PartsList.Proofs.Job.Starting
import PartsList.Proofs.Spill.Evaluation

/-!
# Accepted results

A result whose outcome the manager recorded as delivered is in the store once the spill files have
been replayed: its writer committed it, or the replay read it.
-/

namespace PartsList

open Disk ExtractionResult

namespace System

variable {idle system : System} {file : FileId} {directory : Path} {start : Disk}

/-- Nothing was handed over yet. -/
theorem Unstarted.secured (unstarted : idle.Unstarted file directory start) :
    idle.Secured file directory start fun _ => False where
  toArranged := unstarted.toArranged
  since := unstarted.since
  staying _ := unstarted.toStaying
  told := by
    intro _ outcome mem
    rw [outcomes, unstarted.none, unstarted.events] at mem
    cases mem
  recorded := by
    rw [unstarted.history]
    exact fun _ mem => absurd mem List.not_mem_nil

end System

namespace Job

variable {job : Job} {disk : Disk} {paths : List Path} {start worked reconciled : Progress}
  {system : System}

/-- The threads of a job start in a state in which every result is safe and nobody is done. -/
theorem secured_engage (numbered : disk.Numbered) (prepared : job.prepare disk = .ok (paths, start))
    (engaged : job.engage paths start = .ok system)
    (one : ∀ writer ∈ system.writers, writer.connection.file = start.connection.file) :
    system.Secured start.connection.file job.settings.fallbackDir disk (fun _ => False) ∧
      system.Ended := by
  obtain ⟨idle, count, unstarted, rfl⟩ := exists_unstarted numbered prepared engaged one
  have deeds := Manager.deeds_spawnAll count idle.manager idle.shared
  have led := @System.Secured.deeds idle _ _ _ _ (idle.manager, idle.shared) _ unstarted.secured
    deeds
  have arranged := led.toArranged.hire unstarted.hired unstarted.spillsInto
  refine ⟨led.hire arranged, fun finished => ?_⟩
  have phase := (Manager.phase_spawnAll count idle.manager idle.shared).trans unstarted.phase
  exact nomatch phase.symm.trans finished

end Job

/-- When all threads have left in time and everything that had to be spilled was spilled, each
accepted result is in the store once the spill files have been replayed: its writer committed it, or
the replay read it and delivered what it read.  The spill directory has a name, all connections are
to one file, and nobody got in the way of the spill files. -/
theorem accepted_results_applied {job : Job} {disk : Disk} {paths : List Path}
    {start worked reconciled : Progress} {system : System} {course : List Move}
    (numbered : disk.Numbered) (prepared : job.prepare disk = .ok (paths, start))
    (engaged : job.engage paths start = .ok system)
    (one : ∀ writer ∈ system.writers, writer.connection.file = start.connection.file)
    (finished : (system.run course).isFinished = true)
    (punctual : (system.run course).manager.report.forceTerminated = 0)
    (unharmed : (system.run course).Unharmed)
    (ended : job.afterWork start (system.run course) = .ok worked)
    (reconciles : job.reconcile worked = .ok reconciled)
    (named : job.settings.fallbackDir.spelling ≠ "")
    (calm : worked.disk.faults.head? ≠ some (some .notFound))
    (undisturbed : ∀ spill ∈ (system.run course).spills, spill.Undisturbed disk worked.disk)
    (fits : ∀ recorded ∈ (system.run course).manager.history, recorded.outcome.result.Fits) :
    ∀ recorded ∈ (system.run course).manager.history, recorded.outcome.Accepted →
      system.EverCommits start.connection.file recorded.outcome.result course ∨
        recorded.outcome.result ∈ Spill.held job.settings.fallbackDir worked.disk ∧
          worked.disk.Takes (job.replayed worked) start.connection.file
            (Spill.held job.settings.fallbackDir worked.disk) := by
  obtain ⟨secured, ends⟩ := Job.secured_engage numbered prepared engaged one
  have safe := secured.run course
  have left := ends.run secured.toArranged course (beq_iff_eq.1 finished) punctual
  cases Job.afterWork_eq_ok ended
  intro recorded mem accepted
  rcases safe.settled left unharmed mem accepted with ⟨spill, inside, holds⟩ | stored
  · obtain ⟨producer, path⟩ := safe.paths spill inside
    obtain ⟨stats, after, last, replays, -⟩ := Job.replays_of_reconcile reconciles
    have held := Spill.mem_held named calm replays path holds (undisturbed spill inside)
      (fits recorded mem)
    refine Or.inr ⟨held, ?_⟩
    exact Job.takes_of_reconcile reconciles (List.ne_nil_of_mem held)
  · exact Or.inl (stored.resolve_left id)

/-! ## A result that is spilled -/

/-- The result has no rows and no figures that a line of JSON could not hold. -/
def ExtractionResult.isPlain (result : ExtractionResult) : Bool :=
  result.rows.isEmpty && result.metrics.memoryPeakMb.isNone &&
    decide (result.metrics.durationMs < wordLimit) &&
      decide (result.metrics.sizeBytes < wordLimit) &&
      decide (result.metrics.pageCount < wordLimit) && decide (result.attempt < attemptLimit)

theorem ExtractionResult.fits_of_isPlain {result : ExtractionResult}
    (plain : result.isPlain = true) :
    result.Fits := by
  simp only [isPlain, Bool.and_eq_true, List.isEmpty_iff, Option.isNone_iff_eq_none,
    decide_eq_true_eq] at plain
  obtain ⟨⟨⟨⟨⟨rows, memory⟩, duration⟩, size⟩, pages⟩, attempt⟩ := plain
  refine ⟨by rw [rows]; exact fun _ inside => absurd inside List.not_mem_nil,
    ⟨duration, size, pages, fun x inside => ?_⟩, attempt⟩
  rw [memory] at inside
  cases inside

theorem ExtractionResult.ownsRows_of_isPlain {result : ExtractionResult}
    (plain : result.isPlain = true) : result.OwnsRows := by
  simp only [isPlain, Bool.and_eq_true, List.isEmpty_iff] at plain
  rw [OwnsRows, plain.1.1.1.1.1]
  exact fun _ inside => absurd inside List.not_mem_nil

/-- The producer has no file, or one that is new and in its place, and does not begin like a
checkpoint. -/
def SpillFile.isNew (spill : SpillFile) (start disk : Disk) : Bool :=
  match spill.file with
  | none => true
  | some id =>
    decide (start.nextFile ≤ id) &&
      match disk.locate .followed spill.path, disk.content? id with
      | .ok ⟨_, some (.file other), false⟩, some (.bytes _ (_ :: second :: _)) =>
        other == id && second != 10
      | _, _ => false

theorem SpillFile.undisturbed_of_isNew {spill : SpillFile} {start disk : Disk}
    (new : spill.isNew start disk = true) : spill.Undisturbed start disk := by
  unfold isNew at new
  split at new
  · next closed =>
      have unopened (id : FileId) : spill.file ≠ some id := fun file =>
        nomatch closed.symm.trans file
      exact ⟨fun id file => absurd file (unopened id), fun id file => absurd file (unopened id),
        fun id file => absurd file (unopened id)⟩
  · next id file =>
      rw [Bool.and_eq_true, decide_eq_true_eq] at new
      obtain ⟨late, new⟩ := new
      split at new
      · next location other zeros first second rest leads content =>
          obtain ⟨same, apart⟩ := Bool.and_eq_true_iff.1 new
          obtain rfl := beq_iff_eq.1 same
          refine ⟨fun id' file' => ?_, fun id' file' old => ?_,
            fun id' file' zeros' tail held => ?_⟩
          · cases file.symm.trans file'
            exact ⟨⟨location, leads⟩, zeros, _, content⟩
          · cases file.symm.trans file'
            exact absurd old (Nat.not_lt_of_le late)
          · cases file.symm.trans file'
            cases content.symm.trans held
            intro checkpoint text
            have begins := (checkpoint.brace_fileText).trans text
            obtain ⟨more, same⟩ := begins
            cases same
            exact absurd apart (by decide)
      · cases new

/-! ## A batch that is refused -/

/-- A job in the working directory, with one worker whom the engine takes down. -/
def Job.single : Job where
  settings :=
    { Settings.standard ⟨""⟩ with
      databasePath := ⟨"database"⟩
      checkpointPath := ⟨"checkpoint"⟩
      fallbackDir := ⟨"spill"⟩
      workers := some 1
      writerPoolSize := 1
      retry := { enabled := false } }
  engine := fun _ _ => { outcome := .crashed }
  host := ⟨4, 1000000000⟩
  today := ⟨0, 0⟩

/-- A disk with one file, and with a database that will refuse one transaction. -/
def Disk.refusing : Disk where
  entries := [(["a.pdf"], .file 0), (["database"], .file 1)]
  contents := [(0, .ofBytes [1]), (1, .database { Database.fresh with refusals := [true] })]
  nextFile := 2

/-- A course on which the worker goes down and the writer's batch is refused. -/
def Job.refusedCourse : List Move :=
  [.manager .feed, .manager .look, .worker 0 true, .worker 0 true, .manager .receive,
    .worker 0 true, .worker 0 true, .manager .receive, .writer 0, .manager .look,
    .manager .proceed, .manager .proceed, .manager .proceed, .writer 0, .manager .proceed,
    .manager .proceed]

theorem accepted_results_applied_single : ∃ (start worked : Progress) (system : System)
    (course : List Move) (recorded : Recorded),
    Job.single.prepare .refusing = .ok ([⟨"./a.pdf"⟩], start) ∧
      recorded ∈ (system.run course).manager.history ∧ recorded.outcome.delivery = .writer ∧
        (system.EverCommits start.connection.file recorded.outcome.result course ∨
          recorded.outcome.result ∈ Spill.held ⟨"spill"⟩ worked.disk ∧
            worked.disk.Takes (Job.single.replayed worked) start.connection.file
              (Spill.held ⟨"spill"⟩ worked.disk)) := by
  obtain ⟨⟨paths, start, system, worked, reconciled⟩, prepared, engaged, ended, reconciles,
      checked⟩ :=
    @Job.exists_stages .single .refusing Job.refusedCourse
      (fun stages => let done := stages.system.run Job.refusedCourse
        decide (stages.paths = [⟨"./a.pdf"⟩] ∧
          (∀ writer ∈ stages.system.writers,
            writer.connection.file = stages.start.connection.file) ∧
          done.isFinished = true ∧ done.manager.report.forceTerminated = 0 ∧
          (∀ writer ∈ done.writers, writer.losses = []) ∧ stages.worked.disk.faults = [] ∧
          (∀ spill ∈ done.spills, spill.isNew .refusing stages.worked.disk) ∧
          done.manager.history.length = 1 ∧
          ∀ recorded ∈ done.manager.history,
            recorded.outcome.delivery = .writer ∧ recorded.outcome.result.isPlain))
      (by
        simp only [Job.stages, Job.reconcile, Spill.reconcile_eq]
        decide +kernel)
  dsimp only at prepared engaged ended reconciles checked
  rw [decide_eq_true_eq] at checked
  obtain ⟨rfl, one, finished, punctual, unharmed, calm, new, once, outcomes⟩ := checked
  have numbered : Disk.refusing.Numbered :=
    Disk.numbered_of_entries (by simp [Disk.refusing])
  have applied := accepted_results_applied numbered prepared engaged one finished punctual unharmed
    ended reconciles (by decide) (by rw [calm]; exact nofun)
    (fun spill mem => SpillFile.undisturbed_of_isNew (new spill mem))
    fun recorded mem => fits_of_isPlain (outcomes recorded mem).2
  obtain ⟨recorded, history⟩ := List.length_eq_one_iff.1 once
  have mem : recorded ∈ (system.run Job.refusedCourse).manager.history := by simp [history]
  have delivery := (outcomes recorded mem).1
  exact ⟨start, worked, system, Job.refusedCourse, recorded, prepared, mem, delivery,
    applied recorded mem (Or.inl delivery)⟩

end PartsList
