import PartsList.Proofs.Extraction.Outcomes
import PartsList.Proofs.Job.Moves
import PartsList.Proofs.Job.Situation
import PartsList.Proofs.Job.Stages

/-!
# Conservation of files

The workers of a job tell the manager only of tasks that they have taken, so that every file is in
one place whatever the order in which the threads take their steps, and the report that a job
returns accounts for every file that was selected.
-/

namespace PartsList

/-! ## Results of workers -/

namespace ExtractionResult

theorem IsSuccess.honest {result : ExtractionResult} (success : result.IsSuccess) :
    result.Honest :=
  ⟨fun _ => success.errorCode, fun _ => success.success⟩

theorem IsFailure.honest {result : ExtractionResult} (failure : result.IsFailure) :
    result.Honest :=
  ⟨fun success => absurd (failure.success.symm.trans success) (by decide),
    fun none => absurd none failure.errorCode⟩

end ExtractionResult

theorem Pipeline.honest_finish (pipeline : Pipeline) (path : Path) (sizeBytes : Nat)
    (answer : Except EngineError Document) : (pipeline.finish path sizeBytes answer).Honest := by
  rcases pipeline.finish_cases path sizeBytes answer with failure | ⟨success, -⟩
  · exact failure.honest
  · exact success.honest

namespace Worker

theorem honest_process {rules : WorkerRules} {path : Path} {shared : Shared}
    {result : ExtractionResult} {after : Shared}
    (processed : process rules path shared = (some result, after)) : result.Honest := by
  unfold process at processed
  split at processed
  · next refused =>
      cases processed
      exact (Pipeline.isFailure_precheck refused).honest
  · dsimp only at processed
    split at processed
    · cases processed
      exact Pipeline.honest_finish _ _ _ _
    · cases processed
      exact Pipeline.honest_finish _ _ _ _
    · cases processed
      exact ExtractionResult.honest_failed nofun
    · cases processed

end Worker

/-- A worker about to do this is at no task but one that was taken, and its result is honest. -/
def WorkerPhase.Known (taken : List TaskId) : WorkerPhase → Prop
  | .idle | .leaving _ | .gone _ => True
  | .announcing task _ | .processing task _ => task.id ∈ taken
  | .delivering task _ result => task.id ∈ taken ∧ result.Honest
  | .reporting outcome => outcome.task ∈ taken ∧ outcome.result.Honest

theorem WorkerPhase.Known.more {taken more : List TaskId} {phase : WorkerPhase}
    (known : phase.Known taken) : phase.Known (more ++ taken) := by
  cases phase with
  | idle | leaving | gone => trivial
  | announcing | processing => exact List.mem_append_right _ known
  | delivering | reporting => exact ⟨List.mem_append_right _ known.1, known.2⟩

theorem Worker.known_judge {rules : WorkerRules} {task : Task} {started begun now : Instant}
    {memoryMb : Option Float} {result : ExtractionResult} {taken : List TaskId}
    (known : task.id ∈ taken) (honest : result.Honest) :
    (judge rules task started begun now memoryMb result).Known taken := by
  have late : (overrun task.path (now - started) rules.timeout result.metrics).Honest :=
    ExtractionResult.honest_failed nofun
  unfold judge
  split
  · exact ⟨known, late⟩
  · exact ⟨known, honest⟩

namespace Situation

variable {before : Situation} {selected : List Path}

theorem Sound.report? (sound : before.Sound selected) {event : WorkerEvent} {shared : Shared}
    (credible : event.Credible before.taken)
    (reported : before.shared.report? event = some shared) :
    Sound { before with shared := shared } selected := by
  obtain ⟨events, rfl, -, waiting⟩ := Shared.exists_events_of_report? reported
  refine (sound.tell credible).imp_left fun consistent => ?_
  refine consistent.alter rfl rfl rfl rfl rfl consistent.tells rfl consistent.current rfl ?_
  dsimp only
  rw [waiting]
  split
  · exact List.append_subset.2 ⟨List.subset_append_left _ _, List.nil_subset _⟩
  · exact List.Subset.refl _

/-- One step of a worker leaves the manager's books balanced, and the worker at a task that was
taken. -/
theorem Sound.goes (sound : before.Sound selected) {rules : WorkerRules} {worker : Worker}
    (known : worker.phase.Known before.taken) {after : Worker × Shared}
    (goes : worker.Goes rules before.shared after) :
    ∃ more, Sound { before with shared := after.2, taken := more ++ before.taken } selected ∧
      after.1.phase.Known (more ++ before.taken) := by
  cases goes with
  | take phase received => exact ⟨_, sound.take received, List.mem_append_left _ List.mem_cons_self⟩
  | stop phase received => exact ⟨_, sound.take received, trivial⟩
  | close => exact ⟨[], sound, trivial⟩
  | @announce task since shared phase reported =>
      rw [phase] at known
      have started : (WorkerEvent.started worker.id task.id since).Credible before.taken := known
      exact ⟨[], sound.report? started reported, known⟩
  | crash => exact ⟨[], sound.change rfl rfl, trivial⟩
  | find phase processed =>
      rw [phase] at known
      exact ⟨[], sound.change rfl rfl,
        Worker.known_judge known (Worker.honest_process processed)⟩
  | deliver phase =>
      rw [phase] at known
      exact ⟨[], sound.change rfl rfl, known⟩
  | @report outcome shared phase reported =>
      rw [phase] at known
      have finished : (WorkerEvent.finished worker.id outcome).Credible before.taken := known
      exact ⟨[], sound.report? finished reported, trivial⟩
  | leave phase reported =>
      have left : (WorkerEvent.exited worker.id).Credible before.taken := trivial
      exact ⟨[], sound.report? left reported, trivial⟩

end Situation

/-! ## Threads -/

namespace System

variable {system after : System} {taken : List TaskId} {selected : List Path}

/-- The manager's books balance, and the workers are at tasks that were taken. -/
structure Sound (system : System) (taken : List TaskId) (selected : List Path) : Prop where
  /-- The manager's books balance. -/
  manager : Situation.Sound ⟨system.manager, system.shared, taken⟩ selected
  /-- The workers are at tasks that were taken. -/
  workers : ∀ worker ∈ system.workers, worker.phase.Known taken

theorem Sound.managed (sound : system.Sound taken selected) {action : Manager.Action}
    {next : Manager × Shared}
    (stepped : system.manager.step? system.shared system.finishedStats action = some next) :
    (system.withHired next).Sound taken selected := by
  refine ⟨sound.manager.act stepped, fun worker mem => ?_⟩
  rcases List.mem_append.1 mem with mem | mem
  · exact sound.workers worker mem
  · rw [phase_of_mem_hired mem]
    exact trivial

theorem Sound.work (sound : system.Sound taken selected) {worker : Worker}
    {next : Worker × Shared} (mem : worker ∈ system.workers)
    (goes : worker.Goes system.rules system.shared next) :
    ∃ more, Sound { system.putWorker next.1 with shared := next.2 } (more ++ taken) selected := by
  obtain ⟨more, manager, known⟩ := sound.manager.goes (sound.workers worker mem) goes
  refine ⟨more, manager, fun other mem => ?_⟩
  obtain ⟨before, inside, rfl⟩ := List.mem_map.1 mem
  split
  · exact known
  · exact (sound.workers before inside).more

/-- No move of a thread unbalances the manager's books. -/
theorem Sound.moves (sound : system.Sound taken selected) (moves : system.Moves after) :
    ∃ more, after.Sound (more ++ taken) selected := by
  cases moves with
  | manage stepped => exact ⟨[], sound.managed stepped⟩
  | work mem goes => exact sound.work mem goes
  | @beat worker shared mem stays reported =>
      have alive : (WorkerEvent.heartbeat worker.id system.shared.now).Credible taken := trivial
      exact ⟨[], sound.manager.report? alive reported, sound.workers⟩
  | serve | pass | interrupt => exact ⟨[], sound.manager.change rfl rfl, sound.workers⟩

theorem Sound.step (sound : system.Sound taken selected) (move : Move) :
    ∃ more, (system.step move).Sound (more ++ taken) selected :=
  step_induction (∃ more, ·.Sound (more ++ taken) selected) ⟨[], sound⟩ (fun _ => sound.moves) move

/-- No course of the threads unbalances the manager's books. -/
theorem Sound.run (sound : system.Sound taken selected) (course : List Move) :
    ∃ more, (system.run course).Sound (more ++ taken) selected := by
  refine run_induction (∃ more, ·.Sound (more ++ taken) selected) ⟨[], sound⟩ ?_ course
  rintro before after ⟨more, sound⟩ moves
  obtain ⟨others, sound⟩ := sound.moves moves
  exact ⟨others ++ more, by simpa using sound⟩

end System

/-! ## Jobs -/

namespace Job

variable {job : Job} {disk : Disk} {paths : List Path} {progress after : Progress}

theorem map_path_firstTasks (paths : List Path) : (firstTasks paths).map (·.path) = paths :=
  List.ext_getElem (by simp [firstTasks]) (by simp [firstTasks])

theorem map_id_firstTasks (paths : List Path) :
    (firstTasks paths).map (·.id) = List.range paths.length :=
  List.ext_getElem (by simp [firstTasks]) (by simp [firstTasks])

theorem starts_managerAtStart (prepared : job.prepare disk = .ok (paths, progress)) (plan : Plan)
    (supervisor : Supervisor) (inboxes : List Inbox) (opened : Disk) :
    Situation.Starts
      ⟨job.managerAtStart plan paths progress supervisor,
        job.sharedAtStart plan progress inboxes opened, []⟩ (firstTasks paths) := by
  obtain ⟨discovered, report⟩ := report_of_prepare prepared
  have count : (firstTasks paths).length = paths.length := by simp [firstTasks]
  refine
    { pending := rfl
      distinct := ?_
      issued := ?_
      inFlight := rfl
      history := rfl
      phase := rfl
      idle := nofun
      scheduled := ?_
      tells := ?_
      queue := rfl
      events := rfl
      taken := rfl }
  · rw [map_id_firstTasks]
    exact List.nodup_range
  · intro task mem
    have inside : task.id ∈ (firstTasks paths).map (·.id) := List.mem_map_of_mem mem
    rw [map_id_firstTasks] at inside
    exact List.mem_range.1 inside
  · simp [managerAtStart, Report.enter, report, selectionReport, count]
  · constructor <;>
      simp [managerAtStart, Report.enter, report, selectionReport, Report.countOf]

theorem consistent_spawnAll {manager : Manager} {shared : Shared} {taken : List TaskId}
    {selected : List Path} (consistent : manager.Consistent shared taken [] selected)
    (count : Nat) :
    (Manager.spawnAll count manager shared).1.Consistent (Manager.spawnAll count manager shared).2
      taken [] selected := by
  induction count generalizing manager shared with
  | zero => exact consistent
  | succ count induction => exact induction consistent.spawn

theorem sound_engage {system : System} (prepared : job.prepare disk = .ok (paths, progress))
    (engaged : job.engage paths progress = .ok system) : system.Sound [] paths := by
  obtain ⟨plan, supervisor, writers, opened, -, -, rfl, -⟩ := engage_eq_ok engaged
  refine ⟨?_, fun worker mem => ?_⟩
  · have starts := starts_managerAtStart prepared plan supervisor (writers.map (·.2)) opened
    have consistent := consistent_spawnAll starts.consistent plan.workerCount
    rw [map_path_firstTasks] at consistent
    exact Or.inl consistent
  · obtain ⟨id, -, rfl⟩ := List.mem_map.1 mem
    exact trivial

/-- Every state that the threads of a job can reach conserves the selected files. -/
theorem conserved_run {system : System} (prepared : job.prepare disk = .ok (paths, progress))
    (engaged : job.engage paths progress = .ok system) (course : List Move) :
    (system.run course).manager.Conserved paths := by
  obtain ⟨taken, sound⟩ := (sound_engage prepared engaged).run course
  exact sound.manager.conserved

/-- What a job can return, whatever course its threads take to their end, and the final outcomes
that its manager recorded. -/
inductive Returns (job : Job) (disk : Disk) : List Recorded → Progress → Prop
  /-- The job was interrupted before any worker was started. -/
  | skipped {paths : List Path} {progress last : Progress}
      (prepared : job.prepare disk = .ok (paths, progress))
      (concluded : job.conclude (skip paths progress) = .ok last) : Returns job disk [] last
  /-- No file was selected. -/
  | idle {progress reconciled last : Progress} (prepared : job.prepare disk = .ok ([], progress))
      (replayed : job.reconcile progress = .ok reconciled)
      (concluded : job.conclude reconciled = .ok last) : Returns job disk [] last
  /-- The threads have processed the files. -/
  | worked {paths : List Path} {progress worked reconciled last : Progress} {system : System}
      {course : List Move} (prepared : job.prepare disk = .ok (paths, progress))
      (engaged : job.engage paths progress = .ok system)
      (finished : (system.run course).isFinished = true)
      (ended : job.afterWork progress (system.run course) = .ok worked)
      (replayed : job.reconcile worked = .ok reconciled)
      (concluded : job.conclude reconciled = .ok last) :
      Returns job disk (system.run course).manager.finals last

end Job

namespace Job

variable {job : Job} {disk : Disk} {progress last : Progress} {finals : List Recorded}

/-- However a job comes to its end, what it returns is what it can return. -/
theorem Passes.returns {interrupted : Bool} {paths : List Path}
    {threads : Option (System × List Move)}
    (passes : job.Passes disk interrupted paths threads last) :
    ∃ finals, job.Returns disk finals last := by
  cases passes with
  | skipped prepared concluded => exact ⟨[], .skipped prepared concluded⟩
  | idle prepared replayed concluded => exact ⟨[], .idle prepared replayed concluded⟩
  | worked prepared _ engaged finished ended replayed concluded =>
      exact ⟨_, .worked prepared engaged finished ended replayed concluded⟩

/-- A job that runs without an interruption: the files that it selects, its threads at the start and
what it returns. -/
def trial (job : Job) (disk : Disk) : Except JobFailure (List Path × System × Progress) := do
  let (paths, progress) ← job.prepare disk
  let system ← job.engage paths progress
  let last ← job.run false disk
  return (paths, system, last)

theorem exists_returns {check : List Path → System → Progress → Bool}
    (checked : (job.trial disk).toOption.any (fun (paths, system, last) =>
      system.complete.isFinished && check paths system last) = true) :
    ∃ paths progress system finals last, job.prepare disk = .ok (paths, progress) ∧
      job.engage paths progress = .ok system ∧ system.complete.isFinished = true ∧
        job.Returns disk finals last ∧ check paths system last = true := by
  cases tried : job.trial disk with
  | error =>
      rw [tried] at checked
      cases checked
  | ok answer =>
      rw [tried] at checked
      obtain ⟨⟨paths, progress⟩, prepared, rest⟩ := exists_of_bind_eq_ok tried
      obtain ⟨system, engaged, rest⟩ := exists_of_bind_eq_ok rest
      obtain ⟨last, ran, same⟩ := exists_of_bind_eq_ok rest
      cases same
      obtain ⟨finished, checked⟩ := Bool.and_eq_true_iff.1 checked
      have ends : ∀ others other reached, job.prepare disk = .ok (others, other) →
          job.engage others other = .ok reached → reached.complete.isFinished = true := by
        intro others other reached same also
        cases prepared.symm.trans same
        cases engaged.symm.trans also
        exact finished
      obtain ⟨_, _, passes⟩ := passes_of_run (fun _ => ends) ran
      obtain ⟨finals, returns⟩ := passes.returns
      exact ⟨paths, progress, system, finals, last, prepared, engaged, finished, returns, checked⟩

theorem balanced_reconcile (balanced : progress.report.Balanced finals)
    (reconciled : job.reconcile progress = .ok last) : last.report.Balanced finals := by
  obtain ⟨stats, corrections, report⟩ := report_reconcile reconciled
  rw [report]
  exact ⟨balanced.scheduled, balanced.codes, balanced.noError, balanced.rows⟩

theorem balanced_conclude (balanced : progress.report.Balanced finals)
    (concluded : job.conclude progress = .ok last) : last.report.Balanced finals := by
  rw [report_conclude concluded]
  exact ⟨balanced.scheduled, balanced.codes, balanced.noError, balanced.rows⟩

theorem Returns.balanced
    (returns : job.Returns disk finals last) : last.report.Balanced finals := by
  cases returns with
  | skipped prepared concluded =>
      obtain ⟨discovered, report⟩ := report_of_prepare prepared
      refine balanced_conclude ?_ concluded
      constructor <;> simp [skip, report, selectionReport, Report.countOf]
  | idle prepared replayed concluded =>
      obtain ⟨discovered, report⟩ := report_of_prepare prepared
      refine balanced_conclude (balanced_reconcile ?_ replayed) concluded
      constructor <;> simp [report, selectionReport, Report.countOf]
  | @worked paths progress worked reconciled _ system course prepared engaged finished ended
      replayed
      concluded =>
      refine balanced_conclude (balanced_reconcile ?_ replayed) concluded
      have conserved := conserved_run prepared engaged course
      rw [afterWork_eq_ok ended]
      refine conserved.balanced ?_
      rw [System.isFinished, beq_iff_eq] at finished
      rw [Manager.isClosed, finished]

end Job

/-- A manager conserves the files that it is given in every situation that it can get into, and so
do the threads of a job in whatever order they take their steps.  What a job returns tells where
every selected file is, and its counts add up. -/
theorem files_conserved :
    (∀ {tasks : List Task} {start last : Situation}, start.Starts tasks →
      Relation.ReflTransGen Situation.Step start last →
        last.manager.Conserved (tasks.map (·.path))) ∧
    (∀ {job : Job} {disk : Disk} {paths : List Path} {progress : Progress} {system : System}
      (course : List Move), job.prepare disk = .ok (paths, progress) →
      job.engage paths progress = .ok system → (system.run course).manager.Conserved paths) ∧
    ∀ {job : Job} {disk : Disk} {finals : List Recorded} {last : Progress},
      job.Returns disk finals last → last.report.Balanced finals := by
  refine ⟨fun starts run => ?_, fun course prepared engaged => ?_, fun returns => ?_⟩
  · have start := Situation.Sound.run (Or.inl starts.consistent) run
    exact start.conserved
  · exact Job.conserved_run prepared engaged course
  · exact returns.balanced

/-- A manager with one file and one worker. -/
def Situation.small : Situation where
  manager := {
    settings := .standard ⟨""⟩
    pending := [{ id := 0, path := ⟨"a.pdf"⟩ }]
    workers := [{ worker := 0 }]
    nextWorker := 1
    nextTask := 1
    supervisor := { stallAfter := 0 }
    spill := { path := ⟨"manager.jsonl"⟩ }
    checkpoint := {}
    report := { scheduled := 1 } }
  shared := {
    tasks := { capacity := 1 }
    events := { capacity := 1 }
    inboxes := []
    disk := {}
    today := ⟨0, 0⟩ }

/-- A job in the working directory whose engine takes every worker down. -/
def Job.small : Job where
  settings :=
    { Settings.standard ⟨""⟩ with
      databasePath := ⟨"database"⟩
      checkpointPath := ⟨"checkpoint"⟩
      fallbackDir := ⟨"spill"⟩ }
  engine := fun _ _ => { outcome := .crashed }
  host := ⟨4, 1000000000⟩
  today := ⟨0, 0⟩

/-- A disk with one file. -/
def Disk.small : Disk where
  entries := [(["a.pdf"], .file 0)]
  contents := [(0, .ofBytes [1])]
  nextFile := 1

theorem Job.small_prepared : ∃ progress system,
    small.prepare .small = .ok ([⟨"./a.pdf"⟩], progress) ∧
      small.engage [⟨"./a.pdf"⟩] progress = .ok system ∧
      system.manager.phase = .dispatching ∧ system.manager.hasWork = true ∧
      system.complete.isFinished = true := by
  obtain ⟨paths, progress, system, -, -, prepared, engaged, finished, -, checked⟩ :=
    @exists_returns .small .small (fun paths system _ =>
      decide (paths = [⟨"./a.pdf"⟩] ∧ system.manager.phase = .dispatching ∧
        system.manager.hasWork = true)) (by decide +kernel)
  obtain ⟨rfl, dispatches, works⟩ := of_decide_eq_true checked
  exact ⟨progress, system, prepared, engaged, dispatches, works, finished⟩

theorem Job.small_returns : ∃ finals last, small.Returns .small finals last ∧
    last.report.failed = 1 ∧ last.report.interrupted = false := by
  obtain ⟨-, -, -, finals, last, -, -, -, returns, checked⟩ :=
    @exists_returns .small .small (fun _ _ last =>
      decide (last.report.failed = 1 ∧ last.report.interrupted = false)) (by decide +kernel)
  exact ⟨finals, last, returns, of_decide_eq_true checked⟩

theorem files_conserved_small :
    (∃ last, Relation.ReflTransGen Situation.Step .small last ∧ last.manager.finals.length = 1 ∧
      last.manager.Conserved [⟨"a.pdf"⟩]) ∧
    (∃ system : System, system.complete.isFinished = true ∧
      ∀ course, (system.run course).manager.Conserved [⟨"./a.pdf"⟩]) ∧
    ∃ finals last, Job.small.Returns .small finals last ∧ last.report.failed = 1 ∧
      last.report.Balanced finals := by
  obtain ⟨progress, system, prepared, engaged, -, -, finished⟩ := Job.small_prepared
  refine ⟨?_, ⟨system, finished, fun course => files_conserved.2.1 course prepared engaged⟩, ?_⟩
  · have starts : Situation.small.Starts [{ id := 0, path := ⟨"a.pdf"⟩ }] := by
      constructor <;> simp [Situation.small]
      exact ⟨rfl, rfl, rfl, rfl, fun _ => rfl⟩
    let outcome : Outcome :=
      { task := 0, result := .failed ⟨"a.pdf"⟩ .fileEmpty "" {}, delivery := .writer }
    have credible : (WorkerEvent.finished 0 outcome).Credible [0] :=
      ⟨List.mem_cons_self, ExtractionResult.honest_failed nofun⟩
    have fed := Relation.ReflTransGen.single (@Situation.Step.act .small [] .feed _ rfl)
    have taken :=
      fed.tail (@Situation.Step.take _ (.process { id := 0, path := ⟨"a.pdf"⟩ }) _ rfl)
    have told := taken.tail (Situation.Step.tell credible)
    have received := told.tail (@Situation.Step.act _ [] .receive _ rfl)
    exact ⟨_, received, rfl, files_conserved.1 starts received⟩
  · obtain ⟨finals, last, returns, failed, -⟩ := Job.small_returns
    exact ⟨finals, last, returns, failed, files_conserved.2.2 returns⟩

end PartsList
