import PartsList.Proofs.Job.Staffing

/-!
# Completion

While the manager of a job gives out tasks, one of the workers that it counts on is there for them.
A job that is not interrupted therefore brings every file to its final outcome, however many workers
break down and however many attempts fail.
-/

namespace PartsList

/-! ## Workers -/

namespace Worker

/-- What a worker's step tells the manager. -/
structure Informs (worker : Worker) (shared : Shared) (after : Worker × Shared) : Prop where
  /-- The worker keeps its number. -/
  id : after.1.id = worker.id
  /-- The system's verdicts on starts stay. -/
  refusals : after.2.startRefusals = shared.startRefusals
  /-- So does whether the manager takes events. -/
  listens : after.2.events.receiverGone = shared.events.receiverGone
  /-- No event is taken back. -/
  events : shared.events.waiting ⊆ after.2.events.waiting
  /-- A worker that leaves says so. -/
  leaves : after.1.phase.hasLeft = true → shared.events.receiverGone = false →
    .exited worker.id ∈ after.2.events.waiting

theorem informs_report? {worker next : Worker} {shared after : Shared} {event : WorkerEvent}
    (id : next.id = worker.id) (leaves : next.phase.hasLeft = true → event = .exited worker.id)
    (reported : shared.report? event = some after) : worker.Informs shared (next, after) := by
  obtain ⟨events, rfl, listens, waiting⟩ := Shared.exists_events_of_report? reported
  refine ⟨id, rfl, listens, waiting ▸ List.subset_append_left _ _, fun left open_ => ?_⟩
  dsimp only
  rw [waiting, open_, ← leaves left]
  exact List.mem_append_right _ List.mem_cons_self

/-- A worker that says nothing. -/
theorem informs_quietly {worker next : Worker} {shared after : Shared} (id : next.id = worker.id)
    (refusals : after.startRefusals = shared.startRefusals) (events : after.events = shared.events)
    (stays : next.phase.hasLeft = false) : worker.Informs shared (next, after) :=
  ⟨id, refusals, congrArg _ events, events ▸ List.Subset.refl _,
    fun left => absurd left (by rw [stays]; decide)⟩

theorem hasLeft_judge (rules : WorkerRules) (task : Task) (started begun now : Instant)
    (memoryMb : Option Float) (result : ExtractionResult) :
    (judge rules task started begun now memoryMb result).hasLeft = false := by
  unfold judge
  split <;> rfl

theorem Goes.informs {rules : WorkerRules} {worker : Worker} {shared : Shared}
    {after : Worker × Shared} (goes : worker.Goes rules shared after) :
    worker.Informs shared after := by
  cases goes with
  | take | stop | close | crash | deliver => exact informs_quietly rfl rfl rfl rfl
  | find => exact informs_quietly rfl rfl rfl (hasLeft_judge _ _ _ _ _ _ _)
  | announce _ reported | report _ reported => exact informs_report? rfl (by rintro ⟨⟩) reported
  | leave _ reported => exact informs_report? rfl (fun _ => rfl) reported

end Worker

/-! ## Threads -/

namespace System

variable {system after : System} {taken : List TaskId} {selected : List Path}

/-- There is a worker whom the manager has not given up on, and who has not left unless the manager
is about to hear of it. -/
def HasWorker (system : System) : Prop :=
  ∃ slot ∈ system.manager.workers, slot.abandoned = false ∧
    ∃ worker ∈ system.workers, worker.id = slot.worker ∧
      (worker.phase.hasLeft = true → .exited slot.worker ∈ system.shared.events.waiting)

/-- While the manager dispatches, its workers are there. -/
structure Manned (system : System) : Prop where
  /-- The manager has workers for its tasks. -/
  staffed : system.manager.Staffed system.shared system.workers
  /-- Every number of a worker belongs to one. -/
  threads : ∀ id < system.manager.nextWorker, ∃ worker ∈ system.workers, worker.id = id

/-- The threads finish what they can. -/
def Finishes (system : System) : Prop :=
  system.Manned ∨ system.manager.Ending

theorem Manned.hasWorker (manned : system.Manned) (work : system.manager.hasWork = true) :
    system.HasWorker := by
  obtain ⟨slot, mem, kept⟩ := manned.staffed.staffed work
  obtain ⟨worker, inside, same⟩ := manned.threads slot.worker (manned.staffed.issued slot mem)
  exact ⟨slot, mem, kept, worker, inside, same,
    fun left => manned.staffed.told slot mem ⟨worker, inside, same, left⟩⟩

/-- Workers that the manager starts have not left. -/
theorem manned_hire {next : Manager × Shared} (staffed : next.1.Staffed next.2 system.workers)
    (threads : ∀ id < system.manager.nextWorker, ∃ worker ∈ system.workers, worker.id = id) :
    (system.withHired next).Manned := by
  refine ⟨⟨{ staffed.toEnlisted with known := ?_, told := ?_ }, staffed.staffed⟩,
    fun id issued => ?_⟩
  · intro worker mem
    rcases List.mem_append.1 mem with mem | mem
    · exact staffed.known worker mem
    · obtain ⟨id, -, issued, rfl⟩ := mem_hired.1 mem
      exact issued
  · rintro slot mem ⟨worker, inside, same, left⟩
    rcases List.mem_append.1 inside with inside | inside
    · exact staffed.told slot mem ⟨worker, inside, same, left⟩
    · obtain ⟨id, -, -, rfl⟩ := mem_hired.1 inside
      cases left
  · by_cases old : id < system.manager.nextWorker
    · obtain ⟨worker, mem, same⟩ := threads id old
      exact ⟨worker, List.mem_append_left _ mem, same⟩
    · have new := mem_hired.2 ⟨id, Nat.le_of_not_lt old, issued, rfl⟩
      exact ⟨_, List.mem_append_right _ new, rfl⟩

/-- At the start all workers are there. -/
theorem finishes_of_idle {manager : Manager} {shared : Shared} {rules : WorkerRules}
    {writers : List Writer} {count : Nat} (idle : manager.Enlisted shared [])
    (fresh : manager.nextWorker = 0) (active : ∀ slot ∈ manager.workers, slot.abandoned = false)
    (started : (Manager.spawnAll count manager shared).1.workers ≠ []) :
    Finishes
      { rules := rules
        shared := (Manager.spawnAll count manager shared).2
        manager := (Manager.spawnAll count manager shared).1
        workers := hired manager (Manager.spawnAll count manager shared).1
        writers := writers } := by
  obtain ⟨enlisted, active⟩ := idle.spawnAll count active
  obtain ⟨slot, mem⟩ := List.exists_mem_of_ne_nil _ started
  have threads : ∀ id < manager.nextWorker, ∃ worker ∈ ([] : List Worker), worker.id = id := by
    rw [fresh]
    exact fun id none => absurd none (Nat.not_lt_zero id)
  exact Or.inl (@manned_hire
    { rules := rules, shared := shared, manager := manager, writers := writers } _
    ⟨enlisted, fun _ => ⟨slot, mem, active slot mem⟩⟩ threads)

/-- Signs of life, the passing of time and what writers do change nothing for the manager. -/
theorem Finishes.change (finishes : system.Finishes) {shared : Shared}
    (refusals : shared.startRefusals = system.shared.startRefusals)
    (listens : shared.events.receiverGone = system.shared.events.receiverGone)
    (events : system.shared.events.waiting ⊆ shared.events.waiting) :
    { system with shared := shared }.Finishes := by
  refine finishes.imp_left fun ⟨staffed, threads⟩ => ⟨⟨?_, staffed.staffed⟩, threads⟩
  exact
    { staffed.toEnlisted with
      grants := by rw [Shared.Grants, refusals]; exact staffed.grants
      listens := listens.trans staffed.listens
      told := fun slot mem left => events (staffed.told slot mem left) }

theorem Finishes.managed (finishes : system.Finishes) (sound : system.Sound taken selected)
    {action : Manager.Action} {next : Manager × Shared}
    (stepped : system.manager.step? system.shared system.finishedStats action = some next) :
    (system.withHired next).Finishes := by
  rcases finishes with ⟨staffed, threads⟩ | ending
  · have finishes : system.manager.Finishes system.shared system.workers := Or.inl staffed
    have strides := Manager.strides_step? stepped
    exact (finishes.strides sound.manager strides).imp_left fun staffed =>
      manned_hire staffed threads
  · exact Or.inr (ending.step? stepped)

theorem Finishes.work (finishes : system.Finishes) {worker : Worker} {next : Worker × Shared}
    (mem : worker ∈ system.workers) (informs : worker.Informs system.shared next) :
    Finishes { system.putWorker next.1 with shared := next.2 } := by
  have put (other : Worker) (inside : other ∈ (system.putWorker next.1).workers) :
      other = next.1 ∨ other ∈ system.workers := by
    obtain ⟨before, among, rfl⟩ := List.mem_map.1 inside
    split
    · exact Or.inl rfl
    · exact Or.inr among
  have heard := finishes.change informs.refusals informs.listens informs.events
  refine heard.imp_left fun ⟨staffed, threads⟩ => ⟨⟨?_, staffed.staffed⟩, fun number issued => ?_⟩
  · refine { staffed.toEnlisted with known := ?_, told := ?_ }
    · intro other inside
      rcases put other inside with rfl | among
      · rw [informs.id]
        exact staffed.known worker mem
      · exact staffed.known other among
    · rintro slot listed ⟨other, inside, same, left⟩
      rcases put other inside with rfl | among
      · rw [← same, informs.id]
        exact informs.leaves left (informs.listens.symm.trans staffed.listens)
      · exact staffed.told slot listed ⟨other, among, same, left⟩
  · obtain ⟨other, among, same⟩ := threads number issued
    refine ⟨_, List.mem_map_of_mem among, ?_⟩
    split
    · next alike => exact (beq_iff_eq.1 alike).symm.trans same
    · exact same

/-- No move of a thread keeps the threads from finishing what they can. -/
theorem Finishes.moves (finishes : system.Finishes) (sound : system.Sound taken selected)
    (moves : system.Moves after) : after.Finishes := by
  cases moves with
  | manage stepped => exact finishes.managed sound stepped
  | work mem goes => exact finishes.work mem goes.informs
  | beat _ _ reported =>
      obtain ⟨events, rfl, listens, waiting⟩ := Shared.exists_events_of_report? reported
      exact finishes.change rfl listens (waiting ▸ List.subset_append_left _ _)
  | @serve id writer inbox left next =>
      have changed :
          { system with shared := (system.putWriter next.1 left next.2).shared }.Finishes :=
        finishes.change rfl rfl (List.Subset.refl _)
      exact changed.imp_left fun manned => ⟨manned.staffed, manned.threads⟩
  | pass | interrupt => exact finishes.change rfl rfl (List.Subset.refl _)

/-- No course of the threads keeps them from finishing what they can. -/
theorem Finishes.run (finishes : system.Finishes) (sound : system.Sound taken selected)
    (course : List Move) : (system.run course).Finishes := by
  have ran := run_induction (fun after => after.Finishes ∧ ∃ taken, after.Sound taken selected)
    ⟨finishes, taken, sound⟩ (fun before after ⟨finishes, taken, sound⟩ moves => ?_) course
  · exact ran.1
  · obtain ⟨more, still⟩ := sound.moves moves
    exact ⟨finishes.moves sound moves, _, still⟩

end System

/-! ## Jobs -/

/-- Every file that was selected has its final outcome. -/
structure Report.Complete (report : Report) : Prop where
  /-- Every file succeeded or failed. -/
  files : report.succeeded + report.failed = report.scheduled
  /-- No file waits. -/
  notStarted : report.notStarted = 0
  /-- No file is with a worker. -/
  unfinished : report.unfinished = 0
  /-- Every attempt was given to a worker. -/
  attempts : report.dispatched = report.scheduled + report.retried

namespace Job

variable {job : Job} {disk : Disk} {paths : List Path} {progress last : Progress}
  {finals : List Recorded} {system : System}

/-- The system refuses no start of a worker of the job. -/
def Grants (job : Job) : Prop :=
  true ∉ job.startRefusals

theorem enlisted_managerAtStart (grants : job.Grants)
    (prepared : job.prepare disk = .ok (paths, progress)) (plan : Plan) (supervisor : Supervisor)
    (inboxes : List Inbox) (opened : Disk) :
    (job.managerAtStart plan paths progress supervisor).Enlisted
      (job.sharedAtStart plan progress inboxes opened) [] := by
  obtain ⟨discovered, report⟩ := report_of_prepare prepared
  exact
    { dispatches := rfl
      grants := grants
      listens := rfl
      distinct := List.nodup_nil
      issued := fun _ mem => absurd mem List.not_mem_nil
      known := fun _ mem => absurd mem List.not_mem_nil
      told := fun _ mem => absurd mem List.not_mem_nil
      replaces := rfl
      counted := by simp [managerAtStart, Report.enter, report, selectionReport, firstTasks] }

theorem finishes_engage (grants : job.Grants) (prepared : job.prepare disk = .ok (paths, progress))
    (engaged : job.engage paths progress = .ok system) : system.Finishes := by
  obtain ⟨plan, supervisor, writers, opened, -, -, same, hired⟩ := engage_eq_ok engaged
  have idle := enlisted_managerAtStart grants prepared plan supervisor (writers.map (·.2)) opened
  have fresh : (job.managerAtStart plan paths progress supervisor).nextWorker = 0 := rfl
  have active : ∀ slot ∈ (job.managerAtStart plan paths progress supervisor).workers,
      slot.abandoned = false := fun _ mem => absurd mem List.not_mem_nil
  generalize job.managerAtStart plan paths progress supervisor = manager at *
  generalize job.sharedAtStart plan progress (writers.map (·.2)) opened = shared at *
  rw [same] at hired ⊢
  exact System.finishes_of_idle idle fresh active hired

/-- When the threads of a job are done and nobody interrupted them, nothing is left to do. -/
theorem cleared_run {course : List Move} (grants : job.Grants)
    (prepared : job.prepare disk = .ok (paths, progress))
    (engaged : job.engage paths progress = .ok system)
    (finished : (system.run course).isFinished = true)
    (quiet : (system.run course).manager.report.interrupted = false) :
    (system.run course).manager.Closed paths ∧ (system.run course).manager.Cleared := by
  have last : (system.run course).manager.phase = .finished := by
    rwa [System.isFinished, beq_iff_eq] at finished
  have sound := sound_engage prepared engaged
  obtain ⟨taken, still⟩ := sound.run course
  have closed : (system.run course).manager.Closed paths := by
    refine still.manager.resolve_left fun consistent => ?_
    have works := consistent.working
    rw [Manager.isClosed, last] at works
    cases works
  have ending : (system.run course).manager.Ending := by
    refine ((finishes_engage grants prepared engaged).run sound course).resolve_left ?_
    intro manned
    have dispatches := manned.staffed.dispatches
    rw [last] at dispatches
    cases dispatches
  exact ⟨closed, ending.2 quiet⟩

/-- A job that was not interrupted has brought every file to its final outcome. -/
theorem Returns.complete (returns : job.Returns disk finals last) (grants : job.Grants)
    (quiet : last.report.interrupted = false) : last.report.Complete := by
  have balanced := returns.balanced.scheduled
  cases returns with
  | skipped prepared concluded =>
      rw [report_conclude concluded] at quiet
      cases quiet
  | idle prepared replayed concluded =>
      obtain ⟨discovered, selection⟩ := report_of_prepare prepared
      obtain ⟨stats, corrections, reconciled⟩ := report_reconcile replayed
      rw [report_conclude concluded, reconciled, selection]
      exact ⟨rfl, rfl, rfl, rfl⟩
  | @worked paths progress worked reconciled _ system course prepared engaged finished ended
      replayed
      concluded =>
      obtain ⟨stats, corrections, report⟩ := report_reconcile replayed
      rw [report_conclude concluded, report, afterWork_eq_ok ended] at quiet balanced ⊢
      obtain ⟨closed, cleared⟩ := cleared_run grants prepared engaged finished quiet
      have notStarted := closed.notStarted
      have unfinished := closed.unfinished
      rw [cleared.pending] at notStarted
      rw [cleared.inFlight] at unfinished
      refine ⟨?_, notStarted, unfinished, cleared.counted⟩
      simp only [Report.enter, notStarted, unfinished, List.length_nil] at balanced ⊢
      omega

end Job

/-- When the system lets workers start, the manager of a job has a worker whenever a task waits or
is with the workers, whatever course the threads take, and unless it is interrupted it stops giving
out tasks only when none is left.  A job that was not interrupted has brought every file to its
final outcome. -/
theorem files_completed :
    (∀ {job : Job} {disk : Disk} {paths : List Path} {progress : Progress} {system : System}
      (course : List Move), job.Grants → job.prepare disk = .ok (paths, progress) →
      job.engage paths progress = .ok system →
        let reached := system.run course
        (reached.manager.phase = .dispatching → reached.manager.hasWork = true →
          reached.HasWorker) ∧
        (reached.manager.phase ≠ .dispatching → reached.manager.report.interrupted = false →
          reached.manager.pending = [] ∧ reached.manager.inFlight = [])) ∧
    ∀ {job : Job} {disk : Disk} {finals : List Recorded} {last : Progress}, job.Grants →
      job.Returns disk finals last → last.report.interrupted = false → last.report.Complete := by
  refine ⟨fun course grants prepared engaged => ?_, fun grants returns quiet =>
    returns.complete grants quiet⟩
  have finishes := (Job.finishes_engage grants prepared engaged).run
    (Job.sound_engage prepared engaged) course
  refine ⟨fun dispatches work => ?_, fun ends quiet => ?_⟩
  · have manned := finishes.resolve_right fun ending => ending.1 dispatches
    exact manned.hasWorker work
  · have ending := finishes.resolve_left fun manned => ends manned.staffed.dispatches
    exact ⟨(ending.2 quiet).pending, (ending.2 quiet).inFlight⟩

theorem files_completed_small :
    (∃ system : System, system.HasWorker ∧ system.complete.isFinished = true ∧
      (system.complete.manager.report.interrupted = false →
        system.complete.manager.pending = [] ∧ system.complete.manager.inFlight = [])) ∧
    ∃ finals last, Job.small.Returns .small finals last ∧ last.report.failed = 1 ∧
      last.report.interrupted = false ∧ last.report.Complete := by
  have grants : Job.small.Grants := nofun
  constructor
  · obtain ⟨progress, system, prepared, engaged, dispatches, works, finished⟩ := Job.small_prepared
    have start := files_completed.1 [] grants prepared engaged
    refine ⟨system, start.1 dispatches works, finished, fun quiet => ?_⟩
    obtain ⟨course, complete⟩ := System.exists_run_settle system.patience system
    rw [System.complete, complete] at finished quiet ⊢
    refine (files_completed.1 course grants prepared engaged).2 (fun dispatches => ?_) quiet
    rw [System.isFinished, dispatches] at finished
    cases finished
  · obtain ⟨finals, last, returns, failed, quiet⟩ := Job.small_returns
    exact ⟨finals, last, returns, failed, quiet, files_completed.2 grants returns quiet⟩

end PartsList
