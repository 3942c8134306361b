import PartsList.Proofs.Job.Conservation
import PartsList.Proofs.Job.Lineages

/-!
# Retries

Whatever a manager does, nothing happens to the attempts in its books but that outcomes are entered.
So at any time the attempts at every selected file form a lineage: there are as many of them as the
policy justifies, and at most one has no outcome yet.
-/

namespace PartsList

namespace Manager

/-- What the books say of attempts while the manager holds some tasks in its hands. -/
def tally (manager : Manager) (held : List Task) : Tally where
  retry := manager.settings.retry
  waiting := ↑(manager.openTasks held)
  history := manager.history
  retried := manager.report.retried
  fault := manager.fault

/-- Nothing has happened to attempts but that outcomes were entered. -/
def Enters (before after : Manager) : Prop :=
  Relation.ReflTransGen Tally.Entry (before.tally []) (after.tally [])

variable {manager before middle after : Manager} {shared : Shared} {task : TaskId}
  {taken : List TaskId} {selected : List Path} {held : List Task}

theorem Enters.of_eq (same : after.tally [] = before.tally []) : before.Enters after := by
  rw [Enters, same]

theorem Enters.refl (manager : Manager) : manager.Enters manager :=
  .of_eq rfl

theorem Enters.trans (first : before.Enters middle) (second : middle.Enters after) :
    before.Enters after :=
  Relation.ReflTransGen.trans first second

/-! ## Outcomes -/

/-- An outcome of the task in hand is an entry. -/
theorem entry_record (manager : Manager) (shared : Shared) (task : Task) (outcome : Outcome) :
    Tally.Entry (manager.tally [task]) ((manager.record shared task outcome).1.tally []) := by
  have waits : (manager.tally [task]).waiting = task ::ₘ ↑(manager.openTasks []) := rfl
  have counted := (manager.report.figures_count outcome.delivery outcome.result.errorCode).2.2.2
  simp only [Manager.record]
  -- What the manager asks of an outcome is what the policy says that it earns.
  cases earns : !outcome.result.success && manager.earnsRetry task outcome.result.errorCode with
  | true =>
      have entry := Tally.Entry.again waits earns manager.nextTask
      have queued : (manager.pending ++ [task.next manager.nextTask] ++
          manager.inFlight.map (·.task)).Perm
          (task.next manager.nextTask :: manager.openTasks []) := by
        simp [openTasks]
      rw [Multiset.cons_coe, ← Multiset.coe_eq_coe.2 queued] at entry
      simpa [tally, requeue, openTasks, counted] using entry
  | false =>
      have final := (((manager.report.countDelivery outcome.delivery).countFailure
        outcome.result.errorCode).figures_countFinal outcome.result).2.2.2
      have entry := Tally.Entry.final waits earns
      simp only [Bool.false_eq_true, if_false, saveIfDue]
      split
      all_goals
        simp only [tally, save, settle, final, counted] at entry ⊢
        exact entry

theorem entry_conclude (manager : Manager) (shared : Shared) (task : Task)
    (result : ExtractionResult) :
    Tally.Entry (manager.tally [task]) ((manager.conclude shared task result).1.tally []) := by
  unfold Manager.conclude
  dsimp only
  generalize route shared.inboxes manager.spill shared.disk (result.withAttempt task.attempt) =
    routed
  exact entry_record { manager with spill := routed.spill } (shared.afterRouting routed) task _

/-- A manager that takes a task back from the workers accounts for it. -/
theorem Balances.enters (balances : manager.Balances [] selected) {entry : InFlight}
    (found : manager.flight? task = some entry) {noted : Manager}
    (accounts : Tally.Entry (noted.tally [entry.task]) (after.tally []))
    (same : noted.tally [entry.task] = (manager.land task).tally [entry.task]) :
    manager.Enters after := by
  have landed : (manager.land task).tally [entry.task] = manager.tally [] := by
    have tasks := Multiset.coe_eq_coe.2 (balances.openTasks_land found)
    simp only [tally, tasks]
    rfl
  rw [same, landed] at accounts
  exact .single accounts

/-! ## Workers and events -/

theorem enters_spawn (manager : Manager) (shared : Shared) :
    manager.Enters (manager.spawn shared).1 := by
  unfold spawn
  split <;> exact .of_eq rfl

theorem enters_spawnAll (count : Nat) (manager : Manager) (shared : Shared) :
    manager.Enters (spawnAll count manager shared).1 := by
  induction count generalizing manager shared with
  | zero => exact .refl manager
  | succ count induction => exact (enters_spawn manager shared).trans (induction _ _)

theorem enters_replace (manager : Manager) (shared : Shared) :
    manager.Enters (manager.replace shared).1 := by
  unfold replace
  split
  · exact .refl manager
  · exact enters_spawn manager shared

theorem Balances.enters_onFinished (balances : manager.Balances [] selected) (shared : Shared)
    (worker : WorkerId) (outcome : Outcome) :
    manager.Enters (manager.onFinished shared worker outcome).1 := by
  simp only [onFinished]
  split
  · exact .of_eq rfl
  · next entry found =>
      -- What is noted of the worker before does not show in the books, so `rfl` closes that gap.
      split
      · exact balances.enters found (entry_conclude _ shared entry.task _) rfl
      · exact balances.enters found (entry_record _ shared entry.task outcome) rfl

theorem Balances.enters_concludeOrphan (balances : manager.Balances [] selected) (shared : Shared)
    (slot : WorkerSlot) : manager.Enters (manager.concludeOrphan shared slot).1 := by
  unfold concludeOrphan
  split
  · exact .refl manager
  · next entry found =>
      obtain ⟨id, -, found⟩ := Option.bind_eq_some_iff.1 found
      obtain ⟨-, rfl⟩ := flight?_eq_some found
      exact balances.enters found (entry_conclude _ shared entry.task _) rfl

theorem Balances.enters_onExited (balances : manager.Balances [] selected) (shared : Shared)
    (worker : WorkerId) : manager.Enters (manager.onExited shared worker).1 := by
  unfold onExited
  split
  · exact .refl manager
  · next slot _ =>
      have dismissed : Balances
          { manager with
            workers := manager.workers.filter (·.worker != worker)
            supervisor := manager.supervisor.remove worker } [] selected :=
        balances.rearrange (.refl _) rfl rfl balances.tells rfl
      have concluded := dismissed.enters_concludeOrphan shared slot
      dsimp only
      split
      · exact concluded.trans (enters_replace _ _)
      · exact concluded

theorem Balances.enters_onEvent (balances : manager.Balances [] selected) (shared : Shared)
    (event : WorkerEvent) : manager.Enters (manager.onEvent shared event).1 := by
  cases event with
  | heartbeat worker time => exact .of_eq rfl
  | started worker task time =>
      apply Enters.of_eq
      simp only [tally, onEvent, openTasks, tasks_onStarted]
      rfl
  | finished worker outcome => exact balances.enters_onFinished shared worker outcome
  | exited worker => exact balances.enters_onExited shared worker

theorem Balances.enters_receive? (balances : manager.Balances [] selected)
    {after : Manager × Shared} (received : manager.receive? shared = some after) :
    manager.Enters after.1 := by
  obtain ⟨event, rest, -, rfl⟩ := eq_of_receive? received
  exact balances.enters_onEvent _ event

/-! ## Dispatching -/

theorem enters_feed? {after : Manager × Shared} (fed : manager.feed? shared = some after) :
    manager.Enters after.1 := by
  obtain ⟨task, rest, tasks, waits, -, rfl⟩ := eq_of_feed? fed
  have given : (rest ++ (manager.inFlight.map (·.task) ++ [task])).Perm
      (task :: rest ++ manager.inFlight.map (·.task)) := by
    rw [← List.append_assoc]
    exact List.perm_append_singleton task _
  apply Enters.of_eq
  simpa [tally, openTasks, waits] using Multiset.coe_eq_coe.2 given

theorem Balances.enters_expire (balances : manager.Balances [] selected) (shared : Shared)
    (task : TaskId) : manager.Enters (Manager.expire (manager, shared) task).1 := by
  unfold Manager.expire
  dsimp only
  cases found : manager.flight? task with
  | none => exact .refl manager
  | some entry =>
      refine Enters.trans ?_ (enters_replace _ _)
      cases entry.worker with
      | none => exact balances.enters found (entry_conclude _ shared entry.task _) rfl
      | some worker => exact balances.enters found (entry_conclude _ shared entry.task _) rfl

theorem Balances.enters_deal {before after : Manager × Shared}
    (balances : before.1.Balances [] selected) (deal : Deal before after) :
    before.1.Enters after.1 := by
  cases deal with
  | receive received => exact balances.enters_receive? received
  | feed fed => exact enters_feed? fed
  | check => exact .of_eq rfl
  | expire => exact balances.enters_expire _ _

theorem Consistent.enters_beginShutdown (consistent : manager.Consistent shared taken [] selected) :
    manager.Enters (manager.beginShutdown shared).1 := by
  have back := consistent.toBalances.openTasks_takeBack consistent.once consistent.queued
  have moved : ((manager.beginShutdown shared).1.openTasks []).Perm (manager.openTasks []) := by
    refine List.Perm.trans ?_ back
    exact List.Perm.append_right _ (List.perm_append_comm : (manager.pending ++ _).Perm _)
  apply Enters.of_eq
  simp only [tally, Multiset.coe_eq_coe.2 moved]
  rfl

theorem enters_beginDraining (manager : Manager) : manager.Enters manager.beginDraining := by
  unfold beginDraining
  split <;> exact .of_eq rfl

/-- In one stride of a manager nothing happens to attempts but that outcomes are entered. -/
theorem enters_stride {before after : Manager × Shared} {stats : List WriterStats}
    (sound : Situation.Sound ⟨before.1, before.2, taken⟩ selected)
    (stride : Stride stats before after) : before.1.Enters after.1 := by
  cases stride with
  | deal dispatches deal =>
      exact (sound.books (works_of_dispatching dispatches)).toBalances.enters_deal deal
  | drain => exact enters_beginDraining _
  | turn dispatches => exact (sound.books (works_of_dispatching dispatches)).enters_beginShutdown
  | collect collects received =>
      exact (sound.books (works_of_collecting collects)).toBalances.enters_receive? received
  | interrupt | order | wait | endWorkers | dismiss | skip | await | endWriters =>
      exact .of_eq rfl

theorem enters_of_strides {before after : Manager × Shared} {stats : List WriterStats}
    (sound : Situation.Sound ⟨before.1, before.2, taken⟩ selected)
    (strides : Relation.ReflTransGen (Stride stats) before after) : before.1.Enters after.1 := by
  induction strides with
  | refl => exact .refl _
  | tail ran stride induction =>
      exact Enters.trans induction (enters_stride (sound.strides ran) stride)

/-- In one step of a manager nothing happens to attempts but that outcomes are entered. -/
theorem enters_step? (sound : Situation.Sound ⟨manager, shared, taken⟩ selected)
    {stats : List WriterStats} {action : Action} {after : Manager × Shared}
    (stepped : manager.step? shared stats action = some after) : manager.Enters after.1 :=
  enters_of_strides sound (strides_step? stepped)

end Manager

/-! ## Threads -/

namespace Situation

variable {before after : Situation} {selected : List Path}

theorem Sound.enters_step (sound : before.Sound selected) (step : Step before after) :
    before.manager.Enters after.manager := by
  cases step with
  | act stepped => exact Manager.enters_step? sound stepped
  | take | tell | change => exact .refl _

theorem Sound.enters_run (sound : before.Sound selected)
    (run : Relation.ReflTransGen Step before after) : before.manager.Enters after.manager := by
  induction run with
  | refl => exact .refl _
  | tail ran step induction => exact induction.trans ((sound.run ran).enters_step step)

end Situation

namespace System

variable {system after : System} {taken : List TaskId} {selected : List Path}

theorem Sound.enters_moves (sound : system.Sound taken selected) (moves : system.Moves after) :
    system.manager.Enters after.manager := by
  cases moves with
  | manage stepped => exact Manager.enters_step? sound.manager stepped
  | work | beat | serve | pass | interrupt => exact .refl _

theorem Sound.enters_run (sound : system.Sound taken selected) (course : List Move) :
    system.manager.Enters (system.run course).manager := by
  have ran := run_induction
    (fun after => system.manager.Enters after.manager ∧ ∃ taken, after.Sound taken selected)
    ⟨.refl _, taken, sound⟩ (fun before after ⟨enters, taken, sound⟩ moves => ?_) course
  · exact ran.1
  · obtain ⟨more, sound'⟩ := sound.moves moves
    exact ⟨enters.trans (sound.enters_moves moves), _, sound'⟩

end System

/-! ## Lineages of a run -/

namespace Manager

/-- The attempts at the selected files are those of the given lineages. -/
structure Attempted (manager : Manager) (retry : RetryPolicy) (selected : List Path)
    (lineages : List Lineage) : Prop where
  /-- Each selected file has a lineage, -/
  files : lineages.map (·.path) = selected
  /-- in which there are as many attempts as the policy justifies. -/
  justified : ∀ lineage ∈ lineages, lineage.Justified retry
  /-- The recorded outcomes are those of the lineages, -/
  recorded : manager.history.Perm (lineages.flatMap (·.recorded))
  /-- and were recorded in their order. -/
  order : ∀ lineage ∈ lineages, lineage.recorded.reverse.Sublist manager.history
  /-- The attempts that wait or are with the workers are those without an outcome. -/
  waiting : (manager.pending ++ manager.inFlight.map (·.task)).Perm
    (lineages.filterMap (·.waiting))
  /-- No file has more attempts under way than it was selected. -/
  single : ∀ path, ((manager.pending ++ manager.inFlight.map (·.task)).map (·.path)).count path ≤
    selected.count path
  /-- A file that was selected once has no attempts but those of its lineage, at most one of which
  waits or is with the workers. -/
  alone : ∀ lineage ∈ lineages, selected.count lineage.path = 1 →
    manager.history.filter (·.task.path = lineage.path) = lineage.recorded.reverse ∧
      (manager.pending ++ manager.inFlight.map (·.task)).filter (·.path = lineage.path) =
        lineage.waiting.toList
  /-- Every attempt is counted but the first ones. -/
  retried : manager.report.retried =
    (lineages.map fun lineage => lineage.attempts.length - 1).sum
  /-- The policy bounds their number. -/
  most : manager.report.retried ≤ manager.report.scheduled * retry.maxRetries
  /-- The numbers of all attempts fit. -/
  fits : retry.maxRetries + 1 < attemptLimit → manager.fault = none

variable {start last : Manager} {tasks : List Task}

/-- A manager that was given first attempts has lineages for their files ever after. -/
theorem Enters.attempted (entered : start.Enters last) (first : ∀ task ∈ tasks, task.attempt = 1)
    (waits : start.openTasks [] = tasks) (history : start.history = [])
    (retried : start.report.retried = 0) (fault : start.fault = none)
    (scheduled : last.report.scheduled = tasks.length) :
    ∃ lineages, last.Attempted start.settings.retry (tasks.map (·.path)) lineages := by
  have begins : (start.tally []).Sorts (tasks.map .start) :=
    Tally.sorts_start first (congrArg _ waits) history retried
  have policy : last.settings.retry = start.settings.retry := Tally.retry_of_entries entered
  -- Entries make lineages longer but start none, so there stays one for each first attempt.
  obtain ⟨lineages, files, sorts⟩ := begins.entries entered
  rw [List.map_map] at files
  change lineages.map (·.path) = tasks.map (·.path) at files
  refine ⟨lineages, ?_⟩
  constructor
  · exact files
  · intro lineage mem
    have justified := (sorts.comes lineage mem).justified
    rwa [← policy]
  · exact sorts.recorded
  · exact sorts.order
  · exact Multiset.coe_eq_coe.1 sorts.waiting
  · intro path
    have perm : (last.openTasks []).Perm _ := Multiset.coe_eq_coe.1 sorts.waiting
    have fewer := Lineage.sublist_waiting fun lineage mem task waits =>
      (sorts.comes lineage mem).path_waiting waits
    rw [files] at fewer
    exact ((perm.map (·.path)).count_eq path).trans_le (fewer.count_le path)
  · intro lineage mem once
    rw [← files] at once
    obtain ⟨recorded, waiting⟩ := sorts.alone mem once
    change (↑(last.openTasks []) : Multiset Task).filter _ = _ at waiting
    rw [Multiset.filter_coe, Multiset.coe_eq_coe] at waiting
    refine ⟨recorded, ?_⟩
    cases unfinished : lineage.waiting with
    | none => simpa [unfinished, openTasks] using waiting
    | some task => simpa [unfinished, openTasks] using waiting
  · exact sorts.retried
  · have most := sorts.retried_le
    have count := congrArg List.length files
    rw [List.length_map, List.length_map] at count
    rw [scheduled, ← count, ← policy]
    exact most
  · exact fun few => Tally.fault_of_entries few entered fault

end Manager

namespace Situation

variable {start last : Situation} {tasks : List Task} {selected : List Path}

theorem Sound.scheduled (sound : start.Sound selected) :
    start.manager.report.scheduled = selected.length := by
  rcases sound with consistent | closed
  · exact consistent.scheduled
  · exact closed.scheduled

theorem Starts.attempted (starts : start.Starts tasks) (first : ∀ task ∈ tasks, task.attempt = 1)
    (retried : start.manager.report.retried = 0) (fault : start.manager.fault = none)
    (run : Relation.ReflTransGen Step start last) :
    ∃ lineages, last.manager.Attempted start.manager.settings.retry (tasks.map (·.path))
      lineages := by
  have sound : start.Sound (tasks.map (·.path)) := Or.inl starts.consistent
  have waits : start.manager.openTasks [] = tasks := by
    simp [Manager.openTasks, starts.pending, starts.inFlight]
  have scheduled := (sound.run run).scheduled
  rw [List.length_map] at scheduled
  exact (sound.enters_run run).attempted first waits starts.history retried fault scheduled

end Situation

/-- The report of a job tells of the attempts of the given lineages, when these were the last words
on files. -/
structure Report.Reckons (report : Report) (retry : RetryPolicy) (finals : List Recorded)
    (lineages : List Lineage) : Prop where
  /-- There are as many attempts at each file as the policy justifies. -/
  justified : ∀ lineage ∈ lineages, lineage.Justified retry
  /-- The last words on files are the final outcomes of lineages. -/
  finals : finals.Perm (lineages.flatMap fun lineage => lineage.recorded.filter (·.final))
  /-- The selected files are counted, -/
  scheduled : report.scheduled = lineages.length
  /-- those that have an attempt without an outcome -/
  left : report.notStarted + report.unfinished = (lineages.filterMap (·.waiting)).length
  /-- and every attempt but the first ones. -/
  retried : report.retried = (lineages.map fun lineage => lineage.attempts.length - 1).sum
  /-- The policy bounds their number. -/
  most : report.retried ≤ report.scheduled * retry.maxRetries

namespace Job

variable {job : Job} {disk : Disk} {paths : List Path} {progress last : Progress}
  {finals : List Recorded} {lineages : List Lineage} {retry : RetryPolicy}

theorem attempt_of_firstTasks {task : Task} (mem : task ∈ firstTasks paths) : task.attempt = 1 := by
  obtain ⟨index, inside, rfl⟩ := List.mem_mapIdx.1 mem
  rfl

/-- The files of a job have lineages all along. -/
theorem attempted_run {system : System} (prepared : job.prepare disk = .ok (paths, progress))
    (engaged : job.engage paths progress = .ok system) (course : List Move) :
    ∃ lineages, (system.run course).manager.Attempted job.settings.retry paths lineages := by
  have sound := sound_engage prepared engaged
  obtain ⟨taken, ran⟩ := sound.run course
  have scheduled := ran.manager.scheduled
  have runs := sound.enters_run course
  obtain ⟨discovered, report⟩ := report_of_prepare prepared
  obtain ⟨plan, supervisor, writers, opened, -, -, same, -⟩ := engage_eq_ok engaged
  have begins : (job.managerAtStart plan paths progress supervisor).Enters system.manager := by
    rw [same]
    exact Manager.enters_spawnAll _ _ _
  have attempted := (begins.trans runs).attempted (fun task => @attempt_of_firstTasks paths task)
    (by simp [Manager.openTasks, managerAtStart]) rfl
    (by simp [managerAtStart, Report.enter, report, selectionReport]) rfl
    (by simpa [firstTasks] using scheduled)
  rwa [map_path_firstTasks] at attempted

theorem reckons_reconcile (reckons : progress.report.Reckons retry finals lineages)
    (reconciled : job.reconcile progress = .ok last) :
    last.report.Reckons retry finals lineages := by
  obtain ⟨stats, corrections, report⟩ := report_reconcile reconciled
  rw [report]
  exact ⟨reckons.justified, reckons.finals, reckons.scheduled, reckons.left, reckons.retried,
    reckons.most⟩

theorem reckons_conclude (reckons : progress.report.Reckons retry finals lineages)
    (concluded : job.conclude progress = .ok last) :
    last.report.Reckons retry finals lineages := by
  rw [report_conclude concluded]
  exact ⟨reckons.justified, reckons.finals, reckons.scheduled, reckons.left, reckons.retried,
    reckons.most⟩

/-- Files that no worker was given have lineages of their first attempts. -/
theorem reckons_start (retry : RetryPolicy) (tasks : List Task)
    (first : ∀ task ∈ tasks, task.attempt = 1) {report : Report}
    (scheduled : report.scheduled = tasks.length)
    (left : report.notStarted + report.unfinished = tasks.length) (retried : report.retried = 0) :
    report.Reckons retry [] (tasks.map .start) := by
  have sorts := @Tally.sorts_start ⟨retry, ↑tasks, [], 0, none⟩ tasks first rfl rfl rfl
  constructor
  · exact fun lineage mem => (sorts.comes lineage mem).justified
  · simp [List.flatMap_map, Lineage.start]
  · simpa using scheduled
  · simpa [List.filterMap_map, Lineage.start, Function.comp_def] using left
  · simp [retried, Lineage.attempts, Lineage.start, Function.comp_def]
  · simp [retried]

theorem Returns.reckons (returns : job.Returns disk finals last) :
    ∃ paths progress lineages, job.prepare disk = .ok (paths, progress) ∧
      lineages.map (·.path) = paths ∧
        last.report.Reckons job.settings.retry finals lineages := by
  cases returns with
  | @skipped paths progress _ prepared concluded =>
      obtain ⟨discovered, report⟩ := report_of_prepare prepared
      have skipped : (skip paths progress).report.Reckons job.settings.retry []
          ((firstTasks paths).map .start) := by
        apply reckons_start job.settings.retry (firstTasks paths) fun task => attempt_of_firstTasks
        all_goals simp [skip, report, selectionReport, firstTasks]
      refine ⟨paths, progress, _, prepared, ?_, reckons_conclude skipped concluded⟩
      rw [List.map_map]
      exact map_path_firstTasks paths
  | @idle progress _ _ prepared replayed concluded =>
      obtain ⟨discovered, report⟩ := report_of_prepare prepared
      have idle : progress.report.Reckons job.settings.retry [] [] := by
        apply reckons_start job.settings.retry [] fun _ mem => absurd mem List.not_mem_nil
        all_goals simp [report, selectionReport]
      exact ⟨[], progress, [], prepared, rfl,
        reckons_conclude (reckons_reconcile idle replayed) concluded⟩
  | @worked paths progress worked reconciled _ system course prepared engaged finished ended
      replayed concluded =>
      obtain ⟨lineages, attempted⟩ := attempted_run prepared engaged course
      obtain ⟨taken, sound⟩ := (sound_engage prepared engaged).run course
      have closed : (system.run course).manager.Closed paths := by
        refine sound.manager.resolve_left fun consistent => ?_
        have working := consistent.working
        rw [System.isFinished, beq_iff_eq] at finished
        rw [Manager.isClosed, finished] at working
        cases working
      refine ⟨paths, progress, lineages, prepared, attempted.files, ?_⟩
      refine reckons_conclude (reckons_reconcile ?_ replayed) concluded
      rw [afterWork_eq_ok ended]
      constructor
      · exact attempted.justified
      · have perm := attempted.recorded.filter (·.final)
        rwa [List.filter_flatMap] at perm
      · rw [closed.scheduled, ← attempted.files, List.length_map]
      · have lengths := attempted.waiting.length_eq
        rw [closed.notStarted, closed.unfinished, ← lengths]
        simp
      · exact attempted.retried
      · exact attempted.most

end Job

/-- Whatever happens to a manager, in whatever order the outcomes of different files arrive, the
attempts at each selected file are as many as the policy justifies; so they are whatever course the
threads of a job take, and what the job returns tells so. -/
theorem attempts_are_justified :
    (∀ {tasks : List Task} {start last : Situation}, start.Starts tasks →
      (∀ task ∈ tasks, task.attempt = 1) → start.manager.report.retried = 0 →
      start.manager.fault = none → Relation.ReflTransGen Situation.Step start last →
        ∃ lineages, last.manager.Attempted start.manager.settings.retry (tasks.map (·.path))
          lineages) ∧
    (∀ {job : Job} {disk : Disk} {paths : List Path} {progress : Progress} {system : System}
      (course : List Move), job.prepare disk = .ok (paths, progress) →
      job.engage paths progress = .ok system →
        ∃ lineages, (system.run course).manager.Attempted job.settings.retry paths lineages) ∧
    ∀ {job : Job} {disk : Disk} {finals : List Recorded} {last : Progress},
      job.Returns disk finals last →
        ∃ paths progress lineages, job.prepare disk = .ok (paths, progress) ∧
          lineages.map (·.path) = paths ∧
            last.report.Reckons job.settings.retry finals lineages := by
  refine ⟨fun starts first retried fault run => ?_, fun course prepared engaged => ?_,
    fun returns => ?_⟩
  · exact starts.attempted first retried fault run
  · exact Job.attempted_run prepared engaged course
  · exact returns.reckons

/-- A manager with one file, one worker and a further attempt to give. -/
def Situation.patient : Situation :=
  { small with
    manager :=
      { small.manager with settings := { small.manager.settings with retry := ⟨true, 1⟩ } } }

/-- A job that gives every file a further attempt, with an engine that takes every worker down. -/
def Job.patient : Job :=
  { small with settings := { small.settings with retry := ⟨true, 1⟩ } }

theorem attempts_are_justified_patient :
    (∃ last lineages, Relation.ReflTransGen Situation.Step .patient last ∧
      last.manager.report.retried = 1 ∧ last.manager.pending.length = 1 ∧
        last.manager.Attempted ⟨true, 1⟩ [⟨"a.pdf"⟩] lineages) ∧
    (∃ system : System, system.complete.manager.report.retried = 1 ∧
      ∀ course, ∃ lineages,
        (system.run course).manager.Attempted ⟨true, 1⟩ [⟨"./a.pdf"⟩] lineages) ∧
    ∃ finals last lineages, Job.patient.Returns .small finals last ∧
      last.report.retried = 1 ∧ last.report.failed = 1 ∧
        last.report.Reckons ⟨true, 1⟩ finals lineages := by
  obtain ⟨paths, progress, system, finals, last, prepared, engaged, -, returns, checked⟩ :=
    @Job.exists_returns .patient .small (fun paths system last =>
      decide (paths = [⟨"./a.pdf"⟩] ∧ system.complete.manager.report.retried = 1 ∧
        last.report.retried = 1 ∧ last.report.failed = 1)) (by decide +kernel)
  obtain ⟨rfl, retried, told, failed⟩ := of_decide_eq_true checked
  refine ⟨?_, ⟨system, retried, fun course => attempts_are_justified.2.1 course prepared engaged⟩,
    ?_⟩
  · have starts : Situation.patient.Starts [{ id := 0, path := ⟨"a.pdf"⟩ }] := by
      constructor <;> simp [Situation.patient, Situation.small]
      exact ⟨rfl, rfl, rfl, rfl, fun _ => rfl⟩
    let outcome : Outcome :=
      { task := 0, result := .failed ⟨"a.pdf"⟩ .timeout "" {}, delivery := .writer }
    have credible : (WorkerEvent.finished 0 outcome).Credible [0] :=
      ⟨List.mem_cons_self, ExtractionResult.honest_failed (by decide)⟩
    have fed := Relation.ReflTransGen.single (@Situation.Step.act .patient [] .feed _ rfl)
    have taken :=
      fed.tail (@Situation.Step.take _ (.process { id := 0, path := ⟨"a.pdf"⟩ }) _ rfl)
    have told := taken.tail (Situation.Step.tell credible)
    have received := told.tail (@Situation.Step.act _ [] .receive _ rfl)
    obtain ⟨lineages, attempted⟩ :=
      attempts_are_justified.1 starts (by simp) rfl rfl received
    exact ⟨_, lineages, received, rfl, rfl, attempted⟩
  · obtain ⟨-, -, lineages, -, -, reckons⟩ := attempts_are_justified.2.2 returns
    exact ⟨finals, last, lineages, returns, told, failed, reckons⟩

end PartsList
