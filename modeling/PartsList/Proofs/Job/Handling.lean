import PartsList.Proofs.Job.Arrangement

/-!
# What the manager does with deliveries

At any time at most one attempt at a file is on its way, and each attempt is in the hands of one
thread.  So nothing can get between the delivery of a result and the manager's word on it.  The
manager accepts the outcome of a task only while the task is with the workers.  When it has taken
the task back, it delivers a result of its own, and nobody else delivers one of the file any more.
-/

namespace PartsList

open Disk ExtractionResult

/-! ## Attempts at a file -/

/-- The number of the task that a worker is at. -/
def WorkerPhase.task? : WorkerPhase → Option TaskId
  | .announcing task _ | .processing task _ | .delivering task _ _ => some task.id
  | .reporting outcome => some outcome.task
  | .idle | .leaving _ | .gone _ => none

/-- The task that a worker has not delivered yet. -/
def WorkerPhase.work? : WorkerPhase → Option Task
  | .announcing task _ | .processing task _ | .delivering task _ _ => some task
  | .reporting _ | .idle | .leaving _ | .gone _ => none

theorem WorkerPhase.task?_of_work? {phase : WorkerPhase} {task : Task}
    (work : phase.work? = some task) : phase.task? = some task.id := by
  cases phase with
  | announcing | processing | delivering =>
      cases work
      rfl
  | reporting | idle | leaving | gone => cases work

theorem WorkerPhase.task?_of_outcome? {phase : WorkerPhase} {outcome : Outcome}
    (reports : phase.outcome? = some outcome) : phase.task? = some outcome.task := by
  cases phase with
  | reporting =>
      cases reports
      rfl
  | announcing | processing | delivering | idle | leaving | gone => cases reports

namespace System

/-- The tasks that workers are at, and those of which they have told the manager the outcome. -/
def attempts (system : System) : List TaskId :=
  system.workers.filterMap (·.phase.task?) ++
    (outcomesOf system.shared.events.waiting).map (·.task)

/-- New workers are at no task. -/
theorem attempts_withHired (system : System) (next : Manager × Shared) :
    (system.withHired next).attempts = (system.withManager next).attempts := by
  have idle := @filterMap_hired _ WorkerPhase.task? rfl system.manager next.1
  simp only [attempts, withHired, withManager, List.filterMap_append, idle, List.append_nil]

/-- No attempt is in two hands, and the writers stay. -/
structure Orderly (system : System) : Prop extends system.Staying where
  /-- No attempt is in two hands. -/
  once : system.attempts.Nodup
  /-- Workers are at the tasks that they were given. -/
  given : ∀ worker ∈ system.workers, ∀ task, worker.phase.work? = some task →
    ∀ entry ∈ system.manager.inFlight, entry.task.id = task.id → entry.task = task

/-- An outcome is about a file, and its result is where its delivery says. -/
def Has (system : System) (start : Disk) (file : FileId) (path : Path) (outcome : Outcome) : Prop :=
  outcome.result.About path ∧ (system.Unharmed → system.Delivered start file outcome)

/-- The manager knows of no final outcome of a file and is going to accept none that was told. -/
def Pristine (system : System) (path : Path) : Prop :=
  (∀ recorded ∈ system.manager.history, recorded.final = true → recorded.task.path ≠ path) ∧
    (system.manager.isClosed = false → ∀ outcome ∈ system.outcomes,
      ∀ entry ∈ system.manager.inFlight, entry.task.id = outcome.task → entry.task.path ≠ path)

/-- What was delivered of a file is where its delivery says from the time when the outcome is told
on, as long as the manager is going to accept the outcome, and for good if it is the final one. -/
structure Kept (system : System) (start : Disk) (file : FileId) (directory path : Path) : Prop
    extends system.Arranged file directory where
  /-- Files have evolved since the start. -/
  since : start.Evolves system.shared.disk
  /-- While the manager works, no attempt is in two hands. -/
  orderly : system.manager.isClosed = false → system.Orderly
  /-- Results are delivered of whose outcomes the manager does not know yet. -/
  reported : system.manager.isClosed = false → ∀ outcome ∈ system.outcomes,
    ∀ entry ∈ system.manager.inFlight, entry.task.id = outcome.task → entry.task.path = path →
      system.Has start file path outcome
  /-- Final results are delivered. -/
  settled : ∀ recorded ∈ system.manager.history, recorded.final = true →
    recorded.task.path = path →
      recorded.outcome.delivery ≠ .withheld ∧ system.Has start file path recorded.outcome
  /-- In the end all writers have left, unless some were given up on. -/
  ended : system.manager.phase = .finished → system.manager.report.forceTerminated = 0 →
    ∀ writer ∈ system.writers, writer.finished = true

variable {system after : System} {start : Disk} {file : FileId} {directory path : Path}
  {outcome : Outcome}

theorem mem_attempts_of_outcome (mem : outcome ∈ system.outcomes) :
    outcome.task ∈ system.attempts := by
  rcases List.mem_append.1 mem with mem | mem
  · obtain ⟨worker, inside, reports⟩ := List.mem_filterMap.1 mem
    exact List.mem_append_left _
      (List.mem_filterMap.2 ⟨worker, inside, WorkerPhase.task?_of_outcome? reports⟩)
  · exact List.mem_append_right _ (List.mem_map_of_mem mem)

theorem mem_attempts_of_work {worker : Worker} {task : Task} (mem : worker ∈ system.workers)
    (work : worker.phase.work? = some task) : task.id ∈ system.attempts :=
  List.mem_append_left _
    (List.mem_filterMap.2 ⟨worker, mem, WorkerPhase.task?_of_work? work⟩)

theorem Has.later (has : system.Has start file path outcome)
    (upholds : system.Upholds start file path after) :
    after.Has start file path outcome := by
  refine ⟨has.1, fun unharmed => ?_⟩
  obtain ⟨before, still⟩ := upholds unharmed
  exact still outcome has.1.1 (has.2 before)

/-- What was delivered stays where it is when a step upholds it, or when nothing was delivered. -/
theorem Kept.advance (kept : system.Kept start file directory path)
    (arranged : after.Arranged file directory)
    (evolves : system.shared.disk.Evolves after.shared.disk)
    (later : system.Upholds start file path after ∨ system.Pristine path)
    (works : after.manager.isClosed = false →
      system.manager.isClosed = false ∧ after.Orderly ∧ ∀ outcome ∈ after.outcomes,
        ∀ entry ∈ after.manager.inFlight, entry.task.id = outcome.task → entry.task.path = path →
          (outcome ∈ system.outcomes ∧
            ∃ before ∈ system.manager.inFlight, before.task = entry.task) ∨
              after.Has start file path outcome)
    (history : ∀ recorded ∈ after.manager.history, recorded ∈ system.manager.history ∨
      (recorded.final = true → recorded.task.path = path →
        recorded.outcome.delivery ≠ .withheld ∧ after.Has start file path recorded.outcome))
    (ended : after.manager.phase = .finished → after.manager.report.forceTerminated = 0 →
      ∀ writer ∈ after.writers, writer.finished = true) :
    after.Kept start file directory path where
  toArranged := arranged
  since := kept.since.trans evolves
  orderly working := (works working).2.1
  reported := by
    intro working outcome mem entry inside same about
    obtain ⟨worked, -, reported⟩ := works working
    rcases reported outcome mem entry inside same about with ⟨known, before, there, task⟩ | has
    · rw [← task] at same about
      rcases later with upholds | pristine
      · exact (kept.reported worked outcome known before there same about).later upholds
      · exact absurd about (pristine.2 worked outcome known before there same)
    · exact has
  settled := by
    intro recorded mem final about
    rcases history recorded mem with known | new
    · rcases later with upholds | pristine
      · obtain ⟨delivery, has⟩ := kept.settled recorded known final about
        exact ⟨delivery, has.later upholds⟩
      · exact absurd about (pristine.1 recorded known final)
    · exact new final about
  ended := ended

end System

/-! ## Deliveries -/

namespace Manager

variable {manager : Manager} {shared : Shared} {selected : List Path} {task : Task}

/-- A file that is in the manager's hands is nowhere else. -/
theorem Balances.alone (balances : manager.Balances [task] selected)
    (once : selected.count task.path = 1) :
    (∀ entry ∈ manager.inFlight, entry.task.path ≠ task.path) ∧
      ∀ recorded ∈ manager.history, recorded.final = true → recorded.task.path ≠ task.path := by
  have count := balances.files.count_eq task.path
  rw [once] at count
  simp only [openTasks, List.map_append, List.count_append, List.map_cons, List.map_nil,
    List.count_cons_self, List.count_nil] at count
  have flying : ((manager.inFlight.map (·.task)).map (·.path)).count task.path = 0 := by omega
  have done : ((manager.finals.map (·.task)).map (·.path)).count task.path = 0 := by omega
  rw [List.count_eq_zero] at flying done
  constructor
  · intro entry mem same
    exact flying (same ▸ List.mem_map_of_mem (List.mem_map_of_mem mem))
  · intro recorded mem final same
    have among : recorded ∈ manager.finals := List.mem_filter.2 ⟨mem, final⟩
    exact done (same ▸ List.mem_map_of_mem (List.mem_map_of_mem among))

end Manager

namespace System

variable {system : System} {start : Disk} {file : FileId} {directory path : Path}
  {manager : Manager}
  {shared : Shared} {selected : List Path} {taken : List TaskId}

theorem Upholds.withManager (old : file < system.shared.disk.nextFile)
    (spill : manager.spill = system.manager.spill)
    (inboxes : shared.inboxes = system.shared.inboxes)
    (develops : system.shared.disk.Develops shared.disk) :
    system.Upholds start file path (system.withManager (manager, shared)) := by
  refine Upholds.of_line old rfl develops (fun other mem => ?_) ?_
  · rw [spills, ← spill] at mem
    exact ⟨other, mem, fun _ file => file⟩
  · unfold line System.withManager
    dsimp only
    rw [inboxes]

/-- The manager may change what it knows, if it adds only fresh tasks to those with the workers and
only outcomes that have been delivered to its history. -/
theorem Kept.adjust (kept : system.Kept start file directory path)
    (spill : manager.spill = system.manager.spill)
    (settings : manager.settings = system.manager.settings)
    (nextWorker : system.manager.nextWorker ≤ manager.nextWorker)
    (working : system.manager.isClosed = false) (works : manager.isClosed = false)
    (inFlight : ∀ entry ∈ manager.inFlight,
      (∃ before ∈ system.manager.inFlight, before.task = entry.task) ∨
        entry.task.id ∉ system.attempts)
    (history : ∀ recorded ∈ manager.history, recorded ∈ system.manager.history ∨
      (recorded.final = true → recorded.task.path = path →
        recorded.outcome.delivery ≠ .withheld ∧ system.Has start file path recorded.outcome))
    (inboxes : shared.inboxes = system.shared.inboxes)
    (develops : system.shared.disk.Develops shared.disk)
    (events : shared.events.waiting.Sublist system.shared.events.waiting) :
    (system.withManager (manager, shared)).Kept start file directory path := by
  have upholds : system.Upholds start file path (system.withManager (manager, shared)) :=
    Upholds.withManager kept.database spill inboxes develops
  have orderly := kept.orderly working
  have outcomes : (system.withManager (manager, shared)).outcomes.Sublist system.outcomes :=
    List.Sublist.append_left (events.filterMap _) _
  have attempts : (system.withManager (manager, shared)).attempts.Sublist system.attempts :=
    List.Sublist.append_left ((events.filterMap _).map _) _
  refine kept.advance ?_ develops.toEvolves (Or.inl upholds) (fun _ =>
    ⟨working, ⟨⟨?_, orderly.stays⟩, ?_, ?_⟩, ?_⟩) ?_ ?_
  · refine kept.placed.manage settings nextWorker (Or.inl spill) (congrArg List.length inboxes)
      (fun shard inbox found => ?_) develops.toEvolves
    exact ⟨inbox, inboxes ▸ found, fun _ mem => Or.inl mem⟩
  · rw [System.withManager, inboxes]
    exact orderly.open_
  · exact orderly.once.sublist attempts
  · intro worker mem task work entry inside same
    rcases inFlight entry inside with ⟨before, there, unchanged⟩ | fresh
    · rw [← unchanged] at same ⊢
      exact orderly.given worker mem task work before there same
    · exact absurd (same ▸ mem_attempts_of_work mem work) fresh
  · intro outcome mem entry inside same about
    have mem := outcomes.subset mem
    rcases inFlight entry inside with known | fresh
    · exact Or.inl ⟨mem, known⟩
    · exact absurd (same ▸ mem_attempts_of_outcome mem) fresh
  · intro recorded mem
    refine (history recorded mem).imp_right fun new final about => ?_
    obtain ⟨delivery, has⟩ := new final about
    exact ⟨delivery, has.later upholds⟩
  · intro finished
    rw [Manager.isClosed, show manager.phase = .finished from finished] at works
    cases works

/-- The manager may account for an outcome that has been delivered. -/
theorem Kept.record (kept : system.Kept start file directory path)
    (working : system.manager.isClosed = false) {task : Task} {outcome : Outcome}
    (has : task.path = path → outcome.delivery ≠ .withheld ∧ system.Has start file path outcome) :
    (system.withManager (system.manager.record system.shared task outcome)).Kept
      start file directory path := by
  have records := Manager.records_record system.manager system.shared task outcome
  generalize system.manager.record system.shared task outcome = after at records ⊢
  obtain ⟨final, history⟩ := records.history
  have works : after.1.isClosed = false := by
    rw [Manager.isClosed, records.phase]
    exact working
  refine kept.adjust records.spill records.settings (Nat.le_of_eq records.nextWorker.symm) working
    works ?_ ?_ records.inboxes records.develops (records.events ▸ List.Sublist.refl _)
  · intro entry mem
    rw [records.inFlight] at mem
    exact Or.inl ⟨entry, mem, rfl⟩
  · intro recorded mem
    rw [history] at mem
    rcases List.mem_cons.1 mem with rfl | mem
    · exact Or.inr fun _ about => has about
    · exact Or.inl mem

/-- The manager may post a result of its own about a file that is nowhere else. -/
theorem Kept.post (kept : system.Kept start file directory path)
    (working : system.manager.isClosed = false) {result : ExtractionResult} {routed : Routed}
    (routes : Routes system.shared.inboxes system.manager.spill system.shared.disk result routed)
    (owns : result.OwnsRows)
    (alone : result.filePath = path →
      (∀ entry ∈ system.manager.inFlight, entry.task.path ≠ path) ∧
        ∀ recorded ∈ system.manager.history, recorded.final = true → recorded.task.path ≠ path) :
    (system.withManager ({ system.manager with spill := routed.spill },
      system.shared.afterRouting routed)).Kept start file directory path := by
  have orderly := kept.orderly working
  refine kept.advance (kept.placed.post owns routes) routes.develops.toEvolves ?_
    (fun _ => ⟨working, ?_, ?_⟩) (fun _ => Or.inl)
    kept.ended
  · by_cases about : result.filePath = path
    · obtain ⟨flying, finals⟩ := alone about
      exact Or.inr ⟨finals, fun _ _ _ entry inside _ => flying entry inside⟩
    · refine Or.inl (Upholds.of_routes kept.database routes rfl rfl rfl ?_ about)
      intro other mem
      rcases List.mem_cons.1 mem with rfl | mem
      · exact ⟨routed.spill, List.mem_cons_self, routes.file⟩
      · exact ⟨other, List.mem_cons_of_mem _ mem, fun _ file => file⟩
  · exact ⟨⟨routes.open_ orderly.open_, orderly.stays⟩, orderly.once, orderly.given⟩
  · exact fun outcome mem entry inside _ _ => Or.inl ⟨mem, entry, inside, rfl⟩

/-- The manager may conclude with a task that it has taken back. -/
theorem Kept.conclude (kept : system.Kept start file directory path)
    (working : system.manager.isClosed = false) {task : Task}
    (balances : system.manager.Balances [task] selected) (once : selected.count path = 1)
    {result : ExtractionResult} (about : result.About task.path) :
    (system.withManager (system.manager.conclude system.shared task result)).Kept
      start file directory path := by
  have orderly := kept.orderly working
  have about : (result.withAttempt task.attempt).About task.path := about
  have routes := @routes_route system.shared.inboxes system.manager.spill system.shared.disk
    (result.withAttempt task.attempt) kept.numbered (kept.known _ List.mem_cons_self)
  unfold Manager.conclude
  dsimp only
  generalize route system.shared.inboxes system.manager.spill system.shared.disk
    (result.withAttempt task.attempt) = routed at routes ⊢
  have posted := kept.post working routes about.2 fun same => by
    obtain rfl := about.1.symm.trans same
    exact balances.alone once
  refine posted.record working fun same => ⟨routes.delivery, same ▸ about, fun _ => ?_⟩
  exact Delivered.of_routes routes rfl rfl rfl List.mem_cons_self kept.inboxes
    (fun inbox mem => (orderly.open_ inbox mem).1) orderly.stays kept.since

theorem Kept.concludeTimeout (kept : system.Kept start file directory path)
    (working : system.manager.isClosed = false) {entry : InFlight}
    (balances : system.manager.Balances [entry.task] selected) (once : selected.count path = 1) :
    (system.withManager (system.manager.concludeTimeout system.shared entry)).Kept
      start file directory path :=
  kept.conclude working balances once (about_failed _ _ _ _)

/-- The manager may change what has nothing to do with deliveries. -/
theorem Kept.change (kept : system.Kept start file directory path)
    (working : system.manager.isClosed = false) (works : manager.isClosed = false)
    (spill : manager.spill = system.manager.spill)
    (settings : manager.settings = system.manager.settings)
    (nextWorker : system.manager.nextWorker ≤ manager.nextWorker)
    (inFlight : ∀ entry ∈ manager.inFlight,
      ∃ before ∈ system.manager.inFlight, before.task = entry.task)
    (history : manager.history = system.manager.history)
    (inboxes : shared.inboxes = system.shared.inboxes) (disk : shared.disk = system.shared.disk)
    (events : shared.events.waiting.Sublist system.shared.events.waiting) :
    (system.withManager (manager, shared)).Kept start file directory path := by
  refine kept.adjust spill settings nextWorker working works
    (fun entry mem => Or.inl (inFlight entry mem)) ?_ inboxes (disk ▸ Develops.refl _) events
  rw [history]
  exact fun recorded mem => Or.inl mem

/-- The manager may note anything about workers. -/
theorem Kept.note (kept : system.Kept start file directory path)
    (working : system.manager.isClosed = false) (manager : Manager)
    (same : { system.manager with
      supervisor := manager.supervisor, workers := manager.workers } = manager) :
    (system.withManager (manager, system.shared)).Kept start file directory path := by
  rw [← same]
  exact kept.change working working rfl rfl (Nat.le_refl _) (fun entry mem => ⟨entry, mem, rfl⟩) rfl
    rfl rfl (List.Sublist.refl _)

theorem Kept.land (kept : system.Kept start file directory path)
    (working : system.manager.isClosed = false) (task : TaskId) :
    (system.withManager (system.manager.land task, system.shared)).Kept start file directory
      path := by
  refine kept.change working working rfl rfl (Nat.le_refl _) (fun entry mem => ?_) rfl rfl rfl
    (List.Sublist.refl _)
  exact ⟨entry, (List.mem_filter.1 mem).1, rfl⟩

theorem Kept.spawn (kept : system.Kept start file directory path)
    (working : system.manager.isClosed = false) :
    (system.withManager (system.manager.spawn system.shared)).Kept start file directory path := by
  have flying (entry : InFlight) (mem : entry ∈ system.manager.inFlight) :
      ∃ before ∈ system.manager.inFlight, before.task = entry.task := ⟨entry, mem, rfl⟩
  unfold Manager.spawn
  split
  · exact kept.change working working rfl rfl (Nat.le_refl _) flying rfl rfl rfl
      (List.Sublist.refl _)
  · exact kept.change working working rfl rfl (Nat.le_succ _) flying rfl rfl rfl
      (List.Sublist.refl _)

theorem Kept.replace (kept : system.Kept start file directory path)
    (working : system.manager.isClosed = false) :
    (system.withManager (system.manager.replace system.shared)).Kept start file directory path := by
  unfold Manager.replace
  split
  · exact kept
  · exact kept.spawn working

/-! ## Events -/

theorem Kept.onStarted (kept : system.Kept start file directory path)
    (working : system.manager.isClosed = false) (worker : WorkerId) (task : TaskId)
    (time : Instant) :
    (system.withManager (system.manager.onStarted worker task time, system.shared)).Kept
      start file directory path := by
  refine kept.change working working rfl rfl (Nat.le_refl _) (fun entry mem => ?_) rfl rfl rfl
    (List.Sublist.refl _)
  obtain ⟨before, inside, rfl⟩ := List.mem_map.1 mem
  refine ⟨before, inside, ?_⟩
  split <;> rfl

/-- The manager accepts an outcome whose result has been delivered, and delivers a result of its own
when the worker has kept its result back. -/
theorem Kept.onFinished (kept : system.Kept start file directory path)
    (working : system.manager.isClosed = false)
    (balances : system.manager.Balances [] selected) (once : selected.count path = 1)
    (worker : WorkerId) {outcome : Outcome}
    (has : ∀ entry ∈ system.manager.inFlight, entry.task.id = outcome.task →
      entry.task.path = path → system.Has start file path outcome) :
    (system.withManager (system.manager.onFinished system.shared worker outcome)).Kept
      start file directory path := by
  have noted (change : WorkerSlot → WorkerSlot) := kept.note working
    ((system.manager.hear worker system.shared.now).changeSlot worker change) rfl
  have books (change : WorkerSlot → WorkerSlot) :
      ((system.manager.hear worker system.shared.now).changeSlot worker change).Balances []
        selected :=
    balances.rearrange (List.Perm.refl _) rfl rfl balances.tells rfl
  have heard := noted fun slot =>
    if slot.current = some outcome.task then { slot with current := none } else slot
  have books := books fun slot =>
    if slot.current = some outcome.task then { slot with current := none } else slot
  unfold Manager.onFinished
  dsimp only
  split
  · exact heard
  · next entry found =>
      have landed := heard.land working outcome.task
      have taken := books.land found
      obtain ⟨inside, same⟩ := Manager.flight?_eq_some found
      split
      · exact landed.concludeTimeout working taken once
      · next delivered =>
          exact landed.record working fun about => ⟨delivered, has entry inside same about⟩

theorem Kept.concludeOrphan (kept : system.Kept start file directory path)
    (working : system.manager.isClosed = false)
    (balances : system.manager.Balances [] selected) (once : selected.count path = 1)
    (slot : WorkerSlot) :
    (system.withManager (system.manager.concludeOrphan system.shared slot)).Kept
      start file directory path := by
  unfold Manager.concludeOrphan
  split
  · exact kept
  · next entry found =>
      obtain ⟨id, current, found⟩ := Option.bind_eq_some_iff.1 found
      obtain ⟨-, rfl⟩ := Manager.flight?_eq_some found
      exact (kept.land working entry.task.id).conclude working (balances.land found) once
        (about_failed _ _ _ _)

theorem Kept.onExited (kept : system.Kept start file directory path)
    (consistent : system.manager.Consistent system.shared taken [] selected)
    (once : selected.count path = 1) (worker : WorkerId) :
    (system.withManager (system.manager.onExited system.shared worker)).Kept
      start file directory path := by
  have working := consistent.working
  unfold Manager.onExited
  split
  · exact kept
  · next slot found =>
      have dismissed := consistent.dismiss worker
      have left := kept.note working
        { system.manager with
          workers := system.manager.workers.filter (·.worker != worker)
          supervisor := system.manager.supervisor.remove worker } rfl
      have concluded := left.concludeOrphan working dismissed.toBalances once slot
      have works := (dismissed.concludeOrphan
        (consistent.current slot (List.mem_of_find?_eq_some found))).working
      dsimp only
      split
      · exact concluded.replace works
      · exact concluded

theorem Kept.onEvent (kept : system.Kept start file directory path)
    (consistent : system.manager.Consistent system.shared taken [] selected)
    (once : selected.count path = 1) {event : WorkerEvent}
    (has : ∀ outcome, event.outcome? = some outcome → ∀ entry ∈ system.manager.inFlight,
      entry.task.id = outcome.task → entry.task.path = path → system.Has start file path outcome) :
    (system.withManager (system.manager.onEvent system.shared event)).Kept start file directory
      path := by
  have working := consistent.working
  cases event with
  | heartbeat worker time => exact kept.note working (system.manager.hear worker time) rfl
  | started worker task time => exact kept.onStarted working worker task time
  | finished worker outcome =>
      exact kept.onFinished working consistent.toBalances once worker (has outcome rfl)
  | exited worker => exact kept.onExited consistent once worker

theorem Kept.receive? (kept : system.Kept start file directory path)
    (consistent : system.manager.Consistent system.shared taken [] selected)
    (once : selected.count path = 1) {after : Manager × Shared}
    (received : system.manager.receive? system.shared = some after) :
    (system.withManager after).Kept start file directory path := by
  have working := consistent.working
  obtain ⟨event, rest, waiting, rfl⟩ := Manager.eq_of_receive? received
  have shorter := @Kept.change system start file directory path system.manager
    { system.shared with events := { system.shared.events with waiting := rest } } kept working
    working rfl rfl (Nat.le_refl _) (fun entry mem => ⟨entry, mem, rfl⟩) rfl rfl rfl
    (waiting ▸ List.sublist_cons_self _ _)
  refine shorter.onEvent (consistent.pop waiting) once fun outcome tells entry inside same about =>
    ?_
  refine kept.reported working outcome (List.mem_append_right _ ?_) entry inside same about
  rw [waiting]
  exact List.mem_filterMap.2 ⟨event, List.mem_cons_self, tells⟩

end System

end PartsList
