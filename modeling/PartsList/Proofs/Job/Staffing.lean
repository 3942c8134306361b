import PartsList.Proofs.Job.Conservation

/-!
# Staffing

As long as the system lets workers start, the manager is never out of workers while there is
anything to do: whenever a task waits or is with the workers, there is a worker that the manager has
not given up on.  So the manager ends on its own only when no task waits or is with the workers.
-/

namespace PartsList

/-- The worker has left. -/
def WorkerPhase.hasLeft : WorkerPhase → Bool
  | .gone _ => true
  | .idle | .announcing _ _ | .processing _ _ | .delivering _ _ _ | .reporting _
  | .leaving _ => false

/-- A worker with the given number has left. -/
def Departed (threads : List Worker) (id : WorkerId) : Prop :=
  ∃ worker ∈ threads, worker.id = id ∧ worker.phase.hasLeft = true

/-- The system refuses no start of a worker. -/
def Shared.Grants (shared : Shared) : Prop :=
  true ∉ shared.startRefusals

namespace Manager

variable {manager : Manager} {shared : Shared} {threads : List Worker}

/-- Some worker has not been given up on. -/
def HasWorker (manager : Manager) : Prop :=
  ∃ slot ∈ manager.workers, slot.abandoned = false

/-- The list of workers of a manager that dispatches is in order, and its tasks are counted, when
these are the workers there ever were. -/
structure Enlisted (manager : Manager) (shared : Shared) (threads : List Worker) : Prop where
  /-- The manager gives tasks to workers. -/
  dispatches : manager.phase = .dispatching
  /-- The system lets workers start. -/
  grants : shared.Grants
  /-- The manager takes events. -/
  listens : shared.events.receiverGone = false
  /-- Workers have numbers of their own, -/
  distinct : (manager.workers.map (·.worker)).Nodup
  /-- which were given out. -/
  issued : ∀ slot ∈ manager.workers, slot.worker < manager.nextWorker
  /-- The workers have such numbers. -/
  known : ∀ worker ∈ threads, worker.id < manager.nextWorker
  /-- A worker that has left is in the list only until the manager hears of it. -/
  told : ∀ slot ∈ manager.workers, Departed threads slot.worker →
    .exited slot.worker ∈ shared.events.waiting
  /-- Workers are replaced. -/
  replaces : manager.stopping = false
  /-- What was selected or is tried again was given out or waits. -/
  counted : manager.report.dispatched + manager.pending.length =
    manager.report.scheduled + manager.report.retried

/-- Whenever there is anything to do, some worker has not been given up on. -/
structure Staffed (manager : Manager) (shared : Shared) (threads : List Worker) : Prop
    extends manager.Enlisted shared threads where
  /-- Some worker has not been given up on. -/
  staffed : manager.hasWork = true → manager.HasWorker

/-- Workers may be given up on or change their tasks. -/
theorem Enlisted.alter {other : Manager} {after : Shared}
    (enlisted : manager.Enlisted shared threads)
    (refusals : after.startRefusals = shared.startRefusals) (events : after.events = shared.events)
    (workers : other.workers.map (·.worker) = manager.workers.map (·.worker))
    (nextWorker : other.nextWorker = manager.nextWorker)
    (phase : other.phase = manager.phase) (stopping : other.stopping = manager.stopping)
    (counted : other.report.dispatched + other.pending.length =
      other.report.scheduled + other.report.retried) : other.Enlisted after threads := by
  have before (slot : WorkerSlot) (mem : slot ∈ other.workers) :
      ∃ known ∈ manager.workers, known.worker = slot.worker :=
    List.mem_map.1 (workers ▸ List.mem_map_of_mem mem)
  refine ⟨phase.trans enlisted.dispatches, ?_, events ▸ enlisted.listens,
    workers ▸ enlisted.distinct, ?_, nextWorker ▸ enlisted.known, ?_,
    stopping.trans enlisted.replaces, counted⟩
  · rw [Shared.Grants, refusals]
    exact enlisted.grants
  · intro slot mem
    obtain ⟨known, inside, same⟩ := before slot mem
    rw [← same, nextWorker]
    exact enlisted.issued known inside
  · intro slot mem
    obtain ⟨known, inside, same⟩ := before slot mem
    rw [← same, events]
    exact enlisted.told known inside

theorem Enlisted.account {after : Manager × Shared} (enlisted : manager.Enlisted shared threads)
    (accounts : manager.Accounts shared after) : after.1.Enlisted after.2 threads := by
  obtain ⟨more, pending, retried⟩ := accounts.retries
  refine enlisted.alter accounts.refusals accounts.events (congrArg _ accounts.workers)
    accounts.nextWorker accounts.phase accounts.stopping ?_
  have counted := enlisted.counted
  rw [accounts.dispatched, accounts.scheduled, pending, retried, List.length_append]
  omega

theorem HasWorker.account {after : Manager × Shared} (has : manager.HasWorker)
    (accounts : manager.Accounts shared after) : after.1.HasWorker := by
  rw [HasWorker, accounts.workers]
  exact has

/-- A worker that is started is in the list. -/
theorem Enlisted.spawn (enlisted : manager.Enlisted shared threads) :
    (manager.spawn shared).1.Staffed (manager.spawn shared).2 threads := by
  have granted : shared.startRefusals.head? ≠ some true := fun refused =>
    enlisted.grants (List.mem_of_mem_head? refused)
  unfold Manager.spawn
  rw [if_neg granted]
  refine ⟨⟨enlisted.dispatches, fun mem => enlisted.grants (List.mem_of_mem_tail mem),
    enlisted.listens, ?_, ?_, ?_, ?_, enlisted.replaces, enlisted.counted⟩,
    fun _ => ⟨_, List.mem_append_right _ List.mem_cons_self, rfl⟩⟩
  · rw [List.map_append, List.nodup_append]
    refine ⟨enlisted.distinct, List.nodup_singleton _, ?_⟩
    rintro id mem _ new rfl
    obtain ⟨slot, inside, rfl⟩ := List.mem_map.1 mem
    exact Nat.ne_of_lt (enlisted.issued slot inside) (List.mem_singleton.1 new)
  · intro slot mem
    rcases List.mem_append.1 mem with mem | mem
    · exact Nat.lt_succ_of_lt (enlisted.issued slot mem)
    · rw [List.mem_singleton.1 mem]
      exact Nat.lt_succ_self _
  · exact fun worker mem => Nat.lt_succ_of_lt (enlisted.known worker mem)
  · intro slot mem left
    rcases List.mem_append.1 mem with mem | mem
    · exact enlisted.told slot mem left
    · rw [List.mem_singleton.1 mem] at left
      obtain ⟨worker, inside, same, -⟩ := left
      exact absurd same (Nat.ne_of_lt (enlisted.known worker inside))

theorem Enlisted.spawnAll (enlisted : manager.Enlisted shared threads) (count : Nat)
    (active : ∀ slot ∈ manager.workers, slot.abandoned = false) :
    (Manager.spawnAll count manager shared).1.Enlisted (Manager.spawnAll count manager shared).2
        threads ∧
      ∀ slot ∈ (Manager.spawnAll count manager shared).1.workers, slot.abandoned = false := by
  induction count generalizing manager shared with
  | zero => exact ⟨enlisted, active⟩
  | succ count induction =>
      have fresh (slot : WorkerSlot) : slot ∈ (manager.spawn shared).1.workers →
          slot.abandoned = false := by
        unfold Manager.spawn
        split
        · exact active slot
        · intro mem
          rcases List.mem_append.1 mem with mem | mem
          · exact active slot mem
          · rw [List.mem_singleton.1 mem]
      exact induction enlisted.spawn.toEnlisted fresh

theorem Enlisted.replace (enlisted : manager.Enlisted shared threads) :
    (manager.replace shared).1.Staffed (manager.replace shared).2 threads := by
  unfold Manager.replace
  rw [if_neg (by rw [enlisted.replaces]; decide)]
  exact enlisted.spawn

/-! ## Events -/

theorem worker_of_changeSlot {worker : WorkerId} {change : WorkerSlot → WorkerSlot}
    (same : ∀ slot, (change slot).worker = slot.worker) :
    (manager.changeSlot worker change).workers.map (·.worker) = manager.workers.map (·.worker) := by
  rw [changeSlot, List.map_map]
  refine List.map_congr_left fun slot _ => ?_
  rw [Function.comp_apply]
  split
  · exact same slot
  · rfl

theorem HasWorker.changeSlot {worker : WorkerId} {change : WorkerSlot → WorkerSlot}
    (has : manager.HasWorker) (keeps : ∀ slot, (change slot).abandoned = slot.abandoned) :
    (manager.changeSlot worker change).HasWorker := by
  obtain ⟨slot, mem, kept⟩ := has
  refine ⟨_, List.mem_map_of_mem mem, ?_⟩
  split
  · exact (keeps slot).trans kept
  · exact kept

theorem hasWork_of_flight {entry : InFlight} (mem : entry ∈ manager.inFlight) :
    manager.hasWork = true := by
  rw [hasWork, Bool.or_eq_true, Bool.not_eq_true', Bool.not_eq_true']
  exact Or.inr (List.isEmpty_eq_false_iff.2 (List.ne_nil_of_mem mem))

theorem Staffed.onStarted (staffed : manager.Staffed shared threads) (worker : WorkerId)
    (task : TaskId) (time : Instant) :
    (manager.onStarted worker task time).Staffed shared threads := by
  have same : (manager.onStarted worker task time).hasWork = manager.hasWork := by
    simp [Manager.onStarted, hasWork, Manager.changeSlot, hear]
  refine ⟨staffed.alter rfl rfl (worker_of_changeSlot fun _ => rfl) rfl rfl rfl staffed.counted, ?_⟩
  intro work
  have heard : (manager.hear worker time).HasWorker := staffed.staffed (same ▸ work)
  show ((manager.hear worker time).changeSlot worker ({ · with current := some task })).HasWorker
  exact heard.changeSlot fun _ => rfl

theorem Staffed.onFinished (staffed : manager.Staffed shared threads) (worker : WorkerId)
    (outcome : Outcome) :
    (manager.onFinished shared worker outcome).1.Staffed
      (manager.onFinished shared worker outcome).2 threads := by
  have heard : ((manager.hear worker shared.now).changeSlot worker fun slot =>
      if slot.current = some outcome.task then { slot with current := none }
      else slot).Staffed shared threads := by
    have has (work : manager.hasWork = true) : (manager.hear worker shared.now).HasWorker :=
      staffed.staffed work
    refine ⟨staffed.alter rfl rfl (worker_of_changeSlot fun slot => ?_) rfl rfl rfl
      staffed.counted, fun work => (has work).changeSlot fun slot => ?_⟩
    all_goals split <;> rfl
  unfold Manager.onFinished
  dsimp only
  generalize (manager.hear worker shared.now).changeSlot worker _ = noted at heard ⊢
  split
  · exact heard
  · next entry found =>
      have has : (noted.land outcome.task).HasWorker :=
        heard.staffed (hasWork_of_flight (flight?_eq_some found).1)
      have landed : (noted.land outcome.task).Enlisted shared threads :=
        heard.alter rfl rfl rfl rfl rfl rfl heard.counted
      split
      · have accounts := accounts_conclude (noted.land outcome.task) shared entry.task
          ((noted.land outcome.task).timeoutResult entry shared.now)
        exact ⟨landed.account accounts, fun _ => has.account accounts⟩
      · have accounts := accounts_record (noted.land outcome.task) shared entry.task outcome
        exact ⟨landed.account accounts, fun _ => has.account accounts⟩

/-- When a worker leaves, its place is filled or another one is left, unless all is done. -/
theorem Staffed.onExited (staffed : manager.Staffed shared threads) (worker : WorkerId)
    {rest : Channel WorkerEvent} (listens : rest.receiverGone = false)
    (received : shared.events.waiting = .exited worker :: rest.waiting) :
    (manager.onExited { shared with events := rest } worker).1.Staffed
      (manager.onExited { shared with events := rest } worker).2 threads := by
  -- What is told of the other workers still waits.
  have told (slot : WorkerSlot) (mem : slot ∈ manager.workers) (other : slot.worker ≠ worker)
      (left : Departed threads slot.worker) : .exited slot.worker ∈ rest.waiting := by
    have waits := staffed.told slot mem left
    rw [received] at waits
    rcases List.mem_cons.1 waits with same | waits
    · exact absurd (WorkerEvent.exited.inj same) other
    · exact waits
  unfold Manager.onExited
  split
  · next unknown =>
      refine ⟨{ staffed.toEnlisted with listens := listens, told := ?_ }, staffed.staffed⟩
      refine fun slot mem left => told slot mem (fun same => ?_) left
      simpa [same] using List.find?_eq_none.1 unknown slot mem
  · next slot found =>
      have mem : slot ∈ manager.workers := List.mem_of_find?_eq_some found
      have named : slot.worker = worker := by simpa using List.find?_some found
      let without : Manager :=
        { manager with
          workers := manager.workers.filter (·.worker != worker)
          supervisor := manager.supervisor.remove worker }
      have enlisted : without.Enlisted { shared with events := rest } threads :=
        { staffed.toEnlisted with
          listens := listens
          distinct := staffed.distinct.sublist (List.filter_sublist.map _)
          issued := fun other mem => staffed.issued other (List.mem_filter.1 mem).1
          told := fun other mem =>
            told other (List.mem_filter.1 mem).1 (bne_iff_ne.1 (List.mem_filter.1 mem).2) }
      -- Another worker than one that was given up on is still there.
      have others (lost : slot.abandoned = true) (work : manager.hasWork = true) :
          without.HasWorker := by
        obtain ⟨other, inside, kept⟩ := staffed.staffed work
        refine ⟨other, List.mem_filter.2 ⟨inside, ?_⟩, kept⟩
        rw [bne_iff_ne, ← named]
        intro same
        rw [List.inj_on_of_nodup_map staffed.distinct inside mem same, lost] at kept
        cases kept
      obtain ⟨listed, kept⟩ :
          (without.concludeOrphan { shared with events := rest } slot).1.Enlisted
              (without.concludeOrphan { shared with events := rest } slot).2 threads ∧
            (slot.abandoned = true →
              (without.concludeOrphan { shared with events := rest } slot).1.hasWork = true →
              (without.concludeOrphan { shared with events := rest } slot).1.HasWorker) := by
        unfold Manager.concludeOrphan
        split
        · exact ⟨enlisted, others⟩
        · next entry flies =>
            obtain ⟨id, -, flies⟩ := Option.bind_eq_some_iff.1 flies
            have accounts := accounts_conclude (without.land entry.task.id)
              { shared with events := rest } entry.task (orphanResult entry.task.path)
            have landed :
                (without.land entry.task.id).Enlisted { shared with events := rest } threads :=
              enlisted.alter rfl rfl rfl rfl rfl rfl enlisted.counted
            refine ⟨landed.account accounts, fun lost _ => ?_⟩
            have flies : entry ∈ without.inFlight := (flight?_eq_some flies).1
            have has : (without.land entry.task.id).HasWorker :=
              others lost (hasWork_of_flight flies)
            exact has.account accounts
      dsimp only
      split
      · exact listed.replace
      · next stays =>
          refine ⟨listed, fun work => kept ?_ work⟩
          by_contra active
          exact stays (by simpa using ⟨Bool.eq_false_iff.2 active, work⟩)

theorem Staffed.receive? (staffed : manager.Staffed shared threads) {after : Manager × Shared}
    (received : manager.receive? shared = some after) : after.1.Staffed after.2 threads := by
  obtain ⟨event, rest, waiting, rfl⟩ := eq_of_receive? received
  by_cases leaves : ∃ worker, event = .exited worker
  · obtain ⟨worker, rfl⟩ := leaves
    exact staffed.onExited worker staffed.listens waiting
  · have shorter : manager.Staffed
        { shared with events := { shared.events with waiting := rest } } threads := by
      refine ⟨{ staffed.toEnlisted with told := ?_ }, staffed.staffed⟩
      intro slot mem left
      have waits := staffed.told slot mem left
      rw [waiting] at waits
      exact (List.mem_cons.1 waits).resolve_left fun same => leaves ⟨_, same.symm⟩
    cases event with
    | heartbeat worker time =>
        exact ⟨shorter.alter rfl rfl rfl rfl rfl rfl shorter.counted, shorter.staffed⟩
    | started worker task time => exact shorter.onStarted worker task time
    | finished worker outcome => exact shorter.onFinished worker outcome
    | exited worker => exact absurd ⟨worker, rfl⟩ leaves

/-! ## Dispatching -/

theorem Staffed.feed? (staffed : manager.Staffed shared threads) {after : Manager × Shared}
    (fed : manager.feed? shared = some after) : after.1.Staffed after.2 threads := by
  obtain ⟨task, rest, tasks, waits, -, rfl⟩ := eq_of_feed? fed
  have work : manager.hasWork = true := by simp [hasWork, waits]
  refine ⟨staffed.alter rfl rfl rfl rfl rfl rfl ?_, fun _ => staffed.staffed work⟩
  have counted := staffed.counted
  simp only [waits, List.length_cons] at counted ⊢
  omega

/-- A worker that is given up on is replaced. -/
theorem Staffed.expire (staffed : manager.Staffed shared threads) (task : TaskId) :
    (Manager.expire (manager, shared) task).1.Staffed
      (Manager.expire (manager, shared) task).2 threads := by
  unfold Manager.expire
  dsimp only
  cases found : manager.flight? task with
  | none => exact staffed
  | some entry =>
      have replaced {noted : Manager} (enlisted : noted.Enlisted shared threads) :
          (((noted.land task).concludeTimeout shared entry).1.replace
            ((noted.land task).concludeTimeout shared entry).2).1.Staffed
          (((noted.land task).concludeTimeout shared entry).1.replace
            ((noted.land task).concludeTimeout shared entry).2).2 threads := by
        have landed : (noted.land task).Enlisted shared threads :=
          enlisted.alter rfl rfl rfl rfl rfl rfl enlisted.counted
        exact (landed.account (accounts_conclude _ _ _ _)).replace
      dsimp only
      cases entry.worker with
      | none => exact replaced staffed.toEnlisted
      | some worker =>
          refine replaced (staffed.alter rfl rfl ?_ rfl rfl rfl staffed.counted)
          exact worker_of_changeSlot fun _ => rfl

theorem Staffed.deal {before after : Manager × Shared}
    (staffed : before.1.Staffed before.2 threads) (deal : Deal before after) :
    after.1.Staffed after.2 threads := by
  cases deal with
  | receive received => exact staffed.receive? received
  | feed fed => exact staffed.feed? fed
  | check => exact ⟨staffed.alter rfl rfl rfl rfl rfl rfl staffed.counted, staffed.staffed⟩
  | expire => exact staffed.expire _

/-! ## The end of dispatching -/

/-- No task waits or is with the workers, and the tasks that were given out are counted. -/
structure Cleared (manager : Manager) : Prop where
  /-- No task waits. -/
  pending : manager.pending = []
  /-- No task is with the workers. -/
  inFlight : manager.inFlight = []
  /-- What was selected or was tried again was given out. -/
  counted : manager.report.dispatched = manager.report.scheduled + manager.report.retried

/-- The manager no longer dispatches, and it has nothing left to do unless it was interrupted. -/
def Ending (manager : Manager) : Prop :=
  manager.phase ≠ .dispatching ∧ (manager.report.interrupted = false → manager.Cleared)

/-- While the manager dispatches it has workers for its tasks, and it goes on to the end only when
it is interrupted or nothing is left to do. -/
def Finishes (manager : Manager) (shared : Shared) (threads : List Worker) : Prop :=
  manager.Staffed shared threads ∨ manager.Ending

theorem Staffed.beginDraining (staffed : manager.Staffed shared threads) :
    manager.beginDraining.Staffed shared threads := by
  unfold Manager.beginDraining
  split
  · exact ⟨staffed.alter rfl rfl rfl rfl rfl rfl staffed.counted, staffed.staffed⟩
  · exact staffed

/-- A manager that has nothing to do takes nothing back from the queue. -/
theorem Consistent.cleared {taken : List TaskId} {selected : List Path}
    (consistent : manager.Consistent shared taken [] selected)
    (staffed : manager.Staffed shared threads) (idle : manager.hasWork = false) :
    (manager.beginShutdown shared).1.Cleared := by
  obtain ⟨pending, inFlight⟩ : manager.pending = [] ∧ manager.inFlight = [] := by
    simpa [hasWork] using idle
  have back : tasksOf shared.tasks.waiting = [] := by
    have queued := consistent.queued
    rwa [inFlight, List.map_nil, List.subset_nil] at queued
  refine ⟨?_, ?_, ?_⟩
  · simp [Manager.beginShutdown, pending, back]
  · simp [Manager.beginShutdown, inFlight]
  · have counted := staffed.counted
    rwa [pending] at counted

/-- A manager with work has workers, so it turns to the end when it is interrupted or has nothing to
do. -/
theorem Staffed.beginShutdown {taken : List TaskId} {selected : List Path}
    (staffed : manager.Staffed shared threads)
    (consistent : manager.Consistent shared taken [] selected)
    (reason : manager.report.interrupted = true ∨ manager.hasWork = false ∨ manager.workers = []) :
    (manager.beginShutdown shared).1.Ending := by
  refine ⟨nofun, fun quiet => consistent.cleared staffed (Bool.eq_false_iff.2 fun work => ?_)⟩
  rcases reason with disturbed | idle | deserted
  · cases disturbed.symm.trans quiet
  · cases idle.symm.trans work
  · obtain ⟨slot, mem, -⟩ := staffed.staffed work
    rw [deserted] at mem
    cases mem

/-! ## Afterwards -/

theorem Cleared.flight? (cleared : manager.Cleared) (task : TaskId) :
    manager.flight? task = none := by
  rw [Manager.flight?, cleared.inFlight, List.find?_nil]

theorem Cleared.concludeOrphan (cleared : manager.Cleared) (slot : WorkerSlot) :
    manager.concludeOrphan shared slot = (manager, shared) := by
  have nobody : slot.current.bind manager.flight? = none := by
    cases slot.current with
    | none => rfl
    | some task => exact cleared.flight? task
  rw [Manager.concludeOrphan, nobody]

/-- When nothing is left to do, events bring nothing. -/
theorem Cleared.onEvent (cleared : manager.Cleared) (event : WorkerEvent) :
    (manager.onEvent shared event).1.Cleared := by
  obtain ⟨pending, inFlight, counted⟩ := cleared
  cases event with
  | heartbeat worker time => exact ⟨pending, inFlight, counted⟩
  | started worker task time =>
      refine ⟨pending, ?_, counted⟩
      simp [Manager.onEvent, onStarted, Manager.changeSlot, hear, inFlight]
  | finished worker outcome =>
      have heard : ((manager.hear worker shared.now).changeSlot worker fun slot =>
          if slot.current = some outcome.task then { slot with current := none }
          else slot).Cleared := ⟨pending, inFlight, counted⟩
      unfold Manager.onEvent Manager.onFinished
      dsimp only
      rw [heard.flight?]
      exact heard
  | exited worker =>
      unfold Manager.onEvent Manager.onExited
      dsimp only
      split
      · exact ⟨pending, inFlight, counted⟩
      · have without : Cleared { manager with
            workers := manager.workers.filter (·.worker != worker)
            supervisor := manager.supervisor.remove worker } := ⟨pending, inFlight, counted⟩
        rw [without.concludeOrphan, if_neg (by simp [hasWork, pending, inFlight])]
        exact without

theorem Ending.moved (ending : manager.Ending) {phase : ManagerPhase}
    (ends : phase ≠ .dispatching) : ({ manager with phase } : Manager).Ending :=
  ⟨ends, fun quiet =>
    ⟨(ending.2 quiet).pending, (ending.2 quiet).inFlight, (ending.2 quiet).counted⟩⟩

theorem Ending.receive? (ending : manager.Ending) {after : Manager × Shared}
    (received : manager.receive? shared = some after) : after.1.Ending := by
  have course := course_receive? received
  have phase : after.1.phase = manager.phase := congrArg Prod.fst course
  have interrupted : after.1.report.interrupted = manager.report.interrupted :=
    congrArg (·.2.2.1) course
  obtain ⟨event, rest, -, rfl⟩ := eq_of_receive? received
  refine ⟨phase.trans_ne ending.1, fun quiet => ?_⟩
  exact (ending.2 (interrupted.symm.trans quiet)).onEvent event

theorem Ending.stride {before after : Manager × Shared} {stats : List WriterStats}
    (ending : before.1.Ending) (stride : Stride stats before after) : after.1.Ending := by
  cases stride with
  | deal phase | interrupt phase | drain phase | turn phase => exact absurd phase ending.1
  | order | wait | dismiss | skip | await => exact ending.moved nofun
  | collect _ received => exact ending.receive? received
  | endWorkers | endWriters =>
      exact ⟨nofun, fun quiet =>
        ⟨(ending.2 quiet).pending, (ending.2 quiet).inFlight, (ending.2 quiet).counted⟩⟩

theorem Ending.step? (ending : manager.Ending) {stats : List WriterStats} {action : Action}
    {after : Manager × Shared} (stepped : manager.step? shared stats action = some after) :
    after.1.Ending :=
  ending.stride (stride_step? ending.1 stepped)

/-- One stride of a manager that finishes what it can leaves it so. -/
theorem Finishes.stride {before after : Manager × Shared} {taken : List TaskId}
    {selected : List Path} {stats : List WriterStats}
    (finishes : before.1.Finishes before.2 threads)
    (sound : Situation.Sound ⟨before.1, before.2, taken⟩ selected)
    (stride : Stride stats before after) : after.1.Finishes after.2 threads := by
  rcases finishes with staffed | ending
  · have dispatches := staffed.dispatches
    cases stride with
    | deal _ deal => exact Or.inl (staffed.deal deal)
    | interrupt =>
        exact Or.inl
          ⟨staffed.alter rfl rfl rfl rfl rfl rfl staffed.counted, staffed.staffed⟩
    | drain => exact Or.inl staffed.beginDraining
    | turn _ reason =>
        have consistent := sound.books (works_of_dispatching dispatches)
        exact Or.inr (staffed.beginShutdown consistent reason)
    | order phase | wait phase | collect phase | endWorkers phase | dismiss phase | skip phase
    | await phase | endWriters phase => cases dispatches.symm.trans phase
  · exact Or.inr (Ending.stride ending stride)

/-- A manager that finishes what it can goes on to do so. -/
theorem Finishes.strides {before after : Manager × Shared} {taken : List TaskId}
    {selected : List Path} {stats : List WriterStats}
    (finishes : before.1.Finishes before.2 threads)
    (sound : Situation.Sound ⟨before.1, before.2, taken⟩ selected)
    (strides : Relation.ReflTransGen (Stride stats) before after) :
    after.1.Finishes after.2 threads := by
  induction strides with
  | refl => exact finishes
  | tail ran stride induction => exact induction.stride (sound.strides ran) stride

end Manager

end PartsList
