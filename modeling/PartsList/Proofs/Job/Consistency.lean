import PartsList.Proofs.Job.Ledger
import PartsList.Proofs.Job.Strides

/-!
# What the manager does with tasks

The manager learns about tasks from workers, who can tell only of tasks that they have taken from
their queue.  As long as they do, each of the manager's operations keeps its books balanced.
-/

namespace PartsList

namespace WorkerEvent

/-- A worker that was given only the tasks with the given numbers can tell this. -/
def Credible (taken : List TaskId) : WorkerEvent → Prop
  | .heartbeat _ _ | .exited _ => True
  | .started _ task _ => task ∈ taken
  | .finished _ outcome => outcome.task ∈ taken ∧ outcome.result.Honest

end WorkerEvent

namespace Manager

/-- The workers have been sent away, and what is left to do was counted. -/
def isClosed (manager : Manager) : Bool :=
  match manager.phase with
  | .closing _ | .awaiting | .finished => true
  | .dispatching | .stopping _ | .collecting => false

theorem works_of_dispatching {manager : Manager} (dispatches : manager.phase = .dispatching) :
    manager.isClosed = false := by
  rw [isClosed, dispatches]

theorem works_of_stopping {manager : Manager} {left : Nat}
    (stops : manager.phase = .stopping left) :
    manager.isClosed = false := by
  rw [isClosed, stops]

theorem works_of_collecting {manager : Manager} (collects : manager.phase = .collecting) :
    manager.isClosed = false := by
  rw [isClosed, collects]

/-- The manager's books balance, and it knows nothing of tasks that no worker has taken. -/
structure Consistent (manager : Manager) (shared : Shared) (taken : List TaskId)
    (held : List Task) (selected : List Path) : Prop extends manager.Balances held selected where
  /-- The workers' queue holds tasks that count as with the workers, -/
  queued : tasksOf shared.tasks.waiting ⊆ manager.inFlight.map (·.task)
  /-- and each of them once. -/
  once : ((tasksOf shared.tasks.waiting).map (·.id)).Nodup
  /-- Tasks that were taken have a number. -/
  takenIssued : ∀ id ∈ taken, id < manager.nextTask
  /-- They do not wait, -/
  takenNotPending : ∀ task ∈ manager.pending, task.id ∉ taken
  /-- and are no longer in the queue. -/
  takenNotQueued : ∀ task ∈ tasksOf shared.tasks.waiting, task.id ∉ taken
  /-- A worker is known to be at a task only if that was taken. -/
  current : ∀ slot ∈ manager.workers, ∀ id ∈ slot.current, id ∈ taken
  /-- A task counts as started only if it was taken. -/
  started : ∀ entry ∈ manager.inFlight, entry.startedAt ≠ none → entry.task.id ∈ taken
  /-- Events that wait are of workers that have taken their tasks. -/
  told : ∀ event ∈ shared.events.waiting, event.Credible taken
  /-- The workers have not been sent away. -/
  working : manager.isClosed = false

variable {manager : Manager} {shared : Shared} {taken : List TaskId} {held : List Task}
  {selected : List Path}

/-- What is not about tasks may change. -/
theorem Consistent.alter {other : Manager} {after : Shared}
    (consistent : manager.Consistent shared taken held selected)
    (pending : other.pending = manager.pending) (inFlight : other.inFlight = manager.inFlight)
    (history : other.history = manager.history) (next : other.nextTask = manager.nextTask)
    (phase : other.phase = manager.phase)
    (tells : other.report.Tells (manager.finals.map (·.outcome.result)))
    (scheduled : other.report.scheduled = manager.report.scheduled)
    (workers : ∀ slot ∈ other.workers, ∀ id ∈ slot.current, id ∈ taken)
    (tasks : after.tasks.waiting = shared.tasks.waiting)
    (events : after.events.waiting ⊆ shared.events.waiting) :
    other.Consistent after taken held selected where
  toBalances := by
    refine consistent.toBalances.rearrange ?_ history next tells scheduled
    rw [openTasks, openTasks, pending, inFlight]
  queued := by rw [tasks, inFlight]; exact consistent.queued
  once := by rw [tasks]; exact consistent.once
  takenIssued := by rw [next]; exact consistent.takenIssued
  takenNotPending := by rw [pending]; exact consistent.takenNotPending
  takenNotQueued := by rw [tasks]; exact consistent.takenNotQueued
  current := workers
  started := by rw [inFlight]; exact consistent.started
  told := fun event mem => consistent.told event (events mem)
  working := by rw [isClosed, phase]; exact consistent.working

theorem Consistent.supervise (consistent : manager.Consistent shared taken held selected)
    (supervisor : Supervisor) :
    { manager with supervisor := supervisor }.Consistent shared taken held selected :=
  consistent.alter rfl rfl rfl rfl rfl consistent.tells rfl consistent.current rfl
    (List.Subset.refl _)

theorem Consistent.hear (consistent : manager.Consistent shared taken held selected)
    (worker : WorkerId) (time : Instant) :
    (manager.hear worker time).Consistent shared taken held selected :=
  consistent.supervise _

theorem Consistent.dismiss (consistent : manager.Consistent shared taken held selected)
    (worker : WorkerId) :
    { manager with
      workers := manager.workers.filter (·.worker != worker)
      supervisor := manager.supervisor.remove worker }.Consistent shared taken held selected :=
  consistent.alter rfl rfl rfl rfl rfl consistent.tells rfl
    (fun slot mem => consistent.current slot (List.mem_filter.1 mem).1) rfl (List.Subset.refl _)

theorem Consistent.changeSlot (consistent : manager.Consistent shared taken held selected)
    (worker : WorkerId) (change : WorkerSlot → WorkerSlot)
    (known : ∀ slot ∈ manager.workers, ∀ id ∈ (change slot).current, id ∈ taken) :
    (manager.changeSlot worker change).Consistent shared taken held selected := by
  refine consistent.alter rfl rfl rfl rfl rfl consistent.tells rfl ?_ rfl (List.Subset.refl _)
  intro slot mem
  obtain ⟨before, inside, rfl⟩ := List.mem_map.1 mem
  split
  · exact known before inside
  · exact consistent.current before inside

theorem Consistent.spawn (consistent : manager.Consistent shared taken held selected) :
    (manager.spawn shared).1.Consistent (manager.spawn shared).2 taken held selected := by
  have same := consistent.tells
  unfold Manager.spawn
  split
  · exact consistent.alter rfl rfl rfl rfl rfl same rfl consistent.current rfl
      (List.Subset.refl _)
  · refine consistent.alter rfl rfl rfl rfl rfl
      ⟨same.succeeded, same.failed, same.rows, same.codes, same.code⟩ rfl ?_ rfl
      (List.Subset.refl _)
    intro slot mem
    rcases List.mem_append.1 mem with mem | mem
    · exact consistent.current slot mem
    · rw [List.mem_singleton.1 mem]
      exact fun id none => nomatch none

theorem Consistent.replace (consistent : manager.Consistent shared taken held selected) :
    (manager.replace shared).1.Consistent (manager.replace shared).2 taken held selected := by
  unfold Manager.replace
  split
  · exact consistent
  · exact consistent.spawn

/-! ## Outcomes and events -/

theorem Consistent.land {task : TaskId} {entry : InFlight}
    (consistent : manager.Consistent shared taken [] selected)
    (found : manager.flight? task = some entry) (known : task ∈ taken) :
    (manager.land task).Consistent shared taken [entry.task] selected := by
  refine
    { toBalances := consistent.toBalances.land found
      queued := ?_
      once := consistent.once
      takenIssued := consistent.takenIssued
      takenNotPending := consistent.takenNotPending
      takenNotQueued := consistent.takenNotQueued
      current := consistent.current
      started := ?_
      told := consistent.told
      working := consistent.working }
  · intro other mem
    obtain ⟨flight, inside, rfl⟩ := List.mem_map.1 (consistent.queued mem)
    refine List.mem_map.2 ⟨flight, List.mem_filter.2 ⟨inside, ?_⟩, rfl⟩
    simp only [bne_iff_ne]
    rintro rfl
    exact consistent.takenNotQueued flight.task mem known
  · exact fun flight mem => consistent.started flight (List.mem_filter.1 mem).1

theorem Consistent.record {task : Task} {outcome : Outcome}
    (consistent : manager.Consistent shared taken [task] selected)
    (honest : outcome.result.Honest) :
    (manager.record shared task outcome).1.Consistent (manager.record shared task outcome).2
      taken [] selected := by
  have balances := consistent.toBalances.record shared honest
  revert balances
  simp only [Manager.record]
  split
  · intro balances
    refine
      { toBalances := balances
        queued := consistent.queued
        once := consistent.once
        takenIssued := fun id mem => Nat.lt_succ_of_lt (consistent.takenIssued id mem)
        takenNotPending := ?_
        takenNotQueued := consistent.takenNotQueued
        current := consistent.current
        started := consistent.started
        told := consistent.told
        working := consistent.working }
    intro other mem
    rcases List.mem_append.1 mem with mem | mem
    · exact consistent.takenNotPending other mem
    · rw [List.mem_singleton.1 mem]
      exact fun known => Nat.lt_irrefl _ (consistent.takenIssued _ known)
  · unfold saveIfDue
    split
    all_goals
      intro balances
      exact
        { toBalances := balances
          queued := consistent.queued
          once := consistent.once
          takenIssued := consistent.takenIssued
          takenNotPending := consistent.takenNotPending
          takenNotQueued := consistent.takenNotQueued
          current := consistent.current
          started := consistent.started
          told := consistent.told
          working := consistent.working }

theorem Consistent.conclude {task : Task} {result : ExtractionResult}
    (consistent : manager.Consistent shared taken [task] selected) (honest : result.Honest) :
    (manager.conclude shared task result).1.Consistent (manager.conclude shared task result).2
      taken [] selected := by
  have spilled (spill : SpillFile) (routed : Routed) :
      ({ manager with spill := spill } : Manager).Consistent (shared.afterRouting routed) taken
        [task] selected :=
    consistent.alter rfl rfl rfl rfl rfl consistent.tells rfl consistent.current rfl
      (List.Subset.refl _)
  exact (spilled _ _).record (honest_withAttempt honest task.attempt)

theorem Consistent.concludeTimeout {entry : InFlight}
    (consistent : manager.Consistent shared taken [entry.task] selected) :
    (manager.concludeTimeout shared entry).1.Consistent (manager.concludeTimeout shared entry).2
      taken [] selected :=
  consistent.conclude (ExtractionResult.honest_failed (by decide))

/-- A worker that starts with a task leaves it where it is. -/
theorem tasks_onStarted (manager : Manager) (worker : WorkerId) (task : TaskId) (time : Instant) :
    (manager.onStarted worker task time).inFlight.map (·.task) =
      manager.inFlight.map (·.task) := by
  simp only [Manager.onStarted, Manager.changeSlot, Manager.hear, List.map_map]
  refine List.map_congr_left fun entry _ => ?_
  simp only [Function.comp_apply]
  split <;> rfl

theorem Consistent.onStarted (consistent : manager.Consistent shared taken [] selected)
    (worker : WorkerId) {task : TaskId} (known : task ∈ taken) (time : Instant) :
    (manager.onStarted worker task time).Consistent shared taken [] selected := by
  have noted := (consistent.hear worker time).changeSlot worker
    ({ · with current := some task }) fun slot _ id same => by
      rwa [← Option.some.inj same]
  have tasks := manager.tasks_onStarted worker task time
  refine
    { toBalances := noted.toBalances.rearrange ?_ rfl rfl noted.tells rfl
      queued := ?_
      once := noted.once
      takenIssued := noted.takenIssued
      takenNotPending := noted.takenNotPending
      takenNotQueued := noted.takenNotQueued
      current := noted.current
      started := ?_
      told := noted.told
      working := noted.working }
  · exact List.Perm.of_eq (congrArg _ tasks)
  · exact fun other mem => tasks.symm ▸ noted.queued mem
  · intro entry mem
    obtain ⟨before, inside, rfl⟩ := List.mem_map.1 mem
    split
    · next same => exact fun _ => (beq_iff_eq.1 same).symm ▸ known
    · exact noted.started before inside

theorem Consistent.onFinished {outcome : Outcome}
    (consistent : manager.Consistent shared taken [] selected) (worker : WorkerId)
    (known : outcome.task ∈ taken) (honest : outcome.result.Honest) :
    (manager.onFinished shared worker outcome).1.Consistent
      (manager.onFinished shared worker outcome).2 taken [] selected := by
  have noted := (consistent.hear worker shared.now).changeSlot worker
    (fun slot => if slot.current = some outcome.task then { slot with current := none } else slot)
    fun slot mem id same => by
      split at same
      · cases same
      · exact consistent.current slot mem id same
  unfold Manager.onFinished
  dsimp only
  generalize (manager.hear worker shared.now).changeSlot worker _ = heard at noted ⊢
  cases found : heard.flight? outcome.task with
  | none => exact noted
  | some entry =>
      have landed := noted.land found known
      dsimp only
      split
      · exact landed.concludeTimeout
      · exact landed.record honest

theorem Consistent.concludeOrphan (consistent : manager.Consistent shared taken [] selected)
    {slot : WorkerSlot} (known : ∀ id ∈ slot.current, id ∈ taken) :
    (manager.concludeOrphan shared slot).1.Consistent (manager.concludeOrphan shared slot).2
      taken [] selected := by
  unfold Manager.concludeOrphan
  split
  · exact consistent
  · next entry found =>
      obtain ⟨id, current, found⟩ := Option.bind_eq_some_iff.1 found
      obtain ⟨-, rfl⟩ := flight?_eq_some found
      exact (consistent.land found (known _ current)).conclude
        (ExtractionResult.honest_failed (by decide))

theorem Consistent.onExited (consistent : manager.Consistent shared taken [] selected)
    (worker : WorkerId) :
    (manager.onExited shared worker).1.Consistent (manager.onExited shared worker).2
      taken [] selected := by
  unfold Manager.onExited
  split
  · exact consistent
  · next slot found =>
      have concluded := (consistent.dismiss worker).concludeOrphan
        (consistent.current slot (List.mem_of_find?_eq_some found))
      dsimp only
      split
      · exact concluded.replace
      · exact concluded

theorem Consistent.onEvent (consistent : manager.Consistent shared taken [] selected)
    {event : WorkerEvent} (credible : event.Credible taken) :
    (manager.onEvent shared event).1.Consistent (manager.onEvent shared event).2
      taken [] selected := by
  cases event with
  | heartbeat worker time => exact consistent.hear worker time
  | started worker task time => exact consistent.onStarted worker credible time
  | finished worker outcome => exact consistent.onFinished worker credible.1 credible.2
  | exited worker => exact consistent.onExited worker

/-- An event may be taken from the queue. -/
theorem Consistent.pop (consistent : manager.Consistent shared taken held selected)
    {event : WorkerEvent} {rest : List WorkerEvent}
    (waiting : shared.events.waiting = event :: rest) :
    manager.Consistent { shared with events := { shared.events with waiting := rest } } taken held
      selected := by
  refine consistent.alter rfl rfl rfl rfl rfl consistent.tells rfl consistent.current rfl ?_
  rw [waiting]
  exact List.subset_cons_self _ _

theorem Consistent.receive? (consistent : manager.Consistent shared taken [] selected)
    {after : Manager × Shared} (received : manager.receive? shared = some after) :
    after.1.Consistent after.2 taken [] selected := by
  obtain ⟨event, rest, waiting, rfl⟩ := eq_of_receive? received
  exact (consistent.pop waiting).onEvent (consistent.told event (by simp [waiting]))

/-! ## Dispatching -/

theorem tasksOf_append (commands more : List Command) :
    tasksOf (commands ++ more) = tasksOf commands ++ tasksOf more :=
  List.filterMap_append

theorem tasksOf_of_send? {queue sent : Channel Command} {command : Command}
    (send : queue.send? command = some sent) :
    tasksOf sent.waiting = tasksOf queue.waiting ++ tasksOf [command] := by
  rw [Channel.waiting_of_send? send, tasksOf_append]

/-- Orders to leave are no tasks. -/
theorem tasksOf_of_order {queue sent : Channel Command} (send : queue.send? .stop = some sent) :
    tasksOf sent.waiting = tasksOf queue.waiting :=
  (tasksOf_of_send? send).trans (List.append_nil _)

theorem Consistent.feed? (consistent : manager.Consistent shared taken [] selected)
    {after : Manager × Shared} (fed : manager.feed? shared = some after) :
    after.1.Consistent after.2 taken [] selected := by
  obtain ⟨task, rest, tasks, waits, sent, rfl⟩ := eq_of_feed? fed
  have queue : tasksOf tasks.waiting = tasksOf shared.tasks.waiting ++ [task] :=
    tasksOf_of_send? sent
  have distinct := consistent.distinct
  rw [openTasks, waits] at distinct
  have apart : task.id ∉ (tasksOf shared.tasks.waiting).map (·.id) := by
    intro mem
    obtain ⟨other, mem, same⟩ := List.mem_map.1 mem
    have inside := consistent.queued mem
    simp only [List.nil_append, List.cons_append, List.map_cons, List.nodup_cons] at distinct
    refine distinct.1 (List.mem_map.2 ⟨other, ?_, same⟩)
    simp [List.mem_append, inside]
  refine
    { toBalances := ?_
      queued := ?_
      once := ?_
      takenIssued := consistent.takenIssued
      takenNotPending := ?_
      takenNotQueued := ?_
      current := consistent.current
      started := ?_
      told := consistent.told
      working := consistent.working }
  · have same := consistent.tells
    refine consistent.toBalances.rearrange ?_ rfl rfl
      ⟨same.succeeded, same.failed, same.rows, same.codes, same.code⟩ rfl
    simp only [openTasks, waits, List.nil_append, List.map_append, List.map_cons, List.map_nil]
    rw [← List.append_assoc]
    exact List.perm_append_singleton task _
  · rw [queue, List.map_append]
    exact List.append_subset.2 ⟨fun _ mem => List.mem_append_left _ (consistent.queued mem),
      fun _ mem => List.mem_append_right _ mem⟩
  · rw [queue, List.map_append]
    exact List.nodup_append.2 ⟨consistent.once, List.nodup_singleton _, by
      rintro id mem _ single rfl
      rw [List.mem_singleton.1 single] at mem
      exact apart mem⟩
  · exact fun other mem => consistent.takenNotPending other (waits ▸ List.mem_cons_of_mem _ mem)
  · intro other mem
    rw [queue] at mem
    rcases List.mem_append.1 mem with mem | mem
    · exact consistent.takenNotQueued other mem
    · rw [List.mem_singleton.1 mem]
      exact consistent.takenNotPending task (waits ▸ List.mem_cons_self)
  · intro entry mem
    rcases List.mem_append.1 mem with mem | mem
    · exact consistent.started entry mem
    · rw [List.mem_singleton.1 mem]
      exact fun started => absurd rfl started

theorem Consistent.expire {task : TaskId} (known : task ∈ taken)
    (consistent : manager.Consistent shared taken [] selected) :
    (Manager.expire (manager, shared) task).1.Consistent (Manager.expire (manager, shared) task).2
      taken [] selected := by
  unfold Manager.expire
  dsimp only
  cases found : manager.flight? task with
  | none => exact consistent
  | some entry =>
      dsimp only
      refine Consistent.replace (Consistent.concludeTimeout ?_)
      cases entry.worker with
      | none => exact consistent.land found known
      | some worker =>
          have abandoned := consistent.changeSlot worker
            ({ · with abandoned := true, current := none })
            fun _ _ _ none => nomatch none
          exact abandoned.land found known

/-- Dealing with workers, the manager keeps its books. -/
theorem Consistent.deal {before after : Manager × Shared}
    (consistent : before.1.Consistent before.2 taken [] selected) (deal : Deal before after) :
    after.1.Consistent after.2 taken [] selected := by
  cases deal with
  | receive received => exact consistent.receive? received
  | feed fed => exact consistent.feed? fed
  | check supervisor => exact consistent.supervise supervisor
  | expire flies started => exact consistent.expire (consistent.started _ flies started)

/-! ## The end -/

theorem Consistent.beginShutdown (consistent : manager.Consistent shared taken [] selected) :
    (manager.beginShutdown shared).1.Consistent (manager.beginShutdown shared).2
      taken [] selected := by
  have back := consistent.toBalances.takeBack consistent.once consistent.queued
  have same := back.tells
  refine
    { toBalances := ?_
      queued := List.nil_subset _
      once := List.nodup_nil
      takenIssued := consistent.takenIssued
      takenNotPending := ?_
      takenNotQueued := fun _ mem => nomatch mem
      current := consistent.current
      started := fun entry mem => consistent.started entry (List.mem_filter.1 mem).1
      told := consistent.told
      working := rfl }
  · refine back.rearrange ?_ rfl rfl
      ⟨same.succeeded, same.failed, same.rows, same.codes, same.code⟩ rfl
    exact List.Perm.append_right _ (List.perm_append_comm : (manager.pending ++ _).Perm _)
  · intro task mem
    rcases List.mem_append.1 mem with mem | mem
    · exact consistent.takenNotPending task mem
    · exact consistent.takenNotQueued task mem

theorem Consistent.beginDraining (consistent : manager.Consistent shared taken held selected) :
    manager.beginDraining.Consistent shared taken held selected := by
  have same := consistent.tells
  unfold Manager.beginDraining
  split
  · exact consistent.alter rfl rfl rfl rfl rfl
      ⟨same.succeeded, same.failed, same.rows, same.codes, same.code⟩ rfl consistent.current rfl
      (List.Subset.refl _)
  · exact consistent

theorem Consistent.interrupt (consistent : manager.Consistent shared taken held selected) :
    { manager with report := { manager.report with interrupted := true } }.Consistent shared taken
      held selected := by
  have same := consistent.tells
  exact consistent.alter rfl rfl rfl rfl rfl
    ⟨same.succeeded, same.failed, same.rows, same.codes, same.code⟩ rfl consistent.current rfl
    (List.Subset.refl _)

/-- The books of a manager that has sent its workers away: what is left to do is counted. -/
structure Closed (manager : Manager) (selected : List Path) : Prop
    extends manager.Balances [] selected where
  /-- The workers have been sent away. -/
  closed : manager.isClosed = true
  /-- The number of files that wait. -/
  notStarted : manager.report.notStarted = manager.pending.length
  /-- The number of files that are with workers. -/
  unfinished : manager.report.unfinished = manager.inFlight.length

/-- What is not about tasks may change. -/
theorem Closed.alter {other : Manager} (closed : manager.Closed selected)
    (pending : other.pending = manager.pending) (inFlight : other.inFlight = manager.inFlight)
    (history : other.history = manager.history) (next : other.nextTask = manager.nextTask)
    (still : other.isClosed = true)
    (tells : other.report.Tells (manager.finals.map (·.outcome.result)))
    (scheduled : other.report.scheduled = manager.report.scheduled)
    (notStarted : other.report.notStarted = manager.report.notStarted)
    (unfinished : other.report.unfinished = manager.report.unfinished) :
    other.Closed selected where
  toBalances := by
    refine closed.toBalances.rearrange ?_ history next tells scheduled
    rw [openTasks, openTasks, pending, inFlight]
  closed := still
  notStarted := by rw [notStarted, pending, closed.notStarted]
  unfinished := by rw [unfinished, inFlight, closed.unfinished]

theorem Consistent.endWorkers (consistent : manager.Consistent shared taken [] selected) :
    (manager.endWorkers shared).1.Closed selected := by
  have same := consistent.tells
  exact
    { toBalances := consistent.toBalances.rearrange (List.Perm.refl _) rfl rfl
        ⟨same.succeeded, same.failed, same.rows, same.codes, same.code⟩ rfl
      closed := rfl
      notStarted := rfl
      unfinished := rfl }

/-- The manager goes on with the end, having sent the workers orders at most. -/
theorem Consistent.move (consistent : manager.Consistent shared taken [] selected)
    (phase : ManagerPhase) (works : isClosed { manager with phase } = false)
    {tasks : Channel Command}
    (queue : tasksOf tasks.waiting = tasksOf shared.tasks.waiting) :
    ({ manager with phase } : Manager).Consistent { shared with tasks := tasks } taken []
      selected :=
  { consistent with
    toBalances := consistent.toBalances.rearrange (List.Perm.refl _) rfl rfl consistent.tells rfl
    queued := queue ▸ consistent.queued
    once := queue ▸ consistent.once
    takenNotQueued := queue ▸ consistent.takenNotQueued
    working := works }

/-- One stride of a manager keeps its books, until it sends the workers away and counts what is
left. -/
theorem Consistent.stride {before after : Manager × Shared} {stats : List WriterStats}
    (consistent : before.1.Consistent before.2 taken [] selected)
    (stride : Stride stats before after) :
    after.1.Consistent after.2 taken [] selected ∨ after.1.Closed selected := by
  have working := consistent.working
  cases stride with
  | deal _ deal => exact Or.inl (consistent.deal deal)
  | interrupt => exact Or.inl consistent.interrupt
  | drain => exact Or.inl consistent.beginDraining
  | turn => exact Or.inl consistent.beginShutdown
  | order _ sent => exact Or.inl (consistent.move _ rfl (tasksOf_of_order sent))
  | wait => exact Or.inl (consistent.move _ rfl rfl)
  | collect _ received => exact Or.inl (consistent.receive? received)
  | endWorkers => exact Or.inr consistent.endWorkers
  | dismiss phase | skip phase | await phase | endWriters phase => simp [isClosed, phase] at working

/-- Once the workers are sent away, nothing is moved any more. -/
theorem Closed.stride {before after : Manager × Shared} {stats : List WriterStats}
    (closed : before.1.Closed selected) (stride : Stride stats before after) :
    after.1.Closed selected := by
  have still := closed.closed
  have same := closed.tells
  cases stride with
  | deal phase | interrupt phase | drain phase | turn phase | order phase | wait phase
  | collect phase | endWorkers phase => simp [isClosed, phase] at still
  | dismiss | skip | await => exact closed.alter rfl rfl rfl rfl rfl same rfl rfl rfl
  | endWriters =>
      exact closed.alter rfl rfl rfl rfl rfl
        ⟨same.succeeded, same.failed, same.rows, same.codes, same.code⟩ rfl rfl rfl

end Manager

end PartsList
