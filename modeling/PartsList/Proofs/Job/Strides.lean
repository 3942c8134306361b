import Mathlib.Logic.Relation
import PartsList.Job.Manager
import PartsList.Proofs.Basic

/-!
# The manager's strides

Each step of the manager is made of strides.  As long as it gives out tasks, it looks whether
anything is left to do, and then it deals with workers: it takes events, gives out tasks and gives
up on tasks, without getting any closer to the end.  Afterwards each of its steps is one stride.
What every stride keeps, the manager keeps.
-/

namespace PartsList

/-! ## The course of the job -/

namespace Report

/-- What a report tells of the course of the job. -/
def course (report : Report) : Bool × List JobState :=
  (report.interrupted, report.states)

theorem course_countDelivery (report : Report) (delivery : Delivery) :
    (report.countDelivery delivery).course = report.course := by
  cases delivery <;> rfl

theorem course_countFailure (report : Report) (code : ErrorCode) :
    (report.countFailure code).course = report.course := by
  cases code <;> rfl

theorem course_countFinal (report : Report) (result : ExtractionResult) :
    (report.countFinal result).course = report.course := by
  unfold countFinal
  dsimp only
  split <;> rfl

/-- Counting an outcome leaves the figures of tasks alone. -/
theorem figures_count (report : Report) (delivery : Delivery) (code : ErrorCode) :
    let counted := (report.countDelivery delivery).countFailure code
    counted.interrupted = report.interrupted ∧ counted.scheduled = report.scheduled ∧
      counted.dispatched = report.dispatched ∧ counted.retried = report.retried := by
  cases delivery <;> cases code <;> exact ⟨rfl, rfl, rfl, rfl⟩

theorem figures_countFinal (report : Report) (result : ExtractionResult) :
    let counted := report.countFinal result
    counted.interrupted = report.interrupted ∧ counted.scheduled = report.scheduled ∧
      counted.dispatched = report.dispatched ∧ counted.retried = report.retried := by
  dsimp only
  unfold Report.countFinal
  split <;> exact ⟨rfl, rfl, rfl, rfl⟩

end Report

namespace Manager

/-- What the manager has noted of the course of its job. -/
def chronicle (manager : Manager) : Bool × Bool × List JobState :=
  (manager.draining, manager.report.course)

/-- Where the manager is on the course of its job, and what it has noted of it. -/
def course (manager : Manager) : ManagerPhase × Bool × Bool × List JobState :=
  (manager.phase, manager.chronicle)

variable {manager : Manager} {shared : Shared} {before middle after : Manager × Shared}
  {stats : List WriterStats} {action : Action}

theorem course_spawn (manager : Manager) (shared : Shared) :
    (manager.spawn shared).1.course = manager.course := by
  unfold spawn
  split <;> rfl

theorem course_spawnAll (count : Nat) (manager : Manager) (shared : Shared) :
    (spawnAll count manager shared).1.course = manager.course := by
  induction count generalizing manager shared with
  | zero => rfl
  | succ count induction => exact (induction _ _).trans (course_spawn manager shared)

theorem phase_spawnAll (count : Nat) (manager : Manager) (shared : Shared) :
    (spawnAll count manager shared).1.phase = manager.phase :=
  congrArg Prod.fst (course_spawnAll count manager shared)

theorem course_replace (manager : Manager) (shared : Shared) :
    (manager.replace shared).1.course = manager.course := by
  unfold replace
  split
  · rfl
  · exact course_spawn manager shared

theorem course_record (manager : Manager) (shared : Shared) (task : Task) (outcome : Outcome) :
    (manager.record shared task outcome).1.course = manager.course := by
  have counted := ((manager.report.countDelivery outcome.delivery).course_countFailure
    outcome.result.errorCode).trans (manager.report.course_countDelivery outcome.delivery)
  unfold record
  dsimp only
  split
  · exact congrArg (manager.phase, manager.draining, ·) counted
  · unfold saveIfDue
    split <;>
      exact congrArg (manager.phase, manager.draining, ·)
        ((Report.course_countFinal _ _).trans counted)

theorem course_conclude (manager : Manager) (shared : Shared) (task : Task)
    (result : ExtractionResult) :
    (manager.conclude shared task result).1.course = manager.course :=
  course_record _ _ _ _

theorem course_onFinished (manager : Manager) (shared : Shared) (worker : WorkerId)
    (outcome : Outcome) :
    (manager.onFinished shared worker outcome).1.course = manager.course := by
  unfold onFinished
  dsimp only
  split
  · rfl
  · split
    · exact course_conclude _ _ _ _
    · exact course_record _ _ _ _

theorem course_onExited (manager : Manager) (shared : Shared) (worker : WorkerId) :
    (manager.onExited shared worker).1.course = manager.course := by
  have orphan (manager : Manager) (slot : WorkerSlot) :
      (manager.concludeOrphan shared slot).1.course = manager.course := by
    unfold concludeOrphan
    split
    · rfl
    · exact course_conclude _ _ _ _
  unfold onExited
  split
  · rfl
  · dsimp only
    split
    · exact (course_replace _ _).trans (orphan _ _)
    · exact orphan _ _

theorem course_onEvent (manager : Manager) (shared : Shared) (event : WorkerEvent) :
    (manager.onEvent shared event).1.course = manager.course := by
  cases event with
  | heartbeat | started => rfl
  | finished worker outcome => exact course_onFinished _ _ _ _
  | exited worker => exact course_onExited _ _ _

/-- Taking an event, the manager removes it from its queue and handles it. -/
theorem eq_of_receive? (received : manager.receive? shared = some after) :
    ∃ event rest, shared.events.waiting = event :: rest ∧
      after =
        manager.onEvent { shared with events := { shared.events with waiting := rest } } event := by
  obtain ⟨⟨event, events⟩, popped, same⟩ := Option.bind_eq_some_iff.1 received
  obtain ⟨rest, waits, rfl⟩ := Channel.eq_of_receive? popped
  exact ⟨event, rest, waits, (Option.some.inj same).symm⟩

theorem course_receive? (received : manager.receive? shared = some after) :
    after.1.course = manager.course := by
  obtain ⟨event, rest, -, rfl⟩ := eq_of_receive? received
  exact course_onEvent _ _ _

/-- Giving out a task, the manager moves the first one that waits to the workers' queue. -/
theorem eq_of_feed? (fed : manager.feed? shared = some after) :
    ∃ task rest tasks, manager.pending = task :: rest ∧
      shared.tasks.send? (.process task) = some tasks ∧
      after =
        ({ manager with
            pending := rest
            inFlight := manager.inFlight ++ [{ task := task }]
            report := { manager.report with dispatched := manager.report.dispatched + 1 } },
          { shared with tasks := tasks }) := by
  unfold feed? at fed
  split at fed
  · cases fed
  · next task rest waits =>
      obtain ⟨tasks, sent, same⟩ := Option.bind_eq_some_iff.1 fed
      exact ⟨task, rest, tasks, waits, sent, (Option.some.inj same).symm⟩

/-! ## Accounting -/

/-- What accounting for an outcome leaves alone, and what it adds. -/
structure Accounts (manager : Manager) (shared : Shared) (after : Manager × Shared) : Prop where
  /-- The choices stay, -/
  settings : after.1.settings = manager.settings
  /-- the workers, -/
  workers : after.1.workers = manager.workers
  /-- their numbers, -/
  nextWorker : after.1.nextWorker = manager.nextWorker
  /-- whether they are replaced, -/
  stopping : after.1.stopping = manager.stopping
  /-- what comes next, -/
  phase : after.1.phase = manager.phase
  /-- the tasks with the workers, -/
  inFlight : after.1.inFlight = manager.inFlight
  /-- the system's verdicts on starts, -/
  refusals : after.2.startRefusals = shared.startRefusals
  /-- the time of day -/
  today : after.2.today = shared.today
  /-- and the events that wait. -/
  events : after.2.events = shared.events
  /-- The report tells no more about interruptions, -/
  interrupted : after.1.report.interrupted = manager.report.interrupted
  /-- selected files -/
  scheduled : after.1.report.scheduled = manager.report.scheduled
  /-- and tasks given out. -/
  dispatched : after.1.report.dispatched = manager.report.dispatched
  /-- Retries are queued and counted. -/
  retries : ∃ more, after.1.pending = manager.pending ++ more ∧
    after.1.report.retried = manager.report.retried + more.length

theorem accounts_record (manager : Manager) (shared : Shared) (task : Task) (outcome : Outcome) :
    manager.Accounts shared (manager.record shared task outcome) := by
  obtain ⟨interrupted, scheduled, dispatched, retried⟩ :=
    manager.report.figures_count outcome.delivery outcome.result.errorCode
  simp only [Manager.record]
  generalize (manager.report.countDelivery outcome.delivery).countFailure
    outcome.result.errorCode = counted at interrupted scheduled dispatched retried ⊢
  split
  · exact
      { settings := rfl, workers := rfl, nextWorker := rfl, stopping := rfl, phase := rfl,
        inFlight := rfl, refusals := rfl, today := rfl, events := rfl,
        interrupted := interrupted, scheduled := scheduled,
        dispatched := dispatched, retries := ⟨_, rfl, congrArg (· + 1) retried⟩ }
  · obtain ⟨interrupted', scheduled', dispatched', retried'⟩ :=
      counted.figures_countFinal outcome.result
    unfold saveIfDue
    split
    all_goals
      exact
        { settings := rfl, workers := rfl, nextWorker := rfl, stopping := rfl, phase := rfl,
          inFlight := rfl, refusals := rfl, today := rfl, events := rfl,
          interrupted := interrupted'.trans interrupted,
          scheduled := scheduled'.trans scheduled, dispatched := dispatched'.trans dispatched,
          retries := ⟨[], (List.append_nil _).symm, retried'.trans retried⟩ }

theorem accounts_conclude (manager : Manager) (shared : Shared) (task : Task)
    (result : ExtractionResult) :
    manager.Accounts shared (manager.conclude shared task result) := by
  unfold Manager.conclude
  dsimp only
  generalize route shared.inboxes manager.spill shared.disk (result.withAttempt task.attempt) =
    routed
  have same := accounts_record { manager with spill := routed.spill } (shared.afterRouting routed)
    task { task := task.id, result := result.withAttempt task.attempt, delivery := routed.delivery }
  exact
    { settings := same.settings, workers := same.workers, nextWorker := same.nextWorker,
      stopping := same.stopping, phase := same.phase, inFlight := same.inFlight,
      refusals := same.refusals, today := same.today, events := same.events,
      interrupted := same.interrupted, scheduled := same.scheduled,
      dispatched := same.dispatched, retries := same.retries }

/-! ## Deals -/

/-- What the manager does with workers while it gives out tasks. -/
inductive Deal : Manager × Shared → Manager × Shared → Prop
  /-- It takes an event. -/
  | receive {manager : Manager} {shared : Shared} {after : Manager × Shared}
      (received : manager.receive? shared = some after) : Deal (manager, shared) after
  /-- It gives out a task. -/
  | feed {manager : Manager} {shared : Shared} {after : Manager × Shared}
      (fed : manager.feed? shared = some after) : Deal (manager, shared) after
  /-- It looks after stalls. -/
  | check {manager : Manager} {shared : Shared} (supervisor : Supervisor) :
      Deal (manager, shared) ({ manager with supervisor := supervisor }, shared)
  /-- It gives up on a task that was started with. -/
  | expire {manager : Manager} {shared : Shared} {entry : InFlight}
      (flies : entry ∈ manager.inFlight) (started : entry.startedAt ≠ none) :
      Deal (manager, shared) (Manager.expire (manager, shared) entry.task.id)

theorem course_expire (manager : Manager) (shared : Shared) (task : TaskId) :
    (expire (manager, shared) task).1.course = manager.course := by
  unfold expire
  dsimp only
  split
  · rfl
  · refine (course_replace _ _).trans ((course_conclude _ _ _ _).trans ?_)
    split <;> rfl

/-- Deals bring the manager no closer to the end. -/
theorem Deal.course (deal : Deal before after) : after.1.course = before.1.course := by
  cases deal with
  | receive received => exact course_receive? received
  | feed fed =>
      obtain ⟨task, rest, tasks, -, -, rfl⟩ := eq_of_feed? fed
      rfl
  | check => rfl
  | expire => exact course_expire _ _ _

theorem course_of_deals (deals : Relation.ReflTransGen Deal before after) :
    after.1.course = before.1.course := by
  induction deals with
  | refl => rfl
  | tail _ deal induction => exact deal.course.trans induction

theorem deals_receiveMany (count : Nat) (manager : Manager) (shared : Shared) :
    Relation.ReflTransGen Deal (manager, shared) (receiveMany count manager shared) := by
  induction count generalizing manager shared with
  | zero => exact .refl
  | succ count induction =>
      unfold receiveMany
      split
      · exact .refl
      · next received => exact .head (.receive received) (induction _ _)

theorem inFlight_replace (manager : Manager) (shared : Shared) :
    (manager.replace shared).1.inFlight = manager.inFlight := by
  unfold replace spawn
  split
  · rfl
  · dsimp only
    split <;> rfl

/-- Giving up on a task, the manager takes that task and no other back from the workers. -/
theorem inFlight_expire (manager : Manager) (shared : Shared) (task : TaskId) :
    (expire (manager, shared) task).1.inFlight =
      manager.inFlight.filter (·.task.id != task) := by
  unfold expire
  dsimp only
  split
  · next none =>
      refine (List.filter_eq_self.2 fun entry mem => ?_).symm
      simpa using List.find?_eq_none.1 none entry mem
  · refine (inFlight_replace _ _).trans ((accounts_conclude _ _ _ _).inFlight.trans ?_)
    split <;> rfl

/-- Tasks that were started with are given up on one by one.  A task can occur more than once among
them; then it is no longer with the workers when its turn comes again. -/
theorem deals_foldl_expire {tasks : List TaskId}
    (started : ∀ task ∈ tasks, manager.flight? task = none ∨
      ∃ entry ∈ manager.inFlight, entry.task.id = task ∧ entry.startedAt ≠ none) :
    Relation.ReflTransGen Deal (manager, shared) (tasks.foldl expire (manager, shared)) := by
  induction tasks generalizing manager shared with
  | nil => exact .refl
  | cons task tasks induction =>
      have first : Relation.ReflTransGen Deal (manager, shared)
          (expire (manager, shared) task) := by
        rcases started task List.mem_cons_self with nobody | ⟨entry, flies, rfl, begun⟩
        · rw [expire, nobody]
        · exact .single (.expire flies begun)
      have without := inFlight_expire manager shared task
      rw [List.foldl_cons]
      generalize expire (manager, shared) task = state at first without ⊢
      obtain ⟨noted, others⟩ := state
      refine first.trans (induction fun later mem => ?_)
      rw [flight?, without, List.find?_eq_none]
      rcases started later (List.mem_cons_of_mem _ mem) with nobody | ⟨entry, flies, rfl, begun⟩
      · exact Or.inl fun entry among =>
          List.find?_eq_none.1 nobody entry (List.mem_filter.1 among).1
      · by_cases same : entry.task.id = task
        · refine Or.inl fun other among => ?_
          simpa [same] using (List.mem_filter.1 among).2
        · exact Or.inr ⟨entry, List.mem_filter.2 ⟨flies, bne_iff_ne.2 same⟩, rfl, begun⟩

theorem deals_inspect (manager : Manager) (shared : Shared) :
    Relation.ReflTransGen Deal (manager, shared) (manager.inspect shared) := by
  have received := deals_receiveMany shared.events.waiting.length manager shared
  unfold inspect
  dsimp only
  generalize receiveMany shared.events.waiting.length manager shared = state at received ⊢
  obtain ⟨noted, others⟩ := state
  refine (received.tail (.check (noted.supervisor.check others.now).2)).trans
    (deals_foldl_expire fun task mem => Or.inr ?_)
  obtain ⟨entry, among, rfl⟩ := List.mem_map.1 mem
  obtain ⟨flies, expired⟩ := List.mem_filter.1 among
  refine ⟨entry, flies, rfl, fun none => ?_⟩
  simp [isExpired, none] at expired

/-- An action of a manager that gives out tasks is a look at what is left to do and, unless the
manager turns to the end at that, some deals. -/
theorem deals_dispatch? (dispatched : manager.dispatch? shared action = some after) :
    Relation.ReflTransGen Deal (manager.turn shared) after ∧
      ((manager.turn shared).1.phase = .dispatching ∨ after = manager.turn shared) := by
  unfold dispatch? at dispatched
  dsimp only at dispatched
  split at dispatched
  · cases dispatched
    exact ⟨.refl, Or.inr rfl⟩
  · next still =>
      refine ⟨?_, Or.inl (Decidable.not_not.1 still)⟩
      cases action with
      | feed => exact .single (.feed dispatched)
      | receive => exact .single (.receive dispatched)
      | inspect =>
          cases dispatched
          exact deals_inspect _ _
      | look =>
          dsimp only at dispatched
          split at dispatched
          · cases dispatched
          · cases dispatched
            exact .refl
      | proceed => cases dispatched
      | giveUp => cases dispatched

/-- While the manager gives out tasks, its course is that of its look at what is left to do. -/
theorem course_dispatch? (dispatched : manager.dispatch? shared action = some after) :
    after.1.course = (manager.turn shared).1.course :=
  course_of_deals (deals_dispatch? dispatched).1

/-! ## Strides -/

/-- One stride of the manager, when the writers that have left have the given figures. -/
inductive Stride (stats : List WriterStats) : Manager × Shared → Manager × Shared → Prop
  /-- It deals with workers. -/
  | deal {before after : Manager × Shared} (dispatches : before.1.phase = .dispatching)
      (deal : Deal before after) : Stride stats before after
  /-- It notes that the job is interrupted. -/
  | interrupt {manager : Manager} {shared : Shared} (dispatches : manager.phase = .dispatching) :
      Stride stats (manager, shared)
        ({ manager with report := { manager.report with interrupted := true } }, shared)
  /-- It notes that nothing waits. -/
  | drain {manager : Manager} {shared : Shared} (dispatches : manager.phase = .dispatching) :
      Stride stats (manager, shared) (manager.beginDraining, shared)
  /-- It turns to the end, because of an interruption, for lack of work or for lack of workers. -/
  | turn {manager : Manager} {shared : Shared} (dispatches : manager.phase = .dispatching)
      (reason : manager.report.interrupted = true ∨ manager.hasWork = false ∨
        manager.workers = []) :
      Stride stats (manager, shared) (manager.beginShutdown shared)
  /-- It orders a worker to leave. -/
  | order {manager : Manager} {shared : Shared} {left : Nat} {tasks : Channel Command}
      (stops : manager.phase = .stopping (left + 1))
      (sent : shared.tasks.send? .stop = some tasks) :
      Stride stats (manager, shared)
        ({ manager with phase := .stopping left }, { shared with tasks := tasks })
  /-- It begins to wait for the workers. -/
  | wait {manager : Manager} {shared : Shared} {left : Nat}
      (stops : manager.phase = .stopping left) :
      Stride stats (manager, shared) ({ manager with phase := .collecting }, shared)
  /-- It takes an event while it waits for them. -/
  | collect {manager : Manager} {shared : Shared} {after : Manager × Shared}
      (collects : manager.phase = .collecting)
      (received : manager.receive? shared = some after) : Stride stats (manager, shared) after
  /-- It sends the workers away. -/
  | endWorkers {manager : Manager} {shared : Shared} (collects : manager.phase = .collecting) :
      Stride stats (manager, shared) (manager.endWorkers shared)
  /-- It asks a writer to leave. -/
  | dismiss {manager : Manager} {shared : Shared} {next : Nat} {inbox told : Inbox}
      (closes : manager.phase = .closing next) (found : shared.inboxes[next]? = some inbox)
      (sent : inbox.send? .shutdown = some told) :
      Stride stats (manager, shared)
        ({ manager with phase := .closing (next + 1) },
          { shared with inboxes := shared.inboxes.set next told })
  /-- It passes over a writer. -/
  | skip {manager : Manager} {shared : Shared} {next : Nat}
      (closes : manager.phase = .closing next) :
      Stride stats (manager, shared) ({ manager with phase := .closing (next + 1) }, shared)
  /-- It begins to wait for the writers. -/
  | await {manager : Manager} {shared : Shared} {next : Nat}
      (closes : manager.phase = .closing next) :
      Stride stats (manager, shared) ({ manager with phase := .awaiting }, shared)
  /-- It sends the writers away. -/
  | endWriters {manager : Manager} {shared : Shared} (awaits : manager.phase = .awaiting) :
      Stride stats (manager, shared) (manager.endWriters shared stats)

theorem strides_of_deals (dispatches : before.1.phase = .dispatching)
    (deals : Relation.ReflTransGen Deal before after) :
    Relation.ReflTransGen (Stride stats) before after := by
  induction deals with
  | refl => exact .refl
  | tail ran deal induction =>
      exact induction.tail (.deal ((congrArg Prod.fst (course_of_deals ran)).trans dispatches) deal)

theorem phase_beginDraining (manager : Manager) : manager.beginDraining.phase = manager.phase := by
  unfold beginDraining
  split <;> rfl

/-- A manager that gives out tasks turns to the workers' end before it is done. -/
theorem phase_turn (dispatches : manager.phase = .dispatching) (shared : Shared) :
    (manager.turn shared).1.phase = .dispatching ∨
      ∃ left, (manager.turn shared).1.phase = .stopping left := by
  unfold turn
  split
  · exact Or.inr ⟨_, rfl⟩
  · dsimp only
    split
    · exact Or.inr ⟨_, rfl⟩
    · exact Or.inl ((phase_beginDraining manager).trans dispatches)

theorem strides_turn (dispatches : manager.phase = .dispatching) (shared : Shared) :
    Relation.ReflTransGen (Stride stats) (manager, shared) (manager.turn shared) := by
  unfold turn
  split
  · exact .tail (.single (.interrupt dispatches)) (.turn dispatches (Or.inl rfl))
  · have drained : Relation.ReflTransGen (Stride stats) (manager, shared)
        (manager.beginDraining, shared) := .single (.drain dispatches)
    dsimp only
    split
    · next reason =>
        rw [Bool.or_eq_true, Bool.not_eq_true', List.isEmpty_iff] at reason
        exact drained.tail (.turn ((phase_beginDraining manager).trans dispatches) (Or.inr reason))
    · exact drained

theorem strides_dispatch? (dispatches : manager.phase = .dispatching)
    (dispatched : manager.dispatch? shared action = some after) :
    Relation.ReflTransGen (Stride stats) (manager, shared) after := by
  have turned : Relation.ReflTransGen (Stride stats) (manager, shared) (manager.turn shared) :=
    strides_turn dispatches shared
  obtain ⟨deals, still | rfl⟩ := deals_dispatch? dispatched
  · exact turned.trans (strides_of_deals still deals)
  · exact turned

theorem stride_stop? {left : Nat} (stops : manager.phase = .stopping left)
    (stopped : manager.stop? shared left action = some after) :
    Stride stats (manager, shared) after := by
  unfold stop? at stopped
  split at stopped
  · cases stopped
    exact .wait stops
  · obtain ⟨sent, ordered, same⟩ := Option.bind_eq_some_iff.1 stopped
    cases Option.some.inj same
    obtain ⟨tasks, sent, same⟩ := Option.bind_eq_some_iff.1 ordered
    cases Option.some.inj same
    exact .order stops sent
  · cases stopped
    exact .wait stops
  · cases stopped

theorem stride_collect? (collects : manager.phase = .collecting)
    (collected : manager.collect? shared action = some after) :
    Stride stats (manager, shared) after := by
  unfold collect? at collected
  split at collected
  · split at collected
    · cases collected
    · exact .collect collects collected
  · split at collected
    · cases collected
      exact .endWorkers collects
    · cases collected
  · cases collected
    exact .endWorkers collects
  · cases collected

theorem stride_close? {next : Nat} (closes : manager.phase = .closing next)
    (closed : manager.close? shared next action = some after) :
    Stride stats (manager, shared) after := by
  unfold close? at closed
  split at closed
  · cases closed
    exact .await closes
  · next inbox found =>
      dsimp only at closed
      split at closed
      · split at closed
        · cases closed
          exact .skip closes
        · obtain ⟨told, sent, same⟩ := Option.bind_eq_some_iff.1 closed
          cases Option.some.inj same
          exact .dismiss closes found sent
      · cases closed
        exact .skip closes
      · cases closed

theorem stride_await? (awaits : manager.phase = .awaiting)
    (awaited : manager.await? shared stats action = some after) :
    Stride stats (manager, shared) after := by
  unfold await? at awaited
  split at awaited
  · split at awaited
    · cases awaited
    · cases awaited
      exact .endWriters awaits
  · cases awaited
    exact .endWriters awaits
  · cases awaited

/-- Once the manager has turned to the end, each of its steps is one stride. -/
theorem stride_step? (turned : manager.phase ≠ .dispatching)
    (stepped : manager.step? shared stats action = some after) :
    Stride stats (manager, shared) after := by
  unfold step? at stepped
  split at stepped
  · cases stepped
  · split at stepped
    · next dispatches => exact absurd dispatches turned
    · next stops => exact stride_stop? stops stepped
    · next collects => exact stride_collect? collects stepped
    · next closes => exact stride_close? closes stepped
    · next awaits => exact stride_await? awaits stepped
    · cases stepped

theorem dispatch?_of_step? (dispatches : manager.phase = .dispatching)
    (stepped : manager.step? shared stats action = some after) :
    manager.dispatch? shared action = some after := by
  unfold step? at stepped
  split at stepped
  · cases stepped
  · rwa [dispatches] at stepped

/-- A step of the manager is made of strides. -/
theorem strides_step? (stepped : manager.step? shared stats action = some after) :
    Relation.ReflTransGen (Stride stats) (manager, shared) after := by
  by_cases dispatches : manager.phase = .dispatching
  · exact strides_dispatch? dispatches (dispatch?_of_step? dispatches stepped)
  · exact .single (stride_step? dispatches stepped)

end Manager

end PartsList
