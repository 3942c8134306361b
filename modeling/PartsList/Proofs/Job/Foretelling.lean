import PartsList.Proofs.Job.Forecast
import PartsList.Proofs.Job.Standing

/-!
# Attempts follow what is to be expected

Whoever has the task at hand, what an attempt at a file comes to is settled before it is made: the
next attempt is made when the engine has been asked for the file as often as the attempts before it
asked.  So the final outcome of a file is that of the last attempt that it was to get, on whatever
course of the threads.
-/

namespace PartsList

open ExtractionResult Manager

namespace System

/-- Attempts at a file that are on their way follow what is to be expected of it. -/
structure Followed (system : System) (prospect : Prospect) : Prop where
  /-- Attempts that wait are the next ones. -/
  fresh : ∀ task ∈ system.manager.pending ++ tasksOf system.shared.tasks.waiting,
    task.path = prospect.path →
      prospect.Reaches task.attempt (system.shared.loads.times prospect.path)
  /-- So are those that workers have taken but not made. -/
  begun : ∀ worker ∈ system.workers, ∀ task started,
    worker.phase = .announcing task started ∨ worker.phase = .processing task started →
      task.path = prospect.path →
        prospect.Reaches task.attempt (system.shared.loads.times prospect.path)
  /-- Results that workers are about to deliver were foreseen, -/
  done : ∀ worker ∈ system.workers, ∀ task started result,
    worker.phase = .delivering task started result →
    task.path = prospect.path →
      prospect.Foresees task.attempt (system.shared.loads.times prospect.path) result
  /-- and those of which the manager is told. -/
  told : ∀ outcome ∈ system.outcomes, outcome.delivery ≠ .withheld →
    ∀ entry ∈ system.manager.inFlight, entry.task.id = outcome.task →
      entry.task.path = prospect.path →
        prospect.Foresees entry.task.attempt (system.shared.loads.times prospect.path)
          outcome.result
  /-- Attempts that nobody has at hand have taken a worker down. -/
  lost : ∀ entry ∈ system.manager.inFlight, entry.task.path = prospect.path →
    entry.task.id ∉ system.attempts → entry.task ∉ tasksOf system.shared.tasks.waiting →
      prospect.Foresees entry.task.attempt (system.shared.loads.times prospect.path)
        ((orphanResult prospect.path).withAttempt entry.task.attempt)

/-- What becomes of a file follows what is to be expected of it. -/
structure Foretold (system : System) (prospect : Prospect) : Prop where
  /-- The same results earn another attempt. -/
  retry : system.manager.settings.retry = prospect.retry
  /-- Final outcomes are those of the last attempt. -/
  settled : ∀ recorded ∈ system.manager.history, recorded.final = true →
    recorded.task.path = prospect.path → prospect.EndsWith recorded.outcome.result
  /-- Workers are at tasks that count as with the workers, -/
  flying : ∀ worker ∈ system.workers, ∀ task, worker.phase.work? = some task →
    ∃ entry ∈ system.manager.inFlight, entry.task = task
  /-- and so do the tasks in the workers' queue. -/
  queued : ∀ task ∈ tasksOf system.shared.tasks.waiting,
    ∃ entry ∈ system.manager.inFlight, entry.task = task
  /-- The manager takes workers to be doing what they do, -/
  roster : system.manager.isClosed = false → system.Roster
  /-- and attempts follow what is to be expected. -/
  followed : system.manager.isClosed = false → system.Followed prospect

variable {system : System} {prospect : Prospect} {before next : Manager × Shared}
  {manager noted : Manager} {shared others : Shared} {taken : List TaskId} {selected : List Path}

/-! ## The manager's acts -/

/-- The manager may move tasks. -/
theorem Followed.manage (followed : (system.withManager before).Followed prospect)
    (events : next.2.events.waiting <:+ before.2.events.waiting)
    (loads : next.2.loads = before.2.loads)
    (tasks : ∀ task ∈ next.1.pending ++ tasksOf next.2.tasks.waiting,
      task ∈ before.1.pending ++ tasksOf before.2.tasks.waiting ∨
        (task.path = prospect.path →
          prospect.Reaches task.attempt (before.2.loads.times prospect.path)))
    (inFlight : ∀ entry ∈ next.1.inFlight,
      (∃ old ∈ before.1.inFlight, old.task = entry.task) ∨
        entry.task ∈ tasksOf next.2.tasks.waiting ∧
          entry.task.id ∉ (system.withManager before).attempts)
    (lost : ∀ entry ∈ next.1.inFlight, entry.task.id ∉ (system.withManager next).attempts →
      entry.task ∉ tasksOf next.2.tasks.waiting →
        entry.task.id ∉ (system.withManager before).attempts ∧
          entry.task ∉ tasksOf before.2.tasks.waiting) :
    (system.withManager next).Followed prospect where
  fresh := by
    intro task mem about
    rw [show (system.withManager next).shared.loads = _ from loads]
    exact (tasks task mem).elim (fun known => followed.fresh task known about) fun new => new about
  begun := by
    rw [show (system.withManager next).shared.loads = _ from loads]
    exact followed.begun
  done := by
    rw [show (system.withManager next).shared.loads = _ from loads]
    exact followed.done
  told := by
    rw [show (system.withManager next).shared.loads = _ from loads]
    intro outcome mem delivered entry inside same about
    have among : outcome ∈ (system.withManager before).outcomes :=
      (List.Sublist.append_left (events.sublist.filterMap _) _).subset mem
    rcases inFlight entry inside with ⟨old, there, unchanged⟩ | ⟨-, nobody⟩
    · rw [← unchanged] at same about ⊢
      exact followed.told outcome among delivered old there same about
    · exact absurd (same ▸ mem_attempts_of_outcome among) nobody
  lost := by
    rw [show (system.withManager next).shared.loads = _ from loads]
    intro entry inside about nobody apart
    obtain ⟨free, unqueued⟩ := lost entry inside nobody apart
    rcases inFlight entry inside with ⟨old, there, unchanged⟩ | ⟨waits, -⟩
    · rw [← unchanged] at about free unqueued ⊢
      exact followed.lost old there about free unqueued
    · exact absurd waits apart

/-- What has nothing to do with tasks may change. -/
theorem Foretold.note (foretold : (system.withManager before).Foretold prospect)
    (unmoved : Unmoved before next) : (system.withManager next).Foretold prospect where
  retry := (congrArg Settings.retry unmoved.settings).trans foretold.retry
  settled := by
    rw [show (system.withManager next).manager.history = _ from unmoved.history]
    exact foretold.settled
  flying := by
    rw [show (system.withManager next).manager.inFlight = _ from unmoved.inFlight]
    exact foretold.flying
  queued := by
    rw [show tasksOf (system.withManager next).shared.tasks.waiting = _ from unmoved.queue,
      show (system.withManager next).manager.inFlight = _ from unmoved.inFlight]
    exact foretold.queued
  roster := by
    intro working
    obtain ⟨worked, workers, events⟩ := unmoved.works working
    refine (foretold.roster worked).move workers events (Nat.le_of_eq unmoved.nextTask.symm) ?_
    rw [unmoved.pending, unmoved.queue]
    exact fun _ => Or.inl
  followed := by
    intro working
    obtain ⟨worked, -, events⟩ := unmoved.works working
    refine (foretold.followed worked).manage (events ▸ List.suffix_rfl) unmoved.loads ?_ ?_ ?_
    · rw [unmoved.pending, unmoved.queue]
      exact fun _ => Or.inl
    · rw [unmoved.inFlight]
      exact fun entry mem => Or.inl ⟨entry, mem, rfl⟩
    · intro entry _ nobody apart
      refine ⟨?_, unmoved.queue ▸ apart⟩
      rw [attempts, withManager, events] at nobody
      exact nobody

theorem Foretold.feed? (foretold : (system.withManager (manager, shared)).Foretold prospect)
    (books : manager.Consistent shared taken [] selected)
    (known : ∀ worker ∈ system.workers, worker.phase.Known taken)
    (fed : manager.feed? shared = some next) : (system.withManager next).Foretold prospect := by
  have working := books.working
  obtain ⟨task, rest, tasks, waits, sent, rfl⟩ := eq_of_feed? fed
  have queue : tasksOf tasks.waiting = tasksOf shared.tasks.waiting ++ [task] :=
    tasksOf_of_send? sent
  have moved : ∀ other ∈ rest ++ tasksOf tasks.waiting,
      other ∈ manager.pending ++ tasksOf shared.tasks.waiting := by
    intro other mem
    rw [queue] at mem
    rw [waits]
    simp only [List.mem_append, List.mem_cons, List.not_mem_nil] at mem ⊢
    tauto
  have fresh : task.id ∉ (system.withManager (manager, shared)).attempts := by
    intro mem
    refine books.takenNotPending task (waits ▸ List.mem_cons_self) ?_
    exact @attempts_subset (system.withManager (manager, shared)) selected taken books known _ mem
  have still {id : Task} (there : ∃ entry ∈ manager.inFlight, entry.task = id) :
      ∃ entry ∈ manager.inFlight ++ [{ task := task }], entry.task = id := by
    obtain ⟨entry, mem, same⟩ := there
    exact ⟨entry, List.mem_append_left _ mem, same⟩
  refine ⟨foretold.retry, foretold.settled, fun worker mem id work =>
    still (foretold.flying worker mem id work), ?_, fun _ => ?_, fun _ => ?_⟩
  · intro other mem
    change other ∈ tasksOf tasks.waiting at mem
    rw [queue] at mem
    rcases List.mem_append.1 mem with mem | mem
    · exact still (foretold.queued other mem)
    · rw [List.mem_singleton.1 mem]
      exact ⟨{ task := task }, List.mem_append_right _ List.mem_cons_self, rfl⟩
  · exact (foretold.roster working).move rfl rfl (Nat.le_refl _) fun other mem =>
      Or.inl (moved other mem)
  · refine (foretold.followed working).manage List.suffix_rfl rfl
      (fun other mem => Or.inl (moved other mem)) ?_ ?_
    · intro entry mem
      rcases List.mem_append.1 mem with mem | mem
      · exact Or.inl ⟨entry, mem, rfl⟩
      · rw [List.mem_singleton.1 mem]
        refine Or.inr ⟨?_, fresh⟩
        change task ∈ tasksOf tasks.waiting
        rw [queue]
        exact List.mem_append_right _ List.mem_cons_self
    · intro entry _ nobody apart
      refine ⟨nobody, fun mem => apart ?_⟩
      change entry.task ∈ tasksOf tasks.waiting
      rw [queue]
      exact List.mem_append_left _ mem

/-- The manager may take back what no worker has taken. -/
theorem Foretold.takeBack (foretold : (system.withManager (manager, shared)).Foretold prospect)
    (books : manager.Consistent shared taken [] selected)
    (known : ∀ worker ∈ system.workers, worker.phase.Known taken) :
    (system.withManager (manager.beginShutdown shared)).Foretold prospect := by
  have working := books.working
  have moved : ∀ task ∈ (manager.pending ++ tasksOf shared.tasks.waiting) ++ tasksOf [],
      task ∈ manager.pending ++ tasksOf shared.tasks.waiting := by
    intro task mem
    exact (List.mem_append.1 mem).resolve_right List.not_mem_nil
  refine ⟨foretold.retry, foretold.settled, ?_, fun _ mem => absurd mem List.not_mem_nil,
    fun _ => ?_, fun _ => ?_⟩
  · intro worker mem task work
    obtain ⟨entry, inside, same⟩ := foretold.flying worker mem task work
    refine ⟨entry, List.mem_filter.2 ⟨inside, ?_⟩, same⟩
    simp only [Bool.not_eq_true', List.any_eq_false, beq_iff_eq]
    intro back waits alike
    refine books.takenNotQueued back waits ?_
    rw [alike, same]
    refine @attempts_subset (system.withManager (manager, shared)) selected taken books known _ ?_
    exact mem_attempts_of_work mem work
  · exact (foretold.roster working).move rfl rfl (Nat.le_refl _) fun task mem =>
      Or.inl (moved task mem)
  · refine (foretold.followed working).manage List.suffix_rfl rfl
      (fun task mem => Or.inl (moved task mem)) ?_ ?_
    · exact fun entry mem => Or.inl ⟨entry, (List.mem_filter.1 mem).1, rfl⟩
    · intro entry mem nobody _
      refine ⟨nobody, fun waits => ?_⟩
      have apart := (List.mem_filter.1 mem).2
      simp only [Bool.not_eq_true', List.any_eq_false, beq_iff_eq] at apart
      exact apart entry.task waits rfl

/-! ### Events -/

/-- The manager may take an event and take back the task that it tells of. -/
theorem Foretold.hear (foretold : (system.withManager (manager, shared)).Foretold prospect)
    (books : manager.Consistent shared taken [] selected) {event : WorkerEvent}
    {rest : Channel WorkerEvent} (waiting : shared.events.waiting = event :: rest.waiting)
    (listens : rest.receiverGone = shared.events.receiverGone)
    (same : (noted.settings, noted.history, noted.pending, noted.nextTask, noted.phase) =
      (manager.settings, manager.history, manager.pending, manager.nextTask, manager.phase))
    (slots : ∀ slot ∈ noted.workers, ∃ old ∈ manager.workers, old.worker = slot.worker ∧
      if event.worker = slot.worker then
        Standing.works slot.current = (Standing.works old.current).hear event
      else slot.current = old.current)
    (inFlight : ∀ task, (∃ entry ∈ noted.inFlight, entry.task = task) ↔
      (∃ entry ∈ manager.inFlight, entry.task = task) ∧
        ∀ outcome, event.outcome? = some outcome → task.id ≠ outcome.task) :
    (system.withManager (noted, { shared with events := rest })).Foretold prospect := by
  simp only [Prod.mk.injEq] at same
  obtain ⟨settings, history, pending, nextTask, phase⟩ := same
  have working := books.working
  have roster := foretold.roster working
  have tells {outcome : Outcome} (told : event.outcome? = some outcome) :
      outcome ∈ outcomesOf shared.events.waiting := by
    rw [waiting]
    exact List.mem_filterMap.2 ⟨event, List.mem_cons_self, told⟩
  have suffix : rest.waiting <:+ shared.events.waiting := waiting ▸ List.suffix_cons _ _
  refine ⟨(congrArg Settings.retry settings).trans foretold.retry, ?_, ?_, ?_, fun _ => ?_,
    fun _ => ?_⟩
  · rw [show (system.withManager (noted, { shared with events := rest })).manager.history = _ from
      history]
    exact foretold.settled
  · intro worker mem task work
    refine (inFlight task).2 ⟨foretold.flying worker mem task work, fun outcome told alike => ?_⟩
    have once := roster.once
    rw [attempts, List.nodup_append] at once
    refine once.2.2 task.id ?_ outcome.task (List.mem_map_of_mem (tells told)) alike
    exact List.mem_filterMap.2 ⟨worker, mem, WorkerPhase.task?_of_work? work⟩
  · intro task mem
    refine (inFlight task).2 ⟨foretold.queued task mem, fun outcome told alike => ?_⟩
    have credible := books.told event (by rw [waiting]; exact List.mem_cons_self)
    cases event with
    | finished =>
        cases told
        exact books.takenNotQueued task mem (alike ▸ credible.1)
    | heartbeat | started | exited => cases told
  · exact roster.hear waiting listens pending nextTask slots
  · refine (foretold.followed working).manage suffix rfl ?_ ?_ ?_
    · dsimp only
      rw [pending]
      exact fun _ => Or.inl
    · exact fun entry mem => Or.inl ((inFlight entry.task).1 ⟨entry, mem, rfl⟩).1
    · intro entry mem nobody apart
      refine ⟨fun held => ?_, apart⟩
      have handled := ((inFlight entry.task).1 ⟨entry, mem, rfl⟩).2
      rcases List.mem_append.1 held with held | held
      · exact nobody (List.mem_append_left _ held)
      · obtain ⟨outcome, told, alike⟩ := List.mem_map.1 held
        obtain ⟨other, among, known⟩ := List.mem_filterMap.1 told
        rw [withManager, waiting] at among
        rcases List.mem_cons.1 among with rfl | among
        · exact handled outcome known alike.symm
        · refine nobody (List.mem_append_right _ (List.mem_map.2 ⟨outcome, ?_, alike⟩))
          exact List.mem_filterMap.2 ⟨other, among, known⟩

/-- The manager may take back a lost task. -/
theorem Foretold.land (foretold : (system.withManager (manager, shared)).Foretold prospect)
    (working : manager.isClosed = false) {id : TaskId}
    (lost : (system.withManager (manager, shared)).Lost id) :
    (system.withManager (manager.land id, shared)).Foretold prospect := by
  have kept {task : Task} (there : ∃ entry ∈ manager.inFlight, entry.task = task)
      (other : task.id ≠ id) : ∃ entry ∈ (manager.land id).inFlight, entry.task = task := by
    obtain ⟨entry, mem, rfl⟩ := there
    exact ⟨entry, List.mem_filter.2 ⟨mem, by simpa using other⟩, rfl⟩
  refine ⟨foretold.retry, foretold.settled, ?_, ?_, fun _ => ?_, fun _ => ?_⟩
  · intro worker mem task work
    exact kept (foretold.flying worker mem task work) fun same =>
      lost.attempts (same ▸ mem_attempts_of_work mem work)
  · intro task mem
    exact kept (foretold.queued task mem) (lost.waits task (List.mem_append_right _ mem))
  · exact (foretold.roster working).move rfl rfl (Nat.le_refl _) fun _ => Or.inl
  · refine (foretold.followed working).manage List.suffix_rfl rfl (fun _ => Or.inl) ?_
      fun _ _ nobody apart => ⟨nobody, apart⟩
    exact fun entry mem => Or.inl ⟨entry, (List.mem_filter.1 mem).1, rfl⟩

end System

namespace Manager

variable {manager : Manager} {shared : Shared} {task : Task} {outcome : Outcome}

/-- An outcome is accounted for by another attempt or as the last word on its file. -/
theorem record_cases (manager : Manager) (shared : Shared) (task : Task) (outcome : Outcome) :
    let again := !outcome.result.success && manager.earnsRetry task outcome.result.errorCode
    let after := manager.record shared task outcome
    after.1.history = ⟨task, outcome, !again⟩ :: manager.history ∧
      after.2.tasks = shared.tasks ∧ after.2.loads = shared.loads ∧
        if again then
          after.1.pending = manager.pending ++ [task.next manager.nextTask] ∧
            after.1.nextTask = manager.nextTask + 1
        else after.1.pending = manager.pending ∧ after.1.nextTask = manager.nextTask := by
  simp only [record]
  split
  · next again =>
      rw [again]
      exact ⟨rfl, rfl, rfl, rfl, rfl⟩
  · next last =>
      rw [Bool.eq_false_iff.2 last]
      unfold saveIfDue
      split <;> exact ⟨rfl, rfl, rfl, rfl, rfl⟩

end Manager

namespace System

variable {system : System} {prospect : Prospect} {before next : Manager × Shared}
  {manager noted : Manager} {shared : Shared} {taken : List TaskId} {selected : List Path}

/-- The manager may account for an outcome whose result was foreseen. -/
theorem Foretold.record (foretold : (system.withManager (manager, shared)).Foretold prospect)
    (working : manager.isClosed = false) {task : Task} {outcome : Outcome}
    (foreseen : task.path = prospect.path →
      prospect.Foresees task.attempt (shared.loads.times prospect.path) outcome.result) :
    (system.withManager (manager.record shared task outcome)).Foretold prospect := by
  have accounts := manager.accounts_record shared task outcome
  have cases' := manager.record_cases shared task outcome
  dsimp only at cases'
  -- The manager lets the same results earn another attempt as is to be expected.
  have earns (about : task.path = prospect.path) :
      (!outcome.result.success && manager.earnsRetry task outcome.result.errorCode) =
        prospect.retry.again outcome.result := by
    have retry : manager.settings.retry = prospect.retry := foretold.retry
    rw [RetryPolicy.again, (foreseen about).attempt_eq, ← retry]
    rfl
  have next (about : task.path = prospect.path) := (foreseen about).next
  generalize (!outcome.result.success && manager.earnsRetry task outcome.result.errorCode) = again
    at cases' earns
  generalize manager.record shared task outcome = after at accounts cases' ⊢
  obtain ⟨history, tasks, loads, waits⟩ := cases'
  have moved : manager.nextTask ≤ after.1.nextTask ∧
      ∀ other ∈ after.1.pending ++ tasksOf after.2.tasks.waiting,
        other ∈ manager.pending ++ tasksOf shared.tasks.waiting ∨
          other = task.next manager.nextTask ∧ again = true := by
    rw [tasks]
    cases again with
    | false =>
        obtain ⟨pending, nextTask⟩ := waits
        rw [pending, nextTask]
        exact ⟨Nat.le_refl _, fun _ => Or.inl⟩
    | true =>
        obtain ⟨pending, nextTask⟩ := waits
        rw [pending, nextTask]
        refine ⟨Nat.le_succ _, fun other mem => ?_⟩
        simp only [List.mem_append, List.mem_singleton] at mem ⊢
        tauto
  refine ⟨(congrArg Settings.retry accounts.settings).trans foretold.retry, ?_, ?_, ?_, fun _ => ?_,
    fun _ => ?_⟩
  · intro recorded mem final about
    change recorded ∈ after.1.history at mem
    rw [history] at mem
    rcases List.mem_cons.1 mem with rfl | mem
    · have last : prospect.retry.again outcome.result = false := by
        rw [← earns about]
        simpa using final
      have ends := next about
      rwa [if_neg (Bool.eq_false_iff.1 last)] at ends
    · exact foretold.settled recorded mem final about
  · rw [show (system.withManager after).manager.inFlight = _ from accounts.inFlight]
    exact foretold.flying
  · rw [show (system.withManager after).manager.inFlight = _ from accounts.inFlight,
      show (system.withManager after).shared.tasks = _ from tasks]
    exact foretold.queued
  · refine (foretold.roster working).move accounts.workers accounts.events moved.1
      fun other mem => ?_
    refine (moved.2 other mem).imp_right ?_
    rintro ⟨rfl, -⟩
    exact Nat.le_refl _
  · refine (foretold.followed working).manage (accounts.events ▸ List.suffix_rfl) loads ?_ ?_ ?_
    · intro other mem
      refine (moved.2 other mem).imp_right ?_
      rintro ⟨rfl, rfl⟩ about
      have earned : prospect.retry.again outcome.result = true := (earns about).symm
      have reaches := next about
      rwa [if_pos earned] at reaches
    · rw [accounts.inFlight]
      exact fun entry mem => Or.inl ⟨entry, mem, rfl⟩
    · intro entry _ nobody apart
      rw [attempts, withManager, accounts.events] at nobody
      exact ⟨nobody, tasks ▸ apart⟩

/-- The manager may conclude with a result that was foreseen. -/
theorem Foretold.conclude (foretold : (system.withManager (manager, shared)).Foretold prospect)
    (working : manager.isClosed = false) {task : Task} {result : ExtractionResult}
    (foreseen : task.path = prospect.path →
      prospect.Foresees task.attempt (shared.loads.times prospect.path)
        (result.withAttempt task.attempt)) :
    (system.withManager (manager.conclude shared task result)).Foretold prospect := by
  obtain ⟨routed, same⟩ := exists_conclude manager shared task result
  rw [same]
  -- Sending a result moves no task.
  have sent : (system.withManager ({ manager with spill := routed.spill },
      shared.afterRouting routed)).Foretold prospect :=
    { foretold with
      roster := fun _ => (foretold.roster working).move rfl rfl (Nat.le_refl _) fun _ => Or.inl
      followed := fun _ => (foretold.followed working).manage List.suffix_rfl rfl (fun _ => Or.inl)
        (fun entry mem => Or.inl ⟨entry, mem, rfl⟩) fun _ _ nobody apart => ⟨nobody, apart⟩ }
  exact sent.record working foreseen

theorem Foretold.spawn (foretold : (system.withManager (manager, shared)).Foretold prospect)
    (hired : ∀ worker ∈ system.workers, worker.id < manager.nextWorker) :
    (system.withManager (manager.spawn shared)).Foretold prospect := by
  have roster (working : manager.isClosed = false) := (foretold.roster working).spawn hired
  unfold Manager.spawn at roster ⊢
  split
  · next refused =>
      rw [if_pos refused] at roster
      exact
        { foretold with
          roster := roster
          followed := fun working => (foretold.followed working).manage List.suffix_rfl rfl
            (fun _ => Or.inl) (fun entry mem => Or.inl ⟨entry, mem, rfl⟩)
            fun _ _ nobody apart => ⟨nobody, apart⟩ }
  · next granted =>
      rw [if_neg granted] at roster
      exact
        { foretold with
          roster := roster
          followed := fun working => (foretold.followed working).manage List.suffix_rfl rfl
            (fun _ => Or.inl) (fun entry mem => Or.inl ⟨entry, mem, rfl⟩)
            fun _ _ nobody apart => ⟨nobody, apart⟩ }

theorem Foretold.replace (foretold : (system.withManager (manager, shared)).Foretold prospect)
    (hired : ∀ worker ∈ system.workers, worker.id < manager.nextWorker) :
    (system.withManager (manager.replace shared)).Foretold prospect := by
  unfold Manager.replace
  split
  · exact foretold
  · exact foretold.spawn hired

/-- The manager has recorded no timeout. -/
def Untimed (history : List Recorded) : Prop :=
  ∀ recorded ∈ history, recorded.outcome.result.errorCode ≠ .timeout

theorem not_untimed_of_concludeTimeout {entry : InFlight} {history : List Recorded}
    (later : (manager.concludeTimeout shared entry).1.history ⊆ history) : ¬ Untimed history := by
  unfold Manager.concludeTimeout at later
  obtain ⟨routed, same⟩ := exists_conclude manager shared entry.task
    (manager.timeoutResult entry shared.now)
  rw [same] at later
  obtain ⟨recorded, -⟩ := { manager with spill := routed.spill }.record_cases
    (shared.afterRouting routed) entry.task _
  rw [recorded, List.cons_subset] at later
  exact fun untimed => untimed _ later.1 rfl

theorem Foretold.onFinished (foretold : (system.withManager (manager, shared)).Foretold prospect)
    (books : manager.Consistent shared taken [] selected) {worker : WorkerId} {outcome : Outcome}
    {rest : Channel WorkerEvent}
    (waiting : shared.events.waiting = .finished worker outcome :: rest.waiting)
    (listens : rest.receiverGone = shared.events.receiverGone)
    (untimed :
      Untimed (manager.onFinished { shared with events := rest } worker outcome).1.history) :
    (system.withManager (manager.onFinished { shared with events := rest } worker outcome)).Foretold
      prospect := by
  have working := books.working
  have heard {noted : Manager}
    (same : (noted.settings, noted.history, noted.pending, noted.nextTask,
      noted.phase, noted.workers) =
        (manager.settings, manager.history, manager.pending, manager.nextTask, manager.phase,
          ((manager.hear worker shared.now).changeSlot worker fun slot =>
            if slot.current = some outcome.task then { slot with current := none }
            else slot).workers))
      (inFlight : ∀ entry, entry ∈ noted.inFlight ↔
        entry ∈ manager.inFlight ∧ entry.task.id ≠ outcome.task) :
      (system.withManager (noted, { shared with events := rest })).Foretold prospect := by
    simp only [Prod.mk.injEq] at same
    obtain ⟨settings, history, pending, nextTask, phase, workers⟩ := same
    refine foretold.hear books waiting listens
      (by rw [settings, history, pending, nextTask, phase]) ?_ fun task => ?_
    · intro slot mem
      rw [workers] at mem
      obtain ⟨old, there, changed⟩ := List.mem_map.1 mem
      by_cases mine : old.worker = worker
      · rw [if_pos (beq_iff_eq.2 mine)] at changed
        dsimp only at changed
        split at changed
        all_goals
          next current =>
            subst slot
            refine ⟨old, there, rfl, ?_⟩
            rw [if_pos
              (show (WorkerEvent.finished worker outcome).worker = old.worker from mine.symm)]
            simp [Standing.hear, current]
      · rw [if_neg (mt beq_iff_eq.1 mine)] at changed
        subst slot
        refine ⟨old, there, rfl, ?_⟩
        rw [if_neg
          (show (WorkerEvent.finished worker outcome).worker ≠ old.worker from Ne.symm mine)]
    · constructor
      · rintro ⟨entry, mem, rfl⟩
        obtain ⟨inside, other⟩ := (inFlight entry).1 mem
        refine ⟨⟨entry, inside, rfl⟩, fun told same => ?_⟩
        cases same
        exact other
      · rintro ⟨⟨entry, inside, rfl⟩, other⟩
        exact ⟨entry, (inFlight entry).2 ⟨inside, other outcome rfl⟩, rfl⟩
  unfold Manager.onFinished at untimed ⊢
  dsimp only at untimed ⊢
  split
  · next none =>
      refine heard rfl fun entry => ⟨fun mem => ⟨mem, fun same => ?_⟩, fun mem => mem.1⟩
      have found := List.find?_eq_none.1 none entry mem
      exact found (beq_iff_eq.2 same)
  · next entry found =>
      rw [found] at untimed
      dsimp only at untimed
      obtain ⟨inside, same⟩ := Manager.flight?_eq_some found
      have landed := @heard (((manager.hear worker shared.now).changeSlot worker fun slot =>
          if slot.current = some outcome.task then { slot with current := none }
          else slot).land outcome.task) rfl fun entry => by
        simp only [Manager.land, List.mem_filter, bne_iff_ne]
        exact Iff.rfl
      split
      · next withheld =>
          rw [if_pos withheld] at untimed
          exact absurd untimed (not_untimed_of_concludeTimeout (List.Subset.refl _))
      · next delivered =>
          refine landed.record working fun about => ?_
          refine (foretold.followed working).told outcome ?_ delivered entry inside same about
          refine List.mem_append_right _ ?_
          rw [withManager, waiting]
          exact List.mem_filterMap.2 ⟨_, List.mem_cons_self, rfl⟩

theorem Foretold.onExited (foretold : (system.withManager (manager, shared)).Foretold prospect)
    (books : manager.Consistent shared taken [] selected)
    (hired : ∀ worker ∈ system.workers, worker.id < manager.nextWorker) {worker : WorkerId}
    {rest : Channel WorkerEvent} (waiting : shared.events.waiting = .exited worker :: rest.waiting)
    (listens : rest.receiverGone = shared.events.receiverGone) :
    (system.withManager (manager.onExited { shared with events := rest } worker)).Foretold
      prospect := by
  have working := books.working
  have same : ∀ task, (∃ entry ∈ manager.inFlight, entry.task = task) ↔
      (∃ entry ∈ manager.inFlight, entry.task = task) ∧
        ∀ outcome, (WorkerEvent.exited worker).outcome? = some outcome → task.id ≠ outcome.task :=
    fun task => ⟨fun there => ⟨there, fun _ none => nomatch none⟩, fun there => there.1⟩
  unfold Manager.onExited
  split
  · next none =>
      refine foretold.hear books waiting listens rfl (fun slot mem => ⟨slot, mem, rfl, ?_⟩) same
      rw [if_neg]
      intro mine
      exact List.find?_eq_none.1 none slot mem (beq_iff_eq.2 mine.symm)
  · next slot found =>
      have number : slot.worker = worker := by
        have same := List.find?_some found
        exact beq_iff_eq.1 same
      have mem := List.mem_of_find?_eq_some found
      have left := @Foretold.hear system prospect manager
        { manager with
          workers := manager.workers.filter (·.worker != worker)
          supervisor := manager.supervisor.remove worker } shared taken selected foretold books _ _
        waiting listens rfl (fun other mem => ⟨other, (List.mem_filter.1 mem).1, rfl, by
          rw [if_neg]
          intro mine
          exact bne_iff_ne.1 (List.mem_filter.1 mem).2 mine.symm⟩) same
      have concluded : (system.withManager
          (Manager.concludeOrphan
            { manager with
              workers := manager.workers.filter (·.worker != worker)
              supervisor := manager.supervisor.remove worker }
            { shared with events := rest } slot)).Foretold prospect := by
        unfold Manager.concludeOrphan
        split
        · exact left
        · next entry flies =>
            obtain ⟨id, current, flies⟩ := Option.bind_eq_some_iff.1 flies
            obtain ⟨inside, rfl⟩ := Manager.flight?_eq_some flies
            have lost := (foretold.roster working).lost waiting mem number current
            have still : (system.withManager
                ({ manager with
                    workers := manager.workers.filter (·.worker != worker)
                    supervisor := manager.supervisor.remove worker },
                  { shared with events := rest })).Lost entry.task.id :=
              @Lost.manage system (manager, shared) (_, _) entry.task.id lost
                (waiting ▸ List.suffix_cons _ _) (Nat.le_refl _) fun _ => Or.inl
            refine (left.land working still).conclude working fun about => ?_
            rw [about]
            refine (foretold.followed working).lost entry inside about lost.attempts fun waits => ?_
            exact lost.waits entry.task (List.mem_append_right _ waits) rfl
      dsimp only
      split
      · refine concluded.replace fun worker mem => Nat.lt_of_lt_of_le (hired worker mem) ?_
        split
        · exact Nat.le_refl _
        · refine Nat.le_trans ?_ (keeps_conclude _ _ _ _).2
          exact Nat.le_refl _
      · exact concluded

theorem Foretold.receive? (foretold : (system.withManager (manager, shared)).Foretold prospect)
    (books : manager.Consistent shared taken [] selected)
    (hired : ∀ worker ∈ system.workers, worker.id < manager.nextWorker)
    (received : manager.receive? shared = some next) (untimed : Untimed next.1.history) :
    (system.withManager next).Foretold prospect := by
  obtain ⟨event, rest, waiting, rfl⟩ := eq_of_receive? received
  let events : Channel WorkerEvent := { shared.events with waiting := rest }
  have listens : events.receiverGone = shared.events.receiverGone := rfl
  cases event with
  | heartbeat worker time =>
      refine @Foretold.hear system prospect manager (manager.hear worker time) shared taken selected
        foretold books _ _ waiting listens rfl (fun slot mem => ⟨slot, mem, rfl, ?_⟩) fun task => ?_
      · split <;> rfl
      · exact ⟨fun there => ⟨there, fun _ none => nomatch none⟩, fun there => there.1⟩
  | started worker task time =>
      refine @Foretold.hear system prospect manager
        (manager.onStarted worker task time) shared taken
        selected foretold books _ _ waiting listens rfl (fun slot mem => ?_) fun other => ?_
      · obtain ⟨old, there, rfl⟩ := List.mem_map.1 mem
        by_cases mine : old.worker = worker
        · rw [if_pos (beq_iff_eq.2 mine)]
          refine ⟨old, there, rfl, ?_⟩
          rw [if_pos
            (show (WorkerEvent.started worker task time).worker = old.worker from mine.symm)]
          rfl
        · rw [if_neg (mt beq_iff_eq.1 mine)]
          refine ⟨old, there, rfl, ?_⟩
          rw [if_neg (show (WorkerEvent.started worker task time).worker ≠ old.worker from
            Ne.symm mine)]
      · refine ⟨fun ⟨entry, mem, about⟩ => ⟨?_, fun _ none => nomatch none⟩, fun there => ?_⟩
        · obtain ⟨old, inside, rfl⟩ := List.mem_map.1 mem
          refine ⟨old, inside, about ▸ ?_⟩
          split <;> rfl
        · obtain ⟨old, inside, about⟩ := there.1
          refine ⟨_, List.mem_map_of_mem inside, about ▸ ?_⟩
          split <;> rfl
  | finished worker outcome => exact foretold.onFinished books waiting listens untimed
  | exited worker => exact foretold.onExited books hired waiting listens

/-- No act of the manager gets in the way of what is to be expected, if it records no timeout. -/
theorem Foretold.act (foretold : (system.withManager before).Foretold prospect)
    (known : ∀ worker ∈ system.workers, worker.phase.Known taken)
    (hired : ∀ worker ∈ system.workers, worker.id < before.1.nextWorker)
    (act : Act taken selected before next) (untimed : Untimed next.1.history) :
    (system.withManager next).Foretold prospect := by
  cases act with
  | receive books received => exact foretold.receive? books hired received untimed
  | feed books fed => exact foretold.feed? books known fed
  | takeBack books => exact foretold.takeBack books known
  | note unmoved => exact foretold.note unmoved
  | @expire manager shared task books =>
      unfold Manager.expire at untimed ⊢
      dsimp only at untimed ⊢
      cases found : manager.flight? task with
      | none => exact foretold
      | some entry =>
          rw [found] at untimed
          dsimp only at untimed ⊢
          exact absurd untimed
            (not_untimed_of_concludeTimeout (keeps_of_deeds (deeds_replace _ _)).1)

theorem Foretold.acts (foretold : (system.withManager before).Foretold prospect)
    (known : ∀ worker ∈ system.workers, worker.phase.Known taken)
    (hired : ∀ worker ∈ system.workers, worker.id < before.1.nextWorker)
    (acts : Relation.ReflTransGen (Act taken selected) before next)
    (untimed : Untimed next.1.history) : (system.withManager next).Foretold prospect := by
  suffices Keeps before next ∧ (system.withManager next).Foretold prospect from this.2
  induction acts with
  | refl => exact ⟨⟨List.Subset.refl _, Nat.le_refl _⟩, foretold⟩
  | tail _ act induction =>
      have keeps := act.keeps
      obtain ⟨kept, middle⟩ := induction fun recorded mem => untimed recorded (keeps.1 mem)
      refine ⟨⟨List.Subset.trans kept.1 keeps.1, Nat.le_trans kept.2 keeps.2⟩, ?_⟩
      exact middle.act known (fun worker mem => Nat.lt_of_lt_of_le (hired worker mem) kept.2) act
        untimed

end System

end PartsList
