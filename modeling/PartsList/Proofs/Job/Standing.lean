import PartsList.Proofs.Job.Acts
import PartsList.Proofs.Job.Working

/-!
# What the manager takes workers to be doing

The events of a worker reach the manager in the order in which they were told.  When it has heard
all of them, the manager takes the worker to be at the task that the worker is at, so a worker that
has left in the middle of a task was taken down by the engine.  This holds as long as the manager
gives up on no task.
-/

namespace PartsList

open Manager

/-- The worker that tells an event. -/
def WorkerEvent.worker : WorkerEvent → WorkerId
  | .heartbeat worker _ | .started worker _ _ | .finished worker _ | .exited worker => worker

/-- What the manager takes a worker to be doing. -/
inductive Standing
  /-- It works, at a task if it has started with one. -/
  | works (task : Option TaskId)
  /-- It has left, in the middle of a task if it was at one. -/
  | left (task : Option TaskId)

namespace Standing

/-- What the manager takes a worker to be doing when it has heard one more event of the worker. -/
def hear : Standing → WorkerEvent → Standing
  | .works _, .started _ task _ => .works (some task)
  | .works current, .finished _ outcome =>
    .works (if current = some outcome.task then none else current)
  | .works current, .exited _ => .left current
  | standing, _ => standing

/-- What the manager takes a worker to be doing when it has heard all events that wait. -/
def after (worker : WorkerId) (events : List WorkerEvent) (standing : Standing) : Standing :=
  (events.filter (·.worker == worker)).foldl hear standing

variable {worker : WorkerId} {events more : List WorkerEvent} {event : WorkerEvent}
  {standing : Standing}

theorem after_append :
    after worker (events ++ more) standing = after worker more (after worker events standing) := by
  rw [after, List.filter_append, List.foldl_append]
  rfl

theorem after_cons_self (same : event.worker = worker) :
    after worker (event :: events) standing = after worker events (standing.hear event) := by
  have kept : (event :: events).filter (·.worker == worker) =
      event :: events.filter (·.worker == worker) := List.filter_cons_of_pos (beq_iff_eq.2 same)
  rw [after, kept]
  rfl

theorem after_cons_of_ne (other : event.worker ≠ worker) :
    after worker (event :: events) standing = after worker events standing := by
  have dropped : (event :: events).filter (·.worker == worker) =
      events.filter (·.worker == worker) := List.filter_cons_of_neg (mt beq_iff_eq.1 other)
  rw [after, dropped]
  rfl

theorem after_of_silent (silent : ∀ event ∈ events, event.worker ≠ worker) :
    after worker events standing = standing := by
  have none : events.filter (·.worker == worker) = [] :=
    List.filter_eq_nil_iff.2 fun event mem same => silent event mem (beq_iff_eq.1 same)
  rw [after, none]
  rfl

theorem after_of_own (own : ∀ event ∈ events, event.worker = worker) :
    after worker events standing = events.foldl hear standing := by
  rw [after, List.filter_eq_self.2 fun event mem => beq_iff_eq.2 (own event mem)]

/-- A worker that has left does nothing any more. -/
theorem after_left (task : Option TaskId) : after worker events (.left task) = .left task := by
  unfold after
  induction events.filter (·.worker == worker) with
  | nil => rfl
  | cons event events induction => exact induction

end Standing

/-- The manager takes a worker to be at the task that it is at; a task in the middle of which a
worker was taken down is lost. -/
def WorkerPhase.Stands (lost : TaskId → Prop) (phase : WorkerPhase) (standing : Standing) : Prop :=
  match phase with
  | .idle | .announcing _ _ | .leaving false => standing = .works none
  | .processing task _ | .delivering task _ _ => standing = .works (some task.id)
  | .reporting outcome => standing = .works (some outcome.task)
  | .leaving true => ∃ id, standing = .works (some id) ∧ lost id
  | .gone false => standing = .left none
  | .gone true => ∃ id, standing = .left (some id) ∧ lost id

theorem WorkerPhase.Stands.mono {lost still : TaskId → Prop} {phase : WorkerPhase}
    {standing : Standing} (stands : phase.Stands lost standing) (more : ∀ id, lost id → still id) :
    phase.Stands still standing := by
  cases phase with
  | leaving broken | gone broken =>
      cases broken with
      | false => exact stands
      | true =>
          obtain ⟨id, same, gone⟩ := stands
          exact ⟨id, same, more id gone⟩
  | idle | announcing | processing | delivering | reporting => exact stands

/-- A worker that the manager takes to have left in the middle of a task has lost the task. -/
theorem WorkerPhase.Stands.lost {lost : TaskId → Prop} {phase : WorkerPhase} {id : TaskId}
    (stands : phase.Stands lost (.left (some id))) : lost id := by
  cases phase with
  | leaving broken =>
      cases broken with
      | false => cases stands
      | true =>
          obtain ⟨other, same, -⟩ := stands
          cases same
  | gone broken =>
      cases broken with
      | false => cases stands
      | true =>
          obtain ⟨other, same, gone⟩ := stands
          cases same
          exact gone
  | idle | announcing | processing | delivering | reporting => cases stands

namespace System

/-- A task that no thread has at hand, and that nobody is going to take. -/
structure Lost (system : System) (id : TaskId) : Prop where
  /-- No worker is at it, and no event tells what became of it. -/
  attempts : id ∉ system.attempts
  /-- It has been given out, -/
  issued : id < system.manager.nextTask
  /-- and it does not wait. -/
  waits : ∀ task ∈ system.manager.pending ++ tasksOf system.shared.tasks.waiting, task.id ≠ id

/-- When the manager has heard all events, it takes workers to be doing what they do. -/
structure Roster (system : System) : Prop where
  /-- The manager takes events. -/
  listens : system.shared.events.receiverGone = false
  /-- No attempt is in two hands. -/
  once : system.attempts.Nodup
  /-- Events are told by workers. -/
  senders : ∀ event ∈ system.shared.events.waiting,
    ∃ worker ∈ system.workers, worker.id = event.worker
  /-- Who is known to be at a task is a worker. -/
  known : ∀ slot ∈ system.manager.workers, slot.current ≠ none →
    ∃ worker ∈ system.workers, worker.id = slot.worker
  /-- With the events that wait, the manager takes a worker to be doing what it does. -/
  standing : ∀ worker ∈ system.workers, ∀ slot ∈ system.manager.workers, slot.worker = worker.id →
    worker.phase.Stands system.Lost
      (Standing.after worker.id system.shared.events.waiting (.works slot.current))

variable {system : System} {before next : Manager × Shared} {manager : Manager} {shared : Shared}
  {id : TaskId}

/-! ## The manager -/

theorem attempts_withManager (events : next.2.events.waiting <:+ before.2.events.waiting) :
    (system.withManager next).attempts.Sublist (system.withManager before).attempts :=
  List.Sublist.append_left ((events.sublist.filterMap _).map _) _

/-- The manager finds no lost task again. -/
theorem Lost.manage (lost : (system.withManager before).Lost id)
    (events : next.2.events.waiting <:+ before.2.events.waiting)
    (nextTask : before.1.nextTask ≤ next.1.nextTask)
    (tasks : ∀ task ∈ next.1.pending ++ tasksOf next.2.tasks.waiting,
      task ∈ before.1.pending ++ tasksOf before.2.tasks.waiting ∨ before.1.nextTask ≤ task.id) :
    (system.withManager next).Lost id where
  attempts mem := lost.attempts ((attempts_withManager events).subset mem)
  issued := Nat.lt_of_lt_of_le lost.issued nextTask
  waits task mem := by
    rcases tasks task mem with known | late
    · exact lost.waits task known
    · exact fun same => Nat.lt_irrefl id (Nat.lt_of_lt_of_le lost.issued (same ▸ late))

/-- The manager may hear events and start workers. -/
theorem Roster.manage (roster : (system.withManager before).Roster)
    (events : next.2.events.waiting <:+ before.2.events.waiting)
    (listens : next.2.events.receiverGone = before.2.events.receiverGone)
    (nextTask : before.1.nextTask ≤ next.1.nextTask)
    (tasks : ∀ task ∈ next.1.pending ++ tasksOf next.2.tasks.waiting,
      task ∈ before.1.pending ++ tasksOf before.2.tasks.waiting ∨ before.1.nextTask ≤ task.id)
    (known : ∀ slot ∈ next.1.workers, slot.current ≠ none →
      ∃ worker ∈ system.workers, worker.id = slot.worker)
    (slots : ∀ slot ∈ next.1.workers, (∃ worker ∈ system.workers, worker.id = slot.worker) →
      ∃ old ∈ before.1.workers, old.worker = slot.worker ∧
        Standing.after slot.worker next.2.events.waiting (.works slot.current) =
          Standing.after slot.worker before.2.events.waiting (.works old.current)) :
    (system.withManager next).Roster where
  listens := listens.trans roster.listens
  once := roster.once.sublist (attempts_withManager events)
  senders event mem := roster.senders event (events.subset mem)
  known := known
  standing := by
    intro worker mem slot inside same
    obtain ⟨old, there, also, alike⟩ := slots slot inside ⟨worker, mem, same.symm⟩
    have stands := roster.standing worker mem old there (also.trans same)
    rw [same] at alike
    have stands : worker.phase.Stands (system.withManager before).Lost
        (Standing.after worker.id next.2.events.waiting (.works slot.current)) :=
          alike.symm ▸ stands
    exact stands.mono fun id lost => lost.manage events nextTask tasks

/-- The manager may move tasks. -/
theorem Roster.move (roster : (system.withManager before).Roster)
    (workers : next.1.workers = before.1.workers) (events : next.2.events = before.2.events)
    (nextTask : before.1.nextTask ≤ next.1.nextTask)
    (tasks : ∀ task ∈ next.1.pending ++ tasksOf next.2.tasks.waiting,
      task ∈ before.1.pending ++ tasksOf before.2.tasks.waiting ∨ before.1.nextTask ≤ task.id) :
    (system.withManager next).Roster := by
  refine roster.manage (events ▸ List.suffix_rfl) (congrArg _ events) nextTask tasks ?_ ?_
  · rw [workers]
    exact roster.known
  · rw [workers, events]
    exact fun slot mem _ => ⟨slot, mem, rfl, rfl⟩

/-- The manager may start a worker. -/
theorem Roster.spawn (roster : (system.withManager (manager, shared)).Roster)
    (hired : ∀ worker ∈ system.workers, worker.id < manager.nextWorker) :
    (system.withManager (manager.spawn shared)).Roster := by
  unfold Manager.spawn
  split
  · exact roster.move rfl rfl (Nat.le_refl _) fun _ => Or.inl
  · refine roster.manage List.suffix_rfl rfl (Nat.le_refl _) (fun _ => Or.inl) ?_ ?_
    · intro slot mem some_
      rcases List.mem_append.1 mem with mem | mem
      · exact roster.known slot mem some_
      · rw [List.mem_singleton.1 mem] at some_
        exact absurd rfl some_
    · rintro slot mem ⟨worker, inside, same⟩
      rcases List.mem_append.1 mem with mem | mem
      · exact ⟨slot, mem, rfl, rfl⟩
      · rw [List.mem_singleton.1 mem] at same
        exact absurd same (Nat.ne_of_lt (hired worker inside))

/-- The manager may take an event and change what it takes the worker to be doing. -/
theorem Roster.hear (roster : (system.withManager (manager, shared)).Roster) {event : WorkerEvent}
    {rest : Channel WorkerEvent} {noted : Manager}
    (waiting : shared.events.waiting = event :: rest.waiting)
    (listens : rest.receiverGone = shared.events.receiverGone)
    (pending : noted.pending = manager.pending) (nextTask : noted.nextTask = manager.nextTask)
    (slots : ∀ slot ∈ noted.workers, ∃ old ∈ manager.workers, old.worker = slot.worker ∧
      if event.worker = slot.worker then
        Standing.works slot.current = (Standing.works old.current).hear event
      else slot.current = old.current) :
    (system.withManager (noted, { shared with events := rest })).Roster := by
  refine roster.manage (waiting ▸ List.suffix_cons _ _) listens
    (Nat.le_of_eq nextTask.symm) ?_ ?_ ?_
  · dsimp only
    rw [pending]
    exact fun _ => Or.inl
  · intro slot mem some_
    obtain ⟨old, there, also, change⟩ := slots slot mem
    split at change
    · next own =>
        obtain ⟨worker, inside, same⟩ := roster.senders event (by
          rw [withManager, waiting]
          exact List.mem_cons_self)
        exact ⟨worker, inside, same.trans own⟩
    · rw [change] at some_
      exact also ▸ roster.known old there some_
  · intro slot mem _
    obtain ⟨old, there, also, change⟩ := slots slot mem
    refine ⟨old, there, also, ?_⟩
    dsimp only
    rw [waiting]
    split at change
    · next own => rw [Standing.after_cons_self own, change]
    · next other => rw [Standing.after_cons_of_ne other, change]

/-- The manager has lost the task of a worker that left in the middle of it. -/
theorem Roster.lost (roster : (system.withManager (manager, shared)).Roster) {worker : WorkerId}
    {rest : List WorkerEvent} (waiting : shared.events.waiting = .exited worker :: rest)
    {slot : WorkerSlot} (mem : slot ∈ manager.workers) (same : slot.worker = worker)
    (current : slot.current = some id) : (system.withManager (manager, shared)).Lost id := by
  obtain ⟨thread, inside, also⟩ := roster.known slot mem (by rw [current]; exact nofun)
  have stands := roster.standing thread inside slot mem also.symm
  rw [withManager, waiting, current] at stands
  have own : (WorkerEvent.exited worker).worker = thread.id := same.symm.trans also.symm
  have heard : Standing.after thread.id (.exited worker :: rest) (.works (some id)) =
      .left (some id) := (Standing.after_cons_self own).trans (Standing.after_left _)
  exact (heard ▸ stands).lost

/-- Workers that the manager has started stand as it takes them to. -/
theorem Roster.hire (roster : (system.withManager next).Roster)
    (old : ∀ worker ∈ system.workers, worker.id < system.manager.nextWorker) :
    (system.withHired next).Roster where
  listens := roster.listens
  once := system.attempts_withHired next ▸ roster.once
  senders event mem := by
    obtain ⟨worker, inside, same⟩ := roster.senders event mem
    exact ⟨worker, List.mem_append_left _ inside, same⟩
  known slot mem some_ := by
    obtain ⟨worker, inside, same⟩ := roster.known slot mem some_
    exact ⟨worker, List.mem_append_left _ inside, same⟩
  standing := by
    intro worker mem slot inside same
    rcases List.mem_append.1 mem with mem | mem
    · refine WorkerPhase.Stands.mono (roster.standing worker mem slot inside same) fun id lost => ?_
      exact ⟨system.attempts_withHired next ▸ lost.attempts, lost.issued, lost.waits⟩
    · -- A new worker has told nothing, and is known to be at no task.
      obtain ⟨id, new, -, rfl⟩ := mem_hired.1 mem
      have other (worker : Worker) (mem : worker ∈ system.workers) : worker.id ≠ id :=
        Nat.ne_of_lt (Nat.lt_of_lt_of_le (old worker mem) new)
      have idle : slot.current = none := by
        by_contra some_
        obtain ⟨worker, among, number⟩ := roster.known slot inside some_
        exact other worker among (number.trans same)
      have silent : ∀ event ∈ next.2.events.waiting, event.worker ≠ id := by
        intro event waits own
        obtain ⟨worker, among, number⟩ := roster.senders event waits
        exact other worker among (number.trans own)
      exact (Standing.after_of_silent silent).trans (congrArg Standing.works idle)

/-! ## Workers -/

section Workers

variable {front back : List Worker} {worker thread : Worker} {others : Shared}
  {told : List WorkerEvent}

/-- A worker finds no lost task again: it takes only tasks that wait. -/
theorem Lost.proceed (lost : system.Lost id)
    (attempts : ∀ task ∈ (system.withStep front back (thread, others)).attempts,
      task ∈ system.attempts ∨ ∃ waiting ∈ tasksOf system.shared.tasks.waiting, waiting.id = task)
    (tasks : tasksOf others.tasks.waiting ⊆ tasksOf system.shared.tasks.waiting) :
    (system.withStep front back (thread, others)).Lost id where
  attempts mem := by
    rcases attempts id mem with known | ⟨task, waits, same⟩
    · exact lost.attempts known
    · exact lost.waits task (List.mem_append_right _ waits) same
  issued := lost.issued
  waits task mem := by
    refine lost.waits task ?_
    rcases List.mem_append.1 mem with mem | mem
    · exact List.mem_append_left _ mem
    · exact List.mem_append_right _ (tasks mem)

/-- A worker that goes on tells the manager. -/
theorem Roster.proceed (roster : system.Roster) (split : system.workers = front ++ worker :: back)
    (distinct : (system.workers.map (·.id)).Nodup) (same : thread.id = worker.id)
    (events : others.events.waiting = system.shared.events.waiting ++ told)
    (listens : others.events.receiverGone = system.shared.events.receiverGone)
    (own : ∀ event ∈ told, event.worker = worker.id)
    (once : (system.withStep front back (thread, others)).attempts.Nodup)
    (lost : ∀ id, system.Lost id → (system.withStep front back (thread, others)).Lost id)
    (stands : ∀ standing, worker.phase.Stands system.Lost standing →
      thread.phase.Stands (system.withStep front back (thread, others)).Lost
        (told.foldl Standing.hear standing)) :
    (system.withStep front back (thread, others)).Roster := by
  have here : worker ∈ system.workers := by simp [split]
  have still {id : WorkerId} (there : ∃ other ∈ system.workers, other.id = id) :
      ∃ other ∈ front ++ thread :: back, other.id = id := by
    obtain ⟨other, mem, number⟩ := there
    rw [split] at mem
    simp only [List.mem_append, List.mem_cons] at mem
    rcases mem with mem | rfl | mem
    · exact ⟨other, by simp [mem], number⟩
    · exact ⟨thread, by simp, same.trans number⟩
    · exact ⟨other, by simp [mem], number⟩
  refine
    { listens := listens.trans roster.listens
      once := once
      senders := ?_
      known := fun slot mem some_ => still (roster.known slot mem some_)
      standing := ?_ }
  · intro event mem
    refine still ?_
    rw [withStep, events] at mem
    rcases List.mem_append.1 mem with mem | mem
    · exact roster.senders event mem
    · exact ⟨worker, here, (own event mem).symm⟩
  · intro other mem slot inside number
    rw [withStep, events, Standing.after_append]
    by_cases mine : other.id = worker.id
    · have alone : other = thread := by
        rw [split, List.map_append, List.map_cons, List.nodup_append, List.nodup_cons] at distinct
        obtain ⟨-, ⟨behind, -⟩, ahead⟩ := distinct
        rcases List.mem_append.1 mem with mem | mem
        · exact absurd mine (ahead other.id (List.mem_map_of_mem mem) worker.id List.mem_cons_self)
        · rcases List.mem_cons.1 mem with rfl | mem
          · rfl
          · exact absurd (mine ▸ List.mem_map_of_mem mem) behind
      subst alone
      rw [mine, Standing.after_of_own own]
      exact stands _ (roster.standing worker here slot inside (number.trans mine))
    · have among : other ∈ system.workers := by
        rw [split]
        simp only [withStep, List.mem_append, List.mem_cons] at mem ⊢
        rcases mem with mem | rfl | mem
        · exact Or.inl mem
        · exact absurd same mine
        · exact Or.inr (Or.inr mem)
      rw [Standing.after_of_silent fun event mem alike => mine (alike.symm.trans (own event mem))]
      exact (roster.standing other among slot inside number).mono lost

end Workers

end System

end PartsList
