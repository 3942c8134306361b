import Mathlib.Logic.Relation
import PartsList.Proofs.Job.Consistency

/-!
# A manager among unknown threads

Nothing is assumed of the threads around a manager but that they talk to it through its channels,
and that a worker tells of a task only when some worker has taken it from the queue.  Events may
come in any order, from workers that the manager does not know, about tasks that it has given up
on, and as often as anyone likes; the job may be interrupted at any time.
-/

namespace PartsList

namespace Report

/-- The figures of a report add up, when these were the last words on files. -/
structure Balanced (report : Report) (finals : List Recorded) : Prop where
  /-- Every file that was selected is accounted for. -/
  scheduled :
    report.scheduled = report.succeeded + report.failed + report.notStarted + report.unfinished
  /-- Every final outcome is counted under one code. -/
  codes : (report.errorCounts.map (·.2)).sum = report.succeeded + report.failed
  /-- The code of success is counted for the successes. -/
  noError : report.countOf .none = report.succeeded
  /-- The rows are those of the successes. -/
  rows :
    report.rows =
      ((finals.filter (·.outcome.result.success)).map (·.outcome.result.rowCount)).sum

end Report

namespace Manager

/-- Every selected file is in one place, and the figures say so. -/
structure Conserved (manager : Manager) (selected : List Path) : Prop where
  /-- A file waits, is with the workers or has a final outcome as often as it was selected. -/
  files :
    ∀ path,
      (manager.pending.map (·.path)).count path +
          (manager.inFlight.map (·.task.path)).count path +
        (manager.finals.map (·.task.path)).count path = selected.count path
  /-- Final outcomes are counted. -/
  completed : manager.report.succeeded + manager.report.failed = manager.finals.length
  /-- What was selected is done, waits or is with the workers. -/
  scheduled :
    manager.report.scheduled =
      manager.report.succeeded + manager.report.failed + manager.pending.length +
        manager.inFlight.length
  /-- No task is recorded twice. -/
  once : (manager.history.map (·.task.id)).Nodup
  /-- Once the workers have been sent away, the report is complete. -/
  balanced : manager.isClosed = true → manager.report.Balanced manager.finals

variable {manager : Manager} {selected : List Path}

theorem Balances.conserved (balances : manager.Balances [] selected)
    (left : manager.isClosed = true →
      manager.report.notStarted = manager.pending.length ∧
        manager.report.unfinished = manager.inFlight.length) :
    manager.Conserved selected := by
  have files := balances.files
  have completed : manager.report.succeeded + manager.report.failed = manager.finals.length := by
    rw [← List.length_map (f := (·.outcome.result))]
    exact balances.tells.completed
  have scheduled : manager.report.scheduled = manager.report.succeeded + manager.report.failed +
      manager.pending.length + manager.inFlight.length := by
    have lengths := files.length_eq
    simp only [openTasks, List.nil_append, List.length_map, List.length_append] at lengths
    have counted := balances.scheduled
    omega
  refine ⟨fun path => ?_, completed, scheduled, ?_, fun closed => ⟨?_, ?_, ?_, ?_⟩⟩
  · have count := files.count_eq path
    simpa [openTasks, Function.comp_def, Nat.add_assoc] using count
  · have distinct := balances.distinct
    rw [List.map_append, List.map_map] at distinct
    exact distinct.of_append_right
  · obtain ⟨notStarted, unfinished⟩ := left closed
    rw [notStarted, unfinished, scheduled]
  · rw [balances.tells.codes, List.length_map, completed]
  · refine balances.tells.noError fun result mem => ?_
    obtain ⟨entry, final, rfl⟩ := List.mem_map.1 mem
    exact balances.honest entry final
  · rw [balances.tells.rows, List.filter_map, List.map_map]
    rfl

end Manager

/-- A manager with what it shares with other threads. -/
structure Situation where
  /-- The manager. -/
  manager : Manager
  /-- What the threads share. -/
  shared : Shared
  /-- Numbers of the tasks that workers have taken from their queue. -/
  taken : List TaskId := []

namespace Situation

/-- What can happen to a manager. -/
inductive Step : Situation → Situation → Prop
  /-- The manager takes an action, when some writers have left. -/
  | act {before : Situation} {stats : List WriterStats} {action : Manager.Action}
      {after : Manager × Shared}
      (stepped : before.manager.step? before.shared stats action = some after) :
      Step before { before with manager := after.1, shared := after.2 }
  /-- A worker takes the next command from the queue. -/
  | take {before : Situation} {command : Command} {tasks : Channel Command}
      (received : before.shared.tasks.receive? = some (command, tasks)) :
      Step before
        { before with
          shared := { before.shared with tasks := tasks }
          taken := (Manager.tasksOf [command]).map (·.id) ++ before.taken }
  /-- A worker tells something. -/
  | tell {before : Situation} {event : WorkerEvent} (credible : event.Credible before.taken) :
      Step before
        { before with
          shared :=
            { before.shared with
              events :=
                { before.shared.events with
                  waiting := before.shared.events.waiting ++ [event] } } }
  /-- Anything else happens: time passes, the disk changes, the job is interrupted. -/
  | change {before : Situation} {shared : Shared}
      (tasks : shared.tasks.waiting = before.shared.tasks.waiting)
      (events : shared.events.waiting = before.shared.events.waiting) :
      Step before { before with shared := shared }

/-- The manager has been given tasks with numbers of their own and has done nothing yet. -/
structure Starts (start : Situation) (tasks : List Task) : Prop where
  /-- The tasks wait. -/
  pending : start.manager.pending = tasks
  /-- They have numbers of their own, -/
  distinct : (tasks.map (·.id)).Nodup
  /-- which no later task will get. -/
  issued : ∀ task ∈ tasks, task.id < start.manager.nextTask
  /-- No task is with the workers. -/
  inFlight : start.manager.inFlight = []
  /-- No outcome was recorded. -/
  history : start.manager.history = []
  /-- The manager is about to give tasks to workers. -/
  phase : start.manager.phase = .dispatching
  /-- No worker is known to be at a task. -/
  idle : ∀ slot ∈ start.manager.workers, slot.current = none
  /-- The report tells how many files were selected, -/
  scheduled : start.manager.report.scheduled = tasks.length
  /-- and has no figures of final results. -/
  tells : start.manager.report.Tells []
  /-- The workers' queue is empty, -/
  queue : start.shared.tasks.waiting = []
  /-- and so is the manager's. -/
  events : start.shared.events.waiting = []
  /-- No task has been taken. -/
  taken : start.taken = []

/-- The manager's books balance. -/
def Sound (situation : Situation) (selected : List Path) : Prop :=
  situation.manager.Consistent situation.shared situation.taken [] selected ∨
    situation.manager.Closed selected

variable {start before after : Situation} {tasks : List Task} {selected : List Path}

/-- The books of a manager that works are consistent. -/
theorem Sound.books (sound : before.Sound selected) (working : before.manager.isClosed = false) :
    before.manager.Consistent before.shared before.taken [] selected :=
  sound.resolve_right fun closed => nomatch closed.closed.symm.trans working

theorem Starts.consistent (starts : start.Starts tasks) :
    start.manager.Consistent start.shared start.taken [] (tasks.map (·.path)) := by
  have finals : start.manager.finals = [] := by
    rw [Manager.finals, starts.history]
    rfl
  have openTasks : start.manager.openTasks [] = tasks := by
    simp [Manager.openTasks, starts.pending, starts.inFlight]
  refine
    { distinct := ?_
      issued := ?_
      files := ?_
      honest := ?_
      tells := ?_
      scheduled := ?_
      queued := ?_
      once := ?_
      takenIssued := ?_
      takenNotPending := ?_
      takenNotQueued := ?_
      current := ?_
      started := ?_
      told := ?_
      working := ?_ }
  · simpa [openTasks, starts.history] using starts.distinct
  · simpa [openTasks, starts.history] using starts.issued
  · simp [openTasks, finals]
  · simp [finals]
  · simpa [finals] using starts.tells
  · simpa using starts.scheduled
  · simp [starts.queue, Manager.tasksOf]
  · simp [starts.queue, Manager.tasksOf]
  · simp [starts.taken]
  · simp [starts.taken]
  · simp [starts.taken]
  · intro slot mem id current
    rw [starts.idle slot mem] at current
    cases current
  · simp [starts.inFlight]
  · simp [starts.events]
  · simp [Manager.isClosed, starts.phase]

theorem Sound.stride {manager next : Manager × Shared} {taken : List TaskId}
    {stats : List WriterStats} (sound : Sound ⟨manager.1, manager.2, taken⟩ selected)
    (stride : Manager.Stride stats manager next) : Sound ⟨next.1, next.2, taken⟩ selected := by
  rcases sound with consistent | closed
  · exact consistent.stride stride
  · exact Or.inr (closed.stride stride)

/-- The books balance between the strides that the manager makes, and after the last of them. -/
theorem Sound.strides {manager next : Manager × Shared} {taken : List TaskId}
    {stats : List WriterStats} (sound : Sound ⟨manager.1, manager.2, taken⟩ selected)
    (strides : Relation.ReflTransGen (Manager.Stride stats) manager next) :
    Sound ⟨next.1, next.2, taken⟩ selected := by
  induction strides with
  | refl => exact sound
  | tail _ stride induction => exact induction.stride stride

theorem Sound.act (sound : before.Sound selected) {stats : List WriterStats}
    {action : Manager.Action} {after : Manager × Shared}
    (stepped : before.manager.step? before.shared stats action = some after) :
    Sound { before with manager := after.1, shared := after.2 } selected :=
  sound.strides (Manager.strides_step? stepped)

theorem Sound.take (sound : before.Sound selected) {command : Command} {tasks : Channel Command}
    (received : before.shared.tasks.receive? = some (command, tasks)) :
    Sound
      { before with
        shared := { before.shared with tasks := tasks }
        taken := (Manager.tasksOf [command]).map (·.id) ++ before.taken } selected := by
  refine sound.imp_left fun consistent => ?_
  have waiting := Channel.waiting_of_receive? received
  have queue : Manager.tasksOf before.shared.tasks.waiting =
      Manager.tasksOf [command] ++ Manager.tasksOf tasks.waiting := by
    rw [waiting, ← Manager.tasksOf_append]
    rfl
  have once := consistent.once
  have queued := consistent.queued
  rw [queue, List.map_append, List.nodup_append] at once
  rw [queue, List.append_subset] at queued
  have weaker (event : WorkerEvent) (credible : event.Credible before.taken) :
      event.Credible ((Manager.tasksOf [command]).map (·.id) ++ before.taken) := by
    cases event with
    | heartbeat | exited => trivial
    | started => exact List.mem_append_right _ credible
    | finished => exact ⟨List.mem_append_right _ credible.1, credible.2⟩
  -- The task that was taken is with the workers, so it neither waits nor is a task to come.
  have flies {task : Task} (mem : task ∈ Manager.tasksOf [command]) :
      task ∈ before.manager.inFlight.map (·.task) := queued.1 mem
  exact
    { consistent with
      queued := queued.2
      once := once.2.1
      takenIssued := by
        intro id mem
        rcases List.mem_append.1 mem with mem | mem
        · obtain ⟨task, first, rfl⟩ := List.mem_map.1 mem
          refine consistent.issued task ?_
          exact List.mem_append_left _ (List.mem_append_right _ (flies first))
        · exact consistent.takenIssued id mem
      takenNotPending := by
        intro task waits mem
        rcases List.mem_append.1 mem with mem | mem
        · obtain ⟨other, first, same⟩ := List.mem_map.1 mem
          have distinct := consistent.distinct
          rw [Manager.openTasks, List.nil_append, List.append_assoc, List.map_append,
            List.nodup_append] at distinct
          refine distinct.2.2 task.id (List.mem_map_of_mem waits) other.id ?_ same.symm
          exact List.mem_map_of_mem (List.mem_append_left _ (flies first))
        · exact consistent.takenNotPending task waits mem
      takenNotQueued := by
        intro task waits mem
        rcases List.mem_append.1 mem with mem | mem
        · exact once.2.2 task.id mem task.id (List.mem_map_of_mem waits) rfl
        · exact consistent.takenNotQueued task (queue ▸ List.mem_append_right _ waits) mem
      current := fun slot mem id current =>
        List.mem_append_right _ (consistent.current slot mem id current)
      started := fun entry mem started =>
        List.mem_append_right _ (consistent.started entry mem started)
      told := fun event mem => weaker event (consistent.told event mem) }

theorem Sound.tell (sound : before.Sound selected) {event : WorkerEvent}
    (credible : event.Credible before.taken) :
    Sound
      { before with
        shared :=
          { before.shared with
            events :=
              { before.shared.events with
                waiting := before.shared.events.waiting ++ [event] } } } selected := by
  refine sound.imp_left fun consistent => { consistent with told := ?_ }
  intro other mem
  rcases List.mem_append.1 mem with mem | mem
  · exact consistent.told other mem
  · rwa [List.mem_singleton.1 mem]

theorem Sound.change (sound : before.Sound selected) {shared : Shared}
    (tasks : shared.tasks.waiting = before.shared.tasks.waiting)
    (events : shared.events.waiting = before.shared.events.waiting) :
    Sound { before with shared := shared } selected :=
  sound.imp_left fun consistent =>
    consistent.alter rfl rfl rfl rfl rfl consistent.tells rfl consistent.current tasks
      (events ▸ List.Subset.refl _)

theorem Sound.step (sound : before.Sound selected) (step : Step before after) :
    after.Sound selected := by
  cases step with
  | act stepped => exact sound.act stepped
  | take received => exact sound.take received
  | tell credible => exact sound.tell credible
  | change tasks events => exact sound.change tasks events

theorem Sound.run (sound : before.Sound selected) (run : Relation.ReflTransGen Step before after) :
    after.Sound selected := by
  induction run with
  | refl => exact sound
  | tail _ step induction => exact induction.step step

theorem Sound.conserved (sound : before.Sound selected) : before.manager.Conserved selected := by
  rcases sound with consistent | closed
  · refine consistent.toBalances.conserved fun closed => ?_
    rw [consistent.working] at closed
    cases closed
  · exact closed.toBalances.conserved fun _ => ⟨closed.notStarted, closed.unfinished⟩

end Situation

end PartsList
