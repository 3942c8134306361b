import PartsList.Proofs.Job.Arrangement

/-!
# The manager's acts

What the manager does in one step is made of acts, before each of which its books balance: it takes
an event, gives out a task, gives up on a task that takes too long, or takes back what is in the
workers' queue.  Between its acts it does nothing to tasks.
-/

namespace PartsList

open Disk

namespace Manager

variable {manager : Manager} {shared : Shared} {before after : Manager × Shared}
  {taken : List TaskId} {selected : List Path}

/-- Nothing has happened to tasks. -/
structure Unmoved (before after : Manager × Shared) : Prop where
  /-- The choices stay, -/
  settings : after.1.settings = before.1.settings
  /-- the outcomes, -/
  history : after.1.history = before.1.history
  /-- the tasks that wait, -/
  pending : after.1.pending = before.1.pending
  /-- those with the workers, -/
  inFlight : after.1.inFlight = before.1.inFlight
  /-- the number of the next one -/
  nextTask : after.1.nextTask = before.1.nextTask
  /-- and of the next worker, -/
  nextWorker : after.1.nextWorker = before.1.nextWorker
  /-- those in the workers' queue -/
  queue : tasksOf after.2.tasks.waiting = tasksOf before.2.tasks.waiting
  /-- and how often the engine was asked. -/
  loads : after.2.loads = before.2.loads
  /-- No result is posted, -/
  posts : ∀ inbox ∈ after.2.inboxes, ∃ other ∈ before.2.inboxes, ∀ result,
    .result result ∈ inbox.waiting → .result result ∈ other.waiting
  /-- and the database stays. -/
  develops : before.2.disk.Develops after.2.disk
  /-- A manager that works has worked before, and knows of the same workers and events. -/
  works : after.1.isClosed = false → before.1.isClosed = false ∧
    after.1.workers = before.1.workers ∧ after.2.events = before.2.events

/-- One thing that the manager does. -/
inductive Act (taken : List TaskId) (selected : List Path) :
    Manager × Shared → Manager × Shared → Prop
  /-- It takes an event. -/
  | receive {before after : Manager × Shared}
      (books : before.1.Consistent before.2 taken [] selected)
      (received : before.1.receive? before.2 = some after) : Act taken selected before after
  /-- It gives out a task. -/
  | feed {before after : Manager × Shared}
      (books : before.1.Consistent before.2 taken [] selected)
      (fed : before.1.feed? before.2 = some after) : Act taken selected before after
  /-- It gives up on a task. -/
  | expire {manager : Manager} {shared : Shared} {task : TaskId}
      (books : manager.Consistent shared taken [] selected) (known : task ∈ taken) :
      Act taken selected (manager, shared) (Manager.expire (manager, shared) task)
  /-- It takes back what is in the workers' queue. -/
  | takeBack {manager : Manager} {shared : Shared}
      (books : manager.Consistent shared taken [] selected) :
      Act taken selected (manager, shared) (manager.beginShutdown shared)
  /-- It does nothing to tasks. -/
  | note {before after : Manager × Shared} (unmoved : Unmoved before after) :
      Act taken selected before after

/-- What the manager notes apart from tasks, as long as it works. -/
theorem Unmoved.of_eq {noted : Manager} {others : Shared}
    (knows : (noted.settings, noted.history, noted.pending, noted.inFlight, noted.nextTask,
        noted.nextWorker, noted.workers) =
      (manager.settings, manager.history, manager.pending, manager.inFlight, manager.nextTask,
        manager.nextWorker, manager.workers))
    (shares : (others.loads, others.inboxes, others.disk, others.events) =
      (shared.loads, shared.inboxes, shared.disk, shared.events))
    (queue : tasksOf others.tasks.waiting = tasksOf shared.tasks.waiting)
    (works : noted.isClosed = false → manager.isClosed = false) :
    Unmoved (manager, shared) (noted, others) := by
  simp only [Prod.mk.injEq] at knows shares
  obtain ⟨settings, history, pending, inFlight, nextTask, nextWorker, workers⟩ := knows
  obtain ⟨loads, inboxes, disk, events⟩ := shares
  refine ⟨settings, history, pending, inFlight, nextTask, nextWorker, queue, loads,
    fun inbox mem => ?_, ?_, fun still => ⟨works still, workers, events⟩⟩
  · exact ⟨inbox, inboxes ▸ mem, fun _ waits => waits⟩
  · dsimp only
    rw [disk]
    exact Develops.refl _

theorem Deal.act (books : before.1.Consistent before.2 taken [] selected)
    (deal : Deal before after) : Act taken selected before after := by
  cases deal with
  | receive received => exact .receive books received
  | feed fed => exact .feed books fed
  | check => exact .note (.of_eq rfl rfl rfl fun works => works)
  | expire flies started => exact .expire books (books.started _ flies started)

/-- A stride of a manager whose books balance is an act. -/
theorem Stride.act {stats : List WriterStats}
    (sound : Situation.Sound ⟨before.1, before.2, taken⟩ selected)
    (stride : Stride stats before after) : Act taken selected before after := by
  cases stride with
  | deal dispatches deal => exact deal.act (sound.books (works_of_dispatching dispatches))
  | interrupt => exact .note (.of_eq rfl rfl rfl fun works => works)
  | drain =>
      refine .note ?_
      unfold beginDraining
      split
      · exact .of_eq rfl rfl rfl fun works => works
      · exact .of_eq rfl rfl rfl fun works => works
  | turn dispatches => exact .takeBack (sound.books (works_of_dispatching dispatches))
  | order stops sent =>
      exact .note (.of_eq rfl rfl (tasksOf_of_order sent) fun _ => works_of_stopping stops)
  | wait stops => exact .note (.of_eq rfl rfl rfl fun _ => works_of_stopping stops)
  | collect collects received =>
      exact .receive (sound.books (works_of_collecting collects)) received
  | endWorkers =>
      exact .note ⟨rfl, rfl, rfl, rfl, rfl, rfl, rfl, rfl,
        fun inbox mem => ⟨inbox, mem, fun _ waits => waits⟩, Develops.refl _, nofun⟩
  | @dismiss manager shared next inbox told closes found sent =>
      refine .note ⟨rfl, rfl, rfl, rfl, rfl, rfl, rfl, rfl, fun other mem => ?_, Develops.refl _,
        nofun⟩
      rcases List.mem_or_eq_of_mem_set mem with mem | rfl
      · exact ⟨other, mem, fun _ waits => waits⟩
      · refine ⟨inbox, List.mem_of_getElem? found, fun result waits => ?_⟩
        rw [Channel.waiting_of_send? sent] at waits
        exact (List.mem_append.1 waits).resolve_right (by simp)
  | skip | await => exact .note (.of_eq rfl rfl rfl nofun)
  | @endWriters manager shared =>
      obtain ⟨checkpoint, saves, disk, same, develops⟩ := manager.exists_endWriters shared stats
      rw [same]
      refine .note ⟨rfl, rfl, rfl, rfl, rfl, rfl, rfl, rfl, fun inbox mem => ?_, develops, nofun⟩
      obtain ⟨other, inside, rfl⟩ := List.mem_map.1 mem
      exact ⟨other, inside, fun _ waits => waits⟩

theorem acts_of_strides {stats : List WriterStats}
    (sound : Situation.Sound ⟨before.1, before.2, taken⟩ selected)
    (strides : Relation.ReflTransGen (Stride stats) before after) :
    Relation.ReflTransGen (Act taken selected) before after := by
  induction strides with
  | refl => exact .refl
  | tail ran stride induction => exact induction.tail (stride.act (sound.strides ran))

/-- A step of the manager is made of acts. -/
theorem acts_step? (sound : Situation.Sound ⟨manager, shared, taken⟩ selected)
    {stats : List WriterStats} {action : Action}
    (stepped : manager.step? shared stats action = some after) :
    Relation.ReflTransGen (Act taken selected) (manager, shared) after :=
  acts_of_strides sound (strides_step? stepped)

/-! ## What stays -/

/-- Outcomes stay, and numbers are given to workers once. -/
def Keeps (before after : Manager × Shared) : Prop :=
  before.1.history ⊆ after.1.history ∧ before.1.nextWorker ≤ after.1.nextWorker

theorem Records.keeps {task : Task} {outcome : Outcome}
    (records : manager.Records shared task outcome after) : Keeps (manager, shared) after := by
  obtain ⟨final, history⟩ := records.history
  refine ⟨?_, Nat.le_of_eq records.nextWorker.symm⟩
  rw [history]
  exact List.subset_cons_self _ _

/-- The manager concludes by sending a result of its own and accounting for it. -/
theorem exists_conclude (manager : Manager) (shared : Shared) (task : Task)
    (result : ExtractionResult) :
    ∃ routed : Routed, manager.conclude shared task result =
      { manager with spill := routed.spill }.record (shared.afterRouting routed) task
        { task := task.id
          result := result.withAttempt task.attempt
          delivery := routed.delivery } :=
  ⟨route shared.inboxes manager.spill shared.disk (result.withAttempt task.attempt), rfl⟩

theorem keeps_conclude (manager : Manager) (shared : Shared) (task : Task)
    (result : ExtractionResult) :
    Keeps (manager, shared) (manager.conclude shared task result) := by
  obtain ⟨routed, same⟩ := exists_conclude manager shared task result
  rw [same]
  exact (records_record { manager with spill := routed.spill } _ _ _).keeps

theorem Deed.keeps (deed : Deed before after) : Keeps before after := by
  have noted {noted next : Manager × Shared} (quiet : Quiet before noted)
      (rest : Keeps noted next) :
      Keeps before next :=
    ⟨quiet.history ▸ rest.1, Nat.le_trans quiet.nextWorker rest.2⟩
  cases deed with
  | note quiet => exact noted quiet ⟨List.Subset.refl _, Nat.le_refl _⟩
  | accept quiet => exact noted quiet (records_record _ _ _ _).keeps
  | conclude quiet => exact noted quiet (keeps_conclude _ _ _ _)
  | save => exact ⟨List.Subset.refl _, Nat.le_refl _⟩
  | dismiss _ _ _ quiet => exact ⟨quiet.history ▸ List.Subset.refl _, quiet.nextWorker⟩
  | release _ quiet => exact ⟨quiet.history ▸ List.Subset.refl _, quiet.nextWorker⟩

theorem keeps_of_deeds (deeds : Relation.ReflTransGen Deed before after) : Keeps before after := by
  induction deeds with
  | refl => exact ⟨List.Subset.refl _, Nat.le_refl _⟩
  | tail _ deed induction =>
      exact ⟨List.Subset.trans induction.1 deed.keeps.1, Nat.le_trans induction.2 deed.keeps.2⟩

/-- No act takes an outcome or a number back. -/
theorem Act.keeps (act : Act taken selected before after) : Keeps before after := by
  cases act with
  | receive books received => exact keeps_of_deeds (deeds_receive? books.working received)
  | feed books fed => exact keeps_of_deeds ((Deal.feed fed).deeds books.working)
  | expire books => exact keeps_of_deeds (deeds_expire books.working _)
  | takeBack => exact ⟨List.Subset.refl _, Nat.le_refl _⟩
  | note unmoved =>
      exact ⟨unmoved.history ▸ List.Subset.refl _, Nat.le_of_eq unmoved.nextWorker.symm⟩

end Manager

end PartsList
