import PartsList.Proofs.Job.Staffing

/-!
# The manager's deeds

Whatever the manager does in one step comes down to a few kinds of deeds: it accounts for an outcome
that was told of a task, delivers a result of its own and accounts for it, saves the checkpoint,
asks a writer to leave, or does nothing that others could notice.  What each deed keeps, the manager
keeps.
-/

namespace PartsList

namespace Manager

/-- Nothing has changed but what the manager knows of tasks and workers, the events that it has
taken and the orders that it has given to workers. -/
structure Quiet (before after : Manager × Shared) : Prop where
  /-- The choices stay, -/
  settings : after.1.settings = before.1.settings
  /-- the manager's spill file, -/
  spill : after.1.spill = before.1.spill
  /-- the checkpoint, -/
  checkpoint : after.1.checkpoint = before.1.checkpoint
  /-- the number of outcomes since it was saved, -/
  sinceSave : after.1.sinceSave = before.1.sinceSave
  /-- the outcomes, -/
  history : after.1.history = before.1.history
  /-- the attempts at saving it, -/
  saves : after.1.saves = before.1.saves
  /-- the writers' inboxes, -/
  inboxes : after.2.inboxes = before.2.inboxes
  /-- the disk -/
  disk : after.2.disk = before.2.disk
  /-- and the time of day. -/
  today : after.2.today = before.2.today
  /-- Events may have been taken, -/
  events : after.2.events.waiting <:+ before.2.events.waiting
  /-- and numbers given to workers. -/
  nextWorker : before.1.nextWorker ≤ after.1.nextWorker
  /-- A manager that works has worked before. -/
  works : after.1.isClosed = false → before.1.isClosed = false

/-- What the manager can do. -/
inductive Deed : Manager × Shared → Manager × Shared → Prop
  /-- Nothing that others could notice. -/
  | note {before after : Manager × Shared} (quiet : Quiet before after) : Deed before after
  /-- It accounts for an outcome that was told of a task with the workers. -/
  | accept {before noted : Manager × Shared} {worker : WorkerId} {entry : InFlight}
      {outcome : Outcome} (quiet : Quiet before noted)
      (told : .finished worker outcome ∈ before.2.events.waiting)
      (works : before.1.isClosed = false) (flies : entry ∈ before.1.inFlight)
      (same : entry.task.id = outcome.task) (kept : outcome.delivery ≠ .withheld) :
      Deed before (noted.1.record noted.2 entry.task outcome)
  /-- It gives up on a task, as long as it works. -/
  | conclude {before noted : Manager × Shared} {entry : InFlight} {code : ErrorCode}
      {message : String} {metrics : Metrics} (quiet : Quiet before noted)
      (works : before.1.isClosed = false) (flies : entry ∈ before.1.inFlight) :
      Deed before
        (noted.1.conclude noted.2 entry.task
          (ExtractionResult.failed entry.task.path code message metrics))
  /-- It saves the checkpoint. -/
  | save {manager : Manager} {shared : Shared} : Deed (manager, shared) (manager.save shared)
  /-- It asks a writer to leave. -/
  | dismiss {before after : Manager × Shared} {next : Nat} {inbox sent : Inbox}
      (closed : before.1.isClosed = true) (found : before.2.inboxes[next]? = some inbox)
      (send : inbox.send? .shutdown = some sent)
      (quiet : Quiet before (after.1, { after.2 with inboxes := before.2.inboxes }))
      (inboxes : after.2.inboxes = before.2.inboxes.set next sent) : Deed before after
  /-- It will send nothing more to writers. -/
  | release {before after : Manager × Shared} (closed : before.1.isClosed = true)
      (quiet : Quiet before (after.1, { after.2 with inboxes := before.2.inboxes }))
      (inboxes : after.2.inboxes = before.2.inboxes.map ({ · with senderGone := true })) :
      Deed before after

variable {manager : Manager} {shared : Shared} {before after : Manager × Shared}

theorem isClosed_of_phase {manager other : Manager} (phase : other.phase = manager.phase) :
    other.isClosed = manager.isClosed := by
  rw [isClosed, isClosed, phase]

theorem Quiet.of_eq {noted : Manager} {others : Shared}
    (knows : (noted.settings, noted.spill, noted.checkpoint, noted.sinceSave, noted.history,
        noted.saves, noted.phase) =
      (manager.settings, manager.spill, manager.checkpoint, manager.sinceSave, manager.history,
        manager.saves, manager.phase))
    (shares : (others.inboxes, others.disk, others.today) =
      (shared.inboxes, shared.disk, shared.today))
    (events : others.events.waiting <:+ shared.events.waiting)
    (nextWorker : manager.nextWorker ≤ noted.nextWorker) :
    Quiet (manager, shared) (noted, others) := by
  simp only [Prod.mk.injEq] at knows shares
  obtain ⟨settings, spill, checkpoint, sinceSave, history, saves, phase⟩ := knows
  obtain ⟨inboxes, disk, today⟩ := shares
  refine ⟨settings, spill, checkpoint, sinceSave, history, saves, inboxes, disk, today, events,
    nextWorker, fun works => ?_⟩
  rwa [isClosed_of_phase phase] at works

theorem Quiet.deeds (quiet : Quiet before after) : Relation.ReflTransGen Deed before after :=
  .single (.note quiet)

/-! ## Workers and events -/

theorem deeds_spawn (manager : Manager) (shared : Shared) :
    Relation.ReflTransGen Deed (manager, shared) (manager.spawn shared) := by
  unfold spawn
  split
  · exact Quiet.deeds (.of_eq rfl rfl List.suffix_rfl (Nat.le_refl _))
  · exact Quiet.deeds (.of_eq rfl rfl List.suffix_rfl (Nat.le_succ _))

theorem deeds_spawnAll (count : Nat) (manager : Manager) (shared : Shared) :
    Relation.ReflTransGen Deed (manager, shared) (spawnAll count manager shared) := by
  induction count generalizing manager shared with
  | zero => exact .refl
  | succ count induction => exact (deeds_spawn manager shared).trans (induction _ _)

theorem deeds_replace (manager : Manager) (shared : Shared) :
    Relation.ReflTransGen Deed (manager, shared) (manager.replace shared) := by
  unfold replace
  split
  · exact .refl
  · exact deeds_spawn manager shared

theorem deeds_onFinished (works : manager.isClosed = false) {worker : WorkerId} {outcome : Outcome}
    {rest : List WorkerEvent}
    (waiting : shared.events.waiting = .finished worker outcome :: rest) :
    Relation.ReflTransGen Deed (manager, shared)
      (manager.onFinished { shared with events := { shared.events with waiting := rest } } worker
        outcome) := by
  have later : rest <:+ shared.events.waiting := waiting ▸ List.suffix_cons _ _
  have landed (noted : Manager) (quiet : Quiet (manager, shared) (noted, shared)) :
      Quiet (manager, shared)
        (noted.land outcome.task,
          { shared with events := { shared.events with waiting := rest } }) :=
    { quiet with events := later }
  unfold onFinished
  dsimp only
  split
  · exact Quiet.deeds (.of_eq rfl rfl later (Nat.le_refl _))
  · next entry found =>
      obtain ⟨flies, same⟩ := flight?_eq_some found
      have landed := landed ((manager.hear worker shared.now).changeSlot worker fun slot =>
        if slot.current = some outcome.task then { slot with current := none } else slot)
        (.of_eq rfl rfl List.suffix_rfl (Nat.le_refl _))
      split
      · exact .single (.conclude landed works flies)
      · next kept =>
          exact .single (.accept landed (waiting ▸ List.mem_cons_self) works flies same kept)

theorem deeds_concludeOrphan (works : manager.isClosed = false) (slot : WorkerSlot) :
    Relation.ReflTransGen Deed (manager, shared) (manager.concludeOrphan shared slot) := by
  unfold concludeOrphan
  split
  · exact .refl
  · next entry found =>
      obtain ⟨id, -, found⟩ := Option.bind_eq_some_iff.1 found
      have landed : Quiet (manager, shared) (manager.land entry.task.id, shared) :=
        .of_eq rfl rfl List.suffix_rfl (Nat.le_refl _)
      exact .single (.conclude landed works (flight?_eq_some found).1)

theorem deeds_onExited (works : manager.isClosed = false) (worker : WorkerId) :
    Relation.ReflTransGen Deed (manager, shared) (manager.onExited shared worker) := by
  unfold onExited
  split
  · exact .refl
  · next slot _ =>
      let without : Manager :=
        { manager with
          workers := manager.workers.filter (·.worker != worker)
          supervisor := manager.supervisor.remove worker }
      have dismissed : Relation.ReflTransGen Deed (manager, shared) (without, shared) :=
        Quiet.deeds (.of_eq rfl rfl List.suffix_rfl (Nat.le_refl _))
      have concluded := dismissed.trans (@deeds_concludeOrphan without shared works slot)
      dsimp only
      split
      · exact concluded.trans (deeds_replace _ _)
      · exact concluded

theorem deeds_receive? (works : manager.isClosed = false)
    (received : manager.receive? shared = some after) :
    Relation.ReflTransGen Deed (manager, shared) after := by
  obtain ⟨event, rest, waiting, rfl⟩ := eq_of_receive? received
  have later : rest <:+ shared.events.waiting := waiting ▸ List.suffix_cons _ _
  cases event with
  | heartbeat worker time => exact Quiet.deeds (.of_eq rfl rfl later (Nat.le_refl _))
  | started worker task time => exact Quiet.deeds (.of_eq rfl rfl later (Nat.le_refl _))
  | finished worker outcome => exact deeds_onFinished works waiting
  | exited worker =>
      have popped : Relation.ReflTransGen Deed (manager, shared)
          (manager, { shared with events := { shared.events with waiting := rest } }) :=
        Quiet.deeds (.of_eq rfl rfl later (Nat.le_refl _))
      exact popped.trans (deeds_onExited works worker)

/-! ## Dispatching -/

theorem deeds_expire (works : manager.isClosed = false) (task : TaskId) :
    Relation.ReflTransGen Deed (manager, shared) (expire (manager, shared) task) := by
  unfold expire
  dsimp only
  cases found : manager.flight? task with
  | none => exact .refl
  | some entry =>
      have flies := (flight?_eq_some found).1
      dsimp only
      refine Relation.ReflTransGen.trans ?_ (deeds_replace _ _)
      cases entry.worker with
      | none =>
          have landed : Quiet (manager, shared) (manager.land task, shared) :=
            .of_eq rfl rfl List.suffix_rfl (Nat.le_refl _)
          exact .single (.conclude landed works flies)
      | some worker =>
          have landed : Quiet (manager, shared)
              ((manager.changeSlot worker ({ · with abandoned := true, current := none })).land
                task, shared) :=
            .of_eq rfl rfl List.suffix_rfl (Nat.le_refl _)
          exact .single (.conclude landed works flies)

theorem Deal.deeds (works : before.1.isClosed = false) (deal : Deal before after) :
    Relation.ReflTransGen Deed before after := by
  cases deal with
  | receive received => exact deeds_receive? works received
  | feed fed =>
      obtain ⟨task, rest, tasks, -, -, rfl⟩ := eq_of_feed? fed
      exact Quiet.deeds (.of_eq rfl rfl List.suffix_rfl (Nat.le_refl _))
  | check => exact Quiet.deeds (.of_eq rfl rfl List.suffix_rfl (Nat.le_refl _))
  | expire => exact deeds_expire works _

theorem deeds_beginDraining (manager : Manager) (shared : Shared) :
    Relation.ReflTransGen Deed (manager, shared) (manager.beginDraining, shared) := by
  unfold beginDraining
  split
  · exact Quiet.deeds (.of_eq rfl rfl List.suffix_rfl (Nat.le_refl _))
  · exact .refl

/-! ## The end -/

/-- The manager turns to the next part of its work. -/
theorem deeds_move {noted : Manager} {others : Shared}
    (knows : (noted.settings, noted.spill, noted.checkpoint, noted.sinceSave, noted.history,
        noted.saves, noted.nextWorker) =
      (manager.settings, manager.spill, manager.checkpoint, manager.sinceSave, manager.history,
        manager.saves, manager.nextWorker))
    (shares : (others.inboxes, others.disk, others.today, others.events.waiting) =
      (shared.inboxes, shared.disk, shared.today, shared.events.waiting))
    (works : noted.isClosed = false → manager.isClosed = false) :
    Relation.ReflTransGen Deed (manager, shared) (noted, others) := by
  simp only [Prod.mk.injEq] at knows shares
  obtain ⟨settings, spill, checkpoint, sinceSave, history, saves, nextWorker⟩ := knows
  obtain ⟨inboxes, disk, today, events⟩ := shares
  exact Quiet.deeds ⟨settings, spill, checkpoint, sinceSave, history, saves, inboxes, disk, today,
    events ▸ List.suffix_rfl, Nat.le_of_eq nextWorker.symm, works⟩

theorem deeds_endWriters (closed : manager.isClosed = true) (stats : List WriterStats) :
    Relation.ReflTransGen Deed (manager, shared) (manager.endWriters shared stats) := by
  unfold endWriters
  refine .tail (.single (.release closed ?_ rfl)) .save
  exact ⟨rfl, rfl, rfl, rfl, rfl, rfl, rfl, rfl, rfl, List.suffix_rfl, Nat.le_refl _,
    fun still => Bool.noConfusion (show true = false from still)⟩

/-- A stride of the manager is made of deeds. -/
theorem Stride.deeds {stats : List WriterStats} (stride : Stride stats before after) :
    Relation.ReflTransGen Deed before after := by
  cases stride with
  | deal dispatches deal => exact deal.deeds (works_of_dispatching dispatches)
  | interrupt => exact deeds_move rfl rfl fun works => works
  | drain => exact deeds_beginDraining _ _
  | turn dispatches => exact deeds_move rfl rfl fun _ => works_of_dispatching dispatches
  | order stops | wait stops => exact deeds_move rfl rfl fun _ => works_of_stopping stops
  | collect collects received => exact deeds_receive? (works_of_collecting collects) received
  | endWorkers => exact deeds_move rfl rfl fun still =>
      Bool.noConfusion (show true = false from still)
  | dismiss closes found sent =>
      refine .single (.dismiss (by rw [isClosed, closes]) found sent ?_ rfl)
      exact ⟨rfl, rfl, rfl, rfl, rfl, rfl, rfl, rfl, rfl, List.suffix_rfl, Nat.le_refl _,
        fun still => Bool.noConfusion (show true = false from still)⟩
  | skip | await => exact deeds_move rfl rfl fun still =>
      Bool.noConfusion (show true = false from still)
  | endWriters awaits => exact deeds_endWriters (by rw [isClosed, awaits]) stats

theorem deeds_of_strides {stats : List WriterStats}
    (strides : Relation.ReflTransGen (Stride stats) before after) :
    Relation.ReflTransGen Deed before after := by
  induction strides with
  | refl => exact .refl
  | tail _ stride induction => exact induction.trans stride.deeds

/-- A step of the manager is made of deeds. -/
theorem deeds_step? {stats : List WriterStats} {action : Action}
    (stepped : manager.step? shared stats action = some after) :
    Relation.ReflTransGen Deed (manager, shared) after :=
  deeds_of_strides (strides_step? stepped)

/-- The last thing that a manager does is to put an end to the writers. -/
theorem ends_of_step? {stats : List WriterStats} {action : Action}
    (stepped : manager.step? shared stats action = some after)
    (finished : after.1.phase = .finished) : after = manager.endWriters shared stats := by
  by_cases dispatches : manager.phase = .dispatching
  · have phase := congrArg Prod.fst (course_dispatch? (dispatch?_of_step? dispatches stepped))
    rcases phase_turn dispatches shared with still | ⟨left, turned⟩
    · cases (phase.trans still).symm.trans finished
    · cases (phase.trans turned).symm.trans finished
  · have stride := stride_step? dispatches stepped
    cases stride with
    | deal phase | interrupt phase | drain phase | turn phase => exact absurd phase dispatches
    | order | wait | endWorkers | dismiss | skip | await => cases finished
    | collect collects received =>
        have phase := congrArg Prod.fst (course_receive? received)
        cases (phase.trans collects).symm.trans finished
    | endWriters => rfl

end Manager

end PartsList
