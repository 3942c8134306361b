import PartsList.Proofs.Job.Conservation
import PartsList.Proofs.Job.Handling

/-!
# Deliveries and the manager's course

The manager gives out tasks, gives up on those that take too long, and in the end sends workers and
writers away.  No step of its own undoes a delivery.
-/

namespace PartsList

open Disk ExtractionResult

namespace System

variable {system : System} {start : Disk} {file : FileId} {directory path : Path}
  {manager : Manager}
  {shared : Shared} {selected : List Path} {taken : List TaskId} {before after : Manager × Shared}

theorem attempts_subset (consistent : system.manager.Consistent system.shared taken [] selected)
    (known : ∀ worker ∈ system.workers, worker.phase.Known taken) : system.attempts ⊆ taken := by
  intro id mem
  rcases List.mem_append.1 mem with mem | mem
  · obtain ⟨worker, inside, task⟩ := List.mem_filterMap.1 mem
    have known := known worker inside
    cases phase : worker.phase with
    | idle | leaving | gone =>
        rw [phase] at task
        cases task
    | announcing | processing =>
        rw [phase] at task known
        cases task
        exact known
    | delivering | reporting =>
        rw [phase] at task known
        cases task
        exact known.1
  · obtain ⟨outcome, tells, rfl⟩ := List.mem_map.1 mem
    obtain ⟨event, waits, tells⟩ := List.mem_filterMap.1 tells
    have credible := consistent.told event waits
    cases event with
    | finished =>
        cases tells
        exact credible.1
    | heartbeat | started | exited => cases tells

/-! ## Dispatching -/

/-- The next task to be given out is at no worker yet. -/
theorem Kept.feed? (kept : system.Kept start file directory path)
    (consistent : system.manager.Consistent system.shared taken [] selected)
    (known : ∀ worker ∈ system.workers, worker.phase.Known taken) {after : Manager × Shared}
    (fed : system.manager.feed? system.shared = some after) :
    (system.withManager after).Kept start file directory path := by
  have working := consistent.working
  obtain ⟨task, rest, tasks, waits, sent, rfl⟩ := Manager.eq_of_feed? fed
  have fresh : task.id ∉ system.attempts := by
    intro mem
    refine consistent.takenNotPending task (waits ▸ List.mem_cons_self) ?_
    exact attempts_subset consistent known mem
  refine kept.adjust rfl rfl (Nat.le_refl _) working working ?_ (fun _ => Or.inl) rfl
    (Develops.refl _) (List.Sublist.refl _)
  intro entry mem
  rcases List.mem_append.1 mem with mem | mem
  · exact Or.inl ⟨entry, mem, rfl⟩
  · rw [List.mem_singleton.1 mem]
    exact Or.inr fresh

theorem Kept.expire (kept : system.Kept start file directory path)
    (consistent : system.manager.Consistent system.shared taken [] selected)
    (once : selected.count path = 1) {task : TaskId} (known : task ∈ taken) :
    (system.withManager (Manager.expire (system.manager, system.shared) task)).Kept
      start file directory path := by
  have working := consistent.working
  have concluded {noted : Manager} (kept : (system.withManager (noted, system.shared)).Kept
      start file directory path) (consistent : noted.Consistent system.shared taken [] selected)
      {entry : InFlight} (found : noted.flight? task = some entry) :
      (system.withManager
        (((noted.land task).concludeTimeout system.shared entry).1.replace
          ((noted.land task).concludeTimeout system.shared entry).2)).Kept start file directory
            path := by
    have landed := consistent.land found known
    have concluded := (kept.land landed.working task).concludeTimeout landed.working
      landed.toBalances once
    exact concluded.replace landed.concludeTimeout.working
  unfold Manager.expire
  dsimp only
  cases found : system.manager.flight? task with
  | none => exact kept
  | some entry =>
      dsimp only
      cases entry.worker with
      | none => exact concluded kept consistent found
      | some worker =>
          have abandoned := consistent.changeSlot worker
            ({ · with abandoned := true, current := none }) fun _ _ _ none => nomatch none
          exact concluded (kept.note working _ rfl) abandoned found

/-- Dealing with workers, the manager undoes no delivery. -/
theorem Kept.deal (kept : (system.withManager before).Kept start file directory path)
    (consistent : before.1.Consistent before.2 taken [] selected) (once : selected.count path = 1)
    (known : ∀ worker ∈ system.workers, worker.phase.Known taken)
    (deal : Manager.Deal before after) :
    (system.withManager after).Kept start file directory path := by
  cases deal with
  | receive received => exact kept.receive? consistent once received
  | feed fed => exact kept.feed? consistent known fed
  | @check manager shared supervisor =>
      exact kept.note consistent.working { manager with supervisor := supervisor } rfl
  | expire flies started =>
      exact kept.expire consistent once (consistent.started _ flies started)

theorem Kept.beginShutdown (kept : system.Kept start file directory path)
    (working : system.manager.isClosed = false) :
    (system.withManager (system.manager.beginShutdown system.shared)).Kept start file directory
      path := by
  refine kept.change working rfl rfl rfl (Nat.le_refl _) (fun entry mem => ?_) rfl rfl rfl
    (List.Sublist.refl _)
  exact ⟨entry, (List.mem_filter.1 mem).1, rfl⟩

/-- The manager may note things in its report, and send orders to workers. -/
theorem Kept.order (kept : system.Kept start file directory path)
    (working : system.manager.isClosed = false) {phase : ManagerPhase}
    (works : Manager.isClosed { system.manager with phase := phase } = false) (draining : Bool)
    (report : Report) (tasks : Channel Command) :
    (system.withManager
      ({ system.manager with phase := phase, draining := draining, report := report },
        { system.shared with tasks := tasks })).Kept start file directory path :=
  kept.change working works rfl rfl (Nat.le_refl _) (fun entry mem => ⟨entry, mem, rfl⟩) rfl rfl
    rfl (List.Sublist.refl _)

theorem Kept.beginDraining (kept : system.Kept start file directory path)
    (working : system.manager.isClosed = false) :
    (system.withManager (system.manager.beginDraining, system.shared)).Kept
      start file directory path := by
  unfold Manager.beginDraining
  split
  · exact kept.order working working _ _ _
  · exact kept

/-! ## The end -/

/-- Once the workers have been sent away, nothing happens to what was delivered. -/
theorem Kept.closing (kept : system.Kept start file directory path)
    (closed : manager.isClosed = true) (spill : manager.spill = system.manager.spill)
    (settings : manager.settings = system.manager.settings)
    (nextWorker : manager.nextWorker = system.manager.nextWorker)
    (history : manager.history = system.manager.history)
    (length : shared.inboxes.length = system.shared.inboxes.length)
    (inboxes : ∀ (shard : Nat) (inbox : Inbox), shared.inboxes[shard]? = some inbox →
      ∃ before, system.shared.inboxes[shard]? = some before ∧
        (∀ result, .result result ∈ inbox.waiting → .result result ∈ before.waiting) ∧
          resultsBefore inbox.waiting = resultsBefore before.waiting)
    (develops : system.shared.disk.Develops shared.disk)
    (ended : manager.phase = .finished → manager.report.forceTerminated = 0 →
      ∀ writer ∈ system.writers, writer.finished = true) :
    (system.withManager (manager, shared)).Kept start file directory path := by
  have same (other : SpillFile) (mem : other ∈ (system.withManager (manager, shared)).spills) :
      other ∈ system.spills := by
    rwa [spills, System.withManager, spill] at mem
  refine kept.advance ?_ develops.toEvolves (Or.inl ?_) (fun working => ?_) ?_ ended
  · refine kept.toArranged.alter rfl length ?_ develops.toEvolves (fun other mem =>
      Or.inl (same other mem))
      kept.about kept.workers (fun worker mem => nextWorker.symm ▸ kept.hired worker mem) settings
    intro shard inbox found
    obtain ⟨before, there, waiting, -⟩ := inboxes shard inbox found
    exact ⟨before, there, fun result mem => Or.inl (waiting result mem)⟩
  · refine Upholds.of_line kept.database rfl develops (fun other mem => ?_) ?_
    · rw [spills, ← spill] at mem
      exact ⟨other, mem, fun _ file => file⟩
    · refine congrArg (last? path.spelling) (lineOf_congr length (fun shard inbox found => ?_) path)
      obtain ⟨before, there, -, waiting⟩ := inboxes shard inbox found
      exact ⟨before, there, waiting⟩
  · rw [show (system.withManager (manager, shared)).manager.isClosed = true from closed] at working
    cases working
  · intro recorded mem
    exact Or.inl (history ▸ mem)

theorem Kept.endWorkers (kept : system.Kept start file directory path) :
    (system.withManager (system.manager.endWorkers system.shared)).Kept start file directory path :=
  kept.closing rfl rfl rfl rfl rfl rfl (fun _ inbox found => ⟨inbox, found, fun _ mem => mem, rfl⟩)
    (Develops.refl _) nofun

/-- The manager may go on to the next writer. -/
theorem Kept.move (kept : system.Kept start file directory path) {phase : ManagerPhase}
    (closed : Manager.isClosed { system.manager with phase } = true) (ended : phase ≠ .finished) :
    (system.withManager ({ system.manager with phase }, system.shared)).Kept
      start file directory path :=
  kept.closing closed rfl rfl rfl rfl rfl
    (fun _ inbox found => ⟨inbox, found, fun _ mem => mem, rfl⟩) (Develops.refl _)
    fun finished => absurd finished ended

/-- The manager may order a writer to leave. -/
theorem Kept.dismiss (kept : system.Kept start file directory path) {next : Nat}
    {inbox told : Inbox} (found : system.shared.inboxes[next]? = some inbox)
    (sent : inbox.send? .shutdown = some told) :
    (system.withManager
      ({ system.manager with phase := .closing (next + 1) },
        { system.shared with inboxes := system.shared.inboxes.set next told })).Kept
      start file directory path := by
  have waiting := Channel.waiting_of_send? sent
  have inside := (List.getElem?_eq_some_iff.1 found).1
  refine kept.closing rfl rfl rfl rfl rfl List.length_set (fun shard other there => ?_)
    (Develops.refl _) nofun
  by_cases here : next = shard
  · subst here
    dsimp only at there
    rw [List.getElem?_set_self inside] at there
    cases there
    refine ⟨inbox, found, fun result mem => ?_, ?_⟩
    · rw [waiting] at mem
      exact (List.mem_append.1 mem).resolve_right (by simp)
    · rw [waiting]
      exact resultsBefore_append_shutdown _
  · dsimp only at there
    rw [List.getElem?_set_ne here] at there
    exact ⟨other, there, fun _ mem => mem, rfl⟩

theorem Kept.endWriters (kept : system.Kept start file directory path) :
    (system.withManager (system.manager.endWriters system.shared system.finishedStats)).Kept
      start file directory path := by
  obtain ⟨checkpoint, saves, disk, ends, develops⟩ :=
    system.manager.exists_endWriters system.shared system.finishedStats
  rw [ends]
  refine kept.closing rfl rfl rfl rfl rfl (List.length_map _) (fun shard inbox found => ?_) develops
    fun _ none => ?_
  · obtain ⟨before, there, rfl⟩ := Option.map_eq_some_iff.1 (List.getElem?_map ▸ found)
    exact ⟨before, there, fun _ mem => mem, rfl⟩
  · exact finished_of_missing kept.inboxes (Nat.eq_zero_of_add_eq_zero_left none)

/-- No stride of the manager undoes a delivery. -/
theorem Kept.stride (kept : (system.withManager before).Kept start file directory path)
    (sound : Situation.Sound ⟨before.1, before.2, taken⟩ selected)
    (known : ∀ worker ∈ system.workers, worker.phase.Known taken) (once : selected.count path = 1)
    (stride : Manager.Stride system.finishedStats before after) :
    (system.withManager after).Kept start file directory path := by
  cases stride with
  | deal dispatches deal =>
      exact kept.deal (sound.books (Manager.works_of_dispatching dispatches)) once known deal
  | interrupt dispatches =>
      have working := Manager.works_of_dispatching dispatches
      exact kept.order working working _ _ _
  | drain dispatches => exact kept.beginDraining (Manager.works_of_dispatching dispatches)
  | turn dispatches => exact kept.beginShutdown (Manager.works_of_dispatching dispatches)
  | order stops | wait stops =>
      exact kept.order (Manager.works_of_stopping stops) rfl _ _ _
  | collect collects received =>
      exact kept.receive? (sound.books (Manager.works_of_collecting collects)) once received
  | endWorkers => exact kept.endWorkers
  | dismiss _ found sent => exact kept.dismiss found sent
  | skip | await => exact kept.move rfl nofun
  | endWriters => exact kept.endWriters

theorem Kept.strides (kept : (system.withManager before).Kept start file directory path)
    (sound : Situation.Sound ⟨before.1, before.2, taken⟩ selected)
    (known : ∀ worker ∈ system.workers, worker.phase.Known taken) (once : selected.count path = 1)
    (strides : Relation.ReflTransGen (Manager.Stride system.finishedStats) before after) :
    (system.withManager after).Kept start file directory path := by
  induction strides with
  | refl => exact kept
  | tail ran stride induction => exact induction.stride (sound.strides ran) known once stride

/-- No step of the manager undoes a delivery. -/
theorem Kept.step? (kept : system.Kept start file directory path)
    (sound : system.Sound taken selected)
    (once : selected.count path = 1) {action : Manager.Action}
    (stepped : system.manager.step? system.shared system.finishedStats action = some after) :
    (system.withManager after).Kept start file directory path := by
  have first :
      (system.withManager (system.manager, system.shared)).Kept start file directory path :=
    kept
  exact first.strides sound.manager sound.workers once (Manager.strides_step? stepped)

end System

end PartsList
