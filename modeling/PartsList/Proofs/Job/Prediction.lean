import PartsList.Proofs.Job.Finality
import PartsList.Proofs.Job.Fulfilling

/-!
# Jobs do what is to be expected

From their start on, the threads of a job do with a file what is to be expected of it, in whatever
order they take their steps, as long as the file stays what it is and nothing takes too long.  So no
worker delivers a result of a file on which the manager has given up.
-/

namespace PartsList

open Manager

/-- Signs of life change nothing of what the manager takes a worker to be doing. -/
theorem Standing.after_beats {worker : WorkerId} {told : List WorkerEvent}
    (beats : ∀ event ∈ told, ∃ id time, event = .heartbeat id time) (standing : Standing) :
    after worker told standing = standing := by
  unfold after
  induction told generalizing standing with
  | nil => rfl
  | cons event told induction =>
      have rest := fun standing =>
        induction (fun other mem => beats other (List.mem_cons_of_mem _ mem))
        standing
      obtain ⟨id, time, rfl⟩ := beats event List.mem_cons_self
      rw [List.filter_cons]
      split
      · rw [List.foldl_cons, rest]
        cases standing <;> rfl
      · exact rest standing

namespace System

variable {system after : System} {prospect : Prospect} {told : List WorkerEvent}
  {next : Manager × Shared} {taken : List TaskId} {selected : List Path} {file : FileId}
  {directory : Path} {status : Except OsError FileStatus}

/-! ## Other threads -/

/-- Whatever touches neither tasks nor the engine may happen. -/
theorem Foretold.share (foretold : system.Foretold prospect)
    (same : (after.manager, after.workers, after.shared.tasks, after.shared.loads,
        after.shared.events.receiverGone) =
      (system.manager, system.workers, system.shared.tasks, system.shared.loads,
        system.shared.events.receiverGone))
    (events : after.shared.events.waiting = system.shared.events.waiting ++ told)
    (beats : ∀ event ∈ told, ∃ id time, event = .heartbeat id time)
    (senders : ∀ event ∈ told, ∃ worker ∈ system.workers, worker.id = event.worker) :
    after.Foretold prospect := by
  simp only [Prod.mk.injEq] at same
  obtain ⟨manager, workers, tasks, loads, listens⟩ := same
  have tells :
      outcomesOf after.shared.events.waiting = outcomesOf system.shared.events.waiting := by
    have silent : outcomesOf told = [] := by
      refine List.filterMap_eq_nil_iff.2 fun event mem => ?_
      obtain ⟨id, time, rfl⟩ := beats event mem
      rfl
    rw [events, outcomesOf_append, silent, List.append_nil]
  have attempts : after.attempts = system.attempts := by rw [System.attempts, workers, tells]; rfl
  have outcomes : after.outcomes = system.outcomes := by rw [System.outcomes, workers, tells]; rfl
  refine ⟨?_, ?_, ?_, ?_, fun working => ?_, fun working => ?_⟩
  · rw [manager]
    exact foretold.retry
  · rw [manager]
    exact foretold.settled
  · rw [manager, workers]
    exact foretold.flying
  · rw [manager, tasks]
    exact foretold.queued
  · have roster := foretold.roster (manager ▸ working)
    have lost (id : TaskId) (gone : system.Lost id) : after.Lost id := by
      refine ⟨attempts ▸ gone.attempts, manager ▸ gone.issued, ?_⟩
      rw [manager, tasks]
      exact gone.waits
    refine ⟨listens.trans roster.listens, attempts ▸ roster.once, ?_, ?_, ?_⟩
    · intro event mem
      rw [events] at mem
      rw [workers]
      exact (List.mem_append.1 mem).elim (roster.senders event) (senders event)
    · rw [manager, workers]
      exact roster.known
    · rw [manager, workers, events]
      intro worker mem slot inside number
      rw [Standing.after_append, Standing.after_beats beats]
      exact (roster.standing worker mem slot inside number).mono lost
  · have followed := foretold.followed (manager ▸ working)
    refine ⟨?_, ?_, ?_, ?_, ?_⟩
    · rw [manager, tasks, loads]
      exact followed.fresh
    · rw [workers, loads]
      exact followed.begun
    · rw [workers, loads]
      exact followed.done
    · rw [manager, outcomes, loads]
      exact followed.told
    · rw [manager, attempts, tasks, loads]
      exact followed.lost

/-- The manager may start workers. -/
theorem Foretold.hire (foretold : (system.withManager next).Foretold prospect)
    (old : ∀ worker ∈ system.workers, worker.id < system.manager.nextWorker) :
    (system.withHired next).Foretold prospect := by
  have among {worker : Worker} (mem : worker ∈ (system.withHired next).workers) :
      worker ∈ system.workers ∨ worker.phase = .idle :=
    (List.mem_append.1 mem).imp_right phase_of_mem_hired
  refine ⟨foretold.retry, foretold.settled, ?_, foretold.queued,
    fun working => (foretold.roster working).hire old, fun working => ?_⟩
  · intro worker mem task work
    rcases among mem with mem | idle
    · exact foretold.flying worker mem task work
    · rw [idle] at work
      cases work
  · have followed := foretold.followed working
    refine ⟨followed.fresh, ?_, ?_, system.outcomes_withHired next ▸ followed.told, ?_⟩
    · intro worker mem task started phase
      rcases among mem with mem | idle
      · exact followed.begun worker mem task started phase
      · rw [idle] at phase
        rcases phase with ⟨⟨⟩⟩ | ⟨⟨⟩⟩
    · intro worker mem task started result phase
      rcases among mem with mem | idle
      · exact followed.done worker mem task started result phase
      · cases idle.symm.trans phase
    · rw [attempts_withHired]
      exact followed.lost

theorem Foretold.managed (foretold : system.Foretold prospect)
    (sound : system.Sound taken selected)
    (hired : ∀ worker ∈ system.workers, worker.id < system.manager.nextWorker)
    {action : Action}
    (stepped : system.manager.step? system.shared system.finishedStats action = some next)
    (untimed : Untimed next.1.history) : (system.withHired next).Foretold prospect := by
  have acts := acts_step? sound.manager stepped
  exact (@Foretold.acts system prospect (system.manager, system.shared) next taken selected foretold
    sound.workers hired acts untimed).hire hired

/-- No move of a thread gets in the way of what is to be expected, if the manager records no timeout
and the file stays what it is. -/
theorem Foretold.moves (foretold : system.Foretold prospect)
    (arranged : system.Arranged file directory) (sound : system.Sound taken selected)
    (once : selected.count prospect.path ≤ 1)
    (forecast : prospect.attempt =
      system.rules.forecast prospect.path (system.shared.disk.status prospect.path))
    (moves : system.Moves after) (untimed : Untimed after.manager.history) :
    after.Foretold prospect := by
  have still {after : System}
      (same : (after.manager, after.workers, after.shared.tasks, after.shared.loads,
          after.shared.events) =
        (system.manager, system.workers, system.shared.tasks, system.shared.loads,
          system.shared.events)) : after.Foretold prospect := by
    simp only [Prod.mk.injEq] at same
    obtain ⟨manager, workers, tasks, loads, events⟩ := same
    exact @Foretold.share system after prospect [] foretold
      (by rw [manager, workers, tasks, loads, events]) (by rw [events, List.append_nil])
      (fun _ mem => nomatch mem) fun _ mem => nomatch mem
  cases moves with
  | manage stepped => exact foretold.managed sound arranged.hired stepped untimed
  | work mem goes =>
      obtain ⟨front, back, split, same⟩ := exists_withStep arranged.workers mem goes.id
      exact same ▸ foretold.goes arranged.workers split sound once forecast goes
  | @beat worker others mem _ reported =>
      obtain ⟨events, rfl, listens, waiting⟩ := Shared.exists_events_of_report? reported
      have beat {event : WorkerEvent}
          (mem : event ∈ if system.shared.events.receiverGone then [] else
            [.heartbeat worker.id system.shared.now]) :
          event = .heartbeat worker.id system.shared.now := by
        split at mem
        · cases mem
        · exact List.mem_singleton.1 mem
      refine foretold.share (by simp [listens]) waiting (fun event mem => ⟨_, _, beat mem⟩)
        fun event told => ?_
      rw [beat told]
      exact ⟨worker, mem, rfl⟩
  | serve | pass | interrupt => exact still rfl

/-! ## Courses -/

/-- No outcome is taken back. -/
theorem history_subset_run (system : System) (course : List Move) :
    system.manager.history ⊆ (system.run course).manager.history := by
  refine run_induction (fun after => system.manager.history ⊆ after.manager.history)
    (List.Subset.refl _) (fun before after kept moves => List.Subset.trans kept ?_) course
  cases moves with
  | manage stepped => exact (keeps_of_deeds (deeds_step? stepped)).1
  | work | beat | serve | pass | interrupt => exact List.Subset.refl _

/-- Workers go by the same rules all the time. -/
theorem Moves.rules (moves : system.Moves after) : after.rules = system.rules := by
  cases moves <;> rfl

/-- Workers are at tasks that count as with the workers, so none of them is late. -/
theorem Foretold.isTimely (foretold : system.Foretold prospect) :
    system.isTimely prospect.path = true := by
  refine List.all_eq_true.2 fun worker mem => ?_
  cases phase : worker.phase with
  | delivering task result =>
      obtain ⟨entry, inside, same⟩ := foretold.flying worker mem task (by rw [phase]; rfl)
      have there : system.manager.inFlight.any (·.task == task) = true :=
        List.any_eq_true.2 ⟨entry, inside, beq_iff_eq.2 same⟩
      simp [there]
  | idle | announcing | processing | reporting | leaving | gone => rfl

/-- Whatever course the threads take, they do with a file what is to be expected, and no worker is
late, as long as the manager records no timeout and the file stays what it is. -/
theorem Foretold.run (foretold : system.Foretold prospect)
    (arranged : system.Arranged file directory) (sound : system.Sound taken selected)
    (once : selected.count prospect.path ≤ 1)
    (forecast : prospect.attempt = system.rules.forecast prospect.path status) {course : List Move}
    (steady : ∀ done, done <+: course →
      (system.run done).shared.disk.status prospect.path = status)
    (untimed : Untimed (system.run course).manager.history) :
    (system.run course).Foretold prospect ∧ system.staysTimely prospect.path course = true := by
  induction course generalizing system taken with
  | nil => exact ⟨foretold, rfl⟩
  | cons move course induction =>
      have now : system.shared.disk.status prospect.path = status := steady [] (List.nil_prefix)
      have later (done : List Move) (ahead : done <+: course) :
          ((system.step move).run done).shared.disk.status prospect.path = status :=
        steady (move :: done) ((List.prefix_cons_inj move).2 ahead)
      have untimed' : Untimed (system.step move).manager.history := fun recorded mem =>
        untimed recorded (history_subset_run (system.step move) course mem)
      have foretold' : (system.step move).Foretold prospect :=
        step_induction (fun after => Untimed after.manager.history → after.Foretold prospect)
          (fun _ => foretold) (fun _ => foretold.moves arranged sound once (now ▸ forecast)) move
          untimed'
      have rules : (system.step move).rules = system.rules :=
        step_induction (·.rules = system.rules) rfl (fun _ => Moves.rules) move
      obtain ⟨more, sound'⟩ := sound.step move
      obtain ⟨last, timely⟩ :=
        induction foretold' (arranged.step move) sound' (rules ▸ forecast) later untimed
      exact ⟨last, Bool.and_eq_true_iff.2 ⟨foretold.isTimely, timely⟩⟩

theorem Foretold.spawnAll (count : Nat) (foretold : system.Foretold prospect)
    (none : system.workers = []) :
    (system.withManager (Manager.spawnAll count system.manager system.shared)).Foretold
      prospect := by
  induction count generalizing system with
  | zero => exact foretold
  | succ count induction =>
      refine @induction (system.withManager (system.manager.spawn system.shared)) ?_ none
      refine foretold.spawn fun worker mem => ?_
      rw [none] at mem
      cases mem

end System

namespace Job

variable {job : Job} {disk : Disk} {paths : List Path} {start : Progress} {system : System}

/-- At first the engine was asked for nothing. -/
theorem loads_of_prepare (prepared : job.prepare disk = .ok (paths, start)) : start.loads = {} := by
  obtain ⟨_, _, _, _, _, -, -, -, -, rfl⟩ := prepare_eq_ok prepared
  rfl

/-- At the start, all files have their first attempts before them. -/
theorem foretold_engage (prepared : job.prepare disk = .ok (paths, start))
    (engaged : job.engage paths start = .ok system) {prospect : Prospect}
    (retry : prospect.retry = job.settings.retry) : system.Foretold prospect := by
  have loads := loads_of_prepare prepared
  obtain ⟨plan, supervisor, writers, opened, -, -, same, -⟩ := engage_eq_ok engaged
  let idle : System :=
    { rules := job.workerRules plan
      shared := job.sharedAtStart plan start (writers.map (·.2)) opened
      manager := job.managerAtStart plan paths start supervisor
      writers := writers.map (·.1) }
  have never (path : Path) : idle.shared.loads.times path = 0 := by
    change start.loads.times path = 0
    rw [loads]
    rfl
  have foretold : idle.Foretold prospect := by
    refine ⟨retry.symm, fun _ mem => (nomatch mem), fun _ mem => (nomatch mem),
      fun _ mem => (nomatch mem), fun _ => ?_, fun _ => ?_⟩
    · exact ⟨rfl, List.nodup_nil, fun _ mem => (nomatch mem), fun _ mem => (nomatch mem),
        fun _ mem => (nomatch mem)⟩
    · refine ⟨fun task mem _ => ?_, fun _ mem => (nomatch mem), fun _ mem => (nomatch mem),
        fun _ mem => (nomatch mem), fun _ mem => (nomatch mem)⟩
      rw [never]
      have first : task ∈ firstTasks paths :=
        (List.mem_append.1 mem).resolve_right List.not_mem_nil
      obtain ⟨index, inside, rfl⟩ := List.mem_mapIdx.1 first
      exact .first
  rw [same]
  exact @System.Foretold.hire idle _ _ (foretold.spawnAll plan.workerCount rfl)
    fun _ mem => nomatch mem

end Job

end PartsList
