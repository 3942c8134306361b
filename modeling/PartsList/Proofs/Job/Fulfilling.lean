import PartsList.Proofs.Job.Foretelling

/-!
# Workers do what is to be expected

A worker that makes an attempt at a file finds what was to be expected of the attempt, and nobody
else has an attempt at the file at hand meanwhile.  So no step of a worker gets in the way of what
is to be expected of any file, as long as the file stays what it is.
-/

namespace PartsList

open ExtractionResult Manager

/-! ## Forecasts -/

/-- What an attempt at a file comes to in essence when the engine has been asked for the file so
often. -/
def WorkerRules.forecast (rules : WorkerRules) (path : Path) (status : Except OsError FileStatus)
    (loads : Nat) : Option ExtractionResult × Nat :=
  let made := rules.attempt path status loads
  (made.1.map essence, made.2)

/-- What is to be expected of a file with the given status. -/
def WorkerRules.prospect (rules : WorkerRules) (retry : RetryPolicy) (path : Path)
    (status : Except OsError FileStatus) : Prospect where
  path := path
  retry := retry
  attempt := rules.forecast path status

namespace Prospect

variable {prospect : Prospect} {rules : WorkerRules} {status : Except OsError FileStatus}

theorem comesTo_of_forecast (forecast : prospect.attempt = rules.forecast prospect.path status)
    (attempt loads : Nat) :
    prospect.comesTo attempt loads =
      (((rules.attempt prospect.path status loads).1.getD (orphanResult prospect.path)).withAttempt
        attempt).essence := by
  unfold comesTo
  rw [forecast, WorkerRules.forecast]
  dsimp only
  cases (rules.attempt prospect.path status loads).1 with
  | none => rfl
  | some result =>
      rw [Option.map_some, Option.getD_some, Option.getD_some, essence_withAttempt,
        essence_withAttempt, essence_essence]

/-- An attempt that the file gets is foreseen. -/
theorem Reaches.foresees {attempt before loads : Nat} {found : Option ExtractionResult}
    {result : ExtractionResult} (reaches : prospect.Reaches attempt before)
    (forecast : prospect.attempt = rules.forecast prospect.path status)
    (made : rules.attempt prospect.path status before = (found, loads))
    (same : result.essence =
      ((found.getD (orphanResult prospect.path)).withAttempt attempt).essence) :
    prospect.Foresees attempt loads result := by
  refine ⟨before, reaches, ?_, ?_⟩
  · rw [forecast, WorkerRules.forecast, made]
  · rw [comesTo_of_forecast forecast, made, same]

end Prospect

theorem Worker.channels_of_process {rules : WorkerRules} {path : Path} {shared others : Shared}
    {found : Option ExtractionResult} (processed : process rules path shared = (found, others)) :
    others.events = shared.events ∧ others.tasks = shared.tasks := by
  obtain ⟨_, _, _, _, shape⟩ := exists_process rules path shared
  cases processed.symm.trans shape
  exact ⟨rfl, rfl⟩

namespace System

variable {system : System} {prospect : Prospect} {front back : List Worker} {worker thread : Worker}
  {others : Shared} {told : List WorkerEvent} {taken : List TaskId} {selected : List Path}
  {task : Task}

/-! ## Who is at which task -/

/-- A worker that keeps its task at hand until the manager is told of it leaves everyone at the
tasks they are at. -/
theorem attempts_perm_of_same (split : system.workers = front ++ worker :: back)
    (events : others.events.waiting = system.shared.events.waiting ++ told)
    (same : thread.phase.task?.toList ++ (outcomesOf told).map (fun outcome : Outcome =>
      outcome.task) =
      worker.phase.task?.toList) :
    (system.withStep front back (thread, others)).attempts.Perm system.attempts := by
  have before := @attempts_perm system front back worker system.shared [] (List.append_nil _).symm
  rw [withStep_self split] at before
  have after := @attempts_perm system front back thread others told events
  rw [same] at after
  refine after.trans (List.Perm.trans ?_ before.symm)
  rw [outcomesOf, List.filterMap_nil, List.map_nil, List.append_nil]

/-- A worker that keeps its task at hand tells the manager what it does. -/
theorem Roster.keep (roster : system.Roster) (split : system.workers = front ++ worker :: back)
    (distinct : (system.workers.map (·.id)).Nodup) (same : thread.id = worker.id)
    (events : others.events.waiting = system.shared.events.waiting ++ told)
    (listens : others.events.receiverGone = system.shared.events.receiverGone)
    (own : ∀ event ∈ told, event.worker = worker.id)
    (tasks : tasksOf others.tasks.waiting ⊆ tasksOf system.shared.tasks.waiting)
    (keeps : thread.phase.task?.toList ++
      (outcomesOf told).map (fun outcome : Outcome => outcome.task) = worker.phase.task?.toList)
    (stands : ∀ lost standing, worker.phase.Stands lost standing →
      thread.phase.Stands lost (told.foldl Standing.hear standing)) :
    (system.withStep front back (thread, others)).Roster := by
  have attempts :=
    @attempts_perm_of_same system front back worker thread others told split events keeps
  have still (id : TaskId) (lost : system.Lost id) :
      (system.withStep front back (thread, others)).Lost id :=
    lost.proceed (fun task mem => Or.inl (attempts.subset mem)) tasks
  refine roster.proceed split distinct same events listens own ?_ still fun standing before => ?_
  · exact attempts.nodup_iff.2 roster.once
  · exact (stands _ standing before).mono still

/-- The only open attempt at a file is the one that a worker has at hand. -/
theorem alone_of_work (sound : system.Sound taken selected) (once : selected.count task.path ≤ 1)
    (working : system.manager.isClosed = false) (mem : worker ∈ system.workers)
    (work : worker.phase.work? = some task)
    (flies : ∃ entry ∈ system.manager.inFlight, entry.task = task)
    (queued : ∀ other ∈ tasksOf system.shared.tasks.waiting,
      ∃ entry ∈ system.manager.inFlight, entry.task = other) :
    (∀ other ∈ system.manager.pending ++ tasksOf system.shared.tasks.waiting,
        other.path ≠ task.path) ∧
      ∀ entry ∈ system.manager.inFlight, entry.task.path = task.path → entry.task = task := by
  have books := sound.manager.books working
  obtain ⟨flight, inside, rfl⟩ := flies
  have count := sound.manager.conserved.files flight.task.path
  dsimp only at count
  have flying : 0 < (system.manager.inFlight.map (·.task.path)).count flight.task.path :=
    List.count_pos_iff.2 (List.mem_map_of_mem inside)
  have single (entry : InFlight) (among : entry ∈ system.manager.inFlight)
      (about : entry.task.path = flight.task.path) : entry.task = flight.task := by
    have most : (system.manager.inFlight.map (·.task.path)).count flight.task.path ≤ 1 := by omega
    rw [eq_of_count_map_le_one most among inside about rfl]
  refine ⟨fun other waits about => ?_, single⟩
  rcases List.mem_append.1 waits with waits | waits
  · have pending : 0 < (system.manager.pending.map (·.path)).count flight.task.path :=
      List.count_pos_iff.2 (about ▸ List.mem_map_of_mem waits)
    omega
  · obtain ⟨entry, among, rfl⟩ := queued other waits
    refine books.takenNotQueued entry.task waits ?_
    rw [single entry among about]
    exact attempts_subset books sound.workers (mem_attempts_of_work mem work)

/-! ## Attempts -/

/-- A worker may do anything that asks the engine for other files only and that is as foreseen. -/
theorem Followed.proceed (followed : system.Followed prospect)
    (split : system.workers = front ++ worker :: back)
    (events : others.events.waiting = system.shared.events.waiting ++ told)
    (loads : others.loads.times prospect.path = system.shared.loads.times prospect.path)
    (tasks : tasksOf others.tasks.waiting ⊆ tasksOf system.shared.tasks.waiting)
    (begun : ∀ task started,
      thread.phase = .announcing task started ∨ thread.phase = .processing task started →
        task.path = prospect.path →
          prospect.Reaches task.attempt (system.shared.loads.times prospect.path))
    (done : ∀ task started result, thread.phase = .delivering task started result →
      task.path = prospect.path →
        prospect.Foresees task.attempt (system.shared.loads.times prospect.path) result)
    (tells : ∀ outcome ∈ thread.phase.outcome?.toList ++ outcomesOf told,
      outcome.delivery ≠ .withheld → worker.phase.outcome? = some outcome ∨
        ∀ entry ∈ system.manager.inFlight, entry.task.id = outcome.task →
          entry.task.path = prospect.path →
            prospect.Foresees entry.task.attempt (system.shared.loads.times prospect.path)
              outcome.result)
    (lost : ∀ entry ∈ system.manager.inFlight, entry.task.path = prospect.path →
      entry.task.id ∉ (system.withStep front back (thread, others)).attempts →
        entry.task ∉ tasksOf others.tasks.waiting →
          entry.task.id ∉ system.attempts ∧ entry.task ∉ tasksOf system.shared.tasks.waiting) :
    (system.withStep front back (thread, others)).Followed prospect := by
  have here : worker ∈ system.workers := by simp [split]
  have among (other : Worker)
      (mem : other ∈ (system.withStep front back (thread, others)).workers) :
      other = thread ∨ other ∈ system.workers := by
    rw [split]
    simp only [withStep, List.mem_append, List.mem_cons] at mem ⊢
    tauto
  have same : (system.withStep front back (thread, others)).shared.loads.times prospect.path =
      system.shared.loads.times prospect.path := loads
  refine ⟨?_, ?_, ?_, ?_, ?_⟩
  all_goals rw [same]
  · intro task mem about
    refine followed.fresh task ?_ about
    rcases List.mem_append.1 mem with mem | mem
    · exact List.mem_append_left _ mem
    · exact List.mem_append_right _ (tasks mem)
  · intro other mem task started phase about
    rcases among other mem with rfl | mem
    · exact begun task started phase about
    · exact followed.begun other mem task started phase about
  · intro other mem task started result phase about
    rcases among other mem with rfl | mem
    · exact done task started result phase about
    · exact followed.done other mem task started result phase about
  · intro outcome mem delivered entry inside number about
    have known : outcome ∈ system.outcomes ∨ prospect.Foresees entry.task.attempt
        (system.shared.loads.times prospect.path) outcome.result := by
      rcases (mem_outcomes events).1 mem with own | other
      · rcases tells outcome own delivered with reports | foreseen
        · refine Or.inl (List.mem_append_left _ (List.mem_filterMap.2 ⟨worker, here, reports⟩))
        · exact Or.inr (foreseen entry inside number about)
      · refine Or.inl ?_
        have whole :=
          @mem_outcomes system front back worker system.shared [] (List.append_nil _).symm outcome
        rw [withStep_self split] at whole
        exact whole.2 (Or.inr other)
    exact known.elim (fun known =>
      followed.told outcome known delivered entry inside number about) id
  · intro entry inside about nobody apart
    obtain ⟨free, unqueued⟩ := lost entry inside about nobody apart
    exact followed.lost entry inside about free unqueued

/-- A worker that keeps its task at hand and asks the engine for no such file loses nothing. -/
theorem Followed.keep (followed : system.Followed prospect)
    (split : system.workers = front ++ worker :: back)
    (events : others.events.waiting = system.shared.events.waiting ++ told)
    (loads : others.loads.times prospect.path = system.shared.loads.times prospect.path)
    (queue : tasksOf others.tasks.waiting = tasksOf system.shared.tasks.waiting)
    (keeps : thread.phase.task?.toList ++
      (outcomesOf told).map (fun outcome : Outcome => outcome.task) = worker.phase.task?.toList)
    (begun : ∀ task started,
      thread.phase = .announcing task started ∨ thread.phase = .processing task started →
        task.path = prospect.path →
          prospect.Reaches task.attempt (system.shared.loads.times prospect.path))
    (done : ∀ task started result, thread.phase = .delivering task started result →
      task.path = prospect.path →
        prospect.Foresees task.attempt (system.shared.loads.times prospect.path) result)
    (tells : ∀ outcome ∈ thread.phase.outcome?.toList ++ outcomesOf told,
      outcome.delivery ≠ .withheld → worker.phase.outcome? = some outcome ∨
        ∀ entry ∈ system.manager.inFlight, entry.task.id = outcome.task →
          entry.task.path = prospect.path →
            prospect.Foresees entry.task.attempt (system.shared.loads.times prospect.path)
              outcome.result) :
    (system.withStep front back (thread, others)).Followed prospect := by
  have attempts :=
    @attempts_perm_of_same system front back worker thread others told split events keeps
  refine followed.proceed split events loads (queue ▸ List.Subset.refl _) begun done tells ?_
  exact fun entry _ _ nobody apart => ⟨fun mem => nobody (attempts.symm.subset mem), queue ▸ apart⟩

/-- A worker may do anything with a task that counts as with the workers, if it tells the manager of
what it does and follows what is to be expected. -/
theorem Foretold.proceed (foretold : system.Foretold prospect)
    (split : system.workers = front ++ worker :: back)
    (tasks : tasksOf others.tasks.waiting ⊆ tasksOf system.shared.tasks.waiting)
    (work : ∀ task, thread.phase.work? = some task → worker.phase.work? = some task ∨
      task ∈ tasksOf system.shared.tasks.waiting)
    (attends : system.manager.isClosed = false → system.Roster → system.Followed prospect →
      (system.withStep front back (thread, others)).Roster ∧
        (system.withStep front back (thread, others)).Followed prospect) :
    (system.withStep front back (thread, others)).Foretold prospect where
  retry := foretold.retry
  settled := foretold.settled
  flying := by
    intro other mem task phase
    rcases List.mem_append.1 mem with mem | mem
    · exact foretold.flying other (by simp [split, mem]) task phase
    · rcases List.mem_cons.1 mem with rfl | mem
      · rcases work task phase with own | waits
        · exact foretold.flying worker (by simp [split]) task own
        · exact foretold.queued task waits
      · exact foretold.flying other (by simp [split, mem]) task phase
  queued task mem := foretold.queued task (tasks mem)
  roster working := (attends working (foretold.roster working) (foretold.followed working)).1
  followed working := (attends working (foretold.roster working) (foretold.followed working)).2

/-- Nobody but the worker that makes an attempt at a file has one at hand, so how often the engine
is asked for the file meanwhile matters to nobody else. -/
theorem Followed.make (foretold : system.Foretold prospect) (sound : system.Sound taken selected)
    (once : selected.count prospect.path ≤ 1) (working : system.manager.isClosed = false)
    (split : system.workers = front ++ worker :: back) (work : worker.phase.work? = some task)
    (about : task.path = prospect.path) (events : others.events = system.shared.events)
    (tasks : others.tasks = system.shared.tasks)
    (begun : ∀ task started,
      thread.phase ≠ .announcing task started ∧ thread.phase ≠ .processing task started)
    (done : ∀ other started result, thread.phase = .delivering other started result →
      prospect.Foresees other.attempt (others.loads.times prospect.path) result)
    (tells : ∀ outcome, thread.phase.outcome? = some outcome → outcome.delivery = .withheld)
    (lost : thread.phase.task? = some task.id ∨
      prospect.Foresees task.attempt (others.loads.times prospect.path)
        ((orphanResult prospect.path).withAttempt task.attempt)) :
    (system.withStep front back (thread, others)).Followed prospect := by
  have here : worker ∈ system.workers := by simp [split]
  have flies := foretold.flying worker here task work
  obtain ⟨none, single⟩ :=
    alone_of_work sound (about.symm ▸ once) working here work flies foretold.queued
  rw [about] at none single
  have nobody := apart_of_nodup (foretold.roster working).once split
    (WorkerPhase.task?_of_work? work)
  have hands (other : Worker) (mem : other ∈ front ++ back) (held : Task)
      (also : other.phase.work? = some held) : held.path ≠ prospect.path := by
    intro same
    have among : other ∈ system.workers := by
      rw [split]
      simp only [List.mem_append, List.mem_cons] at mem ⊢
      tauto
    obtain ⟨entry, inside, rfl⟩ := foretold.flying other among held also
    rw [single entry inside same] at also
    exact nobody (@mem_attempts_of_work (system.withWorkers (front ++ back)) other task mem also)
  have among (other : Worker)
      (mem : other ∈ (system.withStep front back (thread, others)).workers) :
      other = thread ∨ other ∈ front ++ back := by
    simp only [withStep, List.mem_append, List.mem_cons] at mem ⊢
    tauto
  have waiting : others.events.waiting = system.shared.events.waiting ++ [] := by
    rw [events, List.append_nil]
  refine ⟨?_, ?_, ?_, ?_, ?_⟩
  · intro other mem same
    rw [withStep, tasks] at mem
    exact absurd same (none other mem)
  · intro other mem held started phase same
    rcases among other mem with rfl | mem
    · exact (phase.elim (begun held started).1 (begun held started).2).elim
    · refine absurd same (hands other mem held ?_)
      rcases phase with phase | phase <;> rw [phase] <;> rfl
  · intro other mem held started result phase same
    rcases among other mem with rfl | mem
    · exact done held started result phase
    · exact absurd same (hands other mem held (by rw [phase]; rfl))
  · intro outcome mem delivered entry inside same at_
    rcases (mem_outcomes waiting).1 mem with own | other
    · simp only [outcomesOf, List.filterMap_nil, List.append_nil] at own
      exact absurd (tells outcome (Option.mem_toList.1 own)) delivered
    · rw [single entry inside at_] at same
      exact absurd (same ▸ mem_attempts_of_outcome other) nobody
  · intro entry inside at_ free _
    rw [single entry inside at_] at free ⊢
    refine lost.resolve_left fun held => free ?_
    exact List.mem_append_left _ (List.mem_filterMap.2 ⟨thread, by simp [withStep], held⟩)

/-! ## Steps -/

section Steps

variable (foretold : system.Foretold prospect) (distinct : (system.workers.map (·.id)).Nodup)
  (split : system.workers = front ++ worker :: back)

include foretold distinct split

/-- A worker may tell the manager what it does. -/
theorem Foretold.tell {event : WorkerEvent} {phase : WorkerPhase}
    (reported : system.shared.report? event = some others) (own : event.worker = worker.id)
    (keeps : phase.task?.toList ++
      (outcomesOf [event]).map (fun outcome : Outcome => outcome.task) = worker.phase.task?.toList)
    (stands : ∀ lost standing, worker.phase.Stands lost standing →
      phase.Stands lost (standing.hear event))
    (work : ∀ task, phase.work? = some task → ∃ started,
      worker.phase = .announcing task started ∧ phase = .processing task started)
    (tells : ∀ outcome ∈ phase.outcome?.toList ++ outcomesOf [event],
      worker.phase.outcome? = some outcome) :
    (system.withStep front back ({ worker with phase := phase }, others)).Foretold prospect := by
  have here : worker ∈ system.workers := by simp [split]
  obtain ⟨events, rfl, listens, waiting⟩ := Shared.exists_events_of_report? reported
  refine foretold.proceed split (List.Subset.refl _) (fun task mine => Or.inl ?_)
    fun working roster followed => ?_
  · obtain ⟨started, announcing, -⟩ := work task mine
    rw [announcing]
    rfl
  · rw [roster.listens] at waiting
    refine ⟨roster.keep split distinct rfl waiting listens ?_
      (List.Subset.refl _) keeps stands, ?_⟩
    · exact fun other mem => List.mem_singleton.1 mem ▸ own
    · refine followed.keep split waiting rfl rfl keeps ?_ ?_ fun outcome mem _ =>
        Or.inl (tells outcome mem)
      · intro task started same about
        have mine : phase.work? = some task := by
          rcases same with same | same <;> rw [show phase = _ from same] <;> rfl
        obtain ⟨since, announcing, -⟩ := work task mine
        exact followed.begun worker here task since (Or.inl announcing) about
      · intro task started result same
        obtain ⟨since, -, begins⟩ := work task (by rw [show phase = _ from same]; rfl)
        exact absurd (begins.symm.trans same) nofun

/-- A worker may turn to leave when there is nothing more for it to do. -/
theorem Foretold.stop {tasks : Channel Command} (phase : worker.phase = .idle)
    (queue : tasksOf tasks.waiting = tasksOf system.shared.tasks.waiting) :
    (system.withStep front back
      ({ worker with phase := .leaving false }, { system.shared with tasks := tasks })).Foretold
        prospect := by
  have events : system.shared.events.waiting = system.shared.events.waiting ++ [] :=
    (List.append_nil _).symm
  refine foretold.proceed split (queue ▸ List.Subset.refl _) (fun _ none => nomatch none)
    fun working roster followed => ⟨?_, ?_⟩
  · refine roster.keep split distinct rfl events rfl (fun _ mem => nomatch mem)
      (queue ▸ List.Subset.refl _) (by rw [phase]; rfl) fun lost standing stands => ?_
    rw [phase] at stands
    exact stands
  · refine followed.keep split events rfl queue (by rw [phase]; rfl) ?_ ?_ ?_
    · exact fun _ _ same => same.elim nofun nofun
    · exact fun _ _ _ same => nomatch same
    · exact fun _ mem => nomatch mem

/-- A worker may take a task that waits. -/
theorem Foretold.take (sound : system.Sound taken selected) {tasks : Channel Command}
    {started : Instant} (phase : worker.phase = .idle)
    (received : system.shared.tasks.receive? = some (.process task, tasks)) :
    (system.withStep front back
      ({ worker with phase := .announcing task started },
        { system.shared with tasks := tasks })).Foretold prospect := by
  have events : system.shared.events.waiting = system.shared.events.waiting ++ [] :=
    (List.append_nil _).symm
  have queue : tasksOf system.shared.tasks.waiting = task :: tasksOf tasks.waiting := by
    rw [Channel.waiting_of_receive? received]
    rfl
  have queued : task ∈ tasksOf system.shared.tasks.waiting := queue ▸ List.mem_cons_self
  have tasks_subset : tasksOf tasks.waiting ⊆ tasksOf system.shared.tasks.waiting :=
    queue ▸ List.subset_cons_self _ _
  -- The task is all that the worker has at hand, and before that it had nothing at hand.
  have before := @attempts_perm system front back worker system.shared [] events
  rw [withStep_self split, phase] at before
  have after := @attempts_perm system front back
    { worker with phase := .announcing task started } { system.shared with tasks := tasks }
      [] events
  refine foretold.proceed split tasks_subset (fun other mine => Or.inr ?_)
    fun working roster followed => ⟨?_, ?_⟩
  · cases mine
    exact queued
  · have books := sound.manager.books working
    have fresh : task.id ∉ system.attempts := fun mem =>
      books.takenNotQueued task queued (attempts_subset books sound.workers mem)
    refine roster.proceed split distinct rfl events rfl (fun _ mem => nomatch mem) ?_
      (fun id lost => ?_) fun standing stands => ?_
    · refine nodup_withStep roster.once split events (List.nodup_singleton _) fun id mem => ?_
      exact Or.inr (List.mem_singleton.1 mem ▸ fresh)
    · refine lost.proceed (fun other mem => ?_) tasks_subset
      rcases List.mem_cons.1 (after.subset mem) with rfl | mem
      · exact Or.inr ⟨task, queued, rfl⟩
      · exact Or.inl (before.symm.subset mem)
    · rw [phase] at stands
      exact stands
  · refine followed.proceed split events rfl tasks_subset ?_ ?_ ?_ ?_
    · rintro other since (same | same) about
      · cases same
        exact followed.fresh task (List.mem_append_right _ queued) about
      · cases same
    · exact fun _ _ _ same => nomatch same
    · exact fun _ mem => nomatch mem
    · intro entry _ _ nobody apart
      refine ⟨fun mem => nobody (after.symm.subset (List.mem_cons_of_mem _ (before.subset mem))),
        fun mem => ?_⟩
      rw [queue] at mem
      rcases List.mem_cons.1 mem with same | mem
      · exact nobody (after.symm.subset (same ▸ List.mem_cons_self))
      · exact apart mem

/-- A worker may deliver its result. -/
theorem Foretold.deliver (sound : system.Sound taken selected) {started : Instant}
    {result : ExtractionResult} (phase : worker.phase = .delivering task started result) :
    (system.withStep front back (worker.deliver task result system.shared)).Foretold prospect := by
  have here : worker ∈ system.workers := by simp [split]
  have events : system.shared.events.waiting = system.shared.events.waiting ++ [] :=
    (List.append_nil _).symm
  refine foretold.proceed split (List.Subset.refl _) (fun _ none => nomatch none)
    fun working roster followed => ⟨?_, ?_⟩
  · refine roster.keep split distinct rfl events rfl (fun _ mem => nomatch mem)
      (List.Subset.refl _) (by rw [phase]; rfl) fun lost standing stands => ?_
    rw [phase] at stands
    exact stands
  · refine followed.keep split events rfl rfl (by rw [phase]; rfl) ?_ ?_ ?_
    · exact fun _ _ same => same.elim nofun nofun
    · exact fun _ _ _ same => nomatch same
    · intro outcome mem _
      obtain rfl := List.mem_singleton.1 mem
      refine Or.inr fun entry inside same about => ?_
      obtain ⟨flight, flies, rfl⟩ := foretold.flying worker here task (by rw [phase]; rfl)
      have own := (sound.manager.books working).task_eq (List.mem_map_of_mem inside)
        (List.mem_map_of_mem flies) same
      rw [own] at about ⊢
      exact followed.done worker here _ started result phase about

/-- A worker may be taken down by the engine. -/
theorem Foretold.crash (sound : system.Sound taken selected)
    (once : selected.count prospect.path ≤ 1)
    (forecast : prospect.attempt =
      system.rules.forecast prospect.path (system.shared.disk.status prospect.path))
    {started : Instant} (phase : worker.phase = .processing task started)
    (processed : Worker.process system.rules task.path system.shared = (none, others)) :
    (system.withStep front back ({ worker with phase := .leaving true }, others)).Foretold
      prospect := by
  have here : worker ∈ system.workers := by simp [split]
  have work : worker.phase.work? = some task := by rw [phase]; rfl
  obtain ⟨events, tasks⟩ := Worker.channels_of_process processed
  obtain ⟨found, loads, elsewhere⟩ := Worker.process_eq system.rules task.path system.shared
  rw [processed] at found loads elsewhere
  dsimp only at found loads elsewhere
  have waiting : others.events.waiting = system.shared.events.waiting ++ [] := by
    rw [events, List.append_nil]
  have queue : tasksOf others.tasks.waiting ⊆ tasksOf system.shared.tasks.waiting :=
    tasks ▸ List.Subset.refl _
  -- The task is all that the worker had at hand, and now it has nothing at hand.
  have before := @attempts_perm system front back worker system.shared [] (List.append_nil _).symm
  rw [withStep_self split, phase] at before
  have after := @attempts_perm system front back { worker with phase := .leaving true } others []
    waiting
  refine foretold.proceed split queue (fun _ none => nomatch none)
    fun working roster followed => ⟨?_, ?_⟩
  · have books := sound.manager.books working
    have taken : task.id ∈ taken :=
      attempts_subset books sound.workers (mem_attempts_of_work here work)
    have lost : (system.withStep front back ({ worker with phase := .leaving true }, others)).Lost
        task.id :=
      { attempts := fun mem => apart_of_nodup roster.once split (WorkerPhase.task?_of_work? work)
          (after.subset mem)
        issued := books.takenIssued task.id taken
        waits := by
          intro other mem same
          rcases List.mem_append.1 mem with mem | mem
          · exact books.takenNotPending other mem (same ▸ taken)
          · exact books.takenNotQueued other (queue mem) (same ▸ taken) }
    refine roster.proceed split distinct rfl waiting (by rw [events]) (fun _ mem => nomatch mem) ?_
      (fun id gone => ?_) fun standing stands => ?_
    · exact nodup_withStep roster.once split waiting List.nodup_nil fun _ mem => nomatch mem
    · exact gone.proceed
        (fun other mem =>
          Or.inl (before.symm.subset (List.mem_cons_of_mem _ (after.subset mem)))) queue
    · rw [phase] at stands
      exact ⟨task.id, stands, lost⟩
  · by_cases about : task.path = prospect.path
    · refine Followed.make foretold sound once working split work about events tasks
        (fun _ _ => ⟨nofun, nofun⟩) (fun _ _ _ same => nomatch same) (fun _ same => nomatch same)
        (Or.inr ?_)
      rw [about] at found loads
      exact (followed.begun worker here task started (Or.inr phase) about).foresees forecast
        (Prod.ext found.symm loads.symm) rfl
    · refine followed.proceed split waiting (elsewhere _ (Ne.symm about)) queue
        (fun _ _ same => same.elim nofun nofun) (fun _ _ _ same => nomatch same)
        (fun _ mem => nomatch mem) fun entry inside same nobody apart => ?_
      refine ⟨fun mem => ?_, tasks ▸ apart⟩
      rcases List.mem_cons.1 (before.subset mem) with own | mem
      · obtain ⟨flight, flies, rfl⟩ := foretold.flying worker here task work
        have one := (sound.manager.books working).task_eq (List.mem_map_of_mem inside)
          (List.mem_map_of_mem flies) own
        exact about (one ▸ same)
      · exact nobody (after.symm.subset mem)

/-- A worker may find something in the file of its task, in time or too late. -/
theorem Foretold.find (sound : system.Sound taken selected)
    (once : selected.count prospect.path ≤ 1)
    (forecast : prospect.attempt =
      system.rules.forecast prospect.path (system.shared.disk.status prospect.path))
    {started begun now : Instant} (phase : worker.phase = .processing task started)
    {memoryMb : Option Float} {result : ExtractionResult}
    (processed : Worker.process system.rules task.path system.shared = (some result, others)) :
    (system.withStep front back
      ({ worker with phase := Worker.judge system.rules task started begun now memoryMb result },
        { others with now := others.now + Worker.leastElapsed })).Foretold prospect := by
  have here : worker ∈ system.workers := by simp [split]
  have work : worker.phase.work? = some task := by rw [phase]; rfl
  obtain ⟨events, tasks⟩ := Worker.channels_of_process processed
  obtain ⟨found, loads, elsewhere⟩ := Worker.process_eq system.rules task.path system.shared
  rw [processed] at found loads elsewhere
  dsimp only at found loads elsewhere
  have waiting : others.events.waiting = system.shared.events.waiting ++ [] := by
    rw [events, List.append_nil]
  have queue : tasksOf others.tasks.waiting = tasksOf system.shared.tasks.waiting := by rw [tasks]
  have judged : (∃ outcome : Outcome,
      Worker.judge system.rules task started begun now memoryMb result = .reporting outcome ∧
        outcome.task = task.id ∧ outcome.delivery = .withheld) ∨
      ∃ worked, Worker.judge system.rules task started begun now memoryMb result =
        .delivering task started (Worker.stamp result task.attempt worked memoryMb) := by
    unfold Worker.judge
    split
    · exact Or.inl ⟨_, rfl, rfl, rfl⟩
    · exact Or.inr ⟨_, rfl⟩
  generalize Worker.judge system.rules task started begun now memoryMb result = next at judged
  have held : next.task? = some task.id := by
    rcases judged with ⟨outcome, rfl, same, -⟩ | ⟨worked, rfl⟩
    · exact congrArg some same
    · rfl
  have keeps : next.task?.toList ++ (outcomesOf []).map (fun outcome : Outcome => outcome.task) =
      worker.phase.task?.toList := by
    rw [held, phase]
    rfl
  have turned (other : Task) (since : Instant) :
      next ≠ .announcing other since ∧ next ≠ .processing other since := by
    rcases judged with ⟨outcome, rfl, -⟩ | ⟨worked, rfl⟩ <;> exact ⟨nofun, nofun⟩
  have tells (outcome : Outcome) (same : next.outcome? = some outcome) :
      outcome.delivery = .withheld := by
    rcases judged with ⟨own, rfl, -, late⟩ | ⟨worked, rfl⟩
    · cases same
      exact late
    · cases same
  refine foretold.proceed split (queue ▸ List.Subset.refl _) (fun other mine => Or.inl ?_)
    fun working roster followed => ⟨?_, ?_⟩
  · rcases judged with ⟨outcome, rfl, -⟩ | ⟨worked, rfl⟩
    · cases mine
    · cases mine
      exact work
  · refine roster.keep split distinct rfl waiting (by rw [events]) (fun _ mem => nomatch mem)
      (queue ▸ List.Subset.refl _) keeps fun lost standing stands => ?_
    rw [phase] at stands
    rcases judged with ⟨outcome, rfl, same, -⟩ | ⟨worked, rfl⟩
    · exact stands.trans (congrArg (Standing.works ∘ some) same.symm)
    · exact stands
  · by_cases about : task.path = prospect.path
    · refine Followed.make foretold sound once working split work about events tasks turned
        (fun other since delivered same => ?_) tells (Or.inl held)
      rcases judged with ⟨outcome, rfl, -⟩ | ⟨worked, rfl⟩
      · cases same
      · cases same
        rw [about] at found loads
        exact (followed.begun worker here task started (Or.inr phase) about).foresees forecast
          (Prod.ext found.symm loads.symm) rfl
    · refine followed.keep split waiting (elsewhere _ (Ne.symm about)) queue keeps
        (fun other since same => absurd same (not_or.2 (turned other since)))
        (fun other since delivered same at_ => ?_) fun outcome mem delivered => ?_
      · rcases judged with ⟨outcome, rfl, -⟩ | ⟨worked, rfl⟩
        · cases same
        · cases same
          exact absurd at_ about
      · simp only [outcomesOf, List.filterMap_nil, List.append_nil] at mem
        exact absurd (tells outcome (Option.mem_toList.1 mem)) delivered

/-- No step of a worker gets in the way of what is to be expected. -/
theorem Foretold.goes (sound : system.Sound taken selected)
    (once : selected.count prospect.path ≤ 1)
    (forecast : prospect.attempt =
      system.rules.forecast prospect.path (system.shared.disk.status prospect.path))
    {after : Worker × Shared} (goes : worker.Goes system.rules system.shared after) :
    (system.withStep front back after).Foretold prospect := by
  cases goes with
  | take phase received => exact foretold.take distinct split sound phase received
  | stop phase received =>
      exact foretold.stop distinct split phase (by rw [Channel.waiting_of_receive? received]; rfl)
  | close phase => exact foretold.stop distinct split phase rfl
  | announce phase reported =>
      refine foretold.tell distinct split reported rfl (by rw [phase]; rfl) ?_ ?_
        (by rintro _ ⟨⟩)
      · intro lost standing stands
        rw [phase] at stands
        rw [show standing = _ from stands]
        rfl
      · intro other same
        cases same
        exact ⟨_, phase, rfl⟩
  | crash phase processed => exact foretold.crash distinct split sound once forecast phase processed
  | find phase processed =>
      exact foretold.find distinct split sound once forecast phase processed
  | deliver phase => exact foretold.deliver distinct split sound phase
  | report phase reported =>
      refine foretold.tell distinct split reported rfl (by rw [phase]; rfl) ?_
        (by rintro _ ⟨⟩) fun outcome mem => ?_
      · intro lost standing stands
        rw [phase] at stands
        rw [show standing = _ from stands]
        simp [Standing.hear, WorkerPhase.Stands]
      · rw [phase]
        exact congrArg some (List.mem_singleton.1 mem).symm
  | @leave broken others phase reported =>
      refine foretold.tell distinct split reported rfl (by rw [phase]; rfl) ?_
        (by rintro _ ⟨⟩) (by rintro _ ⟨⟩)
      intro lost standing stands
      rw [phase] at stands
      cases broken with
      | false =>
          rw [show standing = _ from stands]
          rfl
      | true =>
          obtain ⟨id, rfl, gone⟩ := stands
          exact ⟨id, rfl, gone⟩

end Steps

end System

end PartsList
