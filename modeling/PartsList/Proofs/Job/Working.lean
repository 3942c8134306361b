import PartsList.Proofs.Job.Closing

/-!
# Deliveries and the workers' steps

A worker takes a task that nobody else has, delivers a result about its file, and tells the manager
afterwards.  A result that is delivered while the task counts as with the worker replaces no result
that the manager has accepted or is going to accept.
-/

namespace PartsList

open Disk ExtractionResult

/-- What occurs once is the image of one element. -/
theorem eq_of_count_map_le_one {α β : Type} [BEq β] [LawfulBEq β] {f : α → β} {items : List α}
    {value : β} (count : (items.map f).count value ≤ 1) {first second : α} (mem : first ∈ items)
    (also : second ∈ items) (same : f first = value) (alike : f second = value) :
    first = second := by
  induction items with
  | nil => cases mem
  | cons item items induction =>
      rw [List.map_cons, List.count_cons] at count
      have positive {other : α} (inside : other ∈ items) (same : f other = value) :
          0 < (items.map f).count value :=
        List.count_pos_iff.2 (same ▸ List.mem_map_of_mem inside)
      rcases List.mem_cons.1 mem with rfl | mem
      · rcases List.mem_cons.1 also with rfl | also
        · rfl
        · have := positive also alike
          rw [if_pos (beq_iff_eq.2 same)] at count
          omega
      · have := positive mem same
        rcases List.mem_cons.1 also with rfl | also
        · rw [if_pos (beq_iff_eq.2 alike)] at count
          omega
        · exact induction (by omega) mem also

namespace System

variable {system : System} {start : Disk} {file : FileId} {directory path : Path}
  {selected : List Path}
  {taken : List TaskId} {front back : List Worker} {worker next : Worker} {shared : Shared}
  {told : List WorkerEvent}

theorem attempts_perm (events : shared.events.waiting = system.shared.events.waiting ++ told) :
    (system.withStep front back (next, shared)).attempts.Perm
      ((next.phase.task?.toList ++ (outcomesOf told).map fun outcome : Outcome => outcome.task) ++
        (system.withWorkers (front ++ back)).attempts) := by
  unfold attempts withWorkers withStep
  dsimp only
  rw [events, outcomesOf_append, List.perm_iff_count]
  intro id
  simp only [List.filterMap_append, List.filterMap_cons, List.map_append, List.count_append]
  cases next.phase.task? with
  | none =>
      simp only [Option.toList_none, List.count_nil]
      omega
  | some task =>
      simp only [Option.toList_some, List.count_cons, List.count_nil]
      omega

/-- A worker's task is at no other worker, and no event tells of it. -/
theorem apart_of_nodup (once : system.attempts.Nodup)
    (split : system.workers = front ++ worker :: back)
    {id : TaskId} (task : worker.phase.task? = some id) :
    id ∉ (system.withWorkers (front ++ back)).attempts := by
  have whole := @attempts_perm system front back worker system.shared [] (List.append_nil _).symm
  rw [withStep_self split] at whole
  rw [whole.nodup_iff, task] at once
  exact fun mem => (List.nodup_append.1 once).2.2 id (by simp) id mem rfl

/-- A worker that takes at most a task that nobody has at hand leaves no attempt in two hands. -/
theorem nodup_withStep (once : system.attempts.Nodup)
    (split : system.workers = front ++ worker :: back)
    (events : shared.events.waiting = system.shared.events.waiting ++ told)
    (single : (next.phase.task?.toList ++ (outcomesOf told).map fun outcome => outcome.task).Nodup)
    (fresh : ∀ id ∈ next.phase.task?.toList ++ (outcomesOf told).map fun outcome => outcome.task,
      worker.phase.task? = some id ∨ id ∉ system.attempts) :
    (system.withStep front back (next, shared)).attempts.Nodup := by
  have whole := @attempts_perm system front back worker system.shared [] (List.append_nil _).symm
  rw [withStep_self split] at whole
  have rest := (List.nodup_append.1 (whole.nodup_iff.1 once)).2.1
  rw [(attempts_perm events).nodup_iff]
  refine List.nodup_append.2 ⟨single, rest, ?_⟩
  rintro id mem _ other rfl
  rcases fresh id mem with own | new
  · exact apart_of_nodup once split own other
  · exact new (whole.mem_iff.2 (List.mem_append_right _ other))

theorem Kept.proceed (kept : system.Kept start file directory path)
    (split : system.workers = front ++ worker :: back)
    (events : shared.events.waiting = system.shared.events.waiting ++ told)
    (arranged : (system.withStep front back (next, shared)).Arranged file directory)
    (evolves : system.shared.disk.Evolves shared.disk)
    (later : system.Upholds start file path (system.withStep front back (next, shared)) ∨
      system.Pristine path)
    (open_ : system.manager.isClosed = false → ∀ inbox ∈ shared.inboxes,
      .shutdown ∉ inbox.waiting ∧ inbox.senderGone = false)
    (single : (next.phase.task?.toList ++ (outcomesOf told).map fun outcome => outcome.task).Nodup)
    (fresh : system.manager.isClosed = false →
      ∀ id ∈ next.phase.task?.toList ++ (outcomesOf told).map fun outcome => outcome.task,
        worker.phase.task? = some id ∨ id ∉ system.attempts)
    (given : system.manager.isClosed = false → ∀ task, next.phase.work? = some task →
      worker.phase.work? = some task ∨
        ∀ entry ∈ system.manager.inFlight, entry.task.id = task.id → entry.task = task)
    (tells : system.manager.isClosed = false →
      ∀ outcome ∈ next.phase.outcome?.toList ++ outcomesOf told,
        worker.phase.outcome? = some outcome ∨ ∀ entry ∈ system.manager.inFlight,
          entry.task.id = outcome.task → entry.task.path = path →
            (system.withStep front back (next, shared)).Has start file path outcome) :
    (system.withStep front back (next, shared)).Kept start file directory path := by
  have here : worker ∈ system.workers := by simp [split]
  have others (other : Worker) (mem : other ∈ front ++ back) : other ∈ system.workers := by
    rw [split]
    simp only [List.mem_append, List.mem_cons] at mem ⊢
    tauto
  refine kept.advance arranged evolves later (fun working => ⟨working,
    ⟨⟨open_ working, (kept.orderly working).stays⟩, ?_, ?_⟩, ?_⟩) (fun _ => Or.inl) kept.ended
  all_goals have orderly := kept.orderly working
  · exact nodup_withStep orderly.once split events single (fresh working)
  · intro other mem task work entry inside same
    have mem : other = next ∨ other ∈ front ++ back := by
      simp only [withStep, List.mem_append, List.mem_cons] at mem ⊢
      tauto
    rcases mem with rfl | mem
    · rcases given working task work with own | new
      · exact orderly.given worker here task own entry inside same
      · exact new entry inside same
    · exact orderly.given other (others other mem) task work entry inside same
  · intro outcome mem entry inside same about
    rcases (mem_outcomes events).1 mem with own | other
    · rcases tells working outcome own with reports | has
      · refine Or.inl ⟨List.mem_append_left _ ?_, entry, inside, rfl⟩
        exact List.mem_filterMap.2 ⟨worker, here, reports⟩
      · exact Or.inr (has entry inside same about)
    · refine Or.inl ⟨?_, entry, inside, rfl⟩
      rcases List.mem_append.1 other with other | waits
      · obtain ⟨third, among, reports⟩ := List.mem_filterMap.1 other
        exact List.mem_append_left _ (List.mem_filterMap.2 ⟨third, others third among, reports⟩)
      · exact List.mem_append_right _ waits

/-- A worker that neither sends nor spills a result leaves what was delivered as it is. -/
theorem Kept.still (kept : system.Kept start file directory path)
    (split : system.workers = front ++ worker :: back) (id : next.id = worker.id)
    (spill : next.spill = worker.spill) (inboxes : shared.inboxes = system.shared.inboxes)
    (disk : shared.disk = system.shared.disk)
    (events : shared.events.waiting = system.shared.events.waiting ++ told)
    (about : ∀ task started result, next.phase = .delivering task started result →
      result.About task.path)
    (single : (next.phase.task?.toList ++ (outcomesOf told).map fun outcome => outcome.task).Nodup)
    (fresh : system.manager.isClosed = false →
      ∀ id ∈ next.phase.task?.toList ++ (outcomesOf told).map fun outcome => outcome.task,
        worker.phase.task? = some id ∨ id ∉ system.attempts)
    (given : system.manager.isClosed = false → ∀ task, next.phase.work? = some task →
      worker.phase.work? = some task ∨
        ∀ entry ∈ system.manager.inFlight, entry.task.id = task.id → entry.task = task)
    (tells : system.manager.isClosed = false →
      ∀ outcome ∈ next.phase.outcome?.toList ++ outcomesOf told,
        worker.phase.outcome? = some outcome ∨ outcome.delivery = .withheld ∧
          ∀ entry ∈ system.manager.inFlight, entry.task.id = outcome.task →
            outcome.result.About entry.task.path) :
    (system.withStep front back (next, shared)).Kept start file directory path := by
  have here : worker ∈ system.workers := by simp [split]
  have known := kept.known worker.spill
    (List.mem_cons_of_mem _ (List.mem_append_left _ (List.mem_map_of_mem here)))
  have spills : (system.withStep front back (next, shared)).spills = system.spills := by
    simp only [System.spills, withStep, split, List.map_append, List.map_cons, spill]
  refine kept.proceed split events ?_ (disk ▸ Evolves.refl _) (Or.inl ?_) ?_ single fresh given ?_
  · refine kept.toArranged.proceed split id (congrArg List.length inboxes) ?_
      (disk ▸ Evolves.refl _)
      (by rwa [spill, disk]) (congrArg SpillFile.path spill) about
    intro shard inbox found
    exact ⟨inbox, inboxes ▸ found, fun _ mem => Or.inl mem⟩
  · refine Upholds.of_line kept.database rfl (disk ▸ Develops.refl _) ?_ ?_
    · exact fun other mem => ⟨other, spills ▸ mem, fun _ file => file⟩
    · exact congrArg (fun inboxes =>
        last? path.spelling (lineOf system.writers inboxes path)) inboxes
  · intro working
    rw [inboxes]
    exact (kept.orderly working).open_
  · intro working outcome mem
    refine (tells working outcome mem).imp_right ?_
    rintro ⟨withheld, about⟩ entry inside same rfl
    refine ⟨about entry inside same, fun _ => ?_⟩
    rw [Delivered, withheld]
    trivial

/-- Nothing that counts has been delivered of a file whose task is with a worker that has not told
its outcome. -/
theorem pristine_of_entry (sound : system.Sound taken selected) (once : selected.count path = 1)
    {entry : InFlight} (flies : entry ∈ system.manager.inFlight) (about : entry.task.path = path)
    (apart : system.manager.isClosed = false → ∀ outcome ∈ system.outcomes,
      outcome.task ≠ entry.task.id) : system.Pristine path := by
  have count := sound.manager.conserved.files path
  dsimp only at count
  rw [once] at count
  have flying : 0 < (system.manager.inFlight.map (·.task.path)).count path :=
    List.count_pos_iff.2 (about ▸ List.mem_map_of_mem flies)
  constructor
  · intro recorded mem final same
    have done : 0 < (system.manager.finals.map (·.task.path)).count path :=
      List.count_pos_iff.2 (same ▸ List.mem_map_of_mem (List.mem_filter.2 ⟨mem, final⟩))
    omega
  · intro working outcome mem other inside tells same
    have most : (system.manager.inFlight.map (·.task.path)).count path ≤ 1 := by omega
    obtain rfl := eq_of_count_map_le_one most flies inside about same
    exact apart working outcome mem tells.symm

/-- A worker may deliver a result about a file as long as its task is with it. -/
theorem Kept.deliver (kept : system.Kept start file directory path)
    (sound : system.Sound taken selected)
    (once : selected.count path = 1) (split : system.workers = front ++ worker :: back)
    {task : Task}
    {started : Instant} {result : ExtractionResult}
    (phase : worker.phase = .delivering task started result)
    (punctual : task.path = path → ∃ entry ∈ system.manager.inFlight, entry.task = task) :
    (system.withStep front back (worker.deliver task result system.shared)).Kept
      start file directory path := by
  have here : worker ∈ system.workers := by simp [split]
  have mem : worker.spill ∈ system.spills :=
    List.mem_cons_of_mem _ (List.mem_append_left _ (List.mem_map_of_mem here))
  have about := kept.about worker here task started result phase
  have routes := @routes_route system.shared.inboxes worker.spill system.shared.disk result
    kept.numbered (kept.known _ mem)
  unfold Worker.deliver
  dsimp only
  generalize route system.shared.inboxes worker.spill system.shared.disk result = routed at routes ⊢
  have known : routed.spill.Known routed.disk := routes.known (kept.known _ mem)
  have told : (system.shared.afterRouting routed).events.waiting =
      system.shared.events.waiting ++ [] := (List.append_nil _).symm
  refine kept.proceed split told ?_ routes.develops.toEvolves ?_ ?_ ?_ ?_ ?_ ?_
  · exact kept.toArranged.proceed split rfl routes.length (routes.queues about.2)
      routes.develops.toEvolves known routes.path
      fun _ _ _ same => nomatch same
  · by_cases same : task.path = path
    · obtain ⟨entry, flies, rfl⟩ := punctual same
      refine Or.inr (pristine_of_entry sound once flies same fun working outcome mem tells => ?_)
      have own : worker.phase.task? = some entry.task.id := by rw [phase]; rfl
      refine apart_of_nodup (kept.orderly working).once split own ?_
      have whole := @mem_outcomes system front back worker system.shared [] (List.append_nil _).symm
        outcome
      rw [withStep_self split, phase] at whole
      rcases whole.1 mem with none | mem
      · cases none
      · exact tells ▸ mem_attempts_of_outcome mem
    · exact Or.inl (Upholds.of_routes kept.database routes rfl rfl rfl
        (exists_spill_withStep split routes.file) (about.1 ▸ same))
  · exact fun working => routes.open_ (kept.orderly working).open_
  · exact List.nodup_singleton _
  · intro working id mem
    rw [phase]
    exact Or.inl (congrArg some (List.mem_singleton.1 mem).symm)
  · exact fun _ _ none => nomatch none
  · intro working outcome mem
    obtain rfl := List.mem_singleton.1 mem
    have orderly := kept.orderly working
    refine Or.inr fun entry inside same place => ?_
    have work : worker.phase.work? = some task := by rw [phase]; rfl
    have given := orderly.given worker here task work entry inside same
    refine ⟨?_, fun _ => ?_⟩
    · rw [← place, given]
      exact about
    · refine Delivered.of_routes routes rfl rfl rfl ?_ kept.inboxes
        (fun inbox mem => (orderly.open_ inbox mem).1) orderly.stays kept.since
      simp [System.spills, withStep]

/-- A worker that turns to leave says nothing. -/
theorem Kept.quit (kept : system.Kept start file directory path)
    (split : system.workers = front ++ worker :: back) (broken : Bool)
    (inboxes : shared.inboxes = system.shared.inboxes) (disk : shared.disk = system.shared.disk)
    (events : shared.events = system.shared.events) :
    (system.withStep front back ({ worker with phase := .leaving broken }, shared)).Kept
      start file directory path := by
  have told : shared.events.waiting = system.shared.events.waiting ++ [] := by
    rw [events, List.append_nil]
  refine kept.still split rfl rfl inboxes disk told
    (fun _ _ _ same => nomatch same) List.nodup_nil ?_ ?_ ?_
  · exact fun _ _ none => nomatch none
  · exact fun _ _ none => nomatch none
  · exact fun _ _ none => nomatch none

/-- The task that a worker takes is at no other worker. -/
theorem Kept.take (kept : system.Kept start file directory path)
    (sound : system.Sound taken selected)
    (split : system.workers = front ++ worker :: back) {task : Task} {tasks : Channel Command}
    {started : Instant} (received : system.shared.tasks.receive? = some (.process task, tasks)) :
    (system.withStep front back
      ({ worker with phase := .announcing task started },
        { system.shared with tasks := tasks })).Kept
        start file directory path := by
  have told : system.shared.events.waiting = system.shared.events.waiting ++ [] :=
    (List.append_nil _).symm
  have queued : task ∈ Manager.tasksOf system.shared.tasks.waiting := by
    rw [Channel.waiting_of_receive? received]
    exact List.mem_cons_self
  have books (working : system.manager.isClosed = false) :
      system.manager.Consistent system.shared taken [] selected :=
    sound.manager.books working
  refine kept.still split rfl rfl rfl rfl told (fun _ _ _ same => nomatch same)
    (List.nodup_singleton _) ?_ ?_ ?_
  · intro working id mem
    obtain rfl := List.mem_singleton.1 mem
    have consistent := books working
    exact Or.inr fun mem => consistent.takenNotQueued task queued
      (attempts_subset consistent sound.workers mem)
  · intro working other same
    cases same
    have consistent := books working
    exact Or.inr fun entry inside same =>
      consistent.task_eq (List.mem_map_of_mem inside) (consistent.queued queued) same
  · exact fun _ _ none => nomatch none

/-- The result that a worker finds is about the file of its task. -/
theorem Kept.find (kept : system.Kept start file directory path)
    (split : system.workers = front ++ worker :: back) {task : Task}
    {started : Instant} (phase : worker.phase = .processing task started) {rules : WorkerRules}
    {result : ExtractionResult}
    (about : result.About task.path) (begun now : Instant) (memoryMb : Option Float)
    (inboxes : shared.inboxes = system.shared.inboxes) (disk : shared.disk = system.shared.disk)
    (events : shared.events = system.shared.events) :
    (system.withStep front back
      ({ worker with phase := Worker.judge rules task started begun now memoryMb result },
        shared)).Kept
        start file directory path := by
  have here : worker ∈ system.workers := by simp [split]
  have work : worker.phase.work? = some task := by rw [phase]; rfl
  have own : worker.phase.task? = some task.id := by rw [phase]; rfl
  have told : shared.events.waiting = system.shared.events.waiting ++ [] := by
    rw [events, List.append_nil]
  unfold Worker.judge
  split
  · refine kept.still split rfl rfl inboxes disk told
      (fun _ _ _ same => nomatch same) (List.nodup_singleton _) ?_ ?_ ?_
    · exact fun _ id mem => Or.inl (own.trans (congrArg some (List.mem_singleton.1 mem).symm))
    · exact fun _ _ none => nomatch none
    · intro working outcome mem
      obtain rfl := List.mem_singleton.1 mem
      refine Or.inr ⟨rfl, fun entry inside same => ?_⟩
      rw [(kept.orderly working).given worker here task work entry inside same]
      exact Worker.about_stamp (Worker.about_overrun _ _ _ _) _ _ _
  · refine kept.still split rfl rfl inboxes disk told ?_ (List.nodup_singleton _) ?_ ?_ ?_
    · rintro other since stamped same
      cases same
      exact Worker.about_stamp about _ _ _
    · exact fun _ id mem => Or.inl (own.trans (congrArg some (List.mem_singleton.1 mem).symm))
    · exact fun _ other same => Or.inl (work.trans same)
    · exact fun _ _ none => nomatch none

/-- What a worker reports is its own outcome. -/
theorem Kept.report (kept : system.Kept start file directory path)
    (split : system.workers = front ++ worker :: back) {event : WorkerEvent} {phase : WorkerPhase}
    (reported : system.shared.report? event = some shared)
    (tasks : (phase.task?.toList ++ (outcomesOf [event]).map fun outcome => outcome.task).Sublist
      worker.phase.task?.toList)
    (given : ∀ task, phase.work? = some task → worker.phase.work? = some task)
    (tells : ∀ outcome ∈ phase.outcome?.toList ++ outcomesOf [event],
      worker.phase.outcome? = some outcome)
    (about : ∀ task started result, phase = .delivering task started result →
      result.About task.path) :
    (system.withStep front back ({ worker with phase := phase }, shared)).Kept
      start file directory path := by
  obtain ⟨told, event, inboxes, disk, events⟩ := Shared.report?_eq_some reported
  have outcomes : (outcomesOf told).Sublist (outcomesOf [_]) := event.filterMap _
  have fewer := (List.Sublist.append_left (outcomes.map fun outcome => outcome.task)
    phase.task?.toList).trans tasks
  have single : worker.phase.task?.toList.Nodup := by
    cases worker.phase.task? with
    | none => exact List.nodup_nil
    | some id => exact List.nodup_singleton id
  refine kept.still split rfl rfl inboxes disk events about (single.sublist fewer) ?_ ?_ ?_
  · intro _ id mem
    exact Or.inl (Option.mem_toList.1 (fewer.subset mem))
  · exact fun _ task same => Or.inl (given task same)
  · intro _ outcome mem
    have mem := (List.Sublist.append_left outcomes phase.outcome?.toList).subset mem
    exact Or.inl (tells outcome mem)

/-- No step of a worker undoes a delivery that counts. -/
theorem Kept.goes (kept : system.Kept start file directory path)
    (sound : system.Sound taken selected)
    (once : selected.count path = 1) (split : system.workers = front ++ worker :: back)
    (punctual : ∀ task started result, worker.phase = .delivering task started result →
      task.path = path → ∃ entry ∈ system.manager.inFlight, entry.task = task)
    {rules : WorkerRules} {after : Worker × Shared} (goes : worker.Goes rules system.shared after) :
    (system.withStep front back after).Kept start file directory path := by
  cases goes with
  | take _ received => exact kept.take sound split received
  | stop | close | crash => exact kept.quit split _ rfl rfl rfl
  | @announce task started shared phase reported =>
      have silent : WorkerPhase.outcome? (.processing task started) = none ∧
          outcomesOf [.started worker.id task.id started] = [] := ⟨rfl, rfl⟩
      refine kept.report split reported ?_ ?_ ?_ fun _ _ _ same => nomatch same
      · rw [phase]
        exact List.Sublist.refl _
      · rw [phase]
        exact fun _ same => same
      · rw [silent.1, silent.2]
        exact fun _ mem => nomatch mem
  | find phase processed =>
      exact kept.find split phase (Worker.about_of_process processed) _ _ _ rfl rfl rfl
  | @deliver task started result phase =>
      exact kept.deliver sound once split phase (punctual task started result phase)
  | @report outcome shared phase reported =>
      refine kept.report split reported ?_ (fun _ same => nomatch same) ?_
        fun _ _ _ same => nomatch same
      · rw [phase]
        exact List.Sublist.refl _
      · rw [phase]
        exact fun _ mem => congrArg some (List.mem_singleton.1 mem).symm
  | leave _ reported =>
      exact kept.report split reported (List.nil_sublist _) (fun _ same => nomatch same)
        (fun _ mem => nomatch mem) fun _ _ _ same => nomatch same

end System

end PartsList
