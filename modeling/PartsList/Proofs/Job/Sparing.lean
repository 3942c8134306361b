import PartsList.Proofs.Job.Batching
import PartsList.Proofs.Job.Fulfilling
import PartsList.Proofs.Job.Starting
import PartsList.Proofs.Store.Answers
import PartsList.Proofs.Store.Reopening

/-!
# Files that were not selected

No thread does anything about a file that was not selected: it is in no task and in no result, so
the store keeps of it what it has kept, on whatever course of the threads.
-/

namespace PartsList

open Disk ExtractionResult

/-! ## Writers -/

theorem Connection.store?_eq_some {connection : Connection} {disk : Disk} {store : Store} :
    connection.store? disk = some store ↔ disk.Stores connection.file store := by
  unfold Connection.store? Stores
  rw [Option.bind_eq_some_iff]
  exact exists_congr fun database => and_congr_left' Connection.database?_eq_some

namespace Writer

variable {writer : Writer} {disk : Disk} {inbox left : Inbox} {next : Writer × Disk} {store : Store}

/-- A writer that commits or spills what it holds delivers nothing else to the store. -/
theorem stores_flush (numbered : disk.Numbered) (known : writer.spill.Known disk)
    (file : writer.connection.file < disk.nextFile)
    (stores : disk.Stores writer.connection.file store) :
    ∃ results ⊆ writer.buffer,
      (writer.flush disk).2.Stores writer.connection.file (store.deliverAll results) := by
  have settles := writer.connection.settles_upsert writer.buffer disk none
  have evolves := Connection.evolves_upsert writer.connection writer.buffer disk
  have before := Connection.store?_eq_some.2 stores
  unfold flush
  split
  · exact ⟨[], List.nil_subset _, stores⟩
  · dsimp only
    split
    · next taken =>
        rw [taken] at settles
        refine ⟨writer.buffer, List.Subset.refl _, Connection.store?_eq_some.1 ?_⟩
        rw [settles.2.2, before]
        rfl
    · next error after refused =>
        rw [refused] at settles evolves
        have kept : after.Stores writer.connection.file store :=
          Connection.store?_eq_some.1 (settles.2.trans before)
        have spilled := @hasSpilled_foldl
          ({ writer with buffer := [], bufferedRows := 0 } : Writer).refused after
          (evolves.numbered numbered) (known.evolves evolves) writer.buffer
        exact ⟨[], List.nil_subset _, spilled.develops.keepsStores.stores _
          (Nat.lt_of_lt_of_le file evolves.nextFile) store kept⟩

/-- In one step, a writer delivers to the store at most what it held or was sent. -/
theorem Turn.stores (turn : writer.Turn disk inbox next left) (numbered : disk.Numbered)
    (known : writer.spill.Known disk) (file : writer.connection.file < disk.nextFile)
    (stores : disk.Stores writer.connection.file store) :
    ∃ results : List ExtractionResult,
      (∀ result ∈ results, result ∈ writer.buffer ∨ .result result ∈ inbox.waiting) ∧
        next.2.Stores writer.connection.file (store.deliverAll results) := by
  have flushed {held : List ExtractionResult} (rows : Nat)
      (among : ∀ result ∈ held, result ∈ writer.buffer ∨ .result result ∈ inbox.waiting) :
      ∃ results : List ExtractionResult,
        (∀ result ∈ results, result ∈ writer.buffer ∨ .result result ∈ inbox.waiting) ∧
          (({ writer with buffer := held, bufferedRows := rows } : Writer).flush disk).2.Stores
            writer.connection.file (store.deliverAll results) := by
    obtain ⟨results, subset, delivered⟩ := @stores_flush
      ({ writer with buffer := held, bufferedRows := rows } : Writer) disk store numbered known file
      stores
    exact ⟨results, fun result mem => among result (subset mem), delivered⟩
  cases turn with
  | @accept result left received =>
      have first : .result result ∈ inbox.waiting :=
        Channel.waiting_of_receive? received ▸ List.mem_cons_self
      unfold Writer.accept
      dsimp only
      split
      · refine flushed _ fun other mem => (List.mem_append.1 mem).imp_right fun mem => ?_
        rwa [List.mem_singleton.1 mem]
      · exact ⟨[], fun _ mem => absurd mem List.not_mem_nil, stores⟩
  | flush | dismiss | close => exact flushed writer.bufferedRows fun _ => Or.inl

end Writer

/-! ## The manager -/

theorem mem_waiting_route {inboxes : List Inbox} {spill : SpillFile} {disk : Disk}
    {result other : ExtractionResult} {inbox : Inbox}
    (mem : inbox ∈ (route inboxes spill disk result).inboxes)
    (waits : .result other ∈ inbox.waiting) :
    (∃ before ∈ inboxes, .result other ∈ before.waiting) ∨ other = result := by
  unfold route at mem
  split at mem
  · next posted =>
      obtain ⟨before, found, rfl⟩ := post?_eq_some posted
      rcases List.mem_or_eq_of_mem_set mem with mem | rfl
      · exact Or.inl ⟨inbox, mem, waits⟩
      · rcases List.mem_append.1 waits with waits | waits
        · exact Or.inl ⟨before, List.mem_of_getElem? found, waits⟩
        · cases List.mem_singleton.1 waits
          exact Or.inr rfl
  · split at mem <;> exact Or.inl ⟨inbox, mem, waits⟩

namespace Manager

/-- Nothing new about a file is given out or sent. -/
structure Shuns (path : Path) (before after : Manager × Shared) : Prop where
  /-- Tasks that are given out are of other files. -/
  tasks : ∀ task ∈ tasksOf after.2.tasks.waiting,
    task ∈ tasksOf before.2.tasks.waiting ∨ task.path ≠ path
  /-- Results that are sent are about other files. -/
  posts : ∀ inbox ∈ after.2.inboxes, ∀ result, .result result ∈ inbox.waiting →
    (∃ other ∈ before.2.inboxes, .result result ∈ other.waiting) ∨ result.filePath ≠ path

variable {path : Path} {manager : Manager} {shared : Shared}
  {before middle after : Manager × Shared}
  {taken : List TaskId} {selected : List Path}

theorem Shuns.of_eq (tasks : after.2.tasks = before.2.tasks)
    (inboxes : after.2.inboxes = before.2.inboxes) : Shuns path before after where
  tasks := by
    rw [tasks]
    exact fun _ => Or.inl
  posts := by
    rw [inboxes]
    exact fun inbox mem _ waits => Or.inl ⟨inbox, mem, waits⟩

theorem Shuns.refl (state : Manager × Shared) : Shuns path state state := .of_eq rfl rfl

theorem Shuns.trans (first : Shuns path before middle) (second : Shuns path middle after) :
    Shuns path before after where
  tasks task mem := (second.tasks task mem).elim (first.tasks task) Or.inr
  posts inbox mem result waits := by
    rcases second.posts inbox mem result waits with ⟨other, among, waits⟩ | other
    · exact first.posts other among result waits
    · exact Or.inr other

/-- What the manager notes for itself goes to nobody. -/
theorem Shuns.noted {noted : Manager} (same : before.2 = shared)
    (shuns : Shuns path (noted, shared) after) : Shuns path before after :=
  (Shuns.of_eq (same ▸ rfl) (same ▸ rfl)).trans shuns

theorem shuns_record (task : Task) (outcome : Outcome) :
    Shuns path (manager, shared) (manager.record shared task outcome) :=
  .of_eq (manager.record_cases shared task outcome).2.1
    (manager.records_record shared task outcome).inboxes

theorem shuns_conclude (task : Task) {result : ExtractionResult} (other : result.filePath ≠ path) :
    Shuns path (manager, shared) (manager.conclude shared task result) := by
  let routed := route shared.inboxes manager.spill shared.disk (result.withAttempt task.attempt)
  have sent : Shuns path (manager, shared)
      ({ manager with spill := routed.spill }, shared.afterRouting routed) := by
    refine ⟨fun _ => Or.inl, fun inbox mem sent waits => ?_⟩
    refine (mem_waiting_route mem waits).imp_right ?_
    rintro rfl
    exact other
  exact sent.trans (shuns_record _ _)

theorem shuns_spawn : Shuns path (manager, shared) (manager.spawn shared) := by
  unfold spawn
  split <;> exact .of_eq rfl rfl

theorem shuns_spawnAll
    (count : Nat) : Shuns path (manager, shared) (spawnAll count manager shared) := by
  induction count generalizing manager shared with
  | zero => exact .refl _
  | succ count induction => exact shuns_spawn.trans induction

theorem disk_spawnAll (count : Nat) (manager : Manager) (shared : Shared) :
    (spawnAll count manager shared).2.disk = shared.disk := by
  induction count generalizing manager shared with
  | zero => rfl
  | succ count induction =>
      have spawned : (manager.spawn shared).2.disk = shared.disk := by
        unfold spawn
        split <;> rfl
      exact (induction _ _).trans spawned

theorem shuns_replace : Shuns path (manager, shared) (manager.replace shared) := by
  unfold replace
  split
  · exact .refl _
  · exact shuns_spawn

/-- Files with open tasks are selected ones. -/
theorem Balances.mem_selected (balances : manager.Balances [] selected) {task : Task}
    (mem : task ∈ manager.pending ∨ task ∈ manager.inFlight.map (·.task)) :
    task.path ∈ selected := by
  refine balances.files.subset (List.mem_map_of_mem (List.mem_append_left _ ?_))
  rwa [openTasks, List.nil_append, List.mem_append]

theorem ne_of_flight? (unselected : path ∉ selected) (balances : manager.Balances [] selected)
    {id : TaskId} {entry : InFlight} (found : manager.flight? id = some entry) :
    entry.task.path ≠ path := by
  rintro rfl
  refine unselected (balances.mem_selected (Or.inr ?_))
  exact List.mem_map_of_mem (flight?_eq_some found).1

theorem shuns_onFinished (unselected : path ∉ selected)
    (books : manager.Consistent shared taken [] selected) (worker : WorkerId) (outcome : Outcome) :
    Shuns path (manager, shared) (manager.onFinished shared worker outcome) := by
  unfold onFinished
  dsimp only
  split
  · exact .of_eq rfl rfl
  · next entry found =>
      have other : entry.task.path ≠ path := @ne_of_flight? path manager selected unselected
        books.toBalances outcome.task entry found
      split
      · exact .noted rfl (shuns_conclude entry.task other)
      · exact .noted rfl (shuns_record _ _)

theorem shuns_onExited (unselected : path ∉ selected)
    (books : manager.Consistent shared taken [] selected) (worker : WorkerId) :
    Shuns path (manager, shared) (manager.onExited shared worker) := by
  unfold onExited
  split
  · exact .refl _
  · next slot _ =>
      have concluded (noted : Manager) (same : noted.inFlight = manager.inFlight) :
          Shuns path (manager, shared) (noted.concludeOrphan shared slot) := by
        unfold concludeOrphan
        split
        · exact .of_eq rfl rfl
        · next entry found =>
            obtain ⟨id, -, found⟩ := Option.bind_eq_some_iff.1 found
            rw [flight?, same] at found
            have other : entry.task.path ≠ path := ne_of_flight? unselected books.toBalances found
            exact .noted rfl (shuns_conclude entry.task other)
      have concluded := concluded
        { manager with
          workers := manager.workers.filter (·.worker != worker)
          supervisor := manager.supervisor.remove worker } rfl
      dsimp only
      split
      · exact concluded.trans shuns_replace
      · exact concluded

theorem shuns_receive? (unselected : path ∉ selected)
    (books : manager.Consistent shared taken [] selected)
    (received : manager.receive? shared = some after) : Shuns path (manager, shared) after := by
  obtain ⟨event, rest, waiting, rfl⟩ := eq_of_receive? received
  have popped := books.pop waiting
  refine Shuns.trans (.of_eq rfl rfl : Shuns path (manager, shared)
    (manager, { shared with events := { shared.events with waiting := rest } })) ?_
  cases event with
  | heartbeat | started => exact .of_eq rfl rfl
  | finished worker outcome => exact shuns_onFinished unselected popped worker outcome
  | exited worker => exact shuns_onExited unselected popped worker

/-- In one act, the manager does nothing about files that were not selected. -/
theorem Act.shuns (unselected : path ∉ selected) (act : Act taken selected before after) :
    Shuns path before after := by
  cases act with
  | receive books received => exact shuns_receive? unselected books received
  | note unmoved =>
      refine ⟨?_, fun inbox mem result waits => ?_⟩
      · rw [unmoved.queue]
        exact fun _ => Or.inl
      · obtain ⟨other, among, waited⟩ := unmoved.posts inbox mem
        exact Or.inl ⟨other, among, waited result waits⟩
  | takeBack =>
      exact ⟨fun _ mem => absurd mem List.not_mem_nil,
        fun inbox mem _ waits => Or.inl ⟨inbox, mem, waits⟩⟩
  | @feed state _ books fed =>
      obtain ⟨task, rest, tasks, waits, sent, rfl⟩ := eq_of_feed? fed
      refine ⟨fun other mem => ?_, fun inbox mem _ waits => Or.inl ⟨inbox, mem, waits⟩⟩
      rw [tasksOf_of_send? sent] at mem
      refine (List.mem_append.1 mem).imp_right fun own => ?_
      rw [List.mem_singleton.1 own]
      intro same
      exact unselected (same ▸ books.mem_selected (Or.inl (waits ▸ List.mem_cons_self)))
  | @expire manager shared task books =>
      unfold Manager.expire
      dsimp only
      cases found : manager.flight? task with
      | none => exact .refl _
      | some entry =>
          have other : entry.task.path ≠ path := ne_of_flight? unselected books.toBalances found
          exact .trans (.noted rfl (shuns_conclude entry.task other)) shuns_replace

theorem shuns_of_acts (unselected : path ∉ selected)
    (acts : Relation.ReflTransGen (Act taken selected) before after) : Shuns path before after := by
  induction acts with
  | refl => exact .refl _
  | tail _ act induction => exact induction.trans (act.shuns unselected)

end Manager

namespace System

variable {system after : System} {file : FileId} {directory path : Path} {selected : List Path}
  {taken : List TaskId} {before next : Manager × Shared}

/-- No deed of the manager touches a database. -/
theorem Arranged.develops_deed (arranged : (system.withManager before).Arranged file directory)
    (deed : Manager.Deed before next) : before.2.disk.Develops next.2.disk := by
  cases deed with
  | note quiet => exact quiet.disk ▸ Develops.refl _
  | accept quiet => exact quiet.disk ▸ (Manager.records_record _ _ _ _).develops
  | @conclude _ state entry code message metrics quiet =>
      have noted := arranged.quiet quiet
      have routes := @routes_route state.2.inboxes state.1.spill state.2.disk
        ((failed entry.task.path code message metrics).withAttempt entry.task.attempt)
        noted.numbered (noted.known _ List.mem_cons_self)
      rw [← quiet.disk]
      unfold Manager.conclude
      dsimp only
      generalize route state.2.inboxes state.1.spill state.2.disk _ = routed at routes ⊢
      exact routes.develops.trans
        (Manager.records_record _ (state.2.afterRouting routed) _ _).develops
  | @save manager shared =>
      obtain ⟨checkpoint, saves, disk, saved, develops⟩ := manager.exists_save shared
      rw [saved]
      exact develops
  | dismiss _ _ _ quiet =>
      exact (show next.2.disk = before.2.disk from quiet.disk) ▸ Develops.refl _
  | release _ quiet => exact (show next.2.disk = before.2.disk from quiet.disk) ▸ Develops.refl _

theorem Arranged.develops_deeds (arranged : (system.withManager before).Arranged file directory)
    (deeds : Relation.ReflTransGen Manager.Deed before next) :
    before.2.disk.Develops next.2.disk := by
  suffices before.2.disk.Develops next.2.disk ∧
    (system.withManager next).Arranged file directory from this.1
  induction deeds with
  | refl => exact ⟨Develops.refl _, arranged⟩
  | tail _ deed induction =>
      exact ⟨induction.1.trans (induction.2.develops_deed deed), induction.2.deed deed⟩

/-! ## All threads -/

/-- No thread is about to do anything about a file, and the store keeps of it what it has kept. -/
structure Spares (system : System) (file : FileId) (path : Path)
    (kept : List StoredSummary × List StoredRow) : Prop where
  /-- No task of the file waits, -/
  queued : ∀ task ∈ Manager.tasksOf system.shared.tasks.waiting, task.path ≠ path
  /-- and none is at a worker. -/
  begun : ∀ worker ∈ system.workers, ∀ task, worker.phase.work? = some task → task.path ≠ path
  /-- No result of the file was sent, -/
  sent : ∀ inbox ∈ system.shared.inboxes, ∀ result, .result result ∈ inbox.waiting →
    result.filePath ≠ path
  /-- and none is with a writer. -/
  held : ∀ writer ∈ system.writers, ∀ result ∈ writer.buffer, result.filePath ≠ path
  /-- The store has what it has. -/
  stored : ∃ store, system.shared.disk.Stores file store ∧ store.about path = kept

variable {kept : List StoredSummary × List StoredRow}

/-- What is not about the file leaves it alone. -/
theorem Spares.alter (spares : system.Spares file path kept)
    (arranged : system.Arranged file directory)
    (queued : ∀ task ∈ Manager.tasksOf after.shared.tasks.waiting,
      task ∈ Manager.tasksOf system.shared.tasks.waiting ∨ task.path ≠ path)
    (begun : ∀ worker ∈ after.workers, ∀ task, worker.phase.work? = some task → task.path ≠ path)
    (sent : ∀ inbox ∈ after.shared.inboxes, ∀ result, .result result ∈ inbox.waiting →
      (∃ other ∈ system.shared.inboxes, .result result ∈ other.waiting) ∨ result.filePath ≠ path)
    (writers : after.writers = system.writers)
    (develops : system.shared.disk.Develops after.shared.disk) : after.Spares file path kept where
  queued task mem := (queued task mem).elim (spares.queued task) id
  begun := begun
  sent := by
    intro inbox mem result waits
    rcases sent inbox mem result waits with ⟨other, among, waited⟩ | other
    · exact spares.sent other among result waited
    · exact other
  held := writers ▸ spares.held
  stored := by
    obtain ⟨store, stores, same⟩ := spares.stored
    exact ⟨store, develops.keepsStores.stores file arranged.database store stores, same⟩

/-- The manager may do anything that is not about the file, and hire workers. -/
theorem Spares.manage (spares : system.Spares file path kept)
    (arranged : system.Arranged file directory)
    (shuns : Manager.Shuns path (system.manager, system.shared) next)
    (deeds : Relation.ReflTransGen Manager.Deed (system.manager, system.shared) next) :
    (system.withHired next).Spares file path kept := by
  refine spares.alter arranged shuns.tasks (fun worker mem task work => ?_) shuns.posts rfl
    (arranged.placed.develops_deeds deeds)
  rcases List.mem_append.1 mem with mem | mem
  · exact spares.begun worker mem task work
  · rw [phase_of_mem_hired mem] at work
    cases work

theorem Spares.managed (spares : system.Spares file path kept)
    (arranged : system.Arranged file directory) (sound : system.Sound taken selected)
    (unselected : path ∉ selected) {action : Manager.Action}
    (stepped : system.manager.step? system.shared system.finishedStats action = some next) :
    (system.withHired next).Spares file path kept :=
  spares.manage arranged
    (Manager.shuns_of_acts unselected (Manager.acts_step? sound.manager stepped))
    (Manager.deeds_step? stepped)

/-- A worker may do anything that is not about the file. -/
theorem Spares.proceed (spares : system.Spares file path kept)
    (arranged : system.Arranged file directory) {front back : List Worker} {worker thread : Worker}
    {others : Shared} (split : system.workers = front ++ worker :: back)
    (queued : Manager.tasksOf others.tasks.waiting ⊆ Manager.tasksOf system.shared.tasks.waiting)
    (begun : ∀ task, thread.phase.work? = some task →
      worker.phase.work? = some task ∨ task ∈ Manager.tasksOf system.shared.tasks.waiting)
    (sent : ∀ inbox ∈ others.inboxes, ∀ result, .result result ∈ inbox.waiting →
      (∃ other ∈ system.shared.inboxes, .result result ∈ other.waiting) ∨ result.filePath ≠ path)
    (develops : system.shared.disk.Develops others.disk) :
    (system.withStep front back (thread, others)).Spares file path kept := by
  refine spares.alter arranged (fun task mem => Or.inl (queued mem)) (fun other mem task work => ?_)
    sent rfl develops
  have among : other = thread ∨ other ∈ system.workers := by
    rw [split]
    simp only [withStep, List.mem_append, List.mem_cons] at mem ⊢
    tauto
  rcases among with rfl | among
  · rcases begun task work with own | waits
    · exact spares.begun worker (by simp [split]) task own
    · exact spares.queued task waits
  · exact spares.begun other among task work

/-- A worker does nothing about the file. -/
theorem Spares.goes (spares : system.Spares file path kept)
    (arranged : system.Arranged file directory)
    {front back : List Worker} {worker : Worker} (split : system.workers = front ++ worker :: back)
    {after : Worker × Shared} (goes : worker.Goes system.rules system.shared after) :
    (system.withStep front back after).Spares file path kept := by
  have here : worker ∈ system.workers := by simp [split]
  have still : ∀ inbox ∈ system.shared.inboxes, ∀ result, .result result ∈ inbox.waiting →
      (∃ other ∈ system.shared.inboxes, .result result ∈ other.waiting) ∨ result.filePath ≠ path :=
    fun inbox mem _ waits => Or.inl ⟨inbox, mem, waits⟩
  have tell {phase : WorkerPhase} {event : WorkerEvent} {others : Shared}
      (reported : system.shared.report? event = some others)
      (begun : ∀ task, phase.work? = some task → worker.phase.work? = some task) :
      (system.withStep front back ({ worker with phase := phase }, others)).Spares
        file path kept := by
    obtain ⟨events, rfl, -⟩ := Shared.exists_events_of_report? reported
    exact spares.proceed arranged split (List.Subset.refl _) (fun task work =>
      Or.inl (begun task work))
      still (Develops.refl _)
  cases goes with
  | @take task tasks phase received =>
      have queue : Manager.tasksOf system.shared.tasks.waiting =
          task :: Manager.tasksOf tasks.waiting := by
        rw [Channel.waiting_of_receive? received]
        rfl
      refine spares.proceed arranged split (queue ▸ List.subset_cons_self _ _)
        (fun other work => ?_)
        still (Develops.refl _)
      cases work
      exact Or.inr (queue ▸ List.mem_cons_self)
  | @stop tasks phase received =>
      have queue : Manager.tasksOf system.shared.tasks.waiting = Manager.tasksOf tasks.waiting := by
        rw [Channel.waiting_of_receive? received]
        rfl
      exact spares.proceed arranged split (queue ▸ List.Subset.refl _) (fun _ none => nomatch none)
        still (Develops.refl _)
  | close | crash =>
      exact spares.proceed arranged split (List.Subset.refl _) (fun _ none => nomatch none) still
        (Develops.refl _)
  | announce phase reported =>
      refine tell reported fun other same => ?_
      rw [phase]
      exact same
  | find phase =>
      refine spares.proceed arranged split (List.Subset.refl _) (fun other work => Or.inl ?_) still
        (Develops.refl _)
      unfold Worker.judge at work
      split at work
      · cases work
      · cases work
        rw [phase]
        rfl
  | @deliver task started result phase =>
      have mem : worker.spill ∈ system.spills :=
        List.mem_cons_of_mem _ (List.mem_append_left _ (List.mem_map_of_mem here))
      have routes := @routes_route system.shared.inboxes worker.spill system.shared.disk result
        arranged.numbered (arranged.known _ mem)
      have about := arranged.about worker here task started result phase
      have apart := spares.begun worker here task (by rw [phase]; rfl)
      refine spares.proceed arranged split (List.Subset.refl _) (fun _ none => nomatch none)
        (fun inbox mem other waits => ?_) routes.develops
      refine (mem_waiting_route mem waits).imp_right ?_
      rintro rfl
      rw [about.1]
      exact apart
  | report phase reported => exact tell reported fun _ none => nomatch none
  | leave phase reported => exact tell reported fun _ none => nomatch none

/-- A writer has nothing about the file. -/
theorem Spares.turn (spares : system.Spares file path kept)
    (arranged : system.Arranged file directory)
    {id : Nat} {writer : Writer} {inbox left : Inbox} {next : Writer × Disk}
    (works : system.writers[id]? = some writer) (found : system.shared.inboxes[id]? = some inbox)
    (turn : writer.Turn system.shared.disk inbox next left) :
    (system.putWriter next.1 left next.2).Spares file path kept := by
  have mem := List.mem_of_getElem? works
  have among := List.mem_of_getElem? found
  have known := arranged.known writer.spill
    (List.mem_cons_of_mem _ (List.mem_append_right _ (List.mem_map_of_mem mem)))
  have connected := arranged.connections writer mem
  have there : writer.connection.file < system.shared.disk.nextFile := by
    rw [connected]
    exact arranged.database
  have owns := fun result mem => (arranged.buffers id writer works result mem).1
  have owns' := fun result mem => (arranged.queues id inbox found result mem).1
  obtain ⟨-, within⟩ := turn.continues arranged.numbered known there owns owns'
  have apart (result : ExtractionResult)
      (own : result ∈ writer.buffer ∨ .result result ∈ inbox.waiting) : result.filePath ≠ path :=
    own.elim (spares.held writer mem result) (spares.sent inbox among result)
  refine ⟨spares.queued, spares.begun, fun other inside result waits => ?_,
    fun other inside result holds => ?_, ?_⟩
  · rcases List.mem_or_eq_of_mem_set inside with inside | rfl
    · exact spares.sent other inside result waits
    · exact apart result (Or.inr (turn.waiting waits))
  · rcases List.mem_or_eq_of_mem_set inside with inside | rfl
    · exact spares.held other inside result holds
    · exact apart result (within result holds)
  · obtain ⟨store, stores, same⟩ := spares.stored
    rw [← connected] at stores ⊢
    obtain ⟨results, own, delivered⟩ := turn.stores arranged.numbered known there stores
    refine ⟨_, delivered, (store.about_deliverAll (fun result mem => ?_) fun result mem => ?_).trans
      same⟩
    · exact (own result mem).elim (owns result) (owns' result)
    · exact apart result (own result mem)

/-- Whatever a thread does, it leaves a file alone that was not selected. -/
theorem Spares.moves (spares : system.Spares file path kept)
    (arranged : system.Arranged file directory) (sound : system.Sound taken selected)
    (unselected : path ∉ selected) (moves : system.Moves after) : after.Spares file path kept := by
  have share {shared : Shared} (tasks : shared.tasks = system.shared.tasks)
      (inboxes : shared.inboxes = system.shared.inboxes)
      (disk : shared.disk = system.shared.disk) :
      { system with shared := shared }.Spares file path kept := by
    refine spares.alter arranged ?_ spares.begun ?_ rfl (disk ▸ Develops.refl _)
    · rw [tasks]
      exact fun _ => Or.inl
    · rw [inboxes]
      exact fun inbox mem _ waits => Or.inl ⟨inbox, mem, waits⟩
  cases moves with
  | manage stepped => exact spares.managed arranged sound unselected stepped
  | work mem goes =>
      obtain ⟨front, back, split, same⟩ := exists_withStep arranged.workers mem goes.id
      exact same ▸ spares.goes arranged split goes
  | beat _ _ reported =>
      obtain ⟨events, rfl, -⟩ := Shared.exists_events_of_report? reported
      exact share rfl rfl rfl
  | serve works found _ turn => exact spares.turn arranged works found turn
  | pass | interrupt => exact share rfl rfl rfl

theorem Spares.run (spares : system.Spares file path kept)
    (arranged : system.Arranged file directory)
    (sound : system.Sound taken selected) (unselected : path ∉ selected) (course : List Move) :
    (system.run course).Spares file path kept := by
  have ran := run_induction (fun after => after.Spares file path kept ∧
      after.Arranged file directory ∧ ∃ taken, after.Sound taken selected)
    ⟨spares, arranged, taken, sound⟩
    (fun before after ⟨spares, arranged, taken, sound⟩ moves => ?_) course
  · exact ran.1
  · obtain ⟨more, sound'⟩ := sound.moves moves
    exact ⟨spares.moves arranged sound unselected moves, arranged.moves moves, _, sound'⟩

end System

/-! ## The start -/

namespace Writers

variable {setup : Setup} {disk : Disk}

theorem keepsStores_startFrom (first count : Nat) :
    disk.KeepsStores (startFrom setup first count disk).2 := by
  induction count generalizing first disk with
  | zero => exact .refl disk
  | succ count induction =>
      have opened := Database.keepsStores_openAt setup.database disk
      unfold startFrom
      split
      · next failed =>
          rw [failed] at opened
          exact opened
      · next connection middle connected =>
          rw [connected] at opened
          split
          · exact opened
          · have rest := opened.trans (@induction middle (first + 1))
            dsimp only
            split
            · next failed =>
                rw [failed] at rest
                exact rest
            · next started =>
                rw [started] at rest
                exact rest

/-- Starting writers leaves all stores as they are. -/
theorem keepsStores_start : disk.KeepsStores (start setup disk).2 := by
  unfold start
  dsimp only
  split
  · exact .refl disk
  · exact keepsStores_startFrom 0 _

end Writers

/-- At the start nobody does anything about any file, and the store has what it has. -/
theorem Job.spares_engage {job : Job} {disk : Disk} {paths : List Path} {start : Progress}
    {system : System} {store : Store} (numbered : disk.Numbered)
    (prepared : job.prepare disk = .ok (paths, start))
    (engaged : job.engage paths start = .ok system)
    (stores : start.disk.Stores start.connection.file store) (path : Path) :
    system.Spares start.connection.file path (store.about path) := by
  obtain ⟨evolves, old⟩ := evolves_prepare numbered prepared
  obtain ⟨plan, supervisor, writers, opened, -, starting, same, -⟩ := engage_eq_ok engaged
  have starts := Writers.starts_start (evolves.numbered numbered) starting
  have keeps : start.disk.KeepsStores opened := by
    have keeps := @Writers.keepsStores_start (job.writerSetup plan) start.disk
    rwa [starting] at keeps
  have empty (writer : Writer) (inbox : Inbox) (mem : (writer, inbox) ∈ writers) :
      writer.buffer = [] ∧ inbox.waiting = [] := by
    obtain ⟨index, there⟩ := List.mem_iff_getElem?.1 mem
    obtain ⟨⟨connection, -, rfl⟩, waiting, -⟩ := starts.idle index writer inbox there
    exact ⟨rfl, waiting⟩
  have shuns := @Manager.shuns_spawnAll path (job.managerAtStart plan paths start supervisor)
    (job.sharedAtStart plan start (writers.map (·.2)) opened) plan.workerCount
  rw [same]
  refine ⟨fun task mem => ?_, fun worker mem task work => ?_, fun inbox mem result waits => ?_,
    fun writer mem result holds => ?_, store, ?_, rfl⟩
  · exact (shuns.tasks task mem).resolve_left List.not_mem_nil
  · obtain ⟨id, -, -, rfl⟩ := System.mem_hired.1 mem
    cases work
  · refine (shuns.posts inbox mem result waits).resolve_left ?_
    rintro ⟨other, among, waited⟩
    obtain ⟨⟨writer, box⟩, inside, rfl⟩ := List.mem_map.1 among
    exact absurd ((empty writer box inside).2 ▸ waited) List.not_mem_nil
  · obtain ⟨⟨other, inbox⟩, inside, rfl⟩ := List.mem_map.1 mem
    exact absurd ((empty other inbox inside).1 ▸ holds) List.not_mem_nil
  · dsimp only
    rw [Manager.disk_spawnAll]
    exact keeps.stores _ old store stores

end PartsList
