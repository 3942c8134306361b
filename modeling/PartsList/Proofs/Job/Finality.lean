import PartsList.Proofs.Job.Acceptance
import PartsList.Proofs.Job.Working

/-!
# The last word on a file

The results of a file go to one writer in the order of the attempts, so the final outcome is what
the store shows when all writers have left, unless a spill file holds a result of the file.  Spill
files are replayed afterwards in the order of their paths, and the last result that they hold of the
file replaces whatever the store has.
-/

namespace PartsList

open Disk ExtractionResult

namespace Writer

variable {writer : Writer} {disk start : Disk} {inbox left : Inbox} {next : Writer × Disk}
  {result : ExtractionResult}

/-- The last result of a file in line stays the last one until it is safe. -/
theorem Turn.last (turn : writer.Turn disk inbox next left) (numbered : disk.Numbered)
    (known : writer.spill.Known disk) (file : writer.connection.file < disk.nextFile)
    (owns : ∀ result ∈ writer.buffer, result.OwnsRows)
    (owns' : ∀ result, .result result ∈ inbox.waiting → result.OwnsRows)
    (stays : writer.finished = false) (unharmed : next.1.losses = [])
    (since : start.Evolves disk)
    (last : last? result.filePath.spelling (writer.line inbox) = some result) :
    last? result.filePath.spelling (next.1.line left) = some result ∨
      last? result.filePath.spelling (next.1.line left) = none ∧ Safe start next result := by
  obtain ⟨front, rows, behind, handles, before, after⟩ :=
    turn.handles numbered known file owns owns' stays
  rw [before, last?_append] at last
  rw [after, last?_append]
  cases found : last? result.filePath.spelling behind with
  | some other =>
      rw [found] at last
      exact Or.inl last
  | none =>
      rw [found] at last
      exact handles.last unharmed start since result last

/-- A writer that has no result of a file in line leaves the file alone. -/
theorem Turn.none (turn : writer.Turn disk inbox next left) (numbered : disk.Numbered)
    (known : writer.spill.Known disk) (file : writer.connection.file < disk.nextFile)
    (owns : ∀ result ∈ writer.buffer, result.OwnsRows)
    (owns' : ∀ result, .result result ∈ inbox.waiting → result.OwnsRows)
    (stays : writer.finished = false)
    (none : last? result.filePath.spelling (writer.line inbox) = none) :
    last? result.filePath.spelling (next.1.line left) = .none ∧
      (disk.Shows writer.connection.file result →
        next.2.Shows writer.connection.file result) := by
  obtain ⟨front, rows, behind, handles, before, after⟩ :=
    turn.handles numbered known file owns owns' stays
  rw [before, last?_append, Option.or_eq_none_iff] at none
  obtain ⟨kept, shows⟩ := handles.none result none.2
  rw [after, last?_append, Option.or_eq_none_iff]
  exact ⟨⟨none.1, kept⟩, shows⟩

end Writer

namespace System

variable {system after : System} {start : Disk} {file : FileId} {directory path : Path}
  {selected : List Path} {taken : List TaskId}

/-! ## Writers -/

section Writers

variable {id : Nat} {writer : Writer} {inbox left : Inbox} {next : Writer × Disk}

/-- A writer's step undoes no delivery. -/
theorem Upholds.turn (arranged : system.Arranged file directory)
    (since : start.Evolves system.shared.disk) (works : system.writers[id]? = some writer)
    (found : system.shared.inboxes[id]? = some inbox) (stays : writer.finished = false)
    (turn : writer.Turn system.shared.disk inbox next left) :
    system.Upholds start file path (system.putWriter next.1 left next.2) := by
  have mem := List.mem_of_getElem? works
  have inside := (List.getElem?_eq_some_iff.1 works).1
  have known := arranged.known writer.spill
    (List.mem_cons_of_mem _ (List.mem_append_right _ (List.mem_map_of_mem mem)))
  have connected := arranged.connections writer mem
  have there : writer.connection.file < system.shared.disk.nextFile := by
    rw [connected]
    exact arranged.database
  have owns := fun result mem => (arranged.buffers id writer works result mem).1
  have owns' := fun result mem => (arranged.queues id inbox found result mem).1
  obtain ⟨continues, -⟩ := arranged.turn works found turn
  have place : next.1.id = id := continues.id.trans (arranged.ids id writer works)
  have spills := @exists_spill_putWriter system id writer next.1 left next.2 place works
    continues.file
  have put : next.1 ∈ (system.putWriter next.1 left next.2).writers :=
    List.mem_of_getElem? (place ▸ List.getElem?_set_self inside)
  intro unharmed
  obtain ⟨unharmed', none⟩ := unharmed_of_putWriter place works continues.losses unharmed
  refine ⟨unharmed', fun outcome about delivered => ?_⟩
  have spilled (spilled : system.SpilledSince start outcome.result) :
      (system.putWriter next.1 left next.2).SpilledSince start outcome.result :=
    spilled.of_spills continues.evolves spills
  have more (refused : system.Refused) : (system.putWriter next.1 left next.2).Refused := by
    obtain ⟨other, among, failed⟩ := refused
    obtain ⟨shard, here⟩ := List.mem_iff_getElem?.1 among
    by_cases same : id = shard
    · subst same
      cases works.symm.trans here
      exact ⟨next.1, put, Nat.lt_of_lt_of_le failed continues.failed⟩
    · refine ⟨other, List.mem_of_getElem? (i := shard) ?_, failed⟩
      rw [putWriter, place]
      exact (List.getElem?_set_ne same).trans here
  unfold Delivered at delivered ⊢
  cases delivery : outcome.delivery with
  | lost => trivial
  | withheld => trivial
  | fallback =>
      rw [delivery] at delivered
      exact spilled delivered
  | writer =>
      rw [delivery] at delivered
      dsimp only at delivered ⊢
      rw [line_putWriter place works found]
      split
      · next here =>
          rw [line_of_shard works found here] at delivered
          rcases delivered with last | ⟨empty, kept⟩
          · have kept := turn.last arranged.numbered known there owns owns' stays none since last
            refine kept.imp_right ?_
            rintro ⟨empty, shows | ⟨holds, failed⟩⟩ <;> refine ⟨empty, ?_⟩
            · rw [continues.connection, connected] at shows
              exact Or.inl shows
            · refine Or.inr ⟨⟨next.1.spill, ?_, holds⟩, next.1, put, failed⟩
              exact List.mem_cons_of_mem _ (List.mem_append_right _ (List.mem_map_of_mem put))
          · obtain ⟨empty, still⟩ := turn.none arranged.numbered known there owns owns' stays empty
            rw [connected] at still
            exact Or.inr ⟨empty, kept.imp still (.imp spilled more)⟩
      · next elsewhere =>
          refine delivered.imp_right (.imp_right fun kept => ?_)
          have nobody : last? outcome.result.filePath.spelling (writer.line inbox) = .none := by
            refine last?_eq_none.2 fun other mem same => elsewhere ?_
            have path : other.filePath = outcome.result.filePath := congrArg Path.mk same
            rw [← path]
            rw [Writer.line_of_stays stays] at mem
            rcases List.mem_append.1 mem with held | waits
            · exact (arranged.buffers id writer works other held).2
            · exact (arranged.queues id inbox found other (mem_of_mem_resultsBefore waits)).2
          obtain ⟨-, still⟩ := turn.none arranged.numbered known there owns owns' stays nobody
          rw [connected] at still
          exact kept.imp still (.imp spilled more)

/-- No step of a writer undoes a delivery. -/
theorem Kept.putWriter (kept : system.Kept start file directory path)
    (works : system.writers[id]? = some writer) (found : system.shared.inboxes[id]? = some inbox)
    (stays : writer.finished = false)
    (turn : writer.Turn system.shared.disk inbox next left) :
    (system.putWriter next.1 left next.2).Kept start file directory path := by
  have mem := List.mem_of_getElem? works
  have known := kept.known writer.spill
    (List.mem_cons_of_mem _ (List.mem_append_right _ (List.mem_map_of_mem mem)))
  have there : writer.connection.file < system.shared.disk.nextFile := by
    rw [kept.connections writer mem]
    exact kept.database
  obtain ⟨continues, arranged⟩ := kept.toArranged.turn works found turn
  have upholds : system.Upholds start file path (system.putWriter next.1 left next.2) :=
    Upholds.turn kept.toArranged kept.since works found stays turn
  refine kept.advance arranged continues.evolves (Or.inl upholds) (fun working => ?_)
    (fun _ => Or.inl) fun finished none => ?_
  · have orderly := kept.orderly working
    obtain ⟨still, open_⟩ := turn.stays kept.numbered known there
      (fun result mem => (kept.buffers id writer works result mem).1)
      (fun result mem => (kept.queues id inbox found result mem).1) stays
      (orderly.open_ inbox (List.mem_of_getElem? found))
    refine ⟨working, ⟨⟨fun other among => ?_, fun other among => ?_⟩, orderly.once, orderly.given⟩,
      fun outcome mem entry inside _ _ => Or.inl ⟨mem, entry, inside, rfl⟩⟩
    · rcases List.mem_or_eq_of_mem_set among with among | rfl
      · exact orderly.open_ other among
      · exact open_
    · rcases List.mem_or_eq_of_mem_set among with among | rfl
      · exact orderly.stays other among
      · exact still
  · have left := kept.ended finished none writer mem
    exact nomatch left.symm.trans stays

end Writers

/-! ## All threads -/

/-- New workers have been given nothing. -/
theorem Kept.hire {next : Manager × Shared}
    (kept : (system.withManager next).Kept start file directory path)
    (arranged : (system.withHired next).Arranged file directory) :
    (system.withHired next).Kept start file directory path := by
  refine kept.advance arranged (Evolves.refl _) (Or.inl ?_) (fun working => ?_) (fun _ => Or.inl)
    kept.ended
  · refine Upholds.of_line kept.database rfl (Develops.refl _) (fun spill mem => ?_) rfl
    exact ⟨spill, spills_subset_withHired system next mem, fun _ file => file⟩
  · have orderly := kept.orderly working
    refine ⟨working, ⟨⟨orderly.open_, orderly.stays⟩,
        system.attempts_withHired next ▸ orderly.once, fun worker mem task work => ?_⟩,
      fun outcome mem entry inside _ _ =>
        Or.inl ⟨system.outcomes_withHired next ▸ mem, entry, inside, rfl⟩⟩
    rcases List.mem_append.1 mem with mem | mem
    · exact orderly.given worker mem task work
    · rw [phase_of_mem_hired mem] at work
      cases work

theorem Kept.managed (kept : system.Kept start file directory path)
    (sound : system.Sound taken selected) (once : selected.count path = 1)
    {action : Manager.Action} {next : Manager × Shared}
    (stepped : system.manager.step? system.shared system.finishedStats action = some next) :
    (system.withHired next).Kept start file directory path :=
  (kept.step? sound once stepped).hire (kept.toArranged.managed stepped)

/-- Signs of life, the passing of time and interruptions undo no delivery. -/
theorem Kept.share (kept : system.Kept start file directory path) {shared : Shared}
    {told : List WorkerEvent} (inboxes : shared.inboxes = system.shared.inboxes)
    (disk : shared.disk = system.shared.disk)
    (events : shared.events.waiting = system.shared.events.waiting ++ told)
    (silent : outcomesOf told = []) :
    { system with shared := shared }.Kept start file directory path := by
  have tells : outcomesOf shared.events.waiting = outcomesOf system.shared.events.waiting := by
    rw [events, outcomesOf_append, silent, List.append_nil]
  refine kept.advance (kept.toArranged.share inboxes disk) (disk ▸ Evolves.refl _) (Or.inl ?_)
    (fun working => ?_) (fun _ => Or.inl) kept.ended
  · refine Upholds.of_line kept.database rfl (disk ▸ Develops.refl _)
      (fun spill mem => ⟨spill, mem, fun _ file => file⟩) ?_
    rw [line, line, inboxes]
  · have orderly := kept.orderly working
    refine ⟨working, ⟨⟨inboxes ▸ orderly.open_, orderly.stays⟩, ?_, orderly.given⟩,
      fun outcome mem entry inside _ _ => Or.inl ⟨?_, entry, inside, rfl⟩⟩
    · rw [attempts, tells]
      exact orderly.once
    · rwa [System.outcomes, tells] at mem

/-- No worker is about to deliver a result of a file on which the manager has given up. -/
def isTimely (system : System) (path : Path) : Bool :=
  system.workers.all fun worker =>
    match worker.phase with
    | .delivering task _ _ => task.path != path || system.manager.inFlight.any (·.task == task)
    | _ => true

/-- Along a course, no worker delivers a result of a file on which the manager has given up. -/
def staysTimely (system : System) (path : Path) : List Move → Bool
  | [] => true
  | move :: course => system.isTimely path && (system.step move).staysTimely path course

theorem punctual_of_isTimely (timely : system.isTimely path = true) {worker : Worker}
    (mem : worker ∈ system.workers) {task : Task} {started : Instant} {result : ExtractionResult}
    (phase : worker.phase = .delivering task started result) (about : task.path = path) :
    ∃ entry ∈ system.manager.inFlight, entry.task = task := by
  have delivers := List.all_eq_true.1 timely worker mem
  rw [phase] at delivers
  simpa [about] using delivers

/-- Whatever a thread does, what was delivered stays delivered. -/
theorem Kept.moves (kept : system.Kept start file directory path)
    (sound : system.Sound taken selected) (once : selected.count path = 1)
    (timely : system.isTimely path = true) (moves : system.Moves after) :
    after.Kept start file directory path := by
  cases moves with
  | manage stepped => exact kept.managed sound once stepped
  | work mem goes =>
      obtain ⟨front, back, split, same⟩ := exists_withStep kept.workers mem goes.id
      rw [same]
      exact kept.goes sound once split (fun _ _ _ => punctual_of_isTimely timely mem) goes
  | beat _ _ reported =>
      obtain ⟨told, inboxes, disk, events, silent⟩ := Shared.report?_heartbeat reported
      exact kept.share inboxes disk events silent
  | serve works found stays turn => exact kept.putWriter works found stays turn
  | pass | interrupt => exact kept.share rfl rfl (List.append_nil _).symm rfl

theorem Kept.run (kept : system.Kept start file directory path)
    (sound : system.Sound taken selected) (once : selected.count path = 1) {course : List Move}
    (timely : system.staysTimely path course = true) :
    (system.run course).Kept start file directory path := by
  induction course generalizing system taken with
  | nil => exact kept
  | cons move course induction =>
      obtain ⟨now, later⟩ := Bool.and_eq_true_iff.1 timely
      have kept' : (system.step move).Kept start file directory path :=
        step_induction (·.Kept start file directory path) kept
          (fun _ => kept.moves sound once now) move
      obtain ⟨more, sound'⟩ := sound.step move
      exact induction kept' sound' later

/-! ## The start and the end -/

/-- Nothing was delivered yet. -/
theorem Unstarted.kept {idle : System} (unstarted : idle.Unstarted file directory start) :
    idle.Kept start file directory path where
  toArranged := unstarted.toArranged
  since := unstarted.since
  orderly _ :=
    { toStaying := unstarted.toStaying
      once := by
        rw [attempts, unstarted.none, unstarted.events]
        exact List.nodup_nil
      given := by
        rw [unstarted.none]
        exact fun _ mem => absurd mem List.not_mem_nil }
  reported := by
    intro _ outcome mem
    rw [outcomes, unstarted.none, unstarted.events] at mem
    cases mem
  settled := by
    rw [unstarted.history]
    exact fun _ mem => absurd mem List.not_mem_nil
  ended finished := nomatch unstarted.phase.symm.trans finished

theorem Kept.spawnAll (count : Nat) (kept : system.Kept start file directory path)
    (working : system.manager.isClosed = false) :
    (system.withManager (Manager.spawnAll count system.manager system.shared)).Kept
      start file directory path := by
  induction count generalizing system with
  | zero => exact kept
  | succ count induction =>
      refine @induction (system.withManager (system.manager.spawn system.shared))
        (kept.spawn working) ?_
      have phase := congrArg Prod.fst (Manager.course_spawn system.manager system.shared)
      exact (Manager.isClosed_of_phase phase).trans working

/-- When all writers have left, what was delivered is in the store, unless it was spilled. -/
theorem Delivered.shows_or_spilled {outcome : Outcome}
    (delivered : system.Delivered start file outcome) (accepted : outcome.Accepted)
    (left : ∀ writer ∈ system.writers, writer.finished = true) :
    system.shared.disk.Shows file outcome.result ∨ system.SpilledSince start outcome.result := by
  unfold Delivered at delivered
  rcases accepted with delivery | delivery
  · rw [delivery] at delivered
    dsimp only at delivered
    rw [line_of_left left] at delivered
    rcases delivered with last | ⟨-, kept⟩
    · cases last
    · exact kept.imp_right And.left
  · rw [delivery] at delivered
    exact Or.inr delivered

end System

namespace Job

variable {job : Job} {disk : Disk} {paths : List Path} {start : Progress} {system : System}

/-- The threads of a job start in a state in which nothing was delivered. -/
theorem kept_engage (numbered : disk.Numbered) (prepared : job.prepare disk = .ok (paths, start))
    (engaged : job.engage paths start = .ok system)
    (one : ∀ writer ∈ system.writers, writer.connection.file = start.connection.file)
    (path : Path) :
    system.Kept disk start.connection.file job.settings.fallbackDir path := by
  obtain ⟨arranged, -⟩ := secured_engage numbered prepared engaged one
  obtain ⟨idle, count, unstarted, rfl⟩ := exists_unstarted numbered prepared engaged one
  have working : idle.manager.isClosed = false := by rw [Manager.isClosed, unstarted.phase]
  exact (System.Kept.spawnAll count unstarted.kept working).hire arranged.toArranged

end Job

/-- When all threads have left in time and everything that had to be spilled was spilled, the store
shows the final outcome of each file that was not lost once the spill files have been replayed,
unless these hold results of the file: then it shows the last of them, whichever attempt or job it
comes from.  No file is selected twice, the spill directory has a name, all connections are to one
file, nobody got in the way of the spill files, and no worker delivers a result of the file when the
manager has given up on it. -/
theorem final_outcomes_shown {job : Job} {disk : Disk} {paths : List Path}
    {start worked reconciled : Progress} {system : System} {course : List Move}
    (numbered : disk.Numbered) (prepared : job.prepare disk = .ok (paths, start))
    (distinct : paths.Nodup) (engaged : job.engage paths start = .ok system)
    (one : ∀ writer ∈ system.writers, writer.connection.file = start.connection.file)
    (finished : (system.run course).isFinished = true)
    (punctual : (system.run course).manager.report.forceTerminated = 0)
    (unharmed : (system.run course).Unharmed)
    (ended : job.afterWork start (system.run course) = .ok worked)
    (reconciles : job.reconcile worked = .ok reconciled)
    (named : job.settings.fallbackDir.spelling ≠ "")
    (calm : worked.disk.faults.head? ≠ some (some .notFound))
    (undisturbed : ∀ spill ∈ (system.run course).spills, spill.Undisturbed disk worked.disk)
    (fits : ∀ recorded ∈ (system.run course).manager.history, recorded.outcome.result.Fits)
    (owns : ∀ result ∈ Spill.held job.settings.fallbackDir worked.disk, result.OwnsRows) :
    ∀ recorded ∈ (system.run course).manager.history, recorded.final = true →
      recorded.outcome.delivery ≠ .lost →
        system.staysTimely recorded.task.path course = true →
          reconciled.disk.Shows start.connection.file
            ((last? recorded.task.path.spelling
              (Spill.held job.settings.fallbackDir worked.disk)).getD recorded.outcome.result) := by
  intro recorded mem final delivery timely
  have sound := Job.sound_engage prepared engaged
  have once : paths.count recorded.task.path = 1 := by
    have counted := (Job.conserved_run prepared engaged course).files recorded.task.path
    have some_ : 0 < ((system.run course).manager.finals.map (·.task.path)).count
        recorded.task.path :=
      List.count_pos_iff.2 (List.mem_map_of_mem (List.mem_filter.2 ⟨mem, final⟩))
    have most := List.nodup_iff_count_le_one.1 distinct recorded.task.path
    omega
  have kept := (Job.kept_engage numbered prepared engaged one recorded.task.path).run sound once
    timely
  obtain ⟨delivered, about, has⟩ := kept.settled recorded mem final rfl
  have accepted : recorded.outcome.Accepted := by
    cases which : recorded.outcome.delivery with
    | writer => exact Or.inl which
    | fallback => exact Or.inr which
    | lost => exact absurd which delivery
    | withheld => exact absurd which delivered
  have left := kept.ended (beq_iff_eq.1 finished) punctual
  have shown := (has unharmed).shows_or_spilled accepted left
  cases Job.afterWork_eq_ok ended
  rw [← about.1]
  refine Job.shows_of_reconcile reconciles kept.database owns fun nobody => shown.resolve_right ?_
  rintro ⟨spill, inside, holds⟩
  obtain ⟨producer, path⟩ := kept.paths spill inside
  obtain ⟨stats, after, last, replays, -⟩ := Job.replays_of_reconcile reconciles
  have held := Spill.mem_held named calm replays path holds (undisturbed spill inside)
    (fits recorded mem)
  exact last?_eq_none.1 nobody recorded.outcome.result held rfl

/-! ## A result of an earlier job -/

/-- A timeout of which an earlier job told. -/
def ExtractionResult.stale : ExtractionResult :=
  failed ⟨"./a.pdf"⟩ .timeout "stale" {}

/-- A disk with an empty file, and with a spill file of an earlier job. -/
def Disk.keepingStale : Disk where
  entries := [(["a.pdf"], .file 0), (["spill"], .directory), (["spill", "worker-0.jsonl"], .file 1)]
  contents := [(0, .ofBytes []), (1, .ofBytes (SpillFile.lineBytes stale))]
  nextFile := 2

/-- A course on which the worker's result gets into the store. -/
def Job.committedCourse : List Move :=
  [.manager .feed, .worker 0 true, .worker 0 true, .manager .receive, .worker 0 true,
    .worker 0 true, .worker 0 true, .manager .receive, .writer 0, .manager .look,
    .manager .proceed, .worker 0 true, .worker 0 true, .manager .proceed, .manager .receive,
    .manager .proceed, .manager .proceed, .manager .proceed, .writer 0, .manager .proceed]

/-- The store shows the result of the earlier job instead of the final outcome of this one. -/
theorem final_outcomes_shown_stale : ∃ (start reconciled : Progress) (system : System)
    (course : List Move) (recorded : Recorded) (shown : ExtractionResult),
    Job.single.prepare .keepingStale = .ok ([⟨"./a.pdf"⟩], start) ∧
      recorded ∈ (system.run course).manager.history ∧ recorded.final = true ∧
        recorded.outcome.delivery = .writer ∧ recorded.outcome.result.errorCode = .fileEmpty ∧
          shown.errorCode = .timeout ∧ reconciled.disk.Shows start.connection.file shown := by
  obtain ⟨⟨paths, start, system, worked, reconciled⟩, prepared, engaged, ended, reconciles,
      checked⟩ :=
    @Job.exists_stages .single .keepingStale Job.committedCourse
      (fun stages =>
        let done := stages.system.run Job.committedCourse
        let held := Spill.held Job.single.settings.fallbackDir stages.worked.disk
        decide (stages.paths = [⟨"./a.pdf"⟩] ∧
          (∀ writer ∈ stages.system.writers,
            writer.connection.file = stages.start.connection.file) ∧
          done.isFinished = true ∧ done.manager.report.forceTerminated = 0 ∧
          (∀ writer ∈ done.writers, writer.losses = []) ∧ stages.worked.disk.faults = [] ∧
          (∀ spill ∈ done.spills, spill.isNew .keepingStale stages.worked.disk) ∧
          stages.system.staysTimely ⟨"./a.pdf"⟩ Job.committedCourse = true ∧
          done.manager.history.length = 1 ∧
          (∀ recorded ∈ done.manager.history, recorded.task.path = ⟨"./a.pdf"⟩ ∧
            recorded.final = true ∧ recorded.outcome.delivery = .writer ∧
            recorded.outcome.result.errorCode = .fileEmpty ∧ recorded.outcome.result.isPlain) ∧
          (last? "./a.pdf" held).any (·.errorCode == .timeout) = true ∧
          ∀ result ∈ held, result.isPlain = true))
      (by
        simp only [Job.stages, Job.reconcile, Spill.reconcile_eq, Spill.held_eq]
        decide +kernel)
  dsimp only at prepared engaged ended reconciles checked
  rw [decide_eq_true_eq] at checked
  obtain ⟨rfl, one, finished, punctual, unharmed, calm, new, timely, once, outcomes, stale,
    plain⟩ := checked
  have numbered : Disk.keepingStale.Numbered :=
    Disk.numbered_of_entries (by simp [Disk.keepingStale])
  obtain ⟨recorded, history⟩ := List.length_eq_one_iff.1 once
  have mem : recorded ∈ (system.run Job.committedCourse).manager.history := by simp [history]
  obtain ⟨path, final, delivery, code, -⟩ := outcomes recorded mem
  have shows := final_outcomes_shown numbered prepared (List.nodup_singleton _) engaged one finished
    punctual unharmed ended reconciles (by decide) (by simp [calm])
    (fun spill mem => SpillFile.undisturbed_of_isNew (new spill mem))
    (fun recorded mem => fits_of_isPlain (outcomes recorded mem).2.2.2.2)
    (fun result mem => ownsRows_of_isPlain (plain result mem)) recorded mem final
    (by rw [delivery]; decide) (by rw [path]; exact timely)
  rw [path] at shows
  obtain ⟨shown, last, timedOut⟩ := (Option.any_eq_true _ _).1 stale
  rw [last] at shows
  exact ⟨start, reconciled, system, Job.committedCourse, recorded, shown, prepared, mem, final,
    delivery, code, beq_iff_eq.1 timedOut, shows⟩

end PartsList
