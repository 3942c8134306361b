import PartsList.Proofs.Job.Acceptance
import PartsList.Proofs.Job.Chronicle
import PartsList.Proofs.Job.Restraint
import PartsList.Proofs.Job.Resumption
import PartsList.Proofs.Store.Confinement

/-!
# The course of a job

A job enters the parts of its course in their order.  One that is interrupted before its workers are
started goes from the selection of files to the exports, and those are the only files that it
writes, apart from the database that it opens.
-/

namespace PartsList

namespace Job

variable {job : Job} {disk : Disk} {paths : List Path} {start progress last : Progress}
  {system : System} {course : List Move} {interrupted : Bool}
  {threads : Option (System × List Move)}

/-! ## Parts of the course -/

/-- The manager of threads that have been started is about to give out tasks. -/
theorem dispatches_engage (prepared : job.prepare disk = .ok (paths, start))
    (engaged : job.engage paths start = .ok system) : system.Dispatches := by
  obtain ⟨discovered, report⟩ := report_of_prepare prepared
  obtain ⟨plan, supervisor, writers, opened, -, -, rfl, -⟩ := engage_eq_ok engaged
  let idle := job.managerAtStart plan paths start supervisor
  have states : idle.report.states = Manager.entered false false := by
    change start.report.states ++ [JobState.dispatching] = _
    rw [report]
    rfl
  have quiet : idle.report.interrupted = false := by
    change start.report.interrupted = false
    rw [report]
    rfl
  have course := Manager.course_spawnAll plan.workerCount idle
    (job.sharedAtStart plan start (writers.map (·.2)) opened)
  obtain ⟨phase, chronicle⟩ := Prod.mk.inj course
  obtain ⟨-, report⟩ := Prod.mk.inj chronicle
  have idles : idle.OnCourse := states
  exact ⟨phase, idles.congr (congrArg (· != ManagerPhase.dispatching) phase) chronicle,
    (Prod.mk.inj report).1.trans quiet⟩

end Job

namespace Report

/-- The parts of its course that a job enters, with `drained` to tell whether any threads were
started and whether nothing waited then. -/
def passed (interrupted : Bool) : (drained : Option Bool) → List JobState
  | none =>
    [.init, .discovering] ++ (if interrupted then [] else [.reconciling]) ++ [.reporting, .done]
  | some drained => Manager.entered drained true ++ [.reconciling, .reporting, .done]

/-- The report of a job tells its course. -/
structure Recounts (report : Report) (interrupted : Bool) (paths : List Path)
    (threads : Option (System × List Move)) : Prop where
  /-- No part of the course comes twice, and each comes before those behind it. -/
  ordered : report.states.Sublist JobState.all
  /-- The first parts, -/
  begins : [.init, .discovering] <+: report.states
  /-- and the last ones. -/
  ends : [.reporting, .done] <:+ report.states
  /-- Tasks are given out if there are any, unless the job is interrupted beforehand, -/
  dispatching : .dispatching ∈ report.states ↔ paths ≠ [] ∧ interrupted = false
  /-- and then the threads are asked to leave. -/
  shuttingDown : .shuttingDown ∈ report.states ↔ paths ≠ [] ∧ interrupted = false
  /-- Spill files are replayed unless the job is interrupted beforehand. -/
  reconciling : .reconciling ∉ report.states ↔ interrupted = true
  /-- If no task waits when the manager turns to the end, and it is not interrupted, this shows. -/
  draining : ∀ system course, threads = some (system, course) → report.interrupted = false →
    (system.atTurn course).manager.pending = [] → .draining ∈ report.states
  /-- The job is interrupted beforehand, or before the manager turns to the end. -/
  interrupted : report.interrupted =
    (interrupted || threads.any fun (system, course) => (system.atTurn course).shared.interrupted)
  /-- The program's exit code tells whether it is. -/
  exitCode : report.exitCode = 2 ↔ report.interrupted = true

variable {report : Report} {interrupted : Bool} {drained : Option Bool} {paths : List Path}
  {threads : Option (System × List Move)}

theorem exitCode_iff (report : Report) :
    report.exitCode = 2 ↔ report.interrupted = true := by
  unfold exitCode
  cases report.interrupted <;> decide

theorem passed_spec (interrupted : Bool) (drained : Option Bool) :
    (passed interrupted drained).Sublist JobState.all ∧
      [.init, .discovering] <+: passed interrupted drained ∧
      [.reporting, .done] <:+ passed interrupted drained ∧
      (.dispatching ∈ passed interrupted drained ↔ drained.isSome = true) ∧
      (.shuttingDown ∈ passed interrupted drained ↔ drained.isSome = true) ∧
      (.reconciling ∉ passed interrupted drained ↔ drained.isSome = false ∧ interrupted = true) ∧
      (.draining ∈ passed interrupted drained ↔ drained = some true) := by
  rcases drained with _ | _ | _ <;> cases interrupted <;> decide

theorem recounts_of_states (states : report.states = passed interrupted drained)
    (works : drained.isSome = true ↔ paths ≠ [] ∧ interrupted = false)
    (draining : ∀ system course, threads = some (system, course) → report.interrupted = false →
      (system.atTurn course).manager.pending = [] → drained = some true)
    (seen : report.interrupted =
      (interrupted || threads.any fun (system, course) =>
        (system.atTurn course).shared.interrupted)) :
    report.Recounts interrupted paths threads := by
  obtain ⟨ordered, begins, ends, dispatching, shuttingDown, reconciling, drains⟩ :=
    passed_spec interrupted drained
  rw [← states] at ordered begins ends dispatching shuttingDown reconciling drains
  refine ⟨ordered, begins, ends, dispatching.trans works, shuttingDown.trans works,
    reconciling.trans ⟨And.right, fun skips => ⟨?_, skips⟩⟩,
    fun system course same quiet none => drains.2 (draining system course same quiet none), seen,
    report.exitCode_iff⟩
  rw [← Bool.not_eq_true, works, skips]
  exact fun works => nomatch works.2

end Report

namespace Job

variable {job : Job} {disk : Disk} {paths : List Path} {start progress last : Progress}
  {system : System} {course : List Move} {interrupted : Bool}
  {threads : Option (System × List Move)}

/-- Whatever course the threads of a job take, its report tells the parts of it. -/
theorem Passes.recounts (passes : job.Passes disk interrupted paths threads last) :
    last.report.Recounts interrupted paths threads := by
  cases passes with
  | @skipped paths start last prepared concluded =>
      obtain ⟨discovered, report⟩ := report_of_prepare prepared
      have concludes := report_conclude concluded
      refine @Report.recounts_of_states _ true none _ none ?_ (by simp)
        (fun _ _ same => nomatch same) ?_
      · rw [concludes, skip, report]
        rfl
      · rw [concludes]
        rfl
  | @idle start reconciled last prepared replayed concluded =>
      obtain ⟨discovered, report⟩ := report_of_prepare prepared
      obtain ⟨stats, corrections, replays⟩ := report_reconcile replayed
      have concludes := report_conclude concluded
      refine @Report.recounts_of_states _ false none _ none ?_ (by simp)
        (fun _ _ same => nomatch same) ?_
      · rw [concludes, replays, report]
        rfl
      · rw [concludes, replays, report]
        rfl
  | @worked paths start worked reconciled last system course prepared chosen engaged finished ended
      replayed concluded =>
      obtain ⟨stats, corrections, replays⟩ := report_reconcile replayed
      have concludes := report_conclude concluded
      have works := congrArg Progress.report (afterWork_eq_ok ended)
      have turns : (system.atTurn course).Turns (system.run course) := by
        refine ((dispatches_engage prepared engaged).run course).resolve_left fun still => ?_
        rw [System.isFinished, still.phase] at finished
        cases finished
      have states : last.report.states = (system.run course).manager.report.states ++
          [.reconciling, .reporting, .done] := by
        rw [concludes, replays, works]
        simp [Report.enter]
      have seen : last.report.interrupted = (system.atTurn course).shared.interrupted := by
        rw [← turns.interrupted, concludes, replays, works]
        rfl
      have shows : last.report.states =
          Report.passed false (some (system.run course).manager.draining) := by
        rw [states, turns.onCourse, turns.turned]
        rfl
      refine Report.recounts_of_states shows (by simp [chosen]) ?_ ?_
      · rintro _ _ ⟨⟩ quiet none
        rw [turns.draining, none, ← seen, quiet]
        simp
      · rw [seen]
        simp

/-! ## What is left alone -/

/-- The file is one that the exports of a job are written to. -/
def Exports (job : Job) (last : Progress) (id : FileId) : Prop :=
  last.disk.Leads job.settings.rowsOutput id ∨ last.disk.Leads job.settings.summaryOutput id

theorem not_exports {rows summaries id : FileId}
    (here : last.disk.Leads job.settings.rowsOutput rows)
    (there : last.disk.Leads job.settings.summaryOutput summaries) (other : id ≠ rows)
    (another : id ≠ summaries) : ¬job.Exports last id := by
  rintro (leads | leads)
  · exact other (leads.unique here)
  · exact another (leads.unique there)

/-- The location is that of a journal or log that is left beside the job's database when that is
made anew. -/
def Clears (disk : Disk) (last : Progress) : Location → Prop :=
  Database.Vacates disk last.disk last.connection.file

/-- What a job leaves alone that writes nothing but its database and the exports. -/
structure Untouched (job : Job) (disk : Disk) (last : Progress) : Prop where
  /-- Whatever stands on the disk stays there and holds what it held, but for the database, the
  exports and what is left beside a database that is made anew; and there are no other new files. -/
  confined :
    Disk.Confined (Clears disk last) (fun id => id = last.connection.file ∨ job.Exports last id)
      disk last.disk
  /-- Paths lead where they led, to files that hold what they held. -/
  files : ∀ path id, disk.Leads path id → id ≠ last.connection.file → ¬job.Exports last id →
    (∀ location, Clears disk last location → disk.entryAt? location = none) →
      last.disk.Leads path id ∧ last.disk.content? id = disk.content? id
  /-- The checkpoint is the same. -/
  checkpoint : ∀ id, disk.Leads job.settings.checkpointPath id → id ≠ last.connection.file →
    ¬job.Exports last id →
    (∀ location, Clears disk last location → disk.entryAt? location = none) →
      last.disk.checkpointAt job.settings.checkpointPath =
        disk.checkpointAt job.settings.checkpointPath
  /-- Tables of the database that are there hold the same rows and summaries. -/
  tables : ∀ database, last.connection.file < disk.nextFile →
    disk.content? last.connection.file = some (.database database) →
    ¬job.Exports last last.connection.file →
      ∃ kept, last.disk.content? last.connection.file = some (.database kept) ∧
        kept.Retains database

/-- The setup of a job changes nothing but the database. -/
theorem opens_prepare (prepared : job.prepare disk = .ok (paths, start)) :
    Database.Opens disk start.disk start.connection.file := by
  obtain ⟨connection, opened, checkpoint, loaded, discovered, connected, read, -, rfl, rfl⟩ :=
    prepare_eq_ok prepared
  have loads := job.grows_loadCheckpoint opened
  rw [read] at loads
  exact (Database.opens_openAt connected).grows loads

/-- The end of a job changes nothing but the files of its exports. -/
theorem confined_conclude (concluded : job.conclude progress = .ok last) :
    last.connection = progress.connection ∧
      Disk.Confined (fun _ => False) (job.Exports last) progress.disk last.disk := by
  obtain ⟨rows, summaries, between, written, wroteRows, wroteSummaries, rfl⟩ :=
    conclude_eq_ok concluded
  obtain ⟨first, leads, firstly⟩ := Export.confined_writeRecords wroteRows fun _ => False
  obtain ⟨second, leads', secondly⟩ := Export.confined_writeRecords wroteSummaries fun _ => False
  have stays := leads.after fun location entry there =>
    (secondly.entries location entry there).resolve_right id
  refine ⟨rfl, (firstly.mono (fun _ => id) ?_).trans (secondly.mono (fun _ => id) ?_)⟩
  · rintro _ rfl
    exact Or.inl stays
  · rintro _ rfl
    exact Or.inr leads'

/-- A job that is interrupted before its workers are started writes nothing but its database and its
exports. -/
theorem untouched_of_skipped (numbered : disk.Numbered)
    (prepared : job.prepare disk = .ok (paths, start))
    (concluded : job.conclude (skip paths start) = .ok last) : job.Untouched disk last := by
  obtain ⟨connection, exports⟩ := confined_conclude concluded
  have opens := opens_prepare prepared
  have same : start.connection.file = last.connection.file := by rw [connection]; rfl
  rw [same] at opens
  have opened : Disk.Confined (Clears disk last)
      (fun id => id = last.connection.file ∨ job.Exports last id) disk start.disk := by
    refine opens.confined.mono (fun location vacates => ?_) fun _ => Or.inl
    obtain ⟨new, place, there, beside⟩ := vacates
    exact ⟨new, place, (exports.entries place _ there).resolve_right id, beside⟩
  have confined := opened.trans (exports.mono (fun _ => False.elim) fun _ => Or.inr)
  have files (path : Path) (id : FileId) (leads : disk.Leads path id)
      (other : id ≠ last.connection.file) (exported : ¬job.Exports last id)
      (stays : ∀ location, Clears disk last location → disk.entryAt? location = none) :
      last.disk.Leads path id ∧ last.disk.content? id = disk.content? id :=
    confined.leads numbered stays leads (not_or.2 ⟨other, exported⟩)
  refine ⟨confined, files, fun id leads other exported stays => ?_,
    fun database old holds exported => ?_⟩
  · obtain ⟨leads', holds⟩ := files _ id leads other exported stays
    refine Checkpoint.checkpointAt_congr ?_
    obtain ⟨location, resolved⟩ := leads.resolve
    obtain ⟨location', resolved'⟩ := leads'.resolve
    rw [Disk.bytesAt, Disk.bytesAt, resolved, resolved']
    dsimp only
    rw [holds]
  · obtain ⟨kept, holds, retains⟩ := opens.tables old database holds
    refine ⟨kept, ?_, retains⟩
    have before := Nat.lt_of_lt_of_le old opens.confined.nextFile
    rw [(exports.contents _ before).resolve_right exported]
    exact holds

/-- A job that is interrupted before its workers are started and that passes a check. -/
theorem exists_skipped {check : Progress → Bool}
    (checked : (job.run true disk).toOption.any check = true) :
    ∃ paths last, job.Passes disk true paths none last ∧ check last = true := by
  cases ran : job.run true disk with
  | error =>
      rw [ran] at checked
      cases checked
  | ok last =>
      rw [ran] at checked
      obtain ⟨paths, threads, passes⟩ := @passes_of_run _ _ _ true (fun same => nomatch same) ran
      cases passes with
      | skipped prepared concluded => exact ⟨paths, last, .skipped prepared concluded, checked⟩

end Job

/-- Whatever way a job takes to its end, its report tells the parts of its course in their order: it
gives out tasks and turns to the end exactly if there are any tasks and it was not interrupted
before its workers were started, it replays spill files exactly if it was not interrupted then, and
it tells that nothing waited when it turned to the end without an interruption.  The exit code tells
of interruptions.  A job that was interrupted before its workers were started leaves the disk alone,
but for its database, which keeps what it stores, and for its exports. -/
theorem job_lifecycle {job : Job} {disk : Disk} {interrupted : Bool} {paths : List Path}
    {threads : Option (System × List Move)} {last : Progress} (numbered : disk.Numbered)
    (passes : job.Passes disk interrupted paths threads last) :
    last.report.Recounts interrupted paths threads ∧
      (interrupted = true → job.Untouched disk last) := by
  refine ⟨passes.recounts, fun skips => ?_⟩
  cases passes with
  | skipped prepared concluded => exact Job.untouched_of_skipped numbered prepared concluded
  | idle | worked => cases skips

/-- A disk with a file, the checkpoint of another one and a database that knows of it. -/
def Disk.marked : Disk where
  entries := [(["a.pdf"], .file 0), (["checkpoint"], .file 1), (["database"], .file 2)]
  contents :=
    [(0, .ofBytes [1]),
     (1, .ofBytes (Disk.bytesOf (Checkpoint.fileText { completed := .ofList [⟨"./b.pdf"⟩] }))),
     (2, .database (Database.fresh.upsert [.failed ⟨"./b.pdf"⟩ .fileEmpty "" {}]).2)]
  nextFile := 3

/-- What a path is resolved to, computed, says where it leads. -/
theorem Disk.leads_of_entry {disk : Disk} {path : Path} {id : FileId}
    (found : (disk.resolve .followed path).toOption.bind (·.entry) = some (.file id)) :
    disk.Leads path id := by
  cases resolved : disk.resolve .followed path with
  | error error =>
      rw [resolved] at found
      cases found
  | ok place =>
      rw [resolved] at found
      exact leads_of_resolve resolved found

/-- When a job comes to its end whose threads have taken a course, its report tells that nothing
waited.  When the job is interrupted beforehand, checkpoint and database stay as they are. -/
theorem job_lifecycle_small :
    (∃ last threads, Job.resuming.Passes .small false [⟨"./a.pdf"⟩] threads last ∧
      .draining ∈ last.report.states ∧ last.report.states.Sublist JobState.all) ∧
    ∃ paths last, Job.small.Passes .marked true paths none last ∧
      .reconciling ∉ last.report.states ∧ last.report.exitCode = 2 ∧
      last.disk.checkpointAt ⟨"checkpoint"⟩ = .ok { completed := .ofList [⟨"./b.pdf"⟩] } ∧
      ∃ kept, last.disk.content? 2 = some (.database kept) ∧
        (kept.summaries.map List.length) = some 1 := by
  constructor
  · have numbered : Disk.small.Numbered := Disk.numbered_of_entries (by simp [Disk.small])
    obtain ⟨⟨paths, start, system, worked, reconciled⟩, prepared, engaged, ended, reconciles,
        checked⟩ :=
      @Job.exists_stages .resuming .small Job.refusedCourse
        (fun stages =>
          match Job.resuming.conclude stages.reconciled with
          | .error _ => false
          | .ok last =>
            decide (stages.paths = [⟨"./a.pdf"⟩] ∧
              (stages.system.run Job.refusedCourse).isFinished = true ∧
              (stages.system.atTurn Job.refusedCourse).manager.pending = [] ∧
              last.report.interrupted = false))
        (by decide +kernel)
    dsimp only at prepared engaged ended reconciles checked
    split at checked
    · cases checked
    · next last concludes =>
        rw [decide_eq_true_eq] at checked
        obtain ⟨rfl, finished, none, quiet⟩ := checked
        have passes := Job.Passes.worked prepared (List.cons_ne_nil _ _) engaged finished ended
          reconciles concludes
        obtain ⟨recounts, -⟩ := job_lifecycle numbered passes
        exact ⟨last, _, passes, recounts.draining _ _ rfl quiet none, recounts.ordered⟩
  · have numbered : Disk.marked.Numbered := Disk.numbered_of_entries (by simp [Disk.marked])
    obtain ⟨paths, last, passes, checked⟩ := @Job.exists_skipped .small .marked
      (fun last => decide (last.connection.file = 2 ∧
        (last.disk.resolve .followed Job.small.settings.rowsOutput).toOption.bind (·.entry) =
          some (.file 3) ∧
        (last.disk.resolve .followed Job.small.settings.summaryOutput).toOption.bind (·.entry) =
          some (.file 4))) (by decide +kernel)
    rw [decide_eq_true_eq] at checked
    obtain ⟨file, rows, summaries⟩ := checked
    obtain ⟨recounts, untouched⟩ := job_lifecycle numbered passes
    have untouched := untouched rfl
    have exported {id : FileId} (old : id < 3) : ¬Job.small.Exports last id :=
      Job.not_exports (Disk.leads_of_entry rows) (Disk.leads_of_entry summaries)
        (Nat.ne_of_lt old) (Nat.ne_of_lt (Nat.lt_succ_of_lt old))
    refine ⟨paths, last, passes, recounts.reconciling.2 rfl,
      recounts.exitCode.2 recounts.interrupted, ?_, ?_⟩
    · refine (untouched.checkpoint 1 ⟨["checkpoint"], by decide +kernel⟩ (by rw [file]; decide)
        (exported (by decide)) fun location clears => ?_).trans (by decide +kernel)
      -- The database is there already, so nothing is cleared away beside it.
      have size := clears.1 (by rw [file]; decide)
      rw [file] at size
      exact absurd size (by decide)
    · obtain ⟨kept, holds, retains⟩ := untouched.tables _ (by rw [file]; decide) (by rw [file]; rfl)
        (by rw [file]; exact exported (by decide))
      rw [file] at holds
      exact ⟨kept, holds, by rw [retains.summaries _ rfl]; rfl⟩

/-- A job that exports its summaries to the checkpoint's file. -/
def Job.overwriting : Job :=
  { Job.small with settings := { Job.small.settings with summaryOutput := ⟨"checkpoint"⟩ } }

/-- When such a job is interrupted before its workers are started, it overwrites the checkpoint. -/
theorem job_lifecycle_overwriting : ∃ paths last,
    Job.overwriting.Passes .marked true paths none last ∧
      Disk.marked.checkpointAt ⟨"checkpoint"⟩ = .ok { completed := .ofList [⟨"./b.pdf"⟩] } ∧
      last.disk.checkpointAt ⟨"checkpoint"⟩ = .error (.corrupt ⟨"checkpoint"⟩) := by
  obtain ⟨paths, last, passes, checked⟩ := @Job.exists_skipped .overwriting .marked
    (fun last => decide (
        Disk.marked.checkpointAt ⟨"checkpoint"⟩ = .ok { completed := .ofList [⟨"./b.pdf"⟩] } ∧
      last.disk.checkpointAt ⟨"checkpoint"⟩ = .error (.corrupt ⟨"checkpoint"⟩)))
    (by decide +kernel)
  rw [decide_eq_true_eq] at checked
  exact ⟨paths, last, passes, checked⟩

end PartsList
