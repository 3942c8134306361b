import PartsList.Job.Run
import PartsList.Proofs.Basic

/-!
# The stages of a job

What has come of each stage of a job that has succeeded, and how the stages make up a job that comes
to its end.
-/

namespace PartsList

namespace System

/-- Threads that are let go take some course. -/
theorem exists_run_settle (fuel : Nat) (system : System) :
    ∃ course, system.settle fuel = system.run course := by
  induction fuel generalizing system with
  | zero => exact ⟨[], rfl⟩
  | succ fuel induction =>
      unfold settle
      split
      · exact ⟨[], rfl⟩
      · split
        · exact ⟨[], rfl⟩
        · next move after found =>
            obtain ⟨course, ran⟩ := induction after
            obtain ⟨tried, -, moved⟩ := List.exists_of_findSome?_eq_some found
            obtain ⟨reached, moved, same⟩ := Option.map_eq_some_iff.1 moved
            cases same
            refine ⟨move :: course, ran.trans ?_⟩
            simp [run, step, moved]

end System

namespace Job

variable {job : Job} {disk : Disk} {paths : List Path} {start worked reconciled last : Progress}
  {system : System} {course : List Move} {interrupted : Bool}

/-! ## Selection -/

theorem prepare_eq_ok (prepared : job.prepare disk = .ok (paths, start)) :
    ∃ connection opened checkpoint loaded discovered,
      Database.openAt job.settings.databasePath disk = (.ok connection, opened) ∧
        job.loadCheckpoint opened = (.ok checkpoint, loaded) ∧
          discover? loaded job.settings.inputDir = some discovered ∧
            paths = selectFiles discovered checkpoint job.mode job.limit ∧
              start =
                { connection := connection
                  checkpoint := checkpoint
                  report := selectionReport discovered paths
                  disk := loaded } := by
  unfold prepare at prepared
  split at prepared
  · cases prepared
  · split at prepared
    · cases prepared
    · next connection opened connected =>
        split at prepared
        · cases prepared
        · next checkpoint loaded read =>
            dsimp only at prepared
            split at prepared
            · cases prepared
            · next discovered found =>
                cases prepared
                exact ⟨connection, opened, checkpoint, loaded, discovered, connected, read, found,
                  rfl, rfl⟩

/-- The report of a job that has selected its files tells how many, and nothing of outcomes. -/
theorem report_of_prepare (prepared : job.prepare disk = .ok (paths, start)) :
    ∃ discovered, start.report = selectionReport discovered paths := by
  obtain ⟨_, _, _, _, discovered, -, -, -, -, rfl⟩ := prepare_eq_ok prepared
  exact ⟨discovered, rfl⟩

/-! ## Threads -/

/-- Threads that are started are the workers that the manager hires at once, at least one, and the
writers. -/
theorem engage_eq_ok (engaged : job.engage paths start = .ok system) :
    ∃ plan supervisor writers opened,
      Plan.derive job.host job.settings paths.length = .ok plan ∧
        Writers.start (job.writerSetup plan) start.disk = (.ok writers, opened) ∧
          (let idle := job.managerAtStart plan paths start supervisor
           let started := Manager.spawnAll plan.workerCount idle
             (job.sharedAtStart plan start (writers.map (·.2)) opened)
           system =
            { rules := job.workerRules plan
              shared := started.2
              manager := started.1
              workers := System.hired idle started.1
              writers := writers.map (·.1) }) ∧
          system.manager.workers ≠ [] := by
  unfold engage at engaged
  split at engaged
  · cases engaged
  · next plan derived =>
      split at engaged
      · cases engaged
      · next writers opened started =>
          split at engaged
          · cases engaged
          · next supervisor _ =>
              unfold systemAtStart at engaged
              dsimp only at engaged
              split at engaged
              · cases engaged
              · next hired =>
                  cases Except.ok.inj engaged
                  rw [List.isEmpty_iff] at hired
                  exact ⟨plan, supervisor, writers, opened, derived, started, rfl, hired⟩

/-- When the threads are done, the job goes on with what they leave behind. -/
theorem afterWork_eq_ok (ended : job.afterWork start system = .ok worked) :
    worked =
      { start with
        checkpoint := system.manager.checkpoint
        report := system.manager.report
        disk := system.shared.disk
        loads := system.shared.loads } := by
  unfold afterWork at ended
  split at ended
  · cases ended
  · exact (Except.ok.inj ended).symm

/-! ## The end -/

theorem report_saveCorrections (job : Job) (aligned : Progress) :
    (job.saveCorrections aligned).report = aligned.report := by
  unfold saveCorrections
  split <;> rfl

theorem connection_saveCorrections (job : Job) (aligned : Progress) :
    (job.saveCorrections aligned).connection = aligned.connection := by
  unfold saveCorrections
  split <;> rfl

/-- A replay that succeeds is followed by the corrections that the store asks for. -/
theorem reconcile_eq_ok (reconciles : job.reconcile worked = .ok reconciled) :
    ∃ stats after last summaries,
      Spill.reconcile job.settings.fallbackDir (worked.connection.database worked.disk) worked.disk
          worked.connection.readOnly = (.ok stats, after, last) ∧
        reconciled = job.saveCorrections
          { worked with
            checkpoint := (worked.checkpoint.align summaries).2
            report :=
              { worked.report.enter .reconciling with
                reconciled := stats
                checkpointCorrections := (worked.checkpoint.align summaries).1 }
            disk := worked.connection.put after last } := by
  unfold reconcile at reconciles
  dsimp only at reconciles
  split at reconciles
  · cases reconciles
  · next stats after last spilled =>
      unfold alignCheckpoint at reconciles
      split at reconciles
      · cases reconciles
      · next summaries _ =>
          exact ⟨stats, after, last, summaries, spilled, (Except.ok.inj reconciles).symm⟩

theorem report_reconcile (reconciles : job.reconcile worked = .ok reconciled) :
    ∃ stats corrections, reconciled.report =
      { worked.report.enter .reconciling with
        reconciled := stats
        checkpointCorrections := corrections } := by
  obtain ⟨stats, after, last, summaries, -, rfl⟩ := reconcile_eq_ok reconciles
  rw [report_saveCorrections]
  exact ⟨stats, _, rfl⟩

theorem connection_of_reconcile (reconciles : job.reconcile worked = .ok reconciled) :
    reconciled.connection = worked.connection := by
  obtain ⟨stats, after, last, summaries, -, rfl⟩ := reconcile_eq_ok reconciles
  rw [connection_saveCorrections]

theorem exportRows_eq_ok (exported : job.exportRows start = .ok last) :
    ∃ rows disk, Export.writeRows job.settings.rowsOutput rows start.disk = (.ok (), disk) ∧
      last = { start with disk := disk } := by
  unfold exportRows at exported
  split at exported
  · cases exported
  · next rows _ =>
      split at exported
      · cases exported
      · next disk written => exact ⟨rows, disk, written, (Except.ok.inj exported).symm⟩

theorem exportSummaries_eq_ok (exported : job.exportSummaries start = .ok last) :
    ∃ summaries disk,
      Export.writeSummaries job.settings.summaryOutput summaries start.disk = (.ok (), disk) ∧
        last = { start with disk := disk } := by
  unfold exportSummaries at exported
  split at exported
  · cases exported
  · next summaries _ =>
      split at exported
      · cases exported
      · next disk written => exact ⟨summaries, disk, written, (Except.ok.inj exported).symm⟩

/-- The end of a job writes the two exports, one after the other. -/
theorem conclude_eq_ok (concluded : job.conclude reconciled = .ok last) :
    ∃ rows summaries between disk,
      Export.writeRows job.settings.rowsOutput rows reconciled.disk = (.ok (), between) ∧
        Export.writeSummaries job.settings.summaryOutput summaries between = (.ok (), disk) ∧
          last =
            { reconciled with
              report := (reconciled.report.enter .reporting).enter .done
              disk := disk } := by
  obtain ⟨exported, first, rest⟩ := exists_of_bind_eq_ok concluded
  obtain ⟨summarized, second, rest⟩ := exists_of_bind_eq_ok rest
  cases rest
  obtain ⟨rows, between, wrote, rfl⟩ := exportRows_eq_ok first
  obtain ⟨summaries, disk, wroteAlso, rfl⟩ := exportSummaries_eq_ok second
  exact ⟨rows, summaries, between, disk, wrote, wroteAlso, rfl⟩

theorem report_conclude (concluded : job.conclude reconciled = .ok last) :
    last.report = (reconciled.report.enter .reporting).enter .done := by
  obtain ⟨rows, summaries, between, disk, -, -, rfl⟩ := conclude_eq_ok concluded
  rfl

/-! ## Whole jobs -/

/-- How a job comes to its end: whether it was interrupted before its workers were started, the
files that it has selected, the threads that it has started with the course that they have taken,
and what it returns. -/
inductive Passes (job : Job) (disk : Disk) :
    Bool → List Path → Option (System × List Move) → Progress → Prop
  /-- It is interrupted before any worker is started. -/
  | skipped {paths : List Path} {start last : Progress}
      (prepared : job.prepare disk = .ok (paths, start))
      (concluded : job.conclude (skip paths start) = .ok last) :
      Passes job disk true paths none last
  /-- No file is selected. -/
  | idle {start reconciled last : Progress} (prepared : job.prepare disk = .ok ([], start))
      (replayed : job.reconcile start = .ok reconciled)
      (concluded : job.conclude reconciled = .ok last) : Passes job disk false [] none last
  /-- The threads process the files, whatever course they take. -/
  | worked {paths : List Path} {start worked reconciled last : Progress} {system : System}
      {course : List Move} (prepared : job.prepare disk = .ok (paths, start)) (chosen : paths ≠ [])
      (engaged : job.engage paths start = .ok system)
      (finished : (system.run course).isFinished = true)
      (ended : job.afterWork start (system.run course) = .ok worked)
      (replayed : job.reconcile worked = .ok reconciled)
      (concluded : job.conclude reconciled = .ok last) :
      Passes job disk false paths (some (system, course)) last

/-- Running a job is a way for it to come to its end, if its threads come to theirs. -/
theorem passes_of_run
    (ends : interrupted = false → ∀ paths start system, job.prepare disk = .ok (paths, start) →
      job.engage paths start = .ok system → system.complete.isFinished = true)
    (ran : job.run interrupted disk = .ok last) :
    ∃ paths threads, job.Passes disk interrupted paths threads last := by
  obtain ⟨⟨paths, start⟩, prepared, rest⟩ := exists_of_bind_eq_ok ran
  cases interrupted with
  | true => exact ⟨paths, none, .skipped prepared rest⟩
  | false =>
      cases paths with
      | nil =>
          obtain ⟨unchanged, same, rest⟩ := exists_of_bind_eq_ok rest
          obtain ⟨reconciled, replayed, concluded⟩ := exists_of_bind_eq_ok rest
          cases same
          exact ⟨[], none, .idle prepared replayed concluded⟩
      | cons path paths =>
          obtain ⟨worked, work, rest⟩ := exists_of_bind_eq_ok rest
          obtain ⟨system, engaged, ended⟩ := exists_of_bind_eq_ok work
          obtain ⟨reconciled, replayed, concluded⟩ := exists_of_bind_eq_ok rest
          obtain ⟨course, complete⟩ := System.exists_run_settle system.patience system
          have finished := ends rfl _ _ _ prepared engaged
          rw [System.complete, complete] at finished ended
          exact ⟨_, some (system, course),
            .worked prepared (List.cons_ne_nil _ _) engaged finished ended replayed concluded⟩

/-! ## Courses that are gone through -/

/-- The stages of a job until its spill files have been replayed. -/
structure Stages where
  /-- The files that it selects. -/
  paths : List Path
  /-- How far it is when it starts its threads. -/
  start : Progress
  /-- Its threads at the start. -/
  system : System
  /-- How far it is when its threads are done. -/
  worked : Progress
  /-- How far it is when its spill files have been replayed. -/
  reconciled : Progress

/-- The stages of a job whose threads take a course. -/
def stages (job : Job) (disk : Disk) (course : List Move) : Except JobFailure Stages := do
  let (paths, start) ← job.prepare disk
  let system ← job.engage paths start
  let worked ← job.afterWork start (system.run course)
  let reconciled ← job.reconcile worked
  return { paths, start, system, worked, reconciled }

theorem stages_eq_ok {stages : Stages} (staged : job.stages disk course = .ok stages) :
    job.prepare disk = .ok (stages.paths, stages.start) ∧
      job.engage stages.paths stages.start = .ok stages.system ∧
        job.afterWork stages.start (stages.system.run course) = .ok stages.worked ∧
          job.reconcile stages.worked = .ok stages.reconciled := by
  obtain ⟨⟨paths, start⟩, prepared, rest⟩ := exists_of_bind_eq_ok staged
  obtain ⟨system, engaged, rest⟩ := exists_of_bind_eq_ok rest
  obtain ⟨worked, ended, rest⟩ := exists_of_bind_eq_ok rest
  obtain ⟨reconciled, reconciles, rest⟩ := exists_of_bind_eq_ok rest
  cases rest
  exact ⟨prepared, engaged, ended, reconciles⟩

theorem exists_stages {check : Stages → Bool}
    (checked : (job.stages disk course).toOption.any check = true) :
    ∃ stages : Stages, job.prepare disk = .ok (stages.paths, stages.start) ∧
      job.engage stages.paths stages.start = .ok stages.system ∧
        job.afterWork stages.start (stages.system.run course) = .ok stages.worked ∧
          job.reconcile stages.worked = .ok stages.reconciled ∧ check stages = true := by
  cases staged : job.stages disk course with
  | error =>
      rw [staged] at checked
      cases checked
  | ok stages =>
      rw [staged] at checked
      obtain ⟨prepared, engaged, ended, reconciles⟩ := stages_eq_ok staged
      exact ⟨stages, prepared, engaged, ended, reconciles, checked⟩

end Job

end PartsList
