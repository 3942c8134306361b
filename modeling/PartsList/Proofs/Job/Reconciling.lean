import PartsList.Proofs.Checkpoint.Sets
import PartsList.Proofs.Job.Stages
import PartsList.Proofs.Job.Writing

/-!
# Reconciling

When the threads are done, a job replays the spill files into its store, and then makes the
checkpoint agree with the store.
-/

namespace PartsList

open Disk ExtractionResult

namespace Job

variable {job : Job} {worked reconciled : Progress}

/-- The disk once the spill files have been replayed. -/
def replayed (job : Job) (worked : Progress) : Disk :=
  let (_, database, disk) := Spill.reconcile job.settings.fallbackDir
    (worked.connection.database worked.disk) worked.disk worked.connection.readOnly
  worked.connection.put database disk

theorem replays_of_reconcile (reconciles : job.reconcile worked = .ok reconciled) :
    ∃ stats after last,
      Spill.reconcile job.settings.fallbackDir (worked.connection.database worked.disk) worked.disk
          worked.connection.readOnly = (.ok stats, after, last) ∧
        job.replayed worked = worked.connection.put after last := by
  obtain ⟨stats, after, last, summaries, spilled, -⟩ := reconcile_eq_ok reconciles
  exact ⟨stats, after, last, spilled, by rw [replayed, spilled]⟩

/-- A replay that succeeds is followed by the corrections that the store asks for. -/
theorem alignment_of_reconcile (reconciles : job.reconcile worked = .ok reconciled) :
    ∃ (aligned : Progress) (summaries : List FileSummary),
      reconciled = job.saveCorrections aligned ∧ aligned.disk = job.replayed worked ∧
        worked.checkpoint.align summaries =
          (aligned.report.checkpointCorrections, aligned.checkpoint) := by
  obtain ⟨stats, after, last, summaries, spilled, same⟩ := reconcile_eq_ok reconciles
  exact ⟨_, summaries, same, by rw [replayed, spilled], rfl⟩

/-- The corrections make no file done or undone. -/
theorem isProcessed_of_reconcile (reconciles : job.reconcile worked = .ok reconciled)
    (path : Path) :
    reconciled.checkpoint.isProcessed path = worked.checkpoint.isProcessed path := by
  obtain ⟨aligned, summaries, rfl, -, aligns⟩ := alignment_of_reconcile reconciles
  have kept := worked.checkpoint.isProcessed_align path summaries
  rw [aligns] at kept
  unfold saveCorrections
  split
  · exact kept
  · dsimp only
    rw [Checkpoint.checkpoint_save]
    exact kept

/-- A replay that succeeds delivers to the job's store what it reads, if it reads anything. -/
theorem takes_of_reconcile (reconciles : job.reconcile worked = .ok reconciled)
    (some_ : Spill.held job.settings.fallbackDir worked.disk ≠ []) :
    worked.disk.Takes (job.replayed worked) worked.connection.file
      (Spill.held job.settings.fallbackDir worked.disk) := by
  obtain ⟨stats, after, last, spilled, replayed⟩ := replays_of_reconcile reconciles
  have takes := Spill.takes_of_reconcile spilled
  rw [replayed]
  cases found : worked.connection.database? worked.disk with
  | none =>
      -- A file that is no database has no tables that could take anything.
      rw [Connection.database, found, Option.getD_none] at takes
      obtain ⟨none, -⟩ | ⟨store, tables, -⟩ := takes
      · exact absurd none some_
      · cases tables
  | some database =>
      rw [Connection.database, found, Option.getD_some] at takes
      refine ⟨database, after, Connection.database?_eq_some.1 found, ?_, takes⟩
      exact (Connection.content?_put worked.connection after last _).trans (if_pos rfl)

/-- Saving the checkpoint once more leaves the store alone. -/
theorem develops_saveCorrections (job : Job) (aligned : Progress) :
    aligned.disk.Develops (job.saveCorrections aligned).disk := by
  unfold saveCorrections
  split
  · exact Develops.refl _
  · exact Checkpoint.develops_save _ _ _ _

/-- Once the spill files have been replayed, the store shows of a file the last result that they
held, and what it showed before if they held none. -/
theorem shows_of_reconcile {result : ExtractionResult}
    (reconciles : job.reconcile worked = .ok reconciled)
    (file : worked.connection.file < worked.disk.nextFile)
    (owns : ∀ result ∈ Spill.held job.settings.fallbackDir worked.disk, result.OwnsRows)
    (shows : last? result.filePath.spelling (Spill.held job.settings.fallbackDir worked.disk) =
      none →
      worked.disk.Shows worked.connection.file result) :
    reconciled.disk.Shows worked.connection.file
      ((last? result.filePath.spelling
        (Spill.held job.settings.fallbackDir worked.disk)).getD result) := by
  obtain ⟨stats, after, last, spilled, replayed⟩ := replays_of_reconcile reconciles
  have takes := Spill.takes_of_reconcile spilled
  have old : worked.connection.file < (worked.connection.put after last).nextFile :=
    Nat.lt_of_lt_of_le file (Spill.develops_reconcile spilled).nextFile
  have content : (worked.connection.put after last).content? worked.connection.file =
      some (.database after) := (Connection.content?_put _ after last _).trans (if_pos rfl)
  obtain ⟨aligned, _, rfl, disk, -⟩ := alignment_of_reconcile reconciles
  have saved := job.develops_saveCorrections aligned
  rw [disk, replayed] at saved
  refine Shows.develops ?_ old saved
  cases found : last? result.filePath.spelling
      (Spill.held job.settings.fallbackDir worked.disk) with
  | none =>
      obtain ⟨database, store, held, tables, kept⟩ := shows found
      rw [Connection.database, Connection.database?_eq_some.2 held, Option.getD_some] at takes
      obtain ⟨-, same⟩ | ⟨other, tables', behind⟩ := takes
      · exact ⟨after, store, content, same.trans tables, kept⟩
      · cases tables.symm.trans tables'
        exact ⟨after, _, content, behind, kept.deliverAll owns found⟩
  | some shown =>
      obtain ⟨mem, same⟩ := last?_eq_some found
      obtain ⟨none, -⟩ | ⟨store, -, behind⟩ := takes
      · rw [none] at mem
        exact absurd mem List.not_mem_nil
      · exact ⟨after, _, content, behind, Store.shows_deliverAll owns (same ▸ found)⟩

end Job

end PartsList
