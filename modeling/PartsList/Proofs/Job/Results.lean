import PartsList.Job.Worker
import PartsList.Proofs.Extraction.Tables
import PartsList.Proofs.Store.Delivery

/-!
# Results of workers

Whatever a worker finds in a file, its result and all rows of the result are about that file.
-/

namespace PartsList

namespace ExtractionResult

/-- The result and its rows are about a file. -/
def About (result : ExtractionResult) (path : Path) : Prop :=
  result.filePath = path ∧ result.OwnsRows

theorem about_failed (path : Path) (code : ErrorCode) (message : String) (metrics : Metrics) :
    (failed path code message metrics).About path :=
  ⟨rfl, fun _ mem => nomatch mem⟩

end ExtractionResult

namespace Pipeline

theorem about_precheck {pipeline : Pipeline} {path : Path} {status : Except OsError FileStatus}
    {result : ExtractionResult} (checked : pipeline.precheck path status = .error result) :
    result.About path := by
  unfold precheck at checked
  split at checked
  · cases checked
    exact ExtractionResult.about_failed _ _ _ _
  · split at checked
    · cases checked
    · dsimp only at checked
      split at checked
      · cases checked
        exact ExtractionResult.about_failed _ _ _ _
      · cases checked

theorem about_finish (pipeline : Pipeline) (path : Path) (sizeBytes : Nat)
    (answer : Except EngineError Document) :
    (pipeline.finish path sizeBytes answer).About path := by
  unfold finish
  split
  · exact ExtractionResult.about_failed _ _ _ _
  · dsimp only
    split
    · next extracted =>
        obtain ⟨tables, yields, rfl⟩ := exists_tables_of_extractDocument extracted
        exact ⟨rfl, filePath_of_yields yields⟩
    · exact ExtractionResult.about_failed _ _ _ _

theorem about_process (pipeline : Pipeline) (path : Path) (status : Except OsError FileStatus)
    (answer : Except EngineError Document) :
    (pipeline.process path status answer).About path := by
  unfold process
  split
  · next refused => exact about_precheck refused
  · exact pipeline.about_finish path _ answer

end Pipeline

namespace Worker

theorem about_stamp {result : ExtractionResult} {path : Path} (about : result.About path)
    (attempt elapsed : Nat) (memoryMb : Option Float) :
    (stamp result attempt elapsed memoryMb).About path := about

theorem about_overrun (path : Path) (elapsed timeout : Nat) (metrics : Metrics) :
    (overrun path elapsed timeout metrics).About path :=
  ExtractionResult.about_failed _ _ _ _

/-- Work on a file yields a result about it. -/
theorem about_of_process {rules : WorkerRules} {path : Path} {shared others : Shared}
    {result : ExtractionResult} (processed : process rules path shared = (some result, others)) :
    result.About path := by
  unfold process at processed
  split at processed
  · next refused =>
      cases processed
      exact Pipeline.about_precheck refused
  · dsimp only [load] at processed
    split at processed
    · cases processed
      exact Pipeline.about_finish _ _ _ _
    · cases processed
      exact Pipeline.about_finish _ _ _ _
    · cases processed
      exact ExtractionResult.about_failed _ _ _ _
    · cases processed

end Worker

end PartsList
