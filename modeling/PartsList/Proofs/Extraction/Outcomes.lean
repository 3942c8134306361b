import PartsList.Extraction.Pipeline

/-!
# Successes and failures

Every result of the work on a file is either a success, which has rows and says nothing of a
failure, or a failure, which has no rows and says where and why the work failed.
-/

namespace PartsList

namespace ErrorCode

/-- Exactly the codes of failures have a stage, -/
theorem isSome_stage? (code : ErrorCode) : code.stage?.isSome = code.isError := by
  cases code <;> rfl

/-- and a success is not tried again. -/
theorem isError_of_isRetryable {code : ErrorCode} (retryable : code.isRetryable = true) :
    code.isError = true := by
  cases code <;> first | rfl | cases retryable

end ErrorCode

namespace ExtractionResult

/-- The file yielded rows, and nothing else is said of it. -/
structure IsSuccess (result : ExtractionResult) : Prop where
  /-- The file yielded rows, -/
  success : result.success = true
  /-- at least one. -/
  rows : result.rows ≠ []
  /-- Nothing is wrong, -/
  errorCode : result.errorCode = .none
  /-- at no stage, -/
  failingStage : result.failingStage = none
  /-- and there is nothing to say about it. -/
  errorMessage : result.errorMessage = none

/-- The file yielded no rows, and it is said why. -/
structure IsFailure (result : ExtractionResult) : Prop where
  /-- The file yielded no rows. -/
  success : result.success = false
  /-- It has none. -/
  rows : result.rows = []
  /-- Something is wrong, -/
  errorCode : result.errorCode ≠ .none
  /-- at the stage at which that goes wrong, -/
  failingStage : result.failingStage = result.errorCode.stage?
  /-- and it is said in words. -/
  errorMessage : ∃ message, result.errorMessage = some message

theorem isSuccess_succeeded (path : Path) {rows : List Row} (metrics : Metrics)
    (some : rows ≠ []) : (succeeded path rows metrics).IsSuccess :=
  ⟨rfl, some, rfl, rfl, rfl⟩

theorem isFailure_failed (path : Path) {code : ErrorCode} (message : String) (metrics : Metrics)
    (fails : code ≠ .none) : (failed path code message metrics).IsFailure :=
  ⟨rfl, rfl, fails, rfl, message, rfl⟩

/-- A failure names the stage at which it happened. -/
theorem IsFailure.isSome_failingStage {result : ExtractionResult} (failure : result.IsFailure) :
    result.failingStage.isSome = true := by
  rw [failure.failingStage, ErrorCode.isSome_stage?]
  exact bne_iff_ne.2 failure.errorCode

end ExtractionResult

namespace Pipeline

theorem checkFile_error {limit : Nat} {path : Path} {status : Except OsError FileStatus}
    {report : ValidationReport} (checked : checkFile limit path status = .error report) :
    report.code ≠ .none := by
  unfold checkFile at checked
  repeat' split at checked
  all_goals cases checked
  all_goals exact nofun

theorem checkDocument_rejected {sizeBytes : Nat} {answer : Except EngineError Document}
    {report : ValidationReport} (checked : checkDocument sizeBytes answer = (report, none)) :
    report.code ≠ .none := by
  unfold checkDocument at checked
  repeat' split at checked
  all_goals cases checked
  all_goals exact nofun

theorem checkDocument_passed {sizeBytes : Nat} {answer : Except EngineError Document}
    {report : ValidationReport} {document : Document}
    (checked : checkDocument sizeBytes answer = (report, some document)) :
    answer = .ok document := by
  unfold checkDocument at checked
  repeat' split at checked
  all_goals cases checked
  rfl

theorem extractDocument_error {layout : Layout} {path : Path} {document : Document}
    {code : ErrorCode} {message : String}
    (failed : extractDocument layout path document = .error (code, message)) : code ≠ .none := by
  unfold extractDocument at failed
  dsimp only at failed
  repeat' split at failed
  · cases failed
    exact nofun
  · next error _ =>
      cases failed
      cases error <;> exact nofun
  · cases failed
    exact nofun
  · cases failed

/-- The rows of a document are those of its pages, and there are some. -/
theorem extractDocument_ok {layout : Layout} {path : Path} {document : Document}
    {rows : List Row} (extracted : extractDocument layout path document = .ok rows) :
    rows = PageOutcomes.allRows (document.readablePages.map (extractPage layout path)) ∧
      rows ≠ [] := by
  unfold extractDocument at extracted
  dsimp only at extracted
  split at extracted
  · cases extracted
  · split at extracted
    · split at extracted <;> cases extracted
    · next some =>
        cases extracted
        exact ⟨rfl, fun none => some (List.isEmpty_iff.2 none)⟩

/-- A file that is not read is a failure. -/
theorem isFailure_precheck {pipeline : Pipeline} {path : Path}
    {status : Except OsError FileStatus} {result : ExtractionResult}
    (checked : pipeline.precheck path status = .error result) : result.IsFailure := by
  unfold precheck at checked
  split at checked
  · next refused =>
      cases checked
      exact ExtractionResult.isFailure_failed _ _ _ (checkFile_error refused)
  · split at checked
    · cases checked
    · dsimp only at checked
      split at checked
      · cases checked
        exact ExtractionResult.isFailure_failed _ _ _ nofun
      · cases checked

/-- A file that is read is a failure, or it is a document with rows. -/
theorem finish_cases (pipeline : Pipeline) (path : Path) (sizeBytes : Nat)
    (answer : Except EngineError Document) :
    (pipeline.finish path sizeBytes answer).IsFailure ∨
      (pipeline.finish path sizeBytes answer).IsSuccess ∧
        ∃ document, answer = .ok document ∧
          extractDocument pipeline.layout path document =
            .ok (pipeline.finish path sizeBytes answer).rows := by
  unfold finish
  split
  · next rejected =>
      exact Or.inl (ExtractionResult.isFailure_failed _ _ _ (checkDocument_rejected rejected))
  · next report document passed =>
      dsimp only
      split
      · next extracted =>
          have some := (extractDocument_ok extracted).2
          exact Or.inr ⟨ExtractionResult.isSuccess_succeeded _ _ some, document,
            checkDocument_passed passed, extracted⟩
      · next failed =>
          exact Or.inl (ExtractionResult.isFailure_failed _ _ _ (extractDocument_error failed))

/-- The result of a file is a failure, or the file is a document with rows. -/
theorem process_cases (pipeline : Pipeline) (path : Path) (status : Except OsError FileStatus)
    (answer : Except EngineError Document) :
    (pipeline.process path status answer).IsFailure ∨
      (pipeline.process path status answer).IsSuccess ∧
        ∃ document, answer = .ok document ∧
          extractDocument pipeline.layout path document =
            .ok (pipeline.process path status answer).rows := by
  unfold process
  split
  · next refused => exact Or.inl (isFailure_precheck refused)
  · exact finish_cases pipeline path _ answer

end Pipeline

end PartsList
