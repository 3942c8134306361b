import PartsList.Job.Worker
import PartsList.Proofs.Extraction.Tables

/-!
# Validation and work

A file can be validated on its own.  A worker goes through the same checks, with that of the memory
between those of the file and those of the document, and so it has to come to the same: a file whose
validation fails fails in the same way at work, unless it would need too much memory, and a file
that is valid may fail for other reasons only.  The engine is asked once, and not at all for a file
that is refused before.
-/

namespace PartsList

namespace ValidationReport

variable {report : ValidationReport} {maxSizeBytes sizeBytes : Nat}

/-- A check failed, one of those of the validation. -/
def Refuses (report : ValidationReport) : Prop :=
  ∃ code message sizeBytes pageCount, ErrorCode.stage? code = some .validation ∧
    report = .rejected code message sizeBytes pageCount

/-- What the parts of a report have to do with one another. -/
structure Coherent (maxSizeBytes : Nat) (report : ValidationReport) : Prop where
  /-- There is a code of a failure exactly if a check failed. -/
  code : report.code = .none ↔ report.ok = true
  /-- A file that passed has pages, -/
  pageCount : report.ok = true → 0 < report.pageCount
  /-- it is not empty, -/
  sizeBytes_pos : report.ok = true → 0 < report.sizeBytes
  /-- and it is not too large. -/
  sizeBytes_le : report.ok = true → report.sizeBytes ≤ maxSizeBytes

/-- A result tells of a file what a report tells. -/
structure Tells (report : ValidationReport) (result : ExtractionResult) : Prop where
  /-- The size is the same, -/
  sizeBytes : result.metrics.sizeBytes = report.sizeBytes
  /-- and so is the number of pages. -/
  pageCount : result.metrics.pageCount = report.pageCount
  /-- The work fails at the validation exactly if a check failed, -/
  failingStage : result.failingStage = some .validation ↔ report.ok = false
  /-- and then it fails -/
  success : report.ok = false → result.success = false
  /-- with the same code -/
  errorCode : report.ok = false → result.errorCode = report.code
  /-- and in the same words. -/
  errorMessage : report.ok = false → result.errorMessage = report.message

theorem Refuses.coherent (refuses : report.Refuses) : report.Coherent maxSizeBytes := by
  obtain ⟨code, message, sizeBytes, pageCount, stage, rfl⟩ := refuses
  have failure : code ≠ .none := by
    rintro rfl
    cases stage
  constructor <;> simp [rejected, failure]

theorem coherent_passed {pageCount : Nat} (some : 0 < pageCount) (positive : 0 < sizeBytes)
    (small : sizeBytes ≤ maxSizeBytes) : (passed sizeBytes pageCount).Coherent maxSizeBytes := by
  constructor <;> simp [passed, some, positive, small]

theorem Refuses.tells (refuses : report.Refuses) (path : Path) :
    report.Tells (Pipeline.rejection path report) := by
  obtain ⟨code, message, sizeBytes, pageCount, stage, rfl⟩ := refuses
  constructor <;> simp [rejected, Pipeline.rejection, ExtractionResult.failed, stage]

/-- A result that fails at a later stage, or not at all, tells that all checks passed. -/
theorem tells_passed {pageCount : Nat} {result : ExtractionResult}
    (metrics : result.metrics = { sizeBytes := sizeBytes, pageCount := pageCount })
    (later : result.failingStage ≠ some .validation) :
    (passed sizeBytes pageCount).Tells result := by
  constructor <;> simp [passed, metrics, later]

end ValidationReport

/-- The engine's answer for a path, however often it was asked before. -/
def Engine.Answers (engine : Engine) (path : Path) : Except EngineError Document → Prop
  | .ok document => ∀ time, (engine path time).outcome = .opened document
  | .error error => ∀ time, (engine path time).outcome = .failed error

namespace Pipeline

open ValidationReport

variable {pipeline : Pipeline} {path : Path} {status : Except OsError FileStatus}
  {answer : Except EngineError Document} {limit sizeBytes : Nat} {report : ValidationReport}

/-- The document would need more memory than it may. -/
def Exceeds (pipeline : Pipeline) (sizeBytes : Nat) : Prop :=
  ∃ budget, pipeline.memoryBudgetBytes = some budget ∧ budget < estimatedDocumentMemory sizeBytes

/-- The file passes its own checks, but its document would need more memory than it may. -/
def Overloads (pipeline : Pipeline) (path : Path) (status : Except OsError FileStatus) : Prop :=
  ∃ sizeBytes, checkFile pipeline.maxFileSizeBytes path status = .ok sizeBytes ∧
    pipeline.Exceeds sizeBytes

theorem refuses_of_checkFile (refused : checkFile limit path status = .error report) :
    report.Refuses := by
  unfold checkFile at refused
  repeat' split at refused
  all_goals cases refused
  all_goals exact ⟨_, _, _, _, rfl, rfl⟩

theorem bounds_of_checkFile (passes : checkFile limit path status = .ok sizeBytes) :
    0 < sizeBytes ∧ sizeBytes ≤ limit := by
  unfold checkFile at passes
  repeat' split at passes
  all_goals cases passes
  omega

/-- The checks of a document end with a refusal, or the document has pages and passes. -/
theorem checkDocument_cases (sizeBytes : Nat) (answer : Except EngineError Document) :
    (checkDocument sizeBytes answer).1.Refuses ∧ (checkDocument sizeBytes answer).2 = none ∨
      ∃ document, answer = .ok document ∧ 0 < document.pageCount ∧
        checkDocument sizeBytes answer = (.passed sizeBytes document.pageCount, some document) := by
  unfold checkDocument
  repeat' split
  · exact Or.inl ⟨⟨_, _, _, _, rfl, rfl⟩, rfl⟩
  · exact Or.inl ⟨⟨_, _, _, _, rfl, rfl⟩, rfl⟩
  · exact Or.inl ⟨⟨_, _, _, _, rfl, rfl⟩, rfl⟩
  · next rest first pages =>
      exact Or.inr ⟨_, rfl, by simp [Document.pageCount, pages], rfl⟩

theorem coherent_validate (limit : Nat) (path : Path) (status : Except OsError FileStatus)
    (answer : Except EngineError Document) :
    (validate limit path status answer).1.Coherent limit := by
  unfold validate
  cases checked : checkFile limit path status with
  | error report => exact (refuses_of_checkFile checked).coherent
  | ok sizeBytes =>
      obtain ⟨positive, small⟩ := bounds_of_checkFile checked
      rcases checkDocument_cases sizeBytes answer with ⟨refuses, -⟩ | ⟨document, -, some, passes⟩
      · exact refuses.coherent
      · dsimp only
        rw [passes]
        exact coherent_passed some positive small

/-- A document that yields no rows does not fail at the validation. -/
theorem stage_of_extractDocument {layout : Layout} {document : Document} {code : ErrorCode}
    {message : String} (failed : extractDocument layout path document = .error (code, message)) :
    code.stage? ≠ some .validation := by
  unfold extractDocument at failed
  dsimp only at failed
  repeat' split at failed
  · cases failed
    decide
  · next error _ =>
      cases failed
      cases error <;> simp [BoundaryError.code, ErrorCode.stage?]
  · cases failed
    decide
  · cases failed

/-- A file of the given size tells at work what the checks of its document tell. -/
theorem tells_finish (pipeline : Pipeline) (path : Path) (sizeBytes : Nat)
    (answer : Except EngineError Document) :
    (checkDocument sizeBytes answer).1.Tells (pipeline.finish path sizeBytes answer) := by
  rcases checkDocument_cases sizeBytes answer with ⟨refuses, none⟩ | ⟨document, -, -, passes⟩
  · have refusal : pipeline.finish path sizeBytes answer =
        rejection path (checkDocument sizeBytes answer).1 := by
      unfold finish
      split
      · next rejected => rw [rejected]
      · next passed =>
          rw [passed] at none
          cases none
    rw [refusal]
    exact refuses.tells path
  · simp only [finish, passes]
    cases extracted : extractDocument pipeline.layout path document with
    | ok rows => exact tells_passed rfl nofun
    | error failure => exact tells_passed rfl (stage_of_extractDocument extracted)

theorem precheck_of_overloads (overloads : pipeline.Overloads path status) :
    ∃ sizeBytes message, pipeline.precheck path status =
      .error (.failed path .memoryLimitExceeded message { sizeBytes := sizeBytes }) := by
  obtain ⟨sizeBytes, passes, budget, limited, exceeds⟩ := overloads
  refine ⟨sizeBytes, memoryMessage (estimatedDocumentMemory sizeBytes) budget, ?_⟩
  simp [precheck, passes, limited, exceeds]

theorem precheck_of_not_exceeds
    (passes : checkFile pipeline.maxFileSizeBytes path status = .ok sizeBytes)
    (within : ¬ pipeline.Exceeds sizeBytes) : pipeline.precheck path status = .ok sizeBytes := by
  cases limited : pipeline.memoryBudgetBytes with
  | none => simp [precheck, passes, limited]
  | some budget =>
      have within : ¬ budget < estimatedDocumentMemory sizeBytes :=
        fun exceeds => within ⟨budget, limited, exceeds⟩
      simp [precheck, passes, limited, within]

/-- A file tells at work what its validation tells, unless its document would need too much
memory. -/
theorem tells_process (answer : Except EngineError Document)
    (within : ¬ pipeline.Overloads path status) :
    (validate pipeline.maxFileSizeBytes path status answer).1.Tells
      (pipeline.process path status answer) := by
  cases checked : checkFile pipeline.maxFileSizeBytes path status with
  | error report =>
      simp only [validate, process, precheck, checked]
      exact (refuses_of_checkFile checked).tells path
  | ok sizeBytes =>
      have within : ¬ pipeline.Exceeds sizeBytes :=
        fun exceeds => within ⟨sizeBytes, checked, exceeds⟩
      simp only [validate, process, checked, precheck_of_not_exceeds checked within]
      exact tells_finish pipeline path sizeBytes answer

end Pipeline

/-! ## What a worker asks of the engine -/

/-- A worker comes to what is to be expected of the engine's answer, and asks for it at most
once. -/
theorem Worker.process_of_answers {rules : WorkerRules} {path : Path}
    {answer : Except EngineError Document} (answers : rules.engine.Answers path answer)
    (shared : Shared) :
    (process rules path shared).1 =
        some (rules.pipeline.process path (shared.disk.status path) answer) ∧
      (process rules path shared).2.loads =
        match rules.pipeline.precheck path (shared.disk.status path) with
        | .error _ => shared.loads
        | .ok _ => shared.loads.note path := by
  unfold process Pipeline.process
  cases rules.pipeline.precheck path (shared.disk.status path) with
  | error refusal => exact ⟨rfl, rfl⟩
  | ok sizeBytes =>
      dsimp only [load]
      cases answer with
      | ok document =>
          rw [answers]
          exact ⟨rfl, rfl⟩
      | error error =>
          rw [answers]
          exact ⟨rfl, rfl⟩

/-- Validation and work agree, whatever there is to be found under a path and however large it and
its document may be. -/
theorem work_agrees_with_validation (rules : WorkerRules) (path : Path)
    (answer : Except EngineError Document) (answers : rules.engine.Answers path answer) :
    (∀ status,
      (validate rules.pipeline.maxFileSizeBytes path status answer).1.Coherent
        rules.pipeline.maxFileSizeBytes ∧
      (rules.pipeline.Overloads path status →
        (rules.pipeline.process path status answer).success = false ∧
          (rules.pipeline.process path status answer).errorCode = .memoryLimitExceeded) ∧
      (¬ rules.pipeline.Overloads path status →
        (validate rules.pipeline.maxFileSizeBytes path status answer).1.Tells
          (rules.pipeline.process path status answer))) ∧
    ∀ shared,
      (Worker.process rules path shared).1 =
        some (rules.pipeline.process path (shared.disk.status path) answer) ∧
      ((Worker.process rules path shared).2.loads = shared.loads ∨
        (Worker.process rules path shared).2.loads = shared.loads.note path) ∧
      ((∃ report, checkFile rules.pipeline.maxFileSizeBytes path (shared.disk.status path) =
          .error report) ∨ rules.pipeline.Overloads path (shared.disk.status path) →
        (Worker.process rules path shared).2.loads = shared.loads) := by
  refine ⟨fun status => ⟨Pipeline.coherent_validate _ path status answer, fun overloads => ?_,
    Pipeline.tells_process answer⟩, fun shared => ?_⟩
  · obtain ⟨sizeBytes, message, refused⟩ := Pipeline.precheck_of_overloads overloads
    simp only [Pipeline.process, refused]
    exact ⟨rfl, rfl⟩
  · obtain ⟨result, loads⟩ := Worker.process_of_answers answers shared
    refine ⟨result, ?_, fun refused => ?_⟩
    · rw [loads]
      cases rules.pipeline.precheck path (shared.disk.status path) with
      | error => exact Or.inl rfl
      | ok => exact Or.inr rfl
    · have unread : ∃ refusal,
          rules.pipeline.precheck path (shared.disk.status path) = .error refusal := by
        rcases refused with ⟨report, refused⟩ | overloads
        · exact ⟨_, by simp only [Pipeline.precheck, refused]; rfl⟩
        · obtain ⟨_, _, refused⟩ := Pipeline.precheck_of_overloads overloads
          exact ⟨_, refused⟩
      obtain ⟨refusal, refused⟩ := unread
      rw [loads, refused]

/-- A document with two tables passes the validation, and the work on it yields their rows; an
encrypted one fails at the validation, in the words of the validation. -/
theorem work_agrees_with_validation_small :
    let pipeline : Pipeline := ⟨{}, 9, none⟩
    let accepting : Engine := fun _ _ => { outcome := .opened smallDocument }
    let refusing : Engine := fun _ _ => { outcome := .failed .encrypted }
    let accepted := pipeline.process ⟨"a"⟩ (.ok ⟨true, 1⟩) (.ok smallDocument)
    let refused := pipeline.process ⟨"a"⟩ (.ok ⟨true, 1⟩) (.error .encrypted)
    accepting.Answers ⟨"a"⟩ (.ok smallDocument) ∧ refusing.Answers ⟨"a"⟩ (.error .encrypted) ∧
      (validate 9 ⟨"a"⟩ (.ok ⟨true, 1⟩) (.ok smallDocument)).1 = .passed 1 3 ∧
      accepted.failingStage ≠ some .validation ∧ accepted.metrics.pageCount = 3 ∧
      accepted.rows = [smallTableRow 1, smallTableRow 2] ∧
      refused.failingStage = some .validation ∧
      refused.errorMessage = some "document is encrypted" := by
  intro pipeline accepting refusing accepted refused
  have opens : accepting.Answers ⟨"a"⟩ (.ok smallDocument) := fun _ => rfl
  have fails : refusing.Answers ⟨"a"⟩ (.error .encrypted) := fun _ => rfl
  have within : ¬ pipeline.Overloads ⟨"a"⟩ (.ok ⟨true, 1⟩) := by
    rintro ⟨_, -, _, limited, -⟩
    cases limited
  have tells : ((validate 9 ⟨"a"⟩ (.ok ⟨true, 1⟩) (.ok smallDocument)).1).Tells accepted :=
    ((work_agrees_with_validation ⟨pipeline, accepting, 1⟩ ⟨"a"⟩ _ opens).1 (.ok ⟨true, 1⟩)).2.2
      within
  have told : ((validate 9 ⟨"a"⟩ (.ok ⟨true, 1⟩) (.error .encrypted)).1).Tells refused :=
    ((work_agrees_with_validation ⟨pipeline, refusing, 1⟩ ⟨"a"⟩ _ fails).1 (.ok ⟨true, 1⟩)).2.2
      within
  have passes : (validate 9 ⟨"a"⟩ (.ok ⟨true, 1⟩) (.ok smallDocument)).1 = .passed 1 3 := rfl
  have rows : accepted.rows = [smallTableRow 1, smallTableRow 2] :=
    congrArg ExtractionResult.rows process_smallDocument
  rw [passes] at tells
  have valid : accepted.failingStage ≠ some .validation := by
    intro stage
    cases tells.failingStage.1 stage
  exact ⟨opens, fails, passes, valid, tells.pageCount, rows, told.failingStage.2 rfl,
    told.errorMessage rfl⟩

end PartsList
