import PartsList.Proofs.Extraction.Tables
import PartsList.Proofs.Job.Conservation
import PartsList.Proofs.Job.Results
import PartsList.Proofs.Store.LastDelivery

/-!
# Row counts

Results that the work on files yields, and those that workers and the manager put in their place,
bring as many rows as they say.  In a store that was filled with nothing else, the summary of a file
says how many rows of it are stored, rows are stored of files that succeeded alone, and a file
succeeded if it has the code of success.
-/

namespace PartsList

namespace ExtractionResult

/-- Results that the work on files yields, and those that stand in for them. -/
inductive Produced : ExtractionResult → Prop
  /-- The result of a file, whose document gives its pages different numbers. -/
  | processed (pipeline : Pipeline) (path : Path) (status : Except OsError FileStatus)
      (answer : Except EngineError Document)
      (apart : ∀ document, answer = .ok document →
        (document.readablePages.map (·.number)).Nodup) :
      Produced (pipeline.process path status answer)
  /-- The engine broke down on the file. -/
  | brokeDown (path : Path) (reason : String) : Produced (Worker.breakdown path reason)
  /-- The worker took too long for the file. -/
  | overran (path : Path) (elapsed timeout : Nat) (metrics : Metrics) :
      Produced (Worker.overrun path elapsed timeout metrics)
  /-- The manager gave up on the file. -/
  | givenUp (manager : Manager) (entry : InFlight) (now : Instant) :
      Produced (manager.timeoutResult entry now)
  /-- The worker left in the middle of the file. -/
  | orphaned (path : Path) : Produced (Manager.orphanResult path)
  /-- The same with the number of an attempt. -/
  | attempted {result : ExtractionResult} (produced : Produced result) (attempt : Nat) :
      Produced (result.withAttempt attempt)
  /-- The same with the figures of a worker. -/
  | stamped {result : ExtractionResult} (produced : Produced result) (attempt elapsed : Nat)
      (memoryMb : Option Float) : Produced (Worker.stamp result attempt elapsed memoryMb)

/-- The rows that the result leaves in the store are those that it counts. -/
structure IsCounted (result : ExtractionResult) : Prop where
  /-- The rows are about the file of the result. -/
  owns : result.OwnsRows
  /-- No two rows have the same place. -/
  apart : result.rows.Pairwise fun row other => row.samePlace other = false
  /-- A failure has no rows. -/
  failed : result.success = false → result.rows = []
  /-- The code is that of success if the file succeeded. -/
  honest : result.Honest

theorem IsFailure.isCounted {result : ExtractionResult} (failure : result.IsFailure) :
    result.IsCounted where
  owns := by
    rw [OwnsRows, failure.rows]
    exact List.forall_mem_nil _
  apart := by
    rw [failure.rows]
    exact List.Pairwise.nil
  failed _ := failure.rows
  honest := failure.honest

theorem isCounted_process (pipeline : Pipeline) (path : Path)
    (status : Except OsError FileStatus) (answer : Except EngineError Document)
    (apart : ∀ document, answer = .ok document →
      (document.readablePages.map (·.number)).Nodup) :
    (pipeline.process path status answer).IsCounted := by
  rcases pipeline.process_cases path status answer with failure | ⟨success, document, opened, rows⟩
  · exact failure.isCounted
  · obtain ⟨tables, yields, joined⟩ := Pipeline.exists_tables_of_extractDocument rows
    refine ⟨(pipeline.about_process path status answer).2, ?_, fun failed => ?_, success.honest⟩
    · rw [joined]
      exact Pipeline.pairwise_of_yields yields (apart document opened)
    · exact absurd (success.success.symm.trans failed) (by decide)

theorem Produced.isCounted {result : ExtractionResult} (produced : result.Produced) :
    result.IsCounted := by
  induction produced with
  | processed pipeline path status answer apart =>
      exact isCounted_process pipeline path status answer apart
  | brokeDown path _ => exact (@isFailure_failed path .workerError _ _ nofun).isCounted
  | overran path _ _ _ => exact (@isFailure_failed path .timeout _ _ nofun).isCounted
  | givenUp _ entry _ => exact (@isFailure_failed entry.task.path .timeout _ _ nofun).isCounted
  | orphaned path => exact (@isFailure_failed path .workerError _ _ nofun).isCounted
  | attempted _ _ counted => exact ⟨counted.owns, counted.apart, counted.failed, counted.honest⟩
  | stamped _ _ _ _ counted => exact ⟨counted.owns, counted.apart, counted.failed, counted.honest⟩

end ExtractionResult

/-- Rows in different places do not replace each other. -/
theorem Row.latest_of_pairwise {rows : List Row}
    (apart : rows.Pairwise fun row other => row.samePlace other = false) : latest rows = rows := by
  induction rows with
  | nil => rfl
  | cons row rows induction =>
      obtain ⟨first, rest⟩ := List.pairwise_cons.1 apart
      have fresh : ¬rows.any row.samePlace = true := by simpa using first
      rw [latest, if_neg fresh, induction rest]

namespace Database

open ExtractionResult

/-- As many rows are counted as are read, -/
theorem countRows_eq {database : Database} {rows : List Row} (read : database.loadRows = .ok rows) :
    database.countRows = .ok rows.length := by
  obtain ⟨table, found, reads⟩ := loadRows_eq_ok.1 read
  have lengths := congrArg List.length reads
  rw [List.length_map, List.length_map, List.length_mergeSort] at lengths
  rw [← lengths, countRows, rowTable, found]
  rfl

/-- and the same for each file. -/
theorem countRowsOf_eq {database : Database} {rows : List Row} (read : database.loadRows = .ok rows)
    (path : Path) :
    database.countRowsOf path =
      .ok (rows.filter (·.filePath.spelling == path.spelling)).length := by
  obtain ⟨table, found, reads⟩ := loadRows_eq_ok.1 read
  have lengths := congrArg List.length (map_filter_rows reads path.spelling)
  rw [List.length_map, List.length_map, List.length_mergeSort] at lengths
  rw [← lengths, countRowsOf, rowTable, found]
  rfl

/-- What is read from a database says of each file how many rows of it are there. -/
structure CountsRows (database : Database) (rows : List Row) (summaries : List FileSummary) :
    Prop where
  /-- The summary of a file says how many rows of the file are stored. -/
  counted : ∀ summary ∈ summaries, database.countRowsOf summary.filePath = .ok summary.rowCount ∧
    (rows.filter (·.filePath.spelling == summary.filePath.spelling)).length = summary.rowCount
  /-- None are stored of a file that failed. -/
  failed : ∀ summary ∈ summaries, summary.success = false → summary.rowCount = 0
  /-- Rows are stored only of files whose summary says that they succeeded. -/
  summarized : ∀ row ∈ rows, ∃ summary ∈ summaries,
    summary.filePath = row.filePath ∧ summary.success = true
  /-- A file succeeded exactly if it has the code of success. -/
  coded : ∀ summary ∈ summaries, summary.success = true ↔ summary.errorCode = .none

theorem AnswersLast.countsRows {after before : Database} {results : List ExtractionResult}
    {rows : List Row} {summaries : List FileSummary} (answers : after.AnswersLast before {} results)
    (nothing : before.loadRows = .ok [] ∧ before.loadSummaries = .ok [])
    (fair : ∀ result ∈ results, result.IsCounted) (rowsRead : after.loadRows = .ok rows)
    (summariesRead : after.loadSummaries = .ok summaries) : after.CountsRows rows summaries := by
  -- A summary is that of the last result of its file, and the rows of the file are that result's.
  have told (summary : FileSummary) (mem : summary ∈ summaries) : ∃ last ∈ results,
      summary.Tells last ∧
        (rows.filter (·.filePath.spelling == summary.filePath.spelling)).Perm last.rows := by
    have inside : summary ∈ summaries.filter
        (·.filePath.spelling == summary.filePath.spelling) :=
      List.mem_filter.2 ⟨mem, beq_self_eq_true _⟩
    cases found : last? summary.filePath.spelling results with
    | none =>
        rw [answers.otherSummaries summariesRead nothing.2 found] at inside
        cases inside
    | some last =>
        obtain ⟨only, same, tells⟩ := answers.summaries summariesRead found
        rw [same, List.mem_singleton] at inside
        have own := answers.rows rowsRead found
        have counted := fair last (last?_eq_some found).1
        refine ⟨last, (last?_eq_some found).1, inside ▸ tells, own.trans ?_⟩
        cases success : last.success with
        | true => rw [if_pos rfl, Row.latest_of_pairwise counted.apart]
        | false => rw [if_neg (by decide), counted.failed success]
  refine ⟨fun summary mem => ?_, fun summary mem failed => ?_, fun row mem => ?_,
    fun summary mem => ?_⟩
  · obtain ⟨last, -, tells, own⟩ := told summary mem
    have count := own.length_eq.trans tells.rowCount.symm
    exact ⟨(countRowsOf_eq rowsRead _).trans (congrArg _ count), count⟩
  · obtain ⟨last, there, tells, -⟩ := told summary mem
    rw [tells.rowCount, rowCount, (fair last there).failed (tells.success ▸ failed)]
    rfl
  · have inside : row ∈ rows.filter (·.filePath.spelling == row.filePath.spelling) :=
      List.mem_filter.2 ⟨mem, beq_self_eq_true _⟩
    cases found : last? row.filePath.spelling results with
    | none =>
        rw [answers.otherRows rowsRead nothing.1 found] at inside
        cases inside
    | some last =>
        obtain ⟨summary, same, tells⟩ := answers.summaries summariesRead found
        have there : summary ∈ summaries :=
          (List.mem_filter.1 (same ▸ List.mem_singleton_self summary)).1
        have path : summary.filePath = row.filePath := by
          rw [tells.filePath]
          exact congrArg Path.mk (last?_eq_some found).2
        refine ⟨summary, there, path, ?_⟩
        cases success : summary.success with
        | true => rfl
        | false =>
            have own := (answers.rows rowsRead found).mem_iff.1 inside
            rw [if_neg (by rw [← tells.success, success]; decide)] at own
            cases own
  · obtain ⟨last, there, tells, -⟩ := told summary mem
    rw [tells.success, tells.errorCode]
    exact (fair last there).honest

/-- After any batches of results of files and of such as stand in for them, which an empty database
takes or refuses, the summaries tell how many rows are stored. -/
theorem row_counts_told {database : Database} (empty : database.store? = some {})
    {batches : List (List ExtractionResult)}
    (produced : ∀ result ∈ batches.flatten, result.Produced) :
    ∃ rows summaries, (database.deliver batches).loadRows = .ok rows ∧
      (database.deliver batches).loadSummaries = .ok summaries ∧
      (database.deliver batches).CountsRows rows summaries := by
  have fair : ∀ result ∈ database.delivered batches, result.IsCounted :=
    fun result mem => (produced result (mem_of_mem_delivered mem)).isCounted
  have answers := answersLast empty (store?_deliver empty batches) fun result mem =>
    (fair result mem).owns
  obtain ⟨rows, rowsRead⟩ := answers.rowsLoad nofun
  obtain ⟨summaries, summariesRead⟩ := answers.summariesLoad nofun
  have nothing : database.loadRows = .ok [] ∧ database.loadSummaries = .ok [] := by
    obtain ⟨noRows, noSummaries⟩ := store?_eq_some.1 empty
    refine ⟨loadRows_eq_ok.2 ⟨[], noRows, ?_⟩, loadSummaries_eq_ok.2 ⟨[], noSummaries, ?_⟩⟩
    · rw [List.mergeSort_nil]
      rfl
    · rw [List.mergeSort_nil]
      rfl
  exact ⟨rows, summaries, rowsRead, summariesRead,
    answers.countsRows nothing fair rowsRead summariesRead⟩

/-- A worker leaves in the middle of the file `a`, and another attempt at it succeeds. -/
def smallAttempts : List (List ExtractionResult) :=
  [[(Manager.orphanResult ⟨"a"⟩).withAttempt 1, Worker.breakdown ⟨"b"⟩ "boom"],
    [(Pipeline.process ⟨{}, 9, none⟩ ⟨"a"⟩ (.ok ⟨true, 1⟩) (.ok smallDocument)).withAttempt 2]]

theorem row_counts_told_small :
    (∀ result ∈ smallAttempts.flatten, result.Produced) ∧
    ∃ summaries, (fresh.deliver smallAttempts).loadSummaries = .ok summaries ∧
      ∃ summary ∈ summaries, summary.filePath = ⟨"a"⟩ ∧ summary.rowCount = 2 := by
  have produced : ∀ result ∈ smallAttempts.flatten, result.Produced := by
    have apart : ∀ document, Except.ok smallDocument = (Except.ok document : Except EngineError _) →
        (document.readablePages.map (·.number)).Nodup := by
      rintro _ ⟨⟩
      decide
    intro result mem
    simp only [smallAttempts, List.flatten_cons, List.flatten_nil, List.append_nil,
      List.cons_append, List.nil_append, List.mem_cons, List.not_mem_nil, or_false] at mem
    rcases mem with rfl | rfl | rfl
    · exact .attempted (.orphaned _) 1
    · exact .brokeDown _ _
    · exact .attempted (.processed _ _ _ _ apart) 2
  obtain ⟨rows, summaries, rowsRead, summariesRead, counts⟩ := @row_counts_told fresh rfl _ produced
  have two : (fresh.deliver smallAttempts).countRowsOf ⟨"a"⟩ = .ok 2 := by
    rw [smallAttempts, process_smallDocument]
    decide +kernel
  refine ⟨produced, summaries, summariesRead, ?_⟩
  have length := two.symm.trans (countRowsOf_eq rowsRead ⟨"a"⟩)
  obtain ⟨row, mem⟩ := List.exists_mem_of_length_pos
    (Nat.lt_of_lt_of_eq Nat.two_pos (Except.ok.inj length))
  obtain ⟨row, about⟩ := List.mem_filter.1 mem
  obtain ⟨summary, there, same, -⟩ := counts.summarized _ row
  have path : summary.filePath = ⟨"a"⟩ := same.trans (congrArg Path.mk (beq_iff_eq.1 about))
  have counted := (counts.counted summary there).1
  rw [path, two] at counted
  exact ⟨summary, there, path, (Except.ok.inj counted).symm⟩

end Database

end PartsList
