import PartsList.Proofs.Number.Comparison
import PartsList.Proofs.Store.Delivery
import PartsList.Proofs.Store.Loading

/-!
# The last delivery of a file

After any batches of results, what the database answers about a file that was delivered is what its
last result says, and what it answers about any other file is what it answered before.  So a batch
may be delivered twice, results of different files may come in any order, and batches may be cut in
any way.
-/

namespace PartsList

/-! ## Figures -/

namespace StoredSummary

/-- A figure is kept as the same number, and one that is no number is not kept. -/
def Keeps (kept figure : Option Float) : Prop :=
  match figure with
  | none => kept = none
  | some x => if x.isNaN then kept = none else ∃ y, kept = some y ∧ y == x

theorem beq_self_of_not_isNaN {x : Float} (number : x.isNaN = false) : x == x := by
  change (x.toModel.unpack.compare x.toModel.unpack == some .eq) = true
  have solid : x.toModel.unpack.isNaN = false := number
  rw [beq_iff_eq]
  refine Coordinate.compare_self fun none => ?_
  rw [none] at solid
  cases solid

theorem zero_beq {x : Float} (zero : x == 0) : (0 : Float) == x := by
  have unpacked : (0 : Float).toModel.unpack = .zero .positive := rfl
  change (x.toModel.unpack.compare (0 : Float).toModel.unpack == some .eq) = true at zero
  change ((0 : Float).toModel.unpack.compare x.toModel.unpack == some .eq) = true
  rw [unpacked] at zero ⊢
  generalize x.toModel.unpack = other at zero ⊢
  cases other with
  | notANumber => cases zero
  | infinity sign => cases sign <;> cases zero
  | zero sign => rfl
  | finite sign => cases sign <;> cases zero

theorem keeps_keptFigure (figure : Option Float) : Keeps (keptFigure figure) figure := by
  cases figure with
  | none => rfl
  | some x =>
      unfold Keeps keptFigure
      dsimp only
      cases number : x.isNaN with
      | true =>
          rw [if_pos rfl]
          simp only [Option.filter, number, Bool.not_true, Bool.false_eq_true, if_false,
            Option.map_none]
      | false =>
          rw [if_neg (by decide)]
          simp only [Option.filter, number, Bool.not_false, if_true, Option.map_some]
          refine ⟨_, rfl, ?_⟩
          split
          · next zero => exact zero_beq zero
          · exact beq_self_of_not_isNaN number

end StoredSummary

namespace FileSummary

/-- The summary has the fields of a result. -/
structure Tells (summary : FileSummary) (result : ExtractionResult) : Prop where
  /-- The file. -/
  filePath : summary.filePath = result.filePath
  /-- Its name. -/
  fileName : summary.fileName = result.fileName
  /-- Whether it yielded rows. -/
  success : summary.success = result.success
  /-- The stage that failed. -/
  failingStage : summary.failingStage = result.failingStage
  /-- The code. -/
  errorCode : summary.errorCode = result.errorCode
  /-- The failure in words. -/
  errorMessage : summary.errorMessage = result.errorMessage
  /-- The time spent. -/
  durationMs : summary.durationMs = result.metrics.durationMs
  /-- The number of rows. -/
  rowCount : summary.rowCount = result.rowCount
  /-- The number of pages. -/
  pageCount : summary.pageCount = result.metrics.pageCount
  /-- The size. -/
  sizeBytes : summary.sizeBytes = result.metrics.sizeBytes
  /-- The memory in use. -/
  memoryPeakMb : StoredSummary.Keeps summary.memoryPeakMb result.metrics.memoryPeakMb
  /-- The attempt. -/
  attempt : summary.attempt = result.attempt

end FileSummary

namespace Row

/-- The row does not come after the other one: order by the bytes of the path, then by page and
position. -/
def notAfter (row other : Row) : Prop :=
  Disk.bytesOf row.filePath.spelling < Disk.bytesOf other.filePath.spelling ∨
    row.filePath = other.filePath ∧
      (row.page < other.page ∨ row.page = other.page ∧ row.rowIndex ≤ other.rowIndex)

/-- The page and the position are the same as signed numbers. -/
def isSmall (row : Row) : Prop :=
  row.page < Nat.pow 2 63 ∧ row.rowIndex < Nat.pow 2 63

end Row

namespace Database

open ExtractionResult

/-- The database after batches of results. -/
def deliver (database : Database) (batches : List (List ExtractionResult)) : Database :=
  batches.foldl (fun database batch => (database.upsert batch).2) database

/-- The results of the batches that the database takes. -/
def delivered (database : Database) : List (List ExtractionResult) → List ExtractionResult
  | [] => []
  | batch :: batches =>
    match database.upsert batch with
    | (.ok _, after) => batch ++ after.delivered batches
    | (.error _, after) => after.delivered batches

/-- The database has no reason of its own to refuse a transaction. -/
def Willing (database : Database) : Prop :=
  true ∉ database.refusals

/-- Both databases give the same answers. -/
def SameAnswers (database other : Database) : Prop :=
  database.loadRows = other.loadRows ∧ database.loadSummaries = other.loadSummaries

variable {database : Database} {store : Store}

theorem store?_eq_some : database.store? = some store ↔
    database.rows = some store.rows ∧ database.summaries = some store.summaries := by
  unfold store?
  cases store with
  | mk rows summaries =>
      constructor
      · intro same
        split at same
        · cases same
          exact ⟨‹_›, ‹_›⟩
        · cases same
      · rintro ⟨first, second⟩
        simp [first, second]

/-- A transaction delivers all its results or none. -/
theorem store?_upsert (tables : database.store? = some store) (batch : List ExtractionResult) :
    ((∃ counts, (database.upsert batch).1 = .ok counts) ∧
        (database.upsert batch).2.store? = some (store.deliverAll batch)) ∨
      ((∃ error, (database.upsert batch).1 = .error error) ∧
        (database.upsert batch).2.store? = some store) := by
  unfold upsert
  dsimp only
  split
  · exact Or.inr ⟨⟨_, rfl⟩, tables⟩
  · split
    · next empty =>
        rw [List.isEmpty_iff.1 empty]
        exact Or.inl ⟨⟨_, rfl⟩, tables⟩
    · rw [tables]
      exact Or.inl ⟨⟨_, rfl⟩, rfl⟩

/-- The tables after batches are those after the results that were delivered. -/
theorem store?_deliver (tables : database.store? = some store)
    (batches : List (List ExtractionResult)) :
    (database.deliver batches).store? = some (store.deliverAll (database.delivered batches)) := by
  induction batches generalizing database store with
  | nil => exact tables
  | cons batch batches induction =>
      have upserted := store?_upsert tables batch
      rw [deliver, List.foldl_cons, delivered]
      cases outcome : database.upsert batch with
      | mk answer after =>
          rw [outcome] at upserted
          rcases upserted with ⟨⟨counts, rfl⟩, next⟩ | ⟨⟨error, rfl⟩, next⟩
          · refine (induction next).trans ?_
            rw [Store.deliverAll, Store.deliverAll, Store.deliverAll, List.foldl_append]
          · exact induction next

theorem Willing.upsert (willing : database.Willing) (batch : List ExtractionResult) :
    (database.upsert batch).2.Willing := by
  have tail : true ∉ database.refusals.tail := fun mem => willing (List.mem_of_mem_tail mem)
  unfold Database.upsert
  dsimp only
  repeat' split
  all_goals exact tail

/-- A database with its tables that has no reason to refuse takes a batch. -/
theorem upsert_of_willing (tables : database.store? = some store) (willing : database.Willing)
    (batch : List ExtractionResult) : ∃ counts, (database.upsert batch).1 = .ok counts := by
  have first : ¬database.refusals.head? = some true :=
    fun first => willing (List.mem_of_mem_head? first)
  unfold upsert
  dsimp only
  rw [if_neg first]
  split
  · exact ⟨_, rfl⟩
  · rw [tables]
    exact ⟨_, rfl⟩

theorem delivered_of_willing (tables : database.store? = some store) (willing : database.Willing)
    (batches : List (List ExtractionResult)) : database.delivered batches = batches.flatten := by
  induction batches generalizing database store with
  | nil => rfl
  | cons batch batches induction =>
      have upserted := store?_upsert tables batch
      have still := willing.upsert batch
      obtain ⟨counts, taken⟩ := upsert_of_willing tables willing batch
      rw [delivered, List.flatten_cons]
      cases outcome : database.upsert batch with
      | mk answer after =>
          rw [outcome] at upserted still taken
          obtain rfl : answer = .ok counts := taken
          rcases upserted with ⟨-, next⟩ | ⟨⟨error, same⟩, -⟩
          · exact congrArg (batch ++ ·) (induction next still)
          · cases same

theorem mem_of_mem_delivered {batches : List (List ExtractionResult)} {result : ExtractionResult}
    (mem : result ∈ database.delivered batches) : result ∈ batches.flatten := by
  induction batches generalizing database with
  | nil => exact mem
  | cons batch batches induction =>
      rw [List.flatten_cons]
      rw [delivered] at mem
      split at mem
      · rcases List.mem_append.1 mem with mem | mem
        · exact List.mem_append_left _ mem
        · exact List.mem_append_right _ (induction mem)
      · exact List.mem_append_right _ (induction mem)

theorem readSummary_ofResult (result : ExtractionResult) :
    ∃ summary, readSummary (StoredSummary.ofResult result) = .ok summary ∧
      summary.Tells result := by
  have stage : (result.failingStage.map Stage.name).mapM readStage = .ok result.failingStage := by
    cases result.failingStage with
    | none => rfl
    | some stage =>
        rw [Option.map_some, Option.mapM_some, readStage, Stage.ofName?_name]
        rfl
  have code : readCode result.errorCode.name = .ok result.errorCode := by
    rw [readCode, ErrorCode.ofName?_name]
  let summary : FileSummary := {
    filePath := result.filePath
    fileName := result.fileName
    success := result.success
    failingStage := result.failingStage
    errorCode := result.errorCode
    errorMessage := result.errorMessage
    durationMs := result.metrics.durationMs
    rowCount := result.rowCount
    pageCount := result.metrics.pageCount
    sizeBytes := result.metrics.sizeBytes
    memoryPeakMb := StoredSummary.keptFigure result.metrics.memoryPeakMb
    attempt := result.attempt }
  have read : readSummary (StoredSummary.ofResult result) = .ok summary := by
    unfold readSummary StoredSummary.ofResult
    simp only [stage, code]
    rfl
  exact ⟨summary, read, rfl, rfl, rfl, rfl, rfl, rfl, rfl, rfl, rfl, rfl,
    StoredSummary.keeps_keptFigure result.metrics.memoryPeakMb, rfl⟩

/-- What the database answers after results were delivered to a store. -/
structure AnswersLast (after before : Database) (store : Store)
    (results : List ExtractionResult) : Prop where
  /-- The rows can be read if those of files without a delivery can. -/
  rowsLoad :
    (∀ row ∈ store.rows, last? row.filePath results = none → ∃ read, readRow row = .ok read) →
      ∃ rows, after.loadRows = .ok rows
  /-- The rows of a file are those of its last result. -/
  rows :
    ∀ {rows path last}, after.loadRows = .ok rows → last? path results = some last →
      (rows.filter (·.filePath.spelling == path)).Perm
        (if last.success then Row.latest last.rows else [])
  /-- The rows of other files are stored as they were, -/
  rowsStored :
    ∀ {path}, last? path results = none →
      after.rows.map (·.filter (·.filePath == path)) =
        some (store.rows.filter (·.filePath == path))
  /-- and read as they were. -/
  otherRows :
    ∀ {rows old path}, after.loadRows = .ok rows → before.loadRows = .ok old →
      last? path results = none →
        rows.filter (·.filePath.spelling == path) = old.filter (·.filePath.spelling == path)
  /-- The rows are sorted. -/
  ordered :
    ∀ {rows}, after.loadRows = .ok rows → (∀ row ∈ rows, row.isSmall) → rows.Pairwise Row.notAfter
  /-- The summaries can be read if those of files without a delivery can. -/
  summariesLoad :
    (∀ summary ∈ store.summaries, last? summary.filePath results = none →
        ∃ read, readSummary summary = .ok read) →
      ∃ summaries, after.loadSummaries = .ok summaries
  /-- The one summary of a file is that of its last result. -/
  summaries :
    ∀ {summaries path last}, after.loadSummaries = .ok summaries → last? path results = some last →
      ∃ summary, summaries.filter (·.filePath.spelling == path) = [summary] ∧ summary.Tells last
  /-- The summaries of other files are stored as they were, -/
  summariesStored :
    ∀ {path}, last? path results = none →
      after.summaries.map (·.filter (·.filePath == path)) =
        some (store.summaries.filter (·.filePath == path))
  /-- and read as they were. -/
  otherSummaries :
    ∀ {summaries old path}, after.loadSummaries = .ok summaries → before.loadSummaries = .ok old →
      last? path results = none →
        summaries.filter (·.filePath.spelling == path) =
          old.filter (·.filePath.spelling == path)

section Answers

variable {after : Database} {results : List ExtractionResult}

theorem exists_loadRows (tables : after.store? = some (store.deliverAll results))
    (owns : ∀ result ∈ results, result.OwnsRows)
    (readable : ∀ row ∈ store.rows, last? row.filePath results = none →
      ∃ read, readRow row = .ok read) : ∃ rows, after.loadRows = .ok rows := by
  have table := (store?_eq_some.1 tables).1
  have reads : ∀ row ∈ (store.deliverAll results).rows.mergeSort StoredRow.ranked,
      ∃ read, readRow row = .ok read := by
    intro row mem
    have inside : row ∈ (store.deliverAll results).rows.filter (·.filePath == row.filePath) :=
      List.mem_filter.2 ⟨List.mem_mergeSort.1 mem, beq_self_eq_true _⟩
    rw [Store.filter_rows_deliverAll store results owns] at inside
    cases found : last? row.filePath results with
    | none =>
        rw [found] at inside
        exact readable row (List.mem_filter.1 inside).1 found
    | some last =>
        rw [found] at inside
        dsimp only at inside
        split at inside
        · obtain ⟨own, -, rfl⟩ := List.mem_map.1 inside
          exact ⟨own, readRow_ofRow own⟩
        · cases inside
  obtain ⟨rows, read⟩ := exists_mapM_eq_ok reads
  exact ⟨rows, loadRows_eq_ok.2 ⟨_, table, mapM_eq_ok.1 read⟩⟩

theorem exists_loadSummaries (tables : after.store? = some (store.deliverAll results))
    (readable : ∀ summary ∈ store.summaries, last? summary.filePath results = none →
      ∃ read, readSummary summary = .ok read) :
    ∃ summaries, after.loadSummaries = .ok summaries := by
  have table := (store?_eq_some.1 tables).2
  have reads : ∀ summary ∈ (store.deliverAll results).summaries.mergeSort StoredSummary.ranked,
      ∃ read, readSummary summary = .ok read := by
    intro summary mem
    have inside : summary ∈
        (store.deliverAll results).summaries.filter (·.filePath == summary.filePath) :=
      List.mem_filter.2 ⟨List.mem_mergeSort.1 mem, beq_self_eq_true _⟩
    rw [Store.filter_summaries_deliverAll] at inside
    cases found : last? summary.filePath results with
    | none =>
        rw [found] at inside
        exact readable summary (List.mem_filter.1 inside).1 found
    | some last =>
        rw [found] at inside
        rw [List.mem_singleton.1 inside]
        obtain ⟨read, same, -⟩ := readSummary_ofResult last
        exact ⟨read, same⟩
  obtain ⟨summaries, read⟩ := exists_mapM_eq_ok reads
  exact ⟨summaries, loadSummaries_eq_ok.2 ⟨_, table, mapM_eq_ok.1 read⟩⟩

/-- The stored rows of one file, sorted, are those that are read. -/
theorem map_filter_of_loadRows {rows : List Row} (tables : after.store? = some store)
    (read : after.loadRows = .ok rows) (path : String) :
    ((store.rows.filter (·.filePath == path)).mergeSort StoredRow.ranked).map readRow =
      (rows.filter (·.filePath.spelling == path)).map .ok := by
  obtain ⟨table, found, reads⟩ := loadRows_eq_ok.1 read
  rw [(store?_eq_some.1 tables).1] at found
  cases found
  exact map_filter_rows reads path

theorem map_filter_of_loadSummaries {summaries : List FileSummary}
    (tables : after.store? = some store) (read : after.loadSummaries = .ok summaries)
    (path : String) :
    ((store.summaries.filter (·.filePath == path)).mergeSort StoredSummary.ranked).map
        readSummary =
      (summaries.filter (·.filePath.spelling == path)).map .ok := by
  obtain ⟨table, found, reads⟩ := loadSummaries_eq_ok.1 read
  rw [(store?_eq_some.1 tables).2] at found
  cases found
  exact map_filter_summaries reads path

theorem rows_of_last (tables : after.store? = some (store.deliverAll results))
    (owns : ∀ result ∈ results, result.OwnsRows) {rows : List Row} {path : String}
    {last : ExtractionResult} (read : after.loadRows = .ok rows)
    (found : last? path results = some last) :
    (rows.filter (·.filePath.spelling == path)).Perm
      (if last.success then Row.latest last.rows else []) := by
  have part := map_filter_of_loadRows tables read path
  rw [Store.filter_rows_deliverAll store results owns, found] at part
  dsimp only at part
  cases success : last.success with
  | true =>
      rw [success, if_pos rfl] at part
      have sorted := (List.mergeSort_perm ((Row.latest last.rows).map StoredRow.ofRow)
        StoredRow.ranked).map readRow
      have unread : ((Row.latest last.rows).map StoredRow.ofRow).map readRow =
          (Row.latest last.rows).map .ok := by
        rw [List.map_map]
        exact List.map_congr_left fun row _ => readRow_ofRow row
      rw [part, unread] at sorted
      exact (List.map_perm_map_iff fun _ _ same => Except.ok.inj same).1 sorted
  | false =>
      rw [success, if_neg (by decide), List.mergeSort_nil] at part
      rw [List.map_eq_nil_iff.1 part.symm]
      exact List.Perm.refl _

theorem summaries_of_last (tables : after.store? = some (store.deliverAll results))
    {summaries : List FileSummary} {path : String} {last : ExtractionResult}
    (read : after.loadSummaries = .ok summaries) (found : last? path results = some last) :
    ∃ summary, summaries.filter (·.filePath.spelling == path) = [summary] ∧
      summary.Tells last := by
  have part := map_filter_of_loadSummaries tables read path
  rw [Store.filter_summaries_deliverAll, found] at part
  obtain ⟨summary, same, tells⟩ := readSummary_ofResult last
  rw [List.mergeSort_singleton, List.map_singleton, same] at part
  refine ⟨summary, ?_, tells⟩
  exact List.map_injective_iff.2 (fun _ _ same => Except.ok.inj same) part.symm

theorem signed_of_lt {n : Nat} (small : n < Nat.pow 2 63) : Word.signed n = n :=
  if_pos small

theorem pairwise_loadRows {rows : List Row} (read : after.loadRows = .ok rows)
    (small : ∀ row ∈ rows, row.isSmall) : rows.Pairwise Row.notAfter := by
  obtain ⟨table, -, reads⟩ := loadRows_eq_ok.1 read
  have sorted := List.pairwise_mergeSort StoredRow.ranked_trans StoredRow.ranked_total table
  have ranked := pairwise_of_map_eq
    (fun row other => (StoredRow.ofRow row).ranked (StoredRow.ofRow other)) ?_ reads sorted
  · refine ranked.imp_of_mem fun {row other} mem mem' less => ?_
    obtain ⟨page, rowIndex⟩ := small row mem
    obtain ⟨page', rowIndex'⟩ := small other mem'
    rcases StoredRow.ranked_iff.1 less with less | ⟨same, less⟩
    · exact Or.inl (Disk.bytesOf_lt less)
    · simp only [StoredRow.ofRow, signed_of_lt page, signed_of_lt page', signed_of_lt rowIndex,
        signed_of_lt rowIndex'] at less
      have path : row.filePath = other.filePath := congrArg Path.mk same
      exact Or.inr ⟨path, by omega⟩
  · intro stored stored' row other first second less
    obtain ⟨path, page, rowIndex⟩ := key_of_readRow first
    obtain ⟨path', page', rowIndex'⟩ := key_of_readRow second
    rw [StoredRow.ranked_iff] at less ⊢
    simpa [StoredRow.ofRow, path, page, rowIndex, path', page', rowIndex'] using less

theorem answersLast (tables : database.store? = some store)
    (tables' : after.store? = some (store.deliverAll results))
    (owns : ∀ result ∈ results, result.OwnsRows) :
    after.AnswersLast database store results where
  rowsLoad := exists_loadRows tables' owns
  rows := rows_of_last tables' owns
  rowsStored := by
    intro path none
    rw [(store?_eq_some.1 tables').1, Option.map_some,
      Store.filter_rows_deliverAll store results owns, none]
  otherRows := by
    intro rows old path read before none
    have part := map_filter_of_loadRows tables' read path
    rw [Store.filter_rows_deliverAll store results owns, none] at part
    refine List.map_injective_iff.2 (fun _ _ same => Except.ok.inj same) (part.symm.trans ?_)
    exact map_filter_of_loadRows tables before path
  ordered := pairwise_loadRows
  summariesLoad := exists_loadSummaries tables'
  summaries := summaries_of_last tables'
  summariesStored := by
    intro path none
    rw [(store?_eq_some.1 tables').2, Option.map_some, Store.filter_summaries_deliverAll, none]
  otherSummaries := by
    intro summaries old path read before none
    have part := map_filter_of_loadSummaries tables' read path
    rw [Store.filter_summaries_deliverAll, none] at part
    refine List.map_injective_iff.2 (fun _ _ same => Except.ok.inj same) (part.symm.trans ?_)
    exact map_filter_of_loadSummaries tables before path

/-- Two stores that hold the same of each file give the same answers, in whatever order their tables
hold it. -/
theorem sameAnswers {other : Store} {after' : Database} (tables : after.store? = some store)
    (tables' : after'.store? = some other)
    (rows : ∀ path, store.rows.filter (·.filePath == path) =
      other.rows.filter (·.filePath == path))
    (summaries : ∀ path, store.summaries.filter (·.filePath == path) =
      other.summaries.filter (·.filePath == path)) : after.SameAnswers after' := by
  have rowsSorted := mergeSort_eq_of_filter_key_eq StoredRow.ranked_trans StoredRow.ranked_total
    (fun _ _ => StoredRow.le_of_ranked) rows
  have summariesSorted := mergeSort_eq_of_filter_key_eq StoredSummary.ranked_trans
    StoredSummary.ranked_total (fun _ _ => StoredSummary.le_of_ranked) summaries
  obtain ⟨first, second⟩ := store?_eq_some.1 tables
  obtain ⟨first', second'⟩ := store?_eq_some.1 tables'
  constructor
  · unfold loadRows rowTable
    rw [first, first']
    exact congrArg (List.mapM readRow) rowsSorted
  · unfold loadSummaries
    rw [second, second']
    exact congrArg (List.mapM readSummary) summariesSorted

/-- Results with the same last one of each file leave the same answers. -/
theorem sameAnswers_of_last? {others : List ExtractionResult} {after' : Database}
    (tables : after.store? = some (store.deliverAll results))
    (tables' : after'.store? = some (store.deliverAll others))
    (owns : ∀ result ∈ results, result.OwnsRows) (owns' : ∀ result ∈ others, result.OwnsRows)
    (same : ∀ path, last? path results = last? path others) : after.SameAnswers after' := by
  refine sameAnswers tables tables' (fun path => ?_) fun path => ?_
  · rw [Store.filter_rows_deliverAll store results owns,
      Store.filter_rows_deliverAll store others owns',
      same path]
  · rw [Store.filter_summaries_deliverAll, Store.filter_summaries_deliverAll, same path]

end Answers

variable {database : Database} {store : Store} {batches : List (List ExtractionResult)}

/-- After any batches the database answers about each file what the last result delivered for it
says.  One that refuses nothing takes all results, and then a batch may come twice, results of
different files may come in any order, and batches may be cut in any way. -/
theorem last_deliveries_loaded (tables : database.store? = some store)
    (owns : ∀ result ∈ batches.flatten, result.OwnsRows) :
    (database.deliver batches).AnswersLast database store (database.delivered batches) ∧
      (database.Willing →
        database.delivered batches = batches.flatten ∧
        (∀ front batch back, batches = front ++ batch :: back →
          (database.deliver batches).SameAnswers
            (database.deliver (front ++ batch :: batch :: back))) ∧
        (∀ front result other back others,
          batches.flatten = front ++ ([result, other] ++ back) →
          result.filePath ≠ other.filePath →
          others.flatten = front ++ ([other, result] ++ back) →
            (database.deliver batches).SameAnswers (database.deliver others)) ∧
        (∀ others, others.flatten = batches.flatten →
          (database.deliver batches).SameAnswers (database.deliver others))) := by
  have owned : ∀ result ∈ database.delivered batches, result.OwnsRows :=
    fun result mem => owns result (mem_of_mem_delivered mem)
  refine ⟨answersLast tables (store?_deliver tables batches) owned, fun willing => ?_⟩
  -- What another sequence of batches leaves depends on its last results alone.
  have same (others : List (List ExtractionResult))
      (inside : ∀ result ∈ others.flatten, result ∈ batches.flatten)
      (last : ∀ path, last? path batches.flatten = last? path others.flatten) :
      (database.deliver batches).SameAnswers (database.deliver others) := by
    have first := store?_deliver tables batches
    have second := store?_deliver tables others
    rw [delivered_of_willing tables willing] at first second
    exact sameAnswers_of_last? first second owns (fun result mem => owns result (inside result mem))
      last
  refine ⟨delivered_of_willing tables willing batches, ?_, ?_, ?_⟩
  · rintro front batch back rfl
    refine same _ (fun result mem => ?_) fun path => ?_
    · simp only [List.flatten_append, List.flatten_cons, List.mem_append] at mem ⊢
      tauto
    · simp only [List.flatten_append, List.flatten_cons]
      exact (last?_repeat path front.flatten batch back.flatten).symm
  · intro front result other back others joined apart joined'
    refine same others (fun found mem => ?_) fun path => ?_
    · rw [joined'] at mem
      rw [joined]
      simp only [List.mem_append, List.mem_cons] at mem ⊢
      tauto
    · rw [joined, joined']
      exact last?_swap apart path front back
  · intro others joined
    refine same others (fun result mem => ?_) fun path => ?_
    · rw [← joined]
      exact mem
    · rw [joined]

/-- A row in the first place of the file `a`. -/
def smallRow (value : String) : Row where
  fileName := "a"
  filePath := ⟨"a"⟩
  page := 1
  rowIndex := 0
  cells := [⟨"No", value⟩]

/-- The file `a` at first fails and then yields two rows for one place. -/
def smallBatches : List (List ExtractionResult) :=
  [[.failed ⟨"a"⟩ .fileEmpty "" {}, .failed ⟨"b"⟩ .fileEmpty "" {}],
    [.succeeded ⟨"a"⟩ [smallRow "1", smallRow "2"] {}]]

theorem last_deliveries_loaded_small :
    (∃ rows, (fresh.deliver smallBatches).loadRows = .ok rows ∧
      rows.filter (·.filePath.spelling == "a") = [smallRow "2"]) ∧
    (fresh.deliver smallBatches).SameAnswers
      (fresh.deliver (smallBatches.take 1 ++ smallBatches.take 1 ++ smallBatches.drop 1)) := by
  have owns : ∀ result ∈ smallBatches.flatten, result.OwnsRows := by
    simp [smallBatches, OwnsRows, ExtractionResult.failed, ExtractionResult.succeeded, smallRow]
  obtain ⟨answers, repeated⟩ := @last_deliveries_loaded fresh {} smallBatches rfl owns
  obtain ⟨taken, twice, -⟩ := repeated List.not_mem_nil
  obtain ⟨rows, read⟩ := answers.rowsLoad nofun
  refine ⟨⟨rows, read, ?_⟩, twice [] _ _ rfl⟩
  rw [taken] at answers
  have last : last? "a" smallBatches.flatten =
      some (.succeeded ⟨"a"⟩ [smallRow "1", smallRow "2"] {}) := rfl
  exact List.perm_singleton.1 (answers.rows read last)

end Database

end PartsList
