import PartsList.Proofs.Store.Delivery
import PartsList.Proofs.Store.Loading

/-!
# Answers about files

What a database answers comes from what its store holds of each file.  Stores that hold the same of
each file, in whatever order, give the same answers, and if they hold the same of each file but for
some figures of the summaries, so do their answers.
-/

namespace PartsList

open ExtractionResult

namespace Store

/-- What the store holds of a file: its summary and its rows. -/
def about (store : Store) (path : Path) : List StoredSummary × List StoredRow :=
  (store.summaries.filter (·.filePath == path.spelling),
    store.rows.filter (·.filePath == path.spelling))

/-- Results of other files leave it as it is. -/
theorem about_deliverAll (store : Store) {results : List ExtractionResult} {path : Path}
    (owns : ∀ result ∈ results, result.OwnsRows)
    (others : ∀ result ∈ results, result.filePath ≠ path) :
    (store.deliverAll results).about path = store.about path := by
  have none : last? path.spelling results = none :=
    last?_eq_none.2 fun result mem same => others result mem (congrArg Path.mk same)
  rw [about, filter_summaries_deliverAll, filter_rows_deliverAll store results owns, none]
  rfl

end Store

/-! ## What summaries tell in essence -/

/-- The text in front of the first place at which the words stand, or all of it if they stand
nowhere. -/
def upTo (words : List Char) : List Char → List Char
  | [] => []
  | c :: text => if words.isPrefixOf (c :: text) then [] else c :: upTo words text

theorem isPrefix_upTo (words text : List Char) : upTo words text <+: text := by
  induction text with
  | nil => exact List.prefix_rfl
  | cons c text induction =>
      rw [upTo]
      split
      · exact List.nil_prefix
      · exact (List.prefix_cons_inj c).2 induction

@[simp] theorem upTo_upTo (words text : List Char) :
    upTo words (upTo words text) = upTo words text := by
  induction text with
  | nil => rfl
  | cons c text induction =>
      rw [upTo]
      split
      · rfl
      · next free =>
          -- Words that stand in front of a part of the text stand in front of the text.
          rw [upTo, if_neg, induction]
          intro stands
          exact free (List.isPrefixOf_iff_prefix.2 ((List.isPrefixOf_iff_prefix.1 stands).trans
            ((List.prefix_cons_inj c).2 (isPrefix_upTo words text))))

/-- Words stand first where their first letter does. -/
theorem upTo_append {first : Char} {front : List Char} (free : first ∉ front)
    (words back : List Char) :
    upTo (first :: words) (front ++ (first :: words ++ back)) = front := by
  induction front with
  | nil => exact if_pos (List.isPrefixOf_iff_prefix.2 (List.prefix_append _ _))
  | cons c front induction =>
      obtain ⟨other, rest⟩ := not_or.1 (List.mem_cons.not.1 free)
      rw [List.cons_append, upTo, if_neg, induction rest]
      intro stands
      exact other (List.cons_prefix_cons.1 (List.isPrefixOf_iff_prefix.1 stands)).1

/-- The words of a refusal for memory up to the budget that they name, which is the share of one
worker. -/
def beforeBudget (message : String) : String :=
  String.ofList (upTo "worker budget of ".toList message.toList)

@[simp] theorem beforeBudget_beforeBudget (message : String) :
    beforeBudget (beforeBudget message) = beforeBudget message :=
  congrArg String.ofList ((congrArg (upTo _) String.toList_ofList).trans (upTo_upTo _ _))

/-- The summary without the time spent, the memory in use and the budget that a refusal for memory
names. -/
def StoredSummary.essence (summary : StoredSummary) : StoredSummary :=
  { summary with
    errorMessage :=
      if summary.errorCode = ErrorCode.memoryLimitExceeded.name then
        summary.errorMessage.map beforeBudget
      else summary.errorMessage
    durationMs := 0
    memoryPeakMb := none }

/-- The summary without the time spent, the memory in use and the budget that a refusal for memory
names. -/
def FileSummary.essence (summary : FileSummary) : FileSummary :=
  { summary with
    errorMessage :=
      if summary.errorCode = .memoryLimitExceeded then
        summary.errorMessage.map beforeBudget
      else summary.errorMessage
    durationMs := 0
    memoryPeakMb := none }

theorem StoredSummary.ranked_essence (summary other : StoredSummary) :
    summary.essence.ranked other.essence = summary.ranked other := rfl

namespace Database

theorem name_of_readCode {name : String} {code : ErrorCode} (read : readCode name = .ok code) :
    code.name = name := by
  unfold readCode at read
  split at read
  · next found =>
      cases read
      have same := List.find?_some found
      exact beq_iff_eq.1 same
  · cases read

/-- Reading a summary and taking its essence may change places. -/
theorem readSummary_essence (stored : StoredSummary) :
    readSummary stored.essence = (readSummary stored).map FileSummary.essence := by
  unfold readSummary
  change (stored.failingStage.mapM readStage >>= fun stage => readCode stored.errorCode >>= _) = _
  cases stored.failingStage.mapM readStage with
  | error => rfl
  | ok stage =>
      cases read : readCode stored.errorCode with
      | error => rfl
      | ok code =>
          have refused : stored.errorCode = ErrorCode.memoryLimitExceeded.name ↔
              code = .memoryLimitExceeded := by
            rw [← name_of_readCode read]
            refine ⟨fun same => ?_, fun same => same ▸ rfl⟩
            have codes := congrArg ErrorCode.ofName? same
            rw [ErrorCode.ofName?_name, ErrorCode.ofName?_name] at codes
            exact Option.some.inj codes
          change Except.ok _ = Except.ok _
          simp only [StoredSummary.essence, FileSummary.essence, refused]

theorem mapM_readSummary_essence (summaries : List StoredSummary) :
    (summaries.map StoredSummary.essence).mapM readSummary =
      (summaries.mapM readSummary).map (·.map FileSummary.essence) := by
  induction summaries with
  | nil => rfl
  | cons stored summaries induction =>
      rw [List.map_cons, List.mapM_cons, List.mapM_cons, induction, readSummary_essence]
      cases readSummary stored with
      | error => rfl
      | ok summary => cases summaries.mapM readSummary <;> rfl

/-! ## Answers of two databases -/

variable {database other : Database} {store store' : Store}

theorem tables_of_store? (tables : database.store? = some store) :
    database.rows = some store.rows ∧ database.summaries = some store.summaries := by
  unfold store? at tables
  split at tables
  · next rows summaries =>
      cases tables
      exact ⟨rows, summaries⟩
  · cases tables

/-- Rows are read alike from stores that hold the same rows of each file. -/
theorem loadRows_congr (tables : database.store? = some store)
    (tables' : other.store? = some store')
    (same : ∀ path, (store.about path).2 = (store'.about path).2) :
    database.loadRows = other.loadRows := by
  have sorted : store.rows.mergeSort StoredRow.ranked = store'.rows.mergeSort StoredRow.ranked :=
    mergeSort_eq_of_filter_key_eq StoredRow.ranked_trans StoredRow.ranked_total
      (fun _ _ => StoredRow.le_of_ranked) fun key => same ⟨key⟩
  unfold loadRows rowTable
  rw [(tables_of_store? tables).1, (tables_of_store? tables').1]
  change (store.rows.mergeSort StoredRow.ranked).mapM readRow = _
  rw [sorted]
  rfl

/-- Summaries tell the same in essence when they are read from stores that hold in essence the same
summary of each file. -/
theorem loadSummaries_congr (tables : database.store? = some store)
    (tables' : other.store? = some store')
    (same : ∀ path, (store.about path).1.map StoredSummary.essence =
      (store'.about path).1.map StoredSummary.essence) :
    database.loadSummaries.map (·.map FileSummary.essence) =
      other.loadSummaries.map (·.map FileSummary.essence) := by
  have sorted (summaries : List StoredSummary) :
      (summaries.mergeSort StoredSummary.ranked).map StoredSummary.essence =
        (summaries.map StoredSummary.essence).mergeSort StoredSummary.ranked :=
    List.map_mergeSort fun summary _ other _ => (StoredSummary.ranked_essence summary other).symm
  have equal : (store.summaries.map StoredSummary.essence).mergeSort StoredSummary.ranked =
      (store'.summaries.map StoredSummary.essence).mergeSort StoredSummary.ranked := by
    refine mergeSort_eq_of_filter_key_eq StoredSummary.ranked_trans StoredSummary.ranked_total
      (fun _ _ => StoredSummary.le_of_ranked) fun key => ?_
    rw [List.filter_map, List.filter_map]
    exact same ⟨key⟩
  unfold loadSummaries
  rw [(tables_of_store? tables).2, (tables_of_store? tables').2]
  dsimp only
  rw [← mapM_readSummary_essence, ← mapM_readSummary_essence, sorted, sorted, equal]

end Database

end PartsList
