import Mathlib.Data.List.Induction
import PartsList.Store.Database

/-!
# What deliveries leave in the tables

The tables hold of each file what the last result delivered for it left there, and of a file without
deliveries what they held before.
-/

namespace PartsList

namespace ExtractionResult

/-- The result is about the file with the given spelling. -/
def isOf (path : String) (result : ExtractionResult) : Bool :=
  result.filePath.spelling == path

/-- The last result about a file. -/
def last? (path : String) (results : List ExtractionResult) : Option ExtractionResult :=
  results.reverse.find? (isOf path)

/-- The rows of the result are about its own file. -/
def OwnsRows (result : ExtractionResult) : Prop :=
  ∀ row ∈ result.rows, row.filePath = result.filePath

theorem last?_append (path : String) (results more : List ExtractionResult) :
    last? path (results ++ more) = (last? path more).or (last? path results) := by
  simp [last?, List.find?_append]

theorem last?_concat (path : String) (results : List ExtractionResult) (result : ExtractionResult) :
    last? path (results ++ [result]) =
      if result.isOf path then some result else last? path results := by
  rw [last?_append, last?, List.reverse_singleton, List.find?_singleton]
  split <;> rfl

theorem last?_eq_some {path : String} {results : List ExtractionResult} {result : ExtractionResult}
    (last : last? path results = some result) :
    result ∈ results ∧ result.filePath.spelling = path := by
  refine ⟨List.mem_reverse.1 (List.mem_of_find?_eq_some last), ?_⟩
  simpa [isOf] using List.find?_some last

theorem last?_eq_none {path : String} {results : List ExtractionResult} :
    last? path results = none ↔ ∀ result ∈ results, result.filePath.spelling ≠ path := by
  simp [last?, isOf]

theorem last?_repeat (path : String) (front batch back : List ExtractionResult) :
    last? path (front ++ (batch ++ (batch ++ back))) = last? path (front ++ (batch ++ back)) := by
  simp only [last?_append]
  cases last? path back with
  | some last => rfl
  | none => cases last? path batch <;> rfl

theorem last?_swap {result other : ExtractionResult} (apart : result.filePath ≠ other.filePath)
    (path : String) (front back : List ExtractionResult) :
    last? path (front ++ ([result, other] ++ back)) =
      last? path (front ++ ([other, result] ++ back)) := by
  have pair : last? path [result, other] = last? path [other, result] := by
    have first := last?_concat path [result] other
    have second := last?_concat path [other] result
    rw [List.singleton_append] at first second
    rw [first, second, last?, last?, List.reverse_singleton, List.reverse_singleton,
      List.find?_singleton, List.find?_singleton]
    cases mine : result.isOf path with
    | false => rfl
    | true =>
        have others : other.isOf path = false := by
          refine beq_eq_false_iff_ne.2 fun same => apart (congrArg Path.mk ?_)
          exact (beq_iff_eq.1 mine).trans same.symm
        rw [others]
        rfl
  simp only [last?_append, pair]

end ExtractionResult

namespace Row

/-- Both rows have the same place in their files. -/
def samePlace (row other : Row) : Bool :=
  row.page == other.page && row.rowIndex == other.rowIndex

/-- The rows that no later row replaces. -/
def latest : List Row → List Row
  | [] => []
  | row :: rows => if rows.any row.samePlace then latest rows else row :: latest rows

theorem mem_of_mem_latest {row : Row} {rows : List Row} (mem : row ∈ latest rows) : row ∈ rows := by
  induction rows with
  | nil => exact mem
  | cons other rows induction =>
      unfold latest at mem
      split at mem
      · exact List.mem_cons_of_mem _ (induction mem)
      · rcases List.mem_cons.1 mem with rfl | mem
        · exact List.mem_cons_self
        · exact List.mem_cons_of_mem _ (induction mem)

end Row

namespace Store

open ExtractionResult

variable {path : String} {result : ExtractionResult}

theorem filter_putRow {row : StoredRow} (other : row.filePath ≠ path) (rows : List StoredRow) :
    (putRow rows row).filter (·.filePath == path) = rows.filter (·.filePath == path) := by
  rw [putRow, List.filter_append, List.filter_filter]
  have dropped : [row].filter (·.filePath == path) = [] := by simp [other]
  rw [dropped, List.append_nil]
  refine List.filter_congr fun stored _ => ?_
  cases same : stored.filePath == path with
  | false => rfl
  | true =>
      have apart : ¬row.filePath = stored.filePath := by
        rw [beq_iff_eq.1 same]
        exact other
      simp [StoredRow.sameKey, apart]

theorem filter_foldl_putRow {rows : List Row} (others : ∀ row ∈ rows, row.filePath.spelling ≠ path)
    (stored : List StoredRow) :
    ((rows.map StoredRow.ofRow).foldl putRow stored).filter (·.filePath == path) =
      stored.filter (·.filePath == path) := by
  induction rows generalizing stored with
  | nil => rfl
  | cons row rows induction =>
      rw [List.map_cons, List.foldl_cons,
        induction fun other mem => others other (List.mem_cons_of_mem _ mem)]
      exact filter_putRow (others row List.mem_cons_self) stored

/-- A delivery leaves the rows of other files alone. -/
theorem filter_deliverRows_of_ne (owns : result.OwnsRows) (other : result.filePath.spelling ≠ path)
    (stored : List StoredRow) :
    (deliverRows stored result).filter (·.filePath == path) =
      stored.filter (·.filePath == path) := by
  have kept : (dropRows result.filePath.spelling stored).filter (·.filePath == path) =
      stored.filter (·.filePath == path) := by
    rw [dropRows, List.filter_filter]
    refine List.filter_congr fun row _ => ?_
    cases same : row.filePath == path with
    | false => rfl
    | true =>
        rw [beq_iff_eq] at same
        simp [same, Ne.symm other]
  unfold deliverRows
  dsimp only
  split
  · refine (filter_foldl_putRow (fun row mem => ?_) _).trans kept
    rwa [owns row mem]
  · exact kept

/-- Rows of one file that are put into a table replace those with their keys, the later ones the
earlier ones too. -/
theorem foldl_putRow {rows : List Row} {path : Path} (owns : ∀ row ∈ rows, row.filePath = path)
    (stored : List StoredRow) :
    (rows.map StoredRow.ofRow).foldl putRow stored =
      stored.filter (fun other => !(rows.map StoredRow.ofRow).any (·.sameKey other)) ++
        (Row.latest rows).map StoredRow.ofRow := by
  induction rows generalizing stored with
  | nil => exact ((List.append_nil _).trans (List.filter_eq_self.2 fun _ _ => rfl)).symm
  | cons row rows induction =>
      have rest := induction fun other mem => owns other (List.mem_cons_of_mem _ mem)
      have replaced : (rows.map StoredRow.ofRow).any (·.sameKey (StoredRow.ofRow row)) =
          rows.any row.samePlace := by
        rw [List.any_map, Bool.eq_iff_iff, List.any_eq_true, List.any_eq_true]
        refine exists_congr fun other => and_congr_right fun mem => ?_
        have first := owns row List.mem_cons_self
        have second := owns other (List.mem_cons_of_mem _ mem)
        simp [StoredRow.sameKey, StoredRow.ofRow, Row.samePlace, first, second,
          eq_comm (a := other.page), eq_comm (a := other.rowIndex)]
      have both : (stored.filter fun other => !(StoredRow.ofRow row).sameKey other).filter
            (fun other => !(rows.map StoredRow.ofRow).any (·.sameKey other)) =
          stored.filter fun other =>
            !((row :: rows).map StoredRow.ofRow).any (·.sameKey other) := by
        rw [List.filter_filter]
        refine List.filter_congr fun other _ => ?_
        rw [List.map_cons, List.any_cons, Bool.not_or, Bool.and_comm]
      rw [List.map_cons, List.foldl_cons, rest, putRow, List.filter_append, both,
        List.append_assoc, Row.latest]
      congr 1
      rw [List.filter_cons, List.filter_nil, replaced]
      cases rows.any row.samePlace <;> rfl

/-- A delivery leaves of its file the rows that it brings, and none if the file failed. -/
theorem filter_deliverRows_of_eq (owns : result.OwnsRows) (same : result.filePath.spelling = path)
    (stored : List StoredRow) :
    (deliverRows stored result).filter (·.filePath == path) =
      if result.success then (Row.latest result.rows).map StoredRow.ofRow else [] := by
  have none (keep : StoredRow → Bool) :
      ((dropRows path stored).filter keep).filter (·.filePath == path) = [] := by
    refine List.filter_eq_nil_iff.2 fun row mem => ?_
    have dropped := (List.mem_filter.1 (List.mem_filter.1 mem).1).2
    simpa using dropped
  have all : ((Row.latest result.rows).map StoredRow.ofRow).filter (·.filePath == path) =
      (Row.latest result.rows).map StoredRow.ofRow := by
    refine List.filter_eq_self.2 fun stored mem => ?_
    obtain ⟨row, latest, rfl⟩ := List.mem_map.1 mem
    simp [StoredRow.ofRow, owns row (Row.mem_of_mem_latest latest), same]
  unfold deliverRows
  dsimp only
  rw [same]
  split
  · rw [foldl_putRow owns, List.filter_append, none, all, List.nil_append]
  · simpa using none fun _ => true

theorem filter_putSummary (summaries : List StoredSummary) (summary : StoredSummary)
    (path : String) :
    (putSummary summaries summary).filter (·.filePath == path) =
      if summary.filePath == path then [summary] else summaries.filter (·.filePath == path) := by
  rw [putSummary, List.filter_append, List.filter_filter, List.filter_cons, List.filter_nil]
  cases same : summary.filePath == path with
  | true =>
      have none : (summaries.filter fun other =>
          other.filePath == path && other.filePath != summary.filePath) = [] := by
        simp [List.filter_eq_nil_iff, beq_iff_eq.1 same]
      simp [none]
  | false =>
      rw [if_neg (by simp), List.append_nil, if_neg (by simp)]
      refine List.filter_congr fun other _ => ?_
      cases its : other.filePath == path with
      | false => rfl
      | true =>
          have apart : other.filePath ≠ summary.filePath := by
            rw [beq_iff_eq.1 its]
            exact fun eq => by simp [eq] at same
          simpa using apart

/-- The rows of a file in the table are those of its last result. -/
theorem filter_rows_deliverAll (store : Store) (results : List ExtractionResult)
    (owns : ∀ result ∈ results, result.OwnsRows) (path : String) :
    (store.deliverAll results).rows.filter (·.filePath == path) =
      match last? path results with
      | some result => if result.success then (Row.latest result.rows).map StoredRow.ofRow else []
      | none => store.rows.filter (·.filePath == path) := by
  induction results using List.reverseRecOn with
  | nil => rfl
  | append_singleton results result induction =>
      have before := induction fun other mem => owns other (List.mem_append_left _ mem)
      have own := owns result (List.mem_append_right _ List.mem_cons_self)
      rw [last?_concat, deliverAll, List.foldl_append, List.foldl_cons, List.foldl_nil]
      by_cases same : result.filePath.spelling = path
      · rw [if_pos (by simpa [isOf] using same)]
        exact filter_deliverRows_of_eq own same _
      · rw [if_neg (by simpa [isOf] using same)]
        exact (filter_deliverRows_of_ne own same _).trans before

/-- The summaries of a file in the table are one, that of its last result. -/
theorem filter_summaries_deliverAll (store : Store) (results : List ExtractionResult)
    (path : String) :
    (store.deliverAll results).summaries.filter (·.filePath == path) =
      match last? path results with
      | some result => [StoredSummary.ofResult result]
      | none => store.summaries.filter (·.filePath == path) := by
  induction results using List.reverseRecOn with
  | nil => rfl
  | append_singleton results result induction =>
      rw [last?_concat, deliverAll, List.foldl_append, List.foldl_cons, List.foldl_nil]
      refine (filter_putSummary _ _ _).trans ?_
      have key : ((StoredSummary.ofResult result).filePath == path) = result.isOf path := rfl
      rw [key]
      cases result.isOf path with
      | true => rfl
      | false => exact induction

end Store

namespace Store

theorem deliverAll_append (store : Store) (results more : List ExtractionResult) :
    store.deliverAll (results ++ more) = (store.deliverAll results).deliverAll more :=
  List.foldl_append

end Store

theorem UpsertCounts.rows_append (results more : List ExtractionResult) :
    (ofResults (results ++ more)).rows = (ofResults results).rows + (ofResults more).rows := by
  simp only [ofResults, ← List.sum_eq_foldr, List.map_append, List.sum_append]

namespace Database

/-- A transaction takes effect as a whole and is counted, or leaves the store alone. -/
theorem settles_upsert (database : Database) (results : List ExtractionResult) :
    match database.upsert results with
    | (.ok counts, after) =>
      counts = .ofResults results ∧ after.store? = database.store?.map (·.deliverAll results)
    | (.error _, after) => after.store? = database.store? := by
  unfold upsert
  dsimp only
  by_cases refused : database.refusals.head? = some true
  · rw [if_pos refused]
    rfl
  · rw [if_neg refused]
    by_cases empty : results.isEmpty = true
    · rw [if_pos empty, List.isEmpty_iff.1 empty]
      exact ⟨rfl, (Option.map_id_apply).symm⟩
    · rw [if_neg empty]
      cases tables : database.store? with
      | none => exact tables
      | some store => exact ⟨rfl, rfl⟩

end Database

end PartsList
