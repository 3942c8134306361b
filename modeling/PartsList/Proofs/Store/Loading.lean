import PartsList.Proofs.Basic
import PartsList.Proofs.Result.RoundTrip
import PartsList.Proofs.Sorting
import PartsList.Proofs.Text.Utf8
import PartsList.Store.Database

/-!
# Reading the tables

What is read from a table is what it holds, sorted by key.  A row that was stored is read as it was.
-/

namespace PartsList

/-! ## Order of rows -/

theorem isLE_then_compareOfLessAndEq {α : Type} [LT α] [DecidableLT α] [DecidableEq α] {a b : α}
    {next : Ordering} :
    ((compareOfLessAndEq a b).then next).isLE ↔ a < b ∨ (a = b ∧ next.isLE) := by
  unfold compareOfLessAndEq
  split
  · simp_all [Ordering.then]
  · split <;> simp_all [Ordering.then]

theorem isLE_compareOfLessAndEq {α : Type} [LT α] [DecidableLT α] [DecidableEq α] {a b : α} :
    (compareOfLessAndEq a b).isLE ↔ a < b ∨ a = b := by
  unfold compareOfLessAndEq
  split
  · simp_all
  · split <;> simp_all

namespace StoredRow

theorem ranked_iff {row other : StoredRow} :
    row.ranked other ↔ row.filePath < other.filePath ∨ row.filePath = other.filePath ∧
      (Word.signed row.page < Word.signed other.page ∨
        Word.signed row.page = Word.signed other.page ∧
          (Word.signed row.rowIndex < Word.signed other.rowIndex ∨
            Word.signed row.rowIndex = Word.signed other.rowIndex)) := by
  rw [ranked, order, isLE_then_compareOfLessAndEq, isLE_then_compareOfLessAndEq,
    isLE_compareOfLessAndEq]

theorem ranked_trans (row other third : StoredRow) (first : row.ranked other)
    (second : other.ranked third) : row.ranked third := by
  rw [ranked_iff] at first second ⊢
  rcases first with less | ⟨same, first⟩
  · rcases second with less' | ⟨same', -⟩
    · exact Or.inl (String.lt_trans less less')
    · exact Or.inl (same' ▸ less)
  · rcases second with less' | ⟨same', second⟩
    · exact Or.inl (same ▸ less')
    · exact Or.inr ⟨same.trans same', by omega⟩

theorem ranked_total (row other : StoredRow) : row.ranked other || other.ranked row := by
  rw [Bool.or_eq_true, ranked_iff, ranked_iff]
  by_cases less : row.filePath < other.filePath
  · exact Or.inl (Or.inl less)
  · by_cases more : other.filePath < row.filePath
    · exact Or.inr (Or.inl more)
    · rw [String.le_antisymm more less]
      by_cases first : Word.signed row.page < Word.signed other.page ∨
          Word.signed row.page = Word.signed other.page ∧
            (Word.signed row.rowIndex < Word.signed other.rowIndex ∨
              Word.signed row.rowIndex = Word.signed other.rowIndex)
      · exact Or.inl (Or.inr ⟨rfl, first⟩)
      · exact Or.inr (Or.inr ⟨rfl, by omega⟩)

theorem le_of_ranked {row other : StoredRow} (ranked : row.ranked other) :
    row.filePath ≤ other.filePath := by
  rcases ranked_iff.1 ranked with less | ⟨same, -⟩
  · exact String.lt_asymm less
  · exact same ▸ String.le_refl _

end StoredRow

namespace StoredSummary

theorem ranked_iff {summary other : StoredSummary} :
    summary.ranked other ↔ summary.filePath < other.filePath ∨ summary.filePath = other.filePath :=
  isLE_compareOfLessAndEq

theorem ranked_trans (summary other third : StoredSummary) (first : summary.ranked other)
    (second : other.ranked third) : summary.ranked third := by
  rw [ranked_iff] at first second ⊢
  rcases first with less | same
  · rcases second with less' | same'
    · exact Or.inl (String.lt_trans less less')
    · exact Or.inl (same' ▸ less)
  · exact same ▸ second

theorem ranked_total (summary other : StoredSummary) :
    summary.ranked other || other.ranked summary := by
  rw [Bool.or_eq_true, ranked_iff, ranked_iff]
  by_cases less : summary.filePath < other.filePath
  · exact Or.inl (Or.inl less)
  · by_cases more : other.filePath < summary.filePath
    · exact Or.inr (Or.inl more)
    · exact Or.inl (Or.inr (String.le_antisymm more less))

theorem le_of_ranked {summary other : StoredSummary} (ranked : summary.ranked other) :
    summary.filePath ≤ other.filePath := by
  rcases ranked_iff.1 ranked with less | same
  · exact String.lt_asymm less
  · exact same ▸ String.le_refl _

end StoredSummary

/-! ## Reading -/

theorem mapM_eq_ok {ε α β : Type} {reader : α → Except ε β} {values : List α} {read : List β} :
    values.mapM reader = .ok read ↔ values.map reader = read.map .ok := by
  induction values generalizing read with
  | nil =>
      cases read with
      | nil => exact ⟨fun _ => rfl, fun _ => rfl⟩
      | cons b read => exact ⟨nofun, nofun⟩
  | cons a values induction =>
      rw [List.mapM_cons, List.map_cons]
      constructor
      · intro succeeds
        obtain ⟨b, first, succeeds⟩ := exists_of_bind_eq_ok succeeds
        obtain ⟨others, rest, succeeds⟩ := exists_of_bind_eq_ok succeeds
        cases succeeds
        rw [first, induction.1 rest, List.map_cons]
      · intro same
        cases read with
        | nil => cases same
        | cons b read =>
            obtain ⟨first, rest⟩ := List.cons.inj same
            rw [first, induction.2 rest]
            rfl

theorem exists_mapM_eq_ok {ε α β : Type} {reader : α → Except ε β} {values : List α}
    (readable : ∀ a ∈ values, ∃ b, reader a = .ok b) : ∃ read, values.mapM reader = .ok read := by
  induction values with
  | nil => exact ⟨[], rfl⟩
  | cons a values induction =>
      obtain ⟨b, first⟩ := readable a List.mem_cons_self
      obtain ⟨read, rest⟩ := induction fun other mem => readable other (List.mem_cons_of_mem _ mem)
      exact ⟨b :: read, by rw [List.mapM_cons, first, rest]; rfl⟩

/-- What is read from some of the values is some of what is read. -/
theorem map_filter_eq {ε α β : Type} {reader : α → Except ε β} {keep : α → Bool} {keep' : β → Bool}
    (same : ∀ a b, reader a = .ok b → keep a = keep' b) {values : List α} {read : List β}
    (reads : values.map reader = read.map .ok) :
    (values.filter keep).map reader = (read.filter keep').map .ok := by
  induction values generalizing read with
  | nil =>
      cases read with
      | nil => rfl
      | cons b read => cases reads
  | cons a values induction =>
      cases read with
      | nil => cases reads
      | cons b read =>
          obtain ⟨first, rest⟩ := List.cons.inj reads
          rw [List.filter_cons, List.filter_cons, ← same a b first]
          cases keep a with
          | false => exact induction rest
          | true => exact congrArg₂ List.cons first (induction rest)

/-- What is read from sorted values is sorted. -/
theorem pairwise_of_map_eq {ε α β : Type} {reader : α → Except ε β} {before : α → α → Prop}
    (before' : β → β → Prop)
    (keeps : ∀ a a' b b', reader a = .ok b → reader a' = .ok b' → before a a' → before' b b')
    {values : List α} {read : List β} (reads : values.map reader = read.map .ok)
    (sorted : values.Pairwise before) : read.Pairwise before' := by
  have mapped : (values.map reader).Pairwise fun x y =>
      ∀ b b', x = .ok b → y = .ok b' → before' b b' :=
    List.pairwise_map.2 (sorted.imp fun less b b' first second => keeps _ _ b b' first second less)
  rw [reads] at mapped
  exact (List.pairwise_map.1 mapped).imp fun less => less _ _ rfl rfl

theorem StoredRow.toRow?_ofRow (row : Row) : (StoredRow.ofRow row).toRow? = some row := by
  have writable : (Json.array (row.cells.map Cell.toJson)).Writable :=
    Json.writable_array (by simp [Cell.writable_toJson])
  have cells := Json.toList?_array row.cells fun cell _ => cell.ofJson?_toJson
  simp [StoredRow.toRow?, StoredRow.ofRow, Json.read_render writable, cells]

namespace Database

theorem readRow_ofRow (row : Row) : readRow (StoredRow.ofRow row) = .ok row := by
  rw [readRow, StoredRow.toRow?_ofRow]

/-- A row that is read has the key under which it is stored. -/
theorem key_of_readRow {stored : StoredRow} {row : Row} (read : readRow stored = .ok row) :
    row.filePath.spelling = stored.filePath ∧ row.page = stored.page ∧
      row.rowIndex = stored.rowIndex := by
  unfold readRow StoredRow.toRow? at read
  split at read
  · next found =>
      cases read
      obtain ⟨cells, -, same⟩ := Option.bind_eq_some_iff.1 found
      cases Option.some.inj same
      exact ⟨rfl, rfl, rfl⟩
  · cases read

/-- The rows that are read are those of the table, in the order of their keys. -/
theorem loadRows_eq_ok {database : Database} {rows : List Row} :
    database.loadRows = .ok rows ↔ ∃ table, database.rows = some table ∧
      (table.mergeSort StoredRow.ranked).map readRow = rows.map .ok := by
  unfold loadRows rowTable
  cases database.rows with
  | none => exact ⟨nofun, nofun⟩
  | some table =>
      refine Iff.trans mapM_eq_ok ⟨fun same => ⟨table, rfl, same⟩, ?_⟩
      rintro ⟨other, found, same⟩
      cases found
      exact same

/-- The summaries that are read are those of the table, in the order of their files. -/
theorem loadSummaries_eq_ok {database : Database} {summaries : List FileSummary} :
    database.loadSummaries = .ok summaries ↔ ∃ table, database.summaries = some table ∧
      (table.mergeSort StoredSummary.ranked).map readSummary = summaries.map .ok := by
  unfold loadSummaries
  cases database.summaries with
  | none => exact ⟨nofun, nofun⟩
  | some table =>
      refine Iff.trans mapM_eq_ok ⟨fun same => ⟨table, rfl, same⟩, ?_⟩
      rintro ⟨other, found, same⟩
      cases found
      exact same

/-- What is read of the summaries, computed by a sort that recurs on the table itself. -/
theorem loadSummaries_eq_insertionSort (database : Database) :
    database.loadSummaries =
      match database.summaries with
      | some table =>
        (table.insertionSort fun summary other => summary.ranked other = true).mapM readSummary
      | none => .error .refused := by
  have linear : IsLinear StoredSummary.ranked :=
    ⟨StoredSummary.ranked_trans, StoredSummary.ranked_total⟩
  unfold loadSummaries
  cases database.summaries with
  | none => rfl
  | some table =>
      exact congrArg (List.mapM readSummary) (mergeSort_eq_insertionSort linear table)

/-- A summary that is read has the key under which it is stored. -/
theorem key_of_readSummary {stored : StoredSummary} {summary : FileSummary}
    (read : readSummary stored = .ok summary) : summary.filePath.spelling = stored.filePath := by
  obtain ⟨stage, -, read⟩ := exists_of_bind_eq_ok read
  obtain ⟨code, -, read⟩ := exists_of_bind_eq_ok read
  cases read
  rfl

/-- What is read of one file is what is stored of it, sorted. -/
theorem map_filter_rows {table : List StoredRow} {rows : List Row}
    (read : (table.mergeSort StoredRow.ranked).map readRow = rows.map .ok) (path : String) :
    ((table.filter (·.filePath == path)).mergeSort StoredRow.ranked).map readRow =
      (rows.filter (·.filePath.spelling == path)).map .ok := by
  rw [← filter_mergeSort StoredRow.ranked_trans StoredRow.ranked_total]
  exact map_filter_eq (fun stored row read => by rw [(key_of_readRow read).1]) read

theorem map_filter_summaries {table : List StoredSummary} {summaries : List FileSummary}
    (read : (table.mergeSort StoredSummary.ranked).map readSummary = summaries.map .ok)
    (path : String) :
    ((table.filter (·.filePath == path)).mergeSort StoredSummary.ranked).map readSummary =
      (summaries.filter (·.filePath.spelling == path)).map .ok := by
  rw [← filter_mergeSort StoredSummary.ranked_trans StoredSummary.ranked_total]
  exact map_filter_eq (fun stored summary read => by rw [key_of_readSummary read]) read

end Database

end PartsList
