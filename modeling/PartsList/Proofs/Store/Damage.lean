import PartsList.Proofs.Store.LastDelivery

/-!
# Damage to the tables

What is changed in the tables from outside is found out when they are read.  What was changed of a
file is gone with the next result of the file.  A table that was removed is made again when the
database is opened, but only if the record of the version is gone as well; until then the database
takes no results.
-/

namespace PartsList

namespace Store

variable {path : String} {store other : Store} {result : ExtractionResult}
  {results : List ExtractionResult}

/-- The stores differ in nothing but what they hold of one file. -/
structure Elsewhere (path : String) (store other : Store) : Prop where
  /-- The rows of other files are the same, -/
  rows : store.rows.filter (·.filePath != path) = other.rows.filter (·.filePath != path)
  /-- and so are their summaries. -/
  summaries : store.summaries.filter (·.filePath != path) =
    other.summaries.filter (·.filePath != path)

theorem filter_foldl_putRow_congr {keep : StoredRow → Bool} (rows : List StoredRow)
    {stored stored' : List StoredRow} (same : stored.filter keep = stored'.filter keep) :
    (rows.foldl putRow stored).filter keep = (rows.foldl putRow stored').filter keep := by
  induction rows generalizing stored stored' with
  | nil => exact same
  | cons row rows induction =>
      refine induction ?_
      rw [putRow, putRow, List.filter_append, List.filter_append, List.filter_comm, same,
        List.filter_comm]

theorem Elsewhere.deliver (apart : store.Elsewhere path other) (result : ExtractionResult) :
    (store.deliver result).Elsewhere path (other.deliver result) where
  rows := by
    have dropped : (dropRows result.filePath.spelling store.rows).filter (·.filePath != path) =
        (dropRows result.filePath.spelling other.rows).filter (·.filePath != path) := by
      rw [dropRows, dropRows, List.filter_comm, apart.rows, List.filter_comm]
    dsimp only [Store.deliver, deliverRows]
    split
    · exact filter_foldl_putRow_congr _ dropped
    · exact dropped
  summaries := by
    dsimp only [Store.deliver, putSummary]
    rw [List.filter_append, List.filter_append, List.filter_comm, apart.summaries, List.filter_comm]

/-- A delivery replaces all that the store holds of the file. -/
theorem Elsewhere.deliver_eq (apart : store.Elsewhere path other)
    (about : result.filePath.spelling = path) : store.deliver result = other.deliver result := by
  subst about
  have rows : deliverRows store.rows result = deliverRows other.rows result := by
    unfold deliverRows
    rw [show dropRows result.filePath.spelling store.rows = _ from apart.rows]
    rfl
  have summaries : putSummary store.summaries (StoredSummary.ofResult result) =
      putSummary other.summaries (StoredSummary.ofResult result) :=
    congrArg (· ++ [StoredSummary.ofResult result]) apart.summaries
  rw [Store.deliver, Store.deliver, rows, summaries]

/-- Deliveries with a result of the file leave nothing of what the store held of it. -/
theorem Elsewhere.deliverAll_eq (apart : store.Elsewhere path other)
    (delivers : ∃ result ∈ results, result.filePath.spelling = path) :
    store.deliverAll results = other.deliverAll results := by
  induction results generalizing store other with
  | nil =>
      obtain ⟨result, mem, -⟩ := delivers
      cases mem
  | cons first results induction =>
      rw [deliverAll, List.foldl_cons, deliverAll, List.foldl_cons]
      by_cases about : first.filePath.spelling = path
      · rw [apart.deliver_eq about]
      · obtain ⟨result, mem, same⟩ := delivers
        rcases List.mem_cons.1 mem with rfl | mem
        · exact absurd same about
        · exact induction (apart.deliver first) ⟨result, mem, same⟩

end Store

namespace Database

variable {database : Database} {store other : Store} {path text : String}
  {results : List ExtractionResult}

/-! ## Files -/

/-- What is changed is not among the rest. -/
theorem filter_map_of_eq {α : Type} (key : α → String) (change : α → α)
    (keeps : ∀ a, key (change a) = key a) (values : List α) :
    (values.map fun a => if key a == path then change a else a).filter (key · != path) =
      values.filter (key · != path) := by
  induction values with
  | nil => rfl
  | cons a values induction =>
      have first : key (if key a == path then change a else a) = key a := by
        split
        · exact keeps a
        · rfl
      rw [List.map_cons, List.filter_cons, List.filter_cons, first, induction]
      split
      · next other => rw [if_neg (by simpa using other)]
      · rfl

/-- Overwritten cells are in the rows of one file. -/
theorem overwriteCells_eq (tables : database.store? = some store) (path text : String) :
    ∃ other, store.Elsewhere path other ∧
      (database.overwriteCells path text).2 = database.putStore other := by
  obtain ⟨rows, summaries⟩ := store?_eq_some.1 tables
  refine ⟨{ store with
    rows := store.rows.map fun row =>
      if row.filePath == path then { row with cells := text } else row },
    ⟨?_, rfl⟩, ?_⟩
  · exact (filter_map_of_eq StoredRow.filePath (fun row => { row with cells := text })
      (fun _ => rfl) store.rows).symm
  · rw [overwriteCells, rows, putStore, ← summaries]

/-- A summary that was changed is that of one file. -/
theorem changeSummary_eq (tables : database.store? = some store) (path : String)
    {change : StoredSummary → StoredSummary}
    (keeps : ∀ summary, (change summary).filePath = summary.filePath) :
    ∃ other, store.Elsewhere path other ∧
      (database.changeSummary path change).2 = database.putStore other := by
  obtain ⟨rows, summaries⟩ := store?_eq_some.1 tables
  refine ⟨{ store with
    summaries := store.summaries.map fun summary =>
      if summary.filePath == path then change summary else summary }, ⟨rfl, ?_⟩, ?_⟩
  · exact (filter_map_of_eq StoredSummary.filePath change keeps store.summaries).symm
  · rw [changeSummary, summaries, putStore, ← rows]

theorem upsert_putStore (tables : database.store? = some store) (apart : store.Elsewhere path other)
    (willing : database.Willing) (delivers : ∃ result ∈ results, result.filePath.spelling = path) :
    (database.putStore other).upsert results = database.upsert results := by
  have first : ¬database.refusals.head? = some true :=
    fun first => willing (List.mem_of_mem_head? first)
  have some_ : ¬results.isEmpty = true := by
    obtain ⟨result, mem, -⟩ := delivers
    rw [List.isEmpty_iff]
    exact List.ne_nil_of_mem mem
  have put : (database.putStore other).store? = some other := rfl
  unfold upsert
  dsimp only
  rw [if_neg first, if_neg (show ¬(database.putStore other).refusals.head? = some true from first),
    if_neg some_, if_neg some_, tables, put]
  dsimp only
  rw [apart.deliverAll_eq delivers]
  rfl

/-- A batch with a result of the file mends the rows of the file. -/
theorem upsert_overwriteCells (tables : database.store? = some store) (willing : database.Willing)
    (delivers : ∃ result ∈ results, result.filePath.spelling = path) (text : String) :
    (database.overwriteCells path text).2.upsert results = database.upsert results := by
  obtain ⟨other, apart, damaged⟩ := overwriteCells_eq tables path text
  rw [damaged]
  exact upsert_putStore tables apart willing delivers

theorem upsert_changeSummary (tables : database.store? = some store) (willing : database.Willing)
    (delivers : ∃ result ∈ results, result.filePath.spelling = path)
    {change : StoredSummary → StoredSummary}
    (keeps : ∀ summary, (change summary).filePath = summary.filePath) :
    (database.changeSummary path change).2.upsert results = database.upsert results := by
  obtain ⟨other, apart, damaged⟩ := changeSummary_eq tables path keeps
  rw [damaged]
  exact upsert_putStore tables apart willing delivers

/-- It mends the summary of the file, too. -/
theorem upsert_overwriteName (tables : database.store? = some store) (willing : database.Willing)
    (delivers : ∃ result ∈ results, result.filePath.spelling = path) (text : String) :
    (database.overwriteCode path text).2.upsert results = database.upsert results ∧
      (database.overwriteStage path text).2.upsert results = database.upsert results :=
  ⟨upsert_changeSummary tables willing delivers fun _ => rfl,
    upsert_changeSummary tables willing delivers fun _ => rfl⟩

/-- One value that cannot be read is enough. -/
theorem exists_mapM_eq_error {ε α β : Type} {reader : α → Except ε β} {values : List α} {a : α}
    {error : ε} (mem : a ∈ values) (fails : reader a = .error error) :
    ∃ b ∈ values, ∃ error, reader b = .error error ∧ values.mapM reader = .error error := by
  induction values with
  | nil => cases mem
  | cons first values induction =>
      cases read : reader first with
      | error error =>
          exact ⟨first, List.mem_cons_self, error, read, by rw [List.mapM_cons, read]; rfl⟩
      | ok _ =>
          have behind : a ∈ values := by
            rcases List.mem_cons.1 mem with rfl | behind
            · cases read.symm.trans fails
            · exact behind
          obtain ⟨b, there, error, refused, whole⟩ := induction behind
          exact ⟨b, List.mem_cons_of_mem _ there, error, refused,
            by rw [List.mapM_cons, read, whole]; rfl⟩

/-- Cells that cannot be read are found out, -/
theorem loadRows_overwriteCells {rows : List StoredRow} (table : database.rows = some rows)
    (held : ∃ row ∈ rows, row.filePath = path)
    (unreadable : (Json.read text).bind (Json.toList? Cell.ofJson?) = none) :
    (database.overwriteCells path text).2.loadRows = .error .malformedCells := by
  obtain ⟨row, mem, about⟩ := held
  have refused : readRow { row with cells := text } = .error .malformedCells := by
    rw [readRow, StoredRow.toRow?, unreadable]
    rfl
  have stands : { row with cells := text } ∈ (rows.map fun row =>
      if row.filePath == path then { row with cells := text } else row).mergeSort
        StoredRow.ranked := by
    rw [List.mem_mergeSort]
    exact List.mem_map.2 ⟨row, mem, if_pos (beq_iff_eq.2 about)⟩
  obtain ⟨other, -, error, fails, whole⟩ := exists_mapM_eq_error stands refused
  have same : error = .malformedCells := by
    unfold readRow at fails
    split at fails <;> cases fails
    rfl
  rw [overwriteCells, table]
  exact same ▸ whole

/-- but the rows are as many as before; -/
theorem countRows_overwriteCells (database : Database) (path text : String) :
    (database.overwriteCells path text).2.countRows = database.countRows := by
  unfold overwriteCells
  split
  · rfl
  · next rows found =>
      rw [countRows, rowTable, countRows, rowTable, found]
      exact congrArg Except.ok (List.length_map _)

theorem loadSummaries_changeSummary {summaries : List StoredSummary}
    (table : database.summaries = some summaries) {change : StoredSummary → StoredSummary}
    (held : ∃ summary ∈ summaries, summary.filePath = path)
    (unreadable : ∀ summary, ∃ error, readSummary (change summary) = .error error) :
    ∃ error, (database.changeSummary path change).2.loadSummaries = .error error := by
  obtain ⟨summary, mem, about⟩ := held
  obtain ⟨error, refused⟩ := unreadable summary
  have stands : change summary ∈ (summaries.map fun summary =>
      if summary.filePath == path then change summary else summary).mergeSort
        StoredSummary.ranked := by
    rw [List.mem_mergeSort]
    exact List.mem_map.2 ⟨summary, mem, if_pos (beq_iff_eq.2 about)⟩
  obtain ⟨-, -, error, -, whole⟩ := exists_mapM_eq_error stands refused
  rw [changeSummary, table]
  exact ⟨error, whole⟩

/-- names that no code and no stage has are found out, too. -/
theorem loadSummaries_overwriteName {summaries : List StoredSummary}
    (table : database.summaries = some summaries)
    (held : ∃ summary ∈ summaries, summary.filePath = path) :
    (ErrorCode.ofName? text = none →
        ∃ error, (database.overwriteCode path text).2.loadSummaries = .error error) ∧
      (Stage.ofName? text = none →
        ∃ error, (database.overwriteStage path text).2.loadSummaries = .error error) := by
  refine ⟨fun unknown => ?_, fun unknown => ?_⟩
  · refine loadSummaries_changeSummary table held fun summary => ?_
    unfold readSummary
    cases summary.failingStage.mapM readStage with
    | error error => exact ⟨error, rfl⟩
    | ok stage =>
        refine ⟨.invalidName "ErrorCode" text, ?_⟩
        rw [show readCode text = .error (.invalidName "ErrorCode" text) by rw [readCode, unknown]]
        rfl
  · refine loadSummaries_changeSummary table held fun summary => ⟨.invalidName "Stage" text, ?_⟩
    have stage : readStage text = .error (.invalidName "Stage" text) := by rw [readStage, unknown]
    rw [readSummary, Option.mapM_some, stage]
    rfl

/-! ## Tables -/

/-- A table that was removed is not there, and all others are as they were. -/
theorem hasTable_dropTable (database : Database) (table other : DatabaseTable) :
    (database.dropTable table).2.hasTable other = (database.hasTable other && other != table) := by
  unfold dropTable
  split
  · cases table <;> cases other <;> simp [hasTable]
  · next missing =>
      by_cases same : other = table
      · subst same
        simpa using missing
      · simp [same]

theorem store?_eq_none_of_dropTable {table : DatabaseTable} (kept : table ≠ .version) :
    (database.dropTable table).2.store? = none := by
  have gone := hasTable_dropTable database table table
  rw [bne_self_eq_false, Bool.and_false] at gone
  cases found : (database.dropTable table).2.store? with
  | none => rfl
  | some store =>
      obtain ⟨rows, summaries⟩ := store?_eq_some.1 found
      cases table with
      | version => exact absurd rfl kept
      | rows => simp [hasTable, rows] at gone
      | summaries => simp [hasTable, summaries] at gone

/-- A database that lacks one of its tables takes no results, and the others stay as they are. -/
theorem upsert_dropTable {table : DatabaseTable} (kept : table ≠ .version)
    (some_ : results ≠ []) :
    (database.dropTable table).2.upsert results =
      (.error .refused,
        { (database.dropTable table).2 with
          refusals := (database.dropTable table).2.refusals.tail }) := by
  have missing := @store?_eq_none_of_dropTable database table kept
  unfold upsert
  dsimp only
  split
  · rfl
  · rw [if_neg (by rwa [List.isEmpty_iff]), missing]

/-- A database that has lost the record of its version is as it was once it is opened again, -/
theorem migrate_dropTable_version (versioned : database.versioned = true)
    (tables : database.store? = some store) :
    (database.dropTable .version).2.migrate = database := by
  obtain ⟨rows, summaries⟩ := store?_eq_some.1 tables
  have there : database.hasTable .version = true := versioned
  rw [dropTable, if_pos there, migrate]
  cases database
  simp_all

/-- and whatever else one has lost that has the record stays lost. -/
theorem migrate_dropTable {table : DatabaseTable} (kept : table ≠ .version)
    (versioned : database.versioned = true) :
    (database.dropTable table).2.migrate = (database.dropTable table).2 := by
  have stays : (database.dropTable table).2.versioned = true := by
    have same := hasTable_dropTable database table .version
    rw [bne_iff_ne.2 kept.symm, Bool.and_true] at same
    exact same.trans versioned
  rw [migrate, if_pos stays]

end Database

end PartsList
