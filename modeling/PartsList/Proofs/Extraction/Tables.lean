import Mathlib.Data.List.Forall2
import PartsList.Proofs.Extraction.Columns
import PartsList.Proofs.Extraction.Grouping
import PartsList.Proofs.Extraction.Outcomes
import PartsList.Proofs.Store.Delivery

/-!
# Tables in results

A result with rows holds the tables of the pages of its document, one behind the other.  The rows of
a table have the same headers and are counted from zero on, so that no two rows of a result have the
same key in the store, unless two pages of the document have the same number.
-/

namespace PartsList

/-- The rows are those of a table with the given headers on a page of a file. -/
structure IsTable (path : Path) (page : Nat) (headers : List String) (rows : List Row) : Prop where
  /-- They say which file they are from, -/
  file : ∀ row ∈ rows, row.filePath = path ∧ row.fileName = path.fileName
  /-- and which page. -/
  page : ∀ row ∈ rows, row.page = page
  /-- They are counted from zero on. -/
  counted : rows.map Row.rowIndex = List.range rows.length
  /-- They have a cell for each header, in the order of the headers, -/
  headed : ∀ row ∈ rows, row.headers = headers
  /-- and something in one of their cells. -/
  filled : ∀ row ∈ rows, ∃ cell ∈ row.cells, cell.value ≠ ""

theorem headers_zipWith {headers values : List String} (long : values.length = headers.length) :
    (List.zipWith Cell.mk headers values).map Cell.header = headers := by
  rw [List.map_zipWith]
  exact List.ext_getElem (by simp [long]) fun index _ _ => List.getElem_zipWith

theorem exists_cell_zipWith {headers values : List String} (long : values.length = headers.length)
    {value : String} (mem : value ∈ values) :
    ∃ cell ∈ List.zipWith Cell.mk headers values, cell.value = value := by
  obtain ⟨index, inside, rfl⟩ := List.getElem_of_mem mem
  refine ⟨⟨headers[index], values[index]⟩, ?_, rfl⟩
  refine List.mem_iff_getElem.2 ⟨index, by simp [List.length_zipWith, ← long, inside], ?_⟩
  exact List.getElem_zipWith

theorem Pipeline.isTable_tableRows (path : Path) (page : Nat) {table : MappedTable}
    (filled : table.IsFilled) : IsTable path page table.headers (tableRows path page table) where
  file := by
    intro row mem
    obtain ⟨index, inside, rfl⟩ := List.mem_mapIdx.1 mem
    exact ⟨rfl, rfl⟩
  page := by
    intro row mem
    obtain ⟨index, inside, rfl⟩ := List.mem_mapIdx.1 mem
    rfl
  counted := List.ext_getElem (by simp) fun index _ _ => by simp [tableRows]
  headed := by
    intro row mem
    obtain ⟨index, inside, rfl⟩ := List.mem_mapIdx.1 mem
    exact headers_zipWith (filled _ (List.getElem_mem inside)).1
  filled := by
    intro row mem
    obtain ⟨index, inside, rfl⟩ := List.mem_mapIdx.1 mem
    obtain ⟨long, value, there, some⟩ := filled _ (List.getElem_mem inside)
    obtain ⟨cell, cells, same⟩ := exists_cell_zipWith long there
    exact ⟨cell, cells, same ▸ some⟩

theorem Pipeline.isFilled_readTable (layout : Layout) (anchor : Anchor) (region : TableRegion) :
    (readTable layout anchor region).IsFilled := by
  unfold readTable
  split
  · exact fun _ mem => nomatch mem
  · exact MappedTable.isFilled_mapColumns _ _ _

/-- The rows that a page adds to those of its document. -/
inductive PageYields (layout : Layout) (path : Path) (page : Page Coordinate) : List Row → Prop
  /-- None, for a page without the anchor. -/
  | unanchored (absent : Anchor.find? page layout.anchorText = none) :
      PageYields layout path page []
  /-- None, for a page whose region is not found. -/
  | unresolved {anchor : Anchor} {error : BoundaryError}
      (found : Anchor.find? page layout.anchorText = some anchor)
      (failed : TableRegion.resolve page anchor layout = .error error) :
      PageYields layout path page []
  /-- The rows of the table. -/
  | table {anchor : Anchor} {region : TableRegion} {rows : List Row}
      (found : Anchor.find? page layout.anchorText = some anchor)
      (resolved : TableRegion.resolve page anchor layout = .ok region)
      (isTable : IsTable path page.number (Pipeline.readTable layout anchor region).headers rows) :
      PageYields layout path page rows

namespace PageYields

variable {layout : Layout} {path : Path} {page : Page Coordinate} {rows : List Row}

theorem filePath (yields : PageYields layout path page rows) :
    ∀ row ∈ rows, row.filePath = path := by
  cases yields with
  | unanchored | unresolved => exact fun _ mem => nomatch mem
  | table _ _ isTable => exact fun row mem => (isTable.file row mem).1

theorem page_eq (yields : PageYields layout path page rows) :
    ∀ row ∈ rows, row.page = page.number := by
  cases yields with
  | unanchored | unresolved => exact fun _ mem => nomatch mem
  | table _ _ isTable => exact isTable.page

/-- No two rows of a page have the same place. -/
theorem pairwise (yields : PageYields layout path page rows) :
    rows.Pairwise fun row other => row.samePlace other = false := by
  cases yields with
  | unanchored | unresolved => exact List.Pairwise.nil
  | table _ _ isTable =>
      have counted : (rows.map Row.rowIndex).Nodup := isTable.counted ▸ List.nodup_range
      refine (List.pairwise_map.1 counted).imp fun {row other} apart => ?_
      exact Bool.and_eq_false_iff.2 (Or.inr (beq_eq_false_iff_ne.2 apart))

end PageYields

namespace Pipeline

theorem extractPage_eq {layout : Layout} {path : Path} {page : Page Coordinate} {anchor : Anchor}
    {region : TableRegion} (found : Anchor.find? page layout.anchorText = some anchor)
    (resolved : TableRegion.resolve page anchor layout = .ok region) :
    extractPage layout path page =
      .rows (tableRows path page.number (readTable layout anchor region)) := by
  unfold extractPage
  rw [found]
  dsimp only
  rw [resolved]

theorem extractPage_of_readTable {layout : Layout} {path : Path} {page : Page Coordinate}
    {anchor : Anchor} {region : TableRegion} {headers : List String} {values : List (List String)}
    (found : Anchor.find? page layout.anchorText = some anchor)
    (resolved : TableRegion.resolve page anchor layout = .ok region)
    (titles : (readTable layout anchor region).headers = headers)
    (rows : (readTable layout anchor region).rows = values) :
    extractPage layout path page = .rows (tableRows path page.number ⟨headers, values, 0⟩) := by
  rw [extractPage_eq found resolved, tableRows, titles, rows]
  rfl

/-- The rows of a document are the tables of its pages. -/
theorem exists_tables (layout : Layout) (path : Path) (pages : List (Page Coordinate)) :
    ∃ tables, List.Forall₂ (PageYields layout path) pages tables ∧
      PageOutcomes.allRows (pages.map (extractPage layout path)) = tables.flatten := by
  induction pages with
  | nil => exact ⟨[], List.Forall₂.nil, rfl⟩
  | cons page pages induction =>
      obtain ⟨tables, yields, joined⟩ := induction
      unfold PageOutcomes.allRows at joined ⊢
      rw [List.map_cons, List.flatMap_cons, joined]
      unfold extractPage
      cases found : Anchor.find? page layout.anchorText with
      | none => exact ⟨[] :: tables, .cons (.unanchored found) yields, rfl⟩
      | some anchor =>
          dsimp only
          cases resolved : TableRegion.resolve page anchor layout with
          | error error => exact ⟨[] :: tables, .cons (.unresolved found resolved) yields, rfl⟩
          | ok region =>
              refine ⟨_ :: tables, .cons (.table found resolved ?_) yields, rfl⟩
              exact isTable_tableRows path page.number (isFilled_readTable layout anchor region)

section Tables

variable {layout : Layout} {path : Path} {pages : List (Page Coordinate)}
  {tables : List (List Row)}

theorem filePath_of_yields (yields : List.Forall₂ (PageYields layout path) pages tables) :
    ∀ row ∈ tables.flatten, row.filePath = path := by
  induction yields with
  | nil => exact fun _ mem => nomatch mem
  | cons first _ induction =>
      intro row mem
      rw [List.flatten_cons, List.mem_append] at mem
      exact mem.elim (first.filePath row) (induction row)

theorem page_of_yields (yields : List.Forall₂ (PageYields layout path) pages tables) :
    ∀ row ∈ tables.flatten, row.page ∈ pages.map (·.number) := by
  induction yields with
  | nil => exact fun _ mem => nomatch mem
  | cons first _ induction =>
      intro row mem
      rw [List.flatten_cons, List.mem_append] at mem
      rcases mem with mem | mem
      · exact first.page_eq row mem ▸ List.mem_cons_self
      · exact List.mem_cons_of_mem _ (induction row mem)

/-- The rows of pages with different numbers have different places. -/
theorem pairwise_of_yields (yields : List.Forall₂ (PageYields layout path) pages tables)
    (apart : (pages.map (·.number)).Nodup) :
    tables.flatten.Pairwise fun row other => row.samePlace other = false := by
  induction yields with
  | nil => exact List.Pairwise.nil
  | @cons page rows pages tables first rest induction =>
      obtain ⟨fresh, apart⟩ := List.nodup_cons.1 apart
      rw [List.flatten_cons]
      refine List.pairwise_append.2 ⟨first.pairwise, induction apart, ?_⟩
      intro row mem other later
      refine Bool.and_eq_false_iff.2 (Or.inl (beq_eq_false_iff_ne.2 fun same => fresh ?_))
      have there := page_of_yields rest other later
      rwa [← same, first.page_eq row mem] at there

end Tables

/-- The rows that a document yields are those of its pages. -/
theorem exists_tables_of_extractDocument {layout : Layout} {path : Path} {document : Document}
    {rows : List Row} (extracted : extractDocument layout path document = .ok rows) :
    ∃ tables, List.Forall₂ (PageYields layout path) document.readablePages tables ∧
      rows = tables.flatten := by
  obtain ⟨tables, yields, joined⟩ := exists_tables layout path document.readablePages
  exact ⟨tables, yields, (extractDocument_ok extracted).1.trans joined⟩

end Pipeline

/-- Rows with different places have different keys. -/
theorem StoredRow.sameKey_eq_false {row other : Row} (apart : row.samePlace other = false) :
    (ofRow row).sameKey (ofRow other) = false := by
  unfold sameKey
  rw [Bool.and_assoc]
  exact Bool.and_eq_false_iff.2 (Or.inr apart)

/-- Whatever the state of a file and the answer of the engine, the result is a failure that is told
in full, or a success that holds the tables of the document's readable pages in their order, with
different keys in the store if the pages have different numbers. -/
theorem results_shaped (pipeline : Pipeline) (path : Path) (status : Except OsError FileStatus)
    (answer : Except EngineError Document) :
    (pipeline.process path status answer).IsFailure ∨
      (pipeline.process path status answer).IsSuccess ∧
        ∃ document tables, answer = .ok document ∧
          List.Forall₂ (PageYields pipeline.layout path) document.readablePages tables ∧
          (pipeline.process path status answer).rows = tables.flatten ∧
          ((document.readablePages.map (·.number)).Nodup →
            ((pipeline.process path status answer).rows.map StoredRow.ofRow).Pairwise
              fun row other => row.sameKey other = false) := by
  rcases pipeline.process_cases path status answer with failure | ⟨success, document, opened, rows⟩
  · exact Or.inl failure
  · obtain ⟨tables, yields, joined⟩ := Pipeline.exists_tables_of_extractDocument rows
    refine Or.inr ⟨success, document, tables, opened, yields, joined, fun apart => ?_⟩
    rw [joined]
    refine List.pairwise_map.2 ((Pipeline.pairwise_of_yields yields apart).imp ?_)
    exact StoredRow.sameKey_eq_false

/-! ## A document of two pages -/

/-- A header of two columns, one row of values and the closing label. -/
def smallSpans : List (Span Coordinate) :=
  [⟨"PT NO", ⟨50, 100, 80, 110⟩⟩, ⟨"QTY", ⟨220, 100, 240, 110⟩⟩, ⟨"7", ⟨60, 120, 70, 130⟩⟩,
    ⟨"CUT PIPE LENGTH", ⟨55, 140, 145, 150⟩⟩]

/-- A page with a small table. -/
def smallPage (number : Nat) : Page Coordinate := ⟨number, 612, 792, smallSpans⟩

/-- The row of the small table. -/
def smallTableRow (number : Nat) : Row where
  fileName := "a"
  filePath := ⟨"a"⟩
  page := number
  rowIndex := 0
  cells := [⟨"PT NO", "7"⟩, ⟨"QTY", ""⟩]

/-- Two pages with small tables, and one between them that cannot be read. -/
def smallDocument : Document :=
  ⟨[.ok (smallPage 1), .error .encrypted, .ok (smallPage 2)]⟩

theorem groupRows_smallSpans :
    groupRows smallSpans 3 = [smallSpans.take 2, [smallSpans[2]], [smallSpans[3]]] :=
  (groupRows_of_sorted (by decide +kernel) rfl (by decide +kernel) (by decide +kernel)).trans
    (by decide +kernel)

theorem readTable_smallSpans {anchor : Anchor} {region : TableRegion}
    (box : anchor.box = ⟨50, 100, 80, 110⟩) (spans : region.spans = smallSpans) :
    (Pipeline.readTable {} anchor region).headers = ["PT NO", "QTY"] ∧
      (Pipeline.readTable {} anchor region).rows = [["7", ""]] := by
  have headed : Pipeline.fromHeader anchor (groupRows region.spans 3) =
      [smallSpans.take 2, [smallSpans[2]], [smallSpans[3]]] := by
    rw [spans, groupRows_smallSpans, Pipeline.fromHeader, box]
    decide +kernel
  have left : fromLeft (smallSpans.take 2) = smallSpans.take 2 :=
    fromLeft_of_sorted (by decide +kernel)
  have alone : fromLeft [smallSpans[2]] = [smallSpans[2]] := List.mergeSort_singleton _
  have data : dataRows (ColumnRules.ofLayout {}) [[smallSpans[2]], [smallSpans[3]]] =
      [[smallSpans[2]]] := by decide +kernel
  unfold Pipeline.readTable
  rw [headed]
  dsimp only
  unfold mapColumns
  rw [left, data]
  simp only [List.map_cons, List.map_nil, placeRow, alone]
  decide +kernel

/-- A region is resolved if its texts are known. -/
theorem TableRegion.exists_region {page : Page Coordinate} {anchor : Anchor} {layout : Layout}
    {spans : List (Span Coordinate)}
    (resolved : (resolve page anchor layout).toOption.map (·.spans) = some spans) :
    ∃ region, resolve page anchor layout = .ok region ∧ region.spans = spans := by
  obtain ⟨region, inside, same⟩ := Option.map_eq_some_iff.1 resolved
  refine ⟨region, ?_, same⟩
  cases outcome : resolve page anchor layout with
  | error error =>
      rw [outcome] at inside
      cases inside
  | ok other =>
      rw [outcome] at inside
      exact congrArg Except.ok (Option.some.inj inside)

deriving instance DecidableEq for Anchor

/-- The anchor of the small table. -/
def smallAnchor (number : Nat) : Anchor := ⟨⟨50, 100, 80, 110⟩, number, 1, 0⟩

theorem extractPage_smallPage {number : Nat}
    (found : Anchor.find? (smallPage number) "PT NO" = some (smallAnchor number))
    (resolved : (TableRegion.resolve (smallPage number) (smallAnchor number) {}).toOption.map
      (·.spans) = some smallSpans) :
    Pipeline.extractPage {} ⟨"a"⟩ (smallPage number) = .rows [smallTableRow number] := by
  obtain ⟨region, region_eq, spans⟩ := TableRegion.exists_region resolved
  obtain ⟨headers, rows⟩ := @readTable_smallSpans (smallAnchor number) region rfl spans
  exact @Pipeline.extractPage_of_readTable {} ⟨"a"⟩ (smallPage number) _ _ _ _ found region_eq
    headers rows

theorem process_smallDocument :
    Pipeline.process ⟨{}, 9, none⟩ ⟨"a"⟩ (.ok ⟨true, 1⟩) (.ok smallDocument) =
      .succeeded ⟨"a"⟩ [smallTableRow 1, smallTableRow 2] { sizeBytes := 1, pageCount := 3 } := by
  have first : Pipeline.extractPage {} ⟨"a"⟩ (smallPage 1) = .rows [smallTableRow 1] :=
    extractPage_smallPage (by decide +kernel) (by decide +kernel)
  have second : Pipeline.extractPage {} ⟨"a"⟩ (smallPage 2) = .rows [smallTableRow 2] :=
    extractPage_smallPage (by decide +kernel) (by decide +kernel)
  have readable : smallDocument.readablePages = [smallPage 1, smallPage 2] := rfl
  have extracted : Pipeline.extractDocument {} ⟨"a"⟩ smallDocument =
      .ok [smallTableRow 1, smallTableRow 2] := by
    unfold Pipeline.extractDocument
    rw [readable, List.map_cons, List.map_cons, first, second]
    rfl
  have passed : Pipeline.precheck ⟨{}, 9, none⟩ ⟨"a"⟩ (.ok ⟨true, 1⟩) = .ok 1 := rfl
  have checked : checkDocument 1 (.ok smallDocument) = (.passed 1 3, some smallDocument) := rfl
  unfold Pipeline.process Pipeline.finish
  rw [passed]
  dsimp only
  rw [checked]
  dsimp only
  rw [extracted]
  rfl

theorem results_shaped_small :
    ∃ rows, rows = (Pipeline.process ⟨{}, 9, none⟩ ⟨"a"⟩ (.ok ⟨true, 1⟩) (.ok smallDocument)).rows ∧
      rows = [smallTableRow 1, smallTableRow 2] ∧
      (rows.map StoredRow.ofRow).Pairwise fun row other => row.sameKey other = false := by
  rcases results_shaped ⟨{}, 9, none⟩ ⟨"a"⟩ (.ok ⟨true, 1⟩) (.ok smallDocument) with
    failure | ⟨-, document, tables, same, -, -, keys⟩
  · exact absurd failure.success (by rw [process_smallDocument]; decide)
  · refine ⟨_, rfl, by rw [process_smallDocument]; rfl, keys ?_⟩
    cases same
    decide

end PartsList
