import Mathlib.Data.List.Forall2
import Mathlib.Data.List.Nodup
import PartsList.Export
import PartsList.Proofs.Csv.RoundTrip
import PartsList.Proofs.Disk.Opening
import PartsList.Proofs.Text.Utf8

/-!
# Cells in an export

The columns of an export behind the first four have different titles, and every header of every row
is one of them.  So a row has one column for all cells under one header, where the first of them is
written: the cells of a row are all in its record exactly if no header stands over two of them.
-/

namespace PartsList

/-- Every cell is found under its header if no header occurs twice. -/
theorem Row.get?_header {row : Row} {cell : Cell} (nodup : row.headers.Nodup)
    (mem : cell ∈ row.cells) : row.get? cell.header = some cell.value := by
  obtain ⟨found, find⟩ : ∃ found, row.cells.find? (·.header == cell.header) = some found :=
    Option.isSome_iff_exists.1 (List.find?_isSome.2 ⟨cell, mem, by simp⟩)
  have header : found.header = cell.header := by simpa using List.find?_some find
  have same : found = cell :=
    List.inj_on_of_nodup_map nodup (List.mem_of_find?_eq_some find) mem header
  rw [Row.get?, find, Option.map_some, same]

namespace Export

variable {rows : List Row} {row : Row} {titles : List String} {record : List String}

/-! ## Titles -/

theorem headerUnion_induction (headers seen : List String) (nodup : seen.Nodup) :
    (headers.foldl (fun seen header => if header ∈ seen then seen else seen ++ [header])
        seen).Nodup ∧
      ∀ header, header ∈ headers.foldl
        (fun seen header => if header ∈ seen then seen else seen ++ [header]) seen ↔
          header ∈ seen ∨ header ∈ headers := by
  induction headers generalizing seen with
  | nil => exact ⟨nodup, by simp⟩
  | cons first rest induction =>
    rw [List.foldl_cons]
    split
    · next known =>
      obtain ⟨apart, members⟩ := induction seen nodup
      refine ⟨apart, fun header => ?_⟩
      rw [members, List.mem_cons, ← or_assoc, or_congr_left]
      exact ⟨.inl, fun or => or.elim id (· ▸ known)⟩
    · next new =>
      have extended : (seen ++ [first]).Nodup :=
        List.nodup_append.2 ⟨nodup, by simp, by grind⟩
      obtain ⟨apart, members⟩ := induction (seen ++ [first]) extended
      refine ⟨apart, fun header => ?_⟩
      rw [members, List.mem_append, List.mem_singleton, List.mem_cons, or_assoc]

theorem nodup_headerUnion (rows : List Row) : (headerUnion rows).Nodup :=
  (headerUnion_induction _ [] List.nodup_nil).1

theorem mem_headerUnion {header : String} :
    header ∈ headerUnion rows ↔ ∃ row ∈ rows, header ∈ row.headers := by
  rw [headerUnion, (headerUnion_induction _ [] List.nodup_nil).2]
  simp

/-! ## Columns -/

/-- The column is one of those behind the first four, and has the title. -/
def Titled (titles : List String) (title : String) (column : Nat) : Prop :=
  rowTitles.length ≤ column ∧ titles[column]? = some title

theorem titled_rowRecords {header : String} {column : Nat} :
    Titled (rowTitles ++ headerUnion rows) header column ↔
      ∃ place, column = rowTitles.length + place ∧ (headerUnion rows)[place]? = some header := by
  constructor
  · rintro ⟨behind, title⟩
    rw [List.getElem?_append_right behind] at title
    exact ⟨column - rowTitles.length, by omega, title⟩
  · rintro ⟨place, rfl, title⟩
    refine ⟨Nat.le_add_right .., ?_⟩
    rw [List.getElem?_append_right (Nat.le_add_right ..), Nat.add_sub_cancel_left]
    exact title

/-- No two of the columns behind the first four have the same title. -/
theorem Titled.unique {header : String} {column other : Nat}
    (titled : Titled (rowTitles ++ headerUnion rows) header column)
    (titled' : Titled (rowTitles ++ headerUnion rows) header other) : column = other := by
  obtain ⟨place, rfl, title⟩ := titled_rowRecords.1 titled
  obtain ⟨place', rfl, title'⟩ := titled_rowRecords.1 titled'
  obtain ⟨there, -⟩ := List.getElem?_eq_some_iff.1 title
  rw [(List.getElem?_inj there (nodup_headerUnion rows)).1 (title.trans title'.symm)]

/-- Behind the first four columns a record has what its row has first under each header. -/
theorem getElem?_rowRecord {header value : String} {column : Nat}
    (titled : Titled (rowTitles ++ headerUnion rows) header column)
    (get : row.get? header = some value) :
    (rowRecord (headerUnion rows) row)[column]? = some value := by
  obtain ⟨place, rfl, title⟩ := titled_rowRecords.1 titled
  have front : rowTitles.length =
      [row.filePath.spelling, row.fileName, toString row.page, toString row.rowIndex].length := rfl
  rw [rowRecord, front, List.getElem?_append_right (Nat.le_add_right ..), Nat.add_sub_cancel_left,
    List.getElem?_map, title, Option.map_some, get, Option.getD_some]

theorem exists_titled {header : String} (mem : row ∈ rows) (of : header ∈ row.headers) :
    ∃ column, Titled (rowTitles ++ headerUnion rows) header column := by
  obtain ⟨place, title⟩ := List.mem_iff_getElem?.1 (mem_headerUnion.2 ⟨row, mem, of⟩)
  exact ⟨rowTitles.length + place, titled_rowRecords.2 ⟨place, rfl, title⟩⟩

/-! ## Cells -/

/-- The record has the value of each cell in a column with the header of the cell for a title, the
cells in different columns. -/
def HoldsAll (titles record : List String) (cells : List Cell) : Prop :=
  ∃ columns : List Nat, columns.Nodup ∧
    List.Forall₂ (fun cell column =>
      Titled titles cell.header column ∧ record[column]? = some cell.value) cells columns

/-- What the record of a row keeps of its cells. -/
structure IsRecordOf (titles record : List String) (row : Row) : Prop where
  /-- Each header is the title of one column, where the first value under it stands. -/
  first : ∀ header ∈ row.headers, ∃ column, Titled titles header column ∧
    record[column]? = row.get? header ∧ ∀ other, Titled titles header other → other = column
  /-- All cells are there exactly if their headers differ. -/
  all : HoldsAll titles record row.cells ↔ row.headers.Nodup

theorem isRecordOf_rowRecord (mem : row ∈ rows) :
    IsRecordOf (rowTitles ++ headerUnion rows) (rowRecord (headerUnion rows) row) row where
  first header of := by
    obtain ⟨column, titled⟩ := exists_titled mem of
    obtain ⟨cell, there, rfl⟩ := List.mem_map.1 of
    have find : (row.cells.find? (·.header == cell.header)).isSome :=
      List.find?_isSome.2 ⟨cell, there, by simp⟩
    obtain ⟨value, get⟩ : ∃ value, row.get? cell.header = some value := by
      obtain ⟨found, find⟩ := Option.isSome_iff_exists.1 find
      exact ⟨found.value, by rw [Row.get?, find, Option.map_some]⟩
    exact ⟨column, titled, (getElem?_rowRecord titled get).trans get.symm,
      fun other titled' => titled'.unique titled⟩
  all := by
    constructor
    · -- Two cells under one header would have the one column of that header.
      rintro ⟨columns, nodup, held⟩
      rw [List.Nodup, Row.headers, List.pairwise_map, List.pairwise_iff_getElem]
      intro i j hi hj less same
      have lengths := held.length_eq
      have at_i := (List.forall₂_iff_get.1 held).2 i hi (lengths ▸ hi)
      have at_j := (List.forall₂_iff_get.1 held).2 j hj (lengths ▸ hj)
      simp only [List.get_eq_getElem] at at_i at_j
      rw [← same] at at_j
      have columns_eq := at_i.1.unique at_j.1
      exact Nat.ne_of_lt less (nodup.getElem_inj_iff.1 columns_eq)
    · intro nodup
      choose! column titled using fun header (of : header ∈ row.headers) => exists_titled mem of
      refine ⟨row.headers.map column, ?_, ?_⟩
      · refine nodup.map_on fun header of other of' same => ?_
        have title := (titled header of).2
        rw [same, (titled other of').2] at title
        exact (Option.some.inj title).symm
      · rw [Row.headers, List.map_map, List.forall₂_map_right_iff, List.forall₂_same]
        intro cell there
        have titled := titled cell.header (List.mem_map_of_mem there)
        exact ⟨titled, getElem?_rowRecord titled (Row.get?_header nodup there)⟩

/-! ## Files -/

theorem read_rowRecords (rows : List Row) :
    Csv.read (Csv.write (rowRecords rows)) = rowRecords rows := by
  refine Csv.read_write fun fields mem => ?_
  rcases List.mem_cons.1 mem with rfl | mem
  · simp [Csv.Shows, rowTitles]
  · obtain ⟨row, -, rfl⟩ := List.mem_map.1 mem
    simp [Csv.Shows, rowRecord]

theorem bytesAt_of_writeRecords {path : Path} {records : List (List String)} {disk after : Disk}
    (written : writeRecords path records disk = (.ok (), after)) :
    after.bytesAt path = .ok (Disk.bytesOf (Csv.write records)) := by
  unfold writeRecords at written
  split at written
  · cases written
  · split at written
    · cases written
    · next wrote =>
      cases written
      exact Disk.bytesAt_of_writeFile wrote

/-- An export of rows has a record for every row.  The record has a column for each header of the
row, and keeps all cells exactly if no two of them are under the same header. -/
theorem cells_kept_iff {path : Path} {disk after : Disk}
    (written : writeRows path rows disk = (.ok (), after)) :
    ∃ bytes text titles records,
      after.bytesAt path = .ok bytes ∧ Disk.textOf? bytes = some text ∧
      Csv.read text = titles :: records ∧
      List.Forall₂ (fun row record => IsRecordOf titles record row) rows records := by
  refine ⟨_, _, _, _, bytesAt_of_writeRecords written, Disk.textOf?_bytesOf _,
    read_rowRecords rows, ?_⟩
  rw [List.forall₂_map_right_iff, List.forall₂_same]
  exact fun row => isRecordOf_rowRecord

/-- A row of a table in which two columns have the same header. -/
def twoQuantities : Row where
  filePath := ⟨"d/a.pdf"⟩
  fileName := "a.pdf"
  page := 1
  rowIndex := 0
  cells := [⟨"PT NO", "1"⟩, ⟨"QTY", "2"⟩, ⟨"QTY", "3"⟩]

/-- The second quantity is lost. -/
theorem second_quantity_lost : ∃ after bytes text titles record,
    writeRows ⟨"rows.csv"⟩ [twoQuantities] {} = (.ok (), after) ∧
    after.bytesAt ⟨"rows.csv"⟩ = .ok bytes ∧ Disk.textOf? bytes = some text ∧
    Csv.read text = [titles, record] ∧ ¬HoldsAll titles record twoQuantities.cells := by
  have granted : (writeRows ⟨"rows.csv"⟩ [twoQuantities] {}).1 = .ok () := by decide +kernel
  rcases written : writeRows ⟨"rows.csv"⟩ [twoQuantities] {} with ⟨answer, after⟩
  rw [written] at granted
  obtain rfl : answer = .ok () := granted
  obtain ⟨bytes, text, titles, records, there, reads, read, kept⟩ := cells_kept_iff written
  obtain ⟨record, others, isRecord, last, rfl⟩ := List.forall₂_cons_left_iff.1 kept
  obtain rfl := List.forall₂_nil_left_iff.1 last
  refine ⟨after, bytes, text, titles, record, rfl, there, reads, read, fun all => ?_⟩
  exact absurd (isRecord.all.1 all) (by decide)

end Export

end PartsList
