import PartsList.Proofs.Export.Columns

/-!
# Records of an export

An export of rows reads back as its titles and one record for every row, whatever characters stand
in cells, headers and paths.  The titles behind the first four are the headers of all rows in the
order in which they occur first, and a record has the first value that its row has under each of
them.
-/

namespace PartsList

namespace Export

variable {rows : List Row} {row : Row}

/-! ## The order of the headers -/

/-- The headers stand in the order in which they occur first. -/
def InOrderOf (all headers : List String) : Prop :=
  headers.Pairwise fun first second => all.idxOf first < all.idxOf second

/-- The headers that are collected from the front stay in order: one that is new occurs first right
behind those that were looked at. -/
theorem inOrderOf_foldl (looked rest seen : List String)
    (members : ∀ header, header ∈ seen ↔ header ∈ looked)
    (ordered : InOrderOf (looked ++ rest) seen) :
    InOrderOf (looked ++ rest)
      (rest.foldl (fun seen header => if header ∈ seen then seen else seen ++ [header]) seen) := by
  induction rest generalizing looked seen with
  | nil => exact ordered
  | cons header rest induction =>
    have moved : looked ++ header :: rest = looked ++ [header] ++ rest := by simp
    rw [List.foldl_cons, moved]
    rw [moved] at ordered
    split
    · next known =>
      refine induction (looked ++ [header]) seen (fun other => ?_) ordered
      rw [members, List.mem_append, List.mem_singleton]
      exact ⟨.inl, fun or => or.elim id (· ▸ (members _).1 known)⟩
    · next new =>
      refine induction (looked ++ [header]) (seen ++ [header]) (fun other => ?_) ?_
      · rw [List.mem_append, List.mem_append, members]
      · refine List.pairwise_append.2 ⟨ordered, List.pairwise_singleton .., ?_⟩
        intro known mem last is
        obtain rfl := List.mem_singleton.1 is
        have before : known ∈ looked := (members known).1 mem
        have absent : last ∉ looked := fun there => new ((members last).2 there)
        rw [List.append_assoc, List.idxOf_append_of_mem before,
          List.idxOf_append_of_notMem absent]
        have inside := List.idxOf_lt_length_of_mem before
        omega

theorem inOrderOf_headerUnion (rows : List Row) :
    InOrderOf (rows.flatMap Row.headers) (headerUnion rows) :=
  inOrderOf_foldl [] _ [] (fun _ => Iff.rfl) List.Pairwise.nil

/-! ## What the records say -/

/-- The first value that a row has under a header, and nothing if it has none. -/
def firstValue (row : Row) (header : String) : String :=
  ((row.cells.find? (·.header == header)).map Cell.value).getD ""

theorem length_rowRecord (headers : List String) (row : Row) :
    (rowRecord headers row).length = 4 + headers.length := by
  simp [rowRecord]
  omega

theorem take_rowRecord (headers : List String) (row : Row) :
    (rowRecord headers row).take 4 =
      [row.filePath.spelling, row.fileName, toString row.page, toString row.rowIndex] := rfl

theorem getElem?_rowRecord_add {headers : List String} {place : Nat} {header : String}
    (title : headers[place]? = some header) :
    (rowRecord headers row)[4 + place]? = some (firstValue row header) := by
  have front : 4 =
      [row.filePath.spelling, row.fileName, toString row.page, toString row.rowIndex].length := rfl
  rw [rowRecord, front, List.getElem?_append_right (Nat.le_add_right ..), Nat.add_sub_cancel_left,
    List.getElem?_map, title]
  rfl

/-- The headers and the records say what the rows hold. -/
structure Tells (headers : List String) (records : List (List String)) (rows : List Row) :
    Prop where
  /-- No header is listed twice. -/
  distinct : headers.Nodup
  /-- Every header of a row is listed, and nothing else. -/
  members : ∀ header, header ∈ headers ↔ ∃ row ∈ rows, header ∈ row.headers
  /-- They stand in the order in which they occur first. -/
  ordered : InOrderOf (rows.flatMap Row.headers) headers
  /-- There are as many records as rows. -/
  count : records.length = rows.length
  /-- All records have the same number of fields. -/
  width : ∀ record ∈ records, record.length = 4 + headers.length
  /-- A row's record has its path, name, page and position in front. -/
  front : ∀ (place : Nat) (row : Row) (record : List String),
    rows[place]? = some row → records[place]? = some record →
      record.take 4 =
        [row.filePath.spelling, row.fileName, toString row.page, toString row.rowIndex]
  /-- It has the first value under each header in the header's column. -/
  cells : ∀ (place : Nat) (row : Row) (record : List String),
    rows[place]? = some row → records[place]? = some record →
      ∀ (column : Nat) (header : String), headers[column]? = some header →
        record[4 + column]? = some (firstValue row header)

theorem tells_rowRecords (rows : List Row) :
    Tells (headerUnion rows) (rows.map (rowRecord (headerUnion rows))) rows where
  distinct := nodup_headerUnion rows
  members _ := mem_headerUnion
  ordered := inOrderOf_headerUnion rows
  count := List.length_map ..
  width record mem := by
    obtain ⟨row, -, rfl⟩ := List.mem_map.1 mem
    exact length_rowRecord ..
  front place row record atRow atRecord := by
    rw [List.getElem?_map, atRow, Option.map_some] at atRecord
    obtain rfl := Option.some.inj atRecord
    exact take_rowRecord ..
  cells place row record atRow atRecord column header title := by
    rw [List.getElem?_map, atRow, Option.map_some] at atRecord
    obtain rfl := Option.some.inj atRecord
    exact getElem?_rowRecord_add title

/-- An export of rows reads back as one line of titles and one record for every row, which say what
the rows hold. -/
theorem exported_rows_read_back {path : Path} {disk after : Disk}
    (written : writeRows path rows disk = (.ok (), after)) :
    ∃ bytes text headers records,
      after.bytesAt path = .ok bytes ∧ Disk.textOf? bytes = some text ∧
      Csv.read text =
        (["source_path", "file_name", "page", "row_index"] ++ headers) :: records ∧
      Tells headers records rows :=
  ⟨_, _, _, _, bytesAt_of_writeRecords written, Disk.textOf?_bytesOf _, read_rowRecords rows,
    tells_rowRecords rows⟩

/-- Rows of a file whose name, headers and cells hold commas, quotes, line ends and blanks. -/
def awkward : List Row :=
  [{ filePath := ⟨"d/a,\"b\".pdf"⟩, fileName := "a,\"b\".pdf", page := 1, rowIndex := 0
     cells := [⟨"PT, NO", " 1 "⟩, ⟨"QTY\r\n", "\""⟩, ⟨"PT, NO", "lost"⟩] },
   { filePath := ⟨"d/a,\"b\".pdf"⟩, fileName := "a,\"b\".pdf", page := 2, rowIndex := 1
     cells := [⟨"", ",\r"⟩, ⟨"QTY\r\n", "2\n3"⟩] }]

theorem awkward_read_back : ∃ after bytes text headers records,
    writeRows ⟨"rows.csv"⟩ awkward {} = (.ok (), after) ∧
    after.bytesAt ⟨"rows.csv"⟩ = .ok bytes ∧ Disk.textOf? bytes = some text ∧
    Csv.read text =
      (["source_path", "file_name", "page", "row_index"] ++ headers) :: records ∧
    records.length = 2 ∧ "PT, NO" ∈ headers := by
  have granted : (writeRows ⟨"rows.csv"⟩ awkward {}).1 = .ok () := by decide +kernel
  rcases written : writeRows ⟨"rows.csv"⟩ awkward {} with ⟨answer, after⟩
  rw [written] at granted
  obtain rfl : answer = .ok () := granted
  obtain ⟨bytes, text, headers, records, there, reads, read, tells⟩ :=
    exported_rows_read_back written
  refine ⟨after, bytes, text, headers, records, rfl, there, reads, read, tells.count, ?_⟩
  exact (tells.members _).2 (by decide)

end Export

end PartsList
