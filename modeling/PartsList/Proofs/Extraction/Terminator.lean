import PartsList.Proofs.Extraction.Region
import PartsList.Proofs.Text.Keyword

/-!
# The closing label and the end of the rows

The closing label bounds the region of the table, and its text lies in that region.  What ends the
rows are the keywords: no row of values comes from a row of texts that mentions one.  So the closing
label stays out of the values where a keyword covers it, as in the standard layout, and is a text
like any other where none does.
-/

namespace PartsList

/-! ## Texts in rows -/

theorem Text.ne_empty_of_mentions {text keyword : String} (some : keyword ≠ "")
    (mentioned : mentions text keyword = true) : text ≠ "" := by
  rintro rfl
  obtain ⟨left, word, right, split, folds, -⟩ := mentions_iff.1 mentioned
  obtain ⟨-, rest⟩ := List.append_eq_nil_iff.1 split.symm
  obtain ⟨rfl, -⟩ := List.append_eq_nil_iff.1 rest
  exact some (String.toList_eq_nil_iff.1 (List.map_eq_nil_iff.1 folds.symm))

/-- Each of some texts with single blanks between them stands between blanks, or at an end. -/
theorem Text.exists_between (texts others : List String) (text : String) :
    ∃ before after, (String.intercalate " " (texts ++ text :: others)).toList =
        before ++ (text.toList ++ after) ∧
      before.getLast?.any isWord = false ∧ after.head?.any isWord = false := by
  have blank : isWord ' ' = false := by decide
  obtain ⟨after, rest, right⟩ : ∃ after,
      (String.intercalate " " (text :: others)).toList = text.toList ++ after ∧
        after.head?.any isWord = false := by
    cases others with
    | nil => exact ⟨[], by simp, rfl⟩
    | cons other others =>
      refine ⟨' ' :: (String.intercalate " " (other :: others)).toList, ?_, blank⟩
      rw [String.intercalate_cons_cons]
      simp
  cases texts with
  | nil => exact ⟨[], after, rest, rfl, right⟩
  | cons first texts =>
    refine ⟨(String.intercalate " " (first :: texts)).toList ++ [' '], after, ?_, ?_, right⟩
    · rw [String.intercalate_append_of_ne_nil (by simp) (by simp), String.toList_append, rest]
      simp
    · simp [blank]

section Rows

variable {α : Type} {row : List (Span α)} {span : Span α}

/-- A row mentions what one of its texts mentions. -/
theorem mentions_rowText {keyword : String} (some : keyword ≠ "") (mem : span ∈ row)
    (mentioned : Text.mentions (Text.trim span.text) keyword = true) :
    Text.mentions (rowText row) keyword = true := by
  have there : Text.trim span.text ∈
      (row.map fun span => Text.trim span.text).filter (· ≠ "") :=
    List.mem_filter.2 ⟨List.mem_map.2 ⟨span, mem, rfl⟩,
      by simpa using Text.ne_empty_of_mentions some mentioned⟩
  obtain ⟨texts, others, split⟩ := List.append_of_mem there
  obtain ⟨before, after, parts, left, right⟩ :=
    Text.exists_between texts others (Text.trim span.text)
  rw [← split] at parts
  exact Text.mentions_of_between parts left right mentioned

end Rows

/-- A word that ends the table occurs in the text. -/
def Layout.Closes (layout : Layout) (text : String) : Prop :=
  (ColumnRules.ofLayout layout).terminates (Text.trim text) = true

instance (layout : Layout) (text : String) : Decidable (layout.Closes text) :=
  inferInstanceAs (Decidable (_ = true))

theorem terminates_rowText {layout : Layout} {row : List (Span Coordinate)} {span : Span Coordinate}
    (mem : span ∈ row) (closes : layout.Closes span.text) :
    (ColumnRules.ofLayout layout).terminates (rowText row) = true := by
  obtain ⟨keyword, of, mentioned⟩ := List.any_eq_true.1 closes
  have some : keyword ≠ "" := by simpa using (List.mem_filter.1 of).2
  exact List.any_eq_true.2 ⟨keyword, of, mentions_rowText some mem mentioned⟩

/-! ## The closing label -/

section Terminator

variable {layout : Layout} {page : Page Coordinate} {path : Path} {anchor : Anchor}
  {terminator : Span Coordinate} {rows : List Row} {region : TableRegion}
  {header : List (Span Coordinate)} {below : List (List (Span Coordinate))}

theorem TableRegion.normalize_terminator {secondary : Box Coordinate}
    (closing : terminator? page secondary layout = some terminator) :
    Text.normalize terminator.text = Text.normalize layout.terminator := by
  have found := List.find?_some closing
  simp only [isLabel, Bool.and_eq_true, beq_iff_eq] at found
  exact found.1.1

/-- A label of characters below 128 that holds a word that ends the table holds it however it is
written on the page. -/
theorem Layout.Closes.of_terminator {secondary : Box Coordinate}
    (closing : TableRegion.terminator? page secondary layout = some terminator)
    (small : ∀ c ∈ layout.terminator.toList, c.toNat < 128)
    (closes : layout.Closes layout.terminator) : layout.Closes terminator.text := by
  obtain ⟨keyword, of, mentioned⟩ := List.any_eq_true.1 closes
  exact List.any_eq_true.2 ⟨keyword, of, Text.mentions_of_normalize small
    (TableRegion.normalize_terminator closing) mentioned⟩

/-- The titles of rows are the headers, and their values are made of texts of rows of texts below
the headers. -/
structure Pipeline.MadeOf (layout : Layout) (rows : List Row) (header : List (Span Coordinate))
    (below sources : List (List (Span Coordinate))) : Prop where
  /-- The titles are the texts of the headers. -/
  headed : ∀ row ∈ rows, row.headers = (fromLeft header).map fun span => Text.trim span.text
  /-- Each row has a row of texts of its own below the headers, -/
  sublist : sources.Sublist below
  /-- which does not mention a word that ends the table. -/
  quiet : ∀ source ∈ sources, (ColumnRules.ofLayout layout).terminates (rowText source) = false
  /-- Each of its values is made of the texts of that row that belong to the column. -/
  values : rows.map (fun row => row.cells.map (·.value)) = sources.map fun source =>
    (List.range header.length).map fun column => joinTexts (cellSpans (ColumnRules.ofLayout layout)
      ((fromLeft header).map (·.box.centerX)) source column)

/-- No text of those rows holds a word that ends the table. -/
theorem Pipeline.MadeOf.not_closes {sources : List (List (Span Coordinate))}
    (madeOf : MadeOf layout rows header below sources) :
    ∀ source ∈ sources, ∀ span ∈ source, ¬layout.Closes span.text := by
  intro source mem span of closes
  have quiet := madeOf.quiet source mem
  rw [terminates_rowText of closes] at quiet
  cases quiet

theorem Pipeline.madeOf_tableRows {number : Nat}
    (rest : fromHeader anchor (groupRows region.spans layout.rowToleranceY) = header :: below) :
    MadeOf layout (tableRows path number (readTable layout anchor region)) header below
      (sourceRows (ColumnRules.ofLayout layout) ((fromLeft header).map (·.box.centerX)) below) := by
  have table : readTable layout anchor region =
      mapColumns (ColumnRules.ofLayout layout) header below := by
    rw [readTable, rest]
  have filled := MappedTable.isFilled_mapColumns (ColumnRules.ofLayout layout) header below
  rw [table]
  refine ⟨(isTable_tableRows path number filled).headed, sourceRows_sublist _ _ _, ?_, ?_⟩
  · intro source mem
    have before := List.mem_takeWhile_imp (List.mem_filter.1 mem).1
    simpa using before
  · rw [values_tableRows path number filled, rows_mapColumns]
    refine List.map_congr_left fun source _ => ?_
    rw [values_placeRow, List.length_map, (fromLeft_perm header).length_eq]

theorem Pipeline.exists_header (anchor : Anchor) {grouped : List (List (Span Coordinate))}
    (some : grouped ≠ []) : ∃ above header below, grouped = above ++ header :: below ∧
      fromHeader anchor grouped = header :: below := by
  rcases fromHeader_cases anchor grouped with ⟨above, header, below, split, rest, -⟩ | ⟨-, rest⟩
  · exact ⟨above, header, below, split, rest⟩
  · obtain ⟨header, below, split⟩ := List.exists_cons_of_ne_nil some
    exact ⟨[], header, below, split, rest.trans split⟩

/-- The values of a page are made of rows of texts that mention no word that ends the table.  So the
closing label that was found on the page is in none of them if it holds such a word, as it does
however it is written if the label of the layout, in characters below 128, holds one. -/
theorem closing_label_not_in_values
    (extracted : Pipeline.extractPage layout path page = .rows rows) :
    ∃ anchor region terminator above header below sources,
      Anchor.find? page layout.anchorText = some anchor ∧
      TableRegion.resolve page anchor layout = .ok region ∧
      TableRegion.terminator? page (TableRegion.secondaryBox page anchor.box layout) layout =
        some terminator ∧
      groupRows region.spans layout.rowToleranceY = above ++ header :: below ∧
      Pipeline.MadeOf layout rows header below sources ∧
      (layout.Closes terminator.text → ∀ source ∈ sources, ∀ span ∈ source,
        Text.trim span.text ≠ Text.trim terminator.text) ∧
      ((∀ c ∈ layout.terminator.toList, c.toNat < 128) → layout.Closes layout.terminator →
        layout.Closes terminator.text) := by
  unfold Pipeline.extractPage at extracted
  split at extracted
  · cases extracted
  next anchor found =>
  rcases TableRegion.resolve_cases page anchor layout with
    ⟨error, failed, -⟩ | ⟨region, terminator, suggested, tight, resolved, stems⟩
  · rw [failed] at extracted
    cases extracted
  rw [resolved] at extracted
  cases extracted
  obtain ⟨above, header, below, grouped, rest⟩ := Pipeline.exists_header anchor
    (groupRows_ne_nil stems.nonempty)
  have madeOf : Pipeline.MadeOf layout _ header below _ :=
    @Pipeline.madeOf_tableRows layout path anchor region header below page.number rest
  refine ⟨anchor, region, terminator, above, header, below, _, found, resolved, stems.closing,
    grouped, madeOf, fun closes source mem span of same => ?_, .of_terminator stems.closing⟩
  refine madeOf.not_closes source mem span of ?_
  rwa [Layout.Closes, same]

end Terminator

theorem closing_label_not_in_values_small :
    Pipeline.extractPage {} ⟨"a"⟩ (smallPage 1) = .rows [smallTableRow 1] ∧
    ∃ anchor terminator header below sources,
      Anchor.find? (smallPage 1) "PT NO" = some anchor ∧
      TableRegion.terminator? (smallPage 1)
        (TableRegion.secondaryBox (smallPage 1) anchor.box {}) {} = some terminator ∧
      Pipeline.MadeOf {} [smallTableRow 1] header below sources ∧
      Layout.Closes {} terminator.text ∧
      ∀ source ∈ sources, ∀ span ∈ source, Text.trim span.text ≠ Text.trim terminator.text := by
  have extracted : Pipeline.extractPage {} ⟨"a"⟩ (smallPage 1) = .rows [smallTableRow 1] :=
    extractPage_smallPage (by decide +kernel) (by decide +kernel)
  obtain ⟨anchor, region, terminator, above, header, below, sources, found, -, closing, -, madeOf,
    out, holds⟩ := closing_label_not_in_values extracted
  have closes : Layout.Closes {} terminator.text := holds (by simp) (by decide +kernel)
  exact ⟨extracted, anchor, terminator, header, below, sources, found, closing, madeOf, closes,
    out closes⟩

/-! ## Closing labels in cells -/

/-- A cell of a row of the page shows the text of the closing label that is found on the page. -/
def Pipeline.ShowsLabel (layout : Layout) (page : Page Coordinate) (shown : Cell → String) : Prop :=
  ∃ anchor region terminator path rows row cell,
    Anchor.find? page layout.anchorText = some anchor ∧
    TableRegion.resolve page anchor layout = .ok region ∧
    TableRegion.terminator? page (TableRegion.secondaryBox page anchor.box layout) layout =
      some terminator ∧
    extractPage layout path page = .rows rows ∧ row ∈ rows ∧ cell ∈ row.cells ∧
    shown cell = terminator.text

/-- A layout whose closing label holds none of the words that end the table. -/
def erectionLayout : Layout := { terminator := "ERECTION MATERIALS" }

/-- A small table above that label. -/
def erectionSpans : List (Span Coordinate) :=
  smallSpans.take 3 ++ [⟨"ERECTION MATERIALS", ⟨55, 140, 145, 150⟩⟩]

/-- A page with that table. -/
def erectionPage : Page Coordinate := ⟨1, 612, 792, erectionSpans⟩

theorem extractPage_erectionPage : ∃ region,
    TableRegion.resolve erectionPage (smallAnchor 1) erectionLayout = .ok region ∧
      Pipeline.extractPage erectionLayout ⟨"a"⟩ erectionPage =
        .rows [smallTableRow 1, { smallTableRow 1 with
          rowIndex := 1
          cells := [⟨"PT NO", "ERECTION MATERIALS"⟩, ⟨"QTY", ""⟩] }] := by
  have found : Anchor.find? erectionPage "PT NO" = some (smallAnchor 1) := by decide +kernel
  obtain ⟨region, resolved, spans⟩ : ∃ region,
      TableRegion.resolve erectionPage (smallAnchor 1) erectionLayout = .ok region ∧
        region.spans = erectionSpans :=
    TableRegion.exists_region (by decide +kernel)
  have grouped : groupRows erectionSpans 3 =
      [erectionSpans.take 2, [erectionSpans[2]], [erectionSpans[3]]] :=
    (groupRows_of_sorted (by decide +kernel) rfl (by decide +kernel) (by decide +kernel)).trans
      (by decide +kernel)
  have headed : Pipeline.fromHeader (smallAnchor 1) (groupRows region.spans 3) =
      [erectionSpans.take 2, [erectionSpans[2]], [erectionSpans[3]]] := by
    rw [spans, grouped, Pipeline.fromHeader]
    decide +kernel
  have left : fromLeft (erectionSpans.take 2) = erectionSpans.take 2 :=
    fromLeft_of_sorted (by decide +kernel)
  have alone (span : Span Coordinate) : fromLeft [span] = [span] := List.mergeSort_singleton _
  have data : dataRows (ColumnRules.ofLayout erectionLayout)
      [[erectionSpans[2]], [erectionSpans[3]]] = [[erectionSpans[2]], [erectionSpans[3]]] := by
    decide +kernel
  have table : (Pipeline.readTable erectionLayout (smallAnchor 1) region).headers =
        ["PT NO", "QTY"] ∧
      (Pipeline.readTable erectionLayout (smallAnchor 1) region).rows =
        [["7", ""], ["ERECTION MATERIALS", ""]] := by
    unfold Pipeline.readTable
    rw [show erectionLayout.rowToleranceY = 3 from rfl, headed]
    dsimp only
    unfold mapColumns
    rw [left, data]
    simp only [List.map_cons, List.map_nil, placeRow, alone]
    decide +kernel
  exact ⟨region, resolved,
    @Pipeline.extractPage_of_readTable erectionLayout ⟨"a"⟩ erectionPage _ _ _ _
    found resolved table.1 table.2⟩

/-- The texts of a table with the closing label on the line of the headers. -/
def titleSpans : List (Span Coordinate) :=
  [⟨"PT NO", ⟨50, 100, 80, 101⟩⟩, ⟨"QTY", ⟨220, 100, 240, 101⟩⟩,
    ⟨"CUT PIPE LENGTH", ⟨250, 101, 251, 102⟩⟩, ⟨"7", ⟨60, 105, 70, 112⟩⟩]

/-- A page with that table. -/
def titlePage : Page Coordinate := ⟨1, 612, 792, titleSpans⟩

/-- The anchor of the page. -/
def titleAnchor : Anchor := ⟨⟨50, 100, 80, 101⟩, 1, 1, 0⟩

theorem extractPage_titlePage : ∃ region,
    TableRegion.resolve titlePage titleAnchor {} = .ok region ∧
      Pipeline.extractPage {} ⟨"a"⟩ titlePage =
        .rows [{ smallTableRow 1 with
          cells := [⟨"PT NO", "7"⟩, ⟨"QTY", ""⟩, ⟨"CUT PIPE LENGTH", ""⟩] }] := by
  have found : Anchor.find? titlePage "PT NO" = some titleAnchor := by decide +kernel
  obtain ⟨region, resolved, spans⟩ : ∃ region,
      TableRegion.resolve titlePage titleAnchor {} = .ok region ∧ region.spans = titleSpans :=
    TableRegion.exists_region (by decide +kernel)
  have grouped : groupRows titleSpans 3 = [titleSpans.take 3, [titleSpans[3]]] :=
    (groupRows_of_sorted (by decide +kernel) rfl (by decide +kernel) (by decide +kernel)).trans
      (by decide +kernel)
  have headed : Pipeline.fromHeader titleAnchor (groupRows region.spans 3) =
      [titleSpans.take 3, [titleSpans[3]]] := by
    rw [spans, grouped, Pipeline.fromHeader]
    decide +kernel
  have left : fromLeft (titleSpans.take 3) = titleSpans.take 3 :=
    fromLeft_of_sorted (by decide +kernel)
  have alone (span : Span Coordinate) : fromLeft [span] = [span] := List.mergeSort_singleton _
  have data : dataRows (ColumnRules.ofLayout {}) [[titleSpans[3]]] = [[titleSpans[3]]] := by
    decide +kernel
  have table : (Pipeline.readTable {} titleAnchor region).headers =
        ["PT NO", "QTY", "CUT PIPE LENGTH"] ∧
      (Pipeline.readTable {} titleAnchor region).rows = [["7", "", ""]] := by
    unfold Pipeline.readTable
    rw [headed]
    dsimp only
    unfold mapColumns
    rw [left, data]
    simp only [List.map_cons, List.map_nil, placeRow, alone]
    decide +kernel
  exact ⟨region, resolved,
    @Pipeline.extractPage_of_readTable {} ⟨"a"⟩ titlePage _ _ _ _ found resolved
    table.1 table.2⟩

/-- A closing label that no keyword covers becomes a part number, and one that stands on the line of
the headers is a title even in the standard layout. -/
theorem closing_label_in_cells :
    { Settings.standard ⟨"h"⟩ with layout := erectionLayout }.validate = .ok () ∧
    Pipeline.ShowsLabel erectionLayout erectionPage Cell.value ∧
    (Settings.standard ⟨"h"⟩).validate = .ok () ∧
    Pipeline.ShowsLabel (Settings.standard ⟨"h"⟩).layout titlePage Cell.header := by
  obtain ⟨region, resolved, extracted⟩ := extractPage_erectionPage
  obtain ⟨region', resolved', extracted'⟩ := extractPage_titlePage
  refine ⟨by decide +kernel, ?_, by decide +kernel, ?_⟩
  · exact ⟨smallAnchor 1, region, erectionSpans[3], ⟨"a"⟩, _, _, ⟨"PT NO", "ERECTION MATERIALS"⟩,
      by decide +kernel, resolved, by decide +kernel, extracted,
      List.mem_cons_of_mem _ List.mem_cons_self, List.mem_cons_self, rfl⟩
  · exact ⟨titleAnchor, region', titleSpans[2], ⟨"a"⟩, _, _, ⟨"CUT PIPE LENGTH", ""⟩,
      by decide +kernel, resolved', by decide +kernel, extracted', List.mem_cons_self,
      by simp, rfl⟩

end PartsList
