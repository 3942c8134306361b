import Mathlib.Data.List.TakeWhile
import PartsList.Proofs.Basic
import PartsList.Proofs.Extraction.Tables
import PartsList.Proofs.Number.Comparison
import PartsList.Settings.Basic

/-!
# The row of headers

The headers of a table are the texts on the anchor's row, and its rows come from below, if the
region that the labels suggest reaches around the anchor.  The lower edge of that region follows
from the closing label alone, so it may end above the anchor; then the topmost row of texts in the
region gives the headers, whatever stands there.
-/

namespace PartsList

/-! ## Boxes in a region -/

theorem Box.sameEdges_iff {box other : Box Coordinate} : box.sameEdges other = true ↔
    (box.x0 == other.x0) = true ∧ (box.y0 == other.y0) = true ∧ (box.x1 == other.x1) = true ∧
      (box.y1 == other.y1) = true := by
  simp [sameEdges, and_assoc]

namespace Boundary

variable {boundary : Boundary} {box other : Box Coordinate}

theorem contains_iff : boundary.contains box = true ↔
    boundary.left ≤ box.x0 ∧ box.x1 ≤ boundary.right ∧ boundary.top ≤ box.y0 ∧
      box.y1 ≤ boundary.bottom := by
  simp [contains, and_assoc]

/-- A region that contains a box contains all boxes with the same edges. -/
theorem contains_of_sameEdges (same : box.sameEdges other = true)
    (inside : boundary.contains box = true) : boundary.contains other = true := by
  obtain ⟨left, top, right, bottom⟩ := Box.sameEdges_iff.1 same
  rw [contains_iff] at inside ⊢
  rwa [← Coordinate.le_congr_right left, ← Coordinate.le_congr_left right,
    ← Coordinate.le_congr_right top, ← Coordinate.le_congr_left bottom]

/-- The edges of a box in a region are numbers. -/
theorem sameEdges_self (inside : boundary.contains box = true) : box.sameEdges box = true := by
  obtain ⟨left, right, top, bottom⟩ := contains_iff.1 inside
  exact Box.sameEdges_iff.2 ⟨Coordinate.beq_self_of_ge left, Coordinate.beq_self_of_ge top,
    Coordinate.beq_self_of_le right, Coordinate.beq_self_of_le bottom⟩

end Boundary

/-! ## The anchor and its region -/

theorem Anchor.exists_span_of_inSpans? {label : List Char} {number index : Nat}
    {spans : List (Span Coordinate)} {anchor : Anchor}
    (found : inSpans? label number index spans = some anchor) :
    ∃ place span, anchor.spanIndex = index + place ∧ spans[place]? = some span ∧
      anchor.box = span.box := by
  induction spans generalizing index with
  | nil => cases found
  | cons span spans induction =>
    rw [inSpans?, Option.or_eq_some_iff] at found
    rcases found with here | ⟨-, later⟩
    · unfold inSpan? at here
      dsimp only at here
      split at here
      · cases here
        exact ⟨0, span, rfl, rfl, rfl⟩
      · cases here
    · obtain ⟨place, other, position, there, box⟩ := induction later
      exact ⟨place + 1, other, by omega, there, box⟩

/-- The anchor is one of the texts of its page. -/
theorem Anchor.exists_span {page : Page Coordinate} {label : String} {anchor : Anchor}
    (found : find? page label = some anchor) :
    ∃ span, page.spans[anchor.spanIndex]? = some span ∧ anchor.box = span.box := by
  unfold find? at found
  dsimp only at found
  split at found
  · cases found
  · obtain ⟨place, span, position, there, box⟩ := exists_span_of_inSpans? found
    rw [Nat.zero_add] at position
    exact ⟨span, position ▸ there, box⟩

theorem Boundary.eq_of_checked {boundary other : Boundary}
    (checked : boundary.checked = .ok other) :
    other = boundary := by
  unfold Boundary.checked at checked
  split at checked
  · exact (Except.ok.inj checked).symm
  · cases checked

namespace TableRegion

/-- The region that the labels on a page suggest. -/
def suggested? (page : Page Coordinate) (anchor : Anchor) (layout : Layout) : Option Boundary :=
  (terminator? page (secondaryBox page anchor.box layout) layout).map fun terminator =>
    estimate anchor.box (headerBox anchor.box (headerCandidates page anchor.box)) terminator
      (marginCharacters * estimateCharacterWidth page page.spans[anchor.spanIndex]? layout)

/-- The texts of the table are those in the region that the labels suggest. -/
theorem spans_of_resolve {page : Page Coordinate} {anchor : Anchor} {layout : Layout}
    {region : TableRegion} (resolved : resolve page anchor layout = .ok region) :
    ∃ suggested, suggested? page anchor layout = some suggested ∧
      region.spans = page.spans.filter fun span => suggested.contains span.box := by
  unfold resolve at resolved
  dsimp only at resolved
  split at resolved
  · cases resolved
  · split at resolved
    · next terminator closing =>
      obtain ⟨suggested, checked, resolved⟩ := exists_of_bind_eq_ok resolved
      split at resolved
      · obtain ⟨boundary, -, resolved⟩ := exists_of_bind_eq_ok resolved
        cases resolved
        refine ⟨suggested, ?_, rfl⟩
        rw [suggested?, closing, Option.map_some, Boundary.eq_of_checked checked]
      · cases resolved
    · cases resolved

end TableRegion

namespace Pipeline

variable {anchor : Anchor} {rows : List (List (Span Coordinate))}

/-- The row has a text in the box of the anchor. -/
def HoldsAnchor (anchor : Anchor) (row : List (Span Coordinate)) : Prop :=
  ∃ span ∈ row, span.box.sameEdges anchor.box = true

theorem any_iff {row : List (Span Coordinate)} :
    (row.any fun span => span.box.sameEdges anchor.box) = true ↔ HoldsAnchor anchor row :=
  List.any_eq_true

/-- The rows from the topmost one on that holds the anchor, or all of them. -/
theorem fromHeader_cases (anchor : Anchor) (rows : List (List (Span Coordinate))) :
    (∃ above header below, rows = above ++ header :: below ∧
        fromHeader anchor rows = header :: below ∧
        (∀ row ∈ above, ¬HoldsAnchor anchor row) ∧ HoldsAnchor anchor header) ∨
      (∀ row ∈ rows, ¬HoldsAnchor anchor row) ∧ fromHeader anchor rows = rows := by
  let misses (row : List (Span Coordinate)) : Bool :=
    !row.any fun span => span.box.sameEdges anchor.box
  have misses_iff (row : List (Span Coordinate)) : misses row = true ↔ ¬HoldsAnchor anchor row := by
    rw [← any_iff, Bool.not_eq_true', Bool.not_eq_true]
  have parts : rows.takeWhile misses ++ rows.dropWhile misses = rows :=
    List.takeWhile_append_dropWhile
  have begins := List.head?_dropWhile_not misses rows
  unfold fromHeader
  cases rest : rows.dropWhile misses with
  | nil =>
    refine .inr ⟨fun row mem => (misses_iff row).1 ?_, rfl⟩
    exact List.dropWhile_eq_nil_iff.1 rest row mem
  | cons header below =>
    rw [rest] at parts begins
    refine .inl ⟨_, header, below, parts.symm, rfl, fun row mem => ?_, ?_⟩
    · exact (misses_iff row).1 (List.mem_takeWhile_imp mem)
    · exact Classical.not_not.1 fun misses => nomatch begins.symm.trans ((misses_iff _).2 misses)

/-- The rows of a page are read below the row of texts that gives their headers. -/
structure ReadsBelow (layout : Layout) (region : TableRegion) (rows : List Row)
    (above : List (List (Span Coordinate))) (header : List (Span Coordinate))
    (below : List (List (Span Coordinate))) : Prop where
  /-- The rows of texts in the region, from top to bottom. -/
  grouped : groupRows region.spans layout.rowToleranceY = above ++ header :: below
  /-- The texts of one of them are the headers of all rows. -/
  headed : ∀ row ∈ rows, row.headers = (fromLeft header).map fun span => Text.trim span.text
  /-- Each row has the texts of a row of texts of its own below that one. -/
  sources : ∃ sources : List (List (Span Coordinate)), sources.Sublist below ∧
    rows.map (fun row => row.cells.map (·.value)) = sources.map fun source =>
      (placeRow (ColumnRules.ofLayout layout) ((fromLeft header).map (·.box.centerX)) source).1

theorem values_tableRows (path : Path) (number : Nat) {table : MappedTable}
    (filled : table.IsFilled) :
    (tableRows path number table).map (fun row => row.cells.map (·.value)) = table.rows := by
  refine List.ext_getElem (by simp [tableRows]) fun index inside _ => ?_
  have long := (filled _ (List.getElem_mem (l := table.rows) (by simpa [tableRows] using inside))).1
  simp only [tableRows, List.getElem_map, List.getElem_mapIdx]
  rw [List.map_zipWith]
  exact List.ext_getElem (by simp [long]) fun place _ _ => List.getElem_zipWith

theorem readsBelow_tableRows {layout : Layout} {path : Path} {number : Nat} {region : TableRegion}
    {above below : List (List (Span Coordinate))} {header : List (Span Coordinate)}
    (grouped : groupRows region.spans layout.rowToleranceY = above ++ header :: below)
    (rest : fromHeader anchor (groupRows region.spans layout.rowToleranceY) = header :: below) :
    ReadsBelow layout region (tableRows path number (readTable layout anchor region)) above header
      below := by
  have table : readTable layout anchor region =
      mapColumns (ColumnRules.ofLayout layout) header below := by
    rw [readTable, rest]
  have filled := MappedTable.isFilled_mapColumns (ColumnRules.ofLayout layout) header below
  rw [table]
  exact ⟨grouped, (isTable_tableRows path number filled).headed, _, sourceRows_sublist _ _ _,
    (values_tableRows path number filled).trans (rows_mapColumns _ _ _)⟩

end Pipeline

section Header

variable {layout : Layout} {page : Page Coordinate} {anchor : Anchor} {span : Span Coordinate}
  {region : TableRegion} {suggested : Boundary} {row : List (Span Coordinate)}
  {above below : List (List (Span Coordinate))} {header : List (Span Coordinate)}

/-- The texts of the rows are the texts of the page in the region. -/
theorem TableRegion.mem_of_row
    (spans : region.spans = page.spans.filter fun span => suggested.contains span.box)
    (mem : row ∈ groupRows region.spans layout.rowToleranceY) (of : span ∈ row) :
    span ∈ page.spans ∧ suggested.contains span.box = true := by
  have grouped := mem_flatten_groupRows.1 (List.mem_flatten_of_mem mem of)
  rw [spans] at grouped
  exact List.mem_filter.1 grouped

theorem TableRegion.exists_row
    (spans : region.spans = page.spans.filter fun span => suggested.contains span.box)
    (mem : span ∈ page.spans) (inside : suggested.contains span.box = true) :
    ∃ row ∈ groupRows region.spans layout.rowToleranceY, span ∈ row := by
  have kept : span ∈ region.spans := spans ▸ List.mem_filter.2 ⟨mem, inside⟩
  obtain ⟨row, mem, of⟩ := List.mem_flatten.1 (mem_flatten_groupRows.2 kept)
  exact ⟨row, mem, of⟩

/-- How the row of headers lies to the anchor: it holds the anchor's box exactly if the region
contains that box, and it is the topmost row if it does not. -/
structure Pipeline.Headed (page : Page Coordinate) (anchor : Anchor) (span : Span Coordinate)
    (suggested : Boundary) (above : List (List (Span Coordinate)))
    (header : List (Span Coordinate)) : Prop where
  /-- A text with the anchor's edges is among the headers. -/
  edges : HoldsAnchor anchor header ↔ suggested.contains anchor.box = true
  /-- The anchor's text is among them, if no other text has its edges. -/
  text : (∀ other ∈ page.spans, other.box.sameEdges anchor.box = true → other = span) →
    (span ∈ header ↔ suggested.contains anchor.box = true)
  /-- No row stands above the headers if the region does not contain the anchor. -/
  topmost : suggested.contains anchor.box = false → above = []

theorem Pipeline.exists_headed (mem : span ∈ page.spans) (box : anchor.box = span.box)
    (spans : region.spans = page.spans.filter fun span => suggested.contains span.box)
    (nonempty : fromHeader anchor (groupRows region.spans layout.rowToleranceY) ≠ []) :
    ∃ above header below,
      groupRows region.spans layout.rowToleranceY = above ++ header :: below ∧
      fromHeader anchor (groupRows region.spans layout.rowToleranceY) = header :: below ∧
      Headed page anchor span suggested above header := by
  -- The anchor's box lies in the region if a row holds it, and a row holds it if it lies there.
  have inside {row} (mem : row ∈ groupRows region.spans layout.rowToleranceY)
      (holds : HoldsAnchor anchor row) : suggested.contains anchor.box = true := by
    obtain ⟨other, of, same⟩ := holds
    exact Boundary.contains_of_sameEdges same (TableRegion.mem_of_row spans mem of).2
  have holds (contained : suggested.contains anchor.box = true) :
      ∃ row ∈ groupRows region.spans layout.rowToleranceY, HoldsAnchor anchor row := by
    obtain ⟨row, there, of⟩ := TableRegion.exists_row spans mem (box ▸ contained)
    exact ⟨row, there, span, of, box ▸ Boundary.sameEdges_self contained⟩
  rcases fromHeader_cases anchor (groupRows region.spans layout.rowToleranceY) with
    ⟨above, header, below, grouped, rest, -, held⟩ | ⟨missing, rest⟩
  · have there : header ∈ groupRows region.spans layout.rowToleranceY := by simp [grouped]
    have contained := inside there held
    refine ⟨above, header, below, grouped, rest, iff_of_true held contained, fun unique => ?_,
      fun outside => nomatch contained.symm.trans outside⟩
    obtain ⟨other, of, same⟩ := held
    have same_span := unique other (TableRegion.mem_of_row spans there of).1 same
    exact iff_of_true (same_span ▸ of) contained
  · have outside : ¬suggested.contains anchor.box = true := by
      intro contained
      obtain ⟨row, there, held⟩ := holds contained
      exact missing row there held
    rw [rest] at nonempty ⊢
    obtain ⟨header, below, grouped⟩ := List.exists_cons_of_ne_nil nonempty
    have there : header ∈ groupRows region.spans layout.rowToleranceY := by simp [grouped]
    refine ⟨[], header, below, grouped, grouped, iff_of_false (missing header there) outside,
      fun _ => iff_of_false (fun of => outside ?_) outside, fun _ => rfl⟩
    exact box ▸ (TableRegion.mem_of_row spans there of).2

/-- The rows of a page are read below a row of texts that gives their headers.  That row is the
anchor's exactly if the region that the labels suggest contains the anchor; else it is the topmost
one of the region. -/
theorem rows_below_header {path : Path} {rows : List Row}
    (extracted : Pipeline.extractPage layout path page = .rows rows) (nonempty : rows ≠ []) :
    ∃ anchor span region suggested above header below,
      Anchor.find? page layout.anchorText = some anchor ∧
      page.spans[anchor.spanIndex]? = some span ∧ anchor.box = span.box ∧
      TableRegion.resolve page anchor layout = .ok region ∧
      TableRegion.suggested? page anchor layout = some suggested ∧
      Pipeline.ReadsBelow layout region rows above header below ∧
      Pipeline.Headed page anchor span suggested above header := by
  unfold Pipeline.extractPage at extracted
  split at extracted
  · cases extracted
  · next anchor found =>
    obtain ⟨span, there, box⟩ := Anchor.exists_span found
    split at extracted
    · cases extracted
    · next region resolved =>
      cases extracted
      obtain ⟨suggested, suggests, spans⟩ := TableRegion.spans_of_resolve resolved
      have some_row : Pipeline.fromHeader anchor
          (groupRows region.spans layout.rowToleranceY) ≠ [] := by
        intro none
        exact nonempty (by rw [Pipeline.readTable, none]; rfl)
      obtain ⟨above, header, below, grouped, rest, headed⟩ :=
        Pipeline.exists_headed (List.mem_of_getElem? there) box spans some_row
      exact ⟨anchor, span, region, suggested, above, header, below, found, there, box, resolved,
        suggests, Pipeline.readsBelow_tableRows grouped rest, headed⟩

end Header

/-! ## A closing label above the anchor -/

/-- The texts of a table of revisions above a table of parts. -/
def revisionSpans : List (Span Coordinate) :=
  [⟨"REV", ⟨60, 80, 80, 84⟩⟩, ⟨"DATE", ⟨120, 80, 140, 84⟩⟩, ⟨"A", ⟨60, 90, 80, 94⟩⟩,
    ⟨"2024", ⟨120, 90, 140, 94⟩⟩]

/-- A page whose closing label ends between the two tables. -/
def revisionPage : Page Coordinate :=
  ⟨1, 612, 792, [⟨"DESCRIPTION", ⟨0, 10, 50, 20⟩⟩, ⟨"CUT PIPE LENGTH", ⟨300, 80, 390, 85⟩⟩,
    ⟨"PT NO", ⟨50, 100, 80, 110⟩⟩, ⟨"QTY", ⟨220, 100, 240, 110⟩⟩] ++ revisionSpans⟩

/-- The anchor of the page. -/
def revisionAnchor : Anchor := ⟨⟨50, 100, 80, 110⟩, 1, 1, 2⟩

theorem groupRows_revisionSpans :
    groupRows revisionSpans 3 = [revisionSpans.take 2, revisionSpans.drop 2] :=
  (groupRows_of_sorted (by decide +kernel) rfl (by decide +kernel) (by decide +kernel)).trans
    (by decide +kernel)

theorem extractPage_revisionPage : Pipeline.extractPage {} ⟨"a"⟩ revisionPage =
    .rows [⟨"a", ⟨"a"⟩, 1, 0, [⟨"REV", "A"⟩, ⟨"DATE", "2024"⟩]⟩] := by
  have found : Anchor.find? revisionPage "PT NO" = some revisionAnchor := by decide +kernel
  obtain ⟨region, resolved, spans⟩ : ∃ region,
      TableRegion.resolve revisionPage revisionAnchor {} = .ok region ∧
        region.spans = revisionSpans :=
    TableRegion.exists_region (by decide +kernel)
  have headed : Pipeline.fromHeader revisionAnchor (groupRows region.spans 3) =
      [revisionSpans.take 2, revisionSpans.drop 2] := by
    rw [spans, groupRows_revisionSpans, Pipeline.fromHeader]
    decide +kernel
  have left : fromLeft (revisionSpans.take 2) = revisionSpans.take 2 :=
    fromLeft_of_sorted (by decide +kernel)
  have left' : fromLeft (revisionSpans.drop 2) = revisionSpans.drop 2 :=
    fromLeft_of_sorted (by decide +kernel)
  have data : dataRows (ColumnRules.ofLayout {}) [revisionSpans.drop 2] =
      [revisionSpans.drop 2] := by decide +kernel
  have table : (Pipeline.readTable {} revisionAnchor region).headers = ["REV", "DATE"] ∧
      (Pipeline.readTable {} revisionAnchor region).rows = [["A", "2024"]] := by
    unfold Pipeline.readTable
    rw [headed]
    dsimp only
    unfold mapColumns
    rw [left, data]
    simp only [List.map_cons, List.map_nil, placeRow, left']
    decide +kernel
  exact @Pipeline.extractPage_of_readTable {} ⟨"a"⟩ revisionPage _ _ _ _ found resolved table.1
    table.2

/-- The revisions are taken for parts. -/
theorem revisions_below_own_header : (Settings.standard ⟨"h"⟩).validate = .ok () ∧
    ∃ anchor span region header below rows,
      Pipeline.extractPage (Settings.standard ⟨"h"⟩).layout ⟨"a"⟩ revisionPage = .rows rows ∧
      rows ≠ [] ∧ Anchor.find? revisionPage "PT NO" = some anchor ∧
      revisionPage.spans[anchor.spanIndex]? = some span ∧
      Pipeline.ReadsBelow (Settings.standard ⟨"h"⟩).layout region rows [] header below ∧
      span ∉ header ∧ ¬Pipeline.HoldsAnchor anchor header := by
  refine ⟨by decide +kernel, ?_⟩
  obtain ⟨anchor, span, region, suggested, above, header, below, found, there, -, -, suggests,
    reads, headed⟩ := rows_below_header extractPage_revisionPage (by simp)
  have anchor_eq : some anchor = some revisionAnchor :=
    found.symm.trans (by decide +kernel)
  cases anchor_eq
  have span_eq : some span = some ⟨"PT NO", ⟨50, 100, 80, 110⟩⟩ :=
    there.symm.trans (by decide +kernel)
  cases span_eq
  have contained : (TableRegion.suggested? revisionPage revisionAnchor {}).map
      (·.contains revisionAnchor.box) = some false := by decide +kernel
  rw [suggests, Option.map_some, Option.some.injEq] at contained
  have outside : ¬suggested.contains revisionAnchor.box = true := by simp [contained]
  cases headed.topmost contained
  exact ⟨revisionAnchor, _, region, header, below, _, extractPage_revisionPage, by simp, found,
    there, reads, fun mem => outside ((headed.text (by decide +kernel)).1 mem),
    fun holds => outside (headed.edges.1 holds)⟩

end PartsList
