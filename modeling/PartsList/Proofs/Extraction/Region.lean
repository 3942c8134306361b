import PartsList.Proofs.Extraction.Header
import PartsList.Proofs.Number.Arithmetic

/-!
# The region of a table

The region that is found on a page has extent and numbers for its edges, all texts that are taken
from the page lie inside it, and no text that stands below the row of headers, within its width and
above the end of the closing label, is left out.  Edges that are no numbers are passed over by the
least box around several ones; and a margin is never negative, so that it moves no edge inward even
when sums are rounded.
-/

namespace PartsList

open Coordinate

/-! ## The least box around others -/

namespace Box

variable {box other another : Box Coordinate}

/-- The other box does not reach beyond this one with any edge that is a number. -/
structure Encloses (box other : Box Coordinate) : Prop where
  /-- Left edge. -/
  left : IsNumber other.x0 → box.x0 ≤ other.x0
  /-- Top edge. -/
  top : IsNumber other.y0 → box.y0 ≤ other.y0
  /-- Right edge. -/
  right : IsNumber other.x1 → other.x1 ≤ box.x1
  /-- Bottom edge. -/
  bottom : IsNumber other.y1 → other.y1 ≤ box.y1

theorem Encloses.refl (box : Box Coordinate) : box.Encloses box :=
  ⟨IsNumber.le_refl, IsNumber.le_refl, IsNumber.le_refl, IsNumber.le_refl⟩

theorem Encloses.trans (outer : box.Encloses other) (inner : other.Encloses another) :
    box.Encloses another where
  left number := le_trans (outer.left (IsNumber.of_le (inner.left number)).1) (inner.left number)
  top number := le_trans (outer.top (IsNumber.of_le (inner.top number)).1) (inner.top number)
  right number :=
    le_trans (inner.right number) (outer.right (IsNumber.of_le (inner.right number)).2)
  bottom number :=
    le_trans (inner.bottom number) (outer.bottom (IsNumber.of_le (inner.bottom number)).2)

theorem union_encloses_left (box other : Box Coordinate) : (box.union other).Encloses box :=
  ⟨least_le_left, least_le_left, le_greatest_left, le_greatest_left⟩

theorem union_encloses_right (box other : Box Coordinate) : (box.union other).Encloses other :=
  ⟨least_le_right, least_le_right, le_greatest_right, le_greatest_right⟩

/-- The box around a box and some texts encloses each of them. -/
theorem foldl_union_encloses (box : Box Coordinate) (spans : List (Span Coordinate)) :
    (spans.foldl (fun box span => box.union span.box) box).Encloses box ∧
      ∀ span ∈ spans, (spans.foldl (fun box span => box.union span.box) box).Encloses span.box := by
  induction spans generalizing box with
  | nil => exact ⟨.refl box, fun _ mem => nomatch mem⟩
  | cons span spans induction =>
    obtain ⟨whole, each⟩ := induction (box.union span.box)
    refine ⟨whole.trans (union_encloses_left _ _), fun other mem => ?_⟩
    rcases List.mem_cons.1 mem with rfl | mem
    · exact whole.trans (union_encloses_right _ _)
    · exact each other mem

end Box

theorem TableRegion.tightBox_encloses {spans : List (Span Coordinate)} {tight : Box Coordinate}
    (around : tightBox spans = some tight) : ∀ span ∈ spans, tight.Encloses span.box := by
  cases spans with
  | nil => cases around
  | cons span spans =>
    cases around
    obtain ⟨first, rest⟩ := Box.foldl_union_encloses span.box spans
    intro other mem
    rcases List.mem_cons.1 mem with rfl | mem
    · exact first
    · exact rest other mem

/-! ## Margins -/

theorem value_greatest_nonneg {x y : Coordinate} (nonneg : 0 ≤ value x) (nonneg' : 0 ≤ value y) :
    0 ≤ value (Scalar.greatest x y) := by
  rcases greatest_cases x y with ⟨-, same⟩ | ⟨-, same⟩ | ⟨-, -, same⟩
  · rwa [same]
  · rwa [same]
  · rwa [same]

/-- An extent is not negative, as it is zero where it would be. -/
theorem value_extent_nonneg (x : Coordinate) :
    0 ≤ value (Scalar.greatest x (Scalar.ofNat 0)) := by
  have zero : value (Scalar.ofNat 0) = 0 := by decide +kernel
  have number : IsNumber (Scalar.ofNat 0) := isNaN_eq_false_iff.1 (by decide +kernel)
  have least := (le_iff_value.1 (@le_greatest_right x _ number)).2.2
  rwa [zero] at least

theorem Span.value_characterWidth_nonneg {span : Span Coordinate} {width : Coordinate}
    (wide : span.characterWidth = some width) : 0 ≤ value width := by
  unfold characterWidth at wide
  split at wide
  · cases wide
  · cases wide
    exact value_div_nonneg (value_extent_nonneg _) _

namespace TableRegion

theorem value_greatestWidth_nonneg {widths : List Coordinate} {width : Coordinate}
    (nonneg : ∀ width ∈ widths, 0 ≤ value width) (greatest : greatestWidth widths = some width) :
    0 ≤ value width := by
  cases widths with
  | nil => cases greatest
  | cons first widths =>
    cases greatest
    refine List.foldlRecOn (motive := fun greatest => 0 ≤ value greatest) widths Scalar.greatest
      (nonneg first List.mem_cons_self) ?_
    intro greatest nonneg' width mem
    exact value_greatest_nonneg nonneg' (nonneg width (List.mem_cons_of_mem _ mem))

theorem value_estimateCharacterWidth_nonneg (page : Page Coordinate)
    (anchorSpan : Option (Span Coordinate)) (layout : Layout) :
    0 ≤ value (estimateCharacterWidth page anchorSpan layout) := by
  unfold estimateCharacterWidth
  dsimp only
  cases widest : greatestWidth ((page.spans.filter fun span =>
    (layout.widthLabels.map Text.normalize).contains (Text.normalize span.text)).filterMap
      Span.characterWidth) with
  | some width =>
    rw [Option.some_or, Option.getD_some]
    refine value_greatestWidth_nonneg (fun width mem => ?_) widest
    obtain ⟨span, -, wide⟩ := List.mem_filterMap.1 mem
    exact Span.value_characterWidth_nonneg wide
  | none =>
    rw [Option.none_or]
    cases own : anchorSpan.bind Span.characterWidth with
    | some width =>
      obtain ⟨span, -, wide⟩ := Option.bind_eq_some_iff.1 own
      exact Span.value_characterWidth_nonneg wide
    | none => decide +kernel

theorem value_margin_nonneg {width : Coordinate} (nonneg : 0 ≤ value width) :
    0 ≤ value (marginCharacters * width) :=
  value_mul_nonneg (by decide +kernel) nonneg

theorem value_marginAbove_nonneg (box : Box Coordinate) : 0 ≤ value (marginHeights * box.height) :=
  value_mul_nonneg (by decide +kernel) (value_extent_nonneg _)

end TableRegion

/-! ## Regions with extent -/

namespace Boundary

variable {boundary : Boundary}

/-- The region has extent in both directions, and its edges are numbers. -/
structure IsProper (boundary : Boundary) : Prop where
  /-- It has height. -/
  height : boundary.top < boundary.bottom
  /-- It has width. -/
  width : boundary.left < boundary.right
  /-- No edge is a value that is no number. -/
  edges : ∀ edge ∈ [boundary.top, boundary.left, boundary.right, boundary.bottom],
    edge.isNaN = false

theorem isProper_iff : boundary.isValid = true ↔ boundary.IsProper := by
  constructor
  · intro valid
    obtain ⟨height, width⟩ : boundary.top < boundary.bottom ∧ boundary.left < boundary.right := by
      simpa [isValid] using valid
    refine ⟨height, width, fun edge mem => isNaN_eq_false_iff.2 ?_⟩
    simp only [List.mem_cons, List.not_mem_nil, or_false] at mem
    rcases mem with rfl | rfl | rfl | rfl
    · exact (IsNumber.of_lt height).1
    · exact (IsNumber.of_lt width).1
    · exact (IsNumber.of_lt width).2
    · exact (IsNumber.of_lt height).2
  · intro proper
    simp [isValid, proper.height, proper.width]

theorem IsProper.isNumber (proper : boundary.IsProper) : IsNumber boundary.top ∧
    IsNumber boundary.left ∧ IsNumber boundary.right ∧ IsNumber boundary.bottom :=
  ⟨(IsNumber.of_lt proper.height).1, (IsNumber.of_lt proper.width).1,
    (IsNumber.of_lt proper.width).2, (IsNumber.of_lt proper.height).2⟩

theorem checked_cases (boundary : Boundary) :
    boundary.checked = .error (.invalidTableBoundary boundary) ∧ ¬boundary.IsProper ∨
      boundary.checked = .ok boundary ∧ boundary.IsProper := by
  rw [← isProper_iff]
  unfold Boundary.checked
  split
  · next valid => exact .inr ⟨rfl, valid⟩
  · next invalid => exact .inl ⟨rfl, invalid⟩

end Boundary

namespace TableRegion

variable {page : Page Coordinate} {anchor : Anchor} {layout : Layout} {region : TableRegion}

/-- Why no region is found. -/
inductive Fails (page : Page Coordinate) (anchor : Anchor) (layout : Layout) : BoundaryError → Prop
  /-- None of the keywords is in the texts on the anchor's line. -/
  | header (unknown : recognizes layout.headerKeywords (page.spans[anchor.spanIndex]?.toList ++
      headerCandidates page anchor.box) = false) :
      Fails page anchor layout
        (.headerNotRecognized (String.intercalate ", " layout.headerKeywords))
  /-- The closing label is not where it should be. -/
  | terminator (missing : terminator? page (secondaryBox page anchor.box layout) layout = none) :
      Fails page anchor layout (.terminatorNotFound layout.terminator layout.secondaryHeader)
  /-- No text lies in the region that the labels suggest. -/
  | empty {suggested : Boundary} (suggests : suggested? page anchor layout = some suggested)
      (outside : ∀ span ∈ page.spans, suggested.contains span.box = false) :
      Fails page anchor layout .emptyTableRegion
  /-- The region that the labels suggest has no extent, or an edge that is no number. -/
  | degenerate {suggested : Boundary} (suggests : suggested? page anchor layout = some suggested)
      (improper : ¬suggested.IsProper) :
      Fails page anchor layout (.invalidTableBoundary suggested)
  /-- So does the region that is drawn around the texts in it, with its margin. -/
  | invalid {suggested : Boundary} {tight : Box Coordinate} {margin : Coordinate}
      (suggests : suggested? page anchor layout = some suggested)
      (around : tightBox (page.spans.filter fun span => suggested.contains span.box) = some tight)
      (leaves : margin = marginCharacters *
        estimateCharacterWidth page page.spans[anchor.spanIndex]? layout)
      (improper : ¬((Boundary.ofBox tight).padded margin).IsProper) :
      Fails page anchor layout (.invalidTableBoundary ((Boundary.ofBox tight).padded margin))

/-- How a region comes about. -/
structure Stems (page : Page Coordinate) (anchor : Anchor) (layout : Layout)
    (terminator : Span Coordinate) (suggested : Boundary) (tight : Box Coordinate)
    (region : TableRegion) : Prop where
  /-- The closing label is found. -/
  closing : terminator? page (secondaryBox page anchor.box layout) layout = some terminator
  /-- A region follows from the labels. -/
  suggests : suggested = estimate anchor.box
    (headerBox anchor.box (headerCandidates page anchor.box)) terminator
    (marginCharacters * region.characterWidth)
  /-- That region is proper. -/
  proper : suggested.IsProper
  /-- The texts are those in that region. -/
  spans : region.spans = page.spans.filter fun span => suggested.contains span.box
  /-- The box is drawn around the texts. -/
  around : tightBox region.spans = some tight
  /-- The boundary leaves a margin around the box. -/
  boundary : region.boundary =
    (Boundary.ofBox tight).padded (marginCharacters * region.characterWidth)
  /-- The boundary is proper. -/
  extent : region.boundary.IsProper
  /-- The width of a character is not negative. -/
  width : 0 ≤ value region.characterWidth

theorem tightBox_eq_none {spans : List (Span Coordinate)} (none : tightBox spans = none) :
    spans = [] := by
  cases spans with
  | nil => rfl
  | cons span spans => cases none

theorem suggested?_eq {terminator : Span Coordinate}
    (closing : terminator? page (secondaryBox page anchor.box layout) layout = some terminator) :
    suggested? page anchor layout = some (estimate anchor.box
      (headerBox anchor.box (headerCandidates page anchor.box)) terminator
      (marginCharacters * estimateCharacterWidth page page.spans[anchor.spanIndex]? layout)) := by
  rw [suggested?, closing, Option.map_some]

theorem resolve_cases (page : Page Coordinate) (anchor : Anchor) (layout : Layout) :
    (∃ error, resolve page anchor layout = .error error ∧ Fails page anchor layout error) ∨
      ∃ region terminator suggested tight, resolve page anchor layout = .ok region ∧
        Stems page anchor layout terminator suggested tight region := by
  unfold resolve
  dsimp only
  split
  · next unknown => exact .inl ⟨_, rfl, .header (by simpa using unknown)⟩
  split
  · next terminator closing =>
    have width := value_estimateCharacterWidth_nonneg page page.spans[anchor.spanIndex]? layout
    have suggests : suggested? page anchor layout = _ := suggested?_eq closing
    generalize estimated : estimateCharacterWidth page page.spans[anchor.spanIndex]? layout =
      characterWidth at width suggests
    generalize from_labels : estimate _ _ _ _ = suggested at suggests
    rcases suggested.checked_cases with ⟨refused, improper⟩ | ⟨accepted, proper⟩
    · rw [refused]
      exact .inl ⟨_, rfl, .degenerate suggests improper⟩
    rw [accepted]
    dsimp only [bind, Except.bind]
    split
    · next tight around =>
      rcases ((Boundary.ofBox tight).padded (marginCharacters * characterWidth)).checked_cases with
        ⟨refused, improper⟩ | ⟨accepted, extent⟩
      · rw [refused]
        exact .inl ⟨_, rfl, .invalid suggests around (by rw [estimated]) improper⟩
      rw [accepted]
      exact .inr ⟨_, terminator, suggested, tight, rfl, closing, from_labels.symm, proper, rfl,
        around, rfl, extent, width⟩
    · next none =>
      have empty := tightBox_eq_none (Option.eq_none_iff_forall_ne_some.2 none)
      refine .inl ⟨_, rfl, .empty suggests fun span mem => ?_⟩
      simpa using List.filter_eq_nil_iff.1 empty span mem
  · next missing =>
    exact .inl ⟨_, rfl, .terminator (Option.eq_none_iff_forall_ne_some.2 missing)⟩

variable {terminator : Span Coordinate} {suggested : Boundary} {tight : Box Coordinate}

theorem Stems.nonempty (stems : Stems page anchor layout terminator suggested tight region) :
    region.spans ≠ [] := by
  intro none
  have around := stems.around
  rw [none] at around
  cases around

/-- A margin around the least box around the texts loses none of them. -/
theorem Stems.inside (stems : Stems page anchor layout terminator suggested tight region) :
    ∀ span ∈ region.spans, region.boundary.contains span.box = true := by
  intro span mem
  have kept := mem
  rw [stems.spans, List.mem_filter, Boundary.contains_iff] at kept
  obtain ⟨-, left, right, top, bottom⟩ := kept
  have encloses := tightBox_encloses stems.around span mem
  have margin := value_margin_nonneg stems.width
  have numbers := stems.extent.isNumber
  rw [stems.boundary] at numbers ⊢
  obtain ⟨topNumber, leftNumber, rightNumber, bottomNumber⟩ := numbers
  refine Boundary.contains_iff.2 ⟨?_, ?_, ?_, ?_⟩
  · exact le_trans (sub_le margin leftNumber) (encloses.left (IsNumber.of_le left).2)
  · exact le_trans (encloses.right (IsNumber.of_le right).1) (le_add margin rightNumber)
  · exact le_trans (sub_le margin topNumber) (encloses.top (IsNumber.of_le top).2)
  · exact le_trans (encloses.bottom (IsNumber.of_le bottom).1) (le_add margin bottomNumber)

/-- The anchor's box and those of the headers beside it. -/
def headed (page : Page Coordinate) (anchor : Anchor) : List (Box Coordinate) :=
  anchor.box :: (headerCandidates page anchor.box).map (·.box)

theorem headerBox_encloses (page : Page Coordinate) (anchor : Anchor) : ∀ box ∈ headed page anchor,
    (headerBox anchor.box (headerCandidates page anchor.box)).Encloses box := by
  obtain ⟨first, rest⟩ := Box.foldl_union_encloses anchor.box (headerCandidates page anchor.box)
  intro box mem
  rcases List.mem_cons.1 mem with rfl | mem
  · exact first
  · obtain ⟨span, candidate, rfl⟩ := List.mem_map.1 mem
    exact rest span candidate

/-- The box lies between the anchor's left edge and the farthest right edge of the headers, and
between their highest top edge and the bottom edge of the closing label. -/
structure InTable (page : Page Coordinate) (anchor : Anchor) (terminator : Span Coordinate)
    (box : Box Coordinate) : Prop where
  /-- It does not begin left of the anchor. -/
  left : anchor.box.x0 ≤ box.x0
  /-- It does not end right of all headers. -/
  right : ∃ header ∈ headed page anchor, box.x1 ≤ header.x1
  /-- It does not begin above all headers. -/
  top : ∃ header ∈ headed page anchor, header.y0 ≤ box.y0
  /-- It does not end below the closing label. -/
  bottom : box.y1 ≤ terminator.box.y1

/-- The region that the labels suggest leaves out no text of the table. -/
theorem Stems.covers (stems : Stems page anchor layout terminator suggested tight region) :
    ∀ span ∈ page.spans, InTable page anchor terminator span.box → span ∈ region.spans := by
  intro span mem inTable
  rw [stems.spans]
  refine List.mem_filter.2 ⟨mem, Boundary.contains_iff.2 ?_⟩
  have margin := value_margin_nonneg stems.width
  have numbers := stems.proper.isNumber
  rw [stems.suggests] at numbers ⊢
  obtain ⟨topNumber, leftNumber, rightNumber, bottomNumber⟩ := numbers
  obtain ⟨righter, mem, right⟩ := inTable.right
  obtain ⟨higher, mem', top⟩ := inTable.top
  have rightmost := (headerBox_encloses page anchor righter mem).right (IsNumber.of_le right).2
  have topmost := (headerBox_encloses page anchor higher mem').top (IsNumber.of_le top).1
  refine ⟨?_, ?_, ?_, ?_⟩
  · exact le_trans (sub_le margin leftNumber) inTable.left
  · exact le_trans (le_trans right rightmost) (le_add margin rightNumber)
  · exact le_trans (sub_le (value_marginAbove_nonneg _) topNumber) (le_trans topmost top)
  · exact le_trans inTable.bottom (le_add margin bottomNumber)

end TableRegion

/-- Whatever the page, the anchor and the layout, the region of the table is found or one of the
four errors says why not.  A region that is found has extent and edges that are numbers; its texts
are some of the page's, at least one, in their order; they all lie in its boundary; and no text of
the table is missing. -/
theorem region_covers_table (page : Page Coordinate) (anchor : Anchor) (layout : Layout) :
    (∃ region terminator, TableRegion.resolve page anchor layout = .ok region ∧
      region.boundary.IsProper ∧
      region.spans ≠ [] ∧ region.spans.Sublist page.spans ∧
      (∀ span ∈ region.spans, region.boundary.contains span.box = true) ∧
      TableRegion.terminator? page (TableRegion.secondaryBox page anchor.box layout) layout =
        some terminator ∧
      ∀ span ∈ page.spans, TableRegion.InTable page anchor terminator span.box →
        span ∈ region.spans) ∨
    ∃ error, TableRegion.resolve page anchor layout = .error error ∧
      TableRegion.Fails page anchor layout error := by
  rcases TableRegion.resolve_cases page anchor layout with
    failed | ⟨region, terminator, suggested, tight, resolved, stems⟩
  · exact .inr failed
  · refine .inl ⟨region, terminator, resolved, stems.extent, stems.nonempty, ?_, stems.inside,
      stems.closing, stems.covers⟩
    rw [stems.spans]
    exact List.filter_sublist

end PartsList
