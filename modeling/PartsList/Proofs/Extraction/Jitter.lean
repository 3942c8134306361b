import Mathlib.Data.List.Nodup
import Mathlib.Tactic.Linarith
import PartsList.Proofs.Extraction.Placement

/-!
# Columns under jitter

In exact arithmetic a table is read back from texts that are drawn near their headers.  A text that
is nearer to a header than half of the smallest gap between two headers is farther from all others,
so the search over the sorted centers finds the column of its header again, wherever the headers
stand in the list.
-/

namespace PartsList

variable {rules : ColumnRules ℚ} {header row columns : List (Span ℚ)} {home : Span ℚ → Span ℚ}

/-- Every text of the row that is not blank is drawn at a header: within reach of it, and nearer
than half of every gap between two headers. -/
structure IsDrawnAt (rules : ColumnRules ℚ) (header row : List (Span ℚ)) (home : Span ℚ → Span ℚ) :
    Prop where
  /-- It has a header. -/
  mem : ∀ span ∈ row, span.IsFilled → home span ∈ header
  /-- Its distance from the header is below the reach of columns. -/
  reached : ∀ span ∈ row, span.IsFilled →
    |(home span).box.centerX - span.box.centerX| < 3 * rules.tolerance
  /-- Its distance from the header is below half of the smallest gap. -/
  close : ∀ span ∈ row, span.IsFilled → ∀ left ∈ header, ∀ right ∈ header, left ≠ right →
    |(home span).box.centerX - span.box.centerX| < |left.box.centerX - right.box.centerX| / 2

/-- The values of the row, a column for each header: the texts that are drawn at it, from left to
right, with single blanks between them. -/
def drawnValues (columns row : List (Span ℚ)) (home : Span ℚ → Span ℚ) : List String :=
  columns.map fun column =>
    joinTexts ((fromLeft row).filter fun span => span.IsFilled ∧ home span = column)

/-- The texts stand from left to right, where no two have one center. -/
def IsSpread (columns : List (Span ℚ)) : Prop :=
  columns.Pairwise fun left right => left.box.centerX < right.box.centerX

instance (columns : List (Span ℚ)) : Decidable (IsSpread columns) :=
  inferInstanceAs (Decidable (columns.Pairwise _))

theorem isSpread_fromLeft (distinct : (header.map (·.box.centerX)).Nodup) :
    IsSpread (fromLeft header) := by
  have order : (fromLeft header).Pairwise (TieBroken Span.leftOf fun left right =>
      left.box.centerX ≠ right.box.centerX) := pairwise_fromLeft (List.pairwise_map.1 distinct)
  refine order.imp fun {left right} before => lt_of_le_of_ne (Scalar.ranked_iff.1 before.1) ?_
  intro same
  exact before.2 (Scalar.ranked_iff.2 same.ge) same

/-- Headers that no two have one center stand in one order from left to right. -/
theorem fromLeft_eq_of_isSpread (perm : header.Perm columns) (spread : IsSpread columns) :
    fromLeft header = columns := by
  have left : columns.Pairwise fun left right => left.leftOf right = true :=
    spread.imp fun less => Scalar.ranked_iff.2 less.le
  have linear := Span.isLinear_leftOf (α := ℚ)
  have sorted := List.pairwise_mergeSort linear.trans linear.total header
  refine List.Perm.eq_of_pairwise ?_ sorted left ((fromLeft_perm header).trans perm)
  intro span other mem mem' before after
  have distinct : (columns.map (·.box.centerX)).Nodup := List.pairwise_map.2 (spread.imp ne_of_lt)
  apply List.inj_on_of_nodup_map distinct (perm.subset ((fromLeft_perm header).subset mem)) mem'
  exact le_antisymm (Scalar.ranked_iff.1 before) (Scalar.ranked_iff.1 after)

/-- A center that is nearer than half of the gap to another is the nearer one of the two. -/
theorem abs_lt_abs_of_close {center other x : ℚ} (close : |center - x| < |center - other| / 2) :
    |center - x| < |other - x| := by
  have triangle := abs_sub_le center x other
  rw [abs_sub_comm x other] at triangle
  linarith

namespace IsDrawnAt

variable {span : Span ℚ} {index : ℕ}

theorem of_perm (drawn : IsDrawnAt rules header row home) (perm : header.Perm columns) :
    IsDrawnAt rules columns row home where
  mem span mem filled := perm.subset (drawn.mem span mem filled)
  reached := drawn.reached
  close span mem filled left there right there' :=
    drawn.close span mem filled left (perm.mem_iff.2 there) right (perm.mem_iff.2 there')

/-- All headers but its own are farther from a text. -/
theorem farther (drawn : IsDrawnAt rules columns row home) (mem : span ∈ row)
    (filled : span.IsFilled) {other : Span ℚ} (there : other ∈ columns) (ne : other ≠ home span) :
    |(home span).box.centerX - span.box.centerX| < |other.box.centerX - span.box.centerX| :=
  abs_lt_abs_of_close
    (drawn.close span mem filled (home span) (drawn.mem span mem filled) other there ne.symm)

/-- The distance of its header is the first least one. -/
theorem isFirstLeast (drawn : IsDrawnAt rules columns row home) (spread : IsSpread columns)
    (mem : span ∈ row) (filled : span.IsFilled) (here : columns[index]? = some (home span)) :
    IsFirstLeast (distances (columns.map (·.box.centerX)) span.box.centerX) index
      |(home span).box.centerX - span.box.centerX| := by
  constructor
  · rw [distances, List.getElem?_map, List.getElem?_map, here]
    rfl
  · simp only [distances, List.forall_mem_map]
    intro other there
    by_cases own : other = home span
    · rw [own]
      exact Scalar.ranked_iff.2 le_rfl
    · exact Scalar.ranked_iff.2 (drawn.farther mem filled there own).le
  · simp only [distances, ← List.map_take, List.forall_mem_map]
    intro other there
    obtain ⟨lt, same⟩ := List.getElem?_eq_some_iff.1 here
    obtain ⟨place, before, rfl⟩ := List.mem_take_iff_getElem.1 there
    have less := List.pairwise_iff_getElem.1 spread place index (by omega) lt (by omega)
    rw [same] at less
    have own : columns[place] ≠ home span := fun own => less.ne (own ▸ rfl)
    rw [← Bool.not_eq_true, Scalar.ranked_iff, not_le]
    exact drawn.farther mem filled (List.getElem_mem _) own

/-- A text belongs to the column of its header, and to no other. -/
theorem belongs_iff (drawn : IsDrawnAt rules columns row home) (spread : IsSpread columns)
    (mem : span ∈ row) (filled : span.IsFilled) :
    Belongs rules (columns.map (·.box.centerX)) span index ↔
      columns[index]? = some (home span) := by
  constructor
  · rintro ⟨distance, least, -⟩
    obtain ⟨place, lt, same⟩ := List.mem_iff_getElem.1 (drawn.mem span mem filled)
    have here : columns[place]? = some (home span) := by rw [List.getElem?_eq_getElem lt, same]
    obtain ⟨rfl, -⟩ := least.unique (drawn.isFirstLeast spread mem filled here)
    exact here
  · intro here
    exact ⟨_, drawn.isFirstLeast spread mem filled here, drawn.reached span mem filled⟩

/-- The values of the row are made of the texts drawn at the headers. -/
theorem placeRow_eq (drawn : IsDrawnAt rules columns row home) (spread : IsSpread columns) :
    placeRow rules (columns.map (·.box.centerX)) row = (drawnValues columns row home, 0) := by
  apply Prod.ext
  · rw [values_placeRow, drawnValues]
    refine List.ext_getElem (by simp) fun index lt lt' => ?_
    rw [List.length_map] at lt'
    simp only [List.getElem_map, List.getElem_range, cellSpans_eq]
    congr 1
    apply List.filter_congr
    intro span mem
    rw [decide_eq_decide]
    refine and_congr_right fun filled => ?_
    rw [drawn.belongs_iff spread ((fromLeft_perm row).subset mem) filled,
      List.getElem?_eq_getElem lt', Option.some_inj, eq_comm]
  · rw [strays_placeRow, List.countP_eq_zero]
    intro span mem stray
    obtain ⟨filled, nowhere⟩ := of_decide_eq_true stray
    obtain ⟨place, lt, same⟩ := List.mem_iff_getElem.1 (drawn.mem span mem filled)
    apply nowhere place
    rw [drawn.belongs_iff spread mem filled, List.getElem?_eq_getElem lt, same]

end IsDrawnAt

/-- The headers on the left of a header are those in front of its column. -/
theorem getElem?_countP_left {column : Span ℚ} (spread : IsSpread columns)
    (mem : column ∈ columns) :
    columns[columns.countP fun other => other.box.centerX < column.box.centerX]? = some column := by
  obtain ⟨before, after, rfl⟩ := List.append_of_mem mem
  obtain ⟨-, right, left⟩ := List.pairwise_append.1 spread
  have front : (before.countP fun other => other.box.centerX < column.box.centerX) =
      before.length := List.countP_eq_length.2 fun other there =>
    decide_eq_true (left other there column List.mem_cons_self)
  have back :
      ((column :: after).countP fun other => other.box.centerX < column.box.centerX) = 0 := by
    rw [List.countP_eq_zero]
    intro other there less
    have less : other.box.centerX < column.box.centerX := of_decide_eq_true less
    rcases List.mem_cons.1 there with rfl | there
    · exact less.false
    · exact less.not_gt ((List.pairwise_cons.1 right).1 other there)
  rw [List.countP_append, front, back]
  simp

/-- The row is kept if a text is drawn at a header whose column keeps it from being noise. -/
theorem IsDrawnAt.isKept {span : Span ℚ} (drawn : IsDrawnAt rules columns row home)
    (spread : IsSpread columns) (mem : span ∈ row) (filled : span.IsFilled)
    (leading : 0 < rules.noiseLeadingColumns →
      (columns.countP fun other => other.box.centerX < (home span).box.centerX) <
        rules.noiseLeadingColumns) :
    IsKept rules (drawnValues columns row home) := by
  have value : joinTexts ((fromLeft row).filter fun other =>
      other.IsFilled ∧ home other = home span) ≠ "" := by
    have there : span ∈ (fromLeft row).filter fun other =>
        other.IsFilled ∧ home other = home span :=
      List.mem_filter.2 ⟨(fromLeft_perm row).mem_iff.2 mem, decide_eq_true ⟨filled, rfl⟩⟩
    obtain ⟨first, others, parts⟩ := List.exists_cons_of_ne_nil (List.ne_nil_of_mem there)
    have first_mem : first ∈ (fromLeft row).filter fun other =>
        other.IsFilled ∧ home other = home span := parts ▸ List.mem_cons_self
    rw [parts]
    exact joinTexts_ne_empty (of_decide_eq_true (List.mem_filter.1 first_mem).2).1
  have here := getElem?_countP_left spread (drawn.mem span mem filled)
  refine ⟨⟨_, List.mem_map_of_mem (drawn.mem span mem filled), value⟩, fun some => ?_⟩
  refine ⟨_, List.mem_of_getElem? (i := columns.countP fun other =>
    other.box.centerX < (home span).box.centerX) ?_, value⟩
  rw [List.getElem?_take_of_lt (leading some), drawnValues, List.getElem?_map, here]
  rfl

/-- In exact arithmetic texts that are drawn near their headers are read back: the row has for each
header the texts drawn at it, and no text is left over. -/
theorem columns_round_trip (distinct : (header.map (·.box.centerX)).Nodup)
    (goesOn : rules.terminates (rowText row) = false) (drawn : IsDrawnAt rules header row home)
    (kept : ∃ span ∈ row, span.IsFilled ∧ (0 < rules.noiseLeadingColumns →
      (header.countP fun other => other.box.centerX < (home span).box.centerX) <
        rules.noiseLeadingColumns)) :
    mapColumns rules header [row] =
      { headers := (fromLeft header).map fun column => Text.trim column.text
        rows := [drawnValues (fromLeft header) row home]
        unmatchedCells := 0 } := by
  obtain ⟨span, mem, filled, leading⟩ := kept
  have spread := isSpread_fromLeft distinct
  have drawn := drawn.of_perm (fromLeft_perm header).symm
  have data : dataRows rules [row] = [row] := by simp [dataRows, goesOn]
  rw [← (fromLeft_perm header).countP_eq] at leading
  have kept : (!isNoise rules (drawnValues (fromLeft header) row home)) = true := by
    rw [not_isNoise, decide_eq_true_iff]
    exact drawn.isKept spread mem filled leading
  rw [mapColumns, data, List.map_singleton, drawn.placeRow_eq spread]
  simp [kept]

/-- Three headers that are listed out of order, with gaps of three and six points. -/
def jitterHeader : List (Span ℚ) :=
  [⟨"QTY", ⟨9, 0, 11, 2⟩⟩, ⟨"PT NO", ⟨0, 0, 2, 2⟩⟩, ⟨"DESCRIPTION", ⟨3, 0, 5, 2⟩⟩]

/-- Texts that are drawn up to one point off their headers, two of them at one header. -/
def jitterRow : List (Span ℚ) :=
  [⟨"SMLS", ⟨4, 4, 6, 6⟩⟩, ⟨"2", ⟨10, 4, 12, 6⟩⟩, ⟨"PIPE", ⟨2, 4, 4, 6⟩⟩, ⟨" ", ⟨6, 4, 8, 6⟩⟩]

/-- The header that a text is drawn at. -/
def jitterHome (span : Span ℚ) : Span ℚ :=
  if span.box.centerX < 7 then ⟨"DESCRIPTION", ⟨3, 0, 5, 2⟩⟩ else ⟨"QTY", ⟨9, 0, 11, 2⟩⟩

theorem columns_round_trip_jitter :
    IsDrawnAt (ColumnRules.make 1 2 ["TOTAL"]) jitterHeader jitterRow jitterHome ∧
      mapColumns (ColumnRules.make 1 2 ["TOTAL"]) jitterHeader [jitterRow] =
        ⟨["PT NO", "DESCRIPTION", "QTY"], [["", "PIPE SMLS", "2"]], 0⟩ := by
  have drawn : IsDrawnAt (ColumnRules.make 1 2 ["TOTAL"]) jitterHeader jitterRow jitterHome := by
    constructor <;> decide +kernel
  have columns : fromLeft jitterHeader =
      [⟨"PT NO", ⟨0, 0, 2, 2⟩⟩, ⟨"DESCRIPTION", ⟨3, 0, 5, 2⟩⟩, ⟨"QTY", ⟨9, 0, 11, 2⟩⟩] :=
    fromLeft_eq_of_isSpread (by decide +kernel) (by decide +kernel)
  have texts : fromLeft jitterRow = [⟨"PIPE", ⟨2, 4, 4, 6⟩⟩, ⟨"SMLS", ⟨4, 4, 6, 6⟩⟩,
      ⟨" ", ⟨6, 4, 8, 6⟩⟩, ⟨"2", ⟨10, 4, 12, 6⟩⟩] :=
    fromLeft_eq_of_isSpread (by decide +kernel) (by decide +kernel)
  have table := columns_round_trip (by decide +kernel) (by decide +kernel) drawn
    (by decide +kernel)
  rw [drawnValues, columns, texts] at table
  exact ⟨drawn, table.trans (by decide +kernel)⟩

end PartsList
