import Mathlib.Data.List.Induction
import PartsList.Extraction.Columns

/-!
# Rows of values

Every row of values has one value for each column, at least one of them with something in it, and
comes from a row of texts of its own in front of the first one that ends the table.  A value is
made of the texts of that row that belong to its column.
-/

namespace PartsList

variable {α : Type} [Scalar α]

theorem length_placeRow (rules : ColumnRules α) (centers : List α) (row : List (Span α)) :
    (placeRow rules centers row).1.length = centers.length := by
  refine List.foldlRecOn
    (motive := fun placed : List String × Nat => placed.1.length = centers.length)
    _ _ (List.length_map _) fun placed same span _ => ?_
  split
  · exact (List.length_modify ..).trans same
  · exact same

omit [Scalar α] in
theorem exists_ne_of_not_isNoise {rules : ColumnRules α} {values : List String}
    (kept : isNoise rules values = false) : ∃ value ∈ values, value ≠ "" := by
  unfold isNoise at kept
  rw [Bool.or_eq_false_iff, List.all_eq_false] at kept
  obtain ⟨⟨value, mem, filled⟩, -⟩ := kept
  exact ⟨value, mem, fun empty => filled (beq_iff_eq.2 empty)⟩

/-- The texts, trimmed, with single blanks between them. -/
def joinTexts (spans : List (Span α)) : String :=
  String.intercalate " " (spans.map fun span => Text.trim span.text)

/-- The texts of a row that belong to a column, from left to right, blank ones left out. -/
def cellSpans (rules : ColumnRules α) (centers : List α) (row : List (Span α)) (column : Nat) :
    List (Span α) :=
  ((fromLeft row).filter fun span => Text.trim span.text ≠ "").filter fun span =>
    columnOf? rules centers span = some column

omit [Scalar α] in
theorem joinTexts_ne_empty {span : Span α} {spans : List (Span α)}
    (filled : Text.trim span.text ≠ "") : joinTexts (span :: spans) ≠ "" := by
  unfold joinTexts
  cases spans with
  | nil => simpa using filled
  | cons other spans =>
    rw [List.map_cons, List.map_cons, String.intercalate_cons_cons]
    simp [filled]

omit [Scalar α] in
theorem joinTexts_concat {spans : List (Span α)} (filled : ∀ span ∈ spans, Text.trim span.text ≠ "")
    (span : Span α) :
    appendText (joinTexts spans) (Text.trim span.text) = joinTexts (spans ++ [span]) := by
  cases spans with
  | nil => simp [appendText, joinTexts]
  | cons first spans =>
    rw [appendText, if_neg (joinTexts_ne_empty (filled first List.mem_cons_self)), joinTexts,
      joinTexts, List.map_append, String.intercalate_append_of_ne_nil (by simp) (by simp)]
    simp

/-- Every value of a row is made of the texts that belong to its column. -/
theorem values_placeRow (rules : ColumnRules α) (centers : List α) (row : List (Span α)) :
    (placeRow rules centers row).1 =
      (List.range centers.length).map fun column =>
        joinTexts (cellSpans rules centers row column) := by
  unfold placeRow cellSpans
  dsimp only
  have filled : ∀ span ∈ (fromLeft row).filter fun span => Text.trim span.text ≠ "",
      Text.trim span.text ≠ "" := by simp
  revert filled
  generalize ((fromLeft row).filter fun span => decide (Text.trim span.text ≠ "")) = spans
  intro filled
  induction spans using List.reverseRecOn with
  | nil => exact List.ext_getElem (by simp) fun index _ _ => by simp [joinTexts]
  | append_singleton spans span induction =>
    have filled' : ∀ span ∈ spans, Text.trim span.text ≠ "" :=
      fun span mem => filled span (List.mem_append_left _ mem)
    rw [List.foldl_append, List.foldl_cons, List.foldl_nil]
    split
    · next column belongs =>
      rw [induction filled']
      refine List.ext_getElem (by simp) fun index _ _ => ?_
      rw [List.getElem_modify]
      simp only [List.getElem_map, List.getElem_range, List.filter_append]
      split
      · next same =>
        rw [same] at belongs
        rw [joinTexts_concat fun span mem => filled' span (List.mem_filter.1 mem).1]
        simp [belongs]
      · next apart => simp [belongs, apart]
    · next stray =>
      rw [induction filled']
      simp [stray]

/-- The rows of texts that become rows of values. -/
def sourceRows (rules : ColumnRules α) (centers : List α) (rows : List (List (Span α))) :
    List (List (Span α)) :=
  (dataRows rules rows).filter fun row => !isNoise rules (placeRow rules centers row).1

theorem sourceRows_sublist (rules : ColumnRules α) (centers : List α)
    (rows : List (List (Span α))) : (sourceRows rules centers rows).Sublist rows :=
  List.filter_sublist.trans (List.takeWhile_prefix _).sublist

/-- Each row of values comes from a row of texts of its own. -/
theorem rows_mapColumns (rules : ColumnRules α) (header : List (Span α))
    (rows : List (List (Span α))) :
    let centers := (fromLeft header).map (·.box.centerX)
    (mapColumns rules header rows).rows =
      (sourceRows rules centers rows).map fun row => (placeRow rules centers row).1 := by
  intro centers
  unfold mapColumns sourceRows
  dsimp only
  rw [List.map_map, List.filter_map]
  rfl

namespace MappedTable

/-- Every row of the table has a value for each column, and not only empty ones. -/
def IsFilled (table : MappedTable) : Prop :=
  ∀ values ∈ table.rows, values.length = table.headers.length ∧ ∃ value ∈ values, value ≠ ""

theorem isFilled_mapColumns (rules : ColumnRules α) (header : List (Span α))
    (rows : List (List (Span α))) : (mapColumns rules header rows).IsFilled := by
  intro values mem
  rw [rows_mapColumns] at mem
  obtain ⟨row, source, rfl⟩ := List.mem_map.1 mem
  refine ⟨?_, exists_ne_of_not_isNoise (by simpa using (List.mem_filter.1 source).2)⟩
  rw [length_placeRow, List.length_map]
  exact (List.length_map _).symm

end MappedTable

end PartsList
