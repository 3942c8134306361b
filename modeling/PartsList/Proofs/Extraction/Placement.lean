import Mathlib.Data.List.Forall2
import Mathlib.Data.List.TakeWhile
import PartsList.Proofs.Extraction.Columns
import PartsList.Proofs.Extraction.Grouping
import PartsList.Proofs.Extraction.Stability

/-!
# Placing texts in columns

What the table of a header and its data rows holds, said without the search for the nearest column
and without the course over the texts.  A text belongs to the leftmost column of least distance, by
the rank of distances, if this distance is within reach; so each text that is not blank is part of
one value or is counted as unmatched.
-/

namespace PartsList

/-! ## Rows that count -/

section Rows

variable {α : Type} {rules : ColumnRules α} {rows considered rest : List (List (Span α))}

/-- The data rows are those in front of the first row whose text mentions a keyword. -/
structure IsCut (rules : ColumnRules α) (rows considered rest : List (List (Span α))) : Prop where
  /-- They are in front. -/
  parts : rows = considered ++ rest
  /-- None of them mentions one. -/
  goesOn : ∀ row ∈ considered, rules.terminates (rowText row) = false
  /-- The next row does, if there is one. -/
  ends : ∀ row ∈ rest.head?, rules.terminates (rowText row) = true

theorem isCut_dataRows (rules : ColumnRules α) (rows : List (List (Span α))) :
    ∃ rest, IsCut rules rows (dataRows rules rows) rest := by
  refine ⟨rows.dropWhile fun row => !rules.terminates (rowText row),
    List.takeWhile_append_dropWhile.symm, fun row mem => ?_, fun row mem => ?_⟩
  · simpa using List.mem_takeWhile_imp mem
  · have refused := List.head?_dropWhile_not (fun row => !rules.terminates (rowText row)) rows
    rw [Option.mem_def.1 mem] at refused
    simpa using refused

theorem IsCut.dataRows_eq (cut : IsCut rules rows considered rest) :
    dataRows rules rows = considered := by
  rw [dataRows, cut.parts, List.takeWhile_append_of_pos fun row mem => by simp [cut.goesOn row mem]]
  cases rest with
  | nil => simp
  | cons row rest => simp [cut.ends row rfl]

/-- The values of a row are kept: not all are empty, and not all of the leading ones if there are
leading ones to look at. -/
def IsKept (rules : ColumnRules α) (values : List String) : Prop :=
  (∃ value ∈ values, value ≠ "") ∧ (0 < rules.noiseLeadingColumns →
    ∃ value ∈ values.take rules.noiseLeadingColumns, value ≠ "")

instance (rules : ColumnRules α) (values : List String) : Decidable (IsKept rules values) :=
  inferInstanceAs (Decidable (_ ∧ _))

theorem not_isNoise (rules : ColumnRules α) (values : List String) :
    (!isNoise rules values) = decide (IsKept rules values) := by
  rw [Bool.eq_iff_iff, decide_eq_true_iff]
  rcases Nat.eq_zero_or_pos rules.noiseLeadingColumns with none | some
  · simp [isNoise, IsKept, none]
  · simp [isNoise, IsKept, some]

/-- The text is not blank. -/
def Span.IsFilled (span : Span α) : Prop :=
  Text.trim span.text ≠ ""

instance (span : Span α) : Decidable span.IsFilled :=
  inferInstanceAs (Decidable (_ ≠ _))

end Rows

variable {α : Type} [Scalar α]

/-! ## The nearest column -/

/-- The value stands at the index, none has a lower rank, and those in front of it rank higher. -/
structure IsFirstLeast (values : List α) (index : ℕ) (value : α) : Prop where
  /-- The value stands there. -/
  getElem? : values[index]? = some value
  /-- No value comes before it. -/
  least : ∀ other ∈ values, Scalar.ranked value other = true
  /-- The values in front of it come later. -/
  first : ∀ other ∈ values.take index, Scalar.ranked other value = false

theorem IsFirstLeast.index_le {values : List α} {index index' : ℕ} {value value' : α}
    (least : IsFirstLeast values index value) (least' : IsFirstLeast values index' value') :
    index ≤ index' := by
  by_contra more
  have inside : value' ∈ values.take index := by
    rw [List.mem_take_iff_getElem]
    obtain ⟨lt, rfl⟩ := List.getElem?_eq_some_iff.1 least'.getElem?
    exact ⟨index', by omega, rfl⟩
  have after := least.first value' inside
  rw [least'.least value (List.mem_of_getElem? least.getElem?)] at after
  cases after

theorem IsFirstLeast.unique {values : List α} {index index' : ℕ} {value value' : α}
    (least : IsFirstLeast values index value) (least' : IsFirstLeast values index' value') :
    index = index' ∧ value = value' := by
  obtain rfl := Nat.le_antisymm (least.index_le least') (least'.index_le least)
  exact ⟨rfl, Option.some.inj (least.getElem?.symm.trans least'.getElem?)⟩

/-- The distances of columns from a horizontal center. -/
def distances (centers : List α) (x : α) : List α :=
  centers.map fun center => Scalar.abs (center - x)

/-- The column is the leftmost one of least distance from the text, and within reach of it. -/
def Belongs (rules : ColumnRules α) (centers : List α) (span : Span α) (column : ℕ) : Prop :=
  ∃ distance, IsFirstLeast (distances centers span.box.centerX) column distance ∧
    distance < rules.reach

/-- The text is not blank and belongs to no column. -/
def IsStray (rules : ColumnRules α) (centers : List α) (span : Span α) : Prop :=
  span.IsFilled ∧ ∀ column, ¬Belongs rules centers span column

section Ranked

variable [Scalar.IsRanked α] {rules : ColumnRules α} {centers : List α} {span : Span α} {column : ℕ}

theorem IsFirstLeast.cons_self {value : α} {values : List α}
    (least : ∀ other ∈ values, Scalar.ranked value other = true) :
    IsFirstLeast (value :: values) 0 value := by
  refine ⟨rfl, fun other mem => ?_, by simp⟩
  rcases List.mem_cons.1 mem with rfl | mem
  · simpa using Scalar.IsRanked.linear.total other other
  · exact least other mem

theorem IsFirstLeast.cons {value other : α} {values : List α} {index : ℕ}
    (least : IsFirstLeast values index value) (later : Scalar.ranked other value = false) :
    IsFirstLeast (other :: values) (index + 1) value := by
  have before : Scalar.ranked value other = true := by
    simpa [later] using Scalar.IsRanked.linear.total value other
  refine ⟨least.getElem?, ?_, ?_⟩
  · simpa [before] using least.least
  · simpa [later] using least.first

/-- The search finds the leftmost column of least distance. -/
theorem exists_nearestColumn (x : α) (index : ℕ) {centers : List α} (some : centers ≠ []) :
    ∃ column distance, nearestColumn x index centers = .some (index + column, distance) ∧
      IsFirstLeast (distances centers x) column distance := by
  induction centers generalizing index with
  | nil => exact absurd rfl some
  | cons center centers induction =>
    by_cases none : centers = []
    · subst none
      exact ⟨0, _, rfl, IsFirstLeast.cons_self (by simp)⟩
    · obtain ⟨column, distance, found, least⟩ := induction (index + 1) none
      rw [nearestColumn, found]
      dsimp only
      split
      · next before =>
        refine ⟨0, _, rfl, IsFirstLeast.cons_self fun other mem => ?_⟩
        exact Scalar.IsRanked.linear.trans _ _ _ before (least.least other mem)
      · next later =>
        refine ⟨column + 1, distance, by rw [Nat.add_right_comm, Nat.add_assoc], ?_⟩
        exact least.cons (by simpa using later)

theorem columnOf?_eq_some_iff : columnOf? rules centers span = some column ↔
    Belongs rules centers span column := by
  by_cases none : centers = []
  · subst none
    constructor
    · exact nofun
    · rintro ⟨distance, least, -⟩
      cases least.getElem?
  · obtain ⟨nearest, distance, found, least⟩ :=
      exists_nearestColumn span.box.centerX 0 none
    rw [columnOf?, found, Nat.zero_add]
    dsimp only
    constructor
    · intro same
      split at same
      · next within =>
        obtain rfl := Option.some.inj same
        exact ⟨distance, least, within⟩
      · cases same
    · rintro ⟨distance', least', within⟩
      obtain ⟨rfl, rfl⟩ := least.unique least'
      exact if_pos within

instance : Decidable (Belongs rules centers span column) :=
  decidable_of_iff _ columnOf?_eq_some_iff

theorem columnOf?_eq_none_iff : columnOf? rules centers span = none ↔
    ∀ column, ¬Belongs rules centers span column := by
  simp only [← columnOf?_eq_some_iff, Option.eq_none_iff_forall_ne_some, ne_eq]

instance : Decidable (IsStray rules centers span) :=
  decidable_of_iff (span.IsFilled ∧ columnOf? rules centers span = none)
    (and_congr_right fun _ => columnOf?_eq_none_iff)

/-! ## Rows of values -/

/-- A row of values for a row of texts: the value of a column is made of the texts that belong to
it, from left to right, with single blanks between them. -/
def IsPlaced (rules : ColumnRules α) (centers : List α) (row : List (Span α))
    (values : List String) : Prop :=
  ∃ spans, IsStableSort Span.leftOf row spans ∧
    values = (List.range centers.length).map fun column =>
      joinTexts (spans.filter fun span => span.IsFilled ∧ Belongs rules centers span column)

theorem cellSpans_eq (row : List (Span α)) (column : ℕ) : cellSpans rules centers row column =
    (fromLeft row).filter fun span => span.IsFilled ∧ Belongs rules centers span column := by
  rw [cellSpans, List.filter_filter]
  apply List.filter_congr
  intro span _
  rw [← Bool.decide_and, decide_eq_decide, columnOf?_eq_some_iff, and_comm]
  rfl

theorem isPlaced_placeRow (rules : ColumnRules α) (centers : List α) (row : List (Span α)) :
    IsPlaced rules centers row (placeRow rules centers row).1 := by
  refine ⟨fromLeft row, isStableSort_fromLeft row, ?_⟩
  rw [values_placeRow]
  simp only [cellSpans_eq]

/-- The texts that belong to no column are counted. -/
theorem strays_placeRow (rules : ColumnRules α) (centers : List α) (row : List (Span α)) :
    (placeRow rules centers row).2 = row.countP fun span => IsStray rules centers span := by
  have strays : (row.countP fun span => IsStray rules centers span) =
      ((fromLeft row).filter fun span => Text.trim span.text ≠ "").countP
        fun span => columnOf? rules centers span = none := by
    rw [List.countP_filter, (fromLeft_perm row).countP_eq]
    apply List.countP_congr
    intro span _
    rw [Bool.and_eq_true, decide_eq_true_iff, decide_eq_true_iff, decide_eq_true_iff,
      columnOf?_eq_none_iff]
    exact and_comm
  rw [strays, placeRow]
  generalize ((fromLeft row).filter fun span => decide (Text.trim span.text ≠ "")) = spans
  induction spans using List.reverseRecOn with
  | nil => rfl
  | append_singleton spans span induction =>
    rw [List.foldl_append, List.foldl_cons, List.foldl_nil, List.countP_append,
      List.countP_singleton]
    split
    · next column belongs => rw [induction, if_neg (by simp [belongs]), Nat.add_zero]
    · next stray => rw [induction, if_pos (by simp [stray])]

/-! ## Tables -/

/-- What the table holds of the header's texts, from left to right, and of the data rows. -/
structure IsMapped (rules : ColumnRules α) (columns : List (Span α))
    (considered : List (List (Span α))) (table : MappedTable) : Prop where
  /-- The headers are the trimmed texts of the header. -/
  headers : table.headers = columns.map fun span => Text.trim span.text
  /-- The rows are those of the data rows' values that are kept. -/
  rows : ∃ values, List.Forall₂ (IsPlaced rules (columns.map (·.box.centerX))) considered values ∧
    table.rows = values.filter fun values => IsKept rules values
  /-- Each row has a value for each header. -/
  lengths : ∀ values ∈ table.rows, values.length = table.headers.length
  /-- The texts that belong to no column are counted. -/
  unmatchedCells : table.unmatchedCells = (considered.map fun row =>
    row.countP fun span => IsStray rules (columns.map (·.box.centerX)) span).sum

/-- The table of a header and data rows. -/
theorem isMapped_mapColumns {header : List (Span α)} {rows considered rest : List (List (Span α))}
    (cut : IsCut rules rows considered rest) :
    IsMapped rules (fromLeft header) considered (mapColumns rules header rows) := by
  rw [← cut.dataRows_eq]
  constructor
  · rfl
  · refine ⟨(dataRows rules rows).map fun row =>
      (placeRow rules ((fromLeft header).map (·.box.centerX)) row).1, ?_, ?_⟩
    · rw [List.forall₂_map_right_iff, List.forall₂_same]
      exact fun row _ => isPlaced_placeRow _ _ row
    · rw [mapColumns, List.map_map]
      exact List.filter_congr fun values _ => not_isNoise rules values
  · exact fun values mem => (MappedTable.isFilled_mapColumns rules header rows values mem).1
  · change (((dataRows rules rows).map (placeRow rules _)).map Prod.snd).sum = _
    rw [List.map_map]
    exact congrArg List.sum (List.map_congr_left fun row _ => strays_placeRow _ _ row)

end Ranked

/-- The rows from the first one on that mentions a keyword have no influence. -/
theorem IsCut.mapColumns_eq {rules : ColumnRules α}
    {rows rows' considered rest rest' : List (List (Span α))}
    (cut : IsCut rules rows considered rest) (cut' : IsCut rules rows' considered rest')
    (header : List (Span α)) : mapColumns rules header rows = mapColumns rules header rows' := by
  rw [mapColumns, mapColumns, cut.dataRows_eq, cut'.dataRows_eq]

/-- What the table of a header and data rows is, whatever the coordinates and the rules are: the
header from left to right, the data rows up to the first one that mentions a keyword placed under
it, and nothing of the rows behind these. -/
theorem columns_meet_specification (rules : ColumnRules Coordinate)
    (header : List (Span Coordinate)) (rows : List (List (Span Coordinate))) :
    ∃ columns considered rest, IsStableSort Span.leftOf header columns ∧
      IsCut rules rows considered rest ∧
      IsMapped rules columns considered (mapColumns rules header rows) ∧
      ∀ rows' rest', IsCut rules rows' considered rest' →
        mapColumns rules header rows' = mapColumns rules header rows := by
  obtain ⟨rest, cut⟩ := isCut_dataRows rules rows
  refine ⟨fromLeft header, dataRows rules rows, rest, isStableSort_fromLeft header, cut,
    isMapped_mapColumns cut, fun rows' rest' cut' => cut'.mapColumns_eq cut header⟩

end PartsList
