import Mathlib.Algebra.Order.BigOperators.Group.List
import Mathlib.Tactic.Linarith
import PartsList.Proofs.Extraction.Grouping
import PartsList.Proofs.Extraction.Stability

/-!
# Rows as bands of the page

In exact arithmetic the rows are horizontal bands, one below the other.  Texts come from top to
bottom, so the mean of a row that has refused a text stays where it is while the texts move on: the
row refuses all later ones as well.  Hence only the row that was opened last can take a text, the
rows are in order as they are opened, and sorting them by their means moves none.
-/

namespace PartsList

section Last

variable {α : Type} [Scalar α]

/-- Adds a text to the row that was opened last if it is near it, or opens a row for it. -/
def joinLast (tolerance : α) (span : Span α) (bands : List (Band α)) : List (Band α) :=
  match bands.getLast? with
  | none => [Band.single span]
  | some last =>
    if last.near tolerance span then bands.dropLast ++ [last.push span]
    else bands ++ [Band.single span]

/-- The rows in the order in which they are opened, when only the last one is tried. -/
def collectByLast (tolerance : α) (spans : List (Span α)) : List (Band α) :=
  (fromTop spans).foldl (fun bands span => joinLast tolerance span bands) []

theorem joinLast_concat (tolerance : α) (span : Span α) (bands : List (Band α)) (last : Band α) :
    joinLast tolerance span (bands ++ [last]) =
      bands ++ joinBands tolerance span [last] := by
  by_cases near : last.near tolerance span = true <;> simp [joinLast, joinBands, near]

/-- A text joins the last row, or opens one when there is none or the last one refuses it. -/
theorem joinLast_cases (tolerance : α) (span : Span α) (bands : List (Band α)) :
    (∃ others last, bands = others ++ [last] ∧ last.near tolerance span = true ∧
        joinLast tolerance span bands = others ++ [last.push span]) ∨
      (∀ last ∈ bands.getLast?, last.near tolerance span = false) ∧
        joinLast tolerance span bands = bands ++ [Band.single span] := by
  obtain rfl | ⟨others, last, rfl⟩ := List.eq_nil_or_concat' bands
  · exact Or.inr ⟨by simp, rfl⟩
  · rw [joinLast_concat, joinBands]
    by_cases near : last.near tolerance span = true
    · exact Or.inl ⟨others, last, rfl, near, by rw [if_pos near]⟩
    · refine Or.inr ⟨by simpa using near, ?_⟩
      rw [if_neg near, joinBands, List.append_cons]

/-- The texts of the rows, row by row, and then the new one. -/
theorem flatMap_joinLast (tolerance : α) (span : Span α) (bands : List (Band α)) :
    (joinLast tolerance span bands).flatMap Band.spans = bands.flatMap Band.spans ++ [span] := by
  obtain rfl | ⟨bands, last, rfl⟩ := List.eq_nil_or_concat' bands
  · rfl
  · rw [joinLast_concat]
    by_cases near : last.near tolerance span = true <;>
      simp [joinBands, near, Band.push, Band.single]

theorem flatMap_collectByLast (tolerance : α) (spans : List (Span α)) :
    (collectByLast tolerance spans).flatMap Band.spans = fromTop spans := by
  suffices collects : ∀ (waiting : List (Span α)) (bands : List (Band α)),
      (waiting.foldl (fun bands span => joinLast tolerance span bands) bands).flatMap Band.spans =
        bands.flatMap Band.spans ++ waiting from collects (fromTop spans) []
  intro waiting
  induction waiting with
  | nil => simp
  | cons span waiting induction =>
      intro bands
      rw [List.foldl_cons, induction, flatMap_joinLast, List.append_assoc, List.singleton_append]

theorem joinBands_append {tolerance : α} {span : Span α} {bands : List (Band α)}
    (refused : ∀ band ∈ bands, band.near tolerance span = false) (rest : List (Band α)) :
    joinBands tolerance span (bands ++ rest) = bands ++ joinBands tolerance span rest := by
  induction bands with
  | nil => rfl
  | cons band bands induction =>
      have first := refused band List.mem_cons_self
      have others := induction fun other mem => refused other (List.mem_cons_of_mem band mem)
      simp [joinBands, first, others]

end Last

/-! ## Means -/

namespace Band

variable {band other : Band ℚ} {span : Span ℚ} {tolerance low high : ℚ}

/-- The row has texts, and its sum is that of their centers. -/
structure IsTotal (band : Band ℚ) : Prop where
  /-- There are texts. -/
  nonempty : band.spans ≠ []
  /-- The sum of their centers. -/
  centerSum : band.centerSum = (band.spans.map (·.box.centerY)).sum

theorem mean_eq (band : Band ℚ) : band.mean = band.centerSum / band.spans.length := rfl

theorem near_iff : band.near tolerance span = true ↔ |band.mean - span.box.centerY| ≤ tolerance :=
  decide_eq_true_iff

theorem isTotal_single (span : Span ℚ) : (single span).IsTotal := by
  constructor
  · simp [single]
  · simp [single]

namespace IsTotal

theorem push (total : band.IsTotal) (span : Span ℚ) : (band.push span).IsTotal := by
  constructor
  · simp [Band.push]
  · have sum : (band.push span).centerSum = band.centerSum + span.box.centerY := rfl
    rw [sum, total.centerSum]
    simp [Band.push]

theorem length_pos (total : band.IsTotal) : (0 : ℚ) < band.spans.length := by
  exact_mod_cast List.length_pos_of_ne_nil total.nonempty

theorem centerSum_eq (total : band.IsTotal) : band.centerSum = band.spans.length * band.mean := by
  rw [mean_eq, mul_div_cancel₀ _ total.length_pos.ne']

theorem le_mean (total : band.IsTotal) (least : ∀ span ∈ band.spans, low ≤ span.box.centerY) :
    low ≤ band.mean := by
  have centers : ∀ center ∈ band.spans.map (·.box.centerY), low ≤ center := by simpa using least
  have sum := List.card_nsmul_le_sum _ low centers
  rw [List.length_map, nsmul_eq_mul, ← total.centerSum] at sum
  rw [mean_eq, le_div_iff₀ total.length_pos, mul_comm]
  exact sum

theorem mean_le (total : band.IsTotal) (most : ∀ span ∈ band.spans, span.box.centerY ≤ high) :
    band.mean ≤ high := by
  have centers : ∀ center ∈ band.spans.map (·.box.centerY), center ≤ high := by simpa using most
  have sum := List.sum_le_card_nsmul _ high centers
  rw [List.length_map, nsmul_eq_mul, ← total.centerSum] at sum
  rw [mean_eq, div_le_iff₀ total.length_pos, mul_comm]
  exact sum

/-- A row takes a text exactly if it lies within the tolerance below its mean, when no text of the
row lies lower. -/
theorem near_iff_of_le (total : band.IsTotal)
    (above : ∀ other ∈ band.spans, other.box.centerY ≤ span.box.centerY) :
    band.near tolerance span = true ↔ span.box.centerY ≤ band.mean + tolerance := by
  have mean := total.mean_le above
  rw [near_iff, abs_of_nonpos (by linarith)]
  constructor <;> intro distance <;> linarith

end IsTotal

end Band

/-! ## Bands -/

/-- The rows are bands one below the other, and each refuses the texts of the later ones. -/
structure Stacked (tolerance : ℚ) (bands : List (Band ℚ)) : Prop where
  /-- The sums are those of the texts. -/
  total : ∀ band ∈ bands, band.IsTotal
  /-- Row by row, the texts come from top to bottom. -/
  sorted : (bands.flatMap Band.spans).Pairwise fun span other =>
    span.box.centerY ≤ other.box.centerY
  /-- No text of a later row is near the row. -/
  refused : bands.Pairwise fun above below =>
    ∀ span ∈ below.spans, above.near tolerance span = false

namespace Stacked

variable {tolerance : ℚ} {bands : List (Band ℚ)} {band last : Band ℚ} {span : Span ℚ}

theorem nil : Stacked tolerance [] where
  total := by simp
  sorted := List.Pairwise.nil
  refused := List.Pairwise.nil

/-- No text of a row lies below one of a later row. -/
theorem ordered (stacked : Stacked tolerance bands) : bands.Pairwise fun above below =>
    ∀ span ∈ above.spans, ∀ other ∈ below.spans, span.box.centerY ≤ other.box.centerY :=
  (List.pairwise_flatMap.1 stacked.sorted).2

theorem sorted_last (stacked : Stacked tolerance (bands ++ [last])) :
    last.spans.Pairwise fun span other => span.box.centerY ≤ other.box.centerY :=
  (List.pairwise_flatMap.1 stacked.sorted).1 last (by simp)

theorem isTotal_last (stacked : Stacked tolerance (bands ++ [last])) : last.IsTotal :=
  stacked.total last (by simp)

/-- All rows but the last one refuse a text that no text of the rows lies below. -/
theorem refuses (stacked : Stacked tolerance (bands ++ [last]))
    (above : ∀ other ∈ (bands ++ [last]).flatMap Band.spans,
      other.box.centerY ≤ span.box.centerY) :
    ∀ band ∈ bands, band.near tolerance span = false := by
  intro band mem
  have total : band.IsTotal := stacked.total band (by simp [mem])
  have ordered := (List.pairwise_append.1 stacked.ordered).2.2 band mem last (by simp)
  have refused := (List.pairwise_append.1 stacked.refused).2.2 band mem last (by simp)
  obtain ⟨other, there⟩ := List.exists_mem_of_ne_nil _ stacked.isTotal_last.nonempty
  -- The row has refused a text of the last one, and this one lies no higher.
  have distance := refused other there
  have lower : other.box.centerY ≤ span.box.centerY := above other (by simp [there])
  rw [← Bool.not_eq_true, total.near_iff_of_le fun first inside => ordered first inside other there]
    at distance
  rw [← Bool.not_eq_true, total.near_iff_of_le fun first inside =>
    (ordered first inside other there).trans lower]
  linarith

/-- Only the last row can take a text that no text of the rows lies below. -/
theorem joinBands_eq (stacked : Stacked tolerance bands)
    (above : ∀ other ∈ bands.flatMap Band.spans, other.box.centerY ≤ span.box.centerY) :
    joinBands tolerance span bands = joinLast tolerance span bands := by
  obtain rfl | ⟨bands, last, rfl⟩ := List.eq_nil_or_concat' bands
  · rfl
  · rw [joinBands_append (stacked.refuses above), joinLast_concat]

/-- The rows stay bands when a text joins that none of theirs lies below. -/
theorem joinLast (stacked : Stacked tolerance bands)
    (above : ∀ other ∈ bands.flatMap Band.spans, other.box.centerY ≤ span.box.centerY) :
    Stacked tolerance (joinLast tolerance span bands) := by
  have sorted : ((PartsList.joinLast tolerance span bands).flatMap Band.spans).Pairwise
      fun span other => span.box.centerY ≤ other.box.centerY := by
    rw [flatMap_joinLast]
    simpa [List.pairwise_append] using ⟨stacked.sorted, by simpa using above⟩
  obtain rfl | ⟨bands, last, rfl⟩ := List.eq_nil_or_concat' bands
  · refine ⟨?_, sorted, ?_⟩
    · simpa [PartsList.joinLast] using Band.isTotal_single span
    · exact List.pairwise_singleton _ _
  · have refuses := stacked.refuses above
    have total := stacked.total
    obtain ⟨others, -, refused⟩ := List.pairwise_append.1 stacked.refused
    rw [joinLast_concat, joinBands] at sorted ⊢
    by_cases near : last.near tolerance span = true
    · rw [if_pos near] at sorted ⊢
      refine ⟨?_, sorted, ?_⟩
      · have pushed := (total last (by simp)).push span
        simpa [or_imp, forall_and, pushed] using fun band mem => total band (by simp [mem])
      · apply List.pairwise_append.2
        refine ⟨others, List.pairwise_singleton _ _, fun band mem pushed only next there => ?_⟩
        obtain rfl : pushed = last.push span := by simpa using only
        obtain there | rfl : next ∈ last.spans ∨ next = span := by simpa [Band.push] using there
        · exact refused band mem last (by simp) next there
        · exact refuses band mem
    · rw [if_neg near, PartsList.joinBands, List.append_cons] at sorted ⊢
      refine ⟨?_, sorted, ?_⟩
      · have single := Band.isTotal_single span
        intro band mem
        rcases List.mem_append.1 mem with mem | only
        · exact total band mem
        · obtain rfl : band = Band.single span := by simpa using only
          exact single
      · apply List.pairwise_append.2
        refine ⟨stacked.refused, List.pairwise_singleton _ _,
          fun band mem row only next there => ?_⟩
        obtain rfl : row = Band.single span := by simpa using only
        obtain rfl : next = span := by simpa [Band.single] using there
        obtain mem | rfl : band ∈ bands ∨ band = last := by simpa using mem
        · exact refuses band mem
        · simpa using near

/-- Means grow from row to row. -/
theorem pairwise_mean (stacked : Stacked tolerance bands) :
    bands.Pairwise fun above below => above.mean ≤ below.mean := by
  apply stacked.ordered.imp_of_mem
  intro above below there later ordered
  apply (stacked.total below later).le_mean
  intro other of
  exact (stacked.total above there).mean_le fun span inside => ordered span inside other of

end Stacked

section Rows

variable {tolerance : ℚ} {spans waiting : List (Span ℚ)} {bands : List (Band ℚ)}

theorem pairwise_fromTop (spans : List (Span ℚ)) :
    (fromTop spans).Pairwise fun span other => span.box.centerY ≤ other.box.centerY := by
  have linear := Span.isLinear_above (α := ℚ)
  have sorted := List.pairwise_mergeSort linear.trans linear.total spans
  exact sorted.imp fun before => Scalar.ranked_iff.1 before

/-- While texts join from top to bottom the rows stay bands, and only the last one takes texts. -/
theorem stacked_foldl (stacked : Stacked tolerance bands)
    (sorted : (bands.flatMap Band.spans ++ waiting).Pairwise fun span other =>
      span.box.centerY ≤ other.box.centerY) :
    waiting.foldl (fun bands span => joinBands tolerance span bands) bands =
        waiting.foldl (fun bands span => joinLast tolerance span bands) bands ∧
      Stacked tolerance
        (waiting.foldl (fun bands span => joinLast tolerance span bands) bands) := by
  induction waiting generalizing bands with
  | nil => exact ⟨rfl, stacked⟩
  | cons span waiting induction =>
      have above : ∀ other ∈ bands.flatMap Band.spans, other.box.centerY ≤ span.box.centerY :=
        fun other mem => (List.pairwise_append.1 sorted).2.2 other mem span List.mem_cons_self
      rw [List.foldl_cons, List.foldl_cons, stacked.joinBands_eq above]
      apply induction (stacked.joinLast above)
      rwa [flatMap_joinLast, List.append_assoc, List.singleton_append]

/-- The rows are bands, and trying the row that was opened last is as good as trying all. -/
theorem stacked_collectByLast (tolerance : ℚ) (spans : List (Span ℚ)) :
    collectBands tolerance spans = collectByLast tolerance spans ∧
      Stacked tolerance (collectByLast tolerance spans) :=
  stacked_foldl Stacked.nil (pairwise_fromTop spans)

theorem mergeSort_collectByLast (tolerance : ℚ) (spans : List (Span ℚ)) :
    (collectByLast tolerance spans).mergeSort (fun above below =>
      Scalar.ranked above.mean below.mean) = collectByLast tolerance spans := by
  apply List.mergeSort_of_pairwise
  have means := (stacked_collectByLast tolerance spans).2.pairwise_mean
  exact means.imp fun less => Scalar.ranked_iff.2 less

theorem groupRows_eq (spans : List (Span ℚ)) (tolerance : ℚ) :
    groupRows spans tolerance =
      (collectByLast tolerance spans).map fun band => fromLeft band.spans := by
  rw [groupRows, (stacked_collectByLast tolerance spans).1]
  exact congrArg _ (mergeSort_collectByLast tolerance spans)

/-- Exact rows are horizontal bands: trying only the row that was opened last gives the same rows,
the final sort by means leaves them as they were opened, and no text of a row lies below one of a
later row. -/
theorem rows_are_bands (spans : List (Span ℚ)) (tolerance : ℚ) :
    collectBands tolerance spans = collectByLast tolerance spans ∧
      (collectBands tolerance spans).mergeSort (fun above below =>
        Scalar.ranked above.mean below.mean) = collectBands tolerance spans ∧
      groupRows spans tolerance =
        (collectByLast tolerance spans).map (fun band => fromLeft band.spans) ∧
      (groupRows spans tolerance).Pairwise fun above below =>
        ∀ span ∈ above, ∀ other ∈ below, span.box.centerY ≤ other.box.centerY := by
  obtain ⟨same, stacked⟩ := stacked_collectByLast tolerance spans
  refine ⟨same, ?_, groupRows_eq spans tolerance, ?_⟩
  · rw [same, mergeSort_collectByLast]
  · rw [groupRows_eq, List.pairwise_map]
    apply stacked.ordered.imp
    intro above below ordered span inside other of
    exact ordered span ((fromLeft_perm _).mem_iff.1 inside) other ((fromLeft_perm _).mem_iff.1 of)

end Rows

end PartsList
