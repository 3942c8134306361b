import Mathlib.Data.List.Perm.Basic
import PartsList.Extraction.Rows

/-!
# Grouping keeps the texts

The rows that texts are grouped into hold each text as often as it was there, whatever the numbers
are that its box is given by.
-/

namespace PartsList

variable {α : Type} [Scalar α] {tolerance : α}

theorem fromLeft_perm (row : List (Span α)) : (fromLeft row).Perm row :=
  List.mergeSort_perm _ _

theorem fromTop_perm (spans : List (Span α)) : (fromTop spans).Perm spans :=
  List.mergeSort_perm _ _

theorem fromLeft_of_sorted {row : List (Span α)}
    (sorted : row.Pairwise fun left right => Scalar.ranked left.box.centerX right.box.centerX) :
    fromLeft row = row :=
  List.mergeSort_of_pairwise sorted

/-- A text joins the first row near it, or opens one behind the others if there is none. -/
theorem joinBands_cases (tolerance : α) (span : Span α) (bands : List (Band α)) :
    (∃ front band back, bands = front ++ band :: back ∧
        (∀ other ∈ front, other.near tolerance span = false) ∧ band.near tolerance span = true ∧
        joinBands tolerance span bands = front ++ band.push span :: back) ∨
      (∀ other ∈ bands, other.near tolerance span = false) ∧
        joinBands tolerance span bands = bands ++ [Band.single span] := by
  induction bands with
  | nil => exact .inr ⟨by simp, rfl⟩
  | cons band bands induction =>
    rw [joinBands]
    by_cases near : band.near tolerance span = true
    · exact .inl ⟨[], band, bands, rfl, by simp, near, if_pos near⟩
    · have refused : band.near tolerance span = false := by simpa using near
      rw [if_neg near]
      rcases induction with ⟨front, taker, back, rfl, others, takes, joined⟩ | ⟨others, joined⟩
      · refine .inl ⟨band :: front, taker, back, rfl, ?_, takes, by rw [joined]; rfl⟩
        simpa [refused] using others
      · refine .inr ⟨?_, by rw [joined]; rfl⟩
        simpa [refused] using others

/-- A text that joins the rows is one more text in them. -/
theorem flatMap_joinBands_perm (span : Span α) (bands : List (Band α)) :
    ((joinBands tolerance span bands).flatMap Band.spans).Perm
      (span :: bands.flatMap Band.spans) := by
  rcases joinBands_cases tolerance span bands with
    ⟨front, band, back, rfl, -, -, joined⟩ | ⟨-, joined⟩
  · rw [joined, List.flatMap_append, List.flatMap_cons, List.flatMap_append, List.flatMap_cons,
      Band.push, List.append_assoc, List.singleton_append]
    exact (List.perm_middle.append_left _).trans List.perm_middle
  · rw [joined, List.flatMap_append]
    exact List.perm_append_singleton span _

theorem flatMap_collectBands_perm (spans : List (Span α)) :
    ((collectBands tolerance spans).flatMap Band.spans).Perm spans := by
  suffices collects : ∀ (waiting : List (Span α)) (bands : List (Band α)),
      ((waiting.foldl (fun bands span => joinBands tolerance span bands) bands).flatMap
        Band.spans).Perm (waiting ++ bands.flatMap Band.spans) by
    have all := collects (fromTop spans) []
    rw [List.flatMap_nil, List.append_nil] at all
    exact all.trans (fromTop_perm spans)
  intro waiting
  induction waiting with
  | nil => exact fun _ => List.Perm.refl _
  | cons span waiting induction =>
      intro bands
      refine (induction (joinBands tolerance span bands)).trans ?_
      exact ((flatMap_joinBands_perm span bands).append_left waiting).trans List.perm_middle

/-- The rows hold the texts that were grouped, each as often as it was there. -/
theorem flatten_groupRows_perm (spans : List (Span α)) :
    (groupRows spans tolerance).flatten.Perm spans := by
  have sorted : ((collectBands tolerance spans).mergeSort fun left right =>
      Scalar.ranked left.mean right.mean).Perm (collectBands tolerance spans) :=
    List.mergeSort_perm _ _
  have rows (bands : List (Band α)) : ((bands.map fun band => fromLeft band.spans).flatten).Perm
      (bands.flatMap Band.spans) := by
    rw [← List.flatMap_def]
    exact List.Perm.flatMap_left bands fun band _ => fromLeft_perm band.spans
  exact (rows _).trans ((sorted.flatMap_right Band.spans).trans (flatMap_collectBands_perm spans))

theorem mem_flatten_groupRows {span : Span α} {spans : List (Span α)} :
    span ∈ (groupRows spans tolerance).flatten ↔ span ∈ spans :=
  (flatten_groupRows_perm spans).mem_iff

theorem groupRows_ne_nil {spans : List (Span α)} (some : spans ≠ []) :
    groupRows spans tolerance ≠ [] := by
  intro none
  have perm := @flatten_groupRows_perm _ _ tolerance spans
  rw [none] at perm
  exact some perm.nil_eq.symm

/-- Texts that come from top to bottom are in the rows that they open and join, if these come from
top to bottom and their texts from left to right. -/
theorem groupRows_of_sorted {spans : List (Span α)} {bands : List (Band α)}
    (sorted : spans.Pairwise fun left right => Scalar.ranked left.box.centerY right.box.centerY)
    (collected : spans.foldl (fun bands span => joinBands tolerance span bands) [] = bands)
    (ordered : bands.Pairwise fun left right => Scalar.ranked left.mean right.mean)
    (rows : ∀ band ∈ bands, band.spans.Pairwise fun left right =>
      Scalar.ranked left.box.centerX right.box.centerX) :
    groupRows spans tolerance = bands.map Band.spans := by
  have top : fromTop spans = spans := List.mergeSort_of_pairwise sorted
  unfold groupRows collectBands
  dsimp only
  rw [top, collected, List.mergeSort_of_pairwise ordered]
  exact List.map_congr_left fun band mem => fromLeft_of_sorted (rows band mem)

end PartsList
