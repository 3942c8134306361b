import PartsList.Extraction.Rows
import PartsList.Proofs.Number.Comparison
import PartsList.Proofs.Sorting

/-!
# Stable order

Texts are sorted by the ranks of their centers, and texts whose centers have one rank stay in the
order in which they were.  The rank places all values, the value that is no number included, so that
this holds whatever the boxes are given by.
-/

namespace PartsList

/-- The rank places all values in one line. -/
class Scalar.IsRanked (α : Type) [Scalar α] : Prop where
  /-- Its order is linear. -/
  linear : IsLinear fun x y : α => Scalar.ranked x y

instance : Scalar.IsRanked Coordinate where
  linear := by
    have rank {x y : Coordinate} : Scalar.ranked x y = true ↔
        Scalar.singleRank x ≤ Scalar.singleRank y := decide_eq_true_iff
    constructor
    · intro x y z
      simp only [rank]
      exact Int.le_trans
    · intro x y
      simp only [Bool.or_eq_true, rank]
      exact Int.le_total _ _

instance : Scalar.IsRanked ℚ where
  linear := by
    constructor
    · intro x y z
      simp only [Scalar.ranked_iff]
      exact le_trans
    · intro x y
      simp only [Bool.or_eq_true, Scalar.ranked_iff]
      exact le_total x y

namespace Span

variable {α : Type} [Scalar α]

/-- The text is drawn no further right than the other, by the ranks of their centers. -/
def leftOf (span other : Span α) : Bool :=
  Scalar.ranked span.box.centerX other.box.centerX

/-- The text is drawn no lower than the other, by the ranks of their centers. -/
def above (span other : Span α) : Bool :=
  Scalar.ranked span.box.centerY other.box.centerY

theorem isLinear_leftOf [Scalar.IsRanked α] : IsLinear (leftOf : Span α → Span α → Bool) :=
  Scalar.IsRanked.linear.comap fun span : Span α => span.box.centerX

theorem isLinear_above [Scalar.IsRanked α] : IsLinear (above : Span α → Span α → Bool) :=
  Scalar.IsRanked.linear.comap fun span : Span α => span.box.centerY

end Span

section Texts

variable {α : Type} [Scalar α] [Scalar.IsRanked α]

theorem isStableSort_fromLeft (spans : List (Span α)) :
    IsStableSort Span.leftOf spans (fromLeft spans) :=
  isStableSort_mergeSort Span.isLinear_leftOf spans

theorem isStableSort_fromTop (spans : List (Span α)) :
    IsStableSort Span.above spans (fromTop spans) :=
  isStableSort_mergeSort Span.isLinear_above spans

/-- Rows that are computed by a sort that recurs on the list itself. -/
theorem fromLeft_eq_insertionSort (spans : List (Span α)) :
    fromLeft spans = spans.insertionSort fun span other => span.leftOf other = true :=
  mergeSort_eq_insertionSort Span.isLinear_leftOf spans

theorem fromTop_eq_insertionSort (spans : List (Span α)) :
    fromTop spans = spans.insertionSort fun span other => span.above other = true :=
  mergeSort_eq_insertionSort Span.isLinear_above spans

theorem groupRows_eq_insertionSort (spans : List (Span α)) (tolerance : α) :
    groupRows spans tolerance =
      (((spans.insertionSort fun span other => span.above other = true).foldl
          (fun bands span => joinBands tolerance span bands) []).insertionSort
        fun band other => Scalar.ranked band.mean other.mean = true).map fun band =>
          band.spans.insertionSort fun span other => span.leftOf other = true := by
  have linear : IsLinear fun band other : Band α => Scalar.ranked band.mean other.mean :=
    Scalar.IsRanked.linear.comap Band.mean
  simp only [groupRows, collectBands, fromTop_eq_insertionSort, fromLeft_eq_insertionSort,
    mergeSort_eq_insertionSort linear]

theorem pairwise_fromLeft {next : Span α → Span α → Prop} {spans : List (Span α)}
    (ordered : spans.Pairwise next) : (fromLeft spans).Pairwise (TieBroken Span.leftOf next) :=
  pairwise_mergeSort_tieBroken Span.isLinear_leftOf ordered

end Texts

end PartsList
