import Mathlib.Data.List.Induction
import PartsList.Proofs.Extraction.Grouping
import PartsList.Proofs.Extraction.Stability

/-!
# Texts and their positions

The rows that texts are grouped into hold each text once, told apart from the others by its position
in the document.  Every step of the grouping is followed with the positions at hand: texts are
visited from top to bottom, each joins one row or opens one, and the rows and their texts are sorted
in the end.
-/

namespace PartsList

variable {α : Type} [Scalar α]

namespace Band

/-- The row that collects the texts in their order. -/
def ofSpans : List (Span α) → Band α
  | [] => ⟨Scalar.ofNat 0, []⟩
  | first :: spans => spans.foldl push (single first)

theorem ofSpans_concat {spans : List (Span α)} (some : spans ≠ []) (span : Span α) :
    ofSpans (spans ++ [span]) = (ofSpans spans).push span := by
  cases spans with
  | nil => exact absurd rfl some
  | cons first spans => simp [ofSpans]

@[simp]
theorem spans_ofSpans (spans : List (Span α)) : (ofSpans spans).spans = spans := by
  induction spans using List.reverseRecOn with
  | nil => rfl
  | append_singleton spans span induction =>
    by_cases none : spans = []
    · subst none
      rfl
    · rw [ofSpans_concat none, push, induction]

end Band

/-! ## Filing -/

/-- The row that collected texts, whose positions are given, in their order. -/
def collected (row : List (Span α × ℕ)) : Band α :=
  Band.ofSpans (row.map Prod.fst)

theorem collected_concat {row : List (Span α × ℕ)} (some : row ≠ []) (place : Span α × ℕ) :
    collected (row ++ [place]) = (collected row).push place.1 := by
  rw [collected, List.map_append, List.map_singleton, Band.ofSpans_concat (by simpa using some),
    collected]

/-- The visited texts, each with its position, are filed in rows. -/
structure Filed (visited : List (Span α × ℕ)) (rows : List (List (Span α × ℕ)))
    (bands : List (Band α)) : Prop where
  /-- The rows are those that are being collected. -/
  bands : bands = rows.map collected
  /-- Each text is in one row, once. -/
  perm : rows.flatten.Perm visited
  /-- Texts stand in their row as they were visited. -/
  ordered : ∀ row ∈ rows, row.Sublist visited
  /-- Each row has a text. -/
  nonempty : ∀ row ∈ rows, row ≠ []

namespace Filed

variable {visited : List (Span α × ℕ)} {rows : List (List (Span α × ℕ))} {bands : List (Band α)}

theorem nil : Filed ([] : List (Span α × ℕ)) [] [] :=
  ⟨rfl, List.Perm.nil, by simp, by simp⟩

/-- One more text is filed when it is visited. -/
theorem join (filed : Filed visited rows bands) (tolerance : α) (place : Span α × ℕ) :
    ∃ rows', Filed (visited ++ [place]) rows' (joinBands tolerance place.1 bands) := by
  have kept : ∀ row ∈ rows, row.Sublist (visited ++ [place]) := fun row mem =>
    (filed.ordered row mem).trans (List.sublist_append_left _ _)
  rcases joinBands_cases tolerance place.1 bands with
    ⟨before, band, after, parts, -, -, joined⟩ | ⟨-, joined⟩
  · -- The text joins a row.
    rw [filed.bands] at parts
    obtain ⟨front, others, rfl, rfl, found⟩ := List.map_eq_append_iff.1 parts
    obtain ⟨row, back, rfl, rfl, rfl⟩ := List.map_eq_cons_iff.1 found
    have some : row ≠ [] := filed.nonempty row (by simp)
    refine ⟨front ++ (row ++ [place]) :: back, ?_, ?_, ?_, ?_⟩
    · rw [joined]
      simp [collected_concat some]
    · refine List.Perm.trans ?_ (filed.perm.append_right [place])
      simp only [List.flatten_append, List.flatten_cons, List.append_assoc]
      exact (List.perm_append_comm.append_left row).append_left front.flatten
    · intro other mem
      rw [List.mem_append, List.mem_cons] at mem
      rcases mem with mem | rfl | mem
      · exact kept other (by simp [mem])
      · exact (filed.ordered row (by simp)).append (List.Sublist.refl _)
      · exact kept other (by simp [mem])
    · intro other mem
      rw [List.mem_append, List.mem_cons] at mem
      rcases mem with mem | rfl | mem
      · exact filed.nonempty other (by simp [mem])
      · simp
      · exact filed.nonempty other (by simp [mem])
  · -- The text opens a row.
    refine ⟨rows ++ [[place]], ?_, ?_, ?_, ?_⟩
    · rw [joined, filed.bands, List.map_append]
      rfl
    · simpa using filed.perm.append_right [place]
    · intro other mem
      rw [List.mem_append, List.mem_singleton] at mem
      rcases mem with mem | rfl
      · exact kept other mem
      · exact List.sublist_append_right _ _
    · intro other mem
      rw [List.mem_append, List.mem_singleton] at mem
      rcases mem with mem | rfl
      · exact filed.nonempty other mem
      · simp

/-- All texts are filed when they have been visited. -/
theorem foldl (filed : Filed visited rows bands) (tolerance : α) (waiting : List (Span α × ℕ)) :
    ∃ rows', Filed (visited ++ waiting) rows'
      ((waiting.map Prod.fst).foldl (fun bands span => joinBands tolerance span bands) bands) := by
  induction waiting generalizing visited rows bands with
  | nil => exact ⟨rows, by simpa using filed⟩
  | cons place waiting induction =>
    obtain ⟨rows', filed'⟩ := filed.join tolerance place
    simpa using induction filed'

/-- Sorting the rows files the texts in the sorted ones. -/
theorem mergeSort (filed : Filed visited rows bands) (le : Band α → Band α → Bool) :
    ∃ rows', Filed visited rows' (bands.mergeSort le) := by
  have perm := List.mergeSort_perm rows fun upper lower => le (collected upper) (collected lower)
  refine ⟨_, ?_, perm.flatten.trans filed.perm, ?_, ?_⟩
  · rw [filed.bands]
    exact (List.map_mergeSort (f := collected) fun _ _ _ _ => rfl).symm
  · exact fun row mem => filed.ordered row (perm.mem_iff.1 mem)
  · exact fun row mem => filed.nonempty row (perm.mem_iff.1 mem)

end Filed

/-! ## Rows of the document -/

/-- One text was visited before another. -/
def Earlier : Span α × ℕ → Span α × ℕ → Prop :=
  TieBroken (fun place other => place.1.above other.1) (·.2 < ·.2)

/-- The texts of a row from left to right. -/
def leftToRight (row : List (Span α × ℕ)) : List (Span α × ℕ) :=
  row.mergeSort fun place other => place.1.leftOf other.1

/-- The texts of a row from top to bottom, those of one height in document order. -/
def asVisited (row : List (Span α × ℕ)) : List (Span α × ℕ) :=
  (row.mergeSort fun place other => place.2 ≤ other.2).mergeSort fun place other =>
    place.1.above other.1

/-- The mean vertical center that a row had in the end, when its texts had joined it in the order in
which they were visited. -/
def runningMean (row : List (Span α × ℕ)) : α :=
  (collected (asVisited row)).mean

/-- The rows hold the texts of a document with their positions. -/
structure IsGrouping (spans : List (Span α)) (rows : List (List (Span α × ℕ))) : Prop where
  /-- Each text of the document is in one row, once. -/
  perm : rows.flatten.Perm spans.zipIdx
  /-- Each row has a text. -/
  nonempty : ∀ row ∈ rows, row ≠ []
  /-- The running means of the rows never decrease. -/
  means : rows.Pairwise fun upper lower =>
    Scalar.ranked (runningMean upper) (runningMean lower) = true
  /-- A row goes from left to right, where ties are broken by the vertical center, and then by the
  position in the document. -/
  ordered : ∀ row ∈ rows, row.Pairwise
    (TieBroken (fun place other => place.1.leftOf other.1) Earlier)

theorem leftToRight_perm (row : List (Span α × ℕ)) : (leftToRight row).Perm row :=
  List.mergeSort_perm _ _

theorem asVisited_perm (row : List (Span α × ℕ)) : (asVisited row).Perm row :=
  (List.mergeSort_perm _ _).trans (List.mergeSort_perm _ _)

theorem map_leftToRight (row : List (Span α × ℕ)) :
    (leftToRight row).map Prod.fst = fromLeft (collected row).spans := by
  rw [collected, Band.spans_ofSpans]
  exact List.map_mergeSort fun _ _ _ _ => rfl

section Ranked

variable [Scalar.IsRanked α] {spans : List (Span α)} {row visited : List (Span α × ℕ)}

theorem pairwise_leftToRight (ordered : row.Pairwise Earlier) : (leftToRight row).Pairwise
    (TieBroken (fun place other => place.1.leftOf other.1) Earlier) :=
  pairwise_mergeSort_tieBroken (Span.isLinear_leftOf.comap Prod.fst) ordered

/-- The texts of a row can be put in the order again in which they were visited. -/
theorem asVisited_eq (perm : row.Perm visited) (inside : visited ⊆ spans.zipIdx)
    (ordered : visited.Pairwise Earlier) : asVisited row = visited := by
  have sorted : (asVisited row).Pairwise
      (TieBroken (fun place other => place.1.above other.1) (·.2 ≤ ·.2)) := by
    have positions := List.pairwise_mergeSort isLinear_position.trans isLinear_position.total row
    apply pairwise_mergeSort_tieBroken (Span.isLinear_above.comap Prod.fst)
    exact positions.imp of_decide_eq_true
  have ordered' := ordered.imp fun earlier => show TieBroken (fun place other : Span α × ℕ =>
    place.1.above other.1) (·.2 ≤ ·.2) _ _ from ⟨earlier.1, fun same => (earlier.2 same).le⟩
  have perm := (asVisited_perm row).trans perm
  apply eq_of_pairwise_tieBroken perm sorted ordered'
  intro place mem other mem' _ _ least most
  exact eq_of_mem_zipIdx (inside (perm.subset mem)) (inside (perm.subset mem'))
    (Nat.le_antisymm least most)

/-- The texts of a document are filed when all are visited from top to bottom. -/
theorem exists_filed (spans : List (Span α)) (tolerance : α) :
    ∃ visited rows, visited.Perm spans.zipIdx ∧ visited.Pairwise Earlier ∧
      Filed visited rows (collectBands tolerance spans) := by
  obtain ⟨visited, perm, texts, ordered⟩ := isStableSort_fromTop spans
  obtain ⟨rows, filed⟩ := Filed.nil.foldl tolerance visited
  rw [texts] at filed
  exact ⟨visited, rows, perm, ordered, filed⟩

namespace Filed

variable {rows : List (List (Span α × ℕ))} {bands : List (Band α)}

/-- A row that has been put from left to right has the mean that it had when it was filed. -/
theorem runningMean_leftToRight (filed : Filed visited rows bands)
    (perm : visited.Perm spans.zipIdx) (ordered : visited.Pairwise Earlier) (mem : row ∈ rows) :
    runningMean (leftToRight row) = (collected row).mean := by
  have sublist := filed.ordered row mem
  have inside : row ⊆ spans.zipIdx := fun place there => perm.subset (sublist.subset there)
  rw [runningMean, asVisited_eq (leftToRight_perm row) inside (ordered.sublist sublist)]

/-- Rows that are sorted by their means are the rows of the document when each is put from left to
right. -/
theorem isGrouping (filed : Filed visited rows bands) (perm : visited.Perm spans.zipIdx)
    (ordered : visited.Pairwise Earlier)
    (means : bands.Pairwise fun upper lower => Scalar.ranked upper.mean lower.mean = true) :
    IsGrouping spans (rows.map leftToRight) := by
  refine ⟨?_, ?_, ?_, ?_⟩
  · rw [← List.flatMap_def]
    refine (List.Perm.flatMap_left rows fun row _ => leftToRight_perm row).trans ?_
    rw [List.flatMap_id']
    exact filed.perm.trans perm
  · rw [List.forall_mem_map]
    intro row mem none
    exact filed.nonempty row mem (none ▸ leftToRight_perm row).nil_eq.symm
  · rw [filed.bands, List.pairwise_map] at means
    rw [List.pairwise_map]
    refine means.imp_of_mem fun mem mem' less => ?_
    rwa [filed.runningMean_leftToRight perm ordered mem,
      filed.runningMean_leftToRight perm ordered mem']
  · rw [List.forall_mem_map]
    exact fun row mem => pairwise_leftToRight (ordered.sublist (filed.ordered row mem))

end Filed

end Ranked

/-- Grouping loses and duplicates no text, whatever the coordinates and the tolerance are: each text
is in one row, once, no row is empty, the running means of the rows never decrease, and a row goes
from left to right, where ties are broken by the vertical center and then by the position. -/
theorem texts_grouped_once (spans : List (Span Coordinate)) (tolerance : Coordinate) :
    ∃ rows, groupRows spans tolerance = rows.map (·.map Prod.fst) ∧ IsGrouping spans rows := by
  obtain ⟨visited, joined, perm, ordered, filed⟩ := exists_filed spans tolerance
  have linear : IsLinear fun upper lower : Band Coordinate =>
      Scalar.ranked upper.mean lower.mean := Scalar.IsRanked.linear.comap Band.mean
  obtain ⟨rows, filed⟩ := filed.mergeSort fun upper lower => Scalar.ranked upper.mean lower.mean
  have means := List.pairwise_mergeSort linear.trans linear.total (collectBands tolerance spans)
  refine ⟨rows.map leftToRight, ?_, filed.isGrouping perm ordered means⟩
  rw [groupRows]
  simp only [filed.bands, List.map_map]
  exact List.map_congr_left fun row _ => (map_leftToRight row).symm

end PartsList
