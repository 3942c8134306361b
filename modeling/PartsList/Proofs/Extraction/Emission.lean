import Mathlib.Data.List.Forall2
import Mathlib.Data.List.Nodup
import PartsList.Proofs.Extraction.Bands
import PartsList.Proofs.Extraction.Stability

/-!
# Rows and the order of emission

In exact arithmetic the rows do not depend on the order in which the document lists its texts.  Two
courses over the same texts see the same centers from top to bottom, so that their rows have the
same centers.  A row takes all texts of a height or none: a text that the last row has taken leaves
its mean near enough for the next text of that height.  So the texts of a row are told by its
centers, and from left to right they stand in one order, as no two have both centers in common.
-/

namespace PartsList

/-! ## Courses over the same centers -/

section Centers

variable {α : Type} [Scalar α] {tolerance : α} {span span' : Span α} {bands bands' : List (Band α)}

/-- The vertical centers of texts. -/
def heights (spans : List (Span α)) : List α :=
  spans.map (·.box.centerY)

/-- Two rows have the same centers in the same order. -/
structure Band.Alike (band band' : Band α) : Prop where
  /-- The sums are the same. -/
  centerSum : band.centerSum = band'.centerSum
  /-- The centers of their texts are the same. -/
  heights : heights band.spans = heights band'.spans

namespace Band.Alike

variable {band band' : Band α}

theorem single (same : span.box.centerY = span'.box.centerY) :
    (Band.single span).Alike (Band.single span') :=
  ⟨same, congrArg ([·]) same⟩

theorem push (alike : band.Alike band') (same : span.box.centerY = span'.box.centerY) :
    (band.push span).Alike (band'.push span') := by
  constructor
  · rw [Band.push, Band.push, alike.centerSum, same]
  · have heights := alike.heights
    simp_all [PartsList.heights, Band.push]

theorem mean (alike : band.Alike band') : band.mean = band'.mean := by
  have lengths : band.spans.length = band'.spans.length := by
    simpa [PartsList.heights] using congrArg List.length alike.heights
  rw [Band.mean, Band.mean, alike.centerSum, lengths]

theorem near (alike : band.Alike band') (same : span.box.centerY = span'.box.centerY) :
    band.near tolerance span = band'.near tolerance span' := by
  rw [Band.near, Band.near, alike.mean, same]

end Band.Alike

theorem alike_joinBands (alike : List.Forall₂ Band.Alike bands bands')
    (same : span.box.centerY = span'.box.centerY) :
    List.Forall₂ Band.Alike (joinBands tolerance span bands)
      (joinBands tolerance span' bands') := by
  induction alike with
  | nil => exact .cons (Band.Alike.single same) .nil
  | cons first rest induction =>
    rw [joinBands, joinBands, first.near same]
    split
    · exact .cons (first.push same) rest
    · exact .cons first induction

theorem alike_foldl {waiting waiting' : List (Span α)} (same : heights waiting = heights waiting')
    (alike : List.Forall₂ Band.Alike bands bands') :
    List.Forall₂ Band.Alike (waiting.foldl (fun bands span => joinBands tolerance span bands) bands)
      (waiting'.foldl (fun bands span => joinBands tolerance span bands) bands') := by
  induction waiting generalizing waiting' bands bands' with
  | nil =>
    obtain rfl : waiting' = [] := List.map_eq_nil_iff.1 same.symm
    exact alike
  | cons span waiting induction =>
    obtain ⟨span', others, rfl, first, rest⟩ := List.map_eq_cons_iff.1 same.symm
    rw [List.foldl_cons, List.foldl_cons]
    exact induction rest.symm (alike_joinBands alike first.symm)

end Centers

/-! ## Rows apart -/

section Apart

variable {tolerance : ℚ} {span : Span ℚ} {bands : List (Band ℚ)} {band : Band ℚ}

/-- A text that lies no higher than the others moves the mean of the row down. -/
theorem Band.IsTotal.mean_le_mean_push (total : band.IsTotal)
    (above : ∀ other ∈ band.spans, other.box.centerY ≤ span.box.centerY) :
    band.mean ≤ (band.push span).mean := by
  have most : band.mean ≤ span.box.centerY := total.mean_le above
  have sum := total.centerSum_eq
  have length : ((band.push span).spans.length : ℚ) = band.spans.length + 1 := by simp [Band.push]
  rw [Band.mean_eq (band.push span), le_div_iff₀ (total.push span).length_pos, length]
  change band.mean * (band.spans.length + 1) ≤ band.centerSum + span.box.centerY
  linarith

/-- No text of the row lies further below its mean than the tolerance. -/
def Band.IsTight (tolerance : ℚ) (band : Band ℚ) : Prop :=
  ∀ span ∈ band.spans, span.box.centerY ≤ band.mean + tolerance

theorem Band.isTight_single (nonneg : 0 ≤ tolerance) (span : Span ℚ) :
    (Band.single span).IsTight tolerance := by
  intro other only
  obtain rfl : other = span := by simpa [Band.single] using only
  have mean : (Band.single other).mean = other.box.centerY := by
    simp [Band.mean_eq, Band.single]
  linarith

theorem Band.IsTight.push (tight : band.IsTight tolerance) (total : band.IsTotal)
    (above : ∀ other ∈ band.spans, other.box.centerY ≤ span.box.centerY)
    (near : band.near tolerance span = true) : (band.push span).IsTight tolerance := by
  have lower := total.mean_le_mean_push above
  have reached := (total.near_iff_of_le above).1 near
  intro other mem
  obtain mem | rfl : other ∈ band.spans ∨ other = span := by simpa [Band.push] using mem
  · have := tight other mem
    linarith
  · linarith

/-- The rows stay tight when a text joins that none of theirs lies below. -/
theorem isTight_joinLast (nonneg : 0 ≤ tolerance) (stacked : Stacked tolerance bands)
    (above : ∀ other ∈ bands.flatMap Band.spans, other.box.centerY ≤ span.box.centerY)
    (tight : ∀ band ∈ bands, band.IsTight tolerance) :
    ∀ band ∈ joinLast tolerance span bands, band.IsTight tolerance := by
  rcases joinLast_cases tolerance span bands with ⟨others, last, rfl, takes, joined⟩ | ⟨-, joined⟩
  · rw [joined]
    have pushed := (tight last (by simp)).push stacked.isTotal_last
      (fun other of => above other (by simp [of])) takes
    simpa [or_imp, forall_and, pushed] using fun band mem => tight band (by simp [mem])
  · rw [joined]
    simpa [or_imp, forall_and, Band.isTight_single nonneg span] using tight

theorem isTight_foldl {waiting : List (Span ℚ)} (nonneg : 0 ≤ tolerance)
    (stacked : Stacked tolerance bands) (tight : ∀ band ∈ bands, band.IsTight tolerance)
    (sorted : (bands.flatMap Band.spans ++ waiting).Pairwise fun span other =>
      span.box.centerY ≤ other.box.centerY) :
    ∀ band ∈ waiting.foldl (fun bands span => joinLast tolerance span bands) bands,
      band.IsTight tolerance := by
  induction waiting generalizing bands with
  | nil => exact tight
  | cons span waiting induction =>
    have above : ∀ other ∈ bands.flatMap Band.spans, other.box.centerY ≤ span.box.centerY :=
      fun other mem => (List.pairwise_append.1 sorted).2.2 other mem span List.mem_cons_self
    apply induction (stacked.joinLast above) (isTight_joinLast nonneg stacked above tight)
    rwa [flatMap_joinLast, List.append_assoc, List.singleton_append]

/-- Tight rows have no height in common. -/
theorem Stacked.pairwise_lt (stacked : Stacked tolerance bands)
    (tight : ∀ band ∈ bands, band.IsTight tolerance) : bands.Pairwise fun above below =>
      ∀ span ∈ above.spans, ∀ other ∈ below.spans, span.box.centerY < other.box.centerY := by
  refine (stacked.ordered.and stacked.refused).imp_of_mem ?_
  intro above below mem _ parts span inside other of
  -- The upper row has refused the lower text, while all of its own lie within the tolerance.
  have refuses := parts.2 other of
  rw [← Bool.not_eq_true, (stacked.total above mem).near_iff_of_le fun first there =>
    parts.1 first there other of] at refuses
  have reached := tight above mem span inside
  linarith

/-- The texts of a row are those of its heights. -/
theorem spans_eq_filter (apart : bands.Pairwise fun above below =>
      ∀ span ∈ above.spans, ∀ other ∈ below.spans, span.box.centerY < other.box.centerY)
    (mem : band ∈ bands) : band.spans = (bands.flatMap Band.spans).filter
      fun span => span.box.centerY ∈ heights band.spans := by
  obtain ⟨front, back, rfl⟩ := List.append_of_mem mem
  obtain ⟨-, after, before⟩ := List.pairwise_append.1 apart
  have inside : band.spans.filter (fun span => span.box.centerY ∈ heights band.spans) =
      band.spans := List.filter_eq_self.2 fun span there =>
    decide_eq_true (List.mem_map_of_mem there)
  have outside {others : List (Span ℚ)} (ne : ∀ span ∈ others, ∀ other ∈ band.spans,
      other.box.centerY ≠ span.box.centerY) :
      others.filter (fun span => span.box.centerY ∈ heights band.spans) = [] := by
    simpa [heights] using ne
  rw [List.flatMap_append, List.flatMap_cons, List.filter_append, List.filter_append, inside,
    outside, outside, List.append_nil, List.nil_append]
  · simp only [List.mem_flatMap]
    rintro span ⟨lower, there, of⟩ other within
    exact ((List.pairwise_cons.1 after).1 lower there other within span of).ne
  · simp only [List.mem_flatMap]
    rintro span ⟨upper, there, of⟩ other within
    exact (before upper there band List.mem_cons_self span of other within).ne'

end Apart

/-! ## Documents -/

section Documents

variable {tolerance : ℚ} {spans spans' : List (Span ℚ)}

/-- The center of a text. -/
def Span.center (span : Span ℚ) : ℚ × ℚ :=
  (span.box.centerX, span.box.centerY)

/-- Texts that come from top to bottom stand in one order from left to right. -/
theorem fromLeft_eq_of_perm {row row' : List (Span ℚ)} (perm : row.Perm row')
    (sorted : row.Pairwise fun span other => span.box.centerY ≤ other.box.centerY)
    (sorted' : row'.Pairwise fun span other => span.box.centerY ≤ other.box.centerY)
    (apart : (spans.map Span.center).Nodup) (inside : row ⊆ spans) :
    fromLeft row = fromLeft row' := by
  have perm := (fromLeft_perm row).trans (perm.trans (fromLeft_perm row').symm)
  apply eq_of_pairwise_tieBroken perm (pairwise_fromLeft sorted) (pairwise_fromLeft sorted')
  intro span mem other mem' left right upper lower
  have place {span : Span ℚ} (mem : span ∈ fromLeft row) : span ∈ spans :=
    inside ((fromLeft_perm row).mem_iff.1 mem)
  apply List.inj_on_of_nodup_map apart (place mem) (place mem')
  exact Prod.ext (le_antisymm (Scalar.ranked_iff.1 left) (Scalar.ranked_iff.1 right))
    (le_antisymm upper lower)

theorem fromTop_perm_fromTop (perm : spans.Perm spans') : (fromTop spans).Perm (fromTop spans') :=
  (fromTop_perm spans).trans (perm.trans (fromTop_perm spans').symm)

theorem heights_fromTop (perm : spans.Perm spans') :
    heights (fromTop spans) = heights (fromTop spans') := by
  have sorted (spans : List (Span ℚ)) : (heights (fromTop spans)).Pairwise (· ≤ ·) :=
    List.pairwise_map.2 (pairwise_fromTop spans)
  exact List.Perm.eq_of_pairwise (fun _ _ _ _ => le_antisymm) (sorted spans) (sorted spans')
    ((fromTop_perm_fromTop perm).map _)

theorem alike_collectByLast (perm : spans.Perm spans') (tolerance : ℚ) : List.Forall₂ Band.Alike
    (collectByLast tolerance spans) (collectByLast tolerance spans') := by
  rw [← (stacked_collectByLast tolerance spans).1, ← (stacked_collectByLast tolerance spans').1]
  exact alike_foldl (heights_fromTop perm) .nil

/-- The texts of a row, from top to bottom, are those of its heights. -/
theorem spans_of_mem_collectByLast {band : Band ℚ} (nonneg : 0 ≤ tolerance)
    (mem : band ∈ collectByLast tolerance spans) : band.spans = (fromTop spans).filter
      fun span => span.box.centerY ∈ heights band.spans := by
  have stacked := (stacked_collectByLast tolerance spans).2
  have tight : ∀ band ∈ collectByLast tolerance spans, band.IsTight tolerance :=
    isTight_foldl nonneg Stacked.nil (by simp) (pairwise_fromTop spans)
  have same := spans_eq_filter (stacked.pairwise_lt tight) mem
  rwa [flatMap_collectByLast] at same

/-- Two rows with the same heights, one in each course, show their texts in one order. -/
theorem fromLeft_eq_of_alike {band band' : Band ℚ} (perm : spans.Perm spans')
    (apart : (spans.map Span.center).Nodup) (nonneg : 0 ≤ tolerance)
    (mem : band ∈ collectByLast tolerance spans) (mem' : band' ∈ collectByLast tolerance spans')
    (alike : band.Alike band') : fromLeft band.spans = fromLeft band'.spans := by
  have tops := fromTop_perm_fromTop perm
  rw [spans_of_mem_collectByLast nonneg mem, spans_of_mem_collectByLast nonneg mem', alike.heights]
  apply fromLeft_eq_of_perm (tops.filter _) (List.Pairwise.filter _ (pairwise_fromTop spans))
    (List.Pairwise.filter _ (pairwise_fromTop spans')) apart
  exact fun span inside => (fromTop_perm spans).subset (List.mem_of_mem_filter inside)

/-- In exact arithmetic the rows, and the order of the texts in each, do not depend on the order in
which the texts are listed, if no two of them have both centers in common. -/
theorem emission_order_ignored (perm : spans.Perm spans') (apart : (spans.map Span.center).Nodup)
    (nonneg : 0 ≤ tolerance) : groupRows spans tolerance = groupRows spans' tolerance := by
  obtain ⟨length, alike⟩ := List.forall₂_iff_zip.1 (alike_collectByLast perm tolerance)
  have rows : List.Forall₂ (fun band band' => fromLeft band.spans = fromLeft band'.spans)
      (collectByLast tolerance spans) (collectByLast tolerance spans') := by
    refine List.forall₂_iff_zip.2 ⟨length, fun {band band'} both => ?_⟩
    obtain ⟨mem, mem'⟩ := List.of_mem_zip both
    exact fromLeft_eq_of_alike perm apart nonneg mem mem' (alike both)
  rw [groupRows_eq, groupRows_eq]
  rw [← List.forall₂_eq_eq_eq, List.forall₂_map_left_iff, List.forall₂_map_right_iff]
  exact rows

/-- Three texts, two of them at one height. -/
def levelTexts : List (Span ℚ) :=
  [⟨"QTY", ⟨8, 0, 10, 2⟩⟩, ⟨"PT NO", ⟨0, 0, 2, 2⟩⟩, ⟨"DESCRIPTION", ⟨4, 1, 6, 3⟩⟩]

theorem emission_order_ignored_level :
    (levelTexts.map Span.center).Nodup ∧
      groupRows levelTexts 1 = groupRows levelTexts.reverse 1 := by
  have apart : (levelTexts.map Span.center).Nodup := by decide +kernel
  exact ⟨apart, emission_order_ignored (List.reverse_perm levelTexts).symm apart (by norm_num)⟩

end Documents

end PartsList
