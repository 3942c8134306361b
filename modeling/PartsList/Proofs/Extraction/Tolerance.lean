import PartsList.Proofs.Extraction.Bands

/-!
# Rows and tolerances

In exact arithmetic a wider tolerance never gives more rows.  Two courses over the same texts are
compared text by text: as long as the wider one has opened as many rows, its last row holds only
texts of the other's last row, and those lowest in it; so its mean lies no higher, and it takes
every text that the other row takes.
-/

namespace PartsList

namespace Band.IsTotal

variable {wide narrow : Band ℚ}

/-- A row without its upper texts has a mean that is no smaller. -/
theorem mean_le_of_suffix (total : narrow.IsTotal) (total' : wide.IsTotal)
    (sorted : narrow.spans.Pairwise fun span other => span.box.centerY ≤ other.box.centerY)
    (suffix : wide.spans <:+ narrow.spans) : narrow.mean ≤ wide.mean := by
  obtain ⟨upper, parts⟩ := suffix
  rw [← parts, List.pairwise_append] at sorted
  have upper_le : ∀ center ∈ upper.map (·.box.centerY), center ≤ wide.mean := by
    intro center mem
    obtain ⟨span, there, rfl⟩ := List.mem_map.1 mem
    exact total'.le_mean (sorted.2.2 span there)
  have upper_sum := List.sum_le_card_nsmul _ wide.mean upper_le
  rw [List.length_map, nsmul_eq_mul] at upper_sum
  have sum : narrow.centerSum = (upper.map (·.box.centerY)).sum + wide.centerSum := by
    rw [total.centerSum, total'.centerSum, ← parts, List.map_append, List.sum_append]
  have length : (narrow.spans.length : ℚ) = upper.length + wide.spans.length := by
    rw [← parts, List.length_append, Nat.cast_add]
  have wide_sum := total'.centerSum_eq
  rw [mean_eq, div_le_iff₀ total.length_pos, length]
  linarith

end Band.IsTotal

/-- The first rows are fewer than the second, or as many and the last of the first holds only the
lowest texts of the last of the second. -/
def Leads (wide narrow : List (Band ℚ)) : Prop :=
  wide.length < narrow.length ∨ wide.length = narrow.length ∧
    ∀ last ∈ wide.getLast?, ∀ other ∈ narrow.getLast?, last.spans <:+ other.spans

namespace Leads

variable {near far : ℚ} {wide narrow : List (Band ℚ)} {span : Span ℚ} {waiting : List (Span ℚ)}

theorem length_le (leads : Leads wide narrow) : wide.length ≤ narrow.length := by
  rcases leads with fewer | ⟨same, -⟩
  · exact fewer.le
  · exact same.le

/-- The rows with the wider tolerance stay ahead when a text joins both. -/
theorem join (leads : Leads wide narrow) (wider : near ≤ far) (stacked : Stacked near narrow)
    (stacked' : Stacked far wide)
    (above : ∀ other ∈ narrow.flatMap Band.spans, other.box.centerY ≤ span.box.centerY)
    (above' : ∀ other ∈ wide.flatMap Band.spans, other.box.centerY ≤ span.box.centerY) :
    Leads (joinLast far span wide) (joinLast near span narrow) := by
  rcases joinLast_cases far span wide with ⟨others, last, rfl, -, joined⟩ | ⟨refused, joined⟩ <;>
    rcases joinLast_cases near span narrow with
      ⟨others', last', rfl, takes, joined'⟩ | ⟨-, joined'⟩ <;> rw [joined, joined']
  · -- Both rows take the text.
    rcases leads with fewer | ⟨same, suffix⟩
    · left
      simpa using fewer
    · right
      obtain ⟨upper, parts⟩ : last.spans <:+ last'.spans := suffix last (by simp) last' (by simp)
      refine ⟨by simpa using same, ?_⟩
      simp only [List.getLast?_concat, Option.mem_some_iff, forall_eq']
      exact ⟨upper, by simp [Band.push, ← parts]⟩
  · -- Only the wider tolerance lets the last row take the text.
    left
    have fewer := leads.length_le
    simp only [List.length_append, List.length_singleton] at fewer ⊢
    omega
  · -- Only the narrower tolerance does: the wider one has fewer rows.
    have fewer : wide.length < (others' ++ [last']).length := by
      rcases leads with fewer | ⟨same, suffix⟩
      · exact fewer
      · exfalso
        obtain rfl | ⟨others, last, rfl⟩ := List.eq_nil_or_concat' wide
        · simp at same
        · have total := stacked.isTotal_last
          have total' := stacked'.isTotal_last
          have mean := total.mean_le_of_suffix total' (stacked.sorted_last)
            (suffix last (by simp) last' (by simp))
          have refuses := refused last (by simp)
          rw [total.near_iff_of_le fun other of => above other (by simp [of])] at takes
          rw [← Bool.not_eq_true,
            total'.near_iff_of_le fun other of => above' other (by simp [of])] at refuses
          linarith
    rcases Nat.lt_or_ge wide.length others'.length with less | most
    · left
      simpa using less
    · right
      refine ⟨?_, ?_⟩
      · simp only [List.length_append, List.length_singleton] at fewer ⊢
        omega
      · simp only [List.getLast?_concat, Option.mem_some_iff, forall_eq']
        exact ⟨last'.spans, rfl⟩
  · -- The text opens a row in both.
    rcases leads with fewer | ⟨same, -⟩
    · left
      simpa using fewer
    · right
      refine ⟨by simpa using same, ?_⟩
      simp only [List.getLast?_concat, Option.mem_some_iff, forall_eq']
      exact List.suffix_rfl

/-- The rows with the wider tolerance stay ahead while texts join both from top to bottom. -/
theorem foldl (leads : Leads wide narrow) (wider : near ≤ far) (stacked : Stacked near narrow)
    (stacked' : Stacked far wide)
    (sorted : (narrow.flatMap Band.spans ++ waiting).Pairwise fun span other =>
      span.box.centerY ≤ other.box.centerY)
    (same : wide.flatMap Band.spans = narrow.flatMap Band.spans) :
    Leads (waiting.foldl (fun bands span => joinLast far span bands) wide)
      (waiting.foldl (fun bands span => joinLast near span bands) narrow) := by
  induction waiting generalizing wide narrow with
  | nil => exact leads
  | cons span waiting induction =>
      have above : ∀ other ∈ narrow.flatMap Band.spans,
          other.box.centerY ≤ span.box.centerY := fun other mem =>
        (List.pairwise_append.1 sorted).2.2 other mem span List.mem_cons_self
      have above' : ∀ other ∈ wide.flatMap Band.spans,
          other.box.centerY ≤ span.box.centerY := fun other mem => above other (same ▸ mem)
      apply induction (leads.join wider stacked stacked' above above') (stacked.joinLast above)
        (stacked'.joinLast above')
      · rwa [flatMap_joinLast, List.append_assoc, List.singleton_append]
      · rw [flatMap_joinLast, flatMap_joinLast, same]

end Leads

section Count

variable {tolerance : ℚ} {spans waiting : List (Span ℚ)} {band : Band ℚ}

theorem length_groupRows (spans : List (Span ℚ)) (tolerance : ℚ) :
    (groupRows spans tolerance).length = (collectByLast tolerance spans).length := by
  rw [groupRows_eq, List.length_map]

/-- A wider tolerance gives no more rows. -/
theorem length_groupRows_le {near far : ℚ} (wider : near ≤ far) :
    (groupRows spans far).length ≤ (groupRows spans near).length := by
  have leads : Leads (collectByLast far spans) (collectByLast near spans) := by
    apply Leads.foldl _ wider Stacked.nil Stacked.nil (pairwise_fromTop spans) rfl
    exact Or.inr ⟨rfl, by simp⟩
  rw [length_groupRows, length_groupRows]
  exact leads.length_le

/-- A row takes all further texts if all distances are within the tolerance. -/
theorem length_foldl_joinLast (total : band.IsTotal)
    (close : ∀ span ∈ band.spans ++ waiting, ∀ other ∈ band.spans ++ waiting,
      |span.box.centerY - other.box.centerY| ≤ tolerance) :
    (waiting.foldl (fun bands span => joinLast tolerance span bands) [band]).length = 1 := by
  induction waiting generalizing band with
  | nil => rfl
  | cons span waiting induction =>
      have distances : ∀ other ∈ band.spans, -tolerance ≤ other.box.centerY - span.box.centerY ∧
          other.box.centerY - span.box.centerY ≤ tolerance := fun other mem =>
        abs_le.1 (close other (by simp [mem]) span (by simp))
      have least : span.box.centerY - tolerance ≤ band.mean := total.le_mean fun other mem => by
        linarith [(distances other mem).1]
      have most : band.mean ≤ span.box.centerY + tolerance := total.mean_le fun other mem => by
        linarith [(distances other mem).2]
      have near : band.near tolerance span = true := by
        rw [Band.near_iff, abs_le]
        constructor <;> linarith
      have joined : joinLast tolerance span [band] = [band.push span] := by simp [joinLast, near]
      rw [List.foldl_cons, joined]
      apply induction (total.push span)
      simpa [Band.push] using close

/-- Texts that all lie within the tolerance of each other share one row. -/
theorem length_groupRows_eq_one (some : spans ≠ [])
    (close : ∀ span ∈ spans, ∀ other ∈ spans,
      |span.box.centerY - other.box.centerY| ≤ tolerance) :
    (groupRows spans tolerance).length = 1 := by
  have perm : (fromTop spans).Perm spans := List.mergeSort_perm _ _
  rw [length_groupRows, collectByLast]
  cases sorted : fromTop spans with
  | nil => exact absurd (perm.symm.trans (sorted ▸ List.Perm.refl _)).eq_nil some
  | cons first waiting =>
      rw [sorted] at perm
      apply length_foldl_joinLast (Band.isTotal_single first)
      intro span mem other there
      exact close span (perm.mem_iff.1 mem) other (perm.mem_iff.1 there)

/-- In exact arithmetic the number of rows never grows with the tolerance, and it is one as soon as
the tolerance reaches the largest distance between two vertical centers. -/
theorem row_count_antitone (spans : List (Span ℚ)) :
    (∀ near far : ℚ, near ≤ far →
        (groupRows spans far).length ≤ (groupRows spans near).length) ∧
      (spans ≠ [] → ∀ tolerance : ℚ,
        (∀ span ∈ spans, ∀ other ∈ spans,
          |span.box.centerY - other.box.centerY| ≤ tolerance) →
        (groupRows spans tolerance).length = 1) :=
  ⟨fun _ _ wider => length_groupRows_le wider, fun some _ close =>
    length_groupRows_eq_one some close⟩

/-- Two texts a point apart, and a third one two points below. -/
def threeTexts : List (Span ℚ) :=
  [⟨"a", ⟨0, 0, 1, 2⟩⟩, ⟨"b", ⟨0, 1, 1, 3⟩⟩, ⟨"c", ⟨0, 3, 1, 5⟩⟩]

theorem row_count_antitone_three :
    (groupRows threeTexts 2).length ≤ (groupRows threeTexts 1).length ∧
      (groupRows threeTexts 3).length = 1 := by
  have counts := row_count_antitone threeTexts
  refine ⟨counts.1 1 2 (by norm_num), counts.2 (by simp [threeTexts]) 3 ?_⟩
  decide +kernel

end Count

end PartsList
