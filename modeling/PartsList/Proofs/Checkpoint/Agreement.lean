import PartsList.Proofs.Checkpoint.Partition
import PartsList.Proofs.Store.LastDelivery

/-!
# Agreement with the store

Alignment goes through the summaries in the order of their paths, and each of them decides about the
place that its path names.  The store has a summary for every spelling of a path, so of several
summaries of one place the last one decides, and the checkpoint can agree with all of them only if
they tell the same outcome.
-/

namespace PartsList

namespace Checkpoint

variable {checkpoint : Checkpoint} {path other : Path} {success outcome : Bool}
  {summary : FileSummary} {summaries front back : List FileSummary}

/-- Summaries of one recorded place tell one outcome. -/
def IsAgreed (checkpoint : Checkpoint) (summaries : List FileSummary) : Prop :=
  ∀ summary ∈ summaries, ∀ other ∈ summaries, checkpoint.isProcessed summary.filePath = true →
    other.filePath.same summary.filePath = true → other.success = summary.success

/-! ## Alignment as operations -/

/-- Every recorded file is settled with the outcome of its summary. -/
def corrections (checkpoint : Checkpoint) (summaries : List FileSummary) : List Operation :=
  (summaries.filter fun summary => checkpoint.isProcessed summary.filePath).map
    fun summary => .settle summary.filePath summary.success

theorem corrections_cons (checkpoint : Checkpoint) (summary : FileSummary)
    (summaries : List FileSummary) :
    checkpoint.corrections (summary :: summaries) =
      if checkpoint.isProcessed summary.filePath then
        .settle summary.filePath summary.success :: checkpoint.corrections summaries
      else checkpoint.corrections summaries := by
  rw [corrections, List.filter_cons]
  split <;> rfl

/-- An alignment settles the recorded files one after another. -/
theorem align_eq_run (checkpoint : Checkpoint) (summaries : List FileSummary) :
    (checkpoint.align summaries).2 = checkpoint.run (checkpoint.corrections summaries) := by
  induction summaries generalizing checkpoint with
  | nil => rfl
  | cons summary summaries induction =>
      have others : (checkpoint.correct summary).2.corrections summaries =
          checkpoint.corrections summaries := by
        unfold corrections
        exact congrArg _ (List.filter_congr fun other _ => isProcessed_correct _ _ _)
      have rest : (checkpoint.align (summary :: summaries)).2 =
          (checkpoint.correct summary).2.run (checkpoint.corrections summaries) :=
        others ▸ induction (checkpoint.correct summary).2
      rw [rest, corrections_cons, correct]
      split <;> rfl

theorem IsDisjoint.align (disjoint : checkpoint.IsDisjoint) (summaries : List FileSummary) :
    (checkpoint.align summaries).2.IsDisjoint := by
  rw [align_eq_run]
  exact disjoint.run _

theorem mem_side_align (apart : ∀ summary ∈ summaries, other.same summary.filePath = false) :
    other ∈ ((checkpoint.align summaries).2.side outcome).paths ↔
      other ∈ (checkpoint.side outcome).paths := by
  rw [align_eq_run]
  refine mem_side_run fun operation mem => ?_
  obtain ⟨summary, inside, rfl⟩ := List.mem_map.1 mem
  exact apart summary (List.mem_filter.1 inside).1

/-- The last summary of a place decides. -/
theorem records_align (disjoint : checkpoint.IsDisjoint)
    (recorded : checkpoint.isProcessed summary.filePath = true)
    (last : ∀ later ∈ back, later.filePath.same summary.filePath = false) :
    (checkpoint.align (front ++ summary :: back)).2.Records summary.filePath summary.success := by
  have split : checkpoint.corrections (front ++ summary :: back) =
      checkpoint.corrections front ++
        .settle summary.filePath summary.success :: checkpoint.corrections back := by
    simp [corrections, recorded]
  rw [align_eq_run, split]
  refine disjoint.records_run summary.filePath.same_refl fun operation mem => ?_
  obtain ⟨later, inside, rfl⟩ := List.mem_map.1 mem
  rw [Operation.concerns, Path.same_comm]
  exact last later (List.mem_filter.1 inside).1

/-! ## Alignments that change nothing -/

/-- An alignment changes nothing exactly if every recorded place has the outcome of its
summaries. -/
theorem align_eq_zero_iff : (checkpoint.align summaries).1 = 0 ↔
    ∀ summary ∈ summaries, checkpoint.isProcessed summary.filePath = true →
      (checkpoint.side summary.success).contains summary.filePath = true := by
  induction summaries generalizing checkpoint with
  | nil => exact ⟨fun _ _ mem => absurd mem List.not_mem_nil, fun _ => rfl⟩
  | cons summary summaries induction =>
      have split : (checkpoint.align (summary :: summaries)).1 =
          ((checkpoint.correct summary).2.align summaries).1 +
            (checkpoint.correct summary).1.toNat := rfl
      have settled : (checkpoint.correct summary).1 = false ↔
          (checkpoint.isProcessed summary.filePath = true →
            (checkpoint.side summary.success).contains summary.filePath = true) := by
        rw [correct]
        split
        · next recorded => rw [settle_fst_eq_false_iff, forall_prop_of_true recorded]
        · next new => exact iff_of_true rfl fun recorded => absurd recorded new
      rw [split, Nat.add_eq_zero_iff, Bool.toNat_eq_zero, List.forall_mem_cons, ← settled, and_comm]
      exact and_congr_right fun still => by rw [correct_snd_eq still, induction]

/-- Of the elements with a property there is a last one. -/
theorem exists_last {α : Type} {keep : α → Bool} {values : List α} {a : α} (mem : a ∈ values)
    (kept : keep a = true) : ∃ front last back, values = front ++ last :: back ∧ keep last = true ∧
      ∀ later ∈ back, keep later = false := by
  induction values using List.reverseRecOn with
  | nil => cases mem
  | append_singleton values last induction =>
      cases own : keep last with
      | true => exact ⟨values, last, [], rfl, own, nofun⟩
      | false =>
          have inside : a ∈ values := by
            rcases List.mem_append.1 mem with inside | same
            · exact inside
            · rw [List.mem_singleton.1 same, own] at kept
              cases kept
          obtain ⟨front, found, back, rfl, holds, others⟩ := induction inside
          refine ⟨front, found, back ++ [last], by simp, holds, fun later mem => ?_⟩
          rcases List.mem_append.1 mem with mem | same
          · exact others later mem
          · rwa [List.mem_singleton.1 same]

/-- The checkpoint agrees with all summaries exactly if those of one place tell one outcome. -/
theorem isAgreed_iff_records (disjoint : checkpoint.IsDisjoint) : checkpoint.IsAgreed summaries ↔
    ∀ summary ∈ summaries, checkpoint.isProcessed summary.filePath = true →
      (checkpoint.align summaries).2.Records summary.filePath summary.success := by
  constructor
  · intro agreed summary mem recorded
    obtain ⟨front, last, back, split, same, later⟩ := @exists_last _
      (fun other => other.filePath.same summary.filePath) summaries summary mem
      summary.filePath.same_refl
    have inside : last ∈ summaries := split ▸ List.mem_append_right _ List.mem_cons_self
    have said : (checkpoint.align summaries).2.Records last.filePath last.success := by
      rw [split]
      refine records_align disjoint ((isProcessed_congr checkpoint same).trans recorded) ?_
      intro other mem
      rw [Path.same_congr same, later other mem]
    rw [← agreed summary mem last inside recorded same]
    exact said.congr same
  · intro records summary mem other mem' recorded same
    have recorded' := (isProcessed_congr checkpoint same).trans recorded
    exact ((records other mem' recorded').congr same).eq (records summary mem recorded)

end Checkpoint

/-! ## The store -/

namespace Database

variable {database : Database} {summaries : List FileSummary}

/-- Every path has one summary. -/
theorem length_filter_loadSummaries {results : List ExtractionResult}
    (tables : database.store? = some (({} : Store).deliverAll results))
    (loads : database.loadSummaries = .ok summaries) (path : String) :
    (summaries.filter (·.filePath.spelling == path)).length ≤ 1 := by
  have part := congrArg List.length (map_filter_of_loadSummaries tables loads path)
  rw [Store.filter_summaries_deliverAll, List.length_map, List.length_map,
    List.length_mergeSort] at part
  rw [← part]
  cases ExtractionResult.last? path results with
  | none => exact Nat.zero_le 1
  | some last => exact Nat.le_refl 1

theorem pairwise_loadSummaries (loads : database.loadSummaries = .ok summaries) :
    summaries.Pairwise (·.filePath.spelling ≤ ·.filePath.spelling) := by
  obtain ⟨table, -, reads⟩ := loadSummaries_eq_ok.1 loads
  refine pairwise_of_map_eq _ ?_ reads
    (List.pairwise_mergeSort StoredSummary.ranked_trans StoredSummary.ranked_total table)
  intro stored stored' summary summary' first second less
  rw [key_of_readSummary first, key_of_readSummary second]
  exact StoredSummary.le_of_ranked less

/-- Behind a summary there are those of later paths. -/
theorem spelling_lt_of_loadSummaries {results : List ExtractionResult}
    {front back : List FileSummary}
    {summary later : FileSummary}
    (tables : database.store? = some (({} : Store).deliverAll results))
    (loads : database.loadSummaries = .ok (front ++ summary :: back)) (mem : later ∈ back) :
    summary.filePath.spelling < later.filePath.spelling := by
  refine String.not_le.1 fun notLater => ?_
  have sorted := (List.pairwise_append.1 (pairwise_loadSummaries loads)).2.1
  have same := String.le_antisymm ((List.pairwise_cons.1 sorted).1 later mem) notLater
  have one := length_filter_loadSummaries tables loads summary.filePath.spelling
  rw [List.filter_append, List.filter_cons, if_pos (beq_self_eq_true _), List.length_append,
    List.length_cons] at one
  have other : later ∈ back.filter (·.filePath.spelling == summary.filePath.spelling) :=
    List.mem_filter.2 ⟨mem, beq_iff_eq.2 same.symm⟩
  have many := List.length_pos_of_mem other
  omega

end Database

/-- Let a checkpoint have no path with both outcomes, and a store have taken any batches.  Then the
alignment keeps which files are done, keeps the entries of all places that have no summary, and
gives every other recorded place the outcome of its summary, or of the one with the last path when
the store knows the place under several paths.  It agrees with all summaries, and the next alignment
has nothing to change, exactly if the summaries of one place tell one outcome. -/
theorem checkpoint_aligned {database : Database} {checkpoint : Checkpoint}
    (empty : database.store? = some {}) (disjoint : checkpoint.IsDisjoint)
    (batches : List (List ExtractionResult)) :
    ∃ summaries count aligned, (database.deliver batches).loadSummaries = .ok summaries ∧
      checkpoint.align summaries = (count, aligned) ∧
      aligned.IsDisjoint ∧
      (∀ path, aligned.isProcessed path = checkpoint.isProcessed path) ∧
      (∀ path, (∀ summary ∈ summaries, path.same summary.filePath = false) → ∀ outcome,
        path ∈ (aligned.side outcome).paths ↔ path ∈ (checkpoint.side outcome).paths) ∧
      (∀ summary ∈ summaries, checkpoint.isProcessed summary.filePath = true →
        (∀ other ∈ summaries, other.filePath.same summary.filePath = true →
          other.filePath.spelling ≤ summary.filePath.spelling) →
        aligned.Records summary.filePath summary.success) ∧
      (checkpoint.IsAgreed summaries ↔
        ∀ summary ∈ summaries, checkpoint.isProcessed summary.filePath = true →
          aligned.Records summary.filePath summary.success) ∧
      (checkpoint.IsAgreed summaries ↔ aligned.align summaries = (0, aligned)) := by
  have tables := Database.store?_deliver empty batches
  obtain ⟨summaries, loads⟩ := Database.exists_loadSummaries tables nofun
  have agreed := @Checkpoint.isAgreed_iff_records checkpoint summaries disjoint
  have stays := disjoint.align summaries
  have done (path : Path) := checkpoint.isProcessed_align path summaries
  refine ⟨summaries, _, _, loads, rfl, stays, done,
    fun path apart outcome => Checkpoint.mem_side_align apart, ?_, agreed, ?_⟩
  · intro summary mem recorded last
    obtain ⟨front, back, rfl⟩ := List.append_of_mem mem
    refine Checkpoint.records_align disjoint recorded fun later behind => ?_
    refine Bool.eq_false_iff.2 fun same => ?_
    have inside : later ∈ front ++ summary :: back :=
      List.mem_append_right _ (List.mem_cons_of_mem _ behind)
    exact String.not_le.2 (Database.spelling_lt_of_loadSummaries tables loads behind)
      (last later inside same)
  · rw [agreed]
    constructor
    · intro records
      have none : ((checkpoint.align summaries).2.align summaries).1 = 0 := by
        refine Checkpoint.align_eq_zero_iff.2 fun summary mem recorded => ?_
        rw [done] at recorded
        exact (records summary mem recorded summary.success).trans (beq_self_eq_true _)
      exact Prod.ext none (Checkpoint.align_eq_of_zero _ _ none)
    · intro again summary mem recorded
      refine stays.records (Checkpoint.align_eq_zero_iff.1 (congrArg Prod.fst again) summary mem ?_)
      rw [done, recorded]

/-- A file succeeds under one path and then fails under another one that names the same place. -/
def ExtractionResult.twiceSpelled : List ExtractionResult :=
  [.succeeded ⟨"in/a.pdf"⟩ [] {}, .failed ⟨"in//a.pdf"⟩ .fileEmpty "" {}]

/-- With such a file every alignment has something to change. -/
theorem checkpoint_aligned_twiceSpelled : ∃ summaries count aligned,
    (Database.fresh.deliver [ExtractionResult.twiceSpelled]).loadSummaries = .ok summaries ∧
      ({ failed := ⟨[⟨"in/a.pdf"⟩]⟩ } : Checkpoint).align summaries = (count, aligned) ∧
      aligned.align summaries ≠ (0, aligned) := by
  have disjoint : ({ failed := ⟨[⟨"in/a.pdf"⟩]⟩ } : Checkpoint).IsDisjoint := nofun
  obtain ⟨summaries, count, aligned, loads, aligns, -, -, -, -, -, again⟩ :=
    @checkpoint_aligned .fresh _ rfl disjoint [ExtractionResult.twiceSpelled]
  have tables := @Database.store?_deliver .fresh {} rfl [ExtractionResult.twiceSpelled]
  obtain ⟨good, only, told⟩ := @Database.summaries_of_last {} _ _ tables summaries "in/a.pdf"
    (.succeeded ⟨"in/a.pdf"⟩ [] {}) loads rfl
  obtain ⟨bad, only', told'⟩ := @Database.summaries_of_last {} _ _ tables summaries "in//a.pdf"
    (.failed ⟨"in//a.pdf"⟩ .fileEmpty "" {}) loads rfl
  have inside : good ∈ summaries := (List.mem_filter.1 (only ▸ List.mem_singleton_self good)).1
  have inside' : bad ∈ summaries := (List.mem_filter.1 (only' ▸ List.mem_singleton_self bad)).1
  refine ⟨summaries, count, aligned, loads, aligns, fun zero => ?_⟩
  have agreed := again.2 zero good inside bad inside' (by rw [told.filePath]; decide +kernel)
    (by rw [told.filePath, told'.filePath]; decide +kernel)
  rw [told.success, told'.success] at agreed
  cases agreed

end PartsList
