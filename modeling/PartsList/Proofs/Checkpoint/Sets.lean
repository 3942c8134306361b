import Mathlib.Order.Compare
import PartsList.Checkpoint.Alignment

/-!
# Sets of paths

Two paths are the same place exactly if neither comes before the other, so a set holds a path in one
spelling at most, and what a set contains does not depend on spellings.
-/

namespace PartsList

namespace Component

theorem order_eq_iff (left right : Component) : left.order right = .eq ↔ left = right := by
  have equal {α : Type} [LT α] [DecidableLT α] [DecidableEq α] (irrefl : ∀ x : α, ¬ x < x)
      (x y : α) : compareOfLessAndEq x y = .eq ↔ x = y := by
    unfold compareOfLessAndEq
    constructor
    · intro same
      split at same
      · cases same
      · split at same
        · next equal => exact equal
        · cases same
    · rintro rfl
      rw [if_neg (irrefl x), if_pos rfl]
  cases left with
  | normal name =>
      cases right with
      | normal other =>
          rw [Component.order, equal String.lt_irrefl, Component.normal.injEq]
      | root | current | parent => exact ⟨nofun, nofun⟩
  | root | current | parent =>
      cases right with
      | normal name => exact ⟨nofun, nofun⟩
      | root | current | parent => decide

end Component

namespace Path

theorem orderComponents_eq_iff (left right : List Component) :
    orderComponents left right = .eq ↔ left = right := by
  induction left generalizing right with
  | nil => cases right <;> simp [orderComponents]
  | cons first rest induction =>
      cases right with
      | nil => simp [orderComponents]
      | cons other others =>
          rw [orderComponents, Ordering.then_eq_eq, Component.order_eq_iff, induction,
            List.cons.injEq]

/-- Paths are the same place exactly if neither comes before the other. -/
theorem order_eq_iff (path other : Path) : path.order other = .eq ↔ path.same other = true := by
  rw [order, orderComponents_eq_iff, same, beq_iff_eq]

theorem same_refl (path : Path) : path.same path = true :=
  beq_self_eq_true _

theorem same_comm (path other : Path) : path.same other = other.same path :=
  Bool.beq_comm

/-- The same places are the same as any third place. -/
theorem same_congr {path other : Path} (same : path.same other = true) (third : Path) :
    third.same path = third.same other := by
  rw [Path.same, Path.same, beq_iff_eq.1 same]

theorem same_eq_of_same {path other : Path} (same : path.same other = true) :
    path.same = other.same :=
  funext fun third => by rw [path.same_comm, other.same_comm, same_congr same]

end Path

namespace PathSet

variable (set : PathSet) (path other : Path)

theorem any_insertSorted (paths : List Path) :
    (insertSorted path paths).any other.same = (other.same path || paths.any other.same) := by
  induction paths with
  | nil => simp [insertSorted]
  | cons first rest induction =>
      cases order : path.order first with
      | lt => simp [insertSorted, order]
      | eq =>
          have same := Path.same_congr ((path.order_eq_iff first).1 order) other
          simp [insertSorted, order, same]
      | gt => simp [insertSorted, order, induction, Bool.or_left_comm]

theorem contains_insert :
    (set.insert path).contains other = (other.same path || set.contains other) :=
  any_insertSorted path other set.paths

theorem contains_erase :
    (set.erase path).contains other = (set.contains other && !other.same path) := by
  rw [Bool.eq_iff_iff]
  simp only [contains, erase, List.any_filter, List.any_eq_true, Bool.and_eq_true,
    Bool.not_eq_true']
  constructor
  · rintro ⟨member, mem, apart, same⟩
    refine ⟨⟨member, mem, same⟩, ?_⟩
    rw [Path.same_comm, Path.same_congr same, apart]
  · rintro ⟨⟨member, mem, same⟩, apart⟩
    refine ⟨member, mem, ?_, same⟩
    rw [← Path.same_congr same, Path.same_comm, apart]

variable {set path other}

/-- Whether a set contains a path does not depend on how that is spelled. -/
theorem contains_congr (set : PathSet) (same : path.same other = true) :
    set.contains path = set.contains other := by
  rw [contains, contains, Path.same_eq_of_same same]

theorem mem_insert (apart : other.same path = false) :
    other ∈ (set.insert path).paths ↔ other ∈ set.paths := by
  have different : other ≠ path := by
    rintro rfl
    exact Bool.false_ne_true (apart.symm.trans other.same_refl)
  have inserted (paths : List Path) : other ∈ insertSorted path paths ↔ other ∈ paths := by
    induction paths with
    | nil => simp [insertSorted, different]
    | cons first rest induction =>
        unfold insertSorted
        split
        · simp [different]
        · rfl
        · simp [induction]
  exact inserted set.paths

theorem mem_erase (apart : other.same path = false) :
    other ∈ (set.erase path).paths ↔ other ∈ set.paths := by
  simp [erase, List.mem_filter, path.same_comm other, apart]

end PathSet

namespace Checkpoint

variable (checkpoint : Checkpoint) (path other : Path) (success : Bool)

/-- A file that is recorded is done, and the others are as they were. -/
theorem isProcessed_mark :
    (checkpoint.mark path success).isProcessed other =
      (other.same path || checkpoint.isProcessed other) := by
  cases success with
  | true =>
      simp only [mark, markCompleted, isProcessed, PathSet.contains_insert, PathSet.contains_erase,
        if_true]
      cases other.same path <;> simp
  | false =>
      simp only [mark, markFailed, isProcessed, PathSet.contains_insert, PathSet.contains_erase,
        Bool.false_eq_true, if_false]
      cases other.same path <;> simp

/-- Whether a file is done does not depend on how it is spelled. -/
theorem isProcessed_congr {path other : Path} (same : path.same other = true) :
    checkpoint.isProcessed path = checkpoint.isProcessed other := by
  rw [isProcessed, isProcessed, PathSet.contains_congr _ same, PathSet.contains_congr _ same]

theorem isProcessed_of_contains {checkpoint : Checkpoint} {path : Path} {success : Bool}
    (inside : (checkpoint.side success).contains path = true) :
    checkpoint.isProcessed path = true := by
  rw [isProcessed, Bool.or_eq_true]
  cases success with
  | true => exact Or.inl inside
  | false => exact Or.inr inside

theorem settle_eq_of_recorded {checkpoint : Checkpoint} {path : Path} {success : Bool}
    (recorded : (checkpoint.side success).contains path = true) :
    checkpoint.settle path success = (false, checkpoint) :=
  if_pos recorded

theorem settle_eq_of_new {checkpoint : Checkpoint} {path : Path} {success : Bool}
    (new : (checkpoint.side success).contains path = false) :
    checkpoint.settle path success = (true, checkpoint.mark path success) :=
  if_neg (Bool.eq_false_iff.1 new)

/-- A file that was settled is done, and the others are as they were. -/
theorem isProcessed_settle :
    (checkpoint.settle path success).2.isProcessed other =
      (other.same path || checkpoint.isProcessed other) := by
  cases recorded : (checkpoint.side success).contains path with
  | true =>
      rw [settle_eq_of_recorded recorded]
      cases same : other.same path with
      | false => rfl
      | true =>
          rw [Bool.true_or, isProcessed_congr checkpoint same]
          exact isProcessed_of_contains recorded
  | false => rw [settle_eq_of_new recorded, isProcessed_mark]

/-- Agreement with the store changes no file's being done. -/
theorem isProcessed_correct (summary : FileSummary) :
    (checkpoint.correct summary).2.isProcessed other = checkpoint.isProcessed other := by
  unfold correct
  split
  · next done =>
      rw [isProcessed_settle]
      cases same : other.same summary.filePath with
      | false => rfl
      | true => rw [Bool.true_or, isProcessed_congr checkpoint same, done]
  · rfl

theorem isProcessed_align (summaries : List FileSummary) :
    (checkpoint.align summaries).2.isProcessed other = checkpoint.isProcessed other := by
  induction summaries generalizing checkpoint with
  | nil => rfl
  | cons summary summaries induction =>
      exact (induction (checkpoint.correct summary).2).trans
        (isProcessed_correct checkpoint other summary)

/-! ## Answers that nothing changed -/

variable {checkpoint path success}

theorem settle_fst_eq_false_iff : (checkpoint.settle path success).1 = false ↔
    (checkpoint.side success).contains path = true := by
  cases recorded : (checkpoint.side success).contains path with
  | true => rw [settle_eq_of_recorded recorded]; simp
  | false => rw [settle_eq_of_new recorded]; simp

theorem settle_snd_eq (unchanged : (checkpoint.settle path success).1 = false) :
    (checkpoint.settle path success).2 = checkpoint := by
  rw [settle_eq_of_recorded (settle_fst_eq_false_iff.1 unchanged)]

theorem correct_snd_eq {summary : FileSummary}
    (unchanged : (checkpoint.correct summary).1 = false) :
    (checkpoint.correct summary).2 = checkpoint := by
  unfold correct at unchanged ⊢
  split
  · next done =>
      rw [if_pos done] at unchanged
      exact settle_snd_eq unchanged
  · rfl

/-- An alignment that counts no change makes none. -/
theorem align_eq_of_zero (checkpoint : Checkpoint) (summaries : List FileSummary)
    (none : (checkpoint.align summaries).1 = 0) : (checkpoint.align summaries).2 = checkpoint := by
  induction summaries generalizing checkpoint with
  | nil => rfl
  | cons summary summaries induction =>
      have count : ((checkpoint.correct summary).2.align summaries).1 +
          (checkpoint.correct summary).1.toNat = 0 := none
      obtain ⟨rest, first⟩ := Nat.add_eq_zero_iff.1 count
      exact (induction _ rest).trans (correct_snd_eq (Bool.toNat_eq_zero.1 first))

end Checkpoint

end PartsList
