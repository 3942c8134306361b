import PartsList.Proofs.Checkpoint.Partition
import PartsList.Proofs.Job.Retries

/-!
# Selecting in portions

A limit counts the candidates of a mode and not the files that were discovered.  So whoever resumes
with a limit, records outcomes for what was selected and resumes again goes through the files that
are not done from the first to the last, without skipping or repeating any.
-/

namespace PartsList

/-- No two of the paths name the same place. -/
def Path.AreDistinct (paths : List Path) : Prop :=
  paths.Pairwise fun path later => path.same later = false

instance (paths : List Path) : Decidable (Path.AreDistinct paths) :=
  inferInstanceAs (Decidable (List.Pairwise _ _))

/-- The first paths, as many as the limit allows. -/
def firstOf (limit : Option Nat) (paths : List Path) : List Path :=
  paths.take (limit.getD paths.length)

namespace Checkpoint

/-- The discovered files whose components are those of no completed and of no failed path. -/
def remaining (checkpoint : Checkpoint) (discovered : List Path) : List Path :=
  discovered.filter fun path =>
    ∀ done ∈ checkpoint.completed.paths ++ checkpoint.failed.paths,
      path.components ≠ done.components

/-- The operations are about the given files, each of them, and about no others. -/
structure Covers (operations : List Operation) (files : List Path) : Prop where
  /-- Something is recorded about each file. -/
  each : ∀ path ∈ files, ∃ operation ∈ operations, operation.concerns path = true
  /-- Nothing is recorded about others. -/
  only : ∀ operation ∈ operations, ∃ path ∈ files, operation.concerns path = true

/-- A way to record outcomes of files: in any order, under any spellings, once or several times. -/
structure Marking where
  /-- What is recorded when these files have been selected. -/
  operations : List Path → List Operation
  /-- It is about these files. -/
  covers : ∀ files, Covers (operations files) files

/-- Each file gets its outcome, in the order in which the files were selected. -/
def Marking.ofOutcomes (outcome : Path → Bool) : Marking where
  operations files := files.map fun path => .settle path (outcome path)
  covers files := by
    constructor
    · intro path mem
      exact ⟨_, List.mem_map_of_mem mem, path.same_refl⟩
    · intro operation mem
      obtain ⟨path, selected, rfl⟩ := List.mem_map.1 mem
      exact ⟨path, selected, path.same_refl⟩

end Checkpoint

/-- The files that are selected portion by portion, when each portion is marked before the next one
is selected, and the checkpoint after that. -/
def selectPortions (discovered : List Path) (limit : Option Nat) (checkpoint : Checkpoint) :
    List Checkpoint.Marking → List (List Path) × Checkpoint
  | [] => ([], checkpoint)
  | marking :: markings =>
    let files := selectFiles discovered checkpoint .resume limit
    let (portions, last) :=
      selectPortions discovered limit (checkpoint.run (marking.operations files)) markings
    (files :: portions, last)

variable {discovered files rest : List Path} {checkpoint : Checkpoint} {limit : Option Nat}
  {operations : List Checkpoint.Operation} {markings : List Checkpoint.Marking}

/-! ## One selection -/

theorem selectFiles_eq_firstOf (discovered : List Path) (checkpoint : Checkpoint)
    (mode : SelectionMode) (limit : Option Nat) :
    selectFiles discovered checkpoint mode limit =
      firstOf limit (candidates discovered checkpoint mode) := by
  cases limit with
  | none => exact List.take_length.symm
  | some count => rfl

namespace Checkpoint

theorem isProcessed_eq_false_iff {path : Path} : checkpoint.isProcessed path = false ↔
    ∀ done ∈ checkpoint.completed.paths ++ checkpoint.failed.paths,
      path.components ≠ done.components := by
  simp [isProcessed, PathSet.contains, Path.same, or_imp, forall_and]

theorem candidates_resume (checkpoint : Checkpoint) (discovered : List Path) :
    candidates discovered checkpoint .resume = checkpoint.remaining discovered := by
  refine List.filter_congr fun path _ => ?_
  rw [Bool.eq_iff_iff, Bool.not_eq_true', isProcessed_eq_false_iff, decide_eq_true_eq]

/-- A failed file was not completed. -/
theorem IsDisjoint.not_completed (disjoint : checkpoint.IsDisjoint) {path : Path}
    (failed : path ∈ checkpoint.failed.paths) : checkpoint.completed.contains path = false := by
  have inside : (checkpoint.side false).contains path = true :=
    List.any_eq_true.2 ⟨path, failed, path.same_refl⟩
  exact disjoint.records inside true

/-! ## One portion -/

/-- Once the first of the remaining files have been marked, the others remain. -/
theorem remaining_run (distinct : Path.AreDistinct discovered)
    (split : checkpoint.remaining discovered = files ++ rest) (covers : Covers operations files) :
    (checkpoint.run operations).remaining discovered = rest := by
  have filtered : (checkpoint.run operations).remaining discovered =
      (checkpoint.remaining discovered).filter fun path => !operations.any (·.concerns path) := by
    rw [← candidates_resume, ← candidates_resume, candidates, candidates, List.filter_filter]
    refine List.filter_congr fun path _ => ?_
    rw [isProcessed_run, Bool.not_or]
  have apart : Path.AreDistinct (files ++ rest) := split ▸ List.Pairwise.filter _ distinct
  rw [filtered, split, List.filter_append]
  have marked : files.filter (fun path => !operations.any (·.concerns path)) = [] := by
    refine List.filter_eq_nil_iff.2 fun path mem => ?_
    rw [List.any_eq_true.2 (covers.each path mem)]
    exact Bool.false_ne_true
  have spared : rest.filter (fun path => !operations.any (·.concerns path)) = rest := by
    refine List.filter_eq_self.2 fun later behind => ?_
    rw [Bool.not_eq_true', List.any_eq_false]
    intro operation mem touched
    obtain ⟨path, selected, named⟩ := covers.only operation mem
    have same : path.same later = true := by
      rw [Path.same_congr touched]
      exact named
    exact Bool.false_ne_true
      (((List.pairwise_append.1 apart).2.2 path selected later behind).symm.trans same)
  rw [marked, spared, List.nil_append]

end Checkpoint

/-- A portion is the first of the remaining files, and the others remain once it is marked. -/
theorem remaining_of_portion (distinct : Path.AreDistinct discovered)
    (marking : Checkpoint.Marking) (checkpoint : Checkpoint) (limit : Option Nat) :
    let files := selectFiles discovered checkpoint .resume limit
    files = firstOf limit (checkpoint.remaining discovered) ∧
      (checkpoint.run (marking.operations files)).remaining discovered =
        (checkpoint.remaining discovered).drop
          (limit.getD (checkpoint.remaining discovered).length) := by
  intro files
  have first : files = firstOf limit (checkpoint.remaining discovered) := by
    rw [← checkpoint.candidates_resume, ← selectFiles_eq_firstOf]
  refine ⟨first, Checkpoint.remaining_run distinct ?_ (marking.covers files)⟩
  rw [first, firstOf, List.take_append_drop]

/-! ## All portions -/

/-- The portions are the remaining files in their order, up to those that still remain. -/
theorem flatten_append_remaining (distinct : Path.AreDistinct discovered)
    (checkpoint : Checkpoint) (limit : Option Nat) (markings : List Checkpoint.Marking) :
    (selectPortions discovered limit checkpoint markings).1.flatten ++
        (selectPortions discovered limit checkpoint markings).2.remaining discovered =
      checkpoint.remaining discovered := by
  induction markings generalizing checkpoint with
  | nil => rfl
  | cons marking markings induction =>
      obtain ⟨first, others⟩ := remaining_of_portion distinct marking checkpoint limit
      rw [selectPortions, List.flatten_cons, List.append_assoc, induction, others, first, firstOf,
        List.take_append_drop]

/-- With a limit, that many files are selected at a time. -/
theorem flatten_of_limit (distinct : Path.AreDistinct discovered)
    (checkpoint : Checkpoint) (count : Nat) (markings : List Checkpoint.Marking) :
    (selectPortions discovered (some count) checkpoint markings).1.flatten =
      (checkpoint.remaining discovered).take (markings.length * count) := by
  induction markings generalizing checkpoint with
  | nil => simp [selectPortions]
  | cons marking markings induction =>
      obtain ⟨first, others⟩ := remaining_of_portion distinct marking checkpoint (some count)
      rw [selectPortions, List.flatten_cons, induction, others, first, firstOf, Option.getD_some,
        ← List.take_add, List.length_cons, Nat.add_one_mul, Nat.add_comm]

/-- Without a limit, the first portion is everything that remains. -/
theorem flatten_of_unlimited (distinct : Path.AreDistinct discovered)
    (checkpoint : Checkpoint) (marking : Checkpoint.Marking) (markings : List Checkpoint.Marking) :
    (selectPortions discovered none checkpoint (marking :: markings)).1.flatten =
      checkpoint.remaining discovered := by
  have whole := flatten_append_remaining distinct checkpoint none (marking :: markings)
  obtain ⟨first, -⟩ := remaining_of_portion distinct marking checkpoint none
  rw [firstOf, Option.getD_none, List.take_length] at first
  rw [selectPortions, List.flatten_cons, first] at whole ⊢
  rw [List.append_assoc] at whole
  rw [(List.append_eq_nil_iff.1 (List.append_right_eq_self.1 whole)).1, List.append_nil]

theorem flatten_selectPortions (distinct : Path.AreDistinct discovered)
    (checkpoint : Checkpoint) (limit : Option Nat) (markings : List Checkpoint.Marking) :
    (selectPortions discovered limit checkpoint markings).1.flatten =
      (checkpoint.remaining discovered).take
        (markings.length * limit.getD (checkpoint.remaining discovered).length) := by
  cases limit with
  | some count => exact flatten_of_limit distinct checkpoint count markings
  | none =>
      cases markings with
      | nil => simp [selectPortions]
      | cons marking markings =>
          have enough : (checkpoint.remaining discovered).length ≤
              (markings.length + 1) * (checkpoint.remaining discovered).length :=
            Nat.le_mul_of_pos_left _ (Nat.succ_pos _)
          rw [flatten_of_unlimited distinct, Option.getD_none, List.length_cons,
            List.take_of_length_le enough]

/-- A limit that lets files through brings one more of them at least with each portion. -/
theorem le_mul_limit {total : Nat} (positive : ∀ count ∈ limit, 0 < count)
    {portions : Nat} (many : total ≤ portions) : total ≤ portions * limit.getD total := by
  cases limit with
  | some count => exact many.trans (Nat.le_mul_of_pos_right portions (positive count rfl))
  | none =>
      rcases Nat.eq_zero_or_pos total with rfl | some
      · exact Nat.zero_le _
      · exact Nat.le_mul_of_pos_left total (some.trans_le many)

/-- What is selected are first attempts at the first candidates, as many as the limit allows: at all
discovered files, or at those that are neither completed nor failed, or at the failed files whatever
was discovered, in their order and none of them completed.  If the discovered files are distinct and
one portion of the remaining ones is selected and marked after the other, the portions are the
remaining files in their order up to those that remain in the end, with no file twice, and they are
all of them when there are enough portions. -/
theorem tasks_selected (discovered : List Path) (checkpoint : Checkpoint) (limit : Option Nat) :
    let tasks mode := Job.firstTasks (selectFiles discovered checkpoint mode limit)
    (∀ mode, ∀ task ∈ tasks mode, task.attempt = 1) ∧
    (tasks .fresh).map (·.path) = firstOf limit discovered ∧
    (tasks .resume).map (·.path) = firstOf limit (checkpoint.remaining discovered) ∧
    (tasks .retryFailed).map (·.path) = firstOf limit checkpoint.failed.paths ∧
    (checkpoint.failed.IsOrdered →
      ((tasks .retryFailed).map (·.path)).Pairwise fun path later => path.order later = .lt) ∧
    (checkpoint.IsDisjoint →
      ∀ task ∈ tasks .retryFailed, checkpoint.completed.contains task.path = false) ∧
    (Path.AreDistinct discovered →
      ∀ markings, ∃ portions last,
        selectPortions discovered limit checkpoint markings = (portions, last) ∧
        portions.flatten ++ last.remaining discovered = checkpoint.remaining discovered ∧
        portions.flatten = (checkpoint.remaining discovered).take
          (markings.length * limit.getD (checkpoint.remaining discovered).length) ∧
        Path.AreDistinct portions.flatten ∧
        ((∀ count ∈ limit, 0 < count) →
          (checkpoint.remaining discovered).length ≤ markings.length →
            portions.flatten = checkpoint.remaining discovered)) := by
  intro tasks
  have selected (mode : SelectionMode) :
      (tasks mode).map (·.path) = firstOf limit (candidates discovered checkpoint mode) := by
    rw [Job.map_path_firstTasks, selectFiles_eq_firstOf]
  have resumed := selected .resume
  rw [checkpoint.candidates_resume] at resumed
  refine ⟨fun mode task mem => Job.attempt_of_firstTasks mem, selected .fresh, resumed,
    selected .retryFailed, fun ordered => ?_, fun disjoint task mem => ?_,
      fun distinct markings => ?_⟩
  · rw [selected]
    exact List.Pairwise.sublist (List.take_sublist _ _) ordered
  · have inside : task.path ∈ (tasks .retryFailed).map (·.path) := List.mem_map_of_mem mem
    rw [selected] at inside
    exact disjoint.not_completed (List.mem_of_mem_take inside)
  · have taken := flatten_selectPortions distinct checkpoint limit markings
    refine ⟨_, _, rfl, flatten_append_remaining distinct checkpoint limit markings, taken, ?_,
      fun positive many => ?_⟩
    · rw [taken]
      exact (List.Pairwise.filter _ distinct).sublist (List.take_sublist _ _)
    · rw [taken, List.take_of_length_le (le_mul_limit positive many)]

/-- Five discovered files. -/
def Path.fiveFiles : List Path :=
  [⟨"in//a.pdf"⟩, ⟨"in/b.pdf"⟩, ⟨"in/./c.pdf"⟩, ⟨"in/d.pdf"⟩, ⟨"in//e.pdf"⟩]

/-- The first of them was completed and the last one failed, under other spellings, and so did a
file that is not discovered any more. -/
def Checkpoint.endsDone : Checkpoint where
  completed := ⟨[⟨"in/a.pdf"⟩]⟩
  failed := ⟨[⟨"in/e.pdf"⟩, ⟨"in/f.pdf"⟩]⟩

/-- All files of the first and the third portion are completed, and those of the second one fail. -/
def Checkpoint.Marking.alternating : List Checkpoint.Marking :=
  [.ofOutcomes fun _ => true, .ofOutcomes fun _ => false, .ofOutcomes fun _ => true]

/-- The other three files are selected, two at a time, and the failed ones when they are retried. -/
theorem tasks_selected_twoAtATime :
    Path.AreDistinct Path.fiveFiles ∧
    Checkpoint.endsDone.failed.IsOrdered ∧ Checkpoint.endsDone.IsDisjoint ∧
    (let tasks :=
      Job.firstTasks (selectFiles Path.fiveFiles Checkpoint.endsDone .retryFailed (some 2))
    tasks.map (·.path) = [⟨"in/e.pdf"⟩, ⟨"in/f.pdf"⟩] ∧
      ((tasks.map (·.path)).Pairwise fun path later => path.order later = .lt) ∧
      ∀ task ∈ tasks, Checkpoint.endsDone.completed.contains task.path = false) ∧
    (selectPortions Path.fiveFiles (some 2) Checkpoint.endsDone
        Checkpoint.Marking.alternating).1.flatten =
      [⟨"in/b.pdf"⟩, ⟨"in/./c.pdf"⟩, ⟨"in/d.pdf"⟩] := by
  have distinct : Path.AreDistinct Path.fiveFiles := by decide +kernel
  have ordered : Checkpoint.endsDone.failed.IsOrdered := by decide +kernel
  have disjoint : Checkpoint.endsDone.IsDisjoint := by decide +kernel
  have remain : Checkpoint.endsDone.remaining Path.fiveFiles =
      [⟨"in/b.pdf"⟩, ⟨"in/./c.pdf"⟩, ⟨"in/d.pdf"⟩] := by decide +kernel
  obtain ⟨-, -, -, failed, sorted, retried, enumerates⟩ :=
    tasks_selected Path.fiveFiles Checkpoint.endsDone (some 2)
  obtain ⟨portions, last, selected, -, -, -, whole⟩ :=
    enumerates distinct Checkpoint.Marking.alternating
  refine ⟨distinct, ordered, disjoint, ⟨failed.trans rfl, sorted ordered, retried disjoint⟩, ?_⟩
  rw [selected, whole (by simp) (by rw [remain]; decide), remain]

end PartsList
