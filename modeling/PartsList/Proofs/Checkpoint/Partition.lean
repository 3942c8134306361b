import PartsList.Proofs.Checkpoint.RoundTrip

/-!
# Outcomes of files

A checkpoint has a file in one of its two sets at most.  That stays so whatever is recorded: a file
is where the last operation on it has put it, under whichever of its spellings it was named, and the
entries of the other files are left alone.
-/

namespace PartsList

namespace Checkpoint

/-! ## Two sets without common files -/

/-- No path is recorded with both outcomes. -/
def IsDisjoint (checkpoint : Checkpoint) : Prop :=
  ∀ path, checkpoint.completed.contains path = true → checkpoint.failed.contains path = false

/-- The path is recorded with the outcome and not with the other one. -/
def Records (checkpoint : Checkpoint) (path : Path) (success : Bool) : Prop :=
  ∀ outcome, (checkpoint.side outcome).contains path = (outcome == success)

/-- Both sets are in order, and no file is in both. -/
structure IsPartition (checkpoint : Checkpoint) : Prop where
  /-- Every path comes before those behind it. -/
  ordered : checkpoint.IsOrdered
  /-- No path is recorded with both outcomes. -/
  disjoint : checkpoint.IsDisjoint

/-- Something that is recorded about a file. -/
inductive Operation
  /-- The file was completed. -/
  | markCompleted (path : Path)
  /-- The file failed. -/
  | markFailed (path : Path)
  /-- The file has an outcome, which may be recorded already. -/
  | settle (path : Path) (success : Bool)
deriving DecidableEq, Repr

namespace Operation

/-- The file. -/
def path : Operation → Path
  | markCompleted path | markFailed path | settle path _ => path

/-- The outcome of the file. -/
def success : Operation → Bool
  | markCompleted _ => true
  | markFailed _ => false
  | settle _ success => success

/-- The operation is about the file, whatever its spelling. -/
def concerns (operation : Operation) (path : Path) : Bool :=
  path.same operation.path

theorem concerns_congr (operation : Operation) {path other : Path} (same : path.same other = true) :
    operation.concerns path = operation.concerns other :=
  congrFun (Path.same_eq_of_same same) operation.path

end Operation

/-- Records something about a file. -/
def apply (checkpoint : Checkpoint) : Operation → Checkpoint
  | .markCompleted path => checkpoint.markCompleted path
  | .markFailed path => checkpoint.markFailed path
  | .settle path success => (checkpoint.settle path success).2

/-- Records one thing after another. -/
def run (checkpoint : Checkpoint) (operations : List Operation) : Checkpoint :=
  operations.foldl apply checkpoint

variable {checkpoint : Checkpoint} {path other : Path} {success outcome : Bool}
  {operation : Operation} {operations front back : List Operation}

theorem run_append (checkpoint : Checkpoint) (front back : List Operation) :
    checkpoint.run (front ++ back) = (checkpoint.run front).run back :=
  List.foldl_append

theorem isDisjoint_iff : checkpoint.IsDisjoint ↔
    ∀ path ∈ checkpoint.completed.paths, checkpoint.failed.contains path = false := by
  constructor
  · intro disjoint path mem
    exact disjoint path (List.any_eq_true.2 ⟨path, mem, path.same_refl⟩)
  · intro apart path inside
    obtain ⟨entry, mem, same⟩ := List.any_eq_true.1 inside
    rw [PathSet.contains_congr _ same, apart entry mem]

instance (checkpoint : Checkpoint) : Decidable checkpoint.IsDisjoint :=
  decidable_of_iff' _ isDisjoint_iff

theorem IsDisjoint.records (disjoint : checkpoint.IsDisjoint)
    (inside : (checkpoint.side success).contains path = true) :
    checkpoint.Records path success := by
  intro outcome
  cases success with
  | true =>
      cases outcome with
      | true => exact inside
      | false => exact disjoint path inside
  | false =>
      cases outcome with
      | true => exact Bool.eq_false_iff.2 fun both =>
          Bool.false_ne_true ((disjoint path both).symm.trans inside)
      | false => exact inside

theorem Records.eq {success' : Bool} (records : checkpoint.Records path success)
    (records' : checkpoint.Records path success') : success = success' := by
  have same := (records success).symm.trans (records' success)
  rwa [beq_self_eq_true, eq_comm, beq_iff_eq] at same

theorem Records.congr (records : checkpoint.Records path success) (same : path.same other = true) :
    checkpoint.Records other success :=
  fun outcome => ((checkpoint.side outcome).contains_congr same).symm.trans (records outcome)

/-- What a set contains is decided by its paths that name the place. -/
theorem contains_side_of_mem {after : Checkpoint}
    (same : ∀ third, third.same path = true →
      (third ∈ (after.side outcome).paths ↔ third ∈ (checkpoint.side outcome).paths)) :
    (after.side outcome).contains path = (checkpoint.side outcome).contains path := by
  rw [Bool.eq_iff_iff, PathSet.contains, PathSet.contains, List.any_eq_true, List.any_eq_true]
  refine exists_congr fun third => and_congr_left fun named => same third ?_
  rwa [Path.same_comm]

theorem isPartition_iff :
    checkpoint.IsPartition ↔ checkpoint.IsOrdered ∧ checkpoint.IsDisjoint :=
  ⟨fun partition => ⟨partition.ordered, partition.disjoint⟩,
    fun ⟨ordered, disjoint⟩ => ⟨ordered, disjoint⟩⟩

instance (checkpoint : Checkpoint) : Decidable checkpoint.IsPartition :=
  decidable_of_iff' _ isPartition_iff

/-! ## One operation -/

/-- A file that is marked is in the set of its outcome and in no other; the sets contain of the
other files what they contained. -/
theorem contains_side_mark (checkpoint : Checkpoint) (path : Path) (success : Bool) :
    ((checkpoint.mark path success).side outcome).contains other =
      if other.same path then outcome == success
      else (checkpoint.side outcome).contains other := by
  cases same : other.same path <;> cases success <;> cases outcome <;>
    simp [mark, markCompleted, markFailed, side, PathSet.contains_insert, PathSet.contains_erase,
      same]

theorem mem_side_mark (apart : other.same path = false) :
    other ∈ ((checkpoint.mark path success).side outcome).paths ↔
      other ∈ (checkpoint.side outcome).paths := by
  cases success <;> cases outcome <;>
    simp [mark, markCompleted, markFailed, side, PathSet.mem_insert apart, PathSet.mem_erase apart]

/-- An operation marks the file, or the outcome is recorded already and nothing happens. -/
theorem apply_cases (checkpoint : Checkpoint) (operation : Operation) :
    checkpoint.apply operation = checkpoint.mark operation.path operation.success ∨
      (checkpoint.apply operation = checkpoint ∧
        (checkpoint.side operation.success).contains operation.path = true) := by
  cases operation with
  | markCompleted path => exact Or.inl rfl
  | markFailed path => exact Or.inl rfl
  | settle path success =>
      cases recorded : (checkpoint.side success).contains path with
      | true => exact Or.inr ⟨congrArg Prod.snd (settle_eq_of_recorded recorded), recorded⟩
      | false => exact Or.inl (congrArg Prod.snd (settle_eq_of_new recorded))

theorem IsOrdered.apply (ordered : checkpoint.IsOrdered) (operation : Operation) :
    (checkpoint.apply operation).IsOrdered := by
  cases operation with
  | markCompleted path => exact ordered.mark path true
  | markFailed path => exact ordered.mark path false
  | settle path success => exact ordered.settle path success

/-- After an operation its file is in the set of the outcome and in no other; the sets contain of
the other files what they contained. -/
theorem IsDisjoint.contains_side_apply (disjoint : checkpoint.IsDisjoint) (operation : Operation)
    (outcome : Bool) (other : Path) :
    ((checkpoint.apply operation).side outcome).contains other =
      if operation.concerns other then outcome == operation.success
      else (checkpoint.side outcome).contains other := by
  rcases checkpoint.apply_cases operation with marked | ⟨still, recorded⟩
  · rw [marked, contains_side_mark, Operation.concerns]
  · rw [still]
    split
    · next touched =>
        rw [PathSet.contains_congr _ touched]
        exact disjoint.records recorded outcome
    · rfl

theorem IsDisjoint.apply (disjoint : checkpoint.IsDisjoint) (operation : Operation) :
    (checkpoint.apply operation).IsDisjoint := by
  intro path inside
  have completed := (disjoint.contains_side_apply operation true path).symm.trans inside
  refine (disjoint.contains_side_apply operation false path).trans ?_
  split at completed
  · next touched =>
      rw [if_pos touched, ← beq_iff_eq.1 completed]
      rfl
  · next apart =>
      rw [if_neg apart]
      exact disjoint path completed

/-- The entries of the other files stay, in their spellings. -/
theorem mem_side_apply (apart : operation.concerns other = false) :
    other ∈ ((checkpoint.apply operation).side outcome).paths ↔
      other ∈ (checkpoint.side outcome).paths := by
  rcases checkpoint.apply_cases operation with marked | ⟨still, -⟩
  · rw [marked]
    exact mem_side_mark apart
  · rw [still]

/-- The file of an operation is done after it, and the others are as they were. -/
theorem isProcessed_apply (checkpoint : Checkpoint) (operation : Operation) (other : Path) :
    (checkpoint.apply operation).isProcessed other =
      (operation.concerns other || checkpoint.isProcessed other) := by
  cases operation with
  | markCompleted path => exact checkpoint.isProcessed_mark path other true
  | markFailed path => exact checkpoint.isProcessed_mark path other false
  | settle path success => exact checkpoint.isProcessed_settle path other success

/-! ## Settling -/

/-- A file that was settled is in the set of its outcome. -/
theorem contains_side_settle (checkpoint : Checkpoint) (path : Path) (success : Bool) :
    ((checkpoint.settle path success).2.side success).contains path = true := by
  cases recorded : (checkpoint.side success).contains path with
  | true => rwa [settle_eq_of_recorded recorded]
  | false =>
      rw [settle_eq_of_new recorded, contains_side_mark, if_pos path.same_refl, beq_self_eq_true]

/-- The answer tells whether one of the sets contains the file now and did not before, or did and
does not now. -/
theorem settle_fst_iff (checkpoint : Checkpoint) (path : Path) (success : Bool) :
    (checkpoint.settle path success).1 = true ↔
      ∃ outcome, ((checkpoint.settle path success).2.side outcome).contains path ≠
        (checkpoint.side outcome).contains path := by
  have settled := checkpoint.contains_side_settle path success
  cases recorded : (checkpoint.side success).contains path with
  | true =>
      rw [settle_eq_of_recorded recorded]
      exact ⟨nofun, fun ⟨_, changed⟩ => absurd rfl changed⟩
  | false =>
      refine iff_of_true ?_ ⟨success, ?_⟩
      · rw [settle_eq_of_new recorded]
      · rw [settled, recorded]
        exact Bool.noConfusion

theorem settle_settle (checkpoint : Checkpoint) (path : Path) (success : Bool) :
    (checkpoint.settle path success).2.settle path success =
      (false, (checkpoint.settle path success).2) :=
  settle_eq_of_recorded (checkpoint.contains_side_settle path success)

/-! ## All operations -/

theorem IsOrdered.run (ordered : checkpoint.IsOrdered) (operations : List Operation) :
    (checkpoint.run operations).IsOrdered := by
  induction operations generalizing checkpoint with
  | nil => exact ordered
  | cons operation operations induction => exact induction (ordered.apply operation)

theorem IsDisjoint.run (disjoint : checkpoint.IsDisjoint) (operations : List Operation) :
    (checkpoint.run operations).IsDisjoint := by
  induction operations generalizing checkpoint with
  | nil => exact disjoint
  | cons operation operations induction => exact induction (disjoint.apply operation)

theorem IsPartition.run (partition : checkpoint.IsPartition) (operations : List Operation) :
    (checkpoint.run operations).IsPartition :=
  ⟨partition.ordered.run operations, partition.disjoint.run operations⟩

theorem mem_side_run (apart : ∀ operation ∈ operations, operation.concerns other = false) :
    other ∈ ((checkpoint.run operations).side outcome).paths ↔
      other ∈ (checkpoint.side outcome).paths := by
  induction operations generalizing checkpoint with
  | nil => rfl
  | cons operation operations induction =>
      obtain ⟨first, later⟩ := List.forall_mem_cons.1 apart
      exact (induction later).trans (mem_side_apply first)

/-- A set contains a file that nothing was about, under any spelling, exactly if it did before. -/
theorem contains_side_run (apart : ∀ operation ∈ operations, operation.concerns path = false) :
    ((checkpoint.run operations).side outcome).contains path =
      (checkpoint.side outcome).contains path :=
  contains_side_of_mem fun _ named => mem_side_run fun operation mem =>
    (operation.concerns_congr named).trans (apart operation mem)

/-- A file is done if it was or an operation was about it. -/
theorem isProcessed_run (checkpoint : Checkpoint) (operations : List Operation) (path : Path) :
    (checkpoint.run operations).isProcessed path =
      (operations.any (·.concerns path) || checkpoint.isProcessed path) := by
  induction operations generalizing checkpoint with
  | nil => rfl
  | cons operation operations induction =>
      change ((checkpoint.apply operation).run operations).isProcessed path = _
      rw [induction, isProcessed_apply, List.any_cons, Bool.or_left_comm, Bool.or_assoc]

/-- The last operation on a file decides. -/
theorem IsDisjoint.records_run (disjoint : checkpoint.IsDisjoint)
    (touched : operation.concerns path = true)
    (last : ∀ later ∈ back, later.concerns path = false) :
    (checkpoint.run (front ++ operation :: back)).Records path operation.success := by
  intro outcome
  rw [run_append]
  have before := disjoint.run front
  generalize checkpoint.run front = checkpoint at before
  have kept : ((checkpoint.run (operation :: back)).side outcome).contains path =
      ((checkpoint.apply operation).side outcome).contains path := contains_side_run last
  rw [kept, before.contains_side_apply, if_pos touched]

end Checkpoint

/-- Let a checkpoint's sets be in order and have no file in common.  Then this is so after any
operations.  A file that they touch, under any spelling, is in the set of the last outcome that it
was given and in no other; of the other files the sets contain what they did, in the same spellings;
a file that is done at some point stays so.  And whenever a file is settled, the answer tells
whether that changes the sets it is in, and settling it once more changes nothing. -/
theorem checkpoint_partitioned {checkpoint : Checkpoint} (partition : checkpoint.IsPartition)
    (operations : List Checkpoint.Operation) :
    let after := checkpoint.run operations
    after.IsPartition ∧
    (∀ front operation back, operations = front ++ operation :: back → ∀ path,
      operation.concerns path = true → (∀ later ∈ back, later.concerns path = false) →
        after.Records path operation.success) ∧
    (∀ path, (∀ operation ∈ operations, operation.concerns path = false) → ∀ outcome,
      (after.side outcome).contains path = (checkpoint.side outcome).contains path ∧
      (path ∈ (after.side outcome).paths ↔ path ∈ (checkpoint.side outcome).paths)) ∧
    (∀ front back, operations = front ++ back → ∀ path,
      (checkpoint.run front).isProcessed path = true → after.isProcessed path = true) ∧
    ∀ path success, ∃ changed settled, after.settle path success = (changed, settled) ∧
      (changed = true ↔
        ∃ outcome, (settled.side outcome).contains path ≠ (after.side outcome).contains path) ∧
      (changed = false → settled = after) ∧
      settled.settle path success = (false, settled) := by
  intro after
  refine ⟨partition.run operations, ?_, fun path apart outcome => ?_, ?_, fun path success => ?_⟩
  · rintro front operation back rfl path touched last
    exact partition.disjoint.records_run touched last
  · exact ⟨Checkpoint.contains_side_run apart, Checkpoint.mem_side_run apart⟩
  · rintro front back rfl path done
    rw [show after = (checkpoint.run front).run back from checkpoint.run_append front back,
      Checkpoint.isProcessed_run, done, Bool.or_true]
  · exact ⟨_, _, rfl, after.settle_fst_iff path success, Checkpoint.settle_snd_eq,
      after.settle_settle path success⟩

/-- Two completed files and a failed one. -/
def Checkpoint.spelled : Checkpoint where
  completed := ⟨[⟨"in/a.pdf"⟩, ⟨"in//e.pdf"⟩]⟩
  failed := ⟨[⟨"in/b.pdf"⟩]⟩

/-- The first completed file fails, and the failed one is completed, both under other spellings. -/
def Checkpoint.Operation.respelled : List Checkpoint.Operation :=
  [.settle ⟨"in/./a.pdf"⟩ false, .markCompleted ⟨"in/b.pdf/"⟩, .settle ⟨"in/b.pdf"⟩ true]

/-- Both files change their sets, and the third one stays. -/
theorem checkpoint_partitioned_respelled : Checkpoint.spelled.IsPartition ∧
    let after := Checkpoint.spelled.run Checkpoint.Operation.respelled
    after.IsPartition ∧ after.Records ⟨"in/a.pdf"⟩ false ∧ after.Records ⟨"in/b.pdf"⟩ true ∧
      ⟨"in//e.pdf"⟩ ∈ after.completed.paths ∧
      after.settle ⟨"in//b.pdf"⟩ true = (false, after) := by
  have partition : Checkpoint.spelled.IsPartition := by decide +kernel
  obtain ⟨stays, last, others, -, settles⟩ :=
    checkpoint_partitioned partition Checkpoint.Operation.respelled
  refine ⟨partition, stays, last [] _ _ rfl _ (by decide +kernel) (by decide +kernel),
    last [_, _] _ [] rfl _ (by decide +kernel) nofun,
    ((others _ (by decide +kernel) true).2).2 (by decide +kernel), ?_⟩
  obtain ⟨changed, settled, settle, -, still, -⟩ := settles ⟨"in//b.pdf"⟩ true
  have recorded : changed = false :=
    (congrArg Prod.fst settle).symm.trans (by decide +kernel)
  rw [settle, recorded, still recorded]

end PartsList
