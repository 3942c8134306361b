import PartsList.Proofs.Checkpoint.Reading
import PartsList.Proofs.Checkpoint.Sets
import PartsList.Proofs.Path.Order
import PartsList.Proofs.Timestamp.RoundTrip

/-!
# Saved checkpoints

A checkpoint that was saved is in its file as it was saved: both sets with every path as it was
spelled, and the time.  For a set of paths is kept in order whatever is put into it or taken out,
and one that is in order is the set of its own paths, in the spellings that it has.
-/

namespace PartsList

namespace PathSet

variable {set : PathSet} {path : Path} {paths : List Path}

/-- Every path comes before those behind it. -/
def IsOrdered (set : PathSet) : Prop :=
  set.paths.Pairwise fun path later => path.order later = .lt

instance (set : PathSet) : Decidable set.IsOrdered :=
  inferInstanceAs (Decidable (List.Pairwise _ _))

theorem mem_insertSorted {other : Path} (mem : other ∈ insertSorted path paths) :
    other = path ∨ other ∈ paths := by
  induction paths with
  | nil => exact Or.inl (List.mem_singleton.1 mem)
  | cons first rest induction =>
      rw [insertSorted] at mem
      split at mem
      · exact List.mem_cons.1 mem
      · exact Or.inr mem
      · rcases List.mem_cons.1 mem with rfl | mem
        · exact Or.inr List.mem_cons_self
        · exact (induction mem).imp id (List.mem_cons_of_mem first)

theorem IsOrdered.insert (ordered : set.IsOrdered) (path : Path) : (set.insert path).IsOrdered := by
  obtain ⟨paths⟩ := set
  change (insertSorted path paths).Pairwise _
  replace ordered : paths.Pairwise fun path later => path.order later = .lt := ordered
  induction paths with
  | nil => exact List.pairwise_singleton _ _
  | cons first rest induction =>
      obtain ⟨before, others⟩ := List.pairwise_cons.1 ordered
      rw [insertSorted]
      split
      · next less =>
          refine List.pairwise_cons.2 ⟨fun other mem => ?_, ordered⟩
          rcases List.mem_cons.1 mem with rfl | mem
          · exact less
          · exact Std.TransCmp.lt_trans less (before other mem)
      · exact ordered
      · next greater =>
          refine List.pairwise_cons.2 ⟨fun other mem => ?_, induction others⟩
          rcases mem_insertSorted mem with rfl | mem
          · exact Std.OrientedCmp.lt_of_gt greater
          · exact before other mem

theorem IsOrdered.erase (ordered : set.IsOrdered) (path : Path) : (set.erase path).IsOrdered :=
  List.Pairwise.filter _ ordered

theorem isOrdered_ofList (paths : List Path) : (ofList paths).IsOrdered := by
  have folded (set : PathSet)
      (ordered : set.IsOrdered) : (paths.foldl PathSet.insert set).IsOrdered := by
    induction paths generalizing set with
    | nil => exact ordered
    | cons first rest induction => exact induction _ (ordered.insert first)
  exact folded {} List.Pairwise.nil

/-- A path that comes behind all others is put at the end. -/
theorem insertSorted_of_last (last : ∀ other ∈ paths, other.order path = .lt) :
    insertSorted path paths = paths ++ [path] := by
  induction paths with
  | nil => rfl
  | cons first rest induction =>
      obtain ⟨before, others⟩ := List.forall_mem_cons.1 last
      rw [insertSorted, Std.OrientedCmp.gt_of_lt before]
      exact congrArg (first :: ·) (induction others)

/-- A set in order is the set of its paths. -/
theorem IsOrdered.ofList_paths (ordered : set.IsOrdered) : ofList set.paths = set := by
  have folded (front rest : List Path) (ordered : IsOrdered ⟨front ++ rest⟩) :
      rest.foldl PathSet.insert ⟨front⟩ = ⟨front ++ rest⟩ := by
    induction rest generalizing front with
    | nil => rw [List.foldl_nil, List.append_nil]
    | cons path rest induction =>
        have last : PathSet.insert ⟨front⟩ path = ⟨front ++ [path]⟩ :=
          congrArg PathSet.mk (insertSorted_of_last fun other mem =>
            (List.pairwise_append.1 ordered).2.2 other mem path List.mem_cons_self)
        have whole : front ++ [path] ++ rest = front ++ path :: rest := List.append_cons .. |>.symm
        rw [List.foldl_cons, last, induction (front ++ [path]) (whole ▸ ordered), whole]
  exact folded [] set.paths ordered

end PathSet

namespace Checkpoint

variable {checkpoint : Checkpoint}

/-- Both sets are in order. -/
structure IsOrdered (checkpoint : Checkpoint) : Prop where
  /-- The completed files. -/
  completed : checkpoint.completed.IsOrdered
  /-- The failed files. -/
  failed : checkpoint.failed.IsOrdered

theorem isOrdered_iff : checkpoint.IsOrdered ↔
    checkpoint.completed.IsOrdered ∧ checkpoint.failed.IsOrdered :=
  ⟨fun ordered => ⟨ordered.completed, ordered.failed⟩, fun ⟨completed, failed⟩ =>
    ⟨completed, failed⟩⟩

instance (checkpoint : Checkpoint) : Decidable checkpoint.IsOrdered :=
  decidable_of_iff' _ isOrdered_iff

theorem isOrdered_empty : ({} : Checkpoint).IsOrdered :=
  ⟨List.Pairwise.nil, List.Pairwise.nil⟩

theorem IsOrdered.mark (ordered : checkpoint.IsOrdered) (path : Path) (success : Bool) :
    (checkpoint.mark path success).IsOrdered := by
  cases success with
  | true => exact ⟨ordered.completed.insert path, ordered.failed.erase path⟩
  | false => exact ⟨ordered.completed.erase path, ordered.failed.insert path⟩

theorem IsOrdered.settle (ordered : checkpoint.IsOrdered) (path : Path) (success : Bool) :
    (checkpoint.settle path success).2.IsOrdered := by
  cases recorded : (checkpoint.side success).contains path with
  | true => rwa [settle_eq_of_recorded recorded]
  | false =>
      rw [settle_eq_of_new recorded]
      exact ordered.mark path success

theorem IsOrdered.align (ordered : checkpoint.IsOrdered) (summaries : List FileSummary) :
    (checkpoint.align summaries).2.IsOrdered := by
  induction summaries generalizing checkpoint with
  | nil => exact ordered
  | cons summary summaries induction =>
      have one : (checkpoint.correct summary).2.IsOrdered := by
        unfold correct
        split
        · exact ordered.settle summary.filePath summary.success
        · exact ordered
      exact induction one

end Checkpoint

/-! ## Files -/

namespace Checkpoint

variable {checkpoint : Checkpoint} {path : Path} {now : Timestamp} {disk : Disk}

/-- A checkpoint whose sets are in order is read back from its file. -/
theorem IsOrdered.ofBytes?_fileText (ordered : checkpoint.IsOrdered)
    (told : ∀ time ∈ checkpoint.updatedAt, time.IsClockTime) :
    ofBytes? (Disk.bytesOf checkpoint.fileText) = some checkpoint := by
  have stamp : Json.toOption? (fun text => text.toText?.bind Timestamp.read?)
      (.optionalText (checkpoint.updatedAt.map Timestamp.write)) = some checkpoint.updatedAt := by
    cases stamped : checkpoint.updatedAt with
    | none => rfl
    | some time =>
        have read := (told time stamped).read?_write
        simp [Json.optionalText, Json.text, Json.toOption?, Json.toText?, read]
  rw [ofBytes?_fileText_eq stamp, ordered.completed.ofList_paths, ordered.failed.ofList_paths]

/-- A checkpoint that was saved is the one in its file. -/
theorem IsOrdered.checkpointAt_save (ordered : checkpoint.IsOrdered) (told : now.IsClockTime)
    (saves : checkpoint.Saves path now disk) :
    (checkpoint.save path now disk).2.2.checkpointAt path =
      .ok { checkpoint with updatedAt := some now } := by
  have ends := saveEnds_save checkpoint path now disk
  rw [saves.answer] at ends
  obtain ⟨id, leads, content⟩ := ends.leads saves.file
  have stamped : { checkpoint with updatedAt := some now : Checkpoint }.IsOrdered :=
    ⟨ordered.completed, ordered.failed⟩
  rw [checkpointAt_of_leads leads content, savedBytes,
    stamped.ofBytes?_fileText fun time same => Option.some.inj same ▸ told]

/-! ## Order -/

/-- What is read from a file is in order, whatever the file holds. -/
theorem isOrdered_of_ofBytes? {bytes : List UInt8} (read : ofBytes? bytes = some checkpoint) :
    checkpoint.IsOrdered := by
  have part {field : Option Json} {set : PathSet}
      (found : Json.defaulted PathSet.ofJson? {} field = some set) : set.IsOrdered := by
    cases field with
    | none =>
        cases found
        exact List.Pairwise.nil
    | some value =>
        obtain ⟨texts, -, same⟩ := Option.bind_eq_some_iff.1 found
        cases Option.some.inj same
        exact PathSet.isOrdered_ofList _
  obtain ⟨value, -, parsed⟩ := Option.bind_eq_some_iff.1 read
  obtain ⟨fields, -, parsed⟩ := Option.bind_eq_some_iff.1 parsed
  split at parsed
  · obtain ⟨completed, first, parsed⟩ := Option.bind_eq_some_iff.1 parsed
    obtain ⟨failed, second, parsed⟩ := Option.bind_eq_some_iff.1 parsed
    obtain ⟨updatedAt, -, same⟩ := Option.bind_eq_some_iff.1 parsed
    cases Option.some.inj same
    exact ⟨part first, part second⟩
  · cases parsed

theorem isOrdered_of_load {after : Disk} (loaded : load path disk = (.ok checkpoint, after)) :
    checkpoint.IsOrdered := by
  unfold load at loaded
  split at loaded
  · split at loaded
    · next parsed =>
        cases loaded
        exact isOrdered_of_ofBytes? parsed
    · cases loaded
  · cases loaded
    exact isOrdered_empty
  · cases loaded

end Checkpoint

end PartsList
