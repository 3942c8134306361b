import PartsList.Proofs.Checkpoint.RoundTrip
import PartsList.Proofs.Disk.Development
import PartsList.Proofs.Disk.Missing

/-!
# Saves that fail

A save that fails leaves what the checkpoint's path leads to as it was, at whichever step it fails,
unless it has made directories that the path leaves again.  So after any saves the file tells the
checkpoint of the last one that succeeded, or what it told before if none did.
-/

namespace PartsList

namespace Disk

variable {disk after : Disk} {path : Path} {bytes : List UInt8}

/-- A file to which no path leads changes nothing that a path leads to. -/
theorem Drafts.bytesAt {answer : Except OsError FileId} (drafts : disk.Drafts bytes answer after)
    (numbered : disk.Numbered) (path : Path) : after.bytesAt path = disk.bytesAt path := by
  -- Files in the tree are older than the one that was made.
  have same (entries : after.entries = disk.entries)
      (contents : ∀ id < disk.nextFile, after.content? id = disk.content? id) :
      after.bytesAt path = disk.bytesAt path := by
    have tree (location : Location) : after.entryAt? location = disk.entryAt? location := by
      rw [entryAt?, entryAt?, entries]
    rw [Disk.bytesAt, Disk.bytesAt, resolve_congr tree]
    rcases found : disk.resolve .followed path with error | ⟨location, _ | id | _ | _, slash⟩
    · rfl
    · rfl
    · dsimp only
      rw [contents id (numbered location id (entry_of_resolve found).symm)]
    · rfl
    · rfl
  cases drafts with
  | refused error entries nextFile contents =>
      exact same entries fun id _ => by rw [content?, content?, contents]
  | abandoned error tail part entries nextFile contents =>
      exact same entries fun id old => (contents id).trans (if_neg (Nat.ne_of_lt old))
  | completed entries nextFile contents =>
      exact same entries fun id old => (contents id).trans (if_neg (Nat.ne_of_lt old))

theorem Drafts.entries {answer : Except OsError FileId} (drafts : disk.Drafts bytes answer after) :
    after.entries = disk.entries := by
  cases drafts with
  | refused _ entries | abandoned _ _ _ entries | completed entries => exact entries

/-- A file to which no path leads changes nothing about where paths lead. -/
theorem Drafts.resolve {answer : Except OsError FileId} (drafts : disk.Drafts bytes answer after)
    (last : LastPiece) (path : Path) : after.resolve last path = disk.resolve last path :=
  resolve_congr (fun location => by rw [entryAt?, entryAt?, drafts.entries]) path

theorem Drafts.isUnlinked {answer : Except OsError FileId}
    (drafts : disk.Drafts bytes answer after) :
    after.IsUnlinked path ↔ disk.IsUnlinked path := by
  rw [IsUnlinked, IsUnlinked, drafts.resolve]

/-- The directory of the path is there, or making it cannot change where the path leads. -/
def IsClear (disk : Disk) (path : Path) : Prop :=
  disk.isDirectory (Checkpoint.directoryOf path) = true ∨ path.IsPlain

instance (disk : Disk) (path : Path) : Decidable (disk.IsClear path) :=
  inferInstanceAs (Decidable (_ ∨ _))

end Disk

namespace Checkpoint

open Disk

variable {path : Path} {bytes : List UInt8} {disk after : Disk}

theorem above_directoryOf (path : Path) : (directoryOf path).Above path := by
  have here : Path.Above ⟨"."⟩ path := Or.inr (Or.inr (Or.inl rfl))
  unfold directoryOf
  split
  · next parent found =>
      split
      · exact here
      · exact Path.above_of_parent? found
  · exact here

/-- Making the directory of a clear path changes nothing for the path. -/
theorem undisturbed_of_isClear {opened : Disk} {answer : Except OsError Unit}
    (clear : disk.IsClear path)
    (made : makeDirectories (directoryOf path) disk = (answer, opened)) :
    Undisturbed path disk opened := by
  rcases clear with there | plain
  · obtain ⟨faults, unmade⟩ := makeDirectories_of_isDirectory there
    obtain rfl : { disk with faults := faults } = opened :=
      congrArg Prod.snd (unmade.symm.trans made)
    exact fun rooted =>
      ⟨rooted.congr fun _ => rfl, bytesAt_faults disk path faults, (isUnlinked_faults faults).2⟩
  · have undisturbed := undisturbed_makeDirectories plain (above_directoryOf path) disk
    rwa [made] at undisturbed

/-- A save leaves a tree. -/
theorem SaveEnds.rooted {answer : Except CheckpointError Unit} (rooted : disk.Rooted)
    (ends : SaveEnds path bytes disk answer after) : after.Rooted := by
  have made (opened : Disk) {answer : Except OsError Unit}
      (made : makeDirectories (directoryOf path) disk = (answer, opened)) : opened.Rooted := by
    have stays := rooted_makeDirectories (directoryOf path) disk rooted
    rwa [made] at stays
  have drafted {opened written : Disk} {answer : Except OsError FileId}
    (opened_rooted : opened.Rooted)
      (drafts : opened.Drafts bytes answer written) : written.Rooted :=
    opened_rooted.congr fun location => by rw [entryAt?, entryAt?, drafts.entries]
  cases ends with
  | barred found => exact made _ found
  | unwritten found drafts => exact drafted (made _ found) drafts
  | unplaced found drafts => exact (drafted (made _ found) drafts).congr fun _ => rfl
  | placed found drafts resolved solid _ =>
      have judged := (drafted (made _ found) drafts).congr (fun _ => rfl : ∀ location,
        (Disk.judged _).entryAt? location = _)
      exact judged.putEntry ((resolve_judged ..).trans resolved) solid _

/-- A save that fails changes nothing that the path leads to. -/
theorem SaveEnds.bytesAt {error : CheckpointError} (rooted : disk.Rooted) (numbered : disk.Numbered)
    (clear : disk.IsClear path) (ends : SaveEnds path bytes disk (.error error) after) :
    after.bytesAt path = disk.bytesAt path := by
  have made (opened : Disk) {answer : Except OsError Unit}
      (made : makeDirectories (directoryOf path) disk = (answer, opened)) :
      opened.Numbered ∧ opened.bytesAt path = disk.bytesAt path := by
    have grows := growing_makeDirectories (directoryOf path) disk
    rw [made] at grows
    exact ⟨grows.develops.numbered numbered, (undisturbed_of_isClear clear made rooted).2.1⟩
  cases ends with
  | barred found => exact (made _ found).2
  | unwritten found drafts =>
      obtain ⟨numbered, same⟩ := made _ found
      exact (drafts.bytesAt numbered path).trans same
  | unplaced found drafts =>
      obtain ⟨numbered, same⟩ := made _ found
      exact (bytesAt_faults _ path _).trans ((drafts.bytesAt numbered path).trans same)

/-- A save that succeeds leaves a file, if no link stands in its place once the directories are
made. -/
theorem SaveEnds.exists_file (ends : SaveEnds path bytes disk (.ok ()) after)
    (unlinked : ∀ opened, makeDirectories (directoryOf path) disk = (.ok (), opened) →
      opened.IsUnlinked path) :
    ∃ location id, ∀ last, last ≠ .made →
      after.resolve last path = .ok ⟨location, some (.file id), false⟩ := by
  cases ends with
  | @placed opened written id place made drafts resolved solid bare =>
      have free : written.judged.IsUnlinked path :=
        (isUnlinked_faults _).2 (drafts.isUnlinked.2 (unlinked opened made))
      have judged : written.judged.resolve .kept path = .ok place :=
        (resolve_judged ..).trans resolved
      exact ⟨place.location, id, fun last fresh => resolve_putEntry judged solid bare free fresh⟩

theorem SaveEnds.isFile (ends : SaveEnds path bytes disk (.ok ()) after)
    (unlinked : ∀ opened, makeDirectories (directoryOf path) disk = (.ok (), opened) →
      opened.IsUnlinked path) : after.isFile path = true := by
  obtain ⟨location, id, leads⟩ := ends.exists_file unlinked
  rw [Disk.isFile, status, leads .followed (by decide)]
  rfl

/-- Where no link stood, a save leaves none, and one that succeeds leaves a file. -/
theorem SaveEnds.isUnlinked {answer : Except CheckpointError Unit} (rooted : disk.Rooted)
    (clear : disk.IsClear path) (unlinked : disk.IsUnlinked path)
    (ends : SaveEnds path bytes disk answer after) :
    after.IsUnlinked path ∧ (answer = .ok () → after.isFile path = true) := by
  have made {opened : Disk} {answer : Except OsError Unit}
      (made : makeDirectories (directoryOf path) disk = (answer, opened)) :
      opened.IsUnlinked path :=
    (undisturbed_of_isClear clear made rooted).2.2 unlinked
  cases ends with
  | barred found => exact ⟨made found, by simp⟩
  | unwritten found drafts => exact ⟨drafts.isUnlinked.2 (made found), by simp⟩
  | unplaced found drafts =>
      exact ⟨(isUnlinked_faults _).2 (drafts.isUnlinked.2 (made found)), by simp⟩
  | placed found drafts resolved solid bare =>
      have ends : SaveEnds path bytes disk (.ok ()) _ := .placed found drafts resolved solid bare
      obtain ⟨location, id, leads⟩ := ends.exists_file fun _ => made
      refine ⟨fun place there target => ?_, fun _ => ends.isFile fun _ => made⟩
      cases (leads .kept (by decide)).symm.trans there
      simp

variable {checkpoint : Checkpoint} {now : Timestamp}

theorem rooted_save (rooted : disk.Rooted) : (checkpoint.save path now disk).2.2.Rooted :=
  (saveEnds_save checkpoint path now disk).rooted rooted

/-- After a save that fails the file tells what it told before. -/
theorem checkpointAt_of_failed {error : CheckpointError} (rooted : disk.Rooted)
    (numbered : disk.Numbered) (clear : disk.IsClear path)
    (failed : (checkpoint.save path now disk).1 = .error error) :
    (checkpoint.save path now disk).2.2.checkpointAt path = disk.checkpointAt path := by
  have ends := saveEnds_save checkpoint path now disk
  rw [failed] at ends
  exact checkpointAt_congr (ends.bytesAt rooted numbered clear)

/-- A save that succeeds where no link stands leaves a file. -/
theorem saves_of_isUnlinked (rooted : disk.Rooted) (clear : disk.IsClear path)
    (unlinked : disk.IsUnlinked path) (done : (checkpoint.save path now disk).1 = .ok ()) :
    checkpoint.Saves path now disk :=
  ⟨done, ((saveEnds_save checkpoint path now disk).isUnlinked rooted clear unlinked).2 done⟩

/-- Nor does it matter what else there is, if no link has a name that is in the path. -/
theorem saves_of_isFree (free : disk.IsFree path)
    (done : (checkpoint.save path now disk).1 = .ok ()) : checkpoint.Saves path now disk := by
  have ends := saveEnds_save checkpoint path now disk
  rw [done] at ends
  refine ⟨done, ends.isFile fun opened made => Disk.IsFree.isUnlinked ?_⟩
  have grows := growing_makeDirectories (directoryOf path) disk
  rw [made] at grows
  exact grows.develops.isFree free

/-! ## Saves one after the other -/

/-- Saves checkpoints one after the other under the given times: the answers, and the disk that is
left. -/
def saveEach (path : Path) : List (Checkpoint × Timestamp) → Disk →
    List (Except CheckpointError Unit) × Disk
  | [], disk => ([], disk)
  | (checkpoint, now) :: saves, disk =>
    let saved := checkpoint.save path now disk
    let rest := saveEach path saves saved.2.2
    (saved.1 :: rest.1, rest.2)

/-- The checkpoint of the last save that succeeded, with its time. -/
def lastSaved? (saves : List (Checkpoint × Timestamp))
    (answers : List (Except CheckpointError Unit)) :
    Option Checkpoint :=
  (saves.zip answers).reverse.findSome? fun save =>
    match save.2 with
    | .ok () => some { save.1.1 with updatedAt := some save.1.2 }
    | .error _ => none

/-- A save that succeeds leaves a file where the path leads, and one that fails has found a clear
path. -/
def Behaves (checkpoint : Checkpoint) (path : Path) (now : Timestamp) (disk : Disk) : Prop :=
  match (checkpoint.save path now disk).1 with
  | .ok () => (checkpoint.save path now disk).2.2.isFile path = true
  | .error _ => disk.IsClear path

instance (checkpoint : Checkpoint) (path : Path) (now : Timestamp) (disk : Disk) :
    Decidable (checkpoint.Behaves path now disk) :=
  match answer : (checkpoint.save path now disk).1 with
  | .ok () =>
    decidable_of_iff ((checkpoint.save path now disk).2.2.isFile path = true)
      (by rw [Behaves, answer])
  | .error _ => decidable_of_iff (disk.IsClear path) (by rw [Behaves, answer])

/-- All of the saves do so. -/
def BehaveEach (path : Path) : List (Checkpoint × Timestamp) → Disk → Prop
  | [], _ => True
  | (checkpoint, now) :: saves, disk =>
    checkpoint.Behaves path now disk ∧ BehaveEach path saves (checkpoint.save path now disk).2.2

instance decidableBehaveEach (path : Path) (saves : List (Checkpoint × Timestamp)) (disk : Disk) :
    Decidable (BehaveEach path saves disk) :=
  match saves with
  | [] => isTrue trivial
  | (checkpoint, now) :: saves =>
    have := decidableBehaveEach path saves (checkpoint.save path now disk).2.2
    inferInstanceAs (Decidable (_ ∧ _))

/-- Saves to a path that leads down only, at which no link stands, do so. -/
theorem behaveEach_of_isUnlinked {saves : List (Checkpoint × Timestamp)} (rooted : disk.Rooted)
    (plain : path.IsPlain) (unlinked : disk.IsUnlinked path) : BehaveEach path saves disk := by
  induction saves generalizing disk with
  | nil => trivial
  | cons save saves induction =>
      obtain ⟨checkpoint, now⟩ := save
      have clear : disk.IsClear path := Or.inr plain
      have ends := (saveEnds_save checkpoint path now disk).isUnlinked rooted clear unlinked
      refine ⟨?_, induction (rooted_save rooted) ends.1⟩
      unfold Behaves
      split
      · next done => exact ends.2 done
      · exact clear

theorem lastSaved?_cons (save : Checkpoint × Timestamp) (saves : List (Checkpoint × Timestamp))
    (answer : Except CheckpointError Unit) (answers : List (Except CheckpointError Unit)) :
    lastSaved? (save :: saves) (answer :: answers) =
      (lastSaved? saves answers).or
        (match answer with
         | .ok () => some { save.1 with updatedAt := some save.2 }
         | .error _ => none) := by
  rw [lastSaved?, List.zip_cons_cons, List.reverse_cons, List.findSome?_append]
  cases answer <;> rfl

/-- After a save the file tells the checkpoint that was saved, or what it told before. -/
theorem checkpointAt_of_behaves (rooted : disk.Rooted) (numbered : disk.Numbered)
    (ordered : checkpoint.IsOrdered) (told : now.IsClockTime)
    (behaves : checkpoint.Behaves path now disk) :
    (checkpoint.save path now disk).2.2.checkpointAt path =
      match (checkpoint.save path now disk).1 with
      | .ok () => .ok { checkpoint with updatedAt := some now }
      | .error _ => disk.checkpointAt path := by
  unfold Behaves at behaves
  split at behaves
  · next done => exact ordered.checkpointAt_save told ⟨done, behaves⟩
  · next error failed => exact checkpointAt_of_failed rooted numbered behaves failed

/-- After saves the file tells the checkpoint of the last one that succeeded, or what it told before
if none did; and the tree and the numbers of files stay as they have to be. -/
theorem checkpointAt_saveEach {saves : List (Checkpoint × Timestamp)} (rooted : disk.Rooted)
    (numbered : disk.Numbered) (ordered : ∀ save ∈ saves, save.1.IsOrdered)
    (told : ∀ save ∈ saves, save.2.IsClockTime) (behave : BehaveEach path saves disk) :
    (saveEach path saves disk).2.Rooted ∧ (saveEach path saves disk).2.Numbered ∧
      (saveEach path saves disk).2.checkpointAt path =
        match lastSaved? saves (saveEach path saves disk).1 with
        | some checkpoint => .ok checkpoint
        | none => disk.checkpointAt path := by
  induction saves generalizing disk with
  | nil => exact ⟨rooted, numbered, rfl⟩
  | cons save saves induction =>
      obtain ⟨checkpoint, now⟩ := save
      obtain ⟨first, others⟩ := List.forall_mem_cons.1 ordered
      obtain ⟨stamp, stamps⟩ := List.forall_mem_cons.1 told
      obtain ⟨here, behind⟩ := behave
      have one := checkpointAt_of_behaves rooted numbered first stamp here
      obtain ⟨stays, keeps, tells⟩ := induction (rooted_save rooted)
        ((checkpoint.develops_save path now disk).numbered numbered) others stamps behind
      refine ⟨stays, keeps, tells.trans ?_⟩
      rw [one, saveEach, lastSaved?_cons]
      cases lastSaved? saves (saveEach path saves (checkpoint.save path now disk).2.2).1 with
      | some saved => rfl
      | none => cases (checkpoint.save path now disk).1 <;> rfl

end Checkpoint

open Checkpoint

/-- Let checkpoints be saved one after the other, with sets in order, at times that the clock can
show and with any failures.  Let every save that succeeds leave a file where the path leads, and
every one that fails find the path's directory there or a path that does not leave it.  Then the
file tells the checkpoint of the last save that succeeded, both sets with every path as it was
spelled, or what it told before if none succeeded.  One more save leaves the two sets in memory as
they are, and if it fails, also what the file tells. -/
theorem checkpoint_saves_atomic {path : Path} {disk : Disk} {saves : List (Checkpoint × Timestamp)}
    (rooted : disk.Rooted) (numbered : disk.Numbered) (ordered : ∀ save ∈ saves, save.1.IsOrdered)
    (told : ∀ save ∈ saves, save.2.IsClockTime) (behave : BehaveEach path saves disk) :
    let ended := saveEach path saves disk
    (ended.2.checkpointAt path =
        match lastSaved? saves ended.1 with
        | some checkpoint => .ok checkpoint
        | none => disk.checkpointAt path) ∧
      ∀ (checkpoint : Checkpoint) (now : Timestamp),
        let saved := checkpoint.save path now ended.2
        saved.2.1.completed = checkpoint.completed ∧ saved.2.1.failed = checkpoint.failed ∧
          ∀ error, saved.1 = .error error → ended.2.IsClear path →
            saved.2.2.checkpointAt path = ended.2.checkpointAt path := by
  obtain ⟨stays, keeps, tells⟩ := checkpointAt_saveEach rooted numbered ordered told behave
  refine ⟨tells, fun checkpoint now => ?_⟩
  have kept := checkpoint.checkpoint_save path now (saveEach path saves disk).2
  have completed := congrArg Checkpoint.completed kept
  have failed := congrArg Checkpoint.failed kept
  exact ⟨completed, failed,
    fun error failed clear => checkpointAt_of_failed stays keeps clear failed⟩

/-- A disk that has room for one file in a new directory. -/
def Disk.filling : Disk :=
  { faults := List.replicate 6 none ++ [some .noSpace] }

/-- A checkpoint with paths that need care, saved before and after one more file fails. -/
def Checkpoint.growing : List (Checkpoint × Timestamp) :=
  let earlier : Checkpoint :=
    { completed := ⟨[⟨"in//a \"quoted\".pdf"⟩]⟩, failed := ⟨[⟨"in/\u00e9.pdf"⟩]⟩ }
  [(earlier, ⟨1700000000, 5000⟩), (earlier.mark ⟨"in/b.pdf"⟩ false, ⟨1700000001, 0⟩)]

/-- On such a disk the file tells the first of two checkpoints. -/
theorem checkpoint_saves_atomic_filling :
    (saveEach ⟨"state/checkpoint.json"⟩ Checkpoint.growing Disk.filling).2.checkpointAt
        ⟨"state/checkpoint.json"⟩ =
      .ok
        { completed := ⟨[⟨"in//a \"quoted\".pdf"⟩]⟩
          failed := ⟨[⟨"in/\u00e9.pdf"⟩]⟩
          updatedAt := some ⟨1700000000, 5000⟩ } := by
  have last : lastSaved? Checkpoint.growing
      (saveEach ⟨"state/checkpoint.json"⟩ Checkpoint.growing Disk.filling).1 =
        some
          { completed := ⟨[⟨"in//a \"quoted\".pdf"⟩]⟩
            failed := ⟨[⟨"in/\u00e9.pdf"⟩]⟩
            updatedAt := some ⟨1700000000, 5000⟩ } := by
    decide +kernel
  have rooted : Disk.filling.Rooted := Disk.rooted_of_entries (by decide)
  have behave : BehaveEach ⟨"state/checkpoint.json"⟩ Checkpoint.growing Disk.filling :=
    behaveEach_of_isUnlinked rooted (by decide +kernel) (by decide +kernel)
  have told := (checkpoint_saves_atomic rooted
    (Disk.numbered_of_entries fun _ mem => absurd mem List.not_mem_nil) (by decide +kernel)
    (by decide +kernel) behave).1
  rw [last] at told
  exact told

/-- A directory and a link to it. -/
def Disk.linked : Disk where
  entries := [(["d"], .directory), (["l"], .link "d")]

/-- A save can succeed and replace the very link that its path goes through, so that nothing can be
read at the path; and one that fails can make the directory that its path leaves again. -/
theorem checkpoint_saves_not_atomic :
    let replacing := ({} : Checkpoint).save ⟨"l/../l"⟩ ⟨0, 0⟩ Disk.linked
    let failing := ({} : Checkpoint).save ⟨"m/.."⟩ ⟨0, 0⟩ {}
    replacing.1 = .ok () ∧
      replacing.2.2.checkpointAt ⟨"l/../l"⟩ = .error (.io ⟨"l/../l"⟩ .notADirectory) ∧
      failing.1 = .error (.unplaced ⟨"m/.."⟩) ∧ ({} : Disk).checkpointAt ⟨"m/.."⟩ = .ok {} ∧
      failing.2.2.checkpointAt ⟨"m/.."⟩ = .error (.io ⟨"m/.."⟩ .isADirectory) := by
  decide +kernel

end PartsList
