import PartsList.Proofs.Checkpoint.Lines
import PartsList.Proofs.Spill.Emptying
import PartsList.Proofs.Store.Connecting

/-!
# Producers that spill nothing

Databases and checkpoints hold nothing that a replay could read.  As long as no producer opens its
spill file, no file comes to hold results, whatever else the program does to the disk.  So a replay
finds nothing unless there was something before.
-/

namespace PartsList

open Disk

namespace Content

/-- A replay that reads the content finds no results. -/
def IsBare (content : Content) : Prop :=
  (SpillContent.ofBytes content.toBytes).results = []

theorem isBare_empty : (ofBytes []).IsBare := rfl

theorem isBare_checkpoint (checkpoint : Checkpoint) :
    (ofBytes (bytesOf checkpoint.fileText)).IsBare := by
  rw [IsBare, ofBytes, toBytes, List.replicate_zero, List.nil_append]
  exact checkpoint.results_fileText

theorem isBare_database (database : Database) : (Content.database database).IsBare := by
  have none : ExtractionResult.ofLine? (String.ofList [Char.ofNat 0]) = none := rfl
  exact SpillContent.results_of_continues Json.continues_nil nofun (by decide)
    (SpillContent.readLine_ne_of_none none)

end Content

namespace Disk

variable {disk middle after : Disk} {content : Content}

theorem tree_of_calmed (same : after.calmed = disk.calmed) :
    after.entries = disk.entries ∧ after.contents = disk.contents := by
  injection same with entries contents
  exact ⟨entries, contents⟩

/-- Files hold what they held, or nothing that a replay could read. -/
def Unspilled (disk after : Disk) : Prop :=
  ∀ id content, after.content? id = some content → disk.content? id = some content ∨ content.IsBare

theorem Unspilled.refl (disk : Disk) : disk.Unspilled disk :=
  fun _ _ => Or.inl

theorem Unspilled.trans (first : disk.Unspilled middle) (second : middle.Unspilled after) :
    disk.Unspilled after :=
  fun id content holds => (second id content holds).elim (first id content) Or.inr

theorem Unspilled.of_contents
    (contents : after.contents = disk.contents) : disk.Unspilled after := by
  intro id content holds
  unfold content? at holds ⊢
  exact Or.inl (contents ▸ holds)

theorem Grows.unspilled (grows : disk.Grows after) : disk.Unspilled after :=
  .of_contents grows.contents

theorem unspilled_putContent (disk : Disk) (id : FileId) (bare : content.IsBare) :
    disk.Unspilled (disk.putContent id content) := by
  intro other held holds
  rw [content?_putContent] at holds
  split at holds
  · cases holds
    exact Or.inr bare
  · exact Or.inl holds

theorem unspilled_addFile (disk : Disk) (location : Location) (bare : content.IsBare) :
    disk.Unspilled (disk.addFile location content).2 :=
  unspilled_putContent (disk.putEntry location _) disk.nextFile bare

theorem unspilling_verdict : Keeping Unspilled verdict :=
  growing_verdict.mono Grows.unspilled

theorem unspilling_makeDirectories (path : Path) : Keeping Unspilled (makeDirectories path) :=
  (growing_makeDirectories path).mono Grows.unspilled

theorem unspilling_openAppend (path : Path) : Keeping Unspilled (openAppend path) := by
  refine Keeping.bind Unspilled.trans unspilling_verdict fun _ disk => ?_
  rw [openOrCreate_eq]
  split
  · exact .refl disk
  · split
    · exact .refl disk
    · exact .refl disk
    · exact unspilled_addFile disk _ Content.isBare_empty

theorem Drafts.unspilled {bytes : List UInt8} {answer : Except OsError FileId}
    (drafts : disk.Drafts bytes answer after) (bare : (Content.ofBytes bytes).IsBare) :
    disk.Unspilled after := by
  have drafted {tail : List UInt8} (contents : ∀ id, after.content? id =
      if id = disk.nextFile then some (.ofBytes tail) else disk.content? id)
      (bare : (Content.ofBytes tail).IsBare) : disk.Unspilled after := by
    intro id content holds
    rw [contents] at holds
    split at holds
    · cases holds
      exact Or.inr bare
    · exact Or.inl holds
  cases drafts with
  | refused error entries nextFile contents => exact .of_contents contents
  | abandoned error tail part entries nextFile contents =>
      refine drafted contents ?_
      rcases part with rfl | rfl
      · exact Content.isBare_empty
      · exact bare
  | completed entries nextFile contents => exact drafted contents bare

end Disk

namespace Checkpoint

theorem unspilled_save (checkpoint : Checkpoint) (path : Path) (now : Timestamp) (disk : Disk) :
    disk.Unspilled (checkpoint.save path now disk).2.2 := by
  have bare : (Content.ofBytes (checkpoint.savedBytes now)).IsBare := Content.isBare_checkpoint _
  have directories := unspilling_makeDirectories (directoryOf path) disk
  have ends := saveEnds_save checkpoint path now disk
  generalize (checkpoint.save path now disk).1 = answer at ends
  generalize (checkpoint.save path now disk).2.2 = after at ends ⊢
  cases ends with
  | barred made => rwa [made] at directories
  | unwritten made drafts | unplaced made drafts | placed made drafts =>
      rw [made] at directories
      exact directories.trans (drafts.unspilled bare)

end Checkpoint

/-! ## Databases -/

theorem Connection.unspilled_put (connection : Connection) (database : Database) (disk : Disk) :
    disk.Unspilled (connection.put database disk) :=
  unspilled_putContent disk _ (Content.isBare_database database)

theorem Connection.unspilled_upsert (connection : Connection) (results : List ExtractionResult)
    (disk : Disk) : disk.Unspilled (connection.upsert results disk).2 := by
  unfold upsert
  split
  · exact .refl disk
  · split
    · exact .refl disk
    · exact unspilled_put connection _ disk

namespace Database

variable {disk : Disk} {address : DatabaseAddress} {location : Location} {id : FileId}

theorem unspilled_clearSibling (disk : Disk) (location : Location) (ending : String) :
    disk.Unspilled (disk.clearSibling location ending) := by
  unfold clearSibling
  split <;> exact .of_contents rfl

theorem unspilled_write : disk.Unspilled (write address location id disk).2 := by
  have cleared := (unspilled_clearSibling disk location journalEnding).trans
    (unspilled_clearSibling _ location logEnding)
  unfold write
  dsimp only
  split
  · exact cleared.trans (Connection.unspilled_put _ _ _)
  · split <;> exact cleared.trans (Connection.unspilled_put _ _ _)

theorem unspilled_establish : disk.Unspilled (establish address location id disk).2 := by
  unfold establish
  split
  · exact .refl disk
  · split
    · exact .refl disk
    · split
      · exact .refl disk
      · exact unspilled_write

theorem unspilled_reopen (database : Database) :
    disk.Unspilled (reopen address location id database disk).2 := by
  unfold reopen
  split
  · exact .refl disk
  · split
    · split <;> exact .refl disk
    · exact Connection.unspilled_put _ _ _

theorem unspilled_openContent : disk.Unspilled (openContent address location id disk).2 := by
  unfold openContent
  split
  · exact unspilled_reopen _
  · split
    · exact unspilled_establish
    · split
      · exact unspilled_reopen _
      · exact .refl disk
  · exact .refl disk

theorem unspilled_openLocation : disk.Unspilled (openLocation address location disk).2 := by
  unfold openLocation
  split
  · exact unspilled_openContent
  · split
    · exact (unspilled_addFile disk location Content.isBare_empty).trans unspilled_openContent
    · exact .refl disk
  · exact .refl disk

theorem unspilled_openUnnamed : disk.Unspilled (openUnnamed address disk).2 := by
  unfold openUnnamed
  split
  · exact .refl disk
  · exact unspilled_putContent disk disk.nextFile (Content.isBare_database fresh)

/-- Opening a database spills nothing. -/
theorem unspilled_openAt (path : Path) (disk : Disk) : disk.Unspilled (openAt path disk).2 := by
  have made := (growing_makeParent path disk).unspilled
  unfold openAt
  split
  · next failed =>
      rw [failed] at made
      exact made
  · next succeeded =>
      rw [succeeded] at made
      split
      · unfold openAddress
        split
        · exact made.trans unspilled_openUnnamed
        · split
          · exact made.trans unspilled_openLocation
          · exact made
      · exact made

end Database

/-! ## Producers -/

namespace SpillFile

variable {spill : SpillFile} {disk : Disk}

/-- If a producer has opened no spill file in the end, it had opened none before, and it has spilled
nothing. -/
def Abstains (before after : SpillFile × Disk) : Prop :=
  after.1.file = none → before.1.file = none ∧ before.2.Unspilled after.2

theorem Abstains.of_unspilled {last : Disk} (unspilled : disk.Unspilled last) :
    Abstains (spill, disk) (spill, last) :=
  fun none => ⟨none, unspilled⟩

theorem Abstains.refl (state : SpillFile × Disk) : Abstains state state :=
  .of_unspilled (.refl _)

theorem Abstains.trans {before middle after : SpillFile × Disk} (first : Abstains before middle)
    (second : Abstains middle after) : Abstains before after := by
  intro none
  obtain ⟨none, later⟩ := second none
  obtain ⟨none, earlier⟩ := first none
  exact ⟨none, earlier.trans later⟩

theorem unspilling_opened (spill : SpillFile) : Keeping Unspilled spill.opened := by
  unfold SpillFile.opened
  split
  · exact Unspilled.refl
  · dsimp only
    split
    · exact Keeping.bind Unspilled.trans (unspilling_makeDirectories _) fun _ =>
        unspilling_openAppend _
    · exact unspilling_openAppend _

/-- A producer that tries to spill a result opens its spill file, or nothing happens to files. -/
theorem abstains_persist (spill : SpillFile) (result : ExtractionResult) (disk : Disk) :
    Abstains (spill, disk) (spill.persist result disk).2 := by
  have opens := unspilling_opened spill disk
  unfold persist
  split
  · next failed =>
      rw [failed] at opens
      exact .of_unspilled opens
  · dsimp only
    split <;> exact nofun

end SpillFile

namespace Spill

variable {start disk : Disk} {directory : Path} {paths : List Path}

/-- A replay reads nothing when its files hold nothing. -/
theorem heldIn_eq_nil (sheds : start.Sheds disk)
    (bare : ∀ path ∈ paths, ∀ id, start.Leads path id → ∀ content,
      start.content? id = some content → content.IsBare) : heldIn paths disk = [] := by
  induction paths generalizing disk with
  | nil => rfl
  | cons path paths induction =>
      unfold heldIn
      split
      · next content opened reads =>
          obtain ⟨sheds', id, leads, rfl⟩ := read_eq_ok reads
          have still : disk.content? id = start.content? id := by
            rw [content?, content?, sheds.contents]
          have none : (SpillContent.ofBytes
              (((disk.content? id).map Content.toBytes).getD [])).results = [] := by
            rw [still]
            cases holds : start.content? id with
            | none => rfl
            | some content =>
                exact bare path List.mem_cons_self id (leads.after sheds.entries) content holds
          have removed := shedding_removeFile path opened
          rw [none, List.nil_append]
          exact induction ((sheds.trans sheds').trans removed) fun other mem =>
            bare other (List.mem_cons_of_mem _ mem)
      · rfl

/-- A replay finds nothing if its files were not there at some time since when nothing was
spilled. -/
theorem held_eq_nil (unspilled : start.Unspilled disk)
    (none : ∀ path ∈ filesIn directory disk, ∀ id, disk.Leads path id → start.content? id = none) :
    held directory disk = [] := by
  unfold held
  split
  · next paths opened listed =>
      by_cases missing : disk.faults.head? = some (some .notFound)
      · unfold files at listed
        rw [listDirectory_eq, missing] at listed
        cases listed
        rfl
      · obtain ⟨rfl, same, -⟩ := files_eq_ok missing listed
        obtain ⟨tree, contents⟩ := tree_of_calmed same
        have sheds : disk.Sheds opened := by
          refine ⟨fun location entry there => ?_, contents⟩
          unfold entryAt? at there ⊢
          rwa [tree] at there
        refine heldIn_eq_nil sheds fun path mem id leads content holds => ?_
        refine (unspilled id content holds).resolve_left fun old => ?_
        exact nomatch (none path mem id leads).symm.trans old
  · rfl

end Spill

end PartsList
