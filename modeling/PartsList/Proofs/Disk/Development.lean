import PartsList.Proofs.Checkpoint.Saves
import PartsList.Proofs.Spill.Lines

/-!
# How disks develop

Files are known by their numbers, which are given out once.  Whatever the program does to a disk
while it works, a file with bytes only gets longer, by whole lines, and only a connection changes a
database.
-/

namespace PartsList

namespace Content

theorem append_nil (content : Content) : content.append [] = content := by
  cases content <;> simp [append]

end Content

namespace Disk

open SpillContent (EndsLine)

variable {disk middle after : Disk}

/-- The numbers of the files in the tree were given out. -/
def Numbered (disk : Disk) : Prop :=
  ∀ location id, disk.entryAt? location = some (.file id) → id < disk.nextFile

theorem numbered_of_entries
    (old : ∀ entry ∈ disk.entries, ∀ id, entry.2 = .file id → id < disk.nextFile) :
    disk.Numbered := by
  intro location id there
  unfold entryAt? at there
  split at there
  · cases there
  · obtain ⟨entry, found, file⟩ := Option.map_eq_some_iff.1 there
    exact old entry (List.mem_of_find?_eq_some found) id file

/-- The bytes of a file that the program has made: whole lines, or a checkpoint's text and what was
added to it. -/
def Written (zeros : Nat) (tail : List UInt8) : Prop :=
  zeros = 0 ∧ (EndsLine tail ∨ ∃ checkpoint : Checkpoint, bytesOf checkpoint.fileText <+: tail)

/-- Files keep their numbers, and those with bytes only get longer. -/
structure Evolves (disk after : Disk) : Prop where
  /-- Numbers are given out once. -/
  nextFile : disk.nextFile ≤ after.nextFile
  /-- Numbers of files in the tree were given out. -/
  numbered : disk.Numbered → after.Numbered
  /-- No link is made. -/
  links : ∀ location target, after.entryAt? location = some (.link target) →
    disk.entryAt? location = some (.link target)
  /-- Behind what a file held come whole lines. -/
  bytes : ∀ id < disk.nextFile, ∀ zeros tail, after.content? id = some (.bytes zeros tail) →
    ∃ front more, disk.content? id = some (.bytes zeros front) ∧ tail = front ++ more ∧
      EndsLine more
  /-- New files are the program's. -/
  made : ∀ id, disk.nextFile ≤ id → id < after.nextFile → ∀ zeros tail,
    after.content? id = some (.bytes zeros tail) → Written zeros tail

/-- Files evolve, and databases stay as they are. -/
structure Develops (disk after : Disk) : Prop extends disk.Evolves after where
  /-- Databases stay as they are. -/
  databases : ∀ id < disk.nextFile, ∀ database, disk.content? id = some (.database database) →
    after.content? id = some (.database database)

theorem Written.append {zeros : Nat} {front more : List UInt8} (written : Written zeros front)
    (ends : EndsLine more) : Written zeros (front ++ more) := by
  obtain ⟨rfl, whole | ⟨checkpoint, text⟩⟩ := written
  · exact ⟨rfl, Or.inl (whole.append ends)⟩
  · exact ⟨rfl, Or.inr ⟨checkpoint, text.trans (List.prefix_append _ _)⟩⟩

theorem Evolves.refl (disk : Disk) : disk.Evolves disk where
  nextFile := Nat.le_refl _
  numbered numbered := numbered
  links _ _ there := there
  bytes _ _ _ tail holds := ⟨tail, [], holds, (List.append_nil tail).symm, Or.inl rfl⟩
  made _ new old := absurd new (Nat.not_le_of_lt old)

theorem Evolves.trans (first : disk.Evolves middle) (second : middle.Evolves after) :
    disk.Evolves after where
  nextFile := Nat.le_trans first.nextFile second.nextFile
  numbered numbered := second.numbered (first.numbered numbered)
  links location target there := first.links location target (second.links location target there)
  bytes id old zeros tail holds := by
    obtain ⟨front, more, held, rfl, ends⟩ :=
      second.bytes id (Nat.lt_of_lt_of_le old first.nextFile) zeros tail holds
    obtain ⟨start, rest, before, rfl, whole⟩ := first.bytes id old zeros front held
    exact ⟨start, rest ++ more, before, List.append_assoc _ _ _, whole.append ends⟩
  made id new old zeros tail holds := by
    by_cases between : id < middle.nextFile
    · obtain ⟨front, more, held, rfl, ends⟩ := second.bytes id between zeros tail holds
      exact (first.made id new between zeros front held).append ends
    · exact second.made id (Nat.le_of_not_lt between) old zeros tail holds

/-- Names that no link had, none gets. -/
theorem Evolves.isFree (evolves : disk.Evolves after) {path : Path} (free : disk.IsFree path) :
    after.IsFree path :=
  fun location name target there =>
    free location name target (evolves.links (location ++ [name]) target there)

theorem Develops.refl (disk : Disk) : disk.Develops disk where
  toEvolves := Evolves.refl disk
  databases _ _ _ holds := holds

theorem Develops.trans (first : disk.Develops middle) (second : middle.Develops after) :
    disk.Develops after where
  toEvolves := first.toEvolves.trans second.toEvolves
  databases id old database holds :=
    second.databases id (Nat.lt_of_lt_of_le old first.nextFile) database
      (first.databases id old database holds)

/-- Files that hold what they held have not changed, whatever else has. -/
theorem Develops.of_content (nextFile : disk.nextFile ≤ after.nextFile)
    (numbered : disk.Numbered → after.Numbered)
    (links : ∀ location target, after.entryAt? location = some (.link target) →
      disk.entryAt? location = some (.link target))
    (contents : ∀ id < disk.nextFile, after.content? id = disk.content? id)
    (made : ∀ id, disk.nextFile ≤ id → id < after.nextFile → ∀ zeros tail,
      after.content? id = some (.bytes zeros tail) → Written zeros tail) :
    disk.Develops after where
  nextFile := nextFile
  numbered := numbered
  links := links
  bytes id old _ tail holds :=
    ⟨tail, [], (contents id old).symm.trans holds, (List.append_nil tail).symm, Or.inl rfl⟩
  made := made
  databases id old _ holds := (contents id old).trans holds

theorem Grows.develops (grows : disk.Grows after) : disk.Develops after := by
  refine Develops.of_content (Nat.le_of_eq grows.nextFile.symm) ?_ grows.links (fun id _ => ?_)
    fun id new old => ?_
  · intro numbered location id there
    rw [grows.nextFile]
    exact numbered location id (grows.files location id there)
  · rw [content?, content?, grows.contents]
  · exact absurd new (Nat.not_le_of_lt (grows.nextFile ▸ old))

theorem Keeping.mono {kept weaker : Disk → Disk → Prop} {α : Type} {work : DiskM α}
    (keeping : Keeping kept work) (weaken : ∀ {disk after}, kept disk after → weaker disk after) :
    Keeping weaker work :=
  fun disk => weaken (keeping disk)

/-! ## Operations -/

theorem entryAt?_of_putEntry {location other : Location} {entry found : Entry}
    (there : (disk.putEntry location entry).entryAt? other = some found) :
    found = entry ∨ disk.entryAt? other = some found := by
  unfold entryAt? at there ⊢
  split at there
  · next root => exact Or.inr (by rw [if_pos root]; exact there)
  · next below =>
      rw [if_neg below]
      rw [putEntry, find?_put] at there
      split at there
      · exact Or.inl (Option.some.inj there).symm
      · exact Or.inr there

theorem entryAt?_of_removeEntry {location other : Location} {found : Entry}
    (there : (disk.removeEntry location).entryAt? other = some found) :
    disk.entryAt? other = some found := by
  unfold entryAt? at there ⊢
  split at there
  · next root => rwa [if_pos root]
  · next below =>
      rw [if_neg below]
      obtain ⟨pair, first, rfl⟩ := Option.map_eq_some_iff.1 there
      rw [removeEntry, List.find?_filter] at first
      have key := List.find?_some first
      simp only [decide_eq_true_eq, bne_iff_ne, beq_iff_eq] at key
      obtain ⟨apart, rfl⟩ := key
      refine Option.map_eq_some_iff.2 ⟨pair, ?_, rfl⟩
      rw [← first]
      congr 1
      funext candidate
      by_cases mine : candidate.1 = pair.1
      · simp [mine, apart]
      · simp [mine]

theorem develops_addFile (disk : Disk) (location : Location) {tail : List UInt8}
    (written : Written 0 tail) : disk.Develops (disk.addFile location (.ofBytes tail)).2 := by
  refine Develops.of_content (Nat.le_succ _) ?_ (fun other target there => ?_) (fun id old => ?_)
    fun id new old zeros bytes holds => ?_
  · intro numbered other id there
    rcases entryAt?_of_putEntry there with same | there
    · cases same
      exact Nat.lt_succ_self _
    · exact Nat.lt_succ_of_lt (numbered other id there)
  · exact (entryAt?_of_putEntry there).resolve_left (by simp)
  · rw [content?_addFile, if_neg (Nat.ne_of_lt old)]
  · rw [content?_addFile, if_pos (Nat.le_antisymm (Nat.le_of_lt_succ old) new)] at holds
    cases holds
    exact written

theorem develops_removeEntry (disk : Disk) (location : Location) :
    disk.Develops (disk.removeEntry location) :=
  Develops.of_content (Nat.le_refl _)
    (fun numbered other id there => numbered other id (entryAt?_of_removeEntry there))
    (fun _ _ there => entryAt?_of_removeEntry there) (fun _ _ => rfl)
    fun _ new old => absurd new (Nat.not_le_of_lt old)

theorem developing_verdict : Keeping Develops verdict :=
  growing_verdict.mono Grows.develops

theorem developing_openOrCreate (path : Path) : Keeping Develops (openOrCreate path) := by
  intro disk
  rw [openOrCreate_eq]
  split
  · exact Develops.refl disk
  · split
    · exact Develops.refl disk
    · exact Develops.refl disk
    · exact develops_addFile disk _ ⟨rfl, Or.inl (Or.inl rfl)⟩

theorem develops_judged (disk : Disk) : disk.Develops disk.judged :=
  (grows_judged disk).develops

theorem developing_append (id : FileId) {bytes : List UInt8} (ends : EndsLine bytes) :
    Keeping Develops (append id bytes) := by
  intro disk
  have judged := develops_judged disk
  rw [append_eq]
  split
  · exact judged
  · cases found : disk.content? id with
    | none => exact judged
    | some content =>
        refine judged.trans ?_
        have contents (other : FileId) := content?_putContent
          disk.judged id other (content.append bytes)
        refine ⟨⟨Nat.le_refl _, fun numbered => numbered, fun _ _ there => there,
          fun other _ zeros tail holds => ?_,
          fun other new old => absurd new (Nat.not_le_of_lt old)⟩, fun other _ database holds => ?_⟩
        · rw [contents] at holds
          split at holds
          · next same =>
              subst same
              cases content with
              | database database => cases holds
              | bytes zeros front =>
                  cases holds
                  exact ⟨front, bytes, found, rfl, ends⟩
          · exact ⟨tail, [], holds, (List.append_nil tail).symm, Or.inl rfl⟩
        · rw [contents]
          split
          · next same =>
              subst same
              have held : disk.content? other = some (.database database) := holds
              rw [found] at held
              cases held
              rfl
          · exact holds

theorem find_keeps (last : LastPiece) (path : Path) : Keeping Develops (find last path) := by
  intro disk
  rw [find_eq]
  exact Develops.refl disk

theorem Drafts.develops {bytes : List UInt8} {answer : Except OsError FileId}
    (drafts : disk.Drafts bytes answer after)
    (written : Written 0 bytes) : disk.Develops after := by
  -- The tree is what it was, and a file that was made holds nothing yet or all of the bytes.
  have drafted {tail : List UInt8} (entries : after.entries = disk.entries)
      (nextFile : after.nextFile = disk.nextFile + 1)
      (contents : ∀ id, after.content? id =
        if id = disk.nextFile then some (.ofBytes tail) else disk.content? id)
      (writes : Written 0 tail) : disk.Develops after := by
    refine Develops.of_content (nextFile ▸ Nat.le_succ _) (fun numbered location id there => ?_)
      (fun location target there => by rwa [entryAt?, ← entries]) (fun id old => ?_)
      fun id new old zeros bytes holds => ?_
    · have earlier := numbered location id (by rwa [entryAt?, ← entries])
      exact nextFile ▸ Nat.lt_succ_of_lt earlier
    · rw [contents, if_neg (Nat.ne_of_lt old)]
    · rw [nextFile] at old
      rw [contents, if_pos (Nat.le_antisymm (Nat.le_of_lt_succ old) new)] at holds
      cases holds
      exact writes
  cases drafts with
  | refused error entries nextFile contents =>
      refine Develops.of_content (Nat.le_of_eq nextFile.symm) (fun numbered location id there => ?_)
        (fun location target there => by rwa [entryAt?, ← entries]) (fun id _ => ?_)
        fun id new old => absurd new (Nat.not_le_of_lt (nextFile ▸ old))
      · rw [nextFile]
        exact numbered location id (by rwa [entryAt?, ← entries])
      · rw [content?, content?, contents]
  | abandoned error tail part entries nextFile contents =>
      refine drafted entries nextFile contents ?_
      rcases part with rfl | rfl
      · exact ⟨rfl, Or.inl (Or.inl rfl)⟩
      · exact written
  | completed entries nextFile contents => exact drafted entries nextFile contents written

/-- A file whose number was given out can be put anywhere. -/
theorem develops_putEntry (disk : Disk) (location : Location) {id : FileId}
    (old : id < disk.nextFile) : disk.Develops (disk.putEntry location (.file id)) := by
  refine Develops.of_content (Nat.le_refl _) (fun numbered other file there => ?_)
    (fun other target there => (entryAt?_of_putEntry there).resolve_left (by simp)) (fun _ _ => rfl)
    fun _ new old => absurd new (Nat.not_le_of_lt old)
  rcases entryAt?_of_putEntry there with same | there
  · cases same
    exact old
  · exact numbered other file there

theorem developing_removeFile (path : Path) : Keeping Develops (removeFile path) := by
  refine Keeping.bind Develops.trans developing_verdict fun _ => ?_
  refine Keeping.bind Develops.trans (find_keeps _ _) fun place => ?_
  split
  · exact Develops.refl
  · exact fun disk => develops_removeEntry disk _
  · exact Develops.refl

theorem developing_readFile (path : Path) : Keeping Develops (readFile path) :=
  (growing_readFile path).mono Grows.develops

theorem developing_listDirectory (path : Path) : Keeping Develops (listDirectory path) := by
  refine Keeping.bind Develops.trans developing_verdict fun _ => ?_
  refine Keeping.bind Develops.trans (find_keeps _ _) fun place => ?_
  split
  · exact Keeping.bind Develops.trans Develops.refl fun _ => Develops.refl
  · exact Develops.refl
  · exact Develops.refl

theorem developing_makeDirectories (path : Path) : Keeping Develops (makeDirectories path) :=
  (growing_makeDirectories path).mono Grows.develops

end Disk

theorem Checkpoint.grows_load (path : Path) (disk : Disk) : disk.Grows (load path disk).2 := by
  have reads := Disk.growing_readFile path disk
  unfold load
  split
  · next read =>
      rw [read] at reads
      split <;> exact reads
  · next read => rwa [read] at reads
  · next read => rwa [read] at reads

/-- Saving a checkpoint makes directories and a new file. -/
theorem Checkpoint.develops_save (checkpoint : Checkpoint) (path : Path) (now : Timestamp)
    (disk : Disk) : disk.Develops (checkpoint.save path now disk).2.2 := by
  have written : Disk.Written 0 (checkpoint.savedBytes now) :=
    ⟨rfl, Or.inr ⟨_, List.prefix_rfl⟩⟩
  have directories := Disk.developing_makeDirectories (directoryOf path) disk
  have ends := saveEnds_save checkpoint path now disk
  generalize (checkpoint.save path now disk).1 = answer at ends
  generalize (checkpoint.save path now disk).2.2 = after at ends ⊢
  cases ends with
  | barred made => rwa [made] at directories
  | unwritten made drafts =>
      rw [made] at directories
      exact directories.trans (drafts.develops written)
  | unplaced made drafts =>
      rw [made] at directories
      exact (directories.trans (drafts.develops written)).trans (Disk.develops_judged _)
  | placed made drafts found solid =>
      rw [made] at directories
      refine (directories.trans (drafts.develops written)).trans
        ((Disk.develops_judged _).trans (Disk.develops_putEntry _ _ ?_))
      cases drafts with
      | completed entries nextFile contents => exact nextFile ▸ Nat.lt_succ_self _

end PartsList
