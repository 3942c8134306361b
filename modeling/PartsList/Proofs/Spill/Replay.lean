import PartsList.Proofs.Disk.Listing
import PartsList.Proofs.Spill.Holding
import PartsList.Proofs.Store.LastDelivery

/-!
# What a replay delivers

A replay that succeeds delivers the results that it reads in the order of their files and lines.
Among them are all the results that producers have spilled into files that are still in their places
and did not end in a part of a line before.
-/

namespace PartsList

open Disk

namespace Database

/-- A database has taken results, if there were any. -/
def Takes (database after : Database) (results : List ExtractionResult) : Prop :=
  results = [] ∧ after.store? = database.store? ∨
    ∃ store, database.store? = some store ∧ after.store? = some (store.deliverAll results)

variable {database middle after : Database} {results more : List ExtractionResult}

theorem Takes.append (first : database.Takes middle results) (second : middle.Takes after more) :
    database.Takes after (results ++ more) := by
  rcases first with ⟨rfl, same⟩ | ⟨store, before, between⟩
  · rw [List.nil_append]
    rcases second with ⟨rfl, same'⟩ | ⟨store, between, behind⟩
    · exact Or.inl ⟨rfl, same'.trans same⟩
    · exact Or.inr ⟨store, same ▸ between, behind⟩
  · refine Or.inr ⟨store, before, ?_⟩
    rcases second with ⟨rfl, same⟩ | ⟨store', between', behind⟩
    · rw [same, between, List.append_nil]
    · rw [between] at between'
      cases between'
      rw [behind, Store.deliverAll, Store.deliverAll, Store.deliverAll, List.foldl_append]

theorem takes_of_upsert {counts : UpsertCounts}
    (taken : database.upsert results = (.ok counts, after)) : database.Takes after results := by
  unfold upsert at taken
  dsimp only at taken
  split at taken
  · cases taken
  · split at taken
    · next none =>
        cases taken
        exact Or.inl ⟨List.isEmpty_iff.1 none, rfl⟩
    · split at taken
      · next store tables =>
          cases taken
          exact Or.inr ⟨store, tables, rfl⟩
      · cases taken

end Database

namespace Disk

variable {disk middle after : Disk}

/-- Entries went from the tree, and files hold what they held. -/
structure Sheds (disk after : Disk) : Prop where
  /-- What stands in the tree stood there. -/
  entries : ∀ location entry, after.entryAt? location = some entry →
    disk.entryAt? location = some entry
  /-- Files hold what they held. -/
  contents : after.contents = disk.contents

theorem Sheds.refl (disk : Disk) : disk.Sheds disk :=
  ⟨fun _ _ there => there, rfl⟩

theorem Sheds.trans (first : disk.Sheds middle) (second : middle.Sheds after) : disk.Sheds after :=
  ⟨fun location entry there => first.entries location entry (second.entries location entry there),
    second.contents.trans first.contents⟩

theorem sheds_judged (disk : Disk) : disk.Sheds disk.judged :=
  ⟨fun _ _ there => there, rfl⟩

theorem shedding_verdict : Keeping Sheds verdict := by
  intro disk
  rw [verdict_eq]
  split <;> exact sheds_judged disk

theorem shedding_find (last : LastPiece) (path : Path) : Keeping Sheds (find last path) := by
  intro disk
  rw [find_eq]
  exact Sheds.refl disk

theorem shedding_removeFile (path : Path) : Keeping Sheds (removeFile path) := by
  refine Keeping.bind Sheds.trans shedding_verdict fun _ => ?_
  refine Keeping.bind Sheds.trans (shedding_find _ _) fun place => ?_
  split
  · exact Sheds.refl
  · exact fun disk => ⟨fun _ _ there => entryAt?_of_removeEntry there, rfl⟩
  · exact Sheds.refl

/-- What is read of a path are the bytes of the file that it leads to. -/
theorem readFile_eq_ok {path : Path} {bytes : List UInt8}
    (reads : readFile path disk = (.ok bytes, after)) :
    disk.Sheds after ∧
      ∃ id, disk.Leads path id ∧ bytes = ((disk.content? id).map Content.toBytes).getD [] := by
  rw [readFile, verdict_bind] at reads
  split at reads
  · cases reads
  · rw [bind_eq, openFile, bind_eq, find_eq, resolve_judged] at reads
    cases found : disk.resolve .followed path with
    | error error =>
        rw [found] at reads
        cases reads
    | ok place =>
        obtain ⟨location, entry, slash⟩ := place
        rw [found] at reads
        rcases entry with _ | (id | _ | _)
        · cases reads
        · cases reads
          exact ⟨disk.sheds_judged, id, leads_of_resolve found rfl, rfl⟩
        · cases reads
        · cases reads

end Disk

namespace Spill

/-- The results that are read of files one after the other, each of which is removed when it has
been read. -/
def heldIn : List Path → Disk → List ExtractionResult
  | [], _ => []
  | path :: paths, disk =>
    match read path disk with
    | (.ok content, disk) => content.results ++ heldIn paths (removeFile path disk).2
    | (.error _, _) => []

/-- The results that a replay of a directory reads. -/
def held (directory : Path) (disk : Disk) : List ExtractionResult :=
  match files directory disk with
  | (.ok paths, disk) => heldIn paths disk
  | (.error _, _) => []

variable {path : Path} {paths : List Path} {database after : Database} {disk last : Disk}
  {readOnly : Bool} {stats stats' : ReplayStats}

theorem takes_of_deliver {results : List ExtractionResult} {counts : UpsertCounts}
    (taken : deliver results database readOnly = (.ok counts, after)) :
    database.Takes after results := by
  unfold deliver at taken
  split at taken
  · cases taken
  · exact Database.takes_of_upsert taken

theorem replayFile_eq_ok {answer : UpsertCounts × Nat}
    (replays : replayFile path database disk readOnly = (.ok answer, after, last)) :
    ∃ content opened, read path disk = (.ok content, opened) ∧
      deliver content.results database readOnly = (.ok answer.1, after) ∧
      answer.2 = content.skipped ∧ removeFile path opened = (.ok (), last) := by
  unfold replayFile at replays
  split at replays
  · cases replays
  · next content opened reads =>
      split at replays
      · cases replays
      · next counts between taken =>
          split at replays
          · cases replays
          · next removed =>
              cases replays
              exact ⟨content, opened, reads, taken, rfl, removed⟩

/-- A replay delivers what it reads. -/
theorem takes_of_replayFiles
    (replays : replayFiles stats database disk readOnly paths = (.ok stats', after, last)) :
    database.Takes after (heldIn paths disk) := by
  induction paths generalizing stats database disk with
  | nil =>
      cases replays
      exact Or.inl ⟨rfl, rfl⟩
  | cons path paths induction =>
      rw [replayFiles] at replays
      split at replays
      · cases replays
      · next counts skipped between next replayed =>
          obtain ⟨content, opened, reads, delivers, -, removes⟩ := replayFile_eq_ok replayed
          rw [heldIn, reads]
          dsimp only
          rw [removes]
          exact (takes_of_deliver delivers).append (induction replays)

theorem develops_replayFiles
    (replays : replayFiles stats database disk readOnly paths = (.ok stats', after, last)) :
    disk.Develops last := by
  induction paths generalizing stats database disk with
  | nil =>
      cases replays
      exact Develops.refl _
  | cons path paths induction =>
      rw [replayFiles] at replays
      split at replays
      · cases replays
      · next counts skipped between next replayed =>
          obtain ⟨content, opened, reads, -, -, removes⟩ := replayFile_eq_ok replayed
          have reading := developing_readFile path disk
          have removing := developing_removeFile path opened
          unfold read at reads
          rw [removes] at removing
          split at reads
          · next bytes opened read =>
              cases reads
              rw [read] at reading
              exact (reading.trans removing).trans (induction replays)
          · cases reads

theorem read_eq_ok {content : SpillContent} {opened : Disk}
    (reads : read path disk = (.ok content, opened)) :
    disk.Sheds opened ∧ ∃ id, disk.Leads path id ∧
      content = SpillContent.ofBytes (((disk.content? id).map Content.toBytes).getD []) := by
  unfold read at reads
  split at reads
  · next bytes opened read =>
      cases reads
      obtain ⟨sheds, id, leads, rfl⟩ := readFile_eq_ok read
      exact ⟨sheds, id, leads, rfl⟩
  · cases reads

/-- A replay reads every result whose line was in one of its files when the replay began, behind
bytes without a part of a line at their end. -/
theorem mem_heldIn {start : Disk} {id : FileId} {zeros : Nat} {front back : List UInt8}
    {result : ExtractionResult}
    (replays : replayFiles stats database disk readOnly paths = (.ok stats', after, last))
    (mem : path ∈ paths) (leads : start.Leads path id)
    (holds : start.content? id =
      some (.bytes zeros (front ++ SpillFile.lineBytes result ++ back)))
    (clean : SpillContent.EndsClean (Content.bytes zeros front).toBytes)
    (fits : result.Fits) (sheds : start.Sheds disk) : result ∈ heldIn paths disk := by
  induction paths generalizing stats database disk with
  | nil => cases mem
  | cons other paths induction =>
      rw [replayFiles] at replays
      split at replays
      · cases replays
      · next counts skipped between next replayed =>
          obtain ⟨content, opened, reads, -, -, removes⟩ := replayFile_eq_ok replayed
          obtain ⟨sheds', id', leads', rfl⟩ := read_eq_ok reads
          have removed := shedding_removeFile other opened
          rw [removes] at removed
          rw [heldIn, reads]
          dsimp only
          rw [removes]
          by_cases same : path = other
          · -- Files only went since the replay began, so the path still leads to the same one.
            subst same
            obtain rfl := leads.unique (leads'.after sheds.entries)
            have still : disk.content? id = start.content? id := by
              rw [content?, content?, sheds.contents]
            have lines :
              (Content.bytes zeros (front ++ SpillFile.lineBytes result ++ back)).toBytes =
                (Content.bytes zeros front).toBytes ++ SpillFile.lineBytes result ++ back := by
              simp [Content.toBytes]
            refine List.mem_append_left _ ?_
            rw [still, holds, Option.map_some, Option.getD_some, lines]
            exact SpillContent.mem_results_of_line fits clean back
          · refine List.mem_append_right _ ?_
            have mem' := (List.mem_cons.1 mem).resolve_left same
            exact induction replays mem' ((sheds.trans sheds').trans removed)

end Spill

/-! ## Directories of spill files -/

namespace Producer

theorem name_plain (producer : Producer) :
    0 < producer.name.toList.length ∧ '/' ∉ producer.name.toList := by
  have digits (id : Nat) : '/' ∉ (toString id).toList := by
    intro mem
    rw [Nat.toString_eq_repr, Nat.toList_repr] at mem
    exact absurd (Numeral.isDigit_of_mem_digits mem) (by decide)
  cases producer with
  | worker id =>
      rw [name, String.toList_append]
      exact ⟨by simp, fun mem => (List.mem_append.1 mem).elim (by decide) (digits id)⟩
  | writer id =>
      rw [name, String.toList_append]
      exact ⟨by simp, fun mem => (List.mem_append.1 mem).elim (by decide) (digits id)⟩
  | manager => exact ⟨by decide, by decide⟩

/-- The name of a producer's spill file. -/
def fileName (producer : Producer) : String :=
  producer.name ++ "." ++ spillExtension

theorem fileName_plain (producer : Producer) :
    2 < producer.fileName.toList.length ∧ '/' ∉ producer.fileName.toList := by
  obtain ⟨named, one⟩ := producer.name_plain
  rw [fileName, String.toList_append, String.toList_append]
  refine ⟨?_, fun mem => ?_⟩
  · have ending : spillExtension.toList.length = 5 := by decide
    simp only [List.length_append, ending]
    omega
  · rcases List.mem_append.1 mem with mem | mem
    · exact (List.mem_append.1 mem).elim one (by decide)
    · exact absurd mem (by decide)

theorem fileName_ne (producer : Producer) {name : String} (short : name.toList.length ≤ 2) :
    producer.fileName ≠ name := by
  rintro rfl
  exact absurd producer.fileName_plain.1 (by omega)

theorem extensionOf_fileName (producer : Producer) :
    Path.extensionOf producer.fileName = some spillExtension := by
  refine Path.extensionOf_append (fun none => ?_) (by decide)
  have named := producer.name_plain.1
  rw [none] at named
  exact absurd named (by decide)

end Producer

/-- The file that a producer has open is one of bytes, and it is where the producer's path leads. -/
def SpillFile.InPlace (spill : SpillFile) (disk : Disk) : Prop :=
  ∀ id, spill.file = some id →
    disk.Leads spill.path id ∧ ∃ zeros tail, disk.content? id = some (.bytes zeros tail)

/-- Nobody has got in the way of a producer: its file is in its place, did not end in a part of a
line at the start, and is no checkpoint's. -/
structure SpillFile.Undisturbed (spill : SpillFile) (start disk : Disk) : Prop where
  /-- The file is in its place. -/
  inPlace : spill.InPlace disk
  /-- It did not end in a part of a line. -/
  whole : ∀ id, spill.file = some id → id < start.nextFile → ∀ content,
    start.content? id = some content → SpillContent.EndsClean content.toBytes
  /-- It is no checkpoint's. -/
  apart : ∀ id, spill.file = some id → ∀ zeros tail, disk.content? id = some (.bytes zeros tail) →
    ∀ checkpoint : Checkpoint, ¬bytesOf checkpoint.fileText <+: tail

namespace Spill

variable {directory : Path} {database after : Database} {disk last : Disk} {readOnly : Bool}
  {stats : ReplayStats}

theorem mem_files {producer : Producer} {paths : List Path} {id : FileId} {opened : Disk}
    (named : directory.spelling ≠ "") (calm : disk.faults.head? ≠ some (some .notFound))
    (listed : files directory disk = (.ok paths, opened))
    (leads : disk.Leads (directory.join producer.fileName) id) :
    directory.join producer.fileName ∈ paths ∧ disk.Sheds opened := by
  have one := producer.fileName_plain.2
  have loud : ¬isSilent producer.fileName := by
    have first := producer.fileName_ne (by decide : "".toList.length ≤ 2)
    have second := producer.fileName_ne (by decide : ".".toList.length ≤ 2)
    simp [isSilent, first, second]
  have down : producer.fileName ≠ ".." := producer.fileName_ne (by decide)
  obtain ⟨location, found, mem⟩ := directory_of_leads leads named one loud down
  unfold files at listed
  rw [listDirectory_of_resolve found] at listed
  have extension : (directory.join producer.fileName).extension? = some spillExtension := by
    have silent := not_or.1 (mt (fun which => by simpa [isSilent] using which) loud)
    rw [Path.extension?, Path.lastName?_join named one silent down]
    exact producer.extensionOf_fileName
  have among : directory.join producer.fileName ∈
      Path.sort
        (((disk.children location).map directory.join).filter (isSpillFile disk.judged)) := by
    have still : disk.judged.Leads (directory.join producer.fileName) id :=
      leads.after fun _ _ there => there
    refine List.mem_mergeSort.2 (List.mem_filter.2 ⟨List.mem_map_of_mem mem, ?_⟩)
    simp [isSpillFile, still.isFile, extension]
  rcases head : disk.faults.head? with _ | _ | error
  · rw [head] at listed
    cases listed
    exact ⟨among, disk.sheds_judged⟩
  · rw [head] at listed
    cases listed
    exact ⟨among, disk.sheds_judged⟩
  · rw [head] at listed
    cases error with
    | notFound => exact absurd head calm
    | alreadyExists | notADirectory | isADirectory | nameTooLong | linkLoop | nulCharacter | notText
    | noSpace | exhausted => cases listed

/-- What was read of a file at some time since the start had no part of a line at its end, unless
the file ended in one at the start, or the file is a checkpoint's. -/
theorem clean_of_evolves {start before : Disk} {id : FileId} {zeros : Nat} {front : List UInt8}
    (since : start.Evolves before) (known : id < before.nextFile)
    (content : before.content? id = some (.bytes zeros front))
    (whole : id < start.nextFile → ∀ content, start.content? id = some content →
      SpillContent.EndsClean content.toBytes)
    (apart : ∀ checkpoint : Checkpoint, ¬bytesOf checkpoint.fileText <+: front) :
    SpillContent.EndsClean (Content.bytes zeros front).toBytes := by
  by_cases old : id < start.nextFile
  · obtain ⟨prior, more, held, rfl, ends⟩ := since.bytes id old zeros front content
    have clean := (whole old _ held).append ends
    rwa [Content.toBytes, List.append_assoc] at clean
  · obtain ⟨rfl, ends | ⟨checkpoint, text⟩⟩ :=
      since.made id (Nat.le_of_not_lt old) known zeros front content
    · exact ends.clean
    · exact absurd text (apart checkpoint)

/-- A replay reads every result that a producer has spilled since the start, when nobody has got in
its way. -/
theorem mem_held {spill : SpillFile} {producer : Producer} {start : Disk}
    {result : ExtractionResult} (named : directory.spelling ≠ "")
    (calm : disk.faults.head? ≠ some (some .notFound))
    (replays : reconcile directory database disk readOnly = (.ok stats, after, last))
    (path : spill.path = directory.join producer.fileName)
    (holds : spill.HoldsSince start disk result) (undisturbed : spill.Undisturbed start disk)
    (fits : result.Fits) : result ∈ held directory disk := by
  obtain ⟨id, before, file, -, since, known, lines⟩ := holds
  obtain ⟨leads, zeros, tail, content⟩ := undisturbed.inPlace id file
  obtain ⟨front, back, held, rfl⟩ := lines zeros tail content
  have clean := clean_of_evolves since known held (undisturbed.whole id file)
    fun checkpoint text => undisturbed.apart id file _ _ content checkpoint
      (text.trans ((List.prefix_append _ _).trans (List.prefix_append _ _)))
  rw [path] at leads
  unfold reconcile at replays
  unfold Spill.held
  split at replays
  · cases replays
  · next paths opened listed =>
      obtain ⟨mem, sheds⟩ := mem_files named calm listed leads
      rw [listed]
      exact mem_heldIn replays mem leads content clean fits sheds

/-- A replay only removes files from the tree. -/
theorem develops_reconcile
    (replays : reconcile directory database disk readOnly = (.ok stats, after, last)) :
    disk.Develops last := by
  have listing := developing_listDirectory directory disk
  unfold reconcile files at replays
  split at replays
  · cases replays
  · next paths opened listed =>
      have lists : disk.Develops opened := by
        split at listed
        · next named =>
            cases listed
            rwa [named] at listing
        · next missing =>
            cases listed
            rwa [missing] at listing
        · cases listed
      exact lists.trans (develops_replayFiles replays)

/-- A replay of a directory delivers what it reads. -/
theorem takes_of_reconcile
    (replays : reconcile directory database disk readOnly = (.ok stats, after, last)) :
    database.Takes after (held directory disk) := by
  unfold reconcile at replays
  unfold held
  split at replays
  · cases replays
  · next paths opened listed =>
      rw [listed]
      exact takes_of_replayFiles replays

end Spill

end PartsList
