import PartsList.Proofs.Spill.Holding

/-!
# What producers add to the disk

A producer that spills results makes directories and its file as far as they are missing, and adds
the lines of the results to the file.  All other files hold what they held. What is told of several
appends in a row is told of each of them: its answer, and what the file gained by it.
-/

namespace PartsList

open Disk

namespace Content

theorem append_append (content : Content) (bytes more : List UInt8) :
    (content.append bytes).append more = content.append (bytes ++ more) := by
  cases content <;> simp [append]

end Content

namespace Disk

variable {kept : FileId → Prop} {disk middle after : Disk} {file file' : Option FileId}
  {bytes more : List UInt8}

/-- The part of what one file gains that comes to a given file. -/
def shareOf (file : Option FileId) (bytes : List UInt8) (id : FileId) : List UInt8 :=
  if file = some id then bytes else []

theorem shareOf_nil (file : Option FileId) (id : FileId) : shareOf file [] id = [] := by
  rw [shareOf]
  split <;> rfl

theorem shareOf_append (known : bytes = [] ∨ ∃ own, file = some own)
    (stays : ∀ id, file = some id → file' = some id) (id : FileId) :
    shareOf file bytes id ++ shareOf file' more id = shareOf file' (bytes ++ more) id := by
  rcases known with rfl | ⟨own, rfl⟩
  · rw [shareOf_nil]
    rfl
  · rw [stays own rfl, shareOf, shareOf, shareOf]
    split <;> rfl

/-- The tree has only grown.  Of the files that count, one holds more bytes behind what it held, the
others hold what they held, and new files hold no more than what they gained. -/
structure Gains (kept : FileId → Prop) (disk after : Disk) (file : Option FileId)
    (bytes : List UInt8) : Prop where
  /-- Numbers are given out once. -/
  nextFile : disk.nextFile ≤ after.nextFile
  /-- Numbers of files in the tree were given out. -/
  numbered : disk.Numbered → after.Numbered
  /-- The tree only grows. -/
  entries : ∀ location entry, disk.entryAt? location = some entry →
    after.entryAt? location = some entry
  /-- What old files hold. -/
  old : ∀ id < disk.nextFile, kept id →
    after.content? id = (disk.content? id).map (·.append (shareOf file bytes id))
  /-- What new files hold. -/
  new : ∀ id, disk.nextFile ≤ id → id < after.nextFile → kept id →
    after.content? id = some (.ofBytes (shareOf file bytes id))

theorem Gains.refl (kept : FileId → Prop) (disk : Disk) (file : Option FileId) :
    Gains kept disk disk file [] where
  nextFile := Nat.le_refl _
  numbered numbered := numbered
  entries _ _ there := there
  old id _ _ := by
    simp only [shareOf_nil, Content.append_nil, Option.map_id_fun']
    rfl
  new _ new old := absurd new (Nat.not_le_of_lt old)

theorem Gains.trans (first : Gains kept disk middle file bytes)
    (second : Gains kept middle after file' more)
    (known : bytes = [] ∨ ∃ own, file = some own ∧ own < middle.nextFile)
    (stays : ∀ id, file = some id → file' = some id) :
    Gains kept disk after file' (bytes ++ more) := by
  have joined := @shareOf_append _ _ _ more (known.imp_right fun ⟨own, is, _⟩ => ⟨own, is⟩) stays
  refine ⟨Nat.le_trans first.nextFile second.nextFile,
    fun numbered => second.numbered (first.numbered numbered),
    fun location entry there => second.entries location entry (first.entries location entry there),
    fun id old counts => ?_, fun id new old counts => ?_⟩
  · rw [second.old id (Nat.lt_of_lt_of_le old first.nextFile) counts, first.old id old counts,
      Option.map_map, ← joined]
    exact congrArg (Option.map · _) (funext fun content => content.append_append _ _)
  · rw [← joined]
    by_cases between : id < middle.nextFile
    · rw [second.old id between counts, first.new id new between counts]
      rfl
    · have late := Nat.le_of_not_lt between
      have others : shareOf file bytes id = [] := by
        rcases known with rfl | ⟨own, rfl, before⟩
        · exact shareOf_nil file id
        · refine if_neg fun same => between ?_
          cases same
          exact before
      rw [second.new id late old counts, others, List.nil_append]

theorem Gains.judged (gains : Gains kept disk after file bytes) :
    Gains kept disk after.judged file bytes :=
  ⟨gains.nextFile, gains.numbered, gains.entries, gains.old, gains.new⟩

theorem Gains.mono {fewer : FileId → Prop} (gains : Gains kept disk after file bytes)
    (counts : ∀ id, fewer id → kept id) : Gains fewer disk after file bytes where
  nextFile := gains.nextFile
  numbered := gains.numbered
  entries := gains.entries
  old id old counted := gains.old id old (counts id counted)
  new id new old counted := gains.new id new old (counts id counted)

theorem Grows.gains (grows : disk.Grows after) (file : Option FileId) :
    Gains kept disk after file [] where
  nextFile := Nat.le_of_eq grows.nextFile.symm
  numbered := grows.develops.numbered
  entries := grows.entries
  old id _ _ := by
    have same : after.content? id = disk.content? id := by rw [content?, content?, grows.contents]
    simp only [same, shareOf_nil, Content.append_nil, Option.map_id_fun']
    rfl
  new _ new old := absurd new (Nat.not_le_of_lt (grows.nextFile ▸ old))

theorem gains_addFile {location : Location} (free : disk.entryAt? location = none)
    (file : Option FileId) : Gains kept disk (disk.addFile location (.ofBytes [])).2 file [] where
  nextFile := Nat.le_succ _
  numbered := (develops_addFile disk location ⟨rfl, Or.inl (Or.inl rfl)⟩).numbered
  entries := keeps_addFile free _
  old id old _ := by
    rw [content?_addFile, if_neg (Nat.ne_of_lt old)]
    simp only [shareOf_nil, Content.append_nil, Option.map_id_fun']
    rfl
  new id new old _ := by
    rw [content?_addFile, if_pos (Nat.le_antisymm (Nat.le_of_lt_succ old) new), shareOf_nil]

theorem gains_openOrCreate (path : Path) (file : Option FileId) :
    Gains kept disk (openOrCreate path disk).2 file [] := by
  rw [openOrCreate_eq]
  cases found : disk.locate .made path with
  | error error => exact .refl kept disk file
  | ok place =>
      have there := entry_of_locate found
      obtain ⟨location, entry, slash⟩ := place
      dsimp only at there ⊢
      split
      · exact .refl kept disk file
      · exact .refl kept disk file
      · exact gains_addFile there.symm file

theorem nextFile_append (id : FileId) (bytes : List UInt8) (disk : Disk) :
    (append id bytes disk).2.nextFile = disk.nextFile := by
  rw [append_eq]
  split
  · rfl
  · dsimp only
    split <;> rfl

theorem gains_append {id : FileId} (appends : append id bytes disk = (.ok (), after)) :
    Gains kept disk after (some id) bytes := by
  obtain ⟨entries, contents⟩ := SpillFile.append_eq_ok appends
  have nextFile : after.nextFile = disk.nextFile := by
    have same := nextFile_append id bytes disk
    rwa [appends] at same
  refine ⟨Nat.le_of_eq nextFile.symm, fun numbered location other there => ?_,
    fun location entry there => (entries location).trans there, fun other _ _ => ?_,
    fun other new old => absurd new (Nat.not_le_of_lt (nextFile ▸ old))⟩
  · rw [entries] at there
    rw [nextFile]
    exact numbered location other there
  · rw [contents, shareOf]
    by_cases same : other = id
    · rw [if_pos same, if_pos (congrArg some same.symm), same]
    · rw [if_neg same, if_neg fun own => same (Option.some.inj own).symm]
      simp only [Content.append_nil, Option.map_id_fun']
      rfl

theorem grows_of_append_error {id : FileId} {error : OsError}
    (refused : append id bytes disk = (.error error, after)) : disk.Grows after := by
  rw [append_eq] at refused
  split at refused
  · cases refused
    exact grows_judged disk
  · cases refused

end Disk

namespace SpillFile

variable {kept : FileId → Prop} {spill : SpillFile} {disk : Disk} {result : ExtractionResult}

/-- Opening the file makes directories and an empty file, as far as they are missing. -/
theorem gains_opened (spill : SpillFile) (file : Option FileId) :
    Keeping (fun disk after => Gains kept disk after file []) spill.opened := by
  have trans {disk middle after : Disk} (first : Gains kept disk middle file [])
      (second : Gains kept middle after file []) : Gains kept disk after file [] :=
    first.trans second (Or.inl rfl) fun _ own => own
  have grown {α : Type} {work : DiskM α} (growing : Keeping Grows work) :
      Keeping (fun disk after => Gains kept disk after file []) work :=
    growing.mono fun grows => grows.gains file
  have opening :
      Keeping (fun disk after => Gains kept disk after file []) (openAppend spill.path) :=
    Keeping.bind trans (grown growing_verdict) fun _ _ => gains_openOrCreate _ file
  unfold SpillFile.opened
  split
  · exact fun disk => Gains.refl kept disk file
  · dsimp only
    split
    · exact Keeping.bind trans (grown (growing_makeDirectories _)) fun _ => opening
    · exact opening

/-- A line is added to its file, or at most a part of it when the system refuses to write it or to
keep it for good. -/
theorem gains_writeLine (id : FileId) (result : ExtractionResult) (disk : Disk) :
    ∃ part, part <+: lineBytes result ∧
      ((writeLine id result disk).1 = .ok () → part = lineBytes result) ∧
      Gains kept disk (writeLine id result disk).2 (some id) part := by
  rw [writeLine_eq]
  cases appends : append id (lineBytes result) disk with
  | mk answer added =>
      cases answer with
      | error error =>
          exact ⟨[], List.nil_prefix, nofun, (grows_of_append_error appends).gains _⟩
      | ok _ =>
          refine ⟨lineBytes result, List.prefix_rfl, fun _ => rfl, ?_⟩
          have judged : (verdict added).2 = added.judged := by
            rw [verdict_eq]
            split <;> rfl
          exact judged ▸ (gains_append appends).judged

/-- What an attempt at spilling a result adds to the disk. -/
structure Adds (kept : FileId → Prop) (spill : SpillFile) (disk : Disk) (bytes : List UInt8)
    (after : SpillFile) (last : Disk) : Prop where
  /-- The path stays. -/
  path : after.path = spill.path
  /-- An open file stays open. -/
  file : ∀ id, spill.file = some id → after.file = some id
  /-- The open file has a number. -/
  known : after.Known last
  /-- Where the path leads is the open file. -/
  attached : after.Attached last
  /-- Only an open file gains something. -/
  opened : bytes = [] ∨ ∃ id, after.file = some id
  /-- The file gains the bytes. -/
  gains : Gains kept disk last after.file bytes

theorem Adds.trans {middle last : Disk} {next after : SpillFile} {bytes more : List UInt8}
    (first : spill.Adds kept disk bytes next middle)
    (second : next.Adds kept middle more after last) :
    spill.Adds kept disk (bytes ++ more) after last where
  path := second.path.trans first.path
  file id own := second.file id (first.file id own)
  known := second.known
  attached := second.attached
  opened := by
    rcases first.opened with rfl | ⟨id, own⟩
    · exact second.opened
    · exact Or.inr ⟨id, second.file id own⟩
  gains :=
    first.gains.trans second.gains
      (first.opened.imp_right fun ⟨id, own⟩ => ⟨id, own, first.known id own⟩) second.file

theorem Adds.of_gains {last : Disk} (known : spill.Known disk) (attached : spill.Attached disk)
    (gains : Gains kept disk last spill.file []) : spill.Adds kept disk [] spill last where
  path := rfl
  file _ own := own
  known id own := Nat.lt_of_lt_of_le (known id own) gains.nextFile
  attached id own := (attached id own).after gains.entries
  opened := Or.inl rfl
  gains := gains

theorem Adds.mono {fewer : FileId → Prop} {bytes : List UInt8} {after : SpillFile} {last : Disk}
    (adds : spill.Adds kept disk bytes after last) (counts : ∀ id, fewer id → kept id) :
    spill.Adds fewer disk bytes after last :=
  { adds with gains := adds.gains.mono counts }

/-- An attempt at spilling a result adds its line to the file, or at most a part of it if it
fails. -/
theorem adds_persist (numbered : disk.Numbered) (known : spill.Known disk)
    (attached : spill.Attached disk) (result : ExtractionResult) :
    ∃ part, part <+: lineBytes result ∧
      ((spill.persist result disk).1 = .ok () → part = lineBytes result) ∧
      spill.Adds kept disk part (spill.persist result disk).2.1
        (spill.persist result disk).2.2 := by
  have spills := spills_persist numbered known result
  have gains (file : Option FileId) : Gains kept disk (spill.opened disk).2 file [] :=
    gains_opened spill file disk
  unfold persist at spills ⊢
  cases opens : spill.opened disk with
  | mk outcome opened =>
      rw [opens] at gains
      simp only [opens] at spills ⊢
      cases outcome with
      | error error =>
          exact ⟨[], List.nil_prefix, nofun, rfl, fun _ own => own, spills.known,
            fun id own => (attached id own).after (gains none).entries, Or.inl rfl, gains _⟩
      | ok id =>
          have leads := leads_of_opened attached opens
          obtain ⟨part, most, whole, added⟩ := @gains_writeLine kept id result opened
          have joined := (gains (some id)).trans added (Or.inl rfl) fun _ own => own
          rw [List.nil_append] at joined
          refine ⟨part, most, ?_⟩
          dsimp only at spills ⊢
          cases writes : writeLine id result opened with
          | mk outcome last =>
              rw [writes] at whole added joined
              have attached : (SpillFile.mk spill.path (some id) spill.written).Attached last :=
                fun other own => Option.some.inj own ▸ leads.after added.entries
              simp only [writes] at spills ⊢
              cases outcome with
              | error error =>
                  exact ⟨nofun, rfl, spills.file, spills.known, attached, Or.inr ⟨id, rfl⟩, joined⟩
              | ok _ =>
                  exact ⟨fun _ => whole rfl, rfl, spills.file, spills.known, attached,
                    Or.inr ⟨id, rfl⟩, joined⟩

end SpillFile

/-- A result that a producer has tried to append to its spill file. -/
structure Append where
  /-- The result. -/
  result : ExtractionResult
  /-- The answer. -/
  answer : Except SpillError Unit
  /-- What the file gained. -/
  added : List UInt8

namespace Append

/-- The result is spilled. -/
def isKept (append : Append) : Bool :=
  match append.answer with
  | .ok () => true
  | .error _ => false

/-- What there is to tell of a result that is lost: its file, and why. -/
def loss? (append : Append) : Option (Path × SpillError) :=
  match append.answer with
  | .ok () => none
  | .error error => some (append.result.filePath, error)

theorem length_kept_add_losses (appends : List Append) :
    appends.countP isKept + (appends.filterMap loss?).length = appends.length := by
  induction appends with
  | nil => rfl
  | cons append appends induction =>
      obtain ⟨result, answer, added⟩ := append
      rw [List.countP_cons, List.filterMap_cons, List.length_cons, ← induction]
      cases answer with
      | ok => simp only [isKept, loss?, if_pos]; omega
      | error => simp only [isKept, loss?, List.length_cons, Bool.false_eq_true, if_false]; omega

end Append

namespace SpillFile

variable {spill after : SpillFile} {disk last : Disk} {appends : List Append}

/-- A producer has tried to append results to its spill file, one after the other. -/
inductive Appends : SpillFile → Disk → List Append → SpillFile → Disk → Prop
  /-- There are none. -/
  | nil {spill : SpillFile} {disk : Disk} : Appends spill disk [] spill disk
  /-- The first one gets its answer, and the file gains its line, or at most a part of it if the
  answer is a refusal. -/
  | cons {spill next after : SpillFile} {disk middle last : Disk} {append : Append}
      {appends : List Append}
      (persists : spill.persist append.result disk = (append.answer, next, middle))
      (adds : spill.Adds (fun _ => True) disk append.added next middle)
      (most : append.added <+: lineBytes append.result)
      (whole : append.answer = .ok () → append.added = lineBytes append.result)
      (rest : Appends next middle appends after last) :
      Appends spill disk (append :: appends) after last

/-- What the file gains by several appends. -/
theorem Appends.adds (known : spill.Known disk) (attached : spill.Attached disk)
    (appended : spill.Appends disk appends after last) :
    spill.Adds (fun _ => True) disk (appends.flatMap (·.added)) after last := by
  induction appended with
  | nil => exact .of_gains known attached (.refl _ _ _)
  | cons _ adds _ _ _ induction =>
      rw [List.flatMap_cons]
      exact adds.trans (induction adds.known adds.attached)

/-- If all appends succeed, the file gains the lines of the results. -/
theorem Appends.added_eq (appended : spill.Appends disk appends after last)
    (kept : ∀ append ∈ appends, append.isKept = true) :
    appends.flatMap (·.added) = SpillContent.linesOf (appends.map (·.result)) := by
  induction appended with
  | nil => rfl
  | @cons _ _ _ _ _ _ append appends _ _ _ whole _ induction =>
      obtain ⟨first, others⟩ := List.forall_mem_cons.1 kept
      have accepted : append.answer = .ok () := by
        unfold Append.isKept at first
        split at first
        · next accepted => exact accepted
        · cases first
      rw [List.flatMap_cons, induction others, whole accepted, List.map_cons,
        SpillContent.linesOf, SpillContent.linesOf, List.flatMap_cons]

end SpillFile

end PartsList
