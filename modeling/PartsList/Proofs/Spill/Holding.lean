import PartsList.Proofs.Disk.Development
import PartsList.Proofs.Spill.Survival

/-!
# Spilled results on disks that evolve

Once a producer has spilled a result, its file holds the result's line, and no later work on the
disk takes the line away.
-/

namespace PartsList

open Disk

namespace SpillContent

/-- A result whose line was added to a file without a part of a line at its end is read back. -/
theorem mem_results_of_line {result : ExtractionResult} (fits : result.Fits)
    {front : List UInt8} (clean : EndsClean front) (back : List UInt8) :
    result ∈ (ofBytes (front ++ SpillFile.lineBytes result ++ back)).results := by
  have one := not_mem_tornTail front
  have joined : lineFeed ∉ tornTail front ++ Disk.bytesOf result.line := fun mem =>
    (List.mem_append.1 mem).elim one result.lineFeed_not_mem_line
  have lines : front ++ SpillFile.lineBytes result ++ back = wholeLines front ++
      ((tornTail front ++ Disk.bytesOf result.line) ++ lineFeed :: back) := by
    rw [List.append_assoc (tornTail front), ← lineBytes_append,
      ← List.append_assoc (wholeLines front), wholeLines_append_tornTail, List.append_assoc]
  have read : readLine (tornTail front ++ Disk.bytesOf result.line) = .result result :=
    (readLine_append fits one).trans (if_pos clean)
  rw [lines, ofBytes_append (endsLine_wholeLines front), ofBytes_line joined, read]
  exact List.mem_append_right _ List.mem_cons_self

end SpillContent

namespace SpillFile

variable {spill after : SpillFile} {disk opened last : Disk} {id : FileId}
  {result : ExtractionResult}

/-- The file that the producer has open has a number. -/
def Known (spill : SpillFile) (disk : Disk) : Prop :=
  ∀ id, spill.file = some id → id < disk.nextFile

/-- The producer's file, if it is one of bytes, holds the line of a result, which was added to what
the file held at some time after the start. -/
def HoldsSince (spill : SpillFile) (start disk : Disk) (result : ExtractionResult) : Prop :=
  ∃ id before, spill.file = some id ∧ id < disk.nextFile ∧ start.Evolves before ∧
    id < before.nextFile ∧ ∀ zeros tail, disk.content? id = some (.bytes zeros tail) →
      ∃ front back, before.content? id = some (.bytes zeros front) ∧
        tail = front ++ lineBytes result ++ back

theorem HoldsSince.evolves {start : Disk} (holds : spill.HoldsSince start disk result)
    (evolves : disk.Evolves last) : spill.HoldsSince start last result := by
  obtain ⟨id, before, file, old, since, known, lines⟩ := holds
  refine ⟨id, before, file, Nat.lt_of_lt_of_le old evolves.nextFile, since, known,
    fun zeros tail held => ?_⟩
  obtain ⟨start, more, content, rfl, -⟩ := evolves.bytes id old zeros tail held
  obtain ⟨front, back, prior, rfl⟩ := lines zeros start content
  exact ⟨front, back ++ more, prior, List.append_assoc _ _ _⟩

theorem HoldsSince.congr {start : Disk} (holds : spill.HoldsSince start disk result)
    (file : ∀ id, spill.file = some id → after.file = some id) :
    after.HoldsSince start disk result := by
  obtain ⟨id, before, opened, old, since, known, lines⟩ := holds
  exact ⟨id, before, file id opened, old, since, known, lines⟩

theorem Known.evolves (known : spill.Known disk) (evolves : disk.Evolves last) : spill.Known last :=
  fun id file => Nat.lt_of_lt_of_le (known id file) evolves.nextFile

theorem developing_opened (spill : SpillFile) : Keeping Develops spill.opened := by
  unfold SpillFile.opened
  split
  · exact Develops.refl
  · have opening : Keeping Develops (openAppend spill.path) :=
      Keeping.bind Develops.trans developing_verdict fun _ => developing_openOrCreate _
    dsimp only
    split
    · exact Keeping.bind Develops.trans (developing_makeDirectories _) fun _ => opening
    · exact opening

theorem lt_of_openOrCreate {path : Path} (numbered : disk.Numbered)
    (opens : openOrCreate path disk = (.ok id, opened)) : id < opened.nextFile := by
  rw [openOrCreate_eq] at opens
  cases found : disk.locate .made path with
  | error error =>
      rw [found] at opens
      cases opens
  | ok place =>
      have there := entry_of_locate found
      obtain ⟨location, entry, slash⟩ := place
      simp only [found] at opens there
      split at opens
      · cases opens
        exact numbered _ _ there.symm
      · cases opens
      · cases opens
        exact Nat.lt_succ_self _

theorem lt_of_opened (numbered : disk.Numbered) (known : spill.Known disk)
    (opens : spill.opened disk = (.ok id, opened)) : id < opened.nextFile := by
  cases file : spill.file with
  | some other =>
      rw [opened_of_file file] at opens
      cases opens
      exact known id file
  | none =>
      obtain ⟨middle, grows, made⟩ := opened_of_none file opens
      exact lt_of_openOrCreate (grows.develops.numbered numbered) made

/-- What an attempt at spilling a result leaves. -/
structure Spills (spill : SpillFile) (disk : Disk) (result : ExtractionResult)
    (answer : Except SpillError Unit × SpillFile × Disk) : Prop where
  /-- Files develop. -/
  develops : disk.Develops answer.2.2
  /-- An open file stays open. -/
  file : ∀ id, spill.file = some id → answer.2.1.file = some id
  /-- The path stays. -/
  path : answer.2.1.path = spill.path
  /-- The open file has a number. -/
  known : answer.2.1.Known answer.2.2
  /-- If the attempt succeeded, the file holds the result. -/
  holds : answer.1 = .ok () → ∀ start : Disk, start.Evolves disk →
    answer.2.1.HoldsSince start answer.2.2 result

theorem developing_writeLine (id : FileId) (result : ExtractionResult) :
    Keeping Develops (writeLine id result) :=
  Keeping.bind Develops.trans (developing_append id (SpillContent.endsLine_lineBytes result))
    fun _ => developing_verdict

theorem spills_persist (numbered : disk.Numbered) (known : spill.Known disk)
    (result : ExtractionResult) : spill.Spills disk result (spill.persist result disk) := by
  have develops := developing_opened spill disk
  unfold persist
  split
  · next opens =>
      rw [opens] at develops
      exact ⟨develops, fun _ file => file, rfl, known.evolves develops.toEvolves, nofun⟩
  · next id opened opens =>
      rw [opens] at develops
      have old := lt_of_opened numbered known opens
      have same (other : FileId) (file : spill.file = some other) : some id = some other := by
        rw [opened_of_file file] at opens
        cases opens
        rfl
      have written := developing_writeLine id result opened
      have still : id < (writeLine id result opened).2.nextFile :=
        Nat.lt_of_lt_of_le old written.nextFile
      dsimp only
      split
      · next writes =>
          rw [writes] at written still
          refine ⟨develops.trans written, same, rfl, fun other file => ?_, nofun⟩
          cases file
          exact still
      · next last writes =>
          rw [writes] at written still
          refine ⟨develops.trans written, same, rfl, fun other file => ?_, fun _ start since => ?_⟩
          · cases file
            exact still
          · refine ⟨id, opened, rfl, still, since.trans develops.toEvolves, old,
              fun zeros tail held => ?_⟩
            obtain ⟨-, contents⟩ := writeLine_eq_ok writes
            rw [contents, if_pos rfl] at held
            obtain ⟨content, before, lengthened⟩ := Option.map_eq_some_iff.1 held
            cases content with
            | database database => cases lengthened
            | bytes zeros front =>
                cases lengthened
                exact ⟨front, [], before, (List.append_nil _).symm⟩

end SpillFile

end PartsList
