import PartsList.Proofs.Disk.Opening
import PartsList.Proofs.Spill.Lines

/-!
# What becomes of spilled results

Results that a producer has spilled are read back from its file in their order, behind what the file
held before.  The one exception is a file whose last line was cut off: the first result joins that
line, and both are lost to the reader.
-/

namespace PartsList

open Disk

namespace SpillFile

/-- Adds the lines of results to the file, one after the other, and stops at the first refusal. -/
def persistAll : List ExtractionResult → SpillFile → Disk →
    Except SpillError Unit × SpillFile × Disk
  | [], spill, disk => (.ok (), spill, disk)
  | result :: results, spill, disk =>
    match spill.persist result disk with
    | (.ok (), spill, disk) => persistAll results spill disk
    | (.error error, spill, disk) => (.error error, spill, disk)

variable {spill after : SpillFile} {disk opened last : Disk} {id : FileId}

theorem opened_of_file (file : spill.file = some id) (disk : Disk) :
    spill.opened disk = (.ok id, disk) := by
  rw [SpillFile.opened, file]
  rfl

/-- Makes the directories that a file is to be in. -/
def parents (path : Path) : DiskM Unit :=
  match path.parent? with
  | some parent => makeDirectories parent
  | none => pure ()

theorem growing_parents (path : Path) : Keeping Grows (parents path) := by
  unfold parents
  split
  · exact growing_makeDirectories _
  · exact Grows.refl

/-- Before a file is opened for the first time, directories are made. -/
theorem opened_of_none (file : spill.file = none) (opens : spill.opened disk = (.ok id, opened)) :
    ∃ middle, disk.Grows middle ∧ openOrCreate spill.path middle = (.ok id, opened) := by
  have made : (parents spill.path >>= fun _ => openAppend spill.path) disk = (.ok id, opened) := by
    rw [← opens, SpillFile.opened, file]
    unfold parents
    cases spill.path.parent? <;> rfl
  have grows := growing_parents spill.path disk
  rw [bind_eq] at made
  cases ran : parents spill.path disk with
  | mk answer middle =>
      rw [ran] at made grows
      cases answer with
      | error error => cases made
      | ok _ =>
          dsimp only at made
          have grows' := growing_verdict middle
          rw [openAppend, bind_eq] at made
          cases judged : verdict middle with
          | mk answer after =>
              rw [judged] at made grows'
              cases answer with
              | error error => cases made
              | ok _ => exact ⟨after, grows.trans grows', made⟩

/-- An open file is where its path leads. -/
def Attached (spill : SpillFile) (disk : Disk) : Prop :=
  ∀ id, spill.file = some id → disk.Leads spill.path id

theorem leads_of_opened (attached : spill.Attached disk)
    (opens : spill.opened disk = (.ok id, opened)) : opened.Leads spill.path id := by
  cases file : spill.file with
  | some other =>
      rw [opened_of_file file] at opens
      cases opens
      exact attached id file
  | none =>
      obtain ⟨middle, -, made⟩ := opened_of_none file opens
      exact (openOrCreate_spec made).2

theorem persist_eq_ok {result : ExtractionResult}
    (persists : spill.persist result disk = (.ok (), after, last)) :
    ∃ id opened, spill.opened disk = (.ok id, opened) ∧
      after = { spill with file := some id, written := spill.written + 1 } ∧
      writeLine id result opened = (.ok (), last) := by
  unfold persist at persists
  split at persists
  · cases persists
  · next id opened opens =>
      dsimp only at persists
      split at persists
      · cases persists
      · next writes =>
          cases persists
          exact ⟨id, opened, opens, rfl, writes⟩

theorem append_eq_ok {bytes : List UInt8} (appends : append id bytes disk = (.ok (), last)) :
    (∀ location, last.entryAt? location = disk.entryAt? location) ∧
      ∀ other, last.content? other =
        if other = id then (disk.content? id).map (·.append bytes) else disk.content? other := by
  rw [append_eq] at appends
  split at appends
  · cases appends
  · cases appends
    cases found : disk.content? id with
    | none =>
        refine ⟨fun _ => rfl, fun other => ?_⟩
        by_cases same : other = id
        · rw [if_pos same, same]
          exact found
        · rw [if_neg same]
          rfl
    | some content =>
        refine ⟨fun _ => rfl, fun other => ?_⟩
        rw [content?_putContent]
        rfl

theorem writeLine_eq (id : FileId) (result : ExtractionResult) (disk : Disk) :
    writeLine id result disk =
      match append id (lineBytes result) disk with
      | (.ok _, after) => verdict after
      | (.error error, after) => (.error error, after) := by
  rw [writeLine, bind_eq]
  rcases append id (lineBytes result) disk with ⟨_ | _, after⟩ <;> rfl

/-- A line that is kept for good was added before. -/
theorem append_of_writeLine {result : ExtractionResult}
    (writes : writeLine id result disk = (.ok (), last)) :
    ∃ added, append id (lineBytes result) disk = (.ok (), added) ∧ last = added.judged := by
  rw [writeLine_eq] at writes
  split at writes
  · next added appends =>
      rw [verdict_eq] at writes
      split at writes
      · cases writes
      · exact ⟨added, appends, (Prod.mk.inj writes).2.symm⟩
  · cases writes

theorem writeLine_eq_ok {result : ExtractionResult}
    (writes : writeLine id result disk = (.ok (), last)) :
    (∀ location, last.entryAt? location = disk.entryAt? location) ∧
      ∀ other, last.content? other =
        if other = id then (disk.content? id).map (·.append (lineBytes result))
        else disk.content? other := by
  obtain ⟨added, appends, rfl⟩ := append_of_writeLine writes
  obtain ⟨entries, contents⟩ := append_eq_ok appends
  exact ⟨entries, contents⟩

/-- Lines are added behind what an open file holds. -/
theorem content_of_persistAll {zeros : Nat} {tail : List UInt8} {results : List ExtractionResult}
    (file : spill.file = some id) (leads : disk.Leads spill.path id)
    (holds : disk.content? id = some (.bytes zeros tail))
    (persists : spill.persistAll results disk = (.ok (), after, last)) :
    last.Leads spill.path id ∧
      last.content? id = some (.bytes zeros (tail ++ SpillContent.linesOf results)) := by
  induction results generalizing spill after disk tail with
  | nil =>
      cases persists
      exact ⟨leads, by rw [holds, SpillContent.linesOf, List.flatMap_nil, List.append_nil]⟩
  | cons result results induction =>
      rw [persistAll] at persists
      split at persists
      · next next middle persisted =>
          obtain ⟨other, opened, opens, rfl, writes⟩ := persist_eq_ok persisted
          rw [opened_of_file file] at opens
          cases opens
          obtain ⟨entries, contents⟩ := writeLine_eq_ok writes
          have leads' : middle.Leads
              { spill with file := some id, written := spill.written + 1 : SpillFile }.path id :=
            leads.after fun location entry there => (entries location).trans there
          have holds' : middle.content? id = some (.bytes zeros (tail ++ lineBytes result)) := by
            rw [contents, if_pos rfl, holds]
            rfl
          have ends := induction rfl leads' holds' persists
          rw [List.append_assoc] at ends
          exact ends
      · cases persists

/-- The producer's file holds the given bytes when it is opened. -/
structure Opens (spill : SpillFile) (disk opened : Disk) (id : FileId) (prior : List UInt8) :
    Prop where
  /-- It is the file at the producer's path, if it is open already. -/
  attached : spill.Attached disk
  /-- It can be opened. -/
  opens : spill.opened disk = (.ok id, opened)
  /-- It is no database. -/
  holds : ∃ zeros tail, opened.content? id = some (.bytes zeros tail) ∧
    prior = (Content.bytes zeros tail).toBytes

theorem Opens.leads {prior : List UInt8} (opens : spill.Opens disk opened id prior) :
    opened.Leads spill.path id :=
  leads_of_opened opens.attached opens.opens

/-- What a file holds when it is opened it held before, or it is new and holds nothing. -/
theorem Opens.content {prior : List UInt8} (opens : spill.Opens disk opened id prior) :
    (disk.content? id).map Content.toBytes = some prior ∨ prior = [] := by
  obtain ⟨zeros, tail, holds, rfl⟩ := opens.holds
  cases file : spill.file with
  | some other =>
      have same := (opened_of_file file disk).symm.trans opens.opens
      cases same
      exact Or.inl (by rw [holds]; rfl)
  | none =>
      obtain ⟨middle, grows, made⟩ := opened_of_none file opens.opens
      have contents : middle.content? = disk.content? := by
        funext other
        rw [content?, content?, grows.contents]
      rcases (openOrCreate_spec made).1 with rfl | ⟨location, missing, rfl, rfl⟩
      · rw [contents] at holds
        exact Or.inl (by rw [holds]; rfl)
      · rw [content?_addFile, if_pos rfl] at holds
        cases holds
        exact Or.inr rfl

/-- The file that is opened is the one that the path leads to. -/
theorem Opens.found {prior : List UInt8} (opens : spill.Opens disk opened id prior)
    {other : FileId} (leads : disk.Leads spill.path other) :
    (disk.content? other).map Content.toBytes = some prior := by
  obtain ⟨zeros, tail, holds, rfl⟩ := opens.holds
  cases file : spill.file with
  | some third =>
      have same := (opened_of_file file disk).symm.trans opens.opens
      cases same
      rw [leads.unique (opens.attached id file), holds]
      rfl
  | none =>
      obtain ⟨middle, grows, made⟩ := opened_of_none file opens.opens
      have leads' := leads.after grows.entries
      have contents : middle.content? = disk.content? := by
        funext other
        rw [content?, content?, grows.contents]
      obtain ⟨how, ends⟩ := openOrCreate_spec made
      rcases how with rfl | ⟨location, missing, rfl, rfl⟩
      · rw [leads'.unique ends, ← contents, holds]
        rfl
      · obtain ⟨location', there⟩ := leads'
        rw [there] at missing
        cases missing

/-- What is read of the file after results were spilled. -/
theorem read_of_persistAll {prior : List UInt8} {results : List ExtractionResult}
    (opens : spill.Opens disk opened id prior) (nonempty : results ≠ [])
    (persists : spill.persistAll results disk = (.ok (), after, last))
    (calm : ∀ error, last.faults.head? ≠ some (some error)) :
    (Spill.read spill.path last).1 =
      .ok (SpillContent.ofBytes (prior ++ SpillContent.linesOf results)) := by
  obtain ⟨zeros, tail, holds, rfl⟩ := opens.holds
  obtain ⟨result, results, rfl⟩ := List.exists_cons_of_ne_nil nonempty
  rw [persistAll] at persists
  split at persists
  · next next middle persisted =>
      obtain ⟨other, opened', opens', rfl, writes⟩ := persist_eq_ok persisted
      rw [opens.opens] at opens'
      cases opens'
      obtain ⟨entries, contents⟩ := writeLine_eq_ok writes
      have leads : middle.Leads
          { spill with file := some id, written := spill.written + 1 : SpillFile }.path id :=
        opens.leads.after fun location entry there => (entries location).trans there
      have holds' : middle.content? id = some (.bytes zeros (tail ++ lineBytes result)) := by
        rw [contents, if_pos rfl, holds]
        rfl
      obtain ⟨leads', holds''⟩ := content_of_persistAll rfl leads holds' persists
      rw [Spill.read, readFile_of_leads leads' calm, holds'']
      simp [Content.toBytes, SpillContent.linesOf, List.append_assoc]
  · cases persists

end SpillFile

/-- Results that a producer spills are read back in their order behind what its file held, exactly
if the file did not end in a line that was cut off.  Such a line makes one with the first result,
and neither can be read. -/
theorem spilled_results_read {spill after : SpillFile} {disk opened last : Disk} {id : FileId}
    {prior : List UInt8} {results : List ExtractionResult}
    (opens : spill.Opens disk opened id prior) (nonempty : results ≠ [])
    (fits : ∀ result ∈ results, result.Fits)
    (persists : spill.persistAll results disk = (.ok (), after, last))
    (calm : ∀ error, last.faults.head? ≠ some (some error)) :
    ((disk.content? id).map Content.toBytes = some prior ∨ prior = []) ∧
      (∀ other, disk.Leads spill.path other →
        (disk.content? other).map Content.toBytes = some prior) ∧
      ∃ content, (Spill.read spill.path last).1 = .ok content ∧
        (content.results = (SpillContent.ofBytes prior).results ++ results ↔
          SpillContent.EndsClean prior) ∧
        (SpillContent.EndsClean prior → content.skipped = (SpillContent.ofBytes prior).skipped) ∧
        (¬SpillContent.EndsClean prior →
          content.results =
              (SpillContent.ofBytes (SpillContent.wholeLines prior)).results ++ results.tail ∧
            content.skipped =
              (SpillContent.ofBytes (SpillContent.wholeLines prior)).skipped + 1) := by
  refine ⟨opens.content, fun other leads => opens.found leads,
    _, SpillFile.read_of_persistAll opens nonempty persists calm, ?_⟩
  rw [SpillContent.ofBytes_append_linesOf fits]
  by_cases clean : SpillContent.EndsClean prior
  · rw [if_pos (Or.inr clean)]
    exact ⟨iff_of_true rfl clean, fun _ => rfl, fun torn => absurd clean torn⟩
  · rw [if_neg (not_or.2 ⟨nonempty, clean⟩)]
    refine ⟨iff_of_false (fun same => ?_) clean, fun clean' => absurd clean' clean,
      fun _ => ⟨rfl, rfl⟩⟩
    -- One result is missing, so the lists differ in length.
    have before := SpillContent.ofBytes_append (SpillContent.endsLine_wholeLines prior)
      (SpillContent.tornTail prior)
    rw [SpillContent.wholeLines_append_tornTail] at before
    have lengths := congrArg List.length same
    have positive := List.length_pos_iff.2 nonempty
    rw [before, List.length_append, List.length_append, List.length_append, List.length_tail]
      at lengths
    omega

/-- The spill file of a worker. -/
def SpillFile.ofWorker : SpillFile :=
  .forProducer ⟨"spill"⟩ (.worker 1)

/-- A disk on which that file ends in a line that was cut off. -/
def Disk.withTornSpill : Disk where
  entries := [(["spill"], .directory), (["spill", "worker-1.jsonl"], .file 0)]
  contents := [(0, .ofBytes (Disk.bytesOf "\x7b\"torn"))]
  nextFile := 1

/-- A file without content. -/
def ExtractionResult.ofEmptyFile : ExtractionResult :=
  .failed ⟨"a.pdf"⟩ .fileEmpty "File is empty" {}

/-- The content is these bytes. -/
def Content.isTail (tail : List UInt8) : Content → Bool
  | .bytes zeros other => zeros == 0 && other == tail
  | .database _ => false

theorem SpillFile.opens_torn : ∃ opened,
    ofWorker.Opens .withTornSpill opened 0 (Disk.bytesOf "\x7b\"torn") := by
  have runs : (ofWorker.opened .withTornSpill).1 = .ok 0 ∧
      ((ofWorker.opened .withTornSpill).2.content? 0).any
        (·.isTail (Disk.bytesOf "\x7b\"torn")) = true := by decide +kernel
  generalize opens : ofWorker.opened .withTornSpill = answer at runs
  obtain ⟨id, opened⟩ := answer
  obtain ⟨rfl, there⟩ := runs
  obtain ⟨content, holds, torn⟩ := (Option.any_eq_true _ _).1 there
  cases content with
  | bytes zeros tail =>
      obtain ⟨none, same⟩ := Bool.and_eq_true_iff.1 torn
      obtain rfl := eq_of_beq none
      obtain rfl := eq_of_beq same
      exact ⟨opened, by rintro _ ⟨⟩, opens, 0, _, holds, rfl⟩
  | database => cases torn

theorem SpillFile.persists_torn : ∃ after last,
    ofWorker.persistAll [.ofEmptyFile] .withTornSpill = (.ok (), after, last) ∧
      last.faults = [] := by
  have runs : (ofWorker.persistAll [.ofEmptyFile] .withTornSpill).1.toBool = true ∧
      (ofWorker.persistAll [.ofEmptyFile] .withTornSpill).2.2.faults = [] := by decide +kernel
  generalize persists : ofWorker.persistAll [.ofEmptyFile] .withTornSpill = answer at runs
  obtain ⟨_ | _, after, last⟩ := answer
  · cases runs.1
  · exact ⟨after, last, rfl, runs.2⟩

theorem spilled_results_read_torn :
    ∃ after last content,
      SpillFile.ofWorker.persistAll [.ofEmptyFile] .withTornSpill = (.ok (), after, last) ∧
      (Spill.read SpillFile.ofWorker.path last).1 = .ok content ∧
      content.results = [] ∧ content.skipped = 1 := by
  obtain ⟨opened, opens⟩ := SpillFile.opens_torn
  obtain ⟨after, last, persists, calm⟩ := SpillFile.persists_torn
  have fits : ∀ result ∈ [ExtractionResult.ofEmptyFile], result.Fits := by
    intro result mem
    rw [List.mem_singleton.1 mem]
    exact ⟨nofun, ⟨by decide, by decide, by decide, nofun⟩, by decide⟩
  obtain ⟨-, -, content, read, -, -, torn⟩ :=
    spilled_results_read opens (List.cons_ne_nil _ _) fits persists (by simp [calm])
  obtain ⟨results, skipped⟩ := torn (by decide)
  have whole : SpillContent.wholeLines (Disk.bytesOf "\x7b\"torn") = [] := by decide
  rw [whole] at results skipped
  exact ⟨after, last, content, persists, read, results, skipped⟩

end PartsList
