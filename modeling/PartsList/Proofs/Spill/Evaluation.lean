import PartsList.Proofs.Spill.Replay
import PartsList.Proofs.Text.Utf8

/-!
# Replays that are easy to evaluate

Lines are read as texts, which takes the kernel long.  A line of bytes below 128 can as well be read
from the characters that are its bytes.  Replays that read such lines in this way are the same as
the others, and small ones can be evaluated.
-/

namespace PartsList

open Disk

namespace SpillContent

/-- What a line of characters holds. -/
def readPlainChars (chars : List Char) : LineContent :=
  if chars.all Text.isBlank then .blank
  else
    match (Json.readChars (chars.map Json.markText)).bind ExtractionResult.ofJson? with
    | some result => .result result
    | none => .unreadable

/-- What a line holds, read without a text if all its bytes are below 128. -/
def readPlainLine (bytes : List UInt8) : LineContent :=
  if bytes.all (·.toNat < 128) then readPlainChars (bytes.map fun byte => Char.ofNat byte.toNat)
  else readLine bytes

theorem readLine_of_textOf? {bytes : List UInt8} {text : String}
    (read : textOf? bytes = some text) :
    readLine bytes = readPlainChars text.toList := by
  rw [readLine, read]
  rfl

theorem readPlainLine_eq (bytes : List UInt8) : readPlainLine bytes = readLine bytes := by
  unfold readPlainLine
  split
  · next small =>
      have low : ∀ byte ∈ bytes, byte.toNat < 128 := by simpa using small
      rw [readLine_of_textOf? (textOf?_eq_some.2 (eq_bytesOf_of_lt low)), String.toList_ofList]
  · rfl

/-- What the bytes of a file hold, line by line. -/
def ofPlainBytes (bytes : List UInt8) : SpillContent :=
  (splitLines bytes).foldr (fun line content => addLine (readPlainLine line) content) {}

theorem ofPlainBytes_eq (bytes : List UInt8) : ofPlainBytes bytes = ofBytes bytes := by
  simp only [ofPlainBytes, ofBytes, readPlainLine_eq]

end SpillContent

/-- Delivers results in one transaction, without asking whether there are any when that makes no
difference: then the lines that they stand in need not be read. -/
def Database.upsertUnseen (database : Database) (results : List ExtractionResult) :
    Except DatabaseError UpsertCounts × Database :=
  let rest := { database with refusals := database.refusals.tail }
  if database.refusals.head? = some true then (.error .refused, rest)
  else
    match database.store? with
    | some store => (.ok (UpsertCounts.ofResults results), rest.putStore (store.deliverAll results))
    | none => database.upsert results

theorem Database.upsertUnseen_eq (database : Database) (results : List ExtractionResult) :
    database.upsertUnseen results = database.upsert results := by
  obtain ⟨versioned, rows, summaries, refusals⟩ := database
  unfold upsertUnseen upsert
  dsimp only
  split
  · rfl
  · cases rows with
    | none => rfl
    | some rows =>
        cases summaries with
        | none => rfl
        | some summaries => cases results <;> rfl

namespace Spill

/-- Delivers the results of a spill file, which need not be read for it. -/
def deliverUnseen (results : List ExtractionResult) (database : Database) (readOnly : Bool) :
    Except DatabaseError UpsertCounts × Database :=
  if readOnly && !results.isEmpty then (.error .refused, database)
  else database.upsertUnseen results

theorem deliver_eq : deliver = deliverUnseen := by
  funext results database readOnly
  rw [deliver, deliverUnseen, database.upsertUnseen_eq]

/-- Reads a spill file line by line. -/
def readPlain (path : Path) (disk : Disk) : Except SpillError SpillContent × Disk :=
  match Disk.readFile path disk with
  | (.ok bytes, disk) => (.ok (SpillContent.ofPlainBytes bytes), disk)
  | (.error error, disk) => (.error (.io path error), disk)

theorem read_eq : read = readPlain := by
  funext path disk
  unfold readPlain
  simp only [SpillContent.ofPlainBytes_eq]
  rfl

section Reader

variable (reader : Path → Disk → Except SpillError SpillContent × Disk)

/-- Replays one spill file that is read by the given reader. -/
def replayFileBy (path : Path) (database : Database) (disk : Disk) (readOnly : Bool) :
    Except SpillError (UpsertCounts × Nat) × Database × Disk :=
  match reader path disk with
  | (.error error, disk) => (.error error, database, disk)
  | (.ok content, disk) =>
    match deliverUnseen content.results database readOnly with
    | (.error error, database) => (.error (.database error), database, disk)
    | (.ok counts, database) =>
      match Disk.removeFile path disk with
      | (.error error, disk) => (.error (.io path error), database, disk)
      | (.ok (), disk) => (.ok (counts, content.skipped), database, disk)

/-- Replays spill files that are read by the given reader. -/
def replayFilesBy (stats : ReplayStats) (database : Database) (disk : Disk) (readOnly : Bool) :
    List Path → Except SpillError ReplayStats × Database × Disk
  | [] => (.ok stats, database, disk)
  | path :: paths =>
    match replayFileBy reader path database disk readOnly with
    | (.error error, database, disk) => (.error error, database, disk)
    | (.ok (counts, skipped), database, disk) =>
      replayFilesBy (stats.add counts skipped) database disk readOnly paths

/-- Replays all spill files of a directory, which are read by the given reader. -/
def reconcileBy (directory : Path) (database : Database) (disk : Disk) (readOnly : Bool) :
    Except SpillError ReplayStats × Database × Disk :=
  match files directory disk with
  | (.error error, disk) => (.error error, database, disk)
  | (.ok paths, disk) => replayFilesBy reader {} database disk readOnly paths

/-- The results that the given reader reads of files one after the other. -/
def heldInBy : List Path → Disk → List ExtractionResult
  | [], _ => []
  | path :: paths, disk =>
    match reader path disk with
    | (.ok content, disk) => content.results ++ heldInBy paths (removeFile path disk).2
    | (.error _, _) => []

/-- The results that the given reader reads in a replay of a directory. -/
def heldBy (directory : Path) (disk : Disk) : List ExtractionResult :=
  match files directory disk with
  | (.ok paths, disk) => heldInBy reader paths disk
  | (.error _, _) => []

end Reader

theorem replayFilesBy_read (paths : List Path) (stats : ReplayStats) (database : Database)
    (disk : Disk) (readOnly : Bool) :
    replayFilesBy read stats database disk readOnly paths =
      replayFiles stats database disk readOnly paths := by
  induction paths generalizing stats database disk with
  | nil => rfl
  | cons path paths induction =>
      have delivers := replayFile.eq_def path database disk readOnly
      rw [deliver_eq] at delivers
      have replay : replayFileBy read path database disk readOnly =
        replayFile path database disk readOnly := delivers.symm
      rw [replayFilesBy, replayFiles, replay]
      rcases replayFile path database disk readOnly with ⟨_ | ⟨counts, skipped⟩, database, disk⟩
      · rfl
      · exact induction ..

theorem heldInBy_read (paths : List Path) (disk : Disk) :
    heldInBy read paths disk = heldIn paths disk := by
  induction paths generalizing disk with
  | nil => rfl
  | cons path paths induction =>
      rw [heldInBy, heldIn]
      rcases read path disk with ⟨_ | content, disk⟩
      · rfl
      · exact congrArg (content.results ++ ·) (induction _)

/-- Replays may read lines without texts. -/
theorem reconcile_eq (directory : Path) (database : Database) (disk : Disk) (readOnly : Bool) :
    reconcile directory database disk readOnly =
      reconcileBy readPlain directory database disk readOnly := by
  rw [← read_eq, reconcile, reconcileBy]
  rcases files directory disk with ⟨_ | paths, disk⟩
  · rfl
  · exact (replayFilesBy_read ..).symm

/-- So may they tell what they read. -/
theorem held_eq : held = heldBy readPlain := by
  funext directory disk
  rw [← read_eq, held, heldBy]
  rcases files directory disk with ⟨_ | paths, disk⟩
  · rfl
  · exact (heldInBy_read ..).symm

end Spill

end PartsList
