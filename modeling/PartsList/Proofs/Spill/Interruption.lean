import PartsList.Proofs.Spill.Emptying
import PartsList.Proofs.Spill.Evaluation
import PartsList.Proofs.Store.Repetition

/-!
# Replays that are cut off

A replay delivers the results of each spill file in one transaction before the file goes.  So it may
stop between any two steps: what was delivered is whole files, the files behind them are still
there, and the next replay delivers at most one file once more, which changes nothing.
-/

namespace PartsList

open Disk

namespace Disk

variable {disk other : Disk} {path : Path} {id : FileId}

theorem entries_of_calmed (same : other.calmed = disk.calmed) : other.entries = disk.entries :=
  (congrArg entries same : other.calmed.entries = disk.calmed.entries)

theorem sheds_of_calmed (same : other.calmed = disk.calmed) : disk.Sheds other where
  entries location entry there := by
    unfold entryAt? at there ⊢
    rwa [entries_of_calmed same] at there
  contents := (congrArg contents same : other.calmed.contents = disk.calmed.contents)

theorem Leads.of_calmed (leads : disk.Leads path id) (same : other.calmed = disk.calmed) :
    other.Leads path id :=
  leads.after (sheds_of_calmed same.symm).entries

theorem Named.of_calmed (named : disk.Named) (same : other.calmed = disk.calmed) : other.Named := by
  unfold Named
  rwa [entries_of_calmed same]

theorem Names.of_calmed {location : Location} (names : disk.Names path location)
    (same : other.calmed = disk.calmed) : other.Names path location := by
  obtain ⟨entry, slash, found, file⟩ := names
  exact ⟨entry, slash, by rw [← resolve_calmed, same, resolve_calmed, found], file⟩

end Disk

namespace Spill

variable {directory path : Path} {paths : List Path} {database after : Database}
  {start disk opened last : Disk} {readOnly : Bool} {stats stats' : ReplayStats}
  {content : SpillContent}

/-- What the file at a path holds. -/
def contentAt (disk : Disk) (path : Path) : SpillContent :=
  match disk.bytesAt path with
  | .ok bytes => .ofBytes bytes
  | .error _ => {}

/-- The results of files, file by file and line by line. -/
def resultsAt (disk : Disk) (paths : List Path) : List ExtractionResult :=
  paths.flatMap fun path => (contentAt disk path).results

/-- The figures with those of more files. -/
def addAll (disk : Disk) (stats : ReplayStats) (paths : List Path) : ReplayStats :=
  paths.foldl (fun stats path =>
    stats.add (.ofResults (contentAt disk path).results) (contentAt disk path).skipped) stats

theorem contentAt_of_leads {id : FileId} (leads : disk.Leads path id) :
    contentAt disk path = .ofBytes (((disk.content? id).map Content.toBytes).getD []) := by
  obtain ⟨location, found⟩ := leads.resolve
  rw [contentAt, bytesAt, found]

theorem calmed_read (path : Path) (disk : Disk) : (read path disk).2.calmed = disk.calmed := by
  have calm := calm_readFile path disk
  unfold read
  split <;> next reads => rwa [reads] at calm

/-- What is read of a file is what the file held before others went. -/
theorem read_eq_ok_since (sheds : start.Sheds disk)
    (reads : read path disk = (.ok content, opened)) :
    content = contentAt start path ∧ ∃ id, disk.Leads path id := by
  obtain ⟨-, id, leads, rfl⟩ := read_eq_ok reads
  refine ⟨?_, id, leads⟩
  rw [contentAt_of_leads (leads.after sheds.entries), content?, content?, sheds.contents]

theorem deliver_eq_ok {results : List ExtractionResult} {counts : UpsertCounts}
    (delivers : deliver results database readOnly = (.ok counts, after)) :
    counts = .ofResults results ∧ after.store? = database.store?.map (·.deliverAll results) := by
  have settles := database.settles_upsert results
  unfold deliver at delivers
  split at delivers
  · cases delivers
  · rwa [delivers] at settles

theorem deliver_eq_error {results : List ExtractionResult} {error : DatabaseError}
    (refuses : deliver results database readOnly = (.error error, after)) :
    after.store? = database.store? := by
  have settles := database.settles_upsert results
  unfold deliver at refuses
  split at refuses
  · cases refuses
    rfl
  · rwa [refuses] at settles

/-- What the replay of a file does when it succeeds. -/
structure Replayed (start : Disk) (path : Path) (database : Database) (disk : Disk)
    (answer : UpsertCounts × Nat) (after : Database) (last : Disk) : Prop where
  /-- The file's results are delivered, -/
  store : after.store? = database.store?.map (·.deliverAll (contentAt start path).results)
  /-- and counted, -/
  answer : answer = (.ofResults (contentAt start path).results, (contentAt start path).skipped)
  /-- and the file's name goes. -/
  calmed : last.calmed = disk.calmed.without path
  /-- The file was there, -/
  leads : ∃ id, disk.Leads path id
  /-- and its name too. -/
  names : ∃ location, disk.Names path location

theorem Replayed.sheds {answer : UpsertCounts × Nat}
    (replayed : Replayed start path database disk answer after last) : disk.Sheds last := by
  have same := replayed.calmed
  rw [without_calmed] at same
  exact (disk.sheds_without path).trans (sheds_of_calmed same)

theorem replayed_of_replayFile {answer : UpsertCounts × Nat} (sheds : start.Sheds disk)
    (replays : replayFile path database disk readOnly = (.ok answer, after, last)) :
    Replayed start path database disk answer after last := by
  obtain ⟨content, opened, reads, delivers, skipped, removes⟩ := replayFile_eq_ok replays
  obtain ⟨rfl, leads⟩ := read_eq_ok_since sheds reads
  obtain ⟨counts, store⟩ := deliver_eq_ok delivers
  obtain ⟨calmed, location, names⟩ := removeFile_eq_ok removes
  have same : opened.calmed = disk.calmed := by
    have same := calmed_read path disk
    rwa [reads] at same
  rw [same] at calmed
  exact ⟨store, Prod.ext counts skipped, calmed, leads, location, names.of_calmed same.symm⟩

/-- A replay that succeeds delivers all results that the files held when it began. -/
theorem replayFiles_eq_ok (sheds : start.Sheds disk)
    (replays : replayFiles stats database disk readOnly paths = (.ok stats', after, last)) :
    after.store? = database.store?.map (·.deliverAll (resultsAt start paths)) ∧
      stats' = addAll start stats paths ∧ last.calmed = paths.foldl without disk.calmed ∧
      ∀ path ∈ paths, ∃ id, disk.Leads path id := by
  induction paths generalizing stats database disk with
  | nil =>
      cases replays
      exact ⟨Option.map_id_apply.symm, rfl, rfl, nofun⟩
  | cons path paths induction =>
      rw [replayFiles] at replays
      split at replays
      · cases replays
      · next counts skipped between middle replayed =>
          have first := replayed_of_replayFile sheds replayed
          have shed := first.sheds
          obtain ⟨store, answer, calmed, leads, -⟩ := first
          obtain ⟨store', stats, calmed', leads'⟩ := induction (sheds.trans shed) replays
          cases answer
          refine ⟨?_, stats, ?_, ?_⟩
          · rw [store', store, Option.map_map]
            exact congrArg (Option.map · _) (funext fun kept => (kept.deliverAll_append _ _).symm)
          · rw [calmed', calmed, List.foldl_cons]
          · intro other mem
            rcases List.mem_cons.1 mem with rfl | mem
            · exact leads
            · obtain ⟨id, there⟩ := leads' other mem
              exact ⟨id, there.after shed.entries⟩

theorem replayFiles_append {done rest : List Path}
    (replays :
      replayFiles stats database disk readOnly (done ++ rest) = (.ok stats', after, last)) :
    ∃ stats₁ between middle, replayFiles stats database disk readOnly done =
        (.ok stats₁, between, middle) ∧
      replayFiles stats₁ between middle readOnly rest = (.ok stats', after, last) := by
  induction done generalizing stats database disk with
  | nil => exact ⟨stats, database, disk, rfl, replays⟩
  | cons path done induction =>
      rw [List.cons_append, replayFiles] at replays
      rw [replayFiles]
      split at replays
      · cases replays
      · exact induction replays

/-- The files that are left behind those that a replay has gone through are listed. -/
theorem filesIn_foldl_without {done rest : List Path} (named : disk.Named)
    (listed : filesIn directory disk = done ++ rest)
    (replays :
      replayFiles stats database disk readOnly (done ++ rest) = (.ok stats', after, last)) :
    filesIn directory (done.foldl without disk.calmed) = rest := by
  induction done generalizing stats database disk with
  | nil => exact (filesIn_calmed directory disk).trans listed
  | cons path done induction =>
      rw [List.cons_append, replayFiles] at replays
      split at replays
      · cases replays
      · next counts skipped between middle replayed =>
          obtain ⟨-, -, calmed, -, gap, names⟩ := replayed_of_replayFile (.refl disk) replayed
          obtain ⟨-, -, -, leads⟩ := replayFiles_eq_ok (.refl middle) replays
          have same : (disk.without path).calmed = middle.calmed := by
            rw [calmed, without_calmed]
          have listed' : filesIn directory middle = done ++ rest := by
            rw [← filesIn_calmed, ← same, filesIn_calmed]
            refine filesIn_without named listed names fun other mem => ?_
            obtain ⟨id, there⟩ := leads other mem
            exact ⟨id, there.of_calmed same⟩
          rw [List.foldl_cons, ← calmed]
          exact induction ((named.without path).of_calmed same.symm) listed' replays

/-! ## Stops -/

/-- States of the database and the disk in which a replay of files can stop: before it reads a file,
behind that, before and behind the delivery, or because the file cannot be removed. -/
inductive Stops (readOnly : Bool) : List Path → Database × Disk → Database × Disk → Prop
  /-- It has not begun, or is done. -/
  | idle (paths : List Path) (state : Database × Disk) : Stops readOnly paths state state
  /-- It has read a file, or failed to. -/
  | read {path : Path} {database : Database} {disk opened : Disk} (paths : List Path)
      {answer : Except SpillError SpillContent} (reads : Spill.read path disk = (answer, opened)) :
      Stops readOnly (path :: paths) (database, disk) (database, opened)
  /-- It has delivered what it read, or failed to. -/
  | delivered {path : Path} {database after : Database} {disk opened : Disk} (paths : List Path)
      {content : SpillContent} {answer : Except DatabaseError UpsertCounts}
      (reads : Spill.read path disk = (.ok content, opened))
      (delivers : deliver content.results database readOnly = (answer, after)) :
      Stops readOnly (path :: paths) (database, disk) (after, opened)
  /-- It has failed to remove a file. -/
  | kept {path : Path} {database after : Database} {disk opened last : Disk} (paths : List Path)
      {content : SpillContent} {counts : UpsertCounts} {error : OsError}
      (reads : Spill.read path disk = (.ok content, opened))
      (delivers : deliver content.results database readOnly = (.ok counts, after))
      (keeps : removeFile path opened = (.error error, last)) :
      Stops readOnly (path :: paths) (database, disk) (after, last)
  /-- It has gone on to the next file. -/
  | next {path : Path} {paths : List Path} {database between : Database} {disk middle : Disk}
      {answer : UpsertCounts × Nat} {state : Database × Disk}
      (replays : replayFile path database disk readOnly = (.ok answer, between, middle))
      (stops : Stops readOnly paths (between, middle) state) :
      Stops readOnly (path :: paths) (database, disk) state

theorem stops_replayFiles (stats : ReplayStats) (database : Database) (disk : Disk)
    (readOnly : Bool) (paths : List Path) :
    Stops readOnly paths (database, disk) (replayFiles stats database disk readOnly paths).2 := by
  induction paths generalizing stats database disk with
  | nil => exact .idle [] _
  | cons path paths induction =>
      rw [replayFiles]
      split
      · next error after last replayed =>
          unfold replayFile at replayed
          split at replayed
          · next reads =>
              cases replayed
              exact .read paths reads
          · next reads =>
              split at replayed
              · next delivers =>
                  cases replayed
                  exact .delivered paths reads delivers
              · next delivers =>
                  split at replayed
                  · next keeps =>
                      cases replayed
                      exact .kept paths reads delivers keeps
                  · cases replayed
      · next replayed => exact .next replayed (induction _ _ _)

/-- Where a replay has stopped: some files have been delivered and are gone, and of the others at
most the first has been delivered. -/
structure StopsAt (start : Disk) (paths : List Path) (before after : Database × Disk)
    (done rest taken : List Path) : Prop where
  /-- The files in their order. -/
  split : paths = done ++ rest
  /-- Those that were delivered. -/
  which : taken = done ∨ ∃ path others, rest = path :: others ∧ taken = done ++ [path]
  /-- Their results are in the store. -/
  store : after.1.store? = before.1.store?.map (·.deliverAll (resultsAt start taken))
  /-- The others are left. -/
  calmed : after.2.calmed = done.foldl without before.2.calmed

theorem Stops.exists_stopsAt {before after : Database × Disk}
    (stops : Stops readOnly paths before after)
    (sheds : start.Sheds before.2) : ∃ done rest taken,
      StopsAt start paths before after done rest taken := by
  induction stops with
  | idle paths state => exact ⟨[], paths, [], rfl, Or.inl rfl, Option.map_id_apply.symm, rfl⟩
  | @read path database disk opened paths answer reads =>
      have same := calmed_read path disk
      rw [reads] at same
      exact ⟨[], path :: paths, [], rfl, Or.inl rfl, Option.map_id_apply.symm, same⟩
  | @delivered path database after disk opened paths content answer reads delivers =>
      have same := calmed_read path disk
      rw [reads] at same
      cases answer with
      | error error =>
          refine ⟨[], path :: paths, [], rfl, Or.inl rfl, ?_, same⟩
          exact (deliver_eq_error delivers).trans Option.map_id_apply.symm
      | ok counts =>
          refine ⟨[], path :: paths, [path], rfl, Or.inr ⟨path, paths, rfl, rfl⟩, ?_, same⟩
          obtain ⟨rfl, -⟩ := read_eq_ok_since sheds reads
          rw [resultsAt, List.flatMap_singleton]
          exact (deliver_eq_ok delivers).2
  | @kept path database after disk opened last paths content counts error reads delivers keeps =>
      have same := calmed_read path disk
      rw [reads] at same
      refine ⟨[], path :: paths, [path], rfl, Or.inr ⟨path, paths, rfl, rfl⟩, ?_,
        (removeFile_eq_error keeps).trans same⟩
      obtain ⟨rfl, -⟩ := read_eq_ok_since sheds reads
      rw [resultsAt, List.flatMap_singleton]
      exact (deliver_eq_ok delivers).2
  | @next path paths database between disk middle answer state replays stops induction =>
      have first := replayed_of_replayFile sheds replays
      obtain ⟨done, rest, taken, split, which, store, calmed⟩ := induction (sheds.trans first.sheds)
      refine ⟨path :: done, rest, path :: taken, congrArg (path :: ·) split, ?_, ?_, ?_⟩
      · rcases which with rfl | ⟨other, others, rfl, rfl⟩
        · exact Or.inl rfl
        · exact Or.inr ⟨other, others, rfl, rfl⟩
      · rw [store, first.store, Option.map_map]
        exact congrArg (Option.map · _) (funext fun kept => (kept.deliverAll_append _ _).symm)
      · rw [calmed, first.calmed]
        rfl

/-! ## The next replay -/

/-- The system has no reason of its own to refuse an operation. -/
def Quiet (disk : Disk) : Prop :=
  ∀ verdict ∈ disk.faults, verdict = none

theorem Quiet.calm (quiet : Quiet disk) (error : OsError) : disk.faults.head? ≠ some (some error) :=
  fun head => nomatch quiet _ (List.mem_of_mem_head? head)

theorem Quiet.judged (quiet : Quiet disk) : Quiet disk.judged :=
  fun verdict mem => quiet verdict (List.mem_of_mem_tail mem)

/-- Where the replay of a file has gone through, another one goes through on the same tree when
nothing gets in its way. -/
theorem exists_replayFile_eq_ok {other middle : Disk} {database' between : Database} {store : Store}
    {answer : UpsertCounts × Nat}
    (replays : replayFile path database disk readOnly = (.ok answer, between, middle))
    (same : other.calmed = disk.calmed) (quiet : Quiet other)
    (tables : database'.store? = some store)
    (willing : database'.Willing) : ∃ answer' between' middle' store',
      replayFile path database' other false = (.ok answer', between', middle') ∧
        middle'.calmed = middle.calmed ∧ Quiet middle' ∧ between'.store? = some store' ∧
        between'.Willing := by
  obtain ⟨-, -, calmed, ⟨id, leads⟩, location, names⟩ :=
    replayed_of_replayFile (.refl disk) replays
  have reads : read path other =
      (.ok (.ofBytes (((other.content? id).map Content.toBytes).getD [])), other.judged) := by
    rw [read, readFile_of_leads (leads.of_calmed same) quiet.calm]
  generalize SpillContent.ofBytes (((other.content? id).map Content.toBytes).getD []) =
    content at reads
  have names' : other.judged.Names path location :=
    @Names.of_calmed disk other.judged path location names same
  have removes := removeFile_of_names names' quiet.judged.calm
  obtain ⟨counts, taken⟩ := Database.upsert_of_willing tables willing content.results
  have settles := database'.settles_upsert content.results
  have still := willing.upsert content.results
  cases outcome : database'.upsert content.results with
  | mk verdict between' =>
      rw [outcome] at taken settles still
      obtain rfl : verdict = .ok counts := taken
      have replays' : replayFile path database' other false =
          (.ok (counts, content.skipped), between', other.judged.judged.removeEntry location) := by
        rw [replayFile, reads]
        dsimp only
        rw [deliver, Bool.false_and, if_neg Bool.false_ne_true, outcome]
        dsimp only
        rw [removes]
      refine ⟨_, _, _, store.deliverAll content.results, replays', ?_, fun verdict mem => ?_, ?_,
        still⟩
      · rw [(replayed_of_replayFile (.refl other) replays').calmed, calmed, same]
      · exact quiet.judged.judged verdict mem
      · rw [settles.2, tables]
        rfl

/-- Where a replay has gone through, another one goes through on the same tree when nothing gets in
its way. -/
theorem exists_replayFiles_eq_ok {other : Disk} {database' : Database} {store : Store}
    {stats₀ : ReplayStats}
    (replays : replayFiles stats database disk readOnly paths = (.ok stats', after, last))
    (same : other.calmed = disk.calmed) (quiet : Quiet other)
    (tables : database'.store? = some store)
    (willing : database'.Willing) :
    ∃ stats₁ again gone,
      replayFiles stats₀ database' other false paths = (.ok stats₁, again, gone) := by
  induction paths generalizing stats database disk other database' store stats₀ with
  | nil => exact ⟨stats₀, database', other, rfl⟩
  | cons path paths induction =>
      rw [replayFiles] at replays
      split at replays
      · cases replays
      · next replayed =>
          obtain ⟨answer, between, middle, store', replayed', same', quiet', tables', willing'⟩ :=
            exists_replayFile_eq_ok replayed same quiet tables willing
          rw [replayFiles, replayed']
          exact induction replays same' quiet' tables' willing'

/-! ## Directories -/

/-- States in which the replay of a directory can stop. -/
inductive CutOff (readOnly : Bool) (directory : Path) : Database × Disk → Database × Disk → Prop
  /-- It has not begun. -/
  | idle (state : Database × Disk) : CutOff readOnly directory state state
  /-- It has listed the files, or failed to. -/
  | listed {database : Database} {disk opened : Disk} {answer : Except SpillError (List Path)}
      (lists : files directory disk = (answer, opened)) :
      CutOff readOnly directory (database, disk) (database, opened)
  /-- It has stopped at one of the files. -/
  | replaying {database : Database} {disk opened : Disk} {paths : List Path}
      {state : Database × Disk}
      (lists : files directory disk = (.ok paths, opened))
      (stops : Stops readOnly paths (database, opened) state) :
      CutOff readOnly directory (database, disk) state

theorem cutOff_reconcile (directory : Path) (database : Database) (disk : Disk) (readOnly : Bool) :
    CutOff readOnly directory (database, disk) (reconcile directory database disk readOnly).2 := by
  unfold reconcile
  split
  · next lists => exact .listed lists
  · next lists => exact .replaying lists (stops_replayFiles _ _ _ _ _)

/-- What a directory holds under a name is there still. -/
def IsLeft (directory : Path) (disk last : Disk) (path : Path) : Prop :=
  ∃ location slash name entry, path = directory.join name ∧
    disk.resolve .followed directory = .ok ⟨location, some .directory, slash⟩ ∧
    disk.entryAt? (location ++ [name]) = some entry ∧
    last.entryAt? (location ++ [name]) = some entry

theorem calmed_files (directory : Path) (disk : Disk) :
    (files directory disk).2.calmed = disk.calmed := by
  have listing : (listDirectory directory disk).2.calmed = disk.calmed := by
    rw [listDirectory_eq]
    split
    · rfl
    · split <;> rfl
  unfold files
  split <;> next lists => rwa [lists] at listing

theorem Quiet.files (quiet : Quiet disk) (directory : Path) : Quiet (files directory disk).2 := by
  have listing : (listDirectory directory disk).2.faults = disk.faults.tail := by
    rw [listDirectory_eq]
    split
    · rfl
    · split <;> rfl
  have taken : (Spill.files directory disk).2.faults = disk.faults.tail := by
    unfold Spill.files
    split <;> next lists => rwa [lists] at listing
  exact fun verdict mem => quiet verdict (List.mem_of_mem_tail (taken ▸ mem))

theorem exists_stopsAt_of_cutOff {state : Database × Disk}
    (calm : disk.faults.head? ≠ some (some .notFound))
    (cut : CutOff readOnly directory (database, disk) state) : ∃ done rest taken,
      StopsAt disk (filesIn directory disk) (database, disk) state done rest taken := by
  cases cut with
  | idle => exact ⟨[], _, [], rfl, Or.inl rfl, Option.map_id_apply.symm, rfl⟩
  | listed lists =>
      have same := calmed_files directory disk
      rw [lists] at same
      exact ⟨[], _, [], rfl, Or.inl rfl, Option.map_id_apply.symm, same⟩
  | replaying lists stops =>
      obtain ⟨rfl, same, -⟩ := files_eq_ok calm lists
      obtain ⟨done, rest, taken, stopped⟩ := stops.exists_stopsAt (sheds_of_calmed same)
      exact ⟨done, rest, taken, { stopped with calmed := same ▸ stopped.calmed }⟩

theorem reconcile_eq_ok (calm : disk.faults.head? ≠ some (some .notFound))
    (replays : reconcile directory database disk readOnly = (.ok stats, after, last)) :
    ∃ opened, opened.calmed = disk.calmed ∧ Listable directory disk ∧
      replayFiles {} database opened readOnly (filesIn directory disk) =
        (.ok stats, after, last) := by
  unfold reconcile at replays
  split at replays
  · cases replays
  · next lists =>
      obtain ⟨rfl, same, listable⟩ := files_eq_ok calm lists
      exact ⟨_, same, listable, replays⟩

theorem addAll_eq (disk : Disk) (stats : ReplayStats) (paths : List Path) :
    addAll disk stats paths =
      { files := stats.files + paths.length
        results := stats.results + (resultsAt disk paths).length
        rows := stats.rows + (UpsertCounts.ofResults (resultsAt disk paths)).rows
        skippedLines := stats.skippedLines +
          (paths.map fun path => (contentAt disk path).skipped).sum } := by
  induction paths generalizing stats with
  | nil => rfl
  | cons path paths induction =>
      have split : resultsAt disk (path :: paths) =
          (contentAt disk path).results ++ resultsAt disk paths := rfl
      rw [addAll, List.foldl_cons, ← addAll, induction, split, UpsertCounts.rows_append,
        List.length_append, List.map_cons, List.sum_cons, List.length_cons]
      simp only [ReplayStats.add, UpsertCounts.ofResults, ReplayStats.mk.injEq]
      omega

theorem resultsAt_append (disk : Disk) (paths more : List Path) :
    resultsAt disk (paths ++ more) = resultsAt disk paths ++ resultsAt disk more :=
  List.flatMap_append

/-- What is in the store when the files that were left have been delivered, too. -/
theorem StopsAt.same {store : Store} {before state : Database × Disk} {done rest taken : List Path}
    (stopped : StopsAt start paths before state done rest taken) :
    (store.deliverAll (resultsAt start (taken ++ rest))).Same
      (store.deliverAll (resultsAt start paths)) := by
  rw [stopped.split]
  rcases stopped.which with rfl | ⟨path, others, rfl, rfl⟩
  · exact .refl _
  · have one :
        resultsAt start (path :: others) = resultsAt start [path] ++ resultsAt start others :=
      resultsAt_append start [path] others
    have parts : resultsAt start (done ++ [path] ++ path :: others) = resultsAt start done ++
        (resultsAt start [path] ++ (resultsAt start [path] ++ resultsAt start others)) := by
      rw [resultsAt_append, resultsAt_append, List.append_assoc, one]
    have whole : resultsAt start (done ++ path :: others) = resultsAt start done ++
        (resultsAt start [path] ++ resultsAt start others) := by
      rw [resultsAt_append, one]
    rw [parts, whole]
    exact store.same_deliverAll_repeat _ _ _

/-- The name of a file that was not removed is there still. -/
theorem StopsAt.isLeft {state : Database × Disk} {done rest taken : List Path} (named : disk.Named)
    (stopped : StopsAt disk (filesIn directory disk) (database, disk) state done rest taken)
    (mem : path ∈ filesIn directory disk) (others : path ∉ done) :
    IsLeft directory disk state.2 path := by
  obtain ⟨spelled, spills, name, isName, rfl⟩ := exists_name_of_mem_filesIn named mem
  obtain ⟨id, place, found⟩ := exists_leads_of_isFile (Bool.and_eq_true_iff.1 spills).1
  obtain ⟨location, entry, reached, there, -⟩ := directory_of_locate found
    (Option.some_ne_none _) spelled isName.2.2 isName.1 isName.2.1
  refine ⟨location, false, name, entry, rfl, reached, there, ?_⟩
  have kept := @entryAt?_foldl_without disk done directory name disk.calmed location false reached
    (sheds_of_calmed rfl) fun path gone => ?_
  · rw [← stopped.calmed] at kept
    exact kept.trans there
  · have listed : path ∈ filesIn directory disk := by
      rw [stopped.split]
      exact List.mem_append_left _ gone
    obtain ⟨-, -, other, isName', rfl⟩ := exists_name_of_mem_filesIn named listed
    exact ⟨other, isName', rfl, fun same => others (same ▸ gone)⟩

end Spill

open Spill in
/-- A replay of a directory that succeeds leaves no spill file there; it delivers the results of the
files in the order of their paths, line by line, and counts them.  Wherever a replay stops, before
or behind a read, a delivery or a removal that fails, or because it is killed, the results of whole
files are in the store, and of every other file the name is still there.  When nothing gets in its
way, the next replay goes through if an undisturbed one would have, and it leaves what an
undisturbed one would have left. -/
theorem replays_resumed {directory : Path} {database : Database} {store : Store} {disk : Disk}
    {readOnly : Bool} (tables : database.store? = some store) (named : disk.Named)
    (calm : disk.faults.head? ≠ some (some .notFound)) :
    (∀ {stats after last}, reconcile directory database disk readOnly = (.ok stats, after, last) →
      after.store? = some (store.deliverAll (resultsAt disk (filesIn directory disk))) ∧
      stats =
        { files := (filesIn directory disk).length
          results := (resultsAt disk (filesIn directory disk)).length
          rows := (UpsertCounts.ofResults (resultsAt disk (filesIn directory disk))).rows
          skippedLines :=
            ((filesIn directory disk).map fun path => (contentAt disk path).skipped).sum } ∧
      filesIn directory last = []) ∧
    CutOff readOnly directory (database, disk) (reconcile directory database disk readOnly).2 ∧
    ∀ {after last}, CutOff readOnly directory (database, disk) (after, last) →
      ∃ done rest taken,
        StopsAt disk (filesIn directory disk) (database, disk) (after, last) done rest taken ∧
        (∀ path ∈ filesIn directory disk, path ∉ done → IsLeft directory disk last path) ∧
        ∀ {database' disk' readOnly' stats' full emptied}, database'.store? = some store →
          disk'.calmed = disk.calmed → disk'.faults.head? ≠ some (some .notFound) →
          reconcile directory database' disk' readOnly' = (.ok stats', full, emptied) →
          (∀ {readOnly stats again gone}, last.faults.head? ≠ some (some .notFound) →
            reconcile directory after last readOnly = (.ok stats, again, gone) →
              ∃ one other, full.store? = some one ∧ again.store? = some other ∧ other.Same one) ∧
          (Quiet last → after.Willing →
            ∃ stats again gone, reconcile directory after last = (.ok stats, again, gone)) := by
  refine ⟨fun replays => ?_, cutOff_reconcile directory database disk readOnly,
    @fun after last cut => ?_⟩
  · obtain ⟨opened, same, -, replays⟩ := reconcile_eq_ok calm replays
    obtain ⟨delivered, counted, calmed, -⟩ := replayFiles_eq_ok (sheds_of_calmed same) replays
    refine ⟨by rw [delivered, tables]; rfl, by rw [counted, addAll_eq]; simp, ?_⟩
    have listed : filesIn directory opened = filesIn directory disk ++ [] := by
      rw [← filesIn_calmed, same, filesIn_calmed, List.append_nil]
    rw [← List.append_nil (filesIn directory disk)] at replays
    rw [← filesIn_calmed, calmed]
    exact filesIn_foldl_without (named.of_calmed same) listed replays
  · obtain ⟨done, rest, taken, stopped⟩ := exists_stopsAt_of_cutOff calm cut
    refine ⟨done, rest, taken, stopped, fun path mem others => stopped.isLeft named mem others, ?_⟩
    intro database' disk' readOnly' stats' full emptied tables' same' calm' passes
    obtain ⟨opened, same, listable, passes⟩ := reconcile_eq_ok calm' passes
    have joint : opened.calmed = disk.calmed := same.trans same'
    have listed : filesIn directory disk' = done ++ rest := by
      rw [← filesIn_calmed, same', filesIn_calmed, stopped.split]
    rw [listed] at passes
    have calmed : last.calmed = done.foldl without opened.calmed := by
      rw [joint]
      exact stopped.calmed
    have left : filesIn directory last = rest := by
      rw [← filesIn_calmed, calmed]
      refine filesIn_foldl_without (named.of_calmed joint) ?_ passes
      rw [← filesIn_calmed, same, filesIn_calmed, listed]
    constructor
    · intro readOnly stats again gone calm₁ replays
      obtain ⟨opened₁, same₁, -, replays⟩ := reconcile_eq_ok calm₁ replays
      rw [left] at replays
      have sheds : disk.Sheds opened₁ := by
        have shed := sheds_foldl_without disk.calmed done
        rw [← stopped.calmed] at shed
        have parted : disk.Sheds last.calmed :=
          Sheds.trans (@sheds_of_calmed disk disk.calmed rfl) shed
        exact parted.trans (sheds_of_calmed (same₁ : opened₁.calmed = last.calmed.calmed))
      obtain ⟨passed, -⟩ := replayFiles_eq_ok (sheds_of_calmed joint) passes
      obtain ⟨resumed, -⟩ := replayFiles_eq_ok sheds replays
      rw [tables', ← stopped.split] at passed
      rw [stopped.store, tables, Option.map_map] at resumed
      refine ⟨_, _, passed, resumed, ?_⟩
      rw [Function.comp_apply, ← Store.deliverAll_append, ← resultsAt_append]
      exact stopped.same
    · intro quiet willing
      obtain ⟨stats₁, between, middle, first, second⟩ := replayFiles_append passes
      obtain ⟨-, -, mid, -⟩ := replayFiles_eq_ok (.refl opened) first
      have still : Listable directory last := by
        have whole : Listable directory disk.calmed := listable.of_calmed same'.symm
        have parted := whole.foldl_without ((filesIn_calmed directory disk).trans stopped.split)
        rw [← stopped.calmed] at parted
        exact parted.of_calmed rfl
      obtain ⟨paths, opened₁, lists⟩ := exists_files_eq_ok quiet.calm still
      obtain ⟨rfl, same₁, -⟩ := files_eq_ok (quiet.calm _) lists
      have quiet₁ : Quiet opened₁ := by
        have quiet₁ := quiet.files directory
        rwa [lists] at quiet₁
      have tables₁ : after.store? = some (store.deliverAll (resultsAt disk taken)) := by
        rw [stopped.store, tables]
        rfl
      obtain ⟨stats, again, gone, replays⟩ := exists_replayFiles_eq_ok second
        (same₁.trans (calmed.trans mid.symm)) quiet₁ tables₁ willing
      refine ⟨stats, again, gone, ?_⟩
      rw [reconcile, lists, left]
      exact replays

/-- A disk with a spill file whose first removal will fail. -/
def Disk.keepingSpill : Disk where
  entries := [(["spill"], .directory), (["spill", "worker-1.jsonl"], .file 0)]
  contents := [(0, .ofBytes (SpillContent.linesOf [.ofEmptyFile]))]
  nextFile := 1
  faults := [none, none, some .exhausted]

open Spill in
theorem replays_resumed_small : ∃ (error : SpillError) (stats stats' : ReplayStats)
    (stopped again full : Database) (last gone emptied : Disk) (store same : Store),
    reconcile ⟨"spill"⟩ .fresh .keepingSpill = (.error error, stopped, last) ∧
      reconcile ⟨"spill"⟩ stopped last = (.ok stats, again, gone) ∧
      reconcile ⟨"spill"⟩ .fresh Disk.keepingSpill.calmed = (.ok stats', full, emptied) ∧
      full.store? = some store ∧ again.store? = some same ∧ same.Same store := by
  have named : Disk.keepingSpill.Named := by
    simp [Disk.Named, Disk.keepingSpill, Disk.IsName, isSilent]
  obtain ⟨-, cut, resumes⟩ := @replays_resumed ⟨"spill"⟩ .fresh { rows := [], summaries := [] }
    .keepingSpill false rfl named (by decide)
  have runs : (reconcile ⟨"spill"⟩ .fresh .keepingSpill).1.toBool = false ∧
      (reconcile ⟨"spill"⟩ .fresh Disk.keepingSpill.calmed).1.toBool = true ∧
        (reconcile ⟨"spill"⟩ .fresh .keepingSpill).2.2.faults = [] ∧
          (reconcile ⟨"spill"⟩ .fresh .keepingSpill).2.1.refusals = [] := by
    simp only [reconcile_eq]
    decide +kernel
  -- From here on the runs must not be evaluated again.
  generalize first : reconcile ⟨"spill"⟩ .fresh .keepingSpill = stopped at cut runs
  generalize whole : reconcile ⟨"spill"⟩ .fresh Disk.keepingSpill.calmed = full at runs
  obtain ⟨stops, ends, calm, willing⟩ := runs
  rcases stopped with ⟨error | _, stopped, last⟩
  · rcases full with ⟨_ | stats', full, emptied⟩
    · cases ends
    · dsimp only at calm willing
      obtain ⟨done, rest, taken, stopsAt, left, next⟩ := resumes cut
      obtain ⟨agrees, goes⟩ :=
        @next .fresh Disk.keepingSpill.calmed false stats' full emptied rfl rfl
        (by rintro ⟨⟩) whole
      have head : last.faults.head? ≠ some (some .notFound) := by
        rw [calm]
        rintro ⟨⟩
      obtain ⟨stats, again, gone, replays⟩ :=
        goes (by rw [Quiet, calm]; exact List.forall_mem_nil _)
        (by rw [Database.Willing, willing]; exact List.not_mem_nil)
      obtain ⟨store, same, kept, kept', equal⟩ := agrees head replays
      exact ⟨error, stats, stats', stopped, again, full, last, gone, emptied, store, same, rfl,
        replays, rfl, kept, kept', equal⟩
  · cases stops

end PartsList
