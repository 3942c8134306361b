import PartsList.Extraction.Drawing
import PartsList.Proofs.Extraction.Stability
import PartsList.Proofs.Job.Finality
import PartsList.Proofs.Job.Prediction
import PartsList.Proofs.Job.Restraint

/-!
# Concurrency does not change the data

How many workers and writers share the work, how results are batched and in which order the threads
take their steps has no influence on what a job leaves in its store, as long as nothing gets in its
way and the share of a worker's memory admits the same files: the rows are the same, and the
summaries are the same but for the time spent, the memory in use and the budget that a refusal for
memory names, which is the share of one worker.
-/

namespace PartsList

open Disk ExtractionResult

/-! ## What the store holds when all went well -/

namespace Job

variable {job : Job} {disk : Disk} {paths : List Path} {start worked reconciled : Progress}
  {system : System} {course : List Move} {store : Store}

/-- The threads of a job bring it to its end on a course on which nothing gets in their way. -/
structure Accomplishes (job : Job) (disk : Disk) (paths : List Path) (start : Progress)
    (system : System) (course : List Move) (worked : Progress) : Prop where
  /-- The threads start, -/
  engaged : job.engage paths start = .ok system
  /-- all of them are done in the end, -/
  finished : (system.run course).isFinished = true
  /-- none was given up on, -/
  punctual : (system.run course).manager.report.forceTerminated = 0
  /-- and no number was too large. -/
  ended : job.afterWork start (system.run course) = .ok worked
  /-- The writers are connected to the database of the job. -/
  one : ∀ writer ∈ system.writers, writer.connection.file = start.connection.file
  /-- The system lets workers start. -/
  grants : job.Grants
  /-- Nobody interrupts the job. -/
  quiet : (system.run course).manager.report.interrupted = false
  /-- No thread has opened a spill file. -/
  unspilled : (system.run course).OpensNone
  /-- Writers take all results, -/
  taken : ∀ recorded ∈ (system.run course).manager.history, recorded.outcome.delivery = .writer
  /-- and commit them. -/
  committed : ∀ writer ∈ (system.run course).writers,
    writer.stats.failedCommits = 0 ∧ writer.losses = []
  /-- No file takes too long. -/
  timely : System.Untimed (system.run course).manager.history
  /-- The files stay what they are. -/
  steady : ∀ path ∈ paths, ∀ done, done <+: course →
    (system.run done).shared.disk.status path = disk.status path

/-- Every file of a job that was not interrupted has a final outcome. -/
theorem Accomplishes.exists_final
    (accomplishes : job.Accomplishes disk paths start system course worked)
    (prepared : job.prepare disk = .ok (paths, start)) {path : Path} (selected : path ∈ paths) :
    ∃ recorded ∈ (system.run course).manager.history,
      recorded.final = true ∧ recorded.task.path = path := by
  obtain ⟨-, cleared⟩ := cleared_run accomplishes.grants prepared accomplishes.engaged
    accomplishes.finished accomplishes.quiet
  have count := (conserved_run prepared accomplishes.engaged course).files path
  rw [cleared.pending, cleared.inFlight] at count
  have some_ : 0 < ((system.run course).manager.finals.map (·.task.path)).count path := by
    have selected := List.count_pos_iff.2 selected
    simp only [List.map_nil, List.count_nil] at count
    omega
  obtain ⟨recorded, mem, about⟩ := List.mem_map.1 (List.count_pos_iff.1 some_)
  exact ⟨recorded, (List.mem_filter.1 mem).1, (List.mem_filter.1 mem).2, about⟩

/-- The store shows of a selected file what is to be expected of it. -/
theorem Accomplishes.shows (accomplishes : job.Accomplishes disk paths start system course worked)
    (numbered : disk.Numbered) (prepared : job.prepare disk = .ok (paths, start))
    (distinct : paths.Nodup) {path : Path} (selected : path ∈ paths) :
    ∃ result, (system.rules.prospect job.settings.retry path (disk.status path)).EndsWith result ∧
      result.filePath = path ∧
        (system.run course).shared.disk.Shows start.connection.file result := by
  have engaged := accomplishes.engaged
  have sound := sound_engage prepared engaged
  have once := List.count_eq_one_of_mem distinct selected
  have kept := kept_engage numbered prepared engaged accomplishes.one path
  have foretold := @foretold_engage job disk paths start system prepared engaged
    (system.rules.prospect job.settings.retry path (disk.status path)) rfl
  obtain ⟨foretold, timely⟩ := foretold.run kept.toArranged sound (Nat.le_of_eq once) rfl
    (accomplishes.steady path selected) accomplishes.timely
  obtain ⟨recorded, mem, final, about⟩ := accomplishes.exists_final prepared selected
  have kept := kept.run sound once timely
  obtain ⟨-, aboutFile, has⟩ := kept.settled recorded mem final about
  refine ⟨recorded.outcome.result, foretold.settled recorded mem final about, aboutFile.1, ?_⟩
  have delivered := has fun writer mem => (accomplishes.committed writer mem).2
  unfold System.Delivered at delivered
  rw [accomplishes.taken recorded mem] at delivered
  dsimp only at delivered
  have left := kept.ended (beq_iff_eq.1 accomplishes.finished) accomplishes.punctual
  rw [System.line_of_left left] at delivered
  rcases delivered with last | ⟨-, shows | ⟨-, writer, mem, refused⟩⟩
  · cases last
  · exact shows
  · rw [(accomplishes.committed writer mem).1] at refused
    exact absurd refused (Nat.lt_irrefl 0)

/-- Nothing has been spilled. -/
theorem Accomplishes.spillsNothing
    (accomplishes : job.Accomplishes disk paths start system course worked)
    (numbered : disk.Numbered) (prepared : job.prepare disk = .ok (paths, start)) :
    disk.Unspilled worked.disk := by
  have kept := kept_engage numbered prepared accomplishes.engaged accomplishes.one ⟨""⟩
  have ran := (System.abstains_run kept.toArranged course accomplishes.unspilled).2
  rw [afterWork_eq_ok accomplishes.ended]
  exact ((unspilled_prepare prepared).trans (unspilled_engage accomplishes.engaged)).trans ran

/-- What the store shows is what it holds of the file. -/
theorem exists_store_of_shows {file : FileId} {result : ExtractionResult}
    (shows : disk.Shows file result) :
    ∃ store, disk.Stores file store ∧ store.Shows result := by
  obtain ⟨database, store, content, tables, shown⟩ := shows
  exact ⟨store, ⟨database, content, tables⟩, shown⟩

/-- A replay leaves the store alone if there is nothing to be replayed. -/
theorem stores_of_reconcile (reconciles : job.reconcile worked = .ok reconciled)
    (bare : Spill.held job.settings.fallbackDir worked.disk = [])
    (file : worked.connection.file < worked.disk.nextFile)
    (stores : worked.disk.Stores worked.connection.file store) :
    reconciled.disk.Stores worked.connection.file store := by
  obtain ⟨stats, after, last, spilled, replayed⟩ := replays_of_reconcile reconciles
  have takes := Spill.takes_of_reconcile spilled
  obtain ⟨database, content, tables⟩ := stores
  rw [bare, Connection.database, Connection.database?_eq_some.2 content, Option.getD_some] at takes
  have tables' : after.store? = some store := by
    obtain ⟨-, same⟩ | ⟨other, before, behind⟩ := takes
    · exact same.trans tables
    · cases tables.symm.trans before
      exact behind
  have put : (worked.connection.put after last).Stores worked.connection.file store :=
    .put worked.connection tables'
  have old : worked.connection.file < (worked.connection.put after last).nextFile :=
    Nat.lt_of_lt_of_le file (Spill.develops_reconcile spilled).nextFile
  obtain ⟨aligned, _, rfl, disk, -⟩ := alignment_of_reconcile reconciles
  rw [← replayed, ← disk] at put old
  exact (job.develops_saveCorrections aligned).keepsStores.stores _ old store put

end Job

/-! ## What is to be expected of files -/

namespace Pipeline

variable {pipeline other : Pipeline} {path : Path} {status : Except OsError FileStatus}

/-- The memory that a document may need admits a file of the given size. -/
def admits (pipeline : Pipeline) (sizeBytes : Nat) : Bool :=
  match pipeline.memoryBudgetBytes with
  | none => true
  | some budget => decide (estimatedDocumentMemory sizeBytes ≤ budget)

theorem size_of_checkFile {maxSizeBytes sizeBytes : Nat}
    (passes : checkFile maxSizeBytes path status = .ok sizeBytes) :
    ∃ found, status = .ok found ∧ found.size = sizeBytes := by
  unfold checkFile at passes
  split at passes
  · cases passes
  · next found =>
      split at passes
      · cases passes
      · split at passes
        · cases passes
        · split at passes
          · cases passes
          · cases passes
            exact ⟨found, rfl, rfl⟩

theorem precheck_eq (pipeline : Pipeline) (path : Path) (status : Except OsError FileStatus) :
    (pipeline.precheck path status).mapError essence =
      match checkFile pipeline.maxFileSizeBytes path status with
      | .error report => .error (rejection path report).essence
      | .ok sizeBytes =>
        if pipeline.admits sizeBytes then .ok sizeBytes
        else
          .error (failed path .memoryLimitExceeded
            (memoryMessage (estimatedDocumentMemory sizeBytes) 0)
            { sizeBytes := sizeBytes }).essence := by
  unfold precheck admits
  cases checkFile pipeline.maxFileSizeBytes path status with
  | error => rfl
  | ok sizeBytes =>
      cases pipeline.memoryBudgetBytes with
      | none => rfl
      | some budget =>
          dsimp only
          by_cases exceeds : budget < estimatedDocumentMemory sizeBytes
          · rw [if_pos exceeds, if_neg (by simpa using exceeds)]
            exact congrArg Except.error (essence_refused _ _ _ _)
          · rw [if_neg exceeds, if_pos (by simpa using exceeds)]
            rfl

/-- Pipelines with the same limit that admit the same files come to the same in essence before they
ask the engine. -/
theorem precheck_congr (maxFileSizeBytes : pipeline.maxFileSizeBytes = other.maxFileSizeBytes)
    (admits : ∀ found, status = .ok found → pipeline.admits found.size = other.admits found.size) :
    (pipeline.precheck path status).mapError essence =
      (other.precheck path status).mapError essence := by
  rw [precheck_eq, precheck_eq, maxFileSizeBytes]
  cases checked : checkFile other.maxFileSizeBytes path status with
  | error => rfl
  | ok sizeBytes =>
      obtain ⟨found, same, rfl⟩ := size_of_checkFile checked
      dsimp only
      rw [admits found same]

theorem finish_congr (layout : pipeline.layout = other.layout) (sizeBytes : Nat)
    (answer : Except EngineError Document) :
    pipeline.finish path sizeBytes answer = other.finish path sizeBytes answer := by
  unfold finish
  rw [layout]

end Pipeline

/-- Workers with the same layout and limit that admit the same files are to be expected to do the
same if their engines give the same answers, however long these take. -/
theorem WorkerRules.forecast_congr {rules other : WorkerRules} {path : Path}
    {status : Except OsError FileStatus}
    (answers : ∀ loads, (rules.engine path loads).outcome = (other.engine path loads).outcome)
    (layout : rules.pipeline.layout = other.pipeline.layout)
    (maxFileSizeBytes : rules.pipeline.maxFileSizeBytes = other.pipeline.maxFileSizeBytes)
    (admits : ∀ found, status = .ok found →
      rules.pipeline.admits found.size = other.pipeline.admits found.size) :
    rules.forecast path status = other.forecast path status := by
  funext loads
  have same := @Pipeline.precheck_congr _ _ path status maxFileSizeBytes admits
  unfold forecast attempt
  cases checked : rules.pipeline.precheck path status with
  | error result =>
      cases checked' : other.pipeline.precheck path status with
      | error result' =>
          rw [checked, checked'] at same
          have same : result.essence = result'.essence := Except.error.inj same
          exact congrArg (some · , loads) same
      | ok => rw [checked, checked'] at same; cases same
  | ok sizeBytes =>
      cases checked' : other.pipeline.precheck path status with
      | error => rw [checked, checked'] at same; cases same
      | ok sizeBytes' =>
          rw [checked, checked'] at same
          cases Except.ok.inj same
          dsimp only
          rw [answers]
          cases (other.engine path (loads + 1)).outcome <;>
            simp only [Pipeline.finish_congr layout]

/-- The summaries of results with the same essence have the same essence. -/
theorem essence_ofResult (result : ExtractionResult) :
    (StoredSummary.ofResult result).essence = (StoredSummary.ofResult result.essence).essence := by
  unfold StoredSummary.essence StoredSummary.ofResult ExtractionResult.essence
  by_cases refused : result.errorCode = .memoryLimitExceeded
  · simp [refused, ExtractionResult.rowCount, Function.comp_def]
  · simp [refused, ExtractionResult.rowCount]

/-! ## Jobs that differ in their threads only -/

/-- The choices apart from how many threads share the work and how results are batched. -/
def Settings.unstaffed (settings : Settings) : Settings :=
  { settings with workers := none, writerPoolSize := 1, batchRows := 1, batchIntervalMs := 1 }

namespace Job

variable {job first second : Job} {disk : Disk} {paths paths' : List Path}
  {start start' worked ended ended' : Progress} {system : System} {course : List Move}
  {store : Store}

/-- The jobs differ at most in how many threads share the work and in how results are batched. -/
structure Alike (first second : Job) : Prop where
  /-- Their engines give the same answers, which may take different times. -/
  answers : ∀ path loads, (first.engine path loads).outcome = (second.engine path loads).outcome
  /-- Their other choices are the same. -/
  settings : first.settings.unstaffed = second.settings.unstaffed

/-- A choice is the same if it is none of those. -/
theorem Alike.choice (alike : first.Alike second) {α : Type} (choice : Settings → α)
    (apart : ∀ settings : Settings, choice settings.unstaffed = choice settings) :
    choice second.settings = choice first.settings := by
  rw [← apart first.settings, alike.settings, apart]

/-- They select the same files. -/
theorem Alike.prepare (alike : first.Alike second)
    (prepared : first.prepare disk = .ok (paths, start))
    (prepared' : second.prepare disk = .ok (paths', start')) : paths' = paths ∧ start' = start := by
  obtain ⟨connection, opened, checkpoint, loaded, discovered, connected, read, found, rfl, rfl⟩ :=
    prepare_eq_ok prepared
  obtain ⟨connection', opened', checkpoint', loaded', discovered', connected', read', found', rfl,
    rfl⟩ := prepare_eq_ok prepared'
  have mode : second.mode = first.mode := by
    rw [Job.mode, Job.mode, alike.choice Settings.resume fun _ => rfl,
      alike.choice Settings.retryFailedOnly fun _ => rfl]
  have limit : second.limit = first.limit := by
    rw [Job.limit, Job.limit, alike.choice Settings.maxFiles fun _ => rfl]
  have load (disk : Disk) : second.loadCheckpoint disk = first.loadCheckpoint disk := by
    rw [loadCheckpoint, loadCheckpoint, alike.choice Settings.checkpointPath fun _ => rfl, mode]
  rw [alike.choice Settings.databasePath fun _ => rfl] at connected'
  cases connected.symm.trans connected'
  rw [load] at read'
  cases read.symm.trans read'
  rw [alike.choice Settings.inputDir fun _ => rfl] at found'
  cases found.symm.trans found'
  rw [mode, limit]
  exact ⟨rfl, rfl⟩

/-- The plan of the job admits a file of the given size when so many files are selected. -/
def admits (job : Job) (paths : List Path) (sizeBytes : Nat) : Bool :=
  match Plan.derive job.host job.settings paths.length with
  | .ok plan => (job.workerRules plan).pipeline.admits sizeBytes
  | .error _ => false

theorem rules_engage (engaged : job.engage paths start = .ok system) :
    ∃ plan, Plan.derive job.host job.settings paths.length = .ok plan ∧
      system.rules = job.workerRules plan := by
  obtain ⟨plan, _, _, _, derived, -, rfl, -⟩ := engage_eq_ok engaged
  exact ⟨plan, derived, rfl⟩

/-- They expect the same of a file that their plans admit alike. -/
theorem Alike.prospect (alike : first.Alike second) {plan plan' : Plan}
    (derived : Plan.derive first.host first.settings paths.length = .ok plan)
    (derived' : Plan.derive second.host second.settings paths.length = .ok plan') {path : Path}
    {status : Except OsError FileStatus}
    (agree : ∀ found, status = .ok found →
      first.admits paths found.size = second.admits paths found.size) :
    (first.workerRules plan).prospect first.settings.retry path status =
      (second.workerRules plan').prospect second.settings.retry path status := by
  have retry := alike.choice Settings.retry fun _ => rfl
  have layout := alike.choice Settings.layout fun _ => rfl
  have limit := alike.choice Settings.maxFileSizeBytes fun _ => rfl
  have forecast := @WorkerRules.forecast_congr (first.workerRules plan) (second.workerRules plan')
    path status (alike.answers path) layout.symm limit.symm fun found same => by
      have agree := agree found same
      rwa [admits, admits, derived, derived'] at agree
  unfold WorkerRules.prospect
  rw [retry, forecast]

/-! ## What the store holds in the end -/

/-- The work on the selected files is done. -/
inductive Works (job : Job) (disk : Disk) (paths : List Path) (start : Progress) : Progress → Prop
  /-- No file was selected. -/
  | idle (none : paths = []) : Works job disk paths start start
  /-- The threads have done it, and nothing got in their way. -/
  | busy {system : System} {course : List Move} {worked : Progress} (some : paths ≠ [])
      (accomplishes : job.Accomplishes disk paths start system course worked) :
      Works job disk paths start worked

theorem Works.unspilled (works : job.Works disk paths start worked) (numbered : disk.Numbered)
    (prepared : job.prepare disk = .ok (paths, start)) : disk.Unspilled worked.disk := by
  cases works with
  | idle => exact unspilled_prepare prepared
  | busy _ accomplishes => exact accomplishes.spillsNothing numbered prepared

/-- A job gets as far as to replay the spill files, and nothing gets in its way. -/
structure GoesWell (job : Job) (disk : Disk) (paths : List Path) (start ended : Progress) :
    Prop where
  /-- The job selects files, -/
  prepared : job.prepare disk = .ok (paths, start)
  /-- each of them once, by the text of its path, which is its key in the store. -/
  distinct : paths.Nodup
  /-- The database has a store. -/
  stocked : ∃ store, start.disk.Stores start.connection.file store
  /-- The work is done, and the spill files that are there then, if any, were not there at the
  beginning. -/
  works : ∃ worked, job.Works disk paths start worked ∧
    (∀ path ∈ Spill.filesIn job.settings.fallbackDir worked.disk, ∀ id,
      worked.disk.Leads path id → disk.content? id = none) ∧ job.reconcile worked = .ok ended

/-- In the end the store holds of each selected file what is to be expected of it, and of all others
what it has held before. -/
theorem GoesWell.about (well : job.GoesWell disk paths start ended) (numbered : disk.Numbered)
    (stores : start.disk.Stores start.connection.file store) (path : Path) :
    ended.connection = start.connection ∧
      ∃ current, ended.disk.Stores start.connection.file current ∧
        if path ∈ paths then
          ∃ plan result, Plan.derive job.host job.settings paths.length = .ok plan ∧
            ((job.workerRules plan).prospect job.settings.retry path
              (disk.status path)).EndsWith result ∧
              result.filePath = path ∧ current.Shows result
        else current.about path = store.about path := by
  obtain ⟨worked, works, new, reconciles⟩ := well.works
  have bare := Spill.held_eq_nil (works.unspilled numbered well.prepared) new
  obtain ⟨evolves, old⟩ := evolves_prepare numbered well.prepared
  have connected := connection_of_reconcile reconciles
  cases works with
  | idle none =>
      refine ⟨connected, store, stores_of_reconcile reconciles bare old stores, ?_⟩
      rw [if_neg (none ▸ List.not_mem_nil)]
  | @busy system course worked some accomplishes =>
      have engaged := accomplishes.engaged
      cases afterWork_eq_ok accomplishes.ended
      have kept := kept_engage numbered well.prepared engaged accomplishes.one path
      have arranged := kept.toArranged.run course
      have settled {current : Store}
          (stores : (system.run course).shared.disk.Stores start.connection.file current) :
          ended.disk.Stores start.connection.file current :=
        (stores_of_reconcile reconciles bare arranged.database stores :)
      refine ⟨connected, ?_⟩
      by_cases selected : path ∈ paths
      · obtain ⟨result, ends, about, shows⟩ :=
          accomplishes.shows numbered well.prepared well.distinct selected
        obtain ⟨plan, derived, rules⟩ := rules_engage engaged
        obtain ⟨current, stores, shown⟩ := exists_store_of_shows shows
        refine ⟨current, settled stores, ?_⟩
        rw [if_pos selected]
        exact ⟨plan, result, derived, rules ▸ ends, about, shown⟩
      · have spares := (spares_engage numbered well.prepared engaged stores path).run
          kept.toArranged (sound_engage well.prepared engaged) selected course
        obtain ⟨current, stores, about⟩ := spares.stored
        refine ⟨current, settled stores, ?_⟩
        rw [if_neg selected]
        exact about

/-- Of results with the same essence stores hold the same rows, and in essence the same
summaries. -/
theorem about_of_essence {current current' : Store} {result result' : ExtractionResult}
    (shows : current.Shows result) (shows' : current'.Shows result')
    (same : result.essence = result'.essence) (file : result'.filePath = result.filePath) :
    (current.about result.filePath).2 = (current'.about result.filePath).2 ∧
      (current.about result.filePath).1.map StoredSummary.essence =
        (current'.about result.filePath).1.map StoredSummary.essence := by
  have success : result.success = result'.success :=
    show result.essence.success = result'.essence.success from same ▸ rfl
  have found : result.rows = result'.rows :=
    show result.essence.rows = result'.essence.rows from same ▸ rfl
  obtain ⟨summaries, rows⟩ := shows'
  rw [file] at rows summaries
  constructor
  · refine shows.2.trans ?_
    rw [success, found]
    exact rows.symm
  · change (current.summaries.filter _).map _ = (current'.summaries.filter _).map _
    rw [shows.1, summaries, List.map_singleton, List.map_singleton, essence_ofResult,
      essence_ofResult result', same]

/-- In the end the stores of two such jobs hold the same rows of each file, and in essence the same
summary. -/
theorem Alike.about (alike : first.Alike second) (numbered : disk.Numbered)
    (agree : ∀ path ∈ paths, ∀ found, disk.status path = .ok found →
      first.admits paths found.size = second.admits paths found.size)
    (well : first.GoesWell disk paths start ended)
    (well' : second.GoesWell disk paths start ended')
    (stores : start.disk.Stores start.connection.file store) (path : Path) :
    ∃ current current', ended.disk.Stores start.connection.file current ∧
      ended'.disk.Stores start.connection.file current' ∧
        (current.about path).2 = (current'.about path).2 ∧
          (current.about path).1.map StoredSummary.essence =
            (current'.about path).1.map StoredSummary.essence := by
  obtain ⟨-, current, stored, about⟩ := well.about numbered stores path
  obtain ⟨-, current', stored', about'⟩ := well'.about numbered stores path
  refine ⟨current, current', stored, stored', ?_⟩
  by_cases selected : path ∈ paths
  · rw [if_pos selected] at about about'
    obtain ⟨plan, result, derived, ends, rfl, shows⟩ := about
    obtain ⟨plan', result', derived', ends', file, shows'⟩ := about'
    rw [← alike.prospect derived derived' (agree _ selected)] at ends'
    exact about_of_essence shows shows' (ends.unique ends') file
  · rw [if_neg selected] at about about'
    rw [about, about']
    exact ⟨rfl, rfl⟩

end Job

/-- Jobs that differ only in how many workers and writers share the work, in how results are batched
and in the order of their steps leave the same data: what is loaded of rows is the same, and what is
loaded of summaries is the same but for the time spent, the memory in use and the budget that a
refusal for memory names.  Both start with the same disk, nothing gets in their way, and their plans
admit the same files. -/
theorem concurrency_keeps_data {first second : Job} {disk : Disk} {paths paths' : List Path}
    {start start' ended ended' : Progress} (alike : first.Alike second) (numbered : disk.Numbered)
    (agree : ∀ path ∈ paths, ∀ found, disk.status path = .ok found →
      first.admits paths found.size = second.admits paths found.size)
    (well : first.GoesWell disk paths start ended)
    (well' : second.GoesWell disk paths' start' ended') :
    (ended.connection.database ended.disk).loadRows =
        (ended'.connection.database ended'.disk).loadRows ∧
      (ended.connection.database ended.disk).loadSummaries.map (·.map FileSummary.essence) =
        (ended'.connection.database ended'.disk).loadSummaries.map (·.map FileSummary.essence) := by
  obtain ⟨rfl, rfl⟩ := alike.prepare well.prepared well'.prepared
  obtain ⟨store, stores⟩ := well.stocked
  obtain ⟨connected, current, stored, -⟩ := well.about numbered stores ⟨""⟩
  obtain ⟨connected', current', stored', -⟩ := well'.about numbered stores ⟨""⟩
  -- There is one store behind each connection, whichever file is looked at.
  have about (path : Path) : (current.about path).2 = (current'.about path).2 ∧
      (current.about path).1.map StoredSummary.essence =
        (current'.about path).1.map StoredSummary.essence := by
    obtain ⟨_, _, there, there', about⟩ := alike.about numbered agree well well' stores path
    rwa [there.unique stored, there'.unique stored'] at about
  obtain ⟨database, content, tables⟩ := stored
  obtain ⟨database', content', tables'⟩ := stored'
  rw [connected, connected', Connection.database, Connection.database,
    Connection.database?_eq_some.2 content, Connection.database?_eq_some.2 content',
    Option.getD_some, Option.getD_some]
  exact ⟨Database.loadRows_congr tables tables' fun path => (about path).1,
    Database.loadSummaries_congr tables tables' fun path => (about path).2⟩

/-! ## Two jobs on the same disk -/

namespace System

variable {system : System} {course : List Move} {check : System → Bool}

/-- A check holds all along a course. -/
def always (check : System → Bool) (system : System) (course : List Move) : Bool :=
  course.foldr (fun move later now => check now && later (now.step move)) check system

theorem always_run (holds : system.always check course = true) {done : List Move}
    (begins : done <+: course) : check (system.run done) = true := by
  induction course generalizing system done with
  | nil =>
      cases List.prefix_nil.1 begins
      exact holds
  | cons move course induction =>
      obtain ⟨now, later⟩ := Bool.and_eq_true_iff.1 holds
      cases done with
      | nil => exact now
      | cons first done =>
          obtain ⟨rfl, rest⟩ := List.cons_prefix_cons.1 begins
          exact induction later rest

end System

namespace Job

variable {job first second : Job} {disk : Disk} {paths : List Path} {course : List Move}

/-- The disk holds a database behind the connection that has a store. -/
def Stages.isStocked (stages : Stages) : Bool :=
  match stages.start.disk.content? stages.start.connection.file with
  | some (.database database) => database.store?.isSome
  | _ => false

theorem Stages.stores_of_isStocked {stages : Stages} (stocked : stages.isStocked = true) :
    ∃ store, stages.start.disk.Stores stages.start.connection.file store := by
  unfold isStocked at stocked
  split at stocked
  · next database content =>
      obtain ⟨store, tables⟩ := Option.isSome_iff_exists.1 stocked
      exact ⟨store, database, content, tables⟩
  · cases stocked

/-- The threads take their course, and nothing gets in their way. -/
def Stages.isSmooth (stages : Stages) (job : Job) (disk : Disk) (course : List Move) : Bool :=
  let done := stages.system.run course
  stages.isStocked &&
    stages.system.always (fun now => stages.paths.all fun path =>
      decide (now.shared.disk.status path = disk.status path)) course &&
    decide (stages.paths.Nodup ∧ stages.paths ≠ [] ∧
      (Spill.filesIn job.settings.fallbackDir stages.worked.disk) = [] ∧ true ∉ job.startRefusals ∧
      (∀ writer ∈ stages.system.writers, writer.connection.file = stages.start.connection.file) ∧
      done.isFinished = true ∧ done.manager.report.forceTerminated = 0 ∧
      done.manager.report.interrupted = false ∧ (∀ spill ∈ done.spills, spill.file = none) ∧
      (∀ recorded ∈ done.manager.history, recorded.outcome.delivery = .writer ∧
        recorded.outcome.result.errorCode ≠ .timeout) ∧
      ∀ writer ∈ done.writers, writer.stats.failedCommits = 0 ∧ writer.losses = [])

/-- Whether two jobs admit the same of the files that are there can be checked. -/
theorem agree_of_all
    (checked : paths.all (fun path => (disk.status path).toOption.all fun found =>
      first.admits paths found.size == second.admits paths found.size) = true) :
    ∀ path ∈ paths, ∀ found, disk.status path = .ok found →
      first.admits paths found.size = second.admits paths found.size := by
  intro path selected found status
  have same := List.all_eq_true.1 checked path selected
  rw [status] at same
  exact beq_iff_eq.1 same

/-- The stages of the job on that course can be gone through smoothly, and a check holds of them. -/
def goesSmoothly (job : Job) (disk : Disk) (course : List Move) (check : Stages → Bool) : Bool :=
  (job.stages disk course).toOption.any fun stages =>
    stages.isSmooth job disk course && check stages

theorem exists_goesWell {check : Stages → Bool}
    (checked : job.goesSmoothly disk course check = true) :
    ∃ stages : Stages, job.GoesWell disk stages.paths stages.start stages.reconciled ∧
      check stages = true := by
  obtain ⟨stages, prepared, engaged, ended, reconciles, holds⟩ := exists_stages checked
  obtain ⟨smooth, more⟩ := Bool.and_eq_true_iff.1 holds
  unfold Stages.isSmooth at smooth
  simp only [Bool.and_eq_true, decide_eq_true_eq] at smooth
  obtain ⟨⟨stocked, steady⟩, distinct, some, none, grants, one, finished, punctual, quiet,
    unspilled, settled, committed⟩ := smooth
  have accomplishes : job.Accomplishes disk stages.paths stages.start stages.system course
      stages.worked :=
    { engaged := engaged
      finished := finished
      punctual := punctual
      ended := ended
      one := one
      grants := grants
      quiet := quiet
      unspilled := unspilled
      taken := fun recorded mem => (settled recorded mem).1
      committed := committed
      timely := fun recorded mem => (settled recorded mem).2
      steady := fun path mem done begins =>
        of_decide_eq_true (List.all_eq_true.1 (System.always_run steady begins) path mem) }
  refine ⟨stages, ⟨prepared, distinct, Stages.stores_of_isStocked stocked, stages.worked,
    .busy some accomplishes, fun path mem => ?_, reconciles⟩, more⟩
  rw [none] at mem
  cases mem

end Job

/-- A drawing with a cover and a parts list of two rows. -/
def Drawing.covered : Drawing where
  pages := [coverPage 1, tablePage 2 [("1", "PIPE SMLS", "2"), ("2", "VALVE", "1")]]

/-- A job in the working directory with one worker and one writer.  When the engine is asked for a
file other than the first one it takes the worker down, and answers only afterwards. -/
def Job.narrow : Job where
  settings :=
    { Settings.standard ⟨""⟩ with
      databasePath := ⟨"database"⟩
      checkpointPath := ⟨"checkpoint"⟩
      fallbackDir := ⟨"spill"⟩
      workers := some 1
      writerPoolSize := 1
      retry := { enabled := true, maxRetries := 1 } }
  engine := fun path loads =>
    if path = ⟨"./a.pdf"⟩ then { outcome := Drawing.covered.loading path }
    else if loads = 1 then { outcome := .crashed }
    else { outcome := (Drawing.singleRow "3").loading path }
  host := ⟨4, 4294967296⟩
  today := ⟨0, 0⟩

/-- The same job with more threads, with writers that commit each result, and with an engine that
takes its time. -/
def Job.wide : Job :=
  { Job.narrow with
    settings := { Job.narrow.settings with workers := some 2, writerPoolSize := 2, batchRows := 1 }
    engine := fun path loads => { Job.narrow.engine path loads with elapsed := 40000 } }

theorem Job.alike_narrow_wide : Job.narrow.Alike Job.wide :=
  ⟨fun _ _ => rfl, rfl⟩

/-- A disk with three files, the last of which is empty. -/
def Disk.several : Disk where
  entries := [(["a.pdf"], .file 0), (["b.pdf"], .file 1), (["e.pdf"], .file 2)]
  contents := [(0, .ofBytes [1]), (1, .ofBytes [1]), (2, .ofBytes [])]
  nextFile := 3

/-- A course on which the only worker goes down with the second file, and another one takes its
place. -/
def Job.narrowCourse : List Move :=
  [.manager .feed, .manager .feed, .worker 0 true, .manager .feed, .manager .look, .worker 0 true,
    .manager .receive, .worker 0 true, .worker 0 true, .writer 0, .worker 0 true, .manager .receive,
    .worker 0 true, .worker 0 true, .manager .receive, .worker 0 true, .worker 0 true,
    .manager .receive, .manager .feed, .writer 0, .worker 1 true, .worker 1 true, .manager .receive,
    .worker 1 true, .worker 1 true, .writer 0, .worker 1 true, .manager .receive, .worker 1 true,
    .worker 1 true, .manager .receive, .worker 1 true, .worker 1 true, .writer 0, .worker 1 true,
    .manager .receive, .manager .feed, .manager .proceed, .manager .proceed, .worker 1 true,
    .worker 1 true, .manager .receive, .manager .proceed, .manager .proceed, .manager .feed,
    .writer 0, .manager .proceed]

/-- A course on which the worker that has the first file goes down with the second one, and the
other one has the last file in the store before anything else. -/
def Job.wideCourse : List Move :=
  [.manager .feed, .manager .feed, .manager .feed, .worker 1 true, .worker 1 true, .worker 1 true,
    .worker 1 true, .worker 1 true, .worker 1 true, .worker 1 true, .worker 1 true, .worker 1 true,
    .worker 0 true, .worker 0 true, .worker 0 true, .worker 0 true, .worker 0 true,
    .manager .receive, .manager .receive, .manager .receive, .manager .receive, .manager .feed,
    .worker 0 true, .worker 0 true, .worker 0 true, .worker 0 true, .worker 0 true,
    .manager .receive, .manager .receive, .manager .receive, .manager .receive, .manager .feed,
    .writer 0, .writer 1, .writer 1, .writer 1, .manager .proceed, .worker 0 true, .worker 0 true,
    .manager .proceed, .worker 2 true, .worker 2 true, .manager .proceed, .manager .receive,
    .manager .receive, .manager .proceed, .manager .proceed, .writer 0, .manager .proceed,
    .manager .feed, .writer 1, .manager .proceed]

/-- The job selects the files, leaves so many rows behind, and tells of so many attempts at each of
the files and of its failure, if any, in words. -/
def Job.Stages.tells (stages : Stages) (paths : List Path) (rows : Nat)
    (told : List (Nat × Option String)) : Bool :=
  let database := stages.reconciled.connection.database stages.reconciled.disk
  decide (stages.paths = paths ∧ database.countRows.toOption = some rows ∧
    (database.loadSummaries.map (·.map fun summary =>
      (summary.attempt, summary.errorMessage))).toOption = some told)

theorem concurrency_keeps_data_retried : ∃ start start' ended ended' : Progress,
    Job.narrow.GoesWell .several [⟨"./a.pdf"⟩, ⟨"./b.pdf"⟩, ⟨"./e.pdf"⟩] start ended ∧
      Job.wide.GoesWell .several [⟨"./a.pdf"⟩, ⟨"./b.pdf"⟩, ⟨"./e.pdf"⟩] start' ended' ∧
        (ended.connection.database ended.disk).countRows.toOption = some 3 ∧
          (ended.connection.database ended.disk).loadRows =
              (ended'.connection.database ended'.disk).loadRows ∧
            (ended.connection.database ended.disk).loadSummaries.map (·.map FileSummary.essence) =
              (ended'.connection.database ended'.disk).loadSummaries.map
                (·.map FileSummary.essence) := by
  -- Sorts that recur on the lists themselves let the kernel go through the courses.
  obtain ⟨narrow, wide⟩ :
      Job.narrow.goesSmoothly .several Job.narrowCourse (·.tells
        [⟨"./a.pdf"⟩, ⟨"./b.pdf"⟩, ⟨"./e.pdf"⟩] 3
          [(1, none), (2, none), (1, some "file is empty")]) = true ∧
        Job.wide.goesSmoothly .several Job.wideCourse (·.tells
          [⟨"./a.pdf"⟩, ⟨"./b.pdf"⟩, ⟨"./e.pdf"⟩] 3
            [(1, none), (2, none), (1, some "file is empty")]) = true := by
    simp +unfoldPartialApp only [Job.goesSmoothly, Job.Stages.isSmooth, Job.Stages.tells,
      Job.stages, Job.prepare, discover?, Path.sort_eq_insertionSort, System.run, System.always,
      System.step, System.move?, System.moveWorker?, Worker.step?, Worker.work, Worker.process,
      Pipeline.finish, Pipeline.extractDocument, Pipeline.extractPage, Pipeline.readTable,
      mapColumns, placeRow, groupRows_eq_insertionSort, fromLeft_eq_insertionSort, Job.reconcile,
      Spill.reconcile_eq, Job.alignCheckpoint, Database.loadSummaries_eq_insertionSort]
    decide +kernel
  obtain ⟨⟨paths, start, _, _, ended⟩, well, told⟩ := Job.exists_goesWell narrow
  obtain ⟨⟨paths', start', _, _, ended'⟩, well', told'⟩ := Job.exists_goesWell wide
  obtain ⟨rfl, rows, -⟩ := of_decide_eq_true told
  obtain ⟨rfl, -⟩ := of_decide_eq_true told'
  have numbered : Disk.several.Numbered :=
    Disk.numbered_of_entries (by simp [Disk.several])
  have agree := @Job.agree_of_all .narrow .wide .several
    [⟨"./a.pdf"⟩, ⟨"./b.pdf"⟩, ⟨"./e.pdf"⟩] (by decide +kernel)
  exact ⟨start, start', ended, ended', well, well', rows,
    concurrency_keeps_data Job.alike_narrow_wide numbered agree well well'⟩

/-- A disk with a large file. -/
def Disk.large : Disk where
  entries := [(["a.pdf"], .file 0)]
  contents := [(0, .bytes 160000000 [])]
  nextFile := 1

/-- A course on which the only worker refuses the file. -/
def Job.narrowRefusal : List Move :=
  [.manager .feed, .manager .look, .worker 0 true, .worker 0 true, .manager .receive,
    .worker 0 true, .worker 0 true, .writer 0, .worker 0 true, .manager .receive, .manager .feed,
    .manager .proceed, .manager .proceed, .worker 0 true, .worker 0 true, .manager .receive,
    .manager .proceed, .manager .proceed, .writer 0, .manager .feed, .manager .proceed]

/-- A course on which the second writer takes the refusal. -/
def Job.wideRefusal : List Move :=
  [.manager .feed, .manager .look, .worker 0 true, .worker 0 true, .manager .receive,
    .worker 0 true, .worker 0 true, .writer 1, .worker 0 true, .manager .receive, .manager .feed,
    .manager .proceed, .manager .proceed, .worker 0 true, .worker 0 true, .manager .receive,
    .manager .proceed, .manager .proceed, .writer 0, .manager .proceed, .writer 1, .manager .feed,
    .manager .proceed]

/-- The summary without the time spent and the memory in use. -/
def FileSummary.untimed (summary : FileSummary) : FileSummary :=
  { summary with durationMs := 0, memoryPeakMb := none }

/-- What is loaded of summaries is not the same but for the time spent and the memory in use: the
summary of a file that needs too much memory for either job names the budget of a worker, which is
the smaller the more threads there are. -/
theorem refusals_name_budgets : ∃ start start' ended ended' : Progress,
    Job.narrow.Alike .wide ∧ Disk.large.Numbered ∧
      (∀ path ∈ [(⟨"./a.pdf"⟩ : Path)], ∀ found, Disk.large.status path = .ok found →
        Job.narrow.admits [⟨"./a.pdf"⟩] found.size = Job.wide.admits [⟨"./a.pdf"⟩] found.size) ∧
        Job.narrow.GoesWell .large [⟨"./a.pdf"⟩] start ended ∧
          Job.wide.GoesWell .large [⟨"./a.pdf"⟩] start' ended' ∧
            (ended.connection.database ended.disk).loadSummaries.map (·.map FileSummary.untimed) ≠
              (ended'.connection.database ended'.disk).loadSummaries.map
                (·.map FileSummary.untimed) := by
  obtain ⟨⟨paths, start, _, _, ended⟩, well, told⟩ :=
    @Job.exists_goesWell .narrow .large Job.narrowRefusal
      (·.tells [⟨"./a.pdf"⟩] 0 [(1, some (Pipeline.memoryMessage 1280000000 1234173952))])
      (by decide +kernel)
  obtain ⟨⟨paths', start', _, _, ended'⟩, well', told'⟩ :=
    @Job.exists_goesWell .wide .large Job.wideRefusal
      (·.tells [⟨"./a.pdf"⟩] 0 [(1, some (Pipeline.memoryMessage 1280000000 965738496))])
      (by decide +kernel)
  obtain ⟨rfl, -, message⟩ := of_decide_eq_true told
  obtain ⟨rfl, -, message'⟩ := of_decide_eq_true told'
  have agree := @Job.agree_of_all .narrow .wide .large [⟨"./a.pdf"⟩] (by decide +kernel)
  refine ⟨start, start', ended, ended', Job.alike_narrow_wide,
    Disk.numbered_of_entries (by simp [Disk.large]), agree, well, well', fun same => ?_⟩
  have untimed (answer : Except DatabaseError (List FileSummary)) :
      (answer.map (·.map FileSummary.untimed)).map (·.map fun summary =>
        (summary.attempt, summary.errorMessage)) =
          answer.map (·.map fun summary => (summary.attempt, summary.errorMessage)) := by
    cases answer with
    | error => rfl
    | ok summaries => exact congrArg Except.ok (List.map_map ..)
  dsimp only at message message'
  rw [← untimed, same, untimed, message'] at message
  exact absurd message (by decide +kernel)

end PartsList
