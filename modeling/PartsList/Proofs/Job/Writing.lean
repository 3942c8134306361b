import PartsList.Job.Writer
import PartsList.Proofs.Spill.Replay
import PartsList.Proofs.Store.Connecting

/-!
# What writers make of results

A writer takes the results of a file in the order in which they were sent.  When it commits its
batch, the last one of each file is what the store shows of the file; when the batch is refused, all
of them go to the writer's spill file.
-/

namespace PartsList

open Disk ExtractionResult

namespace Store

/-- What the store keeps of a result's file is the result's summary and rows. -/
def Shows (store : Store) (result : ExtractionResult) : Prop :=
  store.summaries.filter (·.filePath == result.filePath.spelling) =
      [StoredSummary.ofResult result] ∧
    store.rows.filter (·.filePath == result.filePath.spelling) =
      if result.success then (Row.latest result.rows).map StoredRow.ofRow else []

variable {store : Store} {results : List ExtractionResult} {result : ExtractionResult}

theorem shows_deliverAll (owns : ∀ result ∈ results, result.OwnsRows)
    (last : last? result.filePath.spelling results = some result) :
    (store.deliverAll results).Shows result := by
  constructor
  · rw [filter_summaries_deliverAll, last]
  · rw [filter_rows_deliverAll store results owns, last]

theorem Shows.deliverAll (shows : store.Shows result) (owns : ∀ result ∈ results, result.OwnsRows)
    (none : last? result.filePath.spelling results = none) :
    (store.deliverAll results).Shows result := by
  constructor
  · rw [filter_summaries_deliverAll, none]
    exact shows.1
  · rw [filter_rows_deliverAll store results owns, none]
    exact shows.2

end Store

namespace Disk

variable {disk after : Disk} {file : FileId} {result : ExtractionResult}

/-- The database in a file has taken results. -/
def Takes (disk after : Disk) (file : FileId) (results : List ExtractionResult) : Prop :=
  ∃ database next, disk.content? file = some (.database database) ∧
    after.content? file = some (.database next) ∧ database.Takes next results

/-- The database in a file shows a result. -/
def Shows (disk : Disk) (file : FileId) (result : ExtractionResult) : Prop :=
  ∃ database store, disk.content? file = some (.database database) ∧
    database.store? = some store ∧ store.Shows result

theorem Shows.develops (shows : disk.Shows file result) (old : file < disk.nextFile)
    (develops : disk.Develops after) : after.Shows file result := by
  obtain ⟨database, store, content, tables, kept⟩ := shows
  exact ⟨database, store, develops.databases file old database content, tables, kept⟩

end Disk

namespace Connection

variable {connection : Connection} {disk after : Disk} {results : List ExtractionResult}
  {result : ExtractionResult}

/-- A transaction that takes effect is counted. -/
theorem takes_of_upsert {counts : UpsertCounts}
    (taken : connection.upsert results disk = (.ok counts, after)) :
    disk.Takes after connection.file results ∧ counts.results = results.length := by
  unfold upsert at taken
  split at taken
  · cases taken
  · next database found =>
      split at taken
      · cases taken
      · dsimp only at taken
        cases outcome : database.upsert results with
        | mk answer next =>
            rw [outcome] at taken
            obtain ⟨rfl, rfl⟩ := Prod.mk.inj taken
            refine ⟨⟨database, next, database?_eq_some.1 found, ?_,
              Database.takes_of_upsert outcome⟩, ?_⟩
            · exact (content?_put connection next disk _).trans (if_pos rfl)
            · unfold Database.upsert at outcome
              dsimp only at outcome
              split at outcome
              · cases outcome
              · split at outcome
                · cases outcome
                  rfl
                · split at outcome
                  · cases outcome
                    rfl
                  · cases outcome

/-- A transaction that takes effect leaves in the store what its last result of a file says. -/
theorem shows_of_upsert {counts : UpsertCounts} (nonempty : results ≠ [])
    (owns : ∀ result ∈ results, result.OwnsRows)
    (taken : connection.upsert results disk = (.ok counts, after)) :
    (last? result.filePath.spelling results = some result → after.Shows connection.file result) ∧
      (last? result.filePath.spelling results = none → disk.Shows connection.file result →
        after.Shows connection.file result) := by
  obtain ⟨⟨database, next, before, content, takes⟩, -⟩ := takes_of_upsert taken
  obtain ⟨none, -⟩ | ⟨store, tables, tables'⟩ := takes
  · exact absurd none nonempty
  refine ⟨fun last => ⟨next, _, content, tables', Store.shows_deliverAll owns last⟩, ?_⟩
  rintro none ⟨database', store', content', tables'', shows⟩
  rw [before] at content'
  cases content'
  rw [tables] at tables''
  cases tables''
  exact ⟨next, _, content, tables', shows.deliverAll owns none⟩

/-- A transaction that is refused changes nothing of the store. -/
theorem shows_of_refused {error : DatabaseError}
    (refused : connection.upsert results disk = (.error error, after))
    (shows : disk.Shows connection.file result) : after.Shows connection.file result := by
  unfold upsert at refused
  split at refused
  · cases refused
    exact shows
  · next database found =>
      split at refused
      · cases refused
        exact shows
      · dsimp only at refused
        cases outcome : database.upsert results with
        | mk answer next =>
            rw [outcome] at refused
            obtain ⟨rfl, rfl⟩ := Prod.mk.inj refused
            have same : next.store? = database.store? := by
              unfold Database.upsert at outcome
              dsimp only at outcome
              split at outcome
              · cases outcome
                rfl
              · split at outcome
                · cases outcome
                · split at outcome
                  · cases outcome
                  · cases outcome
                    rfl
            obtain ⟨database', store, before, tables, kept⟩ := shows
            rw [database?_eq_some.1 found] at before
            cases before
            exact ⟨next, store, (content?_put connection next disk _).trans (if_pos rfl),
              same.trans tables, kept⟩

end Connection

namespace Writer

variable {writer : Writer} {disk : Disk} {result : ExtractionResult}

/-- The writer stays the same one, and nothing that it has done is undone. -/
structure Continues (writer : Writer) (disk : Disk) (after : Writer × Disk) : Prop where
  /-- Its number stays. -/
  id : after.1.id = writer.id
  /-- Its connection stays. -/
  connection : after.1.connection = writer.connection
  /-- The path of its spill file stays. -/
  path : after.1.spill.path = writer.spill.path
  /-- Its spill file stays open. -/
  file : ∀ id, writer.spill.file = some id → after.1.spill.file = some id
  /-- Its spill file has a number. -/
  known : after.1.spill.Known after.2
  /-- Files evolve. -/
  evolves : disk.Evolves after.2
  /-- Lost results stay lost. -/
  losses : writer.losses <:+ after.1.losses
  /-- Refused transactions stay refused. -/
  failed : writer.stats.failedCommits ≤ after.1.stats.failedCommits

theorem Continues.refl (known : writer.spill.Known disk) : writer.Continues disk (writer, disk) :=
  ⟨rfl, rfl, rfl, fun _ file => file, known, Evolves.refl disk, List.suffix_rfl, Nat.le_refl _⟩

theorem Continues.of_keep {after : Writer × Disk}
    (continues : (writer.keep result).Continues disk after) : writer.Continues disk after :=
  ⟨continues.id, continues.connection, continues.path, continues.file, continues.known,
    continues.evolves, continues.losses, continues.failed⟩

theorem Continues.trans {middle after : Writer × Disk} (first : writer.Continues disk middle)
    (second : middle.1.Continues middle.2 after) : writer.Continues disk after where
  id := second.id.trans first.id
  connection := second.connection.trans first.connection
  path := second.path.trans first.path
  file id file := second.file id (first.file id file)
  known := second.known
  evolves := first.evolves.trans second.evolves
  losses := first.losses.trans second.losses
  failed := Nat.le_trans first.failed second.failed

/-- A writer has spilled results, or lost some of them. -/
structure HasSpilled (writer : Writer) (disk : Disk) (results : List ExtractionResult)
    (after : Writer × Disk) : Prop extends writer.Continues disk after where
  /-- Databases stay as they are. -/
  develops : disk.Develops after.2
  /-- The writer holds what it held, -/
  buffer : after.1.buffer = writer.buffer
  /-- it has left if it had left, -/
  finished : after.1.finished = writer.finished
  /-- and no more transactions were refused. -/
  failedCommits : after.1.stats.failedCommits = writer.stats.failedCommits
  /-- If none is lost, its file holds all results. -/
  holds : after.1.losses = [] → ∀ start : Disk, start.Evolves disk → ∀ result ∈ results,
    after.1.spill.HoldsSince start after.2 result

theorem hasSpilled_spillOne (numbered : disk.Numbered) (known : writer.spill.Known disk)
    (result : ExtractionResult) :
    writer.HasSpilled disk [result] (spillOne (writer, disk) result) := by
  have spills := SpillFile.spills_persist numbered known result
  unfold spillOne
  dsimp only
  split
  · next persisted =>
      rw [persisted] at spills
      exact
        ⟨⟨rfl, rfl, spills.path, spills.file, spills.known, spills.develops.toEvolves,
          List.suffix_rfl, Nat.le_refl _⟩, spills.develops, rfl, rfl, rfl,
          fun _ start since other mem => List.mem_singleton.1 mem ▸ spills.holds rfl start since⟩
  · next persisted =>
      rw [persisted] at spills
      exact
        ⟨⟨rfl, rfl, spills.path, spills.file, spills.known, spills.develops.toEvolves,
          List.suffix_cons _ _, Nat.le_refl _⟩, spills.develops, rfl, rfl, rfl, nofun⟩

theorem hasSpilled_foldl (numbered : disk.Numbered) (known : writer.spill.Known disk)
    (results : List ExtractionResult) :
    writer.HasSpilled disk results (results.foldl spillOne (writer, disk)) := by
  induction results generalizing writer disk with
  | nil => exact ⟨.refl known, Develops.refl disk, rfl, rfl, rfl, fun _ _ _ _ mem => nomatch mem⟩
  | cons result results induction =>
      have one := hasSpilled_spillOne numbered known result
      rw [List.foldl_cons]
      generalize spillOne (writer, disk) result = state at one ⊢
      obtain ⟨next, middle⟩ := state
      have rest := induction (one.develops.numbered numbered) one.known
      refine
        { toContinues := one.toContinues.trans rest.toContinues
          develops := one.develops.trans rest.develops
          buffer := rest.buffer.trans one.buffer
          finished := rest.finished.trans one.finished
          failedCommits := rest.failedCommits.trans one.failedCommits
          holds := fun none start since other mem => ?_ }
      rcases List.mem_cons.1 mem with rfl | mem
      · have none' : next.losses = [] := List.suffix_nil.1 (none ▸ rest.losses)
        have held := one.holds none' start since other List.mem_cons_self
        exact (held.evolves rest.evolves).congr rest.file
      · exact rest.holds none start (since.trans one.evolves) other mem

/-- The store shows a result, or the writer's spill file holds it because a transaction was
refused. -/
def Safe (start : Disk) (after : Writer × Disk) (result : ExtractionResult) : Prop :=
  after.2.Shows after.1.connection.file result ∨
    after.1.spill.HoldsSince start after.2 result ∧ 0 < after.1.stats.failedCommits

/-- A writer commits a batch with a result, and counts it. -/
def Commits (writer : Writer) (disk : Disk) (after : Writer × Disk) (result : ExtractionResult) :
    Prop :=
  ∃ batch, result ∈ batch ∧ after.1.stats.results = writer.stats.results + batch.length ∧
    disk.Takes after.2 writer.connection.file batch

/-- A writer goes on, and what was the last result of a file stays the last one. -/
structure Handles (writer : Writer) (disk : Disk) (after : Writer × Disk) : Prop
    extends writer.Continues disk after where
  /-- The last result of a file that the writer holds is held still, or safe. -/
  last : after.1.losses = [] → ∀ start : Disk, start.Evolves disk → ∀ result,
    last? result.filePath.spelling writer.buffer = some result →
      last? result.filePath.spelling after.1.buffer = some result ∨
        last? result.filePath.spelling after.1.buffer = none ∧ Safe start after result
  /-- What the store shows of a file of which the writer holds no result does not change. -/
  none : ∀ result, last? result.filePath.spelling writer.buffer = none →
    last? result.filePath.spelling after.1.buffer = none ∧
      (disk.Shows writer.connection.file result → after.2.Shows writer.connection.file result)
  /-- The writer holds nothing new, -/
  buffer : after.1.buffer ⊆ writer.buffer
  /-- and each result that it held it still holds, has spilled or has committed. -/
  each : after.1.losses = [] → ∀ start : Disk, start.Evolves disk → ∀ result ∈ writer.buffer,
    result ∈ after.1.buffer ∨ after.1.spill.HoldsSince start after.2 result ∨
      writer.Commits disk after result

theorem Handles.refl (known : writer.spill.Known disk) : writer.Handles disk (writer, disk) where
  toContinues := Continues.refl known
  last _ _ _ _ held := Or.inl held
  none _ held := ⟨held, fun shows => shows⟩
  buffer := List.Subset.refl _
  each _ _ _ _ mem := Or.inl mem

theorem handles_flush (numbered : disk.Numbered) (known : writer.spill.Known disk)
    (file : writer.connection.file < disk.nextFile)
    (owns : ∀ result ∈ writer.buffer, result.OwnsRows) :
    writer.Handles disk (writer.flush disk) ∧ (writer.flush disk).1.buffer = [] ∧
      (writer.flush disk).1.finished = writer.finished := by
  have evolves := Connection.evolves_upsert writer.connection writer.buffer disk
  unfold flush
  split
  · next empty => exact ⟨.refl known, List.isEmpty_iff.1 empty, rfl⟩
  · next full =>
      have nonempty : writer.buffer ≠ [] := fun none => full (by rw [none]; rfl)
      dsimp only
      split
      · next counts after taken =>
          rw [taken] at evolves
          refine ⟨?_, rfl, rfl⟩
          refine
            { id := rfl
              connection := rfl
              path := rfl
              file := fun _ file => file
              known := known.evolves evolves
              evolves := evolves
              losses := List.suffix_rfl
              failed := Nat.le_refl _
              last := fun _ _ _ result held => ?_
              none := fun result held => ⟨rfl, ?_⟩
              buffer := List.nil_subset _
              each := fun _ _ _ result mem => Or.inr (Or.inr ?_) }
          · exact Or.inr ⟨rfl, Or.inl ((Connection.shows_of_upsert nonempty owns taken).1 held)⟩
          · exact (Connection.shows_of_upsert nonempty owns taken).2 held
          · obtain ⟨takes, counted⟩ := Connection.takes_of_upsert taken
            exact ⟨writer.buffer, mem, congrArg (writer.stats.results + ·) counted, takes⟩
      · next error after refused =>
          rw [refused] at evolves
          have shown (result : ExtractionResult) := @Connection.shows_of_refused
            writer.connection disk after writer.buffer result error refused
          let emptied : Writer := { writer with buffer := [], bufferedRows := 0 }
          have known' : emptied.refused.spill.Known after := known.evolves evolves
          have spilled := hasSpilled_foldl (evolves.numbered numbered) known' writer.buffer
          have failed := spilled.failedCommits
          refine ⟨?_, spilled.buffer, spilled.finished⟩
          refine
            { id := spilled.id
              connection := spilled.connection
              path := spilled.path
              file := spilled.file
              known := spilled.known
              evolves := evolves.trans spilled.evolves
              losses := spilled.losses
              failed := Nat.le_trans (Nat.le_succ _) (Nat.le_of_eq failed.symm)
              last := fun none start since result held => ?_
              none := fun result held => ?_
              buffer := by rw [spilled.buffer]; exact List.nil_subset _
              each := fun none start since result mem =>
                Or.inr (Or.inl (spilled.holds none start (since.trans evolves) result mem)) }
          · have holds :=
              spilled.holds none start (since.trans evolves) result (last?_eq_some held).1
            refine Or.inr ⟨by rw [spilled.buffer]; rfl, Or.inr ⟨holds, ?_⟩⟩
            exact Nat.lt_of_lt_of_le (Nat.succ_pos _) (Nat.le_of_eq failed.symm)
          · refine ⟨by rw [spilled.buffer]; rfl, fun shows => ?_⟩
            exact (shown result shows).develops (Nat.lt_of_lt_of_le file evolves.nextFile)
              spilled.develops

theorem handles_leave (numbered : disk.Numbered) (known : writer.spill.Known disk)
    (file : writer.connection.file < disk.nextFile)
    (owns : ∀ result ∈ writer.buffer, result.OwnsRows) :
    writer.Handles disk (writer.leave disk) ∧ (writer.leave disk).1.buffer = [] ∧
      (writer.leave disk).1.finished = true := by
  obtain ⟨handles, empty, -⟩ := handles_flush numbered known file owns
  have continues := handles.toContinues
  refine ⟨?_, empty, rfl⟩
  exact
    { id := continues.id
      connection := continues.connection
      path := continues.path
      file := continues.file
      known := continues.known
      evolves := continues.evolves
      losses := continues.losses
      failed := continues.failed
      last := handles.last
      none := handles.none
      buffer := handles.buffer
      each := handles.each }

theorem handles_accept (numbered : disk.Numbered) (known : writer.spill.Known disk)
    (file : writer.connection.file < disk.nextFile)
    (owns : ∀ result ∈ writer.buffer, result.OwnsRows) (owns' : result.OwnsRows) :
    (writer.keep result).Handles disk (writer.accept disk (.result result)) ∧
      (writer.accept disk (.result result)).1.finished = writer.finished := by
  unfold accept
  dsimp only
  split
  · have owned : ∀ other ∈ (writer.keep result).buffer, other.OwnsRows := by
      intro other mem
      rcases List.mem_append.1 mem with mem | mem
      · exact owns other mem
      · rw [List.mem_singleton.1 mem]
        exact owns'
    have flushed := @handles_flush (writer.keep result) disk numbered known file owned
    exact ⟨flushed.1, flushed.2.2⟩
  · exact ⟨.refl known, rfl⟩

/-! ## Several writers -/

/-- How many results a writer answers for: those that it holds, and those that it has committed,
spilled or given up on. -/
def answered (writer : Writer) : Nat :=
  writer.buffer.length + writer.stats.results + writer.stats.spilled + writer.losses.length

theorem answered_foldl_spillOne (results : List ExtractionResult) (state : Writer × Disk) :
    (results.foldl spillOne state).1.answered = state.1.answered + results.length := by
  have one (state : Writer × Disk) (result : ExtractionResult) :
      (spillOne state result).1.answered = state.1.answered + 1 := by
    unfold spillOne
    dsimp only
    split
    · simp only [answered]
      omega
    · simp only [answered, List.length_cons]
      omega
  induction results generalizing state with
  | nil => rfl
  | cons result results induction =>
      rw [List.foldl_cons, induction, one, List.length_cons]
      omega

theorem answered_flush (writer : Writer) (disk : Disk) :
    (writer.flush disk).1.answered = writer.answered := by
  unfold flush
  split
  · rfl
  · dsimp only
    split
    · next counts after taken =>
        have counted := (Connection.takes_of_upsert taken).2
        simp only [answered, committed, counted, List.length_nil]
        omega
    · rw [answered_foldl_spillOne]
      simp only [answered, refused, List.length_nil]
      omega

/-- A result that comes is one more to answer for. -/
theorem answered_accept (writer : Writer) (disk : Disk) (result : ExtractionResult) :
    (writer.accept disk (.result result)).1.answered = writer.answered + 1 := by
  have kept : (writer.keep result).answered = writer.answered + 1 := by
    simp only [answered, keep, List.length_append, List.length_singleton]
    omega
  unfold accept
  dsimp only
  split
  · rw [answered_flush, kept]
  · exact kept

/-- A writer that leaves holds nothing. -/
theorem buffer_leave (writer : Writer) (disk : Disk) : (writer.leave disk).1.buffer = [] := by
  have spilled (results : List ExtractionResult) (state : Writer × Disk) :
      (results.foldl spillOne state).1.buffer = state.1.buffer := by
    induction results generalizing state with
    | nil => rfl
    | cons result results induction =>
        rw [List.foldl_cons, induction, spillOne]
        dsimp only
        split <;> rfl
  rw [leave]
  dsimp only
  unfold flush
  split
  · next empty => exact List.isEmpty_iff.1 empty
  · dsimp only
    split
    · rfl
    · exact spilled _ _

end Writer

namespace Writers

variable {state : List Writer × Disk} {results : List ExtractionResult}

theorem length_submit (state : List Writer × Disk) (result : ExtractionResult) :
    (submit state result).1.length = state.1.length := by
  unfold submit
  dsimp only
  split
  · rfl
  · exact List.length_set

/-- A result goes to the writer of its path and to no other. -/
theorem answered_submit (state : List Writer × Disk) (result : ExtractionResult) (shard : Nat) :
    ((submit state result).1[shard]?).map (·.answered) =
      (state.1[shard]?).map (·.answered +
        if shardOf result.filePath state.1.length = shard then 1 else 0) := by
  unfold submit
  dsimp only
  split
  · next missing =>
      by_cases own : shardOf result.filePath state.1.length = shard
      · rw [← own, missing]
        rfl
      · simp only [if_neg own, Nat.add_zero]
  · next writer found =>
      by_cases own : shardOf result.filePath state.1.length = shard
      · subst own
        rw [List.getElem?_set_self (List.getElem?_eq_some_iff.1 found).1, found, if_pos rfl]
        exact congrArg some (writer.answered_accept state.2 result)
      · rw [List.getElem?_set_ne own]
        simp only [if_neg own, Nat.add_zero]

/-- Each writer answers for the results of its paths. -/
theorem answered_foldl_submit (results : List ExtractionResult) (state : List Writer × Disk)
    (shard : Nat) :
    ((results.foldl submit state).1[shard]?).map (·.answered) =
      (state.1[shard]?).map (·.answered +
        results.countP (shardOf ·.filePath state.1.length == shard)) := by
  induction results generalizing state with
  | nil => rfl
  | cons result results induction =>
      have one := congrArg (Option.map (· +
        results.countP (shardOf ·.filePath state.1.length == shard)))
        (answered_submit state result shard)
      rw [Option.map_map, Option.map_map] at one
      rw [List.foldl_cons, induction, length_submit]
      refine one.trans (congrArg (Option.map · _) (funext fun writer => ?_))
      simp only [Function.comp_apply, List.countP_cons, beq_iff_eq]
      omega

/-- Writers that leave go on answering for the same results, and hold none of them any more. -/
theorem answered_shutdown (writers : List Writer) (disk : Disk) :
    (shutdown writers disk).1.map (·.answered) = writers.map (·.answered) ∧
      ∀ writer ∈ (shutdown writers disk).1, writer.buffer = [] := by
  induction writers generalizing disk with
  | nil => exact ⟨rfl, List.forall_mem_nil _⟩
  | cons writer writers induction =>
      obtain ⟨answer, empty⟩ := induction (writer.leave disk).2
      rw [shutdown]
      exact ⟨congrArg₂ List.cons (writer.answered_flush disk) answer,
        List.forall_mem_cons.2 ⟨writer.buffer_leave disk, empty⟩⟩

/-- Once results were submitted and all writers have left, each writer has committed, spilled or
given up on as many as were of its paths. -/
theorem settled_of_shutdown {writers left : List Writer} {disk last : Disk}
    (idle : ∀ writer ∈ writers, writer.answered = 0) (results : List ExtractionResult)
    (ended : shutdown (results.foldl submit (writers, disk)).1
      (results.foldl submit (writers, disk)).2 = (left, last)) {shard : Nat} {writer : Writer}
    (found : left[shard]? = some writer) :
    writer.stats.results + writer.stats.spilled + writer.losses.length =
      results.countP (shardOf ·.filePath writers.length == shard) := by
  obtain ⟨same, empty⟩ := answered_shutdown (results.foldl submit (writers, disk)).1
    (results.foldl submit (writers, disk)).2
  rw [ended] at same empty
  have answers := answered_foldl_submit results (writers, disk) shard
  rw [← List.getElem?_map, ← same, List.getElem?_map, found, Option.map_some] at answers
  obtain ⟨start, there, sum⟩ := Option.map_eq_some_iff.1 answers.symm
  rw [idle start (List.mem_of_getElem? there), Nat.zero_add] at sum
  rw [sum, Writer.answered, empty writer (List.mem_of_getElem? found), List.length_nil,
    Nat.zero_add]

end Writers

end PartsList
