import PartsList.Job.Writer
import PartsList.Proofs.Spill.Appending
import PartsList.Proofs.Store.Connecting
import PartsList.Proofs.Store.LastDelivery

/-!
# What becomes of batches

However a writer cuts the results that it receives into batches, the store ends as if the results of
the batches that it took had come one by one.  Of a batch that it refused each result is appended to
the writer's spill file, once and in the order in which they came, and only one whose append fails
is lost.
-/

namespace PartsList

open Disk

namespace Connection

variable {connection : Connection} {disk after : Disk} {results : List ExtractionResult}
  {file : Option FileId} {bytes : List UInt8}

/-- The store behind a connection, if there is one. -/
def store? (connection : Connection) (disk : Disk) : Option Store :=
  (connection.database? disk).bind Database.store?

theorem store?_put (connection : Connection) (database : Database) (disk : Disk) :
    connection.store? (connection.put database disk) = database.store? := by
  have found : connection.database? (connection.put database disk) = some database :=
    database?_eq_some.2 ((content?_put connection database disk _).trans (if_pos rfl))
  rw [store?, found]
  rfl

theorem gains_put (connection : Connection) (database : Database) (disk : Disk)
    (file : Option FileId) :
    Gains (· ≠ connection.file) disk (connection.put database disk) file [] where
  nextFile := Nat.le_refl _
  numbered numbered := numbered
  entries _ _ there := there
  old id _ other := by
    rw [content?_put, if_neg other]
    simp only [shareOf_nil, Content.append_nil, Option.map_id_fun']
    rfl
  new _ new old := absurd new (Nat.not_le_of_lt old)

/-- A transaction takes effect as a whole and is counted, or leaves the store alone. -/
theorem settles_upsert (connection : Connection) (results : List ExtractionResult) (disk : Disk)
    (file : Option FileId) :
    match connection.upsert results disk with
    | (.ok counts, after) =>
      counts = .ofResults results ∧ Gains (· ≠ connection.file) disk after file [] ∧
        connection.store? after = (connection.store? disk).map (·.deliverAll results)
    | (.error _, after) => Gains (· ≠ connection.file) disk after file [] ∧
        connection.store? after = connection.store? disk := by
  unfold upsert
  cases found : connection.database? disk with
  | none => exact ⟨.refl _ disk file, rfl⟩
  | some database =>
      have before : connection.store? disk = database.store? := by rw [store?, found]; rfl
      have settles := database.settles_upsert results
      dsimp only
      by_cases barred : (connection.readOnly && !results.isEmpty) = true
      · rw [if_pos barred]
        exact ⟨.refl _ disk file, rfl⟩
      · rw [if_neg barred]
        cases outcome : database.upsert results with
        | mk answer next =>
            rw [outcome] at settles
            have put := gains_put connection next disk file
            cases answer with
            | error error =>
                exact ⟨put, (store?_put connection next disk).trans (settles.trans before.symm)⟩
            | ok counts =>
                refine ⟨settles.1, put, (store?_put connection next disk).trans ?_⟩
                rw [before]
                exact settles.2

/-- Adding to a file leaves the store alone. -/
theorem store?_of_gains (gains : Gains (fun _ => True) disk after file bytes)
    (known : connection.file < disk.nextFile) :
    connection.store? after = connection.store? disk := by
  have same : connection.database? after = connection.database? disk := by
    unfold database?
    rw [gains.old _ known trivial]
    cases disk.content? connection.file with
    | none => rfl
    | some content => cases content <;> rfl
  rw [store?, store?, same]

end Connection

/-- A batch that a writer has flushed. -/
structure Batch where
  /-- The results in the order in which they came. -/
  results : List ExtractionResult
  /-- The spill file and the disk that the writer found. -/
  before : SpillFile × Disk
  /-- The spill file and the disk that it left. -/
  after : SpillFile × Disk
  /-- What it appended to the spill file, one after the other. -/
  appends : List Append

namespace Batch

variable {connection : Connection} {batches : List Batch} {first middle last : SpillFile × Disk}

/-- The database took the batch. -/
def isCommitted (connection : Connection) (batch : Batch) : Bool :=
  match (connection.upsert batch.results batch.before.2).1 with
  | .ok _ => true
  | .error _ => false

/-- The results that the database took, batch by batch. -/
def delivered (connection : Connection) (batches : List Batch) : List ExtractionResult :=
  (batches.filter (·.isCommitted connection)).flatMap (·.results)

/-- The results that the database refused, batch by batch. -/
def refused (connection : Connection) (batches : List Batch) : List ExtractionResult :=
  (batches.filter (!·.isCommitted connection)).flatMap (·.results)

theorem delivered_cons (connection : Connection) (batch : Batch) (batches : List Batch) :
    delivered connection (batch :: batches) =
      (if batch.isCommitted connection then batch.results else []) ++
        delivered connection batches := by
  cases taken : batch.isCommitted connection <;> simp [delivered, taken]

theorem refused_cons (connection : Connection) (batch : Batch) (batches : List Batch) :
    refused connection (batch :: batches) =
      (if batch.isCommitted connection then [] else batch.results) ++
        refused connection batches := by
  cases taken : batch.isCommitted connection <;> simp [refused, taken]

theorem delivered_append (connection : Connection) (batches more : List Batch) :
    delivered connection (batches ++ more) =
      delivered connection batches ++ delivered connection more := by
  simp [delivered]

/-- The store holds all results of the batch, and nothing is spilled, or the store is as it was, and
each of the results was appended to the spill file, in their order. -/
structure Settled (connection : Connection) (batch : Batch) : Prop where
  /-- The batch holds something. -/
  full : batch.results ≠ []
  /-- A batch that the database took. -/
  commits : batch.isCommitted connection = true →
    connection.store? batch.after.2 =
      (connection.store? batch.before.2).map (·.deliverAll batch.results) ∧
    batch.after.1 = batch.before.1 ∧ batch.appends = []
  /-- A batch that the database refused. -/
  refuses : batch.isCommitted connection = false →
    connection.store? batch.after.2 = connection.store? batch.before.2 ∧
    batch.appends.map (·.result) = batch.results ∧
    batch.before.1.Appends (connection.upsert batch.results batch.before.2).2 batch.appends
      batch.after.1 batch.after.2

/-- The batches were flushed one after the other, and between them neither the spill file nor the
disk changed. -/
def Joins : SpillFile × Disk → List Batch → SpillFile × Disk → Prop
  | first, [], last => last = first
  | first, batch :: batches, last => batch.before = first ∧ Joins batch.after batches last

theorem Joins.append {more : List Batch} (joins : Joins first batches middle)
    (joins' : Joins middle more last) : Joins first (batches ++ more) last := by
  induction batches generalizing first with
  | nil =>
      cases joins
      exact joins'
  | cons batch batches induction => exact ⟨joins.1, induction joins.2⟩

/-- The store ends as if the results of the batches that were taken had come one by one. -/
theorem Joins.store?_eq (joins : Joins first batches last)
    (settled : ∀ batch ∈ batches, batch.Settled connection) :
    connection.store? last.2 =
      (connection.store? first.2).map (·.deliverAll (delivered connection batches)) := by
  induction batches generalizing first with
  | nil =>
      cases joins
      exact Option.map_id_apply.symm
  | cons batch batches induction =>
      obtain ⟨rfl, joins⟩ := joins
      have own := settled batch List.mem_cons_self
      rw [induction joins fun other mem => settled other (List.mem_cons_of_mem _ mem),
        delivered_cons]
      cases taken : batch.isCommitted connection with
      | true =>
          rw [(own.commits taken).1, if_pos rfl, Option.map_map]
          exact congrArg (Option.map · _) (funext fun store => (store.deliverAll_append _ _).symm)
      | false =>
          rw [(own.refuses taken).1, if_neg Bool.false_ne_true]
          rfl

theorem length_delivered_add_refused (connection : Connection) (batches : List Batch) :
    (delivered connection batches).length + (refused connection batches).length =
      (batches.flatMap (·.results)).length := by
  induction batches with
  | nil => rfl
  | cons batch batches induction =>
      rw [delivered_cons, refused_cons, List.flatMap_cons, List.length_append, List.length_append,
        List.length_append, ← induction]
      split <;> simp only [List.length_nil] <;> omega

/-- What was appended, batch by batch. -/
def appended (batches : List Batch) : List Append :=
  batches.flatMap (·.appends)

theorem appended_append (batches more : List Batch) :
    appended (batches ++ more) = appended batches ++ appended more :=
  List.flatMap_append

/-- Exactly the refused results were appended, in the order in which they came. -/
theorem map_appended (settled : ∀ batch ∈ batches, batch.Settled connection) :
    (appended batches).map (·.result) = refused connection batches := by
  induction batches with
  | nil => rfl
  | cons batch batches induction =>
      have own := settled batch List.mem_cons_self
      rw [appended, List.flatMap_cons, List.map_append, ← appended, refused_cons,
        induction fun other mem => settled other (List.mem_cons_of_mem _ mem)]
      cases taken : batch.isCommitted connection with
      | true => rw [(own.commits taken).2.2, if_pos rfl, List.map_nil]
      | false => rw [(own.refuses taken).2.1, if_neg Bool.false_ne_true]

theorem delivered_eq (all : ∀ batch ∈ batches, batch.isCommitted connection = true) :
    delivered connection batches = batches.flatMap (·.results) := by
  rw [delivered, List.filter_eq_self.2 all]

end Batch

namespace Writer

/-- What happens to a writer: a result comes, or none comes for as long as a batch is held. -/
inductive Arrival
  /-- A result. -/
  | result (result : ExtractionResult)
  /-- No result for a while. -/
  | pause

/-- The writer after an arrival. -/
def handle (state : Writer × Disk) : Arrival → Writer × Disk
  | .result result => state.1.accept state.2 (.result result)
  | .pause => state.1.flush state.2

/-- The writer after several arrivals. -/
def handleAll (state : Writer × Disk) (arrivals : List Arrival) : Writer × Disk :=
  arrivals.foldl handle state

/-- The results that came. -/
def received : List Arrival → List ExtractionResult
  | [] => []
  | .result result :: arrivals => result :: received arrivals
  | .pause :: arrivals => received arrivals

theorem received_append (arrivals more : List Arrival) :
    received (arrivals ++ more) = received arrivals ++ received more := by
  induction arrivals with
  | nil => rfl
  | cons arrival arrivals induction => cases arrival <;> simp [received, induction]

variable {start writer : Writer} {disk : Disk} {batches : List Batch} {state : Writer × Disk}

/-- The writer with another spill file, another count of what it spilled and other losses. -/
def withSpilling (writer : Writer) (spill : SpillFile) (spilled : Nat)
    (losses : List (Path × SpillError)) : Writer :=
  { writer with
    spill := spill
    stats := { writer.stats with spilled := spilled }
    losses := losses }

theorem spillOne_of_ok {next : SpillFile} {middle : Disk} {result : ExtractionResult}
    (persists : writer.spill.persist result disk = (.ok (), next, middle)) :
    spillOne (writer, disk) result =
      (writer.withSpilling next (writer.stats.spilled + 1) writer.losses, middle) := by
  rw [spillOne, persists]
  rfl

theorem spillOne_of_error {error : SpillError} {next : SpillFile} {middle : Disk}
    {result : ExtractionResult}
    (persists : writer.spill.persist result disk = (.error error, next, middle)) :
    spillOne (writer, disk) result =
      (writer.withSpilling next writer.stats.spilled ((result.filePath, error) :: writer.losses),
        middle) := by
  rw [spillOne, persists]
  rfl

/-- What a writer did with results that it spills. -/
structure SpillsEach (writer : Writer) (disk : Disk) (appends : List Append)
    (after : Writer × Disk) : Prop where
  /-- They are appended to its file. -/
  appended : writer.spill.Appends disk appends after.1.spill after.2
  /-- Those that are spilled are counted. -/
  spilled : after.1.stats.spilled = writer.stats.spilled + appends.countP Append.isKept
  /-- Of the others the log is told. -/
  losses : after.1.losses = (appends.filterMap Append.loss?).reverse ++ writer.losses
  /-- Nothing else about the writer changes. -/
  same : after.1.withSpilling writer.spill writer.stats.spilled writer.losses = writer

/-- A result that is spilled is appended in front of those that come after it. -/
theorem SpillsEach.cons {answer : Except SpillError Unit} {next : SpillFile} {middle : Disk}
    {result : ExtractionResult} {part : List UInt8} {appends : List Append} {after : Writer × Disk}
    (persists : writer.spill.persist result disk = (answer, next, middle))
    (most : part <+: SpillFile.lineBytes result)
    (whole : answer = .ok () → part = SpillFile.lineBytes result)
    (adds : writer.spill.Adds (fun _ => True) disk part next middle)
    (rest : (spillOne (writer, disk) result).1.SpillsEach (spillOne (writer, disk) result).2 appends
      after) : writer.SpillsEach disk (⟨result, answer, part⟩ :: appends) after := by
  have same := congrArg (withSpilling · writer.spill writer.stats.spilled writer.losses) rest.same
  cases answer with
  | ok =>
      rw [spillOne_of_ok persists] at rest same
      have kept : Append.isKept ⟨result, .ok (), part⟩ = true := rfl
      refine ⟨.cons persists adds most whole rest.appended, ?_, rest.losses, same⟩
      rw [rest.spilled, List.countP_cons_of_pos kept]
      exact Nat.add_right_comm _ _ _
  | error error =>
      rw [spillOne_of_error persists] at rest same
      have lost : Append.loss? ⟨result, .error error, part⟩ = some (result.filePath, error) := rfl
      refine ⟨.cons persists adds most whole rest.appended, rest.spilled, ?_, same⟩
      rw [rest.losses, List.filterMap_cons_some lost, List.reverse_cons, List.append_assoc]
      rfl

theorem exists_spillsEach (numbered : disk.Numbered) (known : writer.spill.Known disk)
    (attached : writer.spill.Attached disk) (results : List ExtractionResult) :
    ∃ appends, appends.map (·.result) = results ∧
      writer.SpillsEach disk appends (results.foldl spillOne (writer, disk)) := by
  induction results generalizing writer disk with
  | nil => exact ⟨[], rfl, .nil, rfl, rfl, rfl⟩
  | cons result results induction =>
      obtain ⟨part, most, whole, adds⟩ :=
        @SpillFile.adds_persist (fun _ => True) _ _ numbered known attached result
      cases persists : writer.spill.persist result disk with
      | mk answer rest =>
          obtain ⟨next, middle⟩ := rest
          rw [persists] at whole adds
          have state : (spillOne (writer, disk) result).1.spill = next ∧
              (spillOne (writer, disk) result).2 = middle := by
            rw [spillOne, persists]
            cases answer <;> exact ⟨rfl, rfl⟩
          obtain ⟨appends, same, spills⟩ := @induction (spillOne (writer, disk) result).1
            (spillOne (writer, disk) result).2 (state.2 ▸ adds.gains.numbered numbered)
            (state.1 ▸ state.2 ▸ adds.known) (state.1 ▸ state.2 ▸ adds.attached)
          exact ⟨⟨result, answer, part⟩ :: appends, by rw [List.map_cons, same],
            .cons persists most whole adds spills⟩

/-- A writer went on, and flushed batches on the way. -/
structure Books (writer : Writer) (disk : Disk) (batches : List Batch) (after : Writer × Disk) :
    Prop where
  /-- Its connection stays. -/
  connection : after.1.connection = writer.connection
  /-- The size of its batches stays. -/
  batchRows : after.1.batchRows = writer.batchRows
  /-- Each batch is in the store as a whole, or none of it, and then each of its results is appended
  to the spill file. -/
  settled : ∀ batch ∈ batches, batch.Settled writer.connection
  /-- Only the batches changed the spill file and the disk. -/
  joins : Batch.Joins (writer.spill, disk) batches (after.1.spill, after.2)
  /-- What was appended is added to its file, and no other file changes but that of the database. -/
  adds : writer.spill.Adds (· ≠ writer.connection.file) disk
    ((Batch.appended batches).flatMap (·.added)) after.1.spill after.2
  /-- The results that the database took are counted, -/
  results : after.1.stats.results =
    writer.stats.results + (Batch.delivered writer.connection batches).length
  /-- their rows, -/
  rows : after.1.stats.rows =
    writer.stats.rows + (UpsertCounts.ofResults (Batch.delivered writer.connection batches)).rows
  /-- the batches that it took, -/
  commits : after.1.stats.commits =
    writer.stats.commits + batches.countP (·.isCommitted writer.connection)
  /-- those that it refused, -/
  failedCommits : after.1.stats.failedCommits =
    writer.stats.failedCommits + batches.countP (!·.isCommitted writer.connection)
  /-- and the appends that succeeded; -/
  spilled : after.1.stats.spilled =
    writer.stats.spilled + (Batch.appended batches).countP Append.isKept
  /-- of those that failed the log is told. -/
  losses : after.1.losses =
    ((Batch.appended batches).filterMap Append.loss?).reverse ++ writer.losses

theorem Books.refl (known : writer.spill.Known disk) (attached : writer.spill.Attached disk) :
    writer.Books disk [] (writer, disk) where
  connection := rfl
  batchRows := rfl
  settled _ mem := absurd mem List.not_mem_nil
  joins := rfl
  adds := .of_gains known attached (.refl _ _ _)
  results := rfl
  rows := rfl
  commits := rfl
  failedCommits := rfl
  spilled := rfl
  losses := rfl

theorem Books.trans {middle after : Writer × Disk} {more : List Batch}
    (first : writer.Books disk batches middle) (second : middle.1.Books middle.2 more after) :
    writer.Books disk (batches ++ more) after := by
  have settled := second.settled
  have adds := second.adds
  have results := second.results
  have rows := second.rows
  have commits := second.commits
  have failedCommits := second.failedCommits
  rw [first.connection] at settled adds results rows commits failedCommits
  have added := first.adds.trans adds
  rw [← List.flatMap_append, ← Batch.appended_append] at added
  refine ⟨second.connection.trans first.connection, second.batchRows.trans first.batchRows,
    fun batch mem => (List.mem_append.1 mem).elim (first.settled batch) (settled batch),
    first.joins.append second.joins, added, ?_, ?_, ?_, ?_, ?_, ?_⟩
  · rw [results, first.results, Batch.delivered_append, List.length_append, Nat.add_assoc]
  · rw [rows, first.rows, Batch.delivered_append, UpsertCounts.rows_append, Nat.add_assoc]
  · rw [commits, first.commits, List.countP_append, Nat.add_assoc]
  · rw [failedCommits, first.failedCommits, List.countP_append, Nat.add_assoc]
  · rw [second.spilled, first.spilled, Batch.appended_append, List.countP_append, Nat.add_assoc]
  · rw [second.losses, first.losses, Batch.appended_append, List.filterMap_append,
      List.reverse_append, List.append_assoc]

/-- The writer without the results that it holds. -/
def emptied (writer : Writer) : Writer :=
  { writer with
    buffer := []
    bufferedRows := 0 }

theorem books_of_committed {counts : UpsertCounts} {after : Disk} (full : writer.buffer ≠ [])
    (known : writer.spill.Known disk) (attached : writer.spill.Attached disk)
    (commits : writer.connection.upsert writer.buffer disk = (.ok counts, after)) :
    writer.Books disk [⟨writer.buffer, (writer.spill, disk), (writer.spill, after), []⟩]
      (writer.emptied.committed counts, after) := by
  have settles := writer.connection.settles_upsert writer.buffer disk writer.spill.file
  rw [commits] at settles
  obtain ⟨rfl, gains, store⟩ := settles
  let batch : Batch := ⟨writer.buffer, (writer.spill, disk), (writer.spill, after), []⟩
  have taken : batch.isCommitted writer.connection = true := by rw [Batch.isCommitted, commits]
  have delivered : Batch.delivered writer.connection [batch] = writer.buffer := by
    simp [Batch.delivered, taken, batch]
  refine ⟨rfl, rfl, fun other mem => ?_, ⟨rfl, rfl⟩, .of_gains known attached gains, ?_, ?_, ?_, ?_,
    rfl, rfl⟩
  · rw [List.mem_singleton.1 mem]
    exact ⟨full, fun _ => ⟨store, rfl, rfl⟩, fun refused => absurd (taken.symm.trans refused) nofun⟩
  · rw [delivered]
    rfl
  · rw [delivered]
    rfl
  · rw [List.countP_singleton, if_pos taken]
    rfl
  · rw [List.countP_singleton, taken]
    rfl

theorem exists_books_of_refused {error : DatabaseError} {after : Disk} (full : writer.buffer ≠ [])
    (numbered : disk.Numbered) (old : writer.connection.file < disk.nextFile)
    (known : writer.spill.Known disk) (attached : writer.spill.Attached disk)
    (refuses : writer.connection.upsert writer.buffer disk = (.error error, after)) :
    let last := writer.buffer.foldl spillOne (writer.emptied.refused, after)
    ∃ appends,
      writer.Books disk
        [⟨writer.buffer, (writer.spill, disk), (last.1.spill, last.2), appends⟩] last ∧
      writer.emptied.refused.SpillsEach after appends last := by
  have settles := writer.connection.settles_upsert writer.buffer disk writer.spill.file
  rw [refuses] at settles
  obtain ⟨gains, store⟩ := settles
  have undone : writer.spill.Adds (· ≠ writer.connection.file) disk [] writer.spill after :=
    .of_gains known attached gains
  intro last
  obtain ⟨appends, each, spills⟩ : ∃ appends, appends.map (·.result) = writer.buffer ∧
      writer.emptied.refused.SpillsEach after appends last :=
    @exists_spillsEach writer.emptied.refused after (gains.numbered numbered) undone.known
      undone.attached writer.buffer
  refine ⟨appends, ?_, spills⟩
  let batch : Batch := ⟨writer.buffer, (writer.spill, disk), (last.1.spill, last.2), appends⟩
  have untaken : batch.isCommitted writer.connection = false := by rw [Batch.isCommitted, refuses]
  have delivered : Batch.delivered writer.connection [batch] = [] := by
    simp [Batch.delivered, untaken]
  have appended : Batch.appended [batch] = appends := List.flatMap_singleton _ _
  have added :
      writer.spill.Adds (fun _ => True) after (appends.flatMap (·.added)) last.1.spill last.2 :=
    spills.appended.adds undone.known undone.attached
  have still : writer.connection.store? last.2 = writer.connection.store? after :=
    Connection.store?_of_gains added.gains (Nat.lt_of_lt_of_le old gains.nextFile)
  have same {α : Type} (field : Writer → α) :
      field (last.1.withSpilling writer.spill writer.stats.spilled writer.losses) =
        field writer.emptied.refused := congrArg field spills.same
  refine ⟨same (·.connection), same (·.batchRows), fun other mem => ?_, ⟨rfl, rfl⟩, ?_,
    (same (·.stats.results)).trans ?_, (same (·.stats.rows)).trans ?_,
    (same (·.stats.commits)).trans ?_, (same (·.stats.failedCommits)).trans ?_, ?_, ?_⟩
  · rw [List.mem_singleton.1 mem]
    refine ⟨full, fun taken => absurd (untaken.symm.trans taken) nofun, fun _ =>
      ⟨still.trans store, each, ?_⟩⟩
    rw [refuses]
    exact spills.appended
  · rw [appended]
    exact undone.trans (added.mono fun _ _ => trivial)
  · rw [delivered]
    rfl
  · rw [delivered]
    rfl
  · rw [List.countP_singleton, untaken]
    rfl
  · rw [List.countP_singleton, untaken]
    rfl
  · rw [appended]
    exact spills.spilled
  · rw [appended]
    exact spills.losses

/-- A writer that commits or spills what it holds has flushed one batch, if it held anything. -/
theorem exists_books_flush (numbered : disk.Numbered) (old : writer.connection.file < disk.nextFile)
    (known : writer.spill.Known disk) (attached : writer.spill.Attached disk) :
    ∃ batches, writer.Books disk batches (writer.flush disk) ∧
      batches.flatMap (·.results) = writer.buffer ∧ (writer.flush disk).1.buffer = [] ∧
      (writer.buffer = [] ∧ (writer.flush disk).1 = writer ∨
        (writer.flush disk).1.bufferedRows = 0) := by
  by_cases empty : writer.buffer = []
  · have none : writer.flush disk = (writer, disk) := by rw [flush, empty]; rfl
    rw [none]
    exact ⟨[], .refl known attached, empty.symm, empty, Or.inl ⟨empty, rfl⟩⟩
  · cases outcome : writer.connection.upsert writer.buffer disk with
    | mk answer after =>
        cases answer with
        | ok counts =>
            have flushed : writer.flush disk = (writer.emptied.committed counts, after) := by
              rw [flush, if_neg (by simpa using empty)]
              dsimp only
              rw [outcome]
              rfl
            rw [flushed]
            exact ⟨_, books_of_committed empty known attached outcome, List.flatMap_singleton _ _,
              rfl, Or.inr rfl⟩
        | error error =>
            have flushed : writer.flush disk =
                writer.buffer.foldl spillOne (writer.emptied.refused, after) := by
              rw [flush, if_neg (by simpa using empty)]
              dsimp only
              rw [outcome]
              rfl
            rw [flushed]
            obtain ⟨appends, books, spills⟩ :=
              exists_books_of_refused empty numbered old known attached outcome
            exact ⟨_, books, List.flatMap_singleton _ _, congrArg (·.buffer) spills.same,
              Or.inr (congrArg (·.bufferedRows) spills.same)⟩

/-- A writer that waits has received some results: batches that it flushed, and then what it holds.
It counts the rows that it holds, and holds less than a full batch. -/
structure Waits (start : Writer) (disk : Disk) (results : List ExtractionResult)
    (state : Writer × Disk) : Prop where
  /-- What it did with the results. -/
  books : ∃ batches, start.Books disk batches state ∧
    batches.flatMap (·.results) ++ state.1.buffer = results
  /-- The rows that it holds are counted. -/
  bufferedRows : state.1.bufferedRows = (state.1.buffer.map ExtractionResult.rowCount).sum
  /-- It holds few rows, -/
  fewRows : state.1.bufferedRows < state.1.batchRows
  /-- and few results. -/
  few : state.1.buffer.length < state.1.batchRows

/-- A writer that has flushed what it held waits, or leaves, with nothing. -/
theorem exists_books_of_flush {results : List ExtractionResult} (numbered : disk.Numbered)
    (old : start.connection.file < disk.nextFile)
    (books : ∃ batches, start.Books disk batches state ∧
      batches.flatMap (·.results) ++ state.1.buffer = results)
    (bufferedRows : state.1.bufferedRows = (state.1.buffer.map ExtractionResult.rowCount).sum) :
    ∃ batches, start.Books disk batches (state.1.flush state.2) ∧
      batches.flatMap (·.results) = results ∧ (state.1.flush state.2).1.buffer = [] ∧
      (state.1.flush state.2).1.bufferedRows = 0 := by
  obtain ⟨batches, books, split⟩ := books
  have still : state.1.connection.file < state.2.nextFile := by
    rw [books.connection]
    exact Nat.lt_of_lt_of_le old books.adds.gains.nextFile
  obtain ⟨more, flushed, held, empty, rows⟩ := exists_books_flush
    (books.adds.gains.numbered numbered) still books.adds.known books.adds.attached
  refine ⟨batches ++ more, books.trans flushed, ?_, empty, ?_⟩
  · rw [List.flatMap_append, held, split]
  · rcases rows with ⟨none, same⟩ | rows
    · rw [same, bufferedRows, none]
      rfl
    · exact rows

theorem Waits.handle {results : List ExtractionResult} (numbered : disk.Numbered)
    (old : start.connection.file < disk.nextFile) (some : 0 < start.batchRows)
    (waits : start.Waits disk results state) (arrival : Arrival) :
    start.Waits disk (results ++ received [arrival]) (handle state arrival) := by
  have flushed {results : List ExtractionResult} {state : Writer × Disk}
      (books : ∃ batches, start.Books disk batches state ∧
        batches.flatMap (·.results) ++ state.1.buffer = results)
      (bufferedRows : state.1.bufferedRows =
        (state.1.buffer.map ExtractionResult.rowCount).sum) :
      start.Waits disk results (state.1.flush state.2) := by
    obtain ⟨batches, books, split, empty, rows⟩ :=
      exists_books_of_flush numbered old books bufferedRows
    refine ⟨⟨batches, books, ?_⟩, ?_, ?_, ?_⟩
    · rw [split, empty, List.append_nil]
    · rw [rows, empty]
      rfl
    · rw [rows, books.batchRows]
      exact some
    · rw [empty, books.batchRows]
      exact some
  cases arrival with
  | pause =>
      rw [received, received, List.append_nil]
      exact flushed waits.books waits.bufferedRows
  | result result =>
      have kept : ∃ batches, start.Books disk batches (state.1.keep result, state.2) ∧
          batches.flatMap (·.results) ++ (state.1.keep result).buffer = results ++ [result] := by
        obtain ⟨batches, books, split⟩ := waits.books
        refine ⟨batches, { books with }, ?_⟩
        rw [← split, List.append_assoc]
        rfl
      have counted : (state.1.keep result).bufferedRows =
          ((state.1.keep result).buffer.map ExtractionResult.rowCount).sum := by
        rw [keep, List.map_append, List.sum_append, ← waits.bufferedRows]
        simp
      unfold Writer.handle accept
      dsimp only
      split
      · exact flushed kept counted
      · next early =>
          rw [isDue, Bool.or_eq_true, decide_eq_true_eq, decide_eq_true_eq, not_or] at early
          exact ⟨kept, counted, Nat.lt_of_not_le early.1, Nat.lt_of_not_le early.2⟩

theorem waits_handleAll (numbered : disk.Numbered) (old : start.connection.file < disk.nextFile)
    (some : 0 < start.batchRows) (known : start.spill.Known disk)
    (attached : start.spill.Attached disk) (empty : start.buffer = [])
    (none : start.bufferedRows = 0) (arrivals : List Arrival) :
    start.Waits disk (received arrivals) (handleAll (start, disk) arrivals) := by
  induction arrivals using List.reverseRecOn with
  | nil =>
      refine ⟨⟨[], .refl known attached, empty⟩, ?_, ?_, ?_⟩
      · rw [handleAll, List.foldl_nil, none, empty]
        rfl
      · exact none ▸ some
      · rw [handleAll, List.foldl_nil, empty]
        exact some
  | append_singleton arrivals arrival induction =>
      rw [handleAll, List.foldl_append, List.foldl_cons, List.foldl_nil, received_append]
      exact induction.handle numbered old some arrival

end Writer

/-- However a writer cuts the results that come to it into batches, and whichever of them the
database refuses: while it waits it holds less than a full batch and counts its rows, and when it
leaves, because it is told to or because nobody is left, it holds nothing.  The batches are the
results in the order in which they came; each of them is in the store as a whole, or has left the
store alone and each of its results was appended to the writer's spill file, once and in their
order. The appends that failed are the losses, of which the log is told; with the results that were
committed and those that were spilled they make up all that came.  The store ends as if the results
of the batches that were taken had come one by one, and those are all if none was refused. -/
theorem batches_settled {disk : Disk} {connection : Connection} (numbered : disk.Numbered)
    (old : connection.file < disk.nextFile) (id batchRows : Nat) (directory : Path)
    (arrivals : List Writer.Arrival) :
    let start := Writer.start id connection batchRows directory
    let waiting := Writer.handleAll (start, disk) arrivals
    let left := waiting.1.leave waiting.2
    let received := Writer.received arrivals
    waiting.1.bufferedRows = (waiting.1.buffer.map ExtractionResult.rowCount).sum ∧
    waiting.1.bufferedRows < Nat.max batchRows 1 ∧
    waiting.1.buffer.length < Nat.max batchRows 1 ∧
    left.1.buffer = [] ∧ left.1.bufferedRows = 0 ∧ left.1.finished = true ∧
    (∃ batches : List Batch, batches.flatMap (·.results) = received ∧
      start.Books disk batches left ∧
      (Batch.appended batches).map (·.result) = Batch.refused connection batches ∧
      left.1.stats.results + left.1.stats.spilled +
        ((Batch.appended batches).filterMap Append.loss?).length = received.length ∧
      connection.store? left.2 =
        (connection.store? disk).map (·.deliverAll (Batch.delivered connection batches))) ∧
    (left.1.stats.failedCommits = 0 →
      connection.store? left.2 = (connection.store? disk).map (·.deliverAll received) ∧
      left.1.stats.results = received.length ∧
      left.1.stats.rows = (UpsertCounts.ofResults received).rows ∧
      left.1.stats.spilled = 0 ∧ left.1.losses = []) := by
  intro start waiting left received
  have waits : start.Waits disk received waiting := @Writer.waits_handleAll start disk numbered old
    (Nat.le_max_right batchRows 1) (fun id own => nomatch own) (fun id own => nomatch own) rfl rfl
    arrivals
  have size : waiting.1.batchRows = Nat.max batchRows 1 := by
    obtain ⟨batches, books, -⟩ := waits.books
    exact books.batchRows
  obtain ⟨batches, flushed, split, empty, rows⟩ :=
    Writer.exists_books_of_flush numbered old waits.books waits.bufferedRows
  have books : start.Books disk batches left := { flushed with }
  have store : connection.store? left.2 =
      (connection.store? disk).map (·.deliverAll (Batch.delivered connection batches)) :=
    books.joins.store?_eq books.settled
  have results : left.1.stats.results = (Batch.delivered connection batches).length :=
    books.results.trans (Nat.zero_add _)
  have counted : left.1.stats.rows =
      (UpsertCounts.ofResults (Batch.delivered connection batches)).rows :=
    books.rows.trans (Nat.zero_add _)
  have failed : left.1.stats.failedCommits = batches.countP (!·.isCommitted connection) :=
    books.failedCommits.trans (Nat.zero_add _)
  have spilled : left.1.stats.spilled = (Batch.appended batches).countP Append.isKept :=
    books.spilled.trans (Nat.zero_add _)
  have losses : left.1.losses = ((Batch.appended batches).filterMap Append.loss?).reverse :=
    books.losses.trans (List.append_nil _)
  have appended : (Batch.appended batches).map (·.result) = Batch.refused connection batches :=
    Batch.map_appended books.settled
  have each := Batch.length_delivered_add_refused connection batches
  have kept := Append.length_kept_add_losses (Batch.appended batches)
  rw [split, ← appended, List.length_map, ← kept] at each
  refine ⟨waits.bufferedRows, size ▸ waits.fewRows, size ▸ waits.few, empty, rows, rfl,
    ⟨batches, split, books, appended, by omega, store⟩, fun none => ?_⟩
  have all : ∀ batch ∈ batches, batch.isCommitted connection = true := fun batch mem => by
    simpa using List.countP_eq_zero.1 (failed.symm.trans none) batch mem
  have delivered := Batch.delivered_eq all
  rw [split] at delivered
  rw [delivered] at store results counted each
  have nothing : ((Batch.appended batches).filterMap Append.loss?).length = 0 := by omega
  refine ⟨store, results, counted, by omega, ?_⟩
  rw [losses, List.length_eq_zero_iff.1 nothing, List.reverse_nil]

/-- A disk with a database that will take one transaction and refuse the next, and with room for one
line. -/
def Disk.refusingSecond : Disk where
  entries := [(["database"], .file 0)]
  contents := [(0, .database { Database.fresh with refusals := [false, true] })]
  nextFile := 1
  faults := [none, none, none, none, some .noSpace]

/-- Of three results one is committed, one is spilled and one is lost. -/
theorem batches_settled_small : ∃ (waiting left : Writer × Disk) (batches : List Batch),
    Writer.handleAll (.start 0 { file := 0 } 2 ⟨"spill"⟩, .refusingSecond)
        [.result .ofEmptyFile, .pause, .result .ofEmptyFile, .result .ofEmptyFile] = waiting ∧
      waiting.1.leave waiting.2 = left ∧ left.1.stats.results = 1 ∧ left.1.stats.spilled = 1 ∧
      left.1.losses.length = 1 ∧
      batches.flatMap (·.results) = [.ofEmptyFile, .ofEmptyFile, .ofEmptyFile] ∧
      (Writer.start 0 { file := 0 } 2 ⟨"spill"⟩).Books .refusingSecond batches left ∧
      (Batch.appended batches).map (·.result) = Batch.refused { file := 0 } batches ∧
      ((Batch.appended batches).filterMap Append.loss?).length = 1 := by
  have numbered : Disk.refusingSecond.Numbered :=
    numbered_of_entries (by simp [Disk.refusingSecond])
  have settled := @batches_settled .refusingSecond { file := 0 } numbered (by decide) 0 2 ⟨"spill"⟩
    [.result .ofEmptyFile, .pause, .result .ofEmptyFile, .result .ofEmptyFile]
  have counts (waiting : Writer × Disk)
      (run : Writer.handleAll (.start 0 { file := 0 } 2 ⟨"spill"⟩, .refusingSecond)
        [.result .ofEmptyFile, .pause, .result .ofEmptyFile, .result .ofEmptyFile] = waiting) :
      (waiting.1.leave waiting.2).1.stats.results = 1 ∧
        (waiting.1.leave waiting.2).1.stats.spilled = 1 ∧
        (waiting.1.leave waiting.2).1.losses.length = 1 := by
    subst run
    decide +kernel
  -- From here on the run must not be evaluated again.
  dsimp only at settled
  generalize run : Writer.handleAll _ _ = waiting at settled
  obtain ⟨-, -, -, -, -, -, ⟨batches, split, books, appended, counted, -⟩, -⟩ := settled
  obtain ⟨results, spilled, losses⟩ := counts waiting run
  generalize ends : waiting.1.leave waiting.2 = left at results spilled losses counted books
  rw [results, spilled] at counted
  exact ⟨waiting, left, batches, rfl, ends, results, spilled, losses, split, books, appended,
    Nat.add_left_cancel counted⟩

end PartsList
