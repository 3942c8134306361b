import PartsList.Job.System
import PartsList.Proofs.Job.Writing

/-!
# What threads hand to writers

A result that a thread delivers joins the end of the line of its file, or goes to the thread's spill
file.  An outcome counts as delivered as long as its result is the last one in line, the one that
the store shows when nobody is in line, or one that a spill file holds.
-/

namespace PartsList

open Disk ExtractionResult

/-- The results in front of an order to leave. -/
def resultsBefore : List WriterMessage → List ExtractionResult
  | .result result :: messages => result :: resultsBefore messages
  | .shutdown :: _ => []
  | [] => []

theorem resultsBefore_append_shutdown (messages : List WriterMessage) :
    resultsBefore (messages ++ [.shutdown]) = resultsBefore messages := by
  induction messages with
  | nil => rfl
  | cons message messages induction =>
      cases message with
      | result result => exact congrArg (result :: ·) induction
      | shutdown => rfl

theorem resultsBefore_append_result {messages : List WriterMessage}
    (none : WriterMessage.shutdown ∉ messages) (result : ExtractionResult) :
    resultsBefore (messages ++ [.result result]) = resultsBefore messages ++ [result] := by
  induction messages with
  | nil => rfl
  | cons message messages induction =>
      obtain ⟨other, rest⟩ := not_or.1 (mt List.mem_cons.2 none)
      cases message with
      | shutdown => exact absurd rfl other
      | result first => exact congrArg (first :: ·) (induction rest)

theorem resultsBefore_append_of_mem {messages : List WriterMessage}
    (stop : WriterMessage.shutdown ∈ messages) (more : List WriterMessage) :
    resultsBefore (messages ++ more) = resultsBefore messages := by
  induction messages with
  | nil => cases stop
  | cons message messages induction =>
      cases message with
      | shutdown => rfl
      | result first =>
          have stop := (List.mem_cons.1 stop).resolve_left nofun
          exact congrArg (first :: ·) (induction stop)

theorem mem_of_mem_resultsBefore {messages : List WriterMessage} {result : ExtractionResult}
    (mem : result ∈ resultsBefore messages) : .result result ∈ messages := by
  induction messages with
  | nil => cases mem
  | cons message messages induction =>
      cases message with
      | shutdown => cases mem
      | result first =>
          rcases List.mem_cons.1 mem with rfl | mem
          · exact List.mem_cons_self
          · exact List.mem_cons_of_mem _ (induction mem)

/-- The results that a writer holds or is going to take. -/
def Writer.line (writer : Writer) (inbox : Inbox) : List ExtractionResult :=
  if writer.finished then [] else writer.buffer ++ resultsBefore inbox.waiting

/-- What writers hold or are going to take of the results among which those of a path are. -/
def lineOf (writers : List Writer) (inboxes : List Inbox) (path : Path) : List ExtractionResult :=
  match writers[shardOf path inboxes.length]?, inboxes[shardOf path inboxes.length]? with
  | some writer, some inbox => writer.line inbox
  | _, _ => []

theorem lineOf_congr {writers : List Writer} {inboxes after : List Inbox}
    (length : after.length = inboxes.length)
    (same : ∀ (shard : Nat) (inbox : Inbox), after[shard]? = some inbox →
      ∃ before, inboxes[shard]? = some before ∧
        resultsBefore inbox.waiting = resultsBefore before.waiting) (path : Path) :
    lineOf writers after path = lineOf writers inboxes path := by
  unfold lineOf
  rw [length]
  cases found : after[shardOf path inboxes.length]? with
  | none =>
      have outside := length ▸ List.getElem?_eq_none_iff.1 found
      rw [List.getElem?_eq_none (l := inboxes) outside]
  | some inbox =>
      obtain ⟨before, there, waiting⟩ := same _ inbox found
      rw [there]
      cases writers[shardOf path inboxes.length]? with
      | none => rfl
      | some writer =>
          dsimp only
          unfold Writer.line
          rw [waiting]

namespace System

/-- The spill files of all threads. -/
def spills (system : System) : List SpillFile :=
  system.manager.spill :: (system.workers.map (·.spill) ++ system.writers.map (·.spill))

/-- The results in line at the writer of a path. -/
def line (system : System) (path : Path) : List ExtractionResult :=
  lineOf system.writers system.shared.inboxes path

/-- Nobody is in line when all writers have left. -/
theorem line_of_left {system : System} (left : ∀ writer ∈ system.writers, writer.finished = true)
    (path : Path) : system.line path = [] := by
  unfold line lineOf
  split
  · next writer inbox works _ =>
      exact if_pos (left writer (List.mem_of_getElem? works))
  · rfl

/-- Some thread has spilled the result since the start. -/
def SpilledSince (system : System) (start : Disk) (result : ExtractionResult) : Prop :=
  ∃ spill ∈ system.spills, spill.HoldsSince start system.shared.disk result

/-- Some transaction of a writer was refused. -/
def Refused (system : System) : Prop :=
  ∃ writer ∈ system.writers, 0 < writer.stats.failedCommits

/-- No writer has lost a result. -/
def Unharmed (system : System) : Prop :=
  ∀ writer ∈ system.writers, writer.losses = []

/-- The outcome's result is where its delivery says: at the end of the line at its writer, in the
store if no other result of its file is in line, or in a spill file. -/
def Delivered (system : System) (start : Disk) (file : FileId) (outcome : Outcome) : Prop :=
  match outcome.delivery with
  | .writer =>
    last? outcome.result.filePath.spelling (system.line outcome.result.filePath) =
        some outcome.result ∨
      last? outcome.result.filePath.spelling (system.line outcome.result.filePath) = none ∧
        (system.shared.disk.Shows file outcome.result ∨
          system.SpilledSince start outcome.result ∧ system.Refused)
  | .fallback => system.SpilledSince start outcome.result
  | .lost | .withheld => True

/-- Delivered results of a path stay delivered. -/
def Upholds (system : System) (start : Disk) (file : FileId) (path : Path)
    (after : System) : Prop :=
  after.Unharmed → system.Unharmed ∧ ∀ outcome, outcome.result.filePath = path →
    system.Delivered start file outcome → after.Delivered start file outcome

variable {system middle after : System} {start : Disk} {file : FileId} {path : Path}
  {result : ExtractionResult}

theorem SpilledSince.of_spills (spilled : system.SpilledSince start result)
    (evolves : system.shared.disk.Evolves after.shared.disk)
    (spills : ∀ spill ∈ system.spills, ∃ spill' ∈ after.spills,
      ∀ id, spill.file = some id → spill'.file = some id) : after.SpilledSince start result := by
  obtain ⟨spill, mem, holds⟩ := spilled
  obtain ⟨spill', mem', file⟩ := spills spill mem
  exact ⟨spill', mem', (holds.evolves evolves).congr file⟩

/-- What does not touch writers, databases and the last result of a path in line leaves what was
delivered of the path as it is. -/
theorem Upholds.of_line (old : file < system.shared.disk.nextFile)
    (writers : after.writers = system.writers)
    (develops : system.shared.disk.Develops after.shared.disk)
    (spills : ∀ spill ∈ system.spills, ∃ spill' ∈ after.spills,
      ∀ id, spill.file = some id → spill'.file = some id)
    (line : last? path.spelling (after.line path) = last? path.spelling (system.line path)) :
    system.Upholds start file path after := by
  intro unharmed
  refine ⟨fun writer mem => unharmed writer (writers ▸ mem), fun outcome about delivered => ?_⟩
  subst about
  have spilled (spilled : system.SpilledSince start outcome.result) :
      after.SpilledSince start outcome.result :=
    spilled.of_spills develops.toEvolves spills
  unfold Delivered at delivered ⊢
  cases delivery : outcome.delivery with
  | lost => trivial
  | withheld => trivial
  | fallback =>
      rw [delivery] at delivered
      exact spilled delivered
  | writer =>
      rw [delivery] at delivered
      dsimp only at delivered ⊢
      rw [line]
      rcases delivered with last | ⟨none, shows | ⟨held, refused⟩⟩
      · exact Or.inl last
      · exact Or.inr ⟨none, Or.inl (shows.develops old develops)⟩
      · refine Or.inr ⟨none, Or.inr ⟨spilled held, ?_⟩⟩
        unfold Refused
        rw [writers]
        exact refused

end System

/-! ## Routes -/

variable {inboxes : List Inbox} {spill : SpillFile} {disk : Disk} {result : ExtractionResult}

theorem post?_eq_some {after : List Inbox} (posted : post? inboxes result = some after) :
    ∃ inbox, inboxes[shardOf result.filePath inboxes.length]? = some inbox ∧
      after = inboxes.set (shardOf result.filePath inboxes.length)
        { inbox with waiting := inbox.waiting ++ [.result result] } := by
  obtain ⟨inbox, found, rest⟩ := Option.bind_eq_some_iff.1 posted
  obtain ⟨inbox', sent, same⟩ := Option.bind_eq_some_iff.1 rest
  obtain ⟨-, rfl⟩ := Channel.eq_of_send? sent
  exact ⟨inbox, found, (Option.some.inj same).symm⟩

/-- What a route did: the result was sent to its writer, or the sender tried to spill it. -/
inductive Routes (inboxes : List Inbox) (spill : SpillFile) (disk : Disk)
    (result : ExtractionResult) : Routed → Prop
  /-- The result was sent to its writer. -/
  | sent (inbox : Inbox) (found : inboxes[shardOf result.filePath inboxes.length]? = some inbox) :
    Routes inboxes spill disk result
      ⟨.writer,
        inboxes.set (shardOf result.filePath inboxes.length)
          { inbox with waiting := inbox.waiting ++ [.result result] },
        spill, disk⟩
  /-- The sender tried to spill the result. -/
  | spilled (delivery : Delivery) (answer : Except SpillError Unit × SpillFile × Disk)
      (spills : spill.Spills disk result answer)
      (outcome : delivery = .fallback ∧ answer.1 = .ok () ∨ delivery = .lost) :
    Routes inboxes spill disk result ⟨delivery, inboxes, answer.2.1, answer.2.2⟩

theorem routes_route (numbered : disk.Numbered) (known : spill.Known disk) :
    Routes inboxes spill disk result (route inboxes spill disk result) := by
  have spills := SpillFile.spills_persist numbered known result
  unfold route
  split
  · next posted =>
      obtain ⟨inbox, found, rfl⟩ := post?_eq_some posted
      exact .sent inbox found
  · split
    · next persisted =>
        rw [persisted] at spills
        exact .spilled .fallback _ spills (Or.inl ⟨rfl, rfl⟩)
    · next persisted =>
        rw [persisted] at spills
        exact .spilled .lost _ spills (Or.inr rfl)

namespace Routes

variable {routed : Routed}

theorem develops (routes : Routes inboxes spill disk result routed) :
    disk.Develops routed.disk := by
  cases routes with
  | sent => exact Develops.refl disk
  | spilled _ _ spills => exact spills.develops

theorem file (routes : Routes inboxes spill disk result routed) (id : FileId)
    (file : spill.file = some id) : routed.spill.file = some id := by
  cases routes with
  | sent => exact file
  | spilled _ _ spills => exact spills.file id file

theorem path (routes : Routes inboxes spill disk result routed) :
    routed.spill.path = spill.path := by
  cases routes with
  | sent => rfl
  | spilled _ _ spills => exact spills.path

theorem known (routes : Routes inboxes spill disk result routed) (known : spill.Known disk) :
    routed.spill.Known routed.disk := by
  cases routes with
  | sent => exact known
  | spilled _ _ spills => exact spills.known

theorem length (routes : Routes inboxes spill disk result routed) :
    routed.inboxes.length = inboxes.length := by
  cases routes with
  | sent => exact List.length_set
  | spilled => rfl

/-- The only new message is the result, in the inbox of its writer. -/
theorem waiting (routes : Routes inboxes spill disk result routed) {shard : Nat} {inbox : Inbox}
    (found : routed.inboxes[shard]? = some inbox) :
    ∃ before, inboxes[shard]? = some before ∧ inbox.senderGone = before.senderGone ∧
      ∀ message ∈ inbox.waiting, message ∈ before.waiting ∨
        message = .result result ∧ shardOf result.filePath inboxes.length = shard := by
  cases routes with
  | spilled => exact ⟨inbox, found, rfl, fun _ mem => Or.inl mem⟩
  | sent target place =>
      dsimp only at found
      by_cases same : shardOf result.filePath inboxes.length = shard
      · subst same
        rw [List.getElem?_set_self (List.getElem?_eq_some_iff.1 place).1] at found
        cases found
        refine ⟨target, place, rfl, fun message mem => ?_⟩
        rcases List.mem_append.1 mem with mem | mem
        · exact Or.inl mem
        · exact Or.inr ⟨List.mem_singleton.1 mem, rfl⟩
      · rw [List.getElem?_set_ne same] at found
        exact ⟨inbox, found, rfl, fun _ mem => Or.inl mem⟩

theorem delivery (routes : Routes inboxes spill disk result routed) :
    routed.delivery ≠ .withheld := by
  cases routes with
  | sent => exact nofun
  | spilled _ _ _ outcome => rcases outcome with ⟨rfl, -⟩ | rfl <;> exact nofun

end Routes

/-- A result that is sent joins the line of its path, if anything changes there at all. -/
theorem lineOf_set {writers : List Writer} {inbox : Inbox}
    (found : inboxes[shardOf result.filePath inboxes.length]? = some inbox) (path : Path) :
    let sent := inboxes.set (shardOf result.filePath inboxes.length)
      { inbox with waiting := inbox.waiting ++ [.result result] }
    lineOf writers sent path = lineOf writers inboxes path ∨
      lineOf writers sent path = lineOf writers inboxes path ++ [result] := by
  dsimp only
  unfold lineOf
  rw [List.length_set]
  by_cases same : shardOf result.filePath inboxes.length = shardOf path inboxes.length
  · rw [← same, List.getElem?_set_self (List.getElem?_eq_some_iff.1 found).1, found]
    cases writers[shardOf result.filePath inboxes.length]? with
    | none => exact Or.inl rfl
    | some writer =>
        dsimp only
        unfold Writer.line
        dsimp only
        cases writer.finished with
        | true => exact Or.inl rfl
        | false =>
            by_cases stop : WriterMessage.shutdown ∈ inbox.waiting
            · rw [resultsBefore_append_of_mem stop]
              exact Or.inl rfl
            · rw [resultsBefore_append_result stop]
              exact Or.inr (by simp [List.append_assoc])
  · rw [List.getElem?_set_ne same]
    exact Or.inl rfl

/-- As long as its writer has not been told to leave, a result that is sent is the last in line. -/
theorem lineOf_set_self {writers : List Writer} {writer : Writer} {inbox : Inbox}
    (found : inboxes[shardOf result.filePath inboxes.length]? = some inbox)
    (works : writers[shardOf result.filePath inboxes.length]? = some writer)
    (stays : writer.finished = false) (open_ : WriterMessage.shutdown ∉ inbox.waiting) :
    lineOf writers (inboxes.set (shardOf result.filePath inboxes.length)
      { inbox with waiting := inbox.waiting ++ [.result result] }) result.filePath =
      lineOf writers inboxes result.filePath ++ [result] := by
  unfold lineOf
  rw [List.length_set, List.getElem?_set_self (List.getElem?_eq_some_iff.1 found).1, found, works]
  dsimp only
  unfold Writer.line
  dsimp only
  rw [resultsBefore_append_result open_, stays]
  simp [List.append_assoc]

namespace System

variable {system after : System} {start : Disk} {file : FileId} {routed : Routed}

/-- What is posted of one file leaves what was delivered of others as it is. -/
theorem Upholds.of_routes {path : Path} (old : file < system.shared.disk.nextFile)
    (routes : Routes system.shared.inboxes spill system.shared.disk result routed)
    (writers : after.writers = system.writers) (inboxes : after.shared.inboxes = routed.inboxes)
    (disk : after.shared.disk = routed.disk)
    (spills : ∀ spill ∈ system.spills, ∃ spill' ∈ after.spills,
      ∀ id, spill.file = some id → spill'.file = some id)
    (other : result.filePath ≠ path) : system.Upholds start file path after := by
  refine Upholds.of_line old writers (disk ▸ routes.develops) spills ?_
  unfold line
  rw [writers, inboxes]
  cases routes with
  | spilled => rfl
  | sent inbox found =>
      have joined := @lineOf_set system.shared.inboxes result system.writers inbox found path
      rcases joined with same | longer
      · exact congrArg (last? path.spelling) same
      · have apart : result.isOf path.spelling = false := by
          refine beq_eq_false_iff_ne.2 fun same => other (congrArg Path.mk same)
        refine (congrArg (last? path.spelling) longer).trans ?_
        rw [last?_concat, apart]
        exact if_neg (by decide)

/-- What is posted while writers stay is delivered. -/
theorem Delivered.of_routes {task : TaskId}
    (routes : Routes system.shared.inboxes spill system.shared.disk result routed)
    (writers : after.writers = system.writers) (inboxes : after.shared.inboxes = routed.inboxes)
    (disk : after.shared.disk = routed.disk) (mem : routed.spill ∈ after.spills)
    (both : system.shared.inboxes.length = system.writers.length)
    (open_ : ∀ inbox ∈ system.shared.inboxes, .shutdown ∉ inbox.waiting)
    (stays : ∀ writer ∈ system.writers, writer.finished = false)
    (since : start.Evolves system.shared.disk) :
    after.Delivered start file { task := task, result := result, delivery := routed.delivery } := by
  unfold Delivered
  cases routes with
  | sent inbox found =>
      have inside := (List.getElem?_eq_some_iff.1 found).1
      rw [both] at inside
      have works := List.getElem?_eq_getElem (both ▸ inside :
        shardOf result.filePath system.shared.inboxes.length < system.writers.length)
      refine Or.inl ?_
      unfold line
      dsimp only
      rw [writers, inboxes]
      have longer := lineOf_set_self found works (stays _ (List.getElem_mem _))
        (open_ inbox (List.mem_of_getElem? found))
      refine (congrArg (last? result.filePath.spelling) longer).trans ?_
      rw [last?_concat, isOf, beq_self_eq_true]
      rfl
  | spilled delivery answer spills outcome =>
      rcases outcome with ⟨rfl, persisted⟩ | rfl
      · refine ⟨answer.2.1, mem, ?_⟩
        rw [disk]
        exact spills.holds persisted start since
      · trivial

end System

end PartsList
