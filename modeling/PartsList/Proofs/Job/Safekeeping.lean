import PartsList.Proofs.Job.Arrangement

/-!
# Results in safe keeping

A result that was handed over is in line at its writer, in a spill file, or in the store.  A writer
takes a result out of the line only when it commits or spills it, and it leaves only when nobody is
in line any more.  So when all writers have left, each result is in the store or in a spill file.
-/

namespace PartsList

open Disk ExtractionResult

/-- The outcome's result was handed to its writer, or spilled. -/
def Outcome.Accepted (outcome : Outcome) : Prop :=
  outcome.delivery = .writer ∨ outcome.delivery = .fallback

namespace Writer

variable {writer : Writer} {disk start : Disk} {inbox left : Inbox} {next : Writer × Disk}

theorem line_of_stays (stays : writer.finished = false) :
    writer.line inbox = writer.buffer ++ resultsBefore inbox.waiting :=
  if_neg (Bool.eq_false_iff.1 stays)

/-- In one step, a writer handles the front of its line, which may be one result longer than what it
held, and nobody behind that moves. -/
theorem Turn.handles (turn : writer.Turn disk inbox next left) (numbered : disk.Numbered)
    (known : writer.spill.Known disk) (file : writer.connection.file < disk.nextFile)
    (owns : ∀ result ∈ writer.buffer, result.OwnsRows)
    (owns' : ∀ result, .result result ∈ inbox.waiting → result.OwnsRows)
    (stays : writer.finished = false) :
    ∃ (front : List ExtractionResult) (rows : Nat) (behind : List ExtractionResult),
      { writer with buffer := front, bufferedRows := rows }.Handles disk next ∧
        writer.line inbox = front ++ behind ∧ next.1.line left = next.1.buffer ++ behind := by
  rw [line_of_stays stays]
  have leaves (none : resultsBefore inbox.waiting = []) (left : Inbox) :
      ∃ (front : List ExtractionResult) (rows : Nat) (behind : List ExtractionResult),
        { writer with buffer := front, bufferedRows := rows }.Handles disk (writer.leave disk) ∧
          writer.buffer ++ resultsBefore inbox.waiting = front ++ behind ∧
            (writer.leave disk).1.line left = (writer.leave disk).1.buffer ++ behind := by
    obtain ⟨handles, empty, gone⟩ := handles_leave numbered known file owns
    refine ⟨_, _, [], handles, by rw [none], ?_⟩
    rw [line, if_pos gone, empty]
    rfl
  cases turn with
  | @accept first left received =>
      have waiting := Channel.waiting_of_receive? received
      have owned := owns' first (waiting ▸ List.mem_cons_self)
      obtain ⟨handles, still⟩ := handles_accept numbered known file owns owned
      refine ⟨_, _, resultsBefore left.waiting, handles, ?_, line_of_stays (still.trans stays)⟩
      rw [waiting]
      exact (List.append_assoc writer.buffer [first] (resultsBefore left.waiting)).symm
  | flush =>
      obtain ⟨handles, -, still⟩ := handles_flush numbered known file owns
      exact ⟨_, _, resultsBefore inbox.waiting, handles, rfl, line_of_stays (still.trans stays)⟩
  | dismiss received => exact leaves (by rw [Channel.waiting_of_receive? received]; rfl) left
  | close empty => exact leaves (by rw [empty]; rfl) inbox

/-- In one step, a writer keeps, spills or commits each result that was in line. -/
theorem Turn.each (turn : writer.Turn disk inbox next left) (numbered : disk.Numbered)
    (known : writer.spill.Known disk) (file : writer.connection.file < disk.nextFile)
    (owns : ∀ result ∈ writer.buffer, result.OwnsRows)
    (owns' : ∀ result, .result result ∈ inbox.waiting → result.OwnsRows)
    (stays : writer.finished = false) (unharmed : next.1.losses = [])
    (since : start.Evolves disk) :
    ∀ result ∈ writer.line inbox, result ∈ next.1.line left ∨
      next.1.spill.HoldsSince start next.2 result ∨ writer.Commits disk next result := by
  obtain ⟨front, rows, behind, handles, before, after⟩ :=
    turn.handles numbered known file owns owns' stays
  rw [before, after]
  intro result mem
  rcases List.mem_append.1 mem with held | waits
  · have kept := handles.each unharmed start since result held
    exact kept.imp_left (List.mem_append_left _)
  · exact Or.inl (List.mem_append_right _ waits)

/-- A writer stays until it is told to leave, or nothing more can come. -/
theorem Turn.stays (turn : writer.Turn disk inbox next left) (numbered : disk.Numbered)
    (known : writer.spill.Known disk) (file : writer.connection.file < disk.nextFile)
    (owns : ∀ result ∈ writer.buffer, result.OwnsRows)
    (owns' : ∀ result, .result result ∈ inbox.waiting → result.OwnsRows)
    (stays : writer.finished = false)
    (open_ : .shutdown ∉ inbox.waiting ∧ inbox.senderGone = false) :
    next.1.finished = false ∧ .shutdown ∉ left.waiting ∧ left.senderGone = false := by
  cases turn with
  | @accept first left received =>
      obtain ⟨rest, waiting, rfl⟩ := Channel.eq_of_receive? received
      have owned := owns' first (waiting ▸ List.mem_cons_self)
      obtain ⟨-, still⟩ := handles_accept numbered known file owns owned
      rw [waiting, List.mem_cons, not_or] at open_
      exact ⟨still.trans stays, open_.1.2, open_.2⟩
  | flush =>
      obtain ⟨-, -, still⟩ := handles_flush numbered known file owns
      exact ⟨still.trans stays, open_⟩
  | dismiss received =>
      exact absurd (Channel.waiting_of_receive? received ▸ List.mem_cons_self) open_.1
  | close _ closed => exact nomatch closed.symm.trans open_.2

end Writer

/-- What is routed takes nobody out of a line. -/
theorem Routes.line_subset {inboxes : List Inbox} {spill : SpillFile} {disk : Disk}
    {result : ExtractionResult} {routed : Routed}
    (routes : Routes inboxes spill disk result routed) (writers : List Writer) (path : Path) :
    lineOf writers inboxes path ⊆ lineOf writers routed.inboxes path := by
  cases routes with
  | spilled => exact List.Subset.refl _
  | sent inbox found =>
      rcases @lineOf_set inboxes result writers inbox found path with same | longer
      · dsimp only
        rw [same]
        exact List.Subset.refl _
      · dsimp only
        rw [longer]
        exact List.subset_append_left _ _

namespace System

/-- The writer of the result's path commits it to the database in a file, and counts it. -/
def Commits (system after : System) (file : FileId) (result : ExtractionResult) : Prop :=
  ∃ writer next, system.writers[shardOf result.filePath system.writers.length]? = some writer ∧
    after.writers[shardOf result.filePath system.writers.length]? = some next ∧
      writer.connection.file = file ∧
        writer.Commits system.shared.disk (next, after.shared.disk) result

/-- In some step of a course, the writer of the result's path commits it. -/
def EverCommits (file : FileId) (result : ExtractionResult) (system : System) : List Move → Prop
  | [] => False
  | move :: course =>
    system.Commits (system.step move) file result ∨
      EverCommits file result (system.step move) course

/-- The result is in line at its writer, in a spill file, or among those that were stored. -/
def Secures (system : System) (start : Disk) (stored : ExtractionResult → Prop)
    (result : ExtractionResult) : Prop :=
  result ∈ system.line result.filePath ∨ system.SpilledSince start result ∨ stored result

/-- No result is taken out of a line or a spill file. -/
structure Retains (system after : System) : Prop where
  /-- Files evolve. -/
  evolves : system.shared.disk.Evolves after.shared.disk
  /-- Open spill files stay open. -/
  spills : ∀ spill ∈ system.spills, ∃ spill' ∈ after.spills,
    ∀ id, spill.file = some id → spill'.file = some id
  /-- Nobody leaves a line. -/
  line : ∀ path, system.line path ⊆ after.line path

/-- The results that were handed over are safe as long as no writer has lost any: those of which the
manager is still to be told, and those of which it was told. -/
structure Secured (system : System) (file : FileId) (directory : Path) (start : Disk)
    (stored : ExtractionResult → Prop) : Prop extends system.Arranged file directory where
  /-- Files have evolved since the start. -/
  since : start.Evolves system.shared.disk
  /-- While the manager works, the writers stay. -/
  staying : system.manager.isClosed = false → system.Staying
  /-- Results are safe of which the manager is still to be told. -/
  told : system.manager.isClosed = false → ∀ outcome ∈ system.outcomes, outcome.Accepted →
    system.Unharmed → system.Secures start stored outcome.result
  /-- Results are safe of which the manager was told. -/
  recorded : ∀ recorded ∈ system.manager.history, recorded.outcome.Accepted →
    system.Unharmed → system.Secures start stored recorded.outcome.result

variable {system after : System} {file : FileId} {directory : Path} {start : Disk}
  {stored stored' : ExtractionResult → Prop} {result : ExtractionResult}

theorem Retains.secures (retains : system.Retains after)
    (secures : system.Secures start stored result) : after.Secures start stored result := by
  rcases secures with waits | spilled | stored
  · exact Or.inl (retains.line _ waits)
  · exact Or.inr (Or.inl (spilled.of_spills retains.evolves retains.spills))
  · exact Or.inr (Or.inr stored)

/-- What is posted while writers stay is safe. -/
theorem Secures.of_routes {spill : SpillFile} {routed : Routed}
    (routes : Routes system.shared.inboxes spill system.shared.disk result routed)
    (writers : after.writers = system.writers) (inboxes : after.shared.inboxes = routed.inboxes)
    (disk : after.shared.disk = routed.disk) (mem : routed.spill ∈ after.spills)
    (both : system.shared.inboxes.length = system.writers.length) (staying : system.Staying)
    (since : start.Evolves system.shared.disk)
    (accepted : routed.delivery = .writer ∨ routed.delivery = .fallback) :
    after.Secures start stored result := by
  cases routes with
  | sent inbox found =>
      have inside := (List.getElem?_eq_some_iff.1 found).1
      rw [both] at inside
      have works := List.getElem?_eq_getElem (both ▸ inside :
        shardOf result.filePath system.shared.inboxes.length < system.writers.length)
      have longer := lineOf_set_self found works (staying.stays _ (List.getElem_mem _))
        (staying.open_ inbox (List.mem_of_getElem? found)).1
      refine Or.inl ?_
      unfold line
      rw [writers, inboxes]
      dsimp only
      rw [longer]
      exact List.mem_append_right _ List.mem_cons_self
  | spilled delivery answer spills outcome =>
      rcases outcome with ⟨-, persisted⟩ | rfl
      · refine Or.inr (Or.inl ⟨answer.2.1, mem, ?_⟩)
        rw [disk]
        exact spills.holds persisted start since
      · exact absurd accepted (by simp)

/-- Results stay safe when a step keeps safe what was safe, and tells of safe results only. -/
theorem Secured.advance (secured : system.Secured file directory start stored)
    (arranged : after.Arranged file directory)
    (evolves : system.shared.disk.Evolves after.shared.disk)
    (unharmed : after.Unharmed → system.Unharmed)
    (later : after.Unharmed → ∀ result, system.Secures start stored result →
      after.Secures start stored' result)
    (works : after.manager.isClosed = false → system.manager.isClosed = false ∧ after.Staying ∧
      ∀ outcome ∈ after.outcomes, outcome ∈ system.outcomes ∨
        (outcome.Accepted → after.Secures start stored' outcome.result))
    (history : ∀ recorded ∈ after.manager.history, recorded ∈ system.manager.history ∨
      (recorded.outcome.Accepted → after.Unharmed →
        after.Secures start stored' recorded.outcome.result)) :
    after.Secured file directory start stored' where
  toArranged := arranged
  since := secured.since.trans evolves
  staying working := (works working).2.1
  told := by
    intro working outcome mem accepted safe
    obtain ⟨worked, -, told⟩ := works working
    rcases told outcome mem with known | new
    · exact later safe _ (secured.told worked outcome known accepted (unharmed safe))
    · exact new accepted
  recorded := by
    intro recorded mem accepted safe
    rcases history recorded mem with known | new
    · exact later safe _ (secured.recorded recorded known accepted (unharmed safe))
    · exact new accepted safe

/-! ## The manager -/

section Manager

variable {before next : Manager × Shared} {manager : Manager} {shared : Shared}

theorem Retains.withManager (evolves : before.2.disk.Evolves next.2.disk)
    (spill : ∀ id, before.1.spill.file = some id → next.1.spill.file = some id)
    (line : ∀ path,
      lineOf system.writers before.2.inboxes path ⊆ lineOf system.writers next.2.inboxes path) :
    (system.withManager before).Retains (system.withManager next) := by
  refine ⟨evolves, fun other mem => ?_, line⟩
  rcases List.mem_cons.1 mem with rfl | mem
  · exact ⟨next.1.spill, List.mem_cons_self, spill⟩
  · exact ⟨other, List.mem_cons_of_mem _ mem, fun _ file => file⟩

theorem retains_quiet (quiet : Manager.Quiet before next) :
    (system.withManager before).Retains (system.withManager next) := by
  refine .withManager (quiet.disk ▸ Evolves.refl _) ?_ ?_
  · rw [quiet.spill]
    exact fun _ file => file
  · rw [quiet.inboxes]
    exact fun _ => List.Subset.refl _

/-- The manager may do anything that takes no result away, if it adds only safe results to its
history. -/
theorem Secured.manage (secured : (system.withManager before).Secured file directory start stored)
    (arranged : (system.withManager next).Arranged file directory)
    (retains : (system.withManager before).Retains (system.withManager next))
    (works : next.1.isClosed = false → before.1.isClosed = false ∧
      ∀ inbox ∈ next.2.inboxes, .shutdown ∉ inbox.waiting ∧ inbox.senderGone = false)
    (events : next.2.events.waiting ⊆ before.2.events.waiting)
    (history : ∀ recorded ∈ next.1.history, recorded ∈ before.1.history ∨
      (recorded.outcome.Accepted → system.Unharmed →
        (system.withManager next).Secures start stored recorded.outcome.result)) :
    (system.withManager next).Secured file directory start stored := by
  refine secured.advance arranged retains.evolves (fun unharmed => unharmed)
    (fun _ result => retains.secures) (fun working => ?_) history
  obtain ⟨worked, stays⟩ := works working
  refine ⟨worked, ⟨stays, (secured.staying worked).stays⟩, fun outcome mem => Or.inl ?_⟩
  rcases List.mem_append.1 mem with mem | mem
  · exact List.mem_append_left _ mem
  · exact List.mem_append_right _ (List.filterMap_subset _ events mem)

theorem Secured.quiet (secured : (system.withManager before).Secured file directory start stored)
    (quiet : Manager.Quiet before next) :
    (system.withManager next).Secured file directory start stored := by
  refine secured.manage (secured.toArranged.quiet quiet) (retains_quiet quiet) (fun working => ?_)
    quiet.events.subset ?_
  · have worked := quiet.works working
    rw [quiet.inboxes]
    exact ⟨worked, (secured.staying worked).open_⟩
  · rw [quiet.history]
    exact fun _ => Or.inl

theorem Secured.record
    (secured : (system.withManager (manager, shared)).Secured file directory start stored)
    (task : Task) {outcome : Outcome}
    (secures : outcome.Accepted → system.Unharmed →
      (system.withManager (manager, shared)).Secures start stored outcome.result) :
    (system.withManager (manager.record shared task outcome)).Secured
      file directory start stored := by
  have arranged := secured.toArranged.record task outcome
  have records := manager.records_record shared task outcome
  generalize manager.record shared task outcome = after at arranged records ⊢
  have retains : (system.withManager (manager, shared)).Retains (system.withManager after) := by
    refine .withManager records.develops.toEvolves ?_ ?_
    · rw [records.spill]
      exact fun _ file => file
    · rw [records.inboxes]
      exact fun _ => List.Subset.refl _
  refine secured.manage arranged retains (fun working => ?_)
    (records.events ▸ List.Subset.refl _) ?_
  · rw [Manager.isClosed_of_phase records.phase] at working
    rw [records.inboxes]
    exact ⟨working, (secured.staying working).open_⟩
  · obtain ⟨final, history⟩ := records.history
    intro recorded mem
    rw [history] at mem
    rcases List.mem_cons.1 mem with rfl | mem
    · exact Or.inr fun accepted unharmed => retains.secures (secures accepted unharmed)
    · exact Or.inl mem

/-- The manager may conclude with a task as long as the writers stay. -/
theorem Secured.conclude
    (secured : (system.withManager (manager, shared)).Secured file directory start stored)
    (staying : (system.withManager (manager, shared)).Staying) {task : Task}
    (about : result.About task.path) :
    (system.withManager (manager.conclude shared task result)).Secured
      file directory start stored := by
  have about : (result.withAttempt task.attempt).About task.path := about
  have routes := @routes_route shared.inboxes manager.spill shared.disk
    (result.withAttempt task.attempt) secured.numbered (secured.known _ List.mem_cons_self)
  unfold Manager.conclude
  dsimp only
  generalize route shared.inboxes manager.spill shared.disk (result.withAttempt task.attempt) =
    routed at routes ⊢
  have retains : (system.withManager (manager, shared)).Retains
      (system.withManager ({ manager with spill := routed.spill }, shared.afterRouting routed)) :=
    .withManager routes.develops.toEvolves routes.file (routes.line_subset system.writers)
  have posted := secured.manage (secured.toArranged.post about.2 routes) retains
    (fun working => ⟨working, routes.open_ staying.open_⟩) (List.Subset.refl _) fun _ => Or.inl
  refine posted.record task fun accepted _ => ?_
  have handed := @Secures.of_routes (system.withManager (manager, shared))
  exact handed routes rfl rfl rfl List.mem_cons_self secured.inboxes staying secured.since accepted

/-- Once the workers have been sent away, the manager may send anything but results to writers. -/
theorem Secured.send (secured : (system.withManager before).Secured file directory start stored)
    (closed : before.1.isClosed = true)
    (arranged : (system.withManager next).Arranged file directory)
    (quiet : Manager.Quiet before (next.1, { next.2 with inboxes := before.2.inboxes }))
    (length : next.2.inboxes.length = before.2.inboxes.length)
    (same : ∀ (shard : Nat) (inbox : Inbox), next.2.inboxes[shard]? = some inbox →
      ∃ other, before.2.inboxes[shard]? = some other ∧
        resultsBefore inbox.waiting = resultsBefore other.waiting) :
    (system.withManager next).Secured file directory start stored := by
  have retains : (system.withManager before).Retains (system.withManager next) := by
    refine .withManager (quiet.disk ▸ Evolves.refl _) ?_ fun path => ?_
    · rw [show next.1.spill = before.1.spill from quiet.spill]
      exact fun _ file => file
    · rw [lineOf_congr length same]
      exact List.Subset.refl _
  refine secured.manage arranged retains (fun working => ?_) quiet.events.subset ?_
  · exact nomatch closed.symm.trans (quiet.works working)
  · rw [show next.1.history = before.1.history from quiet.history]
    exact fun _ => Or.inl

/-- No deed of the manager brings a result into danger. -/
theorem Secured.deed (secured : (system.withManager before).Secured file directory start stored)
    (deed : Manager.Deed before next) :
    (system.withManager next).Secured file directory start stored := by
  have arranged := secured.toArranged.deed deed
  cases deed with
  | note quiet => exact secured.quiet quiet
  | @accept _ noted worker entry outcome quiet told works =>
      refine (secured.quiet quiet).record entry.task fun accepted unharmed => ?_
      have tells : outcome ∈ (system.withManager before).outcomes :=
        List.mem_append_right _ (List.mem_filterMap.2 ⟨_, told, rfl⟩)
      exact (retains_quiet quiet).secures (secured.told works outcome tells accepted unharmed)
  | @conclude _ noted entry code message metrics quiet works =>
      have staying := secured.staying works
      have open_ : ∀ inbox ∈ noted.2.inboxes,
          .shutdown ∉ inbox.waiting ∧ inbox.senderGone = false := by
        rw [quiet.inboxes]
        exact staying.open_
      exact (secured.quiet quiet).conclude ⟨open_, staying.stays⟩
        (about_failed _ code message metrics)
  | @save manager shared =>
      obtain ⟨checkpoint, saves, disk, saved, develops⟩ := manager.exists_save shared
      rw [saved] at arranged ⊢
      refine secured.manage arranged ?_ (fun working => ?_) (List.Subset.refl _) fun _ => Or.inl
      · exact .withManager develops.toEvolves (fun _ file => file) fun _ => List.Subset.refl _
      · exact ⟨working, (secured.staying working).open_⟩
  | @dismiss _ _ shard inbox sent closed found send quiet inboxes =>
      have waiting : sent.waiting = inbox.waiting ++ [.shutdown] := Channel.waiting_of_send? send
      refine secured.send closed arranged quiet (inboxes ▸ List.length_set)
        fun other after there => ?_
      rw [inboxes] at there
      by_cases here : shard = other
      · subst here
        rw [List.getElem?_set_self (List.getElem?_eq_some_iff.1 found).1] at there
        cases there
        exact ⟨inbox, found, by rw [waiting, resultsBefore_append_shutdown]⟩
      · rw [List.getElem?_set_ne here] at there
        exact ⟨after, there, rfl⟩
  | release closed quiet inboxes =>
      refine secured.send closed arranged quiet (inboxes ▸ List.length_map _)
        fun other after there => ?_
      rw [inboxes] at there
      obtain ⟨inbox, found, rfl⟩ := Option.map_eq_some_iff.1 (List.getElem?_map ▸ there)
      exact ⟨inbox, found, rfl⟩

theorem Secured.deeds (secured : (system.withManager before).Secured file directory start stored)
    (deeds : Relation.ReflTransGen Manager.Deed before next) :
    (system.withManager next).Secured file directory start stored := by
  induction deeds with
  | refl => exact secured
  | tail _ deed induction => exact induction.deed deed

end Manager

/-- New workers have nothing to tell. -/
theorem Secured.hire {next : Manager × Shared}
    (secured : (system.withManager next).Secured file directory start stored)
    (arranged : (system.withHired next).Arranged file directory) :
    (system.withHired next).Secured file directory start stored := by
  refine secured.advance arranged (Evolves.refl _) (fun unharmed => unharmed)
    (fun _ result => Retains.secures ⟨Evolves.refl _, fun spill mem => ?_, ?_⟩) (fun working => ?_)
    fun _ => Or.inl
  · exact ⟨spill, spills_subset_withHired system next mem, fun _ file => file⟩
  · exact fun _ => List.Subset.refl _
  · refine ⟨working, ⟨(secured.staying working).open_, (secured.staying working).stays⟩, ?_⟩
    rw [outcomes_withHired]
    exact fun _ => Or.inl

theorem Secured.managed (secured : system.Secured file directory start stored)
    {action : Manager.Action} {next : Manager × Shared}
    (stepped : system.manager.step? system.shared system.finishedStats action = some next) :
    (system.withHired next).Secured file directory start stored := by
  have placed : (system.withManager (system.manager, system.shared)).Secured
      file directory start stored := secured
  exact (placed.deeds (Manager.deeds_step? stepped)).hire (secured.toArranged.managed stepped)

/-! ## Workers -/

section Workers

variable {front back : List Worker} {worker next : Worker} {shared : Shared}
  {told : List WorkerEvent}

/-- A worker may do anything that takes no result away, if it tells of safe results only. -/
theorem Secured.proceed (secured : system.Secured file directory start stored)
    (split : system.workers = front ++ worker :: back)
    (arranged : (system.withStep front back (next, shared)).Arranged file directory)
    (retains : system.Retains (system.withStep front back (next, shared)))
    (events : shared.events.waiting = system.shared.events.waiting ++ told)
    (open_ : system.Staying → ∀ inbox ∈ shared.inboxes,
      .shutdown ∉ inbox.waiting ∧ inbox.senderGone = false)
    (tells : system.Staying → ∀ outcome ∈ next.phase.outcome?.toList ++ outcomesOf told,
      worker.phase.outcome? = some outcome ∨ (outcome.Accepted →
        (system.withStep front back (next, shared)).Secures start stored outcome.result)) :
    (system.withStep front back (next, shared)).Secured file directory start stored := by
  refine secured.advance arranged retains.evolves (fun unharmed => unharmed)
    (fun _ result => retains.secures) (fun working => ?_) fun _ => Or.inl
  have staying := secured.staying working
  refine ⟨working, ⟨open_ staying, staying.stays⟩, fun outcome mem => ?_⟩
  have whole := @mem_outcomes system front back worker system.shared [] (List.append_nil _).symm
    outcome
  rw [withStep_self split] at whole
  rcases (mem_outcomes events).1 mem with own | other
  · refine (tells staying outcome own).imp_left fun reports => whole.2 (Or.inl ?_)
    exact List.mem_append_left _ (Option.mem_toList.2 reports)
  · exact Or.inl (whole.2 (Or.inr other))

theorem Secured.passes (secured : system.Secured file directory start stored)
    (split : system.workers = front ++ worker :: back) {next : Worker × Shared}
    (passes : worker.Passes system.shared next) :
    (system.withStep front back next).Secured file directory start stored := by
  obtain ⟨told, events, tells⟩ := passes.told
  have retains : system.Retains (system.withStep front back next) := by
    refine ⟨?_, exists_spill_withStep split ?_, fun path => ?_⟩
    · rw [withStep, passes.disk]
      exact Evolves.refl _
    · rw [passes.spill]
      exact fun _ file => file
    · rw [line, line, withStep, passes.inboxes]
      exact List.Subset.refl _
  refine secured.proceed split (secured.toArranged.passes split passes) retains events ?_ ?_
  · rw [passes.inboxes]
    exact Staying.open_
  · intro _ outcome mem
    refine (tells outcome mem).imp_right fun withheld accepted => ?_
    rw [Outcome.Accepted, withheld] at accepted
    exact absurd accepted (by simp)

theorem Secured.deliver (secured : system.Secured file directory start stored)
    (split : system.workers = front ++ worker :: back) {task : Task}
    (phase : worker.phase = .delivering task started result) :
    (system.withStep front back (worker.deliver task result system.shared)).Secured
      file directory start stored := by
  have here : worker ∈ system.workers := by simp [split]
  have known := secured.known worker.spill
    (List.mem_cons_of_mem _ (List.mem_append_left _ (List.mem_map_of_mem here)))
  have arranged := secured.toArranged.deliver split phase
  have routes := @routes_route system.shared.inboxes worker.spill system.shared.disk result
    secured.numbered known
  unfold Worker.deliver at arranged ⊢
  dsimp only at arranged ⊢
  generalize route system.shared.inboxes worker.spill system.shared.disk result = routed
    at arranged routes ⊢
  let next : Worker :=
    { worker with
      spill := routed.spill
      phase := .reporting { task := task.id, result := result, delivery := routed.delivery } }
  have retains : system.Retains
      (system.withStep front back (next, system.shared.afterRouting routed)) :=
    ⟨routes.develops.toEvolves, exists_spill_withStep split routes.file,
      routes.line_subset system.writers⟩
  refine secured.proceed split arranged retains (List.append_nil _).symm
    (fun staying => routes.open_ staying.open_) fun staying outcome mem => Or.inr fun accepted => ?_
  obtain rfl := List.mem_singleton.1 mem
  refine Secures.of_routes routes rfl rfl rfl ?_ secured.inboxes staying secured.since accepted
  simp [System.spills, withStep]

theorem Secured.goes (secured : system.Secured file directory start stored)
    (split : system.workers = front ++ worker :: back) {next : Worker × Shared}
    (goes : worker.Goes system.rules system.shared next) :
    (system.withStep front back next).Secured file directory start stored := by
  rcases goes.passes_or_delivers with passes | ⟨task, started, result, phase, rfl⟩
  · exact secured.passes split passes
  · exact secured.deliver split phase

end Workers

/-! ## Writers -/

section Writers

variable {id : Nat} {writer next : Writer} {inbox left : Inbox} {disk : Disk} {path : Path}

theorem line_of_shard (works : system.writers[id]? = some writer)
    (found : system.shared.inboxes[id]? = some inbox)
    (here : shardOf path system.shared.inboxes.length = id) :
    system.line path = writer.line inbox := by
  rw [line, lineOf, here, works, found]

theorem line_putWriter (place : next.id = id) (works : system.writers[id]? = some writer)
    (found : system.shared.inboxes[id]? = some inbox) (path : Path) :
    (system.putWriter next left disk).line path =
      if shardOf path system.shared.inboxes.length = id then next.line left
      else system.line path := by
  have inside := (List.getElem?_eq_some_iff.1 works).1
  have inside' := (List.getElem?_eq_some_iff.1 found).1
  rw [line, line, lineOf, lineOf]
  simp only [putWriter, List.length_set, place]
  by_cases here : shardOf path system.shared.inboxes.length = id
  · rw [if_pos here, here, List.getElem?_set_self inside, List.getElem?_set_self inside']
    rfl
  · rw [if_neg here, List.getElem?_set_ne (Ne.symm here), List.getElem?_set_ne (Ne.symm here)]

theorem exists_spill_putWriter (place : next.id = id) (works : system.writers[id]? = some writer)
    (file : ∀ id, writer.spill.file = some id → next.spill.file = some id) :
    ∀ spill ∈ system.spills, ∃ spill' ∈ (system.putWriter next left disk).spills,
      ∀ id, spill.file = some id → spill'.file = some id := by
  have inside := (List.getElem?_eq_some_iff.1 works).1
  intro spill mem
  rcases List.mem_cons.1 mem with rfl | mem
  · exact ⟨_, List.mem_cons_self, fun _ file => file⟩
  rcases List.mem_append.1 mem with mem | mem
  · exact ⟨spill, List.mem_cons_of_mem _ (List.mem_append_left _ mem), fun _ file => file⟩
  obtain ⟨other, among, rfl⟩ := List.mem_map.1 mem
  obtain ⟨shard, there⟩ := List.mem_iff_getElem?.1 among
  have put {third : Writer} (there : (system.writers.set id next)[shard]? = some third) :
      third.spill ∈ (system.putWriter next left disk).spills := by
    rw [← place] at there
    exact List.mem_cons_of_mem _ (List.mem_append_right _
      (List.mem_map_of_mem (List.mem_of_getElem? there)))
  by_cases here : id = shard
  · subst here
    cases works.symm.trans there
    exact ⟨next.spill, put (List.getElem?_set_self inside), file⟩
  · exact ⟨other.spill, put ((List.getElem?_set_ne here).trans there), fun _ file => file⟩

theorem unharmed_of_putWriter (place : next.id = id) (works : system.writers[id]? = some writer)
    (losses : writer.losses <:+ next.losses)
    (unharmed : (system.putWriter next left disk).Unharmed) :
    system.Unharmed ∧ next.losses = [] := by
  have inside := (List.getElem?_eq_some_iff.1 works).1
  have set (shard : Nat) (other : Writer)
      (there : (system.writers.set id next)[shard]? = some other) : other.losses = [] := by
    rw [← place] at there
    exact unharmed other (List.mem_of_getElem? there)
  have none := set id next (List.getElem?_set_self inside)
  refine ⟨fun other mem => ?_, none⟩
  obtain ⟨shard, there⟩ := List.mem_iff_getElem?.1 mem
  by_cases here : id = shard
  · subst here
    cases works.symm.trans there
    exact List.suffix_nil.1 (none ▸ losses)
  · exact set shard other ((List.getElem?_set_ne here).trans there)

/-- A writer takes results out of its line only to spill or to commit them. -/
theorem Secured.turn (secured : system.Secured file directory start stored)
    {next : Writer × Disk} (works : system.writers[id]? = some writer)
    (found : system.shared.inboxes[id]? = some inbox) (stays : writer.finished = false)
    (turn : writer.Turn system.shared.disk inbox next left) :
    (system.putWriter next.1 left next.2).Secured file directory start fun result =>
      stored result ∨ system.Commits (system.putWriter next.1 left next.2) file result := by
  have mem := List.mem_of_getElem? works
  have inside := (List.getElem?_eq_some_iff.1 works).1
  have known := secured.known writer.spill
    (List.mem_cons_of_mem _ (List.mem_append_right _ (List.mem_map_of_mem mem)))
  have there : writer.connection.file < system.shared.disk.nextFile := by
    rw [secured.connections writer mem]
    exact secured.database
  have owns := fun result mem => (secured.buffers id writer works result mem).1
  have owns' := fun result mem => (secured.queues id inbox found result mem).1
  obtain ⟨continues, arranged⟩ := secured.toArranged.turn works found turn
  have place : next.1.id = id := continues.id.trans (secured.ids id writer works)
  have spills := @exists_spill_putWriter system id writer next.1 left next.2 place works
    continues.file
  refine secured.advance arranged continues.evolves
    (fun unharmed => (unharmed_of_putWriter place works continues.losses unharmed).1)
    (fun unharmed result secures => ?_) (fun working => ?_) fun _ => Or.inl
  · obtain ⟨-, none⟩ := unharmed_of_putWriter place works continues.losses unharmed
    rcases secures with waits | spilled | stored
    · by_cases here : shardOf result.filePath system.shared.inboxes.length = id
      · rw [line_of_shard works found here] at waits
        have each := turn.each secured.numbered known there owns owns' stays none secured.since
        rcases each result waits with waits | holds | commits
        · refine Or.inl ?_
          rwa [line_putWriter place works found, if_pos here]
        · refine Or.inr (Or.inl ⟨next.1.spill, ?_, holds⟩)
          refine List.mem_cons_of_mem _ (List.mem_append_right _ (List.mem_map_of_mem ?_))
          exact List.mem_of_getElem? (place ▸ List.getElem?_set_self inside)
        · refine Or.inr (Or.inr (Or.inr ⟨writer, next.1, ?_, ?_, ?_, commits⟩))
          · rwa [← secured.inboxes, here]
          · rw [← secured.inboxes, here, putWriter, place]
            exact List.getElem?_set_self inside
          · exact secured.connections writer mem
      · refine Or.inl ?_
        rwa [line_putWriter place works found, if_neg here]
    · exact Or.inr (Or.inl (spilled.of_spills continues.evolves spills))
    · exact Or.inr (Or.inr (Or.inl stored))
  · have staying := secured.staying working
    obtain ⟨still, open_⟩ := turn.stays secured.numbered known there owns owns' stays
      (staying.open_ inbox (List.mem_of_getElem? found))
    refine ⟨working, ⟨fun other among => ?_, fun other among => ?_⟩, fun _ => Or.inl⟩
    · rcases List.mem_or_eq_of_mem_set among with among | rfl
      · exact staying.open_ other among
      · exact open_
    · rcases List.mem_or_eq_of_mem_set among with among | rfl
      · exact staying.stays other among
      · exact still

end Writers

/-! ## All threads -/

theorem Secured.mono (secured : system.Secured file directory start stored)
    (more : ∀ result, stored result → stored' result) :
    system.Secured file directory start stored' := by
  have later {result : ExtractionResult} (secures : system.Secures start stored result) :
      system.Secures start stored' result := secures.imp_right (·.imp_right (more result))
  exact secured.advance secured.toArranged (Evolves.refl _) (fun unharmed => unharmed)
    (fun _ _ => later) (fun working => ⟨working, secured.staying working, fun _ => Or.inl⟩)
    fun _ => Or.inl

/-- Signs of life, the passing of time and interruptions take no result away. -/
theorem Secured.share (secured : system.Secured file directory start stored) {shared : Shared}
    {told : List WorkerEvent} (inboxes : shared.inboxes = system.shared.inboxes)
    (disk : shared.disk = system.shared.disk)
    (events : shared.events.waiting = system.shared.events.waiting ++ told)
    (silent : outcomesOf told = []) :
    { system with shared := shared }.Secured file directory start stored := by
  have retains : system.Retains { system with shared := shared } := by
    refine ⟨disk ▸ Evolves.refl _, fun spill mem => ⟨spill, mem, fun _ file => file⟩, ?_⟩
    intro path
    rw [line, line, inboxes]
    exact List.Subset.refl _
  refine secured.advance (secured.toArranged.share inboxes disk) retains.evolves
    (fun unharmed => unharmed) (fun _ result => retains.secures) (fun working => ?_)
    fun _ => Or.inl
  have staying := secured.staying working
  refine ⟨working, ⟨inboxes ▸ staying.open_, staying.stays⟩, fun outcome mem => Or.inl ?_⟩
  rwa [outcomes, events, outcomesOf_append, silent, List.append_nil] at mem

/-- Whatever a thread does, results stay safe, or are committed by it. -/
theorem Secured.moves (secured : system.Secured file directory start stored)
    (moves : system.Moves after) :
    after.Secured file directory start fun result =>
      stored result ∨ system.Commits after file result := by
  have retained {after : System} (secured : after.Secured file directory start stored) :
      after.Secured file directory start fun result =>
        stored result ∨ system.Commits after file result := secured.mono fun _ => Or.inl
  cases moves with
  | manage stepped => exact retained (secured.managed stepped)
  | work mem goes =>
      obtain ⟨front, back, split, same⟩ := exists_withStep secured.workers mem goes.id
      exact retained (same ▸ secured.goes split goes)
  | beat _ _ reported =>
      obtain ⟨told, inboxes, disk, events, silent⟩ := Shared.report?_heartbeat reported
      exact retained (secured.share inboxes disk events silent)
  | serve works found stays turn => exact secured.turn works found stays turn
  | pass | interrupt => exact retained (secured.share rfl rfl (List.append_nil _).symm rfl)

/-- Along a course, results stay safe, or are committed. -/
theorem Secured.run (secured : system.Secured file directory start stored) (course : List Move) :
    (system.run course).Secured file directory start fun result =>
      stored result ∨ system.EverCommits file result course := by
  induction course generalizing system stored with
  | nil => exact secured.mono fun _ => Or.inl
  | cons move course induction =>
      have stepped : (system.step move).Secured file directory start fun result =>
          stored result ∨ system.Commits (system.step move) file result :=
        step_induction
          (fun after => after.Secured file directory start fun result =>
            stored result ∨ system.Commits after file result)
          (secured.mono fun _ => Or.inl) (fun _ => secured.moves) move
      exact (induction stepped).mono fun result => or_assoc.1

/-- When all writers have left, each result that the manager was told of is in a spill file or was
stored. -/
theorem Secured.settled (secured : system.Secured file directory start stored)
    (ended : ∀ writer ∈ system.writers, writer.finished = true) (unharmed : system.Unharmed)
    {recorded : Recorded} (mem : recorded ∈ system.manager.history)
    (accepted : recorded.outcome.Accepted) :
    system.SpilledSince start recorded.outcome.result ∨ stored recorded.outcome.result := by
  refine (secured.recorded recorded mem accepted unharmed).resolve_left fun waits => ?_
  rw [line_of_left ended] at waits
  exact absurd waits List.not_mem_nil

end System

end PartsList
