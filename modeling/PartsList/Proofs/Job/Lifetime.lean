import PartsList.Proofs.Job.Protocol

/-!
# The lifetime of a worker

A worker waits for nothing but commands, room for what it has to tell, and for a limited time room
for a result in its writer's inbox.  So a worker that finds its tasks in the queue, with the command
to leave behind them or nothing more to come, goes through all of them and leaves, unless the engine
takes it down on the way, and the manager is told of each in its turn.
-/

namespace PartsList

/-! ## Room for what is told -/

namespace Shared

variable {shared : Shared} {count more : Nat}

/-- The manager has room for so many more events, or it takes no notice of them. -/
def Hears (shared : Shared) (count : Nat) : Prop :=
  shared.events.receiverGone = true ∨ shared.events.waiting.length + count ≤ shared.events.capacity

theorem Hears.mono (hears : shared.Hears more) (less : count ≤ more) : shared.Hears count :=
  hears.imp_right fun room => by omega

theorem Hears.report? (hears : shared.Hears (count + 1)) (event : WorkerEvent) :
    ∃ after, shared.report? event = some after ∧ after.tasks = shared.tasks ∧
      after.Hears count := by
  cases deaf : shared.events.receiverGone with
  | true => exact ⟨shared, by simp [Shared.report?, deaf], rfl, Or.inl deaf⟩
  | false =>
      have room : shared.events.waiting.length + (count + 1) ≤ shared.events.capacity := by
        simpa [Hears, deaf] using hears
      have free : shared.events.waiting.length < shared.events.capacity := by omega
      have reported : shared.report? event = some { shared with
          events := { shared.events with waiting := shared.events.waiting ++ [event] } } := by
        simp [Shared.report?, deaf, Channel.send?, Channel.hasRoom, free]
      refine ⟨_, reported, rfl, Or.inr ?_⟩
      simp only [List.length_append, List.length_singleton]
      omega

end Shared

namespace Worker

variable {rules : WorkerRules} {worker : Worker} {shared ended : Shared} {task : Task}
  {queued : List Task} {queue : Channel Command} {steps : List Step} {step : Step} {id : WorkerId}

/-- A worker has to wait until a writer has room for its result.  It does so only if it is patient,
and no longer than until the result has to be delivered, counted from when the task was taken. -/
def AwaitsWriter (rules : WorkerRules) (patient : Bool) (worker : Worker)
    (shared : Shared) : Prop :=
  patient = true ∧ ∃ task since result, worker.phase = .delivering task since result ∧
    shared.writerIsFull result.filePath = true ∧ shared.now < deadline rules since

/-- A worker stands still when it has left, when it has to wait for a command, until the manager has
room, or until a writer has. -/
theorem standsStill_of_step? {patient : Bool} (still : worker.step? rules patient shared = none) :
    (∃ broken, worker.phase = .gone broken) ∨
      (worker.phase = .idle ∧ shared.tasks.waiting = [] ∧ shared.tasks.senderGone = false) ∨
      ¬ shared.Hears 1 ∨ AwaitsWriter rules patient worker shared := by
  have deaf (event : WorkerEvent) (refused : ∀ after, shared.report? event ≠ some after) :
      ¬ shared.Hears 1 := by
    intro hears
    obtain ⟨after, reported, -⟩ := hears.report? event
    exact refused after reported
  unfold step? at still
  cases phase : worker.phase with
  | idle =>
      simp only [phase, take?, Channel.receive?] at still
      cases waiting : shared.tasks.waiting with
      | nil => simp_all
      | cons command rest => cases command <;> simp [waiting] at still
  | announcing task since => exact Or.inr (Or.inr (Or.inl (deaf _ (by simpa [phase] using still))))
  | processing task since => simp [phase] at still
  | delivering task since result =>
      have waits : patient = true ∧ shared.writerIsFull result.filePath = true ∧
          shared.now < deadline rules since := by
        simpa [phase] using still
      obtain ⟨patient, full, early⟩ := waits
      exact Or.inr (Or.inr (Or.inr ⟨patient, task, since, result, phase, full, early⟩))
  | reporting outcome => exact Or.inr (Or.inr (Or.inl (deaf _ (by simpa [phase] using still))))
  | leaving broken => exact Or.inr (Or.inr (Or.inl (deaf _ (by simpa [phase] using still))))
  | gone broken => exact Or.inl ⟨broken, rfl⟩

/-! ## Queues that end -/

/-- Behind the tasks that wait stands the command to leave, or there is nothing more to come. -/
def Closes (queued : List Task) (queue : Channel Command) : Prop :=
  (∃ rest, queue.waiting = queued.map .process ++ .stop :: rest) ∨
    queue.waiting = queued.map .process ∧ queue.senderGone = true

theorem Closes.receive?_nil (closes : Closes [] queue) :
    (∃ rest, queue.receive? = some (.stop, rest)) ∨
      queue.receive? = none ∧ queue.senderGone = true := by
  rcases closes with ⟨rest, waiting⟩ | ⟨waiting, closed⟩
  · exact Or.inl ⟨{ queue with waiting := rest }, by simp [Channel.receive?, waiting]⟩
  · exact Or.inr ⟨by simp [Channel.receive?, waiting], closed⟩

theorem Closes.receive?_cons (closes : Closes (task :: queued) queue) :
    ∃ rest, queue.receive? = some (.process task, rest) ∧ Closes queued rest := by
  rcases closes with ⟨rest, waiting⟩ | ⟨waiting, closed⟩
  · refine ⟨{ queue with waiting := queued.map .process ++ .stop :: rest }, ?_, Or.inl ⟨rest, rfl⟩⟩
    simp [Channel.receive?, waiting]
  · refine ⟨{ queue with waiting := queued.map .process }, ?_, Or.inr ⟨rfl, closed⟩⟩
    simp [Channel.receive?, waiting]

/-! ## Steps that join -/

/-- Nobody comes between the steps: each begins with what the one before has left. -/
def Joins : Shared → List Step → Shared → Prop
  | shared, [], ended => shared = ended
  | shared, step :: steps, ended => step.before = shared ∧ Joins step.after steps ended

theorem exists_course_run (rules : WorkerRules) (fuel : Nat) (worker : Worker) (shared : Shared) :
    ∃ steps, Course rules false worker steps (worker.run rules fuel shared).1 ∧
      Joins shared steps (worker.run rules fuel shared).2 := by
  induction fuel generalizing worker shared with
  | zero => exact ⟨[], .rest worker, rfl⟩
  | succ fuel induction =>
      unfold run
      split
      · exact ⟨[], .rest worker, rfl⟩
      · next next after stepped =>
          obtain ⟨steps, course, joins⟩ := induction next after
          exact ⟨_, .step stepped course, rfl, joins⟩

/-- The event that a worker tells. -/
def Doing.event? : Doing → Option WorkerEvent
  | .tells event => some event
  | _ => none

theorem Doing.Changes.events {before after : Shared} {doing : Doing}
    (changes : doing.Changes before after) :
    after.events.receiverGone = before.events.receiverGone ∧
      (before.events.receiverGone = false →
        after.events.waiting = before.events.waiting ++ doing.event?.toList) := by
  cases doing with
  | takes command =>
      cases command with
      | none =>
          obtain ⟨-, -, rfl⟩ := changes
          simp [Doing.event?]
      | some command =>
          obtain ⟨tasks, -, rfl⟩ := changes
          simp [Doing.event?]
  | tells event =>
      obtain ⟨events, rfl, listens, waiting⟩ := Shared.exists_events_of_report? changes
      exact ⟨listens, fun hears => by simpa [Doing.event?, hears] using waiting⟩
  | works task =>
      obtain ⟨_, _, _, rfl⟩ := changes
      simp [Doing.event?]
  | delivers spill result =>
      cases changes
      simp [Doing.event?, Shared.afterRouting]
  | rests => exact changes.elim

/-- Only taking a command changes the queue of commands. -/
theorem Doing.Changes.tasks {before after : Shared} {doing : Doing}
    (changes : doing.Changes before after) (other : ∀ command, doing ≠ .takes command) :
    after.tasks = before.tasks := by
  cases doing with
  | takes command => exact absurd rfl (other command)
  | tells event =>
      obtain ⟨events, rfl, -⟩ := Shared.exists_events_of_report? changes
      rfl
  | works task =>
      obtain ⟨_, _, _, rfl⟩ := changes
      rfl
  | delivers spill result =>
      cases changes
      rfl
  | rests => exact changes.elim

/-- The manager finds what the worker tells, in the order in which it does. -/
theorem Joins.events (joins : Joins shared steps ended) (shows : ∀ step ∈ steps, step.Shows)
    (listens : shared.events.receiverGone = false) :
    ended.events.waiting = shared.events.waiting ++ steps.filterMap (·.doing.event?) := by
  induction steps generalizing shared with
  | nil =>
      obtain rfl := joins
      simp
  | cons step steps induction =>
      obtain ⟨rfl, joins⟩ := joins
      obtain ⟨first, behind⟩ := List.forall_mem_cons.1 shows
      obtain ⟨same, events⟩ := first.events
      rw [induction joins behind (same.trans listens), events listens, List.append_assoc,
        List.filterMap_cons]
      cases step.doing.event? <;> rfl

/-! ## Through the queue -/

/-- Steps that take no command leave the queue of commands to those behind them. -/
theorem Joins.tasks {behind : List Step} (joins : Joins shared (steps ++ behind) ended)
    (shows : ∀ step ∈ steps, step.Shows)
    (other : ∀ step ∈ steps, ∀ command, step.doing ≠ .takes command) :
    ∃ between, Joins between behind ended ∧ between.tasks = shared.tasks := by
  induction steps generalizing shared with
  | nil => exact ⟨shared, joins, rfl⟩
  | cons step steps induction =>
      obtain ⟨rfl, joins⟩ := joins
      obtain ⟨first, shows⟩ := List.forall_mem_cons.1 shows
      obtain ⟨quiet, other⟩ := List.forall_mem_cons.1 other
      obtain ⟨between, joins, same⟩ := induction joins shows other
      exact ⟨between, joins, same.trans (first.tasks quiet)⟩

/-- Whoever takes a task takes the first that waits. -/
theorem Doing.Changes.takes {before after : Shared} {doing : Doing}
    (changes : doing.Changes before after) (takes : doing = .takes (some (.process task)))
    (closes : Closes queued before.tasks) :
    ∃ later, queued = task :: later ∧ Closes later after.tasks := by
  subst takes
  obtain ⟨tasks, received, rfl⟩ := changes
  cases queued with
  | nil =>
      rcases closes.receive?_nil with ⟨rest, other⟩ | ⟨other, -⟩
      · rw [received] at other
        cases other
      · rw [received] at other
        cases other
  | cons first later =>
      obtain ⟨rest, other, behind⟩ := closes.receive?_cons
      rw [received] at other
      cases other
      exact ⟨later, rfl, behind⟩

/-- A chapter takes one task from the queue, the first that waits. -/
theorem Chapter.tasks {behind : List Step} (chapter : Chapter rules id task steps)
    (shows : ∀ step ∈ steps, step.Shows) (joins : Joins shared (steps ++ behind) ended)
    (closes : Closes queued shared.tasks) :
    ∃ later between, queued = task :: later ∧ Joins between behind ended ∧
      Closes later between.tasks := by
  have split : ∃ taken others, steps = taken :: others ∧
      taken.doing = .takes (some (.process task)) ∧
      ∀ step ∈ others, ∀ command, step.doing ≠ .takes command := by
    cases chapter with
    | late takes starts works _ ends =>
        exact ⟨_, _, rfl, takes, by simp [starts, works, ends]⟩
    | inTime takes starts works _ sends _ ends =>
        exact ⟨_, _, rfl, takes, by simp [starts, works, sends, ends]⟩
  obtain ⟨taken, others, rfl, takes, quiet⟩ := split
  obtain ⟨rfl, joins⟩ := joins
  obtain ⟨first, shows⟩ := List.forall_mem_cons.1 shows
  obtain ⟨later, rfl, left⟩ := first.takes takes closes
  obtain ⟨between, joins, same⟩ := joins.tasks shows quiet
  exact ⟨later, between, rfl, joins, same ▸ left⟩

/-- A worker that is left alone takes the tasks that wait, in their order, and none but these. -/
theorem Story.tasks {finished : List Task} {lost : Option Task}
    (story : Story rules id finished lost steps) (shows : ∀ step ∈ steps, step.Shows)
    (joins : Joins shared steps ended) (closes : Closes queued shared.tasks) :
    finished ++ lost.toList <+: queued ∧ (lost = none → finished = queued) := by
  induction story generalizing shared queued with
  | @leave taken left command takes none leaves =>
      obtain ⟨rfl, -⟩ := joins
      have first := (List.forall_mem_cons.1 shows).1
      refine ⟨List.nil_prefix, fun _ => ?_⟩
      cases queued with
      | nil => rfl
      | cons task later =>
          obtain ⟨rest, received, -⟩ := closes.receive?_cons
          unfold Step.Shows at first
          rw [takes] at first
          cases command with
          | none =>
              obtain ⟨empty, -, -⟩ := first
              simp [Channel.receive?, empty] at received
          | some command =>
              obtain ⟨tasks, same, -⟩ := first
              rw [received] at same
              cases same
              exact absurd rfl (none task)
  | crash takes =>
      obtain ⟨rfl, -⟩ := joins
      have first := (List.forall_mem_cons.1 shows).1
      obtain ⟨later, rfl, -⟩ := first.takes takes closes
      exact ⟨⟨later, rfl⟩, nofun⟩
  | @chapter task tasks lost steps behind first story induction =>
      obtain ⟨showsFirst, showsLater⟩ := List.forall_mem_append.1 shows
      obtain ⟨later, between, rfl, joins, closes⟩ := first.tasks showsFirst joins closes
      obtain ⟨front, all⟩ := induction showsLater joins closes
      exact ⟨(List.prefix_cons_inj task).2 front, fun none => by rw [all none]⟩

/-! ## To the end -/

/-- How many events a worker has still to tell, with so many tasks in the queue. -/
def untold (queued : Nat) : WorkerPhase → Nat
  | .idle => 2 * queued + 1
  | .announcing _ _ => 2 * queued + 3
  | .processing _ _ | .delivering _ _ _ | .reporting _ => 2 * queued + 2
  | .leaving _ => 1
  | .gone _ => 0

/-- How many steps a worker has still to take at most, with so many tasks in the queue. -/
def stepsLeft (queued : Nat) : WorkerPhase → Nat
  | .idle => 5 * queued + 2
  | .announcing _ _ => 5 * queued + 6
  | .processing _ _ => 5 * queued + 5
  | .delivering _ _ _ => 5 * queued + 4
  | .reporting _ => 5 * queued + 3
  | .leaving _ => 1
  | .gone _ => 0

/-- The worker need not wait for anything any more. -/
structure Ready (phase : WorkerPhase) (queued : List Task) (shared : Shared) : Prop where
  /-- There is room for what it has to tell. -/
  hears : shared.Hears (untold queued.length phase)
  /-- The queue comes to an end, if the worker asks for it. -/
  closes : (∃ broken, phase = .leaving broken) ∨ (∃ broken, phase = .gone broken) ∨
    Closes queued shared.tasks

section Steps

variable {spill : SpillFile} {since : Instant}

/-- A worker that need not wait takes a step, after which it need not wait either, and there is less
for it to do. -/
def Proceeds (rules : WorkerRules) (worker : Worker) (queued : List Task)
    (shared : Shared) : Prop :=
  ∃ next after later, worker.step? rules false shared = some (next, after) ∧
    Ready next.phase later after ∧
    stepsLeft later.length next.phase < stepsLeft queued.length worker.phase

theorem proceeds_idle (rules : WorkerRules) (hears : shared.Hears (2 * queued.length + 1))
    (closes : Closes queued shared.tasks) : Proceeds rules ⟨id, spill, .idle⟩ queued shared := by
  cases queued with
  | nil =>
      rcases closes.receive?_nil with ⟨rest, received⟩ | ⟨received, closed⟩
      · refine ⟨⟨id, spill, .leaving false⟩, { shared with tasks := rest }, [],
          by simp [step?, take?, received], ⟨hears, Or.inl ⟨false, rfl⟩⟩, ?_⟩
        simp [stepsLeft]
      · refine ⟨⟨id, spill, .leaving false⟩, shared, [],
          by simp [step?, take?, received, closed], ⟨hears, Or.inl ⟨false, rfl⟩⟩, ?_⟩
        simp [stepsLeft]
  | cons task later =>
      obtain ⟨rest, received, closes⟩ := closes.receive?_cons
      refine ⟨⟨id, spill, .announcing task shared.now⟩, { shared with tasks := rest }, later,
        by simp [step?, take?, received], ⟨hears, Or.inr (Or.inr closes)⟩, ?_⟩
      simp only [stepsLeft, List.length_cons]
      omega

theorem proceeds_processing (rules : WorkerRules) (hears : shared.Hears (2 * queued.length + 2))
    (closes : Closes queued shared.tasks) :
    Proceeds rules ⟨id, spill, .processing task since⟩ queued shared := by
  obtain ⟨found, loads, now, interrupted, processed⟩ := exists_process rules task.path shared
  cases found with
  | none =>
      have later : Shared.Hears
          { shared with loads := loads, now := now, interrupted := interrupted }
          (2 * queued.length + 2) := hears
      refine ⟨⟨id, spill, .leaving true⟩, _, queued, by simp [step?, work, processed],
        ⟨later.mono (by simp [untold]), Or.inl ⟨true, rfl⟩⟩, ?_⟩
      simp [stepsLeft]
  | some result =>
      have stepped : step? rules false ⟨id, spill, .processing task since⟩ shared =
          some (⟨id, spill,
              judge rules task since shared.now (now + leastElapsed) shared.memoryMb result⟩,
            { shared with
              loads := loads, now := now + leastElapsed, interrupted := interrupted }) := by
        simp [step?, work, processed, Shared.memoryMb]
      refine ⟨_, _, queued, stepped, ⟨?_, Or.inr (Or.inr closes)⟩, ?_⟩
      · unfold judge
        split <;> exact hears
      · unfold judge
        split <;> simp [stepsLeft]

theorem Ready.proceeds (rules : WorkerRules) (ready : Ready worker.phase queued shared)
    (stays : ∀ broken, worker.phase ≠ .gone broken) : Proceeds rules worker queued shared := by
  obtain ⟨id, spill, phase⟩ := worker
  obtain ⟨hears, closes⟩ := ready
  dsimp only at hears closes stays
  cases phase with
  | idle => exact proceeds_idle rules hears (by simpa using closes)
  | announcing task since =>
      have closes : Closes queued shared.tasks := by simpa using closes
      obtain ⟨after, reported, same, hears⟩ := hears.report? (.started id task.id since)
      refine ⟨⟨id, spill, .processing task since⟩, after, queued, by simp [step?, reported],
        ⟨hears, Or.inr (Or.inr (same ▸ closes))⟩, ?_⟩
      simp [stepsLeft]
  | processing task since => exact proceeds_processing rules hears (by simpa using closes)
  | delivering task since result =>
      have closes : Closes queued shared.tasks := by simpa using closes
      refine ⟨_, _, queued, rfl, ⟨hears, Or.inr (Or.inr closes)⟩, ?_⟩
      simp [stepsLeft]
  | reporting outcome =>
      have closes : Closes queued shared.tasks := by simpa using closes
      obtain ⟨after, reported, same, hears⟩ := hears.report? (.finished id outcome)
      refine ⟨⟨id, spill, .idle⟩, after, queued, by simp [step?, reported],
        ⟨hears, Or.inr (Or.inr (same ▸ closes))⟩, ?_⟩
      simp [stepsLeft]
  | leaving broken =>
      obtain ⟨after, reported, -, hears⟩ := hears.report? (.exited id)
      refine ⟨⟨id, spill, .gone broken⟩, after, queued, by simp [step?, reported],
        ⟨hears, Or.inr (Or.inl ⟨broken, rfl⟩)⟩, ?_⟩
      simp [stepsLeft]
  | gone broken => exact absurd rfl (stays broken)

end Steps

theorem run_of_gone {broken : Bool} (gone : worker.phase = .gone broken) (fuel : Nat) :
    (worker.run rules fuel shared).1 = worker := by
  cases fuel with
  | zero => rfl
  | succ fuel => simp [run, step?, gone]

/-- A worker that need not wait leaves. -/
theorem Ready.leaves (rules : WorkerRules) {fuel : Nat} (ready : Ready worker.phase queued shared)
    (enough : stepsLeft queued.length worker.phase ≤ fuel) :
    ∃ broken, (worker.run rules fuel shared).1.phase = .gone broken := by
  induction fuel generalizing worker queued shared with
  | zero =>
      cases phase : worker.phase with
      | gone broken => exact ⟨broken, phase⟩
      | _ =>
          rw [phase] at enough
          simp [stepsLeft] at enough
  | succ fuel induction =>
      by_cases gone : ∃ broken, worker.phase = .gone broken
      · obtain ⟨broken, gone⟩ := gone
        rw [run_of_gone gone]
        exact ⟨broken, gone⟩
      · obtain ⟨next, after, later, stepped, ready, less⟩ :=
          ready.proceeds rules (not_exists.1 gone)
        simp only [run, stepped]
        exact induction ready (by omega)

/-- Whatever others do between its steps, a worker goes by the protocol: for each task it tells when
it took it and then what became of it, and at last that it leaves, and after that it does nothing
any more.  A file that took too long, from when its task was taken, ends in a timeout, and of it
nothing is delivered; of any other the very result that the outcome tells of is delivered, once.  If
nobody interferes and the manager has room, a worker whose queue comes to an end brings all tasks in
it to theirs, unless the engine takes it down on the way. -/
theorem workers_go_by_the_protocol (rules : WorkerRules) (id : WorkerId) (spillDirectory : Path) :
    (∀ patient steps last, Course rules patient (start id spillDirectory) steps last →
      (∀ step ∈ steps, step.Shows) ∧
      ∀ broken, last.phase = .gone broken →
        (∃ finished lost, Story rules id finished lost steps ∧ broken = lost.isSome) ∧
        ∀ shared, last.step? rules patient shared = none) ∧
    (∀ patient (worker : Worker) (shared : Shared), worker.step? rules patient shared = none →
      (∃ broken, worker.phase = .gone broken) ∨
        (worker.phase = .idle ∧ shared.tasks.waiting = [] ∧ shared.tasks.senderGone = false) ∨
        ¬ shared.Hears 1 ∨ AwaitsWriter rules patient worker shared) ∧
    ∀ (shared : Shared) (queued : List Task), Closes queued shared.tasks →
      shared.Hears (2 * queued.length + 1) → ∃ steps last ended finished lost,
        runAll rules (start id spillDirectory) shared = (last, ended) ∧
        Course rules false (start id spillDirectory) steps last ∧ Joins shared steps ended ∧
        Story rules id finished lost steps ∧ last.phase = .gone lost.isSome ∧
        finished ++ lost.toList <+: queued ∧ (lost = none → finished = queued) ∧
        (shared.events.receiverGone = false → ended.events.waiting =
          shared.events.waiting ++ steps.filterMap (·.doing.event?)) := by
  refine ⟨fun patient steps last course => ⟨course.shows, fun broken gone => ?_⟩,
    fun patient worker shared => standsStill_of_step?, fun shared queued closes hears => ?_⟩
  · exact ⟨course.story gone, fun shared => by simp [step?, gone]⟩
  · obtain ⟨steps, course, joins⟩ := exists_course_run rules
      (stepsFor shared.tasks.waiting.length) (start id spillDirectory) shared
    have enough : stepsLeft queued.length .idle ≤ stepsFor shared.tasks.waiting.length := by
      have most : queued.length ≤ shared.tasks.waiting.length := by
        rcases closes with ⟨rest, waiting⟩ | ⟨waiting, -⟩ <;> simp [waiting]
      simp only [stepsLeft, stepsFor]
      omega
    have ready : Ready (start id spillDirectory).phase queued shared :=
      ⟨hears, Or.inr (Or.inr closes)⟩
    obtain ⟨broken, gone⟩ := ready.leaves rules enough
    obtain ⟨finished, lost, story, rfl⟩ := course.story gone
    obtain ⟨front, all⟩ := story.tasks course.shows joins closes
    exact ⟨steps, _, _, finished, lost, rfl, course, joins, story, gone, front, all,
      joins.events course.shows⟩

/-- Two attempts at a file wait, with one at another file between them, and nobody will send any
more. -/
def smallShared : Shared where
  tasks :=
    ⟨3, [.process ⟨1, ⟨"a"⟩, 1⟩, .process ⟨2, ⟨"b"⟩, 1⟩, .process ⟨3, ⟨"a"⟩, 2⟩], false, true⟩
  events := { capacity := 7 }
  inboxes := []
  disk :=
    { entries := [(["a"], .file 0), (["b"], .file 0)]
      contents := [(0, .ofBytes [1])]
      nextFile := 1 }
  today := ⟨0, 0⟩

/-- An engine that breaks down on each file at first, on one of them after too long a time, and that
takes the worker down the next time. -/
def smallRules : WorkerRules where
  pipeline := ⟨{}, 9, none⟩
  engine := fun path time =>
    { outcome := if time = 1 then .brokeDown "broken" else .crashed
      elapsed := if path = ⟨"b"⟩ then 20 else 0 }
  timeout := 9

/-- The deliveries of which the manager is told. -/
def deliveries (events : List WorkerEvent) : List Delivery :=
  events.filterMap fun event =>
    match event with
    | .finished _ outcome => some outcome.delivery
    | _ => none

/-- The worker has gone down without a word. -/
def hasBroken : WorkerPhase → Bool
  | .gone broken => broken
  | _ => false

theorem workers_go_by_the_protocol_small :
    ∃ steps finished task, Story smallRules 0 finished (some task) steps ∧
      finished ++ [task] <+: [⟨1, ⟨"a"⟩, 1⟩, ⟨2, ⟨"b"⟩, 1⟩, ⟨3, ⟨"a"⟩, 2⟩] ∧
      (runAll smallRules (start 0 ⟨"spill"⟩) smallShared).2.events.waiting =
        steps.filterMap (·.doing.event?) ∧
      deliveries (steps.filterMap (·.doing.event?)) = [.fallback, .withheld] := by
  obtain ⟨steps, last, ended, finished, lost, run, -, -, story, gone, front, -, events⟩ :=
    (workers_go_by_the_protocol smallRules 0 ⟨"spill"⟩).2.2 smallShared
      [⟨1, ⟨"a"⟩, 1⟩, ⟨2, ⟨"b"⟩, 1⟩, ⟨3, ⟨"a"⟩, 2⟩] (Or.inr ⟨rfl, rfl⟩) (Or.inr (by decide))
  obtain ⟨broken, told⟩ :
      hasBroken (runAll smallRules (start 0 ⟨"spill"⟩) smallShared).1.phase = true ∧
        deliveries (runAll smallRules (start 0 ⟨"spill"⟩) smallShared).2.events.waiting =
          [.fallback, .withheld] := by
    decide +kernel
  have same : ended.events.waiting = steps.filterMap (·.doing.event?) := events rfl
  simp only [run, gone, hasBroken, same] at broken told ⊢
  obtain ⟨task, rfl⟩ := Option.isSome_iff_exists.1 broken
  exact ⟨steps, finished, task, story, front, rfl, told⟩

end Worker

end PartsList
