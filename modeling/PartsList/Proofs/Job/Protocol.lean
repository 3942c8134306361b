import PartsList.Proofs.Job.Moves
import PartsList.Proofs.Job.Results

/-!
# What a worker lets others know

Seen from outside, a worker takes one command after the other.  It tells the manager when it took a
task and then what became of it, and in between it hands over the result once, unless the file took
too long from the moment at which the task was taken.  An engine that breaks down spoils one file
and none that comes after it; an engine that takes the worker down leaves a task without an end.  In
either case the last thing that a worker tells is that it leaves.  All this holds whatever others do
to what the threads share between two steps of the worker.
-/

namespace PartsList

/-- The engine is asked for a file, and this is how that ends. -/
def WorkerRules.Meets (rules : WorkerRules) (path : Path) (shared : Shared) (ending : Loading) :
    Prop :=
  (∃ sizeBytes, rules.pipeline.precheck path (shared.disk.status path) = .ok sizeBytes) ∧
    (rules.engine path (shared.loads.times path + 1)).outcome = ending

namespace Worker

variable {rules : WorkerRules} {patient : Bool} {worker next last : Worker} {shared after : Shared}
  {path : Path} {task : Task} {since : Instant}

theorem process_eq_none_iff :
    (process rules path shared).1 = none ↔ rules.Meets path shared .crashed := by
  unfold process WorkerRules.Meets
  cases rules.pipeline.precheck path (shared.disk.status path) with
  | error refusal => simp
  | ok sizeBytes =>
      dsimp only [load]
      cases (rules.engine path (shared.loads.times path + 1)).outcome <;> simp

theorem process_of_brokeDown {reason : String}
    (broke : rules.Meets path shared (.brokeDown reason)) :
    (process rules path shared).1 = some (breakdown path reason) := by
  obtain ⟨⟨sizeBytes, checked⟩, ending⟩ := broke
  simp only [process, load, checked, ending]

/-! ## Steps as others see them -/

/-- What a worker does in one step. -/
inductive Doing
  /-- It takes a command, or finds that there will be no more. -/
  | takes (command : Option Command)
  /-- It tells the manager something. -/
  | tells (event : WorkerEvent)
  /-- It processes the file of a task. -/
  | works (task : Task)
  /-- It sends a result to its writer, or keeps it in its spill file. -/
  | delivers (spill : SpillFile) (result : ExtractionResult)
  /-- It has left and does nothing. -/
  | rests

/-- What a worker does in its next step. -/
def doing (worker : Worker) (shared : Shared) : Doing :=
  match worker.phase with
  | .idle => .takes (shared.tasks.receive?.map Prod.fst)
  | .announcing task since => .tells (.started worker.id task.id since)
  | .processing task _ => .works task
  | .delivering _ _ result => .delivers worker.spill result
  | .reporting outcome => .tells (.finished worker.id outcome)
  | .leaving _ => .tells (.exited worker.id)
  | .gone _ => .rests

/-- A step of a worker, with what the threads share before and after it. -/
structure Step where
  /-- Before the step. -/
  before : Shared
  /-- What the worker does. -/
  doing : Doing
  /-- After the step. -/
  after : Shared

/-- What a worker does changes of what the threads share what belongs to it, and nothing else.  Only
a delivery sends or spills anything. -/
def Doing.Changes (before after : Shared) : Doing → Prop
  | takes (some command) =>
    ∃ tasks, before.tasks.receive? = some (command, tasks) ∧ after = { before with tasks := tasks }
  | takes none =>
    before.tasks.waiting = [] ∧ before.tasks.senderGone = true ∧ after = before
  | tells event => before.report? event = some after
  | works _ =>
    ∃ loads now interrupted,
      after = { before with loads := loads, now := now, interrupted := interrupted }
  | delivers spill result =>
    after = before.afterRouting (route before.inboxes spill before.disk result)
  | rests => False

/-- The step changes what belongs to it. -/
def Step.Shows (step : Step) : Prop :=
  step.doing.Changes step.before step.after

/-- Steps of a worker, one after the other.  Others may do anything between them. -/
inductive Course (rules : WorkerRules) (patient : Bool) : Worker → List Step → Worker → Prop
  /-- No step. -/
  | rest (worker : Worker) : Course rules patient worker [] worker
  /-- One step, and others behind it. -/
  | step {worker next last : Worker} {shared after : Shared} {steps : List Step}
      (stepped : worker.step? rules patient shared = some (next, after))
      (behind : Course rules patient next steps last) :
      Course rules patient worker (⟨shared, worker.doing shared, after⟩ :: steps) last

/-- What a worker can do in one step, and what it is about to do then. -/
inductive Does (rules : WorkerRules) (id : WorkerId) :
    SpillFile → WorkerPhase → Step → SpillFile → WorkerPhase → Prop
  /-- It takes a task. -/
  | take (spill : SpillFile) (shared : Shared) {task : Task} {tasks : Channel Command}
      (received : shared.tasks.receive? = some (.process task, tasks)) :
      Does rules id spill .idle
        ⟨shared, .takes (some (.process task)), { shared with tasks := tasks }⟩
        spill (.announcing task shared.now)
  /-- It is told to leave. -/
  | stop (spill : SpillFile) (shared : Shared) {tasks : Channel Command}
      (received : shared.tasks.receive? = some (.stop, tasks)) :
      Does rules id spill .idle ⟨shared, .takes (some .stop), { shared with tasks := tasks }⟩
        spill (.leaving false)
  /-- There is nothing more to come. -/
  | close (spill : SpillFile) (shared : Shared) (empty : shared.tasks.waiting = [])
      (closed : shared.tasks.senderGone = true) :
      Does rules id spill .idle ⟨shared, .takes none, shared⟩ spill (.leaving false)
  /-- It tells when it took its task. -/
  | announce (spill : SpillFile) (task : Task) (since : Instant) {shared after : Shared}
      (reported : shared.report? (.started id task.id since) = some after) :
      Does rules id spill (.announcing task since)
        ⟨shared, .tells (.started id task.id since), after⟩ spill (.processing task since)
  /-- The engine takes it down. -/
  | crash (spill : SpillFile) {task : Task} {since : Instant} {shared after : Shared}
      (processed : process rules task.path shared = (none, after)) :
      Does rules id spill (.processing task since) ⟨shared, .works task, after⟩ spill
        (.leaving true)
  /-- It has a result. -/
  | find (spill : SpillFile) {task : Task} {since : Instant} {result : ExtractionResult}
      {shared after : Shared} (processed : process rules task.path shared = (some result, after)) :
      Does rules id spill (.processing task since)
        ⟨shared, .works task, { after with now := after.now + leastElapsed }⟩ spill
        (judge rules task since shared.now (after.now + leastElapsed) after.memoryMb result)
  /-- It hands over the result. -/
  | deliver (spill : SpillFile) (task : Task) (since : Instant) (result : ExtractionResult)
      (shared : Shared) :
      Does rules id spill (.delivering task since result)
        ⟨shared, .delivers spill result,
          shared.afterRouting (route shared.inboxes spill shared.disk result)⟩
        (route shared.inboxes spill shared.disk result).spill
        (.reporting ⟨task.id, result, (route shared.inboxes spill shared.disk result).delivery⟩)
  /-- It tells what became of its task. -/
  | report (spill : SpillFile) {outcome : Outcome} {shared after : Shared}
      (reported : shared.report? (.finished id outcome) = some after) :
      Does rules id spill (.reporting outcome) ⟨shared, .tells (.finished id outcome), after⟩
        spill .idle
  /-- It tells that it leaves. -/
  | leave (spill : SpillFile) (broken : Bool) {shared after : Shared}
      (reported : shared.report? (.exited id) = some after) :
      Does rules id spill (.leaving broken) ⟨shared, .tells (.exited id), after⟩
        spill (.gone broken)

theorem does_of_step? {id : WorkerId} {spill : SpillFile} {phase : WorkerPhase}
    (stepped : step? rules patient ⟨id, spill, phase⟩ shared = some (next, after)) :
    ∃ spill' phase', next = ⟨id, spill', phase'⟩ ∧
      Does rules id spill phase ⟨shared, doing ⟨id, spill, phase⟩ shared, after⟩ spill' phase' := by
  cases goes_of_step? stepped with
  | take idle received =>
      cases idle
      simp only [doing, received, Option.map_some]
      exact ⟨_, _, rfl, .take spill shared received⟩
  | stop idle received =>
      cases idle
      simp only [doing, received, Option.map_some]
      exact ⟨_, _, rfl, .stop spill shared received⟩
  | close idle empty closed =>
      cases idle
      simp only [doing, Channel.receive?_eq_none.2 empty, Option.map_none]
      exact ⟨_, _, rfl, .close spill shared empty closed⟩
  | announce announces reported =>
      cases announces
      exact ⟨_, _, rfl, .announce spill _ _ reported⟩
  | crash processes processed =>
      cases processes
      exact ⟨_, _, rfl, .crash spill processed⟩
  | find processes processed =>
      cases processes
      exact ⟨_, _, rfl, .find spill processed⟩
  | deliver delivers =>
      cases delivers
      exact ⟨_, _, rfl, .deliver spill _ _ _ shared⟩
  | report reports reported =>
      cases reports
      exact ⟨_, _, rfl, .report spill reported⟩
  | leave leaves reported =>
      cases leaves
      exact ⟨_, _, rfl, .leave spill _ reported⟩

/-- Work on a file changes the engine's log, the clock and whether the job is to stop early. -/
theorem shows_work {task : Task} (processed : (process rules path shared).2 = after)
    (now : Instant) :
    Step.Shows ⟨shared, .works task, { after with now := now }⟩ := by
  obtain ⟨found, loads, earlier, interrupted, same⟩ := exists_process rules path shared
  rw [same] at processed
  subst processed
  exact ⟨loads, now, interrupted, rfl⟩

theorem Does.shows {id : WorkerId} {spill spill' : SpillFile} {phase phase' : WorkerPhase}
    {step : Step} (does : Does rules id spill phase step spill' phase') : step.Shows := by
  cases does with
  | take _ received | stop _ received => exact ⟨_, received, rfl⟩
  | close _ empty closed => exact ⟨empty, closed, rfl⟩
  | announce _ _ reported | report reported | leave _ reported => exact reported
  | crash processed => exact shows_work (congrArg Prod.snd processed) _
  | find processed => exact shows_work (congrArg Prod.snd processed) _
  | deliver => exact rfl

/-- A course that leads to the end is at its end, or it begins with a step. -/
theorem Course.uncons {id : WorkerId} {spill : SpillFile} {phase : WorkerPhase} {steps : List Step}
    {broken : Bool} (course : Course rules patient ⟨id, spill, phase⟩ steps last)
    (ends : last.phase = .gone broken) :
    steps = [] ∧ phase = .gone broken ∨
      ∃ step behind spill' phase', steps = step :: behind ∧
        Does rules id spill phase step spill' phase' ∧
        Course rules patient ⟨id, spill', phase'⟩ behind last := by
  cases course with
  | rest => exact Or.inl ⟨rfl, ends⟩
  | step stepped behind =>
      obtain ⟨spill', phase', rfl, does⟩ := does_of_step? stepped
      exact Or.inr ⟨_, _, _, _, rfl, does, behind⟩

theorem Course.shows {steps : List Step} (course : Course rules patient worker steps last) :
    ∀ step ∈ steps, step.Shows := by
  induction course with
  | rest => simp
  | step stepped _ induction =>
      obtain ⟨_, _, _, does⟩ := does_of_step? stepped
      exact List.forall_mem_cons.2 ⟨does.shows, induction⟩

/-! ## What a worker tells of a task -/

/-- An outcome is that of a task, and the worker has lived to tell it. -/
structure Concludes (rules : WorkerRules) (task : Task) (worked : Step) (outcome : Outcome) :
    Prop where
  /-- It has the number of the task, -/
  number : outcome.task = task.id
  /-- its path -/
  filePath : outcome.result.filePath = task.path
  /-- and its attempt. -/
  attempt : outcome.result.attempt = task.attempt
  /-- The engine has not taken the worker down. -/
  survives : ¬ rules.Meets task.path worked.before .crashed

/-- The outcome of a task that was taken at the given time and whose file took too long. -/
structure ConcludesLate (rules : WorkerRules) (task : Task) (since : Instant) (worked : Step)
    (outcome : Outcome) : Prop extends Concludes rules task worked outcome where
  /-- The file took longer than allowed, -/
  overran : rules.timeout < worked.after.now - since
  /-- and that is all that there is to say of it: -/
  errorCode : outcome.result.errorCode = .timeout
  /-- it does not count as a success, -/
  success : outcome.result.success = false
  /-- it has no rows, -/
  rows : outcome.result.rows = []
  /-- and its result is withheld. -/
  delivery : outcome.delivery = .withheld

/-- The outcome of a task that was taken at the given time and whose file did not take too long. -/
structure ConcludesInTime (rules : WorkerRules) (task : Task) (since : Instant) (worked : Step)
    (outcome : Outcome) : Prop extends Concludes rules task worked outcome where
  /-- The file took no longer than allowed. -/
  inTime : worked.after.now - since ≤ rules.timeout
  /-- The outcome has what the worker found, with the number of the attempt and the figures of the
  work. -/
  found : ∃ result, (process rules task.path worked.before).1 = some result ∧
    outcome.result = stamp result task.attempt
      (worked.after.now - measuredFrom result since worked.before.now) worked.after.memoryMb
  /-- An engine that breaks down counts as a failure of the worker. -/
  brokeDown : ∀ reason, rules.Meets task.path worked.before (.brokeDown reason) →
    outcome.result.success = false ∧ outcome.result.errorCode = .workerError ∧
      outcome.result.errorMessage = some ("worker panicked: " ++ reason)

/-- All that a worker does for a task that it brings to an end.  Time counts from when it took the
task, however long it had to wait then until the manager had room. -/
inductive Chapter (rules : WorkerRules) (id : WorkerId) (task : Task) : List Step → Prop
  /-- The file took too long, and nothing is delivered. -/
  | late {taken started worked ended : Step} {outcome : Outcome}
      (takes : taken.doing = .takes (some (.process task)))
      (starts : started.doing = .tells (.started id task.id taken.before.now))
      (works : worked.doing = .works task)
      (concludes : ConcludesLate rules task taken.before.now worked outcome)
      (ends : ended.doing = .tells (.finished id outcome)) :
      Chapter rules id task [taken, started, worked, ended]
  /-- The very result that the outcome tells of is delivered, once. -/
  | inTime {taken started worked sent ended : Step} {outcome : Outcome} {spill : SpillFile}
      (takes : taken.doing = .takes (some (.process task)))
      (starts : started.doing = .tells (.started id task.id taken.before.now))
      (works : worked.doing = .works task)
      (concludes : ConcludesInTime rules task taken.before.now worked outcome)
      (sends : sent.doing = .delivers spill outcome.result)
      (delivery : outcome.delivery =
        (route sent.before.inboxes spill sent.before.disk outcome.result).delivery)
      (ends : ended.doing = .tells (.finished id outcome)) :
      Chapter rules id task [taken, started, worked, sent, ended]

/-- All that a worker does: one task after the other, and at last it leaves.  Either it is told to
or there is nothing more to come, or the engine takes it down with a task at hand. -/
inductive Story (rules : WorkerRules) (id : WorkerId) : List Task → Option Task → List Step → Prop
  /-- It leaves. -/
  | leave {taken left : Step} {command : Option Command}
      (takes : taken.doing = .takes command) (closes : ∀ task, command ≠ some (.process task))
      (leaves : left.doing = .tells (.exited id)) : Story rules id [] none [taken, left]
  /-- The engine takes it down. -/
  | crash {taken started worked left : Step} {task : Task}
      (takes : taken.doing = .takes (some (.process task)))
      (starts : started.doing = .tells (.started id task.id taken.before.now))
      (works : worked.doing = .works task)
      (crashes : rules.Meets task.path worked.before .crashed)
      (leaves : left.doing = .tells (.exited id)) :
      Story rules id [] (some task) [taken, started, worked, left]
  /-- It brings a task to its end. -/
  | chapter {task : Task} {tasks : List Task} {lost : Option Task} {steps behind : List Step}
      (first : Chapter rules id task steps) (later : Story rules id tasks lost behind) :
      Story rules id (task :: tasks) lost (steps ++ behind)

section Endings

variable {id : WorkerId} {spill : SpillFile} {steps : List Step} {broken : Bool}

theorem Course.of_gone (course : Course rules patient ⟨id, spill, .gone broken⟩ steps last) :
    steps = [] := by
  cases course with
  | rest => rfl
  | step stepped => cases stepped

theorem Course.of_leaving {crashed : Bool}
    (course : Course rules patient ⟨id, spill, .leaving crashed⟩ steps last)
    (ends : last.phase = .gone broken) :
    broken = crashed ∧ ∃ left : Step, left.doing = .tells (.exited id) ∧ steps = [left] := by
  obtain ⟨-, same⟩ | ⟨left, behind, _, _, rfl, does, course⟩ := course.uncons ends
  · cases same
  · cases does
    obtain rfl := course.of_gone
    cases course
    cases ends
    exact ⟨rfl, _, rfl, rfl⟩

theorem Course.of_reporting {outcome : Outcome}
    (course : Course rules patient ⟨id, spill, .reporting outcome⟩ steps last)
    (ends : last.phase = .gone broken) :
    ∃ (ended : Step) (behind : List Step), ended.doing = .tells (.finished id outcome) ∧
      steps = ended :: behind ∧ Course rules patient ⟨id, spill, .idle⟩ behind last := by
  obtain ⟨-, same⟩ | ⟨ended, behind, _, _, rfl, does, course⟩ := course.uncons ends
  · cases same
  · cases does
    exact ⟨_, _, rfl, rfl, course⟩

theorem Course.of_delivering {result : ExtractionResult}
    (course : Course rules patient ⟨id, spill, .delivering task since result⟩ steps last)
    (ends : last.phase = .gone broken) :
    ∃ (sent : Step) (spill' : SpillFile) (behind : List Step), sent.doing = .delivers spill result ∧
      steps = sent :: behind ∧ Course rules patient ⟨id, spill', .reporting ⟨task.id, result,
        (route sent.before.inboxes spill sent.before.disk result).delivery⟩⟩ behind last := by
  obtain ⟨-, same⟩ | ⟨sent, behind, _, _, rfl, does, course⟩ := course.uncons ends
  · cases same
  · cases does
    exact ⟨_, _, _, rfl, rfl, course⟩

theorem Course.of_announcing
    (course : Course rules patient ⟨id, spill, .announcing task since⟩ steps last)
    (ends : last.phase = .gone broken) :
    ∃ (started : Step) (behind : List Step),
      started.doing = .tells (.started id task.id since) ∧ steps = started :: behind ∧
        Course rules patient ⟨id, spill, .processing task since⟩ behind last := by
  obtain ⟨-, same⟩ | ⟨started, behind, _, _, rfl, does, course⟩ := course.uncons ends
  · cases same
  · cases does
    exact ⟨_, _, rfl, rfl, course⟩

theorem Course.of_idle (course : Course rules patient ⟨id, spill, .idle⟩ steps last)
    (ends : last.phase = .gone broken) :
    ∃ (taken : Step) (behind : List Step), steps = taken :: behind ∧
      ((∃ task, taken.doing = .takes (some (.process task)) ∧
          Course rules patient ⟨id, spill, .announcing task taken.before.now⟩ behind last) ∨
        (∃ command, taken.doing = .takes command ∧ ∀ task, command ≠ some (.process task)) ∧
          Course rules patient ⟨id, spill, .leaving false⟩ behind last) := by
  obtain ⟨-, same⟩ | ⟨taken, behind, _, _, rfl, does, course⟩ := course.uncons ends
  · cases same
  · cases does with
    | take => exact ⟨_, _, rfl, Or.inl ⟨_, rfl, course⟩⟩
    | stop => exact ⟨_, _, rfl, Or.inr ⟨⟨_, rfl, nofun⟩, course⟩⟩
    | close => exact ⟨_, _, rfl, Or.inr ⟨⟨_, rfl, nofun⟩, course⟩⟩

theorem survives_of_process {result : ExtractionResult}
    (processed : process rules path shared = (some result, after)) :
    ¬ rules.Meets path shared .crashed := by
  rw [← process_eq_none_iff, processed]
  exact nofun

theorem filePath_of_process {result : ExtractionResult}
    (processed : process rules path shared = (some result, after)) : result.filePath = path :=
  (about_of_process processed).1

theorem concludesInTime {result : ExtractionResult} {worked : Step} {delivery : Delivery}
    (processed : process rules task.path worked.before = (some result, after))
    (inTime : worked.after.now - since ≤ rules.timeout) :
    ConcludesInTime rules task since worked
      ⟨task.id, stamp result task.attempt
        (worked.after.now - measuredFrom result since worked.before.now) worked.after.memoryMb,
        delivery⟩ := by
  refine ⟨⟨rfl, (filePath_of_process processed :), rfl, survives_of_process processed⟩, inTime,
    ⟨result, congrArg Prod.fst processed, rfl⟩, fun reason broke => ?_⟩
  have same := process_of_brokeDown broke
  rw [processed] at same
  cases Option.some.inj same
  exact ⟨rfl, rfl, rfl⟩

theorem concludesLate {result : ExtractionResult} {worked : Step} {elapsed measured : Nat}
    {memoryMb : Option Float}
    (processed : process rules task.path worked.before = (some result, after))
    (overran : rules.timeout < worked.after.now - since) :
    ConcludesLate rules task since worked
      ⟨task.id, stamp (overrun task.path elapsed rules.timeout result.metrics) task.attempt measured
        memoryMb, .withheld⟩ :=
  ⟨⟨rfl, rfl, rfl, survives_of_process processed⟩, overran, rfl, rfl, rfl, rfl⟩

theorem Course.of_processing
    (course : Course rules patient ⟨id, spill, .processing task since⟩ steps last)
    (ends : last.phase = .gone broken) :
    ∃ (worked : Step) (behind : List Step), steps = worked :: behind ∧ worked.doing = .works task ∧
      ((rules.Meets task.path worked.before .crashed ∧
          Course rules patient ⟨id, spill, .leaving true⟩ behind last) ∨
        (∃ outcome, ConcludesLate rules task since worked outcome ∧
          Course rules patient ⟨id, spill, .reporting outcome⟩ behind last) ∨
        ∃ result,
          (∀ delivery, ConcludesInTime rules task since worked ⟨task.id, result, delivery⟩) ∧
          Course rules patient ⟨id, spill, .delivering task since result⟩ behind last) := by
  obtain ⟨-, same⟩ | ⟨worked, behind, _, _, rfl, does, course⟩ := course.uncons ends
  · cases same
  · refine ⟨worked, behind, rfl, ?_⟩
    cases does with
    | crash processed =>
        exact ⟨rfl, Or.inl ⟨process_eq_none_iff.1 (congrArg Prod.fst processed), course⟩⟩
    | find processed =>
        unfold judge at course
        split at course
        · next overran =>
            exact ⟨rfl, Or.inr (Or.inl ⟨_, concludesLate processed overran, course⟩)⟩
        · next inTime =>
            refine ⟨rfl, Or.inr (Or.inr ⟨_, fun delivery => ?_, course⟩)⟩
            exact concludesInTime processed (Nat.not_lt.1 inTime)

/-- Whatever others do meanwhile, a worker that has left has done so by the protocol. -/
theorem Course.story (course : Course rules patient ⟨id, spill, .idle⟩ steps last)
    (ends : last.phase = .gone broken) :
    ∃ tasks lost, Story rules id tasks lost steps ∧ broken = lost.isSome := by
  -- Each task takes some steps away, so the induction is on how many there are.
  induction length : steps.length using Nat.strongRecOn generalizing spill steps with
  | _ length' induction =>
  obtain ⟨taken, rest, rfl, ⟨task, takes, announcing⟩ | ⟨⟨command, takes, closes⟩, leaving⟩⟩ :=
    course.of_idle ends
  · obtain ⟨started, rest, starts, rfl, processing⟩ := announcing.of_announcing ends
    obtain ⟨worked, rest, rfl, works, crashed | late | inTime⟩ := processing.of_processing ends
    · obtain ⟨crashes, leaving⟩ := crashed
      obtain ⟨rfl, left, leaves, rfl⟩ := leaving.of_leaving ends
      exact ⟨[], some task, .crash takes starts works crashes leaves, rfl⟩
    · obtain ⟨outcome, concludes, reporting⟩ := late
      obtain ⟨ended, rest, finishes, rfl, behind⟩ := reporting.of_reporting ends
      obtain ⟨tasks, lost, later, same⟩ := induction _ (by simp [← length]; omega) behind rfl
      have first := Chapter.late takes starts works concludes finishes
      exact ⟨task :: tasks, lost, .chapter first later, same⟩
    · obtain ⟨result, concludes, delivering⟩ := inTime
      obtain ⟨sent, _, rest, sends, rfl, reporting⟩ := delivering.of_delivering ends
      obtain ⟨ended, rest, finishes, rfl, behind⟩ := reporting.of_reporting ends
      obtain ⟨tasks, lost, later, same⟩ := induction _ (by simp [← length]; omega) behind rfl
      have first := Chapter.inTime takes starts works (concludes _) sends rfl finishes
      exact ⟨task :: tasks, lost, .chapter first later, same⟩
  · obtain ⟨rfl, left, leaves, rfl⟩ := leaving.of_leaving ends
    exact ⟨[], none, .leave takes closes leaves, rfl⟩

end Endings

end Worker

end PartsList
