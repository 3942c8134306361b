import PartsList.Job.System
import PartsList.Proofs.Basic

/-!
# Moves

What a thread can do in one move is said here once: what the work on a file changes, what a worker
can do, what a writer can do, and what that makes of all threads together.  A move that its thread
cannot make changes nothing, so what no move can undo holds along every course.
-/

namespace PartsList

/-! ## Events -/

/-- What the manager is told waits for it, if it takes events. -/
theorem Shared.exists_events_of_report? {shared after : Shared} {event : WorkerEvent}
    (reported : shared.report? event = some after) :
    ∃ events, after = { shared with events := events } ∧
      events.receiverGone = shared.events.receiverGone ∧
        events.waiting =
          shared.events.waiting ++ if shared.events.receiverGone then [] else [event] := by
  unfold Shared.report? at reported
  split at reported
  · next deaf =>
      cases reported
      refine ⟨shared.events, rfl, rfl, ?_⟩
      rw [if_pos deaf, List.append_nil]
  · next listens =>
      obtain ⟨events, sent, same⟩ := Option.bind_eq_some_iff.1 reported
      obtain ⟨-, rfl⟩ := Channel.eq_of_send? sent
      refine ⟨_, (Option.some.inj same).symm, rfl, ?_⟩
      rw [if_neg listens]

/-! ## Workers -/

namespace Worker

variable {rules : WorkerRules} {worker : Worker} {shared : Shared}

/-- Work on a file changes the engine's log, the clock and whether the job is to stop early. -/
theorem exists_process (rules : WorkerRules) (path : Path) (shared : Shared) :
    ∃ found loads now interrupted, process rules path shared =
      (found, { shared with loads := loads, now := now, interrupted := interrupted }) := by
  unfold process
  split
  · exact ⟨_, shared.loads, shared.now, shared.interrupted, rfl⟩
  · dsimp only [load]
    split <;> exact ⟨_, _, _, _, rfl⟩

/-- What a worker can do in one step. -/
inductive Goes (rules : WorkerRules) (worker : Worker) (shared : Shared) : Worker × Shared → Prop
  /-- It takes a task. -/
  | take {task : Task} {tasks : Channel Command} (phase : worker.phase = .idle)
      (received : shared.tasks.receive? = some (.process task, tasks)) :
      Goes rules worker shared
        ({ worker with phase := .announcing task shared.now }, { shared with tasks := tasks })
  /-- It is told to leave. -/
  | stop {tasks : Channel Command} (phase : worker.phase = .idle)
      (received : shared.tasks.receive? = some (.stop, tasks)) :
      Goes rules worker shared
        ({ worker with phase := .leaving false }, { shared with tasks := tasks })
  /-- There is nothing more to come. -/
  | close (phase : worker.phase = .idle) (empty : shared.tasks.waiting = [])
      (closed : shared.tasks.senderGone = true) :
      Goes rules worker shared ({ worker with phase := .leaving false }, shared)
  /-- It announces its task. -/
  | announce {task : Task} {started : Instant} {others : Shared}
      (phase : worker.phase = .announcing task started)
      (reported : shared.report? (.started worker.id task.id started) = some others) :
      Goes rules worker shared ({ worker with phase := .processing task started }, others)
  /-- The engine takes it down. -/
  | crash {task : Task} {started : Instant} {loads : LoadLog} {now : Instant} {interrupted : Bool}
      (phase : worker.phase = .processing task started)
      (processed : process rules task.path shared =
        (none, { shared with loads := loads, now := now, interrupted := interrupted })) :
      Goes rules worker shared
        ({ worker with phase := .leaving true },
          { shared with loads := loads, now := now, interrupted := interrupted })
  /-- It finds something in the file. -/
  | find {task : Task} {started : Instant} {result : ExtractionResult} {loads : LoadLog}
      {now : Instant} {interrupted : Bool} (phase : worker.phase = .processing task started)
      (processed : process rules task.path shared =
        (some result, { shared with loads := loads, now := now, interrupted := interrupted })) :
      Goes rules worker shared
        ({ worker with
            phase :=
              judge rules task started shared.now (now + leastElapsed) shared.memoryMb result },
          { shared with loads := loads, now := now + leastElapsed, interrupted := interrupted })
  /-- It delivers its result. -/
  | deliver {task : Task} {started : Instant} {result : ExtractionResult}
      (phase : worker.phase = .delivering task started result) :
      Goes rules worker shared (worker.deliver task result shared)
  /-- It tells what became of its task. -/
  | report {outcome : Outcome} {others : Shared} (phase : worker.phase = .reporting outcome)
      (reported : shared.report? (.finished worker.id outcome) = some others) :
      Goes rules worker shared ({ worker with phase := .idle }, others)
  /-- It leaves. -/
  | leave {broken : Bool} {others : Shared} (phase : worker.phase = .leaving broken)
      (reported : shared.report? (.exited worker.id) = some others) :
      Goes rules worker shared ({ worker with phase := .gone broken }, others)

theorem goes_of_take? {after : Worker × Shared} (phase : worker.phase = .idle)
    (took : worker.take? shared = some after) : worker.Goes rules shared after := by
  unfold take? at took
  split at took
  · next received =>
      cases took
      exact .take phase received
  · next received =>
      cases took
      exact .stop phase received
  · next received =>
      split at took
      · next closed =>
          cases took
          exact .close phase (Channel.receive?_eq_none.1 received) closed
      · cases took

theorem goes_work {task : Task} {started : Instant}
    (phase : worker.phase = .processing task started) :
    worker.Goes rules shared (worker.work rules task started shared) := by
  obtain ⟨found, loads, now, interrupted, processed⟩ := exists_process rules task.path shared
  unfold work
  rw [processed]
  cases found with
  | none => exact .crash phase processed
  | some result => exact .find phase processed

theorem goes_of_step? {patient : Bool} {after : Worker × Shared}
    (stepped : worker.step? rules patient shared = some after) :
    worker.Goes rules shared after := by
  unfold step? at stepped
  cases phase : worker.phase with
  | idle =>
      simp only [phase] at stepped
      exact goes_of_take? phase stepped
  | announcing task started =>
      simp only [phase] at stepped
      obtain ⟨others, reported, same⟩ := Option.bind_eq_some_iff.1 stepped
      cases Option.some.inj same
      exact .announce phase reported
  | processing task started =>
      simp only [phase] at stepped
      cases Option.some.inj stepped
      exact goes_work phase
  | delivering task started result =>
      simp only [phase] at stepped
      split at stepped
      · cases stepped
      · cases Option.some.inj stepped
        exact .deliver phase
  | reporting outcome =>
      simp only [phase] at stepped
      obtain ⟨others, reported, same⟩ := Option.bind_eq_some_iff.1 stepped
      cases Option.some.inj same
      exact .report phase reported
  | leaving broken =>
      simp only [phase] at stepped
      obtain ⟨others, reported, same⟩ := Option.bind_eq_some_iff.1 stepped
      cases Option.some.inj same
      exact .leave phase reported
  | gone broken => simp [phase] at stepped

/-- A worker keeps its number. -/
theorem Goes.id {after : Worker × Shared} (goes : worker.Goes rules shared after) :
    after.1.id = worker.id := by
  cases goes <;> rfl

theorem Goes.today {after : Worker × Shared} (goes : worker.Goes rules shared after) :
    after.2.today = shared.today := by
  cases goes with
  | take | stop | close | crash | find | deliver => rfl
  | announce _ reported | report _ reported | leave _ reported =>
      obtain ⟨events, rfl, -⟩ := Shared.exists_events_of_report? reported
      rfl

end Worker

/-! ## Writers -/

/-- What a writer can do in one step, and what it leaves in its inbox. -/
inductive Writer.Turn (writer : Writer) (disk : Disk) (inbox : Inbox) : Writer × Disk → Inbox → Prop
  /-- It takes the next result. -/
  | accept {result : ExtractionResult} {left : Inbox}
      (received : inbox.receive? = some (.result result, left)) :
      Turn writer disk inbox (writer.accept disk (.result result)) left
  /-- It is told to leave. -/
  | dismiss {left : Inbox} (received : inbox.receive? = some (.shutdown, left)) :
      Turn writer disk inbox (writer.leave disk) left
  /-- There is nothing more to come. -/
  | close (empty : inbox.waiting = []) (closed : inbox.senderGone = true) :
      Turn writer disk inbox (writer.leave disk) inbox
  /-- It has held its batch for long enough. -/
  | flush : Turn writer disk inbox (writer.flush disk) inbox

/-! ## All threads -/

namespace System

variable {system after : System}

/-- The system with another state of the manager and of what threads share. -/
def withManager (system : System) (next : Manager × Shared) : System :=
  { system with manager := next.1, shared := next.2 }

/-- The same with the workers that the manager has started. -/
def withHired (system : System) (next : Manager × Shared) : System :=
  { system.withManager next with workers := system.workers ++ hired system.manager next.1 }

theorem mem_hired {before after : Manager} {worker : Worker} :
    worker ∈ hired before after ↔
      ∃ id, before.nextWorker ≤ id ∧ id < after.nextWorker ∧
        worker = Worker.start id before.settings.fallbackDir := by
  have range (least most id : Nat) :
      id ∈ List.range' least (most - least) ↔ least ≤ id ∧ id < most := by
    rw [List.mem_range'_1]
    omega
  constructor
  · intro mem
    obtain ⟨id, new, rfl⟩ := List.mem_map.1 mem
    obtain ⟨least, most⟩ := (range _ _ _).1 new
    exact ⟨id, least, most, rfl⟩
  · rintro ⟨id, least, most, rfl⟩
    exact List.mem_map_of_mem ((range _ _ _).2 ⟨least, most⟩)

theorem phase_of_mem_hired {before after : Manager} {worker : Worker}
    (mem : worker ∈ hired before after) : worker.phase = .idle := by
  obtain ⟨id, -, -, rfl⟩ := mem_hired.1 mem
  rfl

/-- New workers have nothing at hand. -/
theorem filterMap_hired {α : Type} {part? : WorkerPhase → Option α} (silent : part? .idle = none)
    (before after : Manager) :
    (hired before after).filterMap (fun worker => part? worker.phase) = [] :=
  List.filterMap_eq_nil_iff.2 fun worker mem => by rw [phase_of_mem_hired mem, silent]

/-- What a thread can do in one move. -/
inductive Moves (system : System) : System → Prop
  /-- The manager takes a step, and may start workers. -/
  | manage {action : Manager.Action} {next : Manager × Shared}
      (stepped : system.manager.step? system.shared system.finishedStats action = some next) :
      Moves system (system.withHired next)
  /-- A worker goes on. -/
  | work {worker : Worker} {next : Worker × Shared} (mem : worker ∈ system.workers)
      (goes : worker.Goes system.rules system.shared next) :
      Moves system { system.putWorker next.1 with shared := next.2 }
  /-- A worker that has not left gives a sign of life. -/
  | beat {worker : Worker} {others : Shared} (mem : worker ∈ system.workers)
      (stays : ∀ broken, worker.phase ≠ .gone broken)
      (reported : system.shared.report? (.heartbeat worker.id system.shared.now) = some others) :
      Moves system { system with shared := others }
  /-- A writer that has not left goes on. -/
  | serve {id : Nat} {writer : Writer} {inbox left : Inbox} {next : Writer × Disk}
      (works : system.writers[id]? = some writer) (found : system.shared.inboxes[id]? = some inbox)
      (stays : writer.finished = false)
      (turn : writer.Turn system.shared.disk inbox next left) :
      Moves system (system.putWriter next.1 left next.2)
  /-- Time passes, or memory in use changes. -/
  | pass (microseconds : Nat) (residentBytes : Option Nat) :
      Moves system
        { system with
          shared :=
            { system.shared with
              now := system.shared.now + microseconds
              residentBytes := residentBytes } }
  /-- The job is told to stop early. -/
  | interrupt : Moves system { system with shared := { system.shared with interrupted := true } }

theorem moves_of_moveWriter? {id : Nat} (moved : system.moveWriter? id = some after) :
    system.Moves after := by
  obtain ⟨writer, works, rest⟩ := Option.bind_eq_some_iff.1 moved
  obtain ⟨inbox, found, rest⟩ := Option.bind_eq_some_iff.1 rest
  split at rest
  · cases rest
  · next stays =>
      have stays := Bool.eq_false_iff.2 stays
      split at rest
      · next message left received =>
          cases Option.some.inj rest
          cases message with
          | result result => exact .serve works found stays (.accept received)
          | shutdown => exact .serve works found stays (.dismiss received)
      · next received =>
          split at rest
          · next closed =>
              cases Option.some.inj rest
              exact .serve works found stays (.close (Channel.receive?_eq_none.1 received) closed)
          · cases rest

/-- A move that its thread can make is one of these. -/
theorem moves_of_move? {move : Move} (moved : system.move? move = some after) :
    system.Moves after := by
  cases move with
  | manager action =>
      obtain ⟨next, stepped, same⟩ := Option.bind_eq_some_iff.1 moved
      cases Option.some.inj same
      exact .manage stepped
  | worker id patient =>
      obtain ⟨worker, found, rest⟩ := Option.bind_eq_some_iff.1 moved
      obtain ⟨next, stepped, same⟩ := Option.bind_eq_some_iff.1 rest
      cases Option.some.inj same
      exact .work (List.mem_of_find?_eq_some found) (Worker.goes_of_step? stepped)
  | beat id =>
      obtain ⟨worker, found, rest⟩ := Option.bind_eq_some_iff.1 moved
      obtain rfl : worker.id = id := by simpa using List.find?_some found
      split at rest
      · cases rest
      · next stays =>
          obtain ⟨others, reported, same⟩ := Option.bind_eq_some_iff.1 rest
          cases Option.some.inj same
          exact .beat (List.mem_of_find?_eq_some found) stays reported
  | writer id => exact moves_of_moveWriter? moved
  | flush id =>
      obtain ⟨writer, works, rest⟩ := Option.bind_eq_some_iff.1 moved
      obtain ⟨inbox, found, rest⟩ := Option.bind_eq_some_iff.1 rest
      split at rest
      · cases rest
      · next stays =>
          cases Option.some.inj rest
          exact .serve works found (Bool.eq_false_iff.2 stays) .flush
  | pass microseconds =>
      cases Option.some.inj moved
      exact .pass microseconds system.shared.residentBytes
  | measure residentBytes =>
      cases Option.some.inj moved
      exact .pass 0 residentBytes
  | interrupt =>
      cases Option.some.inj moved
      exact .interrupt

/-- What holds before a step and after every move that can be made holds after the step. -/
theorem step_induction (property : System → Prop) (before : property system)
    (moves : ∀ after, system.Moves after → property after) (move : Move) :
    property (system.step move) := by
  unfold step
  cases moved : system.move? move with
  | none => exact before
  | some after => exact moves after (moves_of_move? moved)

/-- What no move can undo holds along every course. -/
theorem run_induction (property : System → Prop) (start : property system)
    (keeps : ∀ before after : System, property before → before.Moves after → property after)
    (course : List Move) : property (system.run course) := by
  induction course generalizing system with
  | nil => exact start
  | cons move course induction =>
      exact induction (step_induction property start (fun after => keeps system after start) move)

end System

end PartsList
