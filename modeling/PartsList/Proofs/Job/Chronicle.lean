import PartsList.Proofs.Job.Moves
import PartsList.Proofs.Job.Strides

/-!
# The parts of a job's course

The manager notes the parts of the course that its job enters.  All that it notes while it gives out
tasks comes from looking whether there is anything left to do: it enters the part in which nothing
waits at most once, however many tasks are queued again after that, and it turns to the end once.
-/

namespace PartsList

namespace Manager

variable {manager : Manager} {shared : Shared} {after : Manager × Shared}

/-- The manager gives no more tasks to workers. -/
def hasTurned (manager : Manager) : Bool :=
  manager.phase != .dispatching

theorem hasTurned_eq_false : manager.hasTurned = false ↔ manager.phase = .dispatching := by
  rw [hasTurned, bne_eq_false_iff_eq]

/-! ## Steps -/

/-- Once the manager has turned to the end, it notes nothing more of the course. -/
theorem chronicle_step? {stats : List WriterStats} {action : Action}
    (turned : manager.hasTurned = true)
    (stepped : manager.step? shared stats action = some after) :
    after.1.hasTurned = true ∧ after.1.chronicle = manager.chronicle := by
  have ends : manager.phase ≠ .dispatching := bne_iff_ne.1 turned
  cases stride_step? ends stepped with
  | deal phase | interrupt phase | drain phase | turn phase => exact absurd phase ends
  | order | wait | endWorkers | dismiss | skip | await | endWriters => exact ⟨rfl, rfl⟩
  | collect _ received =>
      obtain ⟨phase, chronicle⟩ := Prod.mk.inj (course_receive? received)
      exact ⟨(congrArg (· != ManagerPhase.dispatching) phase).trans turned, chronicle⟩

/-! ## Looks at what is left to do -/

/-- The parts of its course that a job has entered whose threads have been started. -/
def entered (draining turned : Bool) : List JobState :=
  [.init, .discovering, .dispatching] ++ (if draining then [.draining] else []) ++
    if turned then [.shuttingDown] else []

/-- The report tells the parts of the course that the manager has entered. -/
def OnCourse (manager : Manager) : Prop :=
  manager.report.states = entered manager.draining manager.hasTurned

theorem OnCourse.congr {other : Manager} (onCourse : manager.OnCourse)
    (phase : other.hasTurned = manager.hasTurned) (same : other.chronicle = manager.chronicle) :
    other.OnCourse := by
  obtain ⟨draining, report⟩ := Prod.mk.inj same
  obtain ⟨-, states⟩ := Prod.mk.inj report
  rw [OnCourse, states, draining, phase]
  exact onCourse

/-- Whether the job is interrupted and whether nothing waits is noted when the manager looks. -/
theorem chronicle_turn (manager : Manager) (shared : Shared) :
    (manager.turn shared).1.draining =
        (manager.draining || (manager.pending.isEmpty && !shared.interrupted)) ∧
      (manager.turn shared).1.report.interrupted =
        (manager.report.interrupted || shared.interrupted) := by
  have drained : manager.beginDraining.draining = (manager.draining || manager.pending.isEmpty) ∧
      manager.beginDraining.report.interrupted = manager.report.interrupted := by
    unfold beginDraining
    cases manager.pending.isEmpty <;> cases draining : manager.draining <;>
      exact ⟨by simp [draining], rfl⟩
  unfold turn
  cases shared.interrupted with
  | true => simp [beginShutdown, Report.enter]
  | false =>
      dsimp only
      rw [if_neg Bool.false_ne_true, Bool.not_false, Bool.and_true, Bool.or_false]
      split <;> exact drained

theorem hasTurned_of_interrupted (interrupted : shared.interrupted = true) :
    (manager.turn shared).1.hasTurned = true := by
  unfold turn
  rw [if_pos interrupted]
  rfl

theorem OnCourse.beginDraining (onCourse : manager.OnCourse)
    (dispatches : manager.phase = .dispatching) :
    manager.beginDraining.OnCourse ∧ manager.beginDraining.phase = .dispatching := by
  have turned := hasTurned_eq_false.2 dispatches
  unfold Manager.beginDraining
  split
  · next due =>
      rw [Bool.and_eq_true, Bool.not_eq_true'] at due
      refine ⟨?_, dispatches⟩
      have states : manager.report.states = entered false false := by rw [onCourse, due.2, turned]
      exact (congrArg (· ++ [JobState.draining]) states).trans
        (congrArg (entered true) turned.symm)
  · exact ⟨onCourse, dispatches⟩

theorem OnCourse.beginShutdown (onCourse : manager.OnCourse)
    (dispatches : manager.phase = .dispatching) : (manager.beginShutdown shared).1.OnCourse := by
  have states : manager.report.states = entered manager.draining false := by
    rw [onCourse, hasTurned_eq_false.2 dispatches]
  exact (congrArg (· ++ [JobState.shuttingDown]) states).trans (by simp [entered]; rfl)

theorem OnCourse.turn (onCourse : manager.OnCourse) (dispatches : manager.phase = .dispatching) :
    (manager.turn shared).1.OnCourse := by
  obtain ⟨drained, still⟩ := onCourse.beginDraining dispatches
  have noted : { manager with report := { manager.report with interrupted := true } }.OnCourse :=
    onCourse
  unfold Manager.turn
  split
  · exact noted.beginShutdown dispatches
  · dsimp only
    split
    · exact drained.beginShutdown still
    · exact drained

end Manager

/-! ## Runs -/

namespace System

variable {system after : System}

/-- The manager gives out tasks, and nothing has interrupted it so far. -/
structure Dispatches (system : System) : Prop where
  /-- It gives out tasks. -/
  phase : system.manager.phase = .dispatching
  /-- The report tells what it has entered. -/
  onCourse : system.manager.OnCourse
  /-- It has seen no interruption. -/
  quiet : system.manager.report.interrupted = false

/-- The manager has turned to the end since it looked at what the other threads had left to do. -/
structure Turns (system after : System) : Prop where
  /-- It gives out no more tasks. -/
  turned : after.manager.hasTurned = true
  /-- The report tells what it has entered. -/
  onCourse : after.manager.OnCourse
  /-- It has seen whether the job was interrupted. -/
  interrupted : after.manager.report.interrupted = system.shared.interrupted
  /-- It has seen whether any task waited. -/
  draining : after.manager.draining =
    (system.manager.draining || (system.manager.pending.isEmpty && !system.shared.interrupted))

/-- The threads when the manager turns to the end, or at the end of a course on which it does not.
-/
def atTurn (system : System) : List Move → System
  | [] => system
  | move :: course =>
    if (system.step move).manager.hasTurned then system else (system.step move).atTurn course

theorem Turns.congr {later : System} (turns : system.Turns after)
    (turned : later.manager.hasTurned = true)
    (same : later.manager.chronicle = after.manager.chronicle) : system.Turns later := by
  obtain ⟨draining, report⟩ := Prod.mk.inj same
  obtain ⟨interrupted, -⟩ := Prod.mk.inj report
  exact ⟨turned, turns.onCourse.congr (turned.trans turns.turned.symm) same,
    interrupted.trans turns.interrupted, draining.trans turns.draining⟩

theorem Dispatches.moves (dispatches : system.Dispatches) (moves : system.Moves after) :
    after.Dispatches ∨ system.Turns after := by
  obtain ⟨phase, onCourse, quiet⟩ := dispatches
  cases moves with
  | work | beat | serve | pass | interrupt => exact Or.inl ⟨phase, onCourse, quiet⟩
  | @manage action next stepped =>
      have dispatched := Manager.dispatch?_of_step? phase stepped
      obtain ⟨ends, chronicle⟩ := Prod.mk.inj (Manager.course_dispatch? dispatched)
      obtain ⟨draining, report⟩ := Prod.mk.inj chronicle
      obtain ⟨interrupted, -⟩ := Prod.mk.inj report
      obtain ⟨drained, seen⟩ := system.manager.chronicle_turn system.shared
      have turned : next.1.hasTurned = (system.manager.turn system.shared).1.hasTurned :=
        congrArg (· != ManagerPhase.dispatching) ends
      have onCourse := (onCourse.turn phase).congr turned chronicle
      rw [quiet, Bool.false_or] at seen
      cases gone : next.1.hasTurned with
      | true => exact Or.inr ⟨gone, onCourse, interrupted.trans seen, draining.trans drained⟩
      | false =>
          have calm : system.shared.interrupted = false := by
            rw [← Bool.not_eq_true]
            intro disturbed
            rw [gone, Manager.hasTurned_of_interrupted disturbed] at turned
            cases turned
          exact Or.inl ⟨Manager.hasTurned_eq_false.1 gone, onCourse,
            (interrupted.trans seen).trans calm⟩

theorem Turns.moves {later : System} (turns : system.Turns after) (moves : after.Moves later) :
    system.Turns later := by
  cases moves with
  | work | beat | serve | pass | interrupt => exact turns.congr turns.turned rfl
  | manage stepped =>
      obtain ⟨turned, chronicle⟩ := Manager.chronicle_step? turns.turned stepped
      exact turns.congr turned chronicle

/-- A manager that has turned to the end notes nothing more, whatever course the threads take. -/
theorem Turns.run (turns : system.Turns after) (course : List Move) :
    system.Turns (after.run course) :=
  run_induction system.Turns turns (fun _ _ turns => turns.moves) course

/-- Whatever course the threads take, the manager still gives out tasks, or it has turned to the end
once and has noted then what it saw. -/
theorem Dispatches.run (dispatches : system.Dispatches) (course : List Move) :
    (system.run course).Dispatches ∨ (system.atTurn course).Turns (system.run course) := by
  induction course generalizing system with
  | nil => exact Or.inl dispatches
  | cons move course induction =>
      have stepped : (system.step move).Dispatches ∨ system.Turns (system.step move) :=
        step_induction (fun after => after.Dispatches ∨ system.Turns after) (Or.inl dispatches)
          (fun _ => dispatches.moves) move
      unfold atTurn
      rcases stepped with still | turns
      · rw [Manager.hasTurned_eq_false.2 still.phase]
        exact induction still
      · rw [turns.turned]
        exact Or.inr (turns.run course)

end System

end PartsList
