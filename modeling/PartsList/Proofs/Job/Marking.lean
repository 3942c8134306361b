import PartsList.Proofs.Checkpoint.Saves
import PartsList.Proofs.Checkpoint.Sets
import PartsList.Proofs.Job.Deeds

/-!
# What a run adds to the checkpoint

A run marks exactly the files to which it gives final outcomes, whatever course its threads take and
whether or not it is interrupted.
-/

namespace PartsList

namespace Manager

/-- The files that have become done are those with a new final outcome. -/
def Marks (before after : Manager) : Prop :=
  ∃ entries, after.history = entries ++ before.history ∧
    ∀ path, after.checkpoint.isProcessed path =
      (before.checkpoint.isProcessed path ||
        (entries.filter (·.final)).any (path.same ·.task.path))

variable {manager before middle after : Manager}

theorem Marks.of_eq (history : after.history = before.history)
    (checkpoint : ∀ path, after.checkpoint.isProcessed path = before.checkpoint.isProcessed path) :
    before.Marks after :=
  ⟨[], history, fun path => by rw [checkpoint, List.filter_nil, List.any_nil, Bool.or_false]⟩

theorem Marks.trans (first : before.Marks middle) (second : middle.Marks after) :
    before.Marks after := by
  obtain ⟨old, history, processed⟩ := first
  obtain ⟨new, history', processed'⟩ := second
  refine ⟨new ++ old, by rw [history', history, List.append_assoc], fun path => ?_⟩
  rw [processed', processed, List.filter_append, List.any_append]
  cases before.checkpoint.isProcessed path <;> simp [Bool.or_comm]

theorem marks_save (manager : Manager) (shared : Shared) :
    manager.Marks (manager.save shared).1 := by
  refine .of_eq rfl fun path => ?_
  have saved := manager.checkpoint.checkpoint_save manager.settings.checkpointPath shared.today
    shared.disk
  exact (congrArg (Checkpoint.isProcessed · path) saved).trans rfl

theorem marks_record (manager : Manager) (shared : Shared) (task : Task) (outcome : Outcome) :
    manager.Marks (manager.record shared task outcome).1 := by
  simp only [Manager.record]
  split
  · next again =>
      refine ⟨[⟨task, outcome, false⟩], ?_, fun path => ?_⟩
      · rw [again]
        rfl
      · simp [requeue]
  · next final =>
      have last : (!outcome.result.success && manager.earnsRetry task outcome.result.errorCode) =
          false := Bool.eq_false_iff.2 final
      have settled : manager.Marks (Manager.settle
          { manager with
            report := (manager.report.countDelivery outcome.delivery).countFailure
              outcome.result.errorCode
            history := ⟨task, outcome, true⟩ :: manager.history } task outcome) := by
        refine ⟨[⟨task, outcome, true⟩], rfl, fun path => ?_⟩
        simp [Manager.settle, Checkpoint.isProcessed_mark, Bool.or_comm]
      rw [last]
      refine settled.trans ?_
      unfold saveIfDue
      split
      · exact Marks.trans (.of_eq rfl fun _ => rfl) (marks_save _ shared)
      · exact .of_eq rfl fun _ => rfl

theorem Deed.marks {before after : Manager × Shared} (deed : Deed before after) :
    before.1.Marks after.1 := by
  have quietly {before : Manager × Shared} {next : Manager} {others : Shared}
      (quiet : Quiet before (next, others)) : before.1.Marks next :=
    .of_eq quiet.history fun path => congrArg (Checkpoint.isProcessed · path) quiet.checkpoint
  cases deed with
  | note quiet => exact quietly quiet
  | accept quiet => exact (quietly quiet).trans (marks_record _ _ _ _)
  | @conclude _ noted entry _ _ _ quiet =>
      refine (quietly quiet).trans ?_
      exact Marks.trans (.of_eq rfl fun path => rfl) (marks_record _ _ _ _)
  | save => exact marks_save _ _
  | dismiss _ _ _ quiet => exact quietly quiet
  | release _ quiet => exact quietly quiet

theorem marks_of_deeds {before after : Manager × Shared}
    (deeds : Relation.ReflTransGen Deed before after) : before.1.Marks after.1 := by
  induction deeds with
  | refl => exact .of_eq rfl fun path => rfl
  | tail _ deed induction => exact induction.trans deed.marks

end Manager

namespace System

theorem Moves.marks {system after : System} (moves : system.Moves after) :
    system.manager.Marks after.manager := by
  cases moves with
  | manage stepped => exact Manager.marks_of_deeds (Manager.deeds_step? stepped)
  | work | beat | serve | pass | interrupt => exact .of_eq rfl fun _ => rfl

theorem marks_run (system : System) (course : List Move) :
    system.manager.Marks (system.run course).manager :=
  run_induction (fun after => system.manager.Marks after.manager) (.of_eq rfl fun _ => rfl)
    (fun _ _ marks moves => marks.trans moves.marks) course

end System

end PartsList
