import Mathlib.Algebra.Order.Ring.Nat
import Mathlib.Data.List.Nodup
import PartsList.Job.Manager

/-!
# The manager's ledger

Every selected file is in one place: it waits, it is with the workers, or its final outcome is
recorded.  While the manager accounts for an outcome it holds the task in its hands.  What it does
with a task, and which figures it changes, is followed here operation by operation.
-/

namespace PartsList

/-! ## Figures -/

namespace ExtractionResult

/-- The result has the code of success exactly if it says that the file succeeded. -/
def Honest (result : ExtractionResult) : Prop :=
  result.success = true ↔ result.errorCode = .none

theorem honest_iff_isError {result : ExtractionResult} :
    result.Honest ↔ result.success = !result.errorCode.isError := by
  rw [Honest, ErrorCode.isError]
  cases result.success <;> simp

theorem honest_failed {path : Path} {code : ErrorCode} {message : String} {metrics : Metrics}
    (fails : code ≠ .none) : (failed path code message metrics).Honest := by
  simp [Honest, failed, fails]

end ExtractionResult

namespace Report

/-- The figures of the report are those of the given final results. -/
structure Tells (report : Report) (finals : List ExtractionResult) : Prop where
  /-- The number of successes. -/
  succeeded : report.succeeded = finals.countP (·.success)
  /-- The number of failures. -/
  failed : report.failed = finals.countP (!·.success)
  /-- The number of rows of the successes. -/
  rows : report.rows = ((finals.filter (·.success)).map (·.rowCount)).sum
  /-- Every result is counted under one code. -/
  codes : (report.errorCounts.map (·.2)).sum = finals.length
  /-- The number of results with each code. -/
  code : ∀ code, report.countOf code = finals.countP (·.errorCode == code)

theorem sum_addCode (code : ErrorCode) (counts : List (ErrorCode × Nat)) :
    ((addCode code counts).map (·.2)).sum = (counts.map (·.2)).sum + 1 := by
  induction counts with
  | nil => rfl
  | cons count counts induction =>
      by_cases same : count.1 = code
      · simp [addCode, same]
        omega
      · simp [addCode, same, induction]
        omega

theorem find?_addCode (code other : ErrorCode) (counts : List (ErrorCode × Nat)) :
    ((addCode code counts).find? (·.1 == other)).elim 0 (·.2) =
      (counts.find? (·.1 == other)).elim 0 (·.2) + if code = other then 1 else 0 := by
  induction counts with
  | nil => by_cases same : code = other <;> simp [addCode, same]
  | cons count counts induction =>
      obtain ⟨key, number⟩ := count
      by_cases hit : key = code
      · subst hit
        by_cases same : key = other <;> simp [addCode, same]
      · by_cases same : key = other
        · subst same
          simp [addCode, hit, Ne.symm hit]
        · simp [addCode, hit, same, induction]

theorem Tells.countFinal {report : Report} {finals : List ExtractionResult}
    (tells : report.Tells finals) (result : ExtractionResult) :
    (report.countFinal result).Tells (result :: finals) := by
  have codes := sum_addCode result.errorCode report.errorCounts
  have code (other : ErrorCode) := find?_addCode result.errorCode other report.errorCounts
  have before (other : ErrorCode) := tells.code other
  simp only [countOf] at before
  cases outcome : result.success with
  | true =>
      constructor
      · simp [Report.countFinal, outcome, tells.succeeded]
      · simp [Report.countFinal, outcome, tells.failed]
      · simp [Report.countFinal, outcome, tells.rows]
        omega
      · simp [Report.countFinal, outcome, codes, tells.codes]
      · intro other
        simp [Report.countFinal, outcome, countOf, code, before, List.countP_cons]
  | false =>
      constructor
      · simp [Report.countFinal, outcome, tells.succeeded]
      · simp [Report.countFinal, outcome, tells.failed]
      · simp [Report.countFinal, outcome, tells.rows]
      · simp [Report.countFinal, outcome, codes, tells.codes]
      · intro other
        simp [Report.countFinal, outcome, countOf, code, before, List.countP_cons]

theorem Tells.countDelivery {report : Report} {finals : List ExtractionResult}
    (tells : report.Tells finals) (delivery : Delivery) :
    (report.countDelivery delivery).Tells finals := by
  cases delivery <;> exact ⟨tells.succeeded, tells.failed, tells.rows, tells.codes, tells.code⟩

theorem Tells.countFailure {report : Report} {finals : List ExtractionResult}
    (tells : report.Tells finals) (code : ErrorCode) :
    (report.countFailure code).Tells finals := by
  cases code <;> exact ⟨tells.succeeded, tells.failed, tells.rows, tells.codes, tells.code⟩

/-- All final results are successes or failures. -/
theorem Tells.completed {report : Report} {finals : List ExtractionResult}
    (tells : report.Tells finals) : report.completed = finals.length := by
  rw [Report.completed, tells.succeeded, tells.failed]
  have split := finals.length_eq_countP_add_countP fun result => result.success
  simpa using split.symm

/-- The code of success is counted as often as success. -/
theorem Tells.noError {report : Report} {finals : List ExtractionResult}
    (tells : report.Tells finals) (honest : ∀ result ∈ finals, result.Honest) :
    report.countOf .none = report.succeeded := by
  rw [tells.code, tells.succeeded]
  refine List.countP_congr fun result mem => ?_
  rw [beq_iff_eq]
  exact (honest result mem).symm

end Report

/-! ## Tasks -/

/-- Tasks that are taken back from a list of tasks with numbers of their own. -/
theorem perm_append_filter {tasks back : List Task} (distinct : (tasks.map (·.id)).Nodup)
    (once : (back.map (·.id)).Nodup) (subset : back ⊆ tasks) :
    tasks.Perm (back ++ tasks.filter fun task => !back.any (·.id == task.id)) := by
  have taken : (tasks.filter fun task => back.any (·.id == task.id)).Perm back := by
    refine (List.perm_ext_iff_of_nodup (distinct.of_map.filter _) once.of_map).2 fun task => ?_
    simp only [List.mem_filter, List.any_eq_true, beq_iff_eq]
    constructor
    · rintro ⟨mem, other, back, same⟩
      rwa [← List.inj_on_of_nodup_map distinct (subset back) mem same]
    · exact fun back => ⟨subset back, task, back, rfl⟩
  exact (List.filter_append_perm (fun task => back.any (·.id == task.id)) tasks).symm.trans
    (taken.append_right _)

namespace Manager

/-- The outcomes that are the last word on their files. -/
def finals (manager : Manager) : List Recorded :=
  manager.history.filter (·.final)

/-- The tasks that have no outcome yet: those the manager holds in its hands, those that wait, and
those with the workers. -/
def openTasks (manager : Manager) (held : List Task) : List Task :=
  held ++ manager.pending ++ manager.inFlight.map (·.task)

/-- The books of the manager balance while it holds some tasks in its hands. -/
structure Balances (manager : Manager) (held : List Task) (selected : List Path) : Prop where
  /-- No task is in two places, and none was recorded twice. -/
  distinct :
    ((manager.openTasks held ++ manager.history.map (·.task)).map (·.id)).Nodup
  /-- Numbers of tasks that are still to come are free. -/
  issued :
    ∀ task ∈ manager.openTasks held ++ manager.history.map (·.task), task.id < manager.nextTask
  /-- The files are those that were selected. -/
  files :
    ((manager.openTasks held ++ manager.finals.map (·.task)).map (·.path)).Perm selected
  /-- Final results have the code of success exactly if they are successes. -/
  honest : ∀ entry ∈ manager.finals, entry.outcome.result.Honest
  /-- The figures are those of the final results. -/
  tells : manager.report.Tells (manager.finals.map (·.outcome.result))
  /-- The report tells how many files were selected. -/
  scheduled : manager.report.scheduled = selected.length

variable {manager : Manager} {shared : Shared} {held : List Task} {selected : List Path}

/-- Tasks may change their places, as long as none is lost, made or recorded. -/
theorem Balances.rearrange {other : Manager} {after : List Task}
    (balances : manager.Balances held selected)
    (same : (other.openTasks after).Perm (manager.openTasks held))
    (history : other.history = manager.history) (next : other.nextTask = manager.nextTask)
    (tells : other.report.Tells (manager.finals.map (·.outcome.result)))
    (scheduled : other.report.scheduled = manager.report.scheduled) :
    other.Balances after selected := by
  have finals : other.finals = manager.finals := by rw [finals, finals, history]
  constructor
  · rw [history, ((same.append_right _).map _).nodup_iff]
    exact balances.distinct
  · intro task mem
    rw [history, (same.append_right _).mem_iff] at mem
    rw [next]
    exact balances.issued task mem
  · rw [finals]
    exact ((same.append_right _).map _).trans balances.files
  · rw [finals]
    exact balances.honest
  · rwa [finals]
  · rw [scheduled]
    exact balances.scheduled

/-- A task in hand gets another attempt: its number is recorded, and its file waits again under a
new number. -/
theorem Balances.retry {task : Task} {outcome : Outcome} {report : Report}
    (balances : manager.Balances [task] selected)
    (tells : report.Tells (manager.finals.map (·.outcome.result)))
    (scheduled : report.scheduled = manager.report.scheduled) :
    (Manager.requeue
      { manager with
        report := report
        history := ⟨task, outcome, false⟩ :: manager.history } task).Balances [] selected := by
  have tasks : (((manager.pending ++ [task.next manager.nextTask] ++
        manager.inFlight.map (·.task)) ++ task :: manager.history.map (·.task))).Perm
      (task.next manager.nextTask ::
        (manager.openTasks [task] ++ manager.history.map (·.task))) := by
    rw [List.perm_iff_count]
    intro other
    simp only [openTasks, List.count_append, List.count_cons, List.count_nil]
    omega
  have fresh : manager.nextTask ∉
      (manager.openTasks [task] ++ manager.history.map (·.task)).map (·.id) := by
    intro mem
    obtain ⟨other, mem, same⟩ := List.mem_map.1 mem
    exact Nat.ne_of_lt (balances.issued other mem) same
  constructor
  · have distinct := List.nodup_cons.2 ⟨fresh, balances.distinct⟩
    exact (List.Perm.nodup_iff (tasks.map Task.id)).2 distinct
  · intro other mem
    change other.id < manager.nextTask + 1
    rcases List.mem_cons.1 (tasks.mem_iff.1 mem) with rfl | mem
    · exact Nat.lt_succ_self _
    · exact Nat.lt_succ_of_lt (balances.issued other mem)
  · refine List.Perm.trans ?_ balances.files
    rw [List.perm_iff_count]
    intro path
    simp only [openTasks, requeue, finals, Task.next, List.nil_append, List.map_append,
      List.map_cons, List.map_nil, List.filter_cons, Bool.false_eq_true, if_false,
      List.count_append, List.count_cons, List.count_nil]
    omega
  · exact balances.honest
  · exact ⟨tells.succeeded, tells.failed, tells.rows, tells.codes, tells.code⟩
  · exact scheduled.trans balances.scheduled

/-- A task in hand is done with: its outcome is the last word on its file. -/
theorem Balances.settle {task : Task} {outcome : Outcome} {report : Report}
    (balances : manager.Balances [task] selected) (honest : outcome.result.Honest)
    (tells : report.Tells (manager.finals.map (·.outcome.result)))
    (scheduled : report.scheduled = manager.report.scheduled) :
    (Manager.settle
      { manager with
        report := report
        history := ⟨task, outcome, true⟩ :: manager.history } task outcome).Balances
          [] selected := by
  have tasks : ((manager.pending ++ manager.inFlight.map (·.task)) ++
        task :: manager.history.map (·.task)).Perm
      (manager.openTasks [task] ++ manager.history.map (·.task)) := by
    rw [List.perm_iff_count]
    intro other
    simp only [openTasks, List.count_append, List.count_cons, List.count_nil]
    omega
  constructor
  · exact ((tasks.map (·.id)).nodup_iff).2 balances.distinct
  · exact fun other mem => balances.issued other (tasks.mem_iff.1 mem)
  · refine List.Perm.trans ?_ balances.files
    rw [List.perm_iff_count]
    intro path
    simp only [openTasks, Manager.settle, finals, List.nil_append, List.map_append, List.map_cons,
      List.map_nil, List.filter_cons, if_true, List.count_append, List.count_cons, List.count_nil]
    omega
  · intro entry mem
    rcases List.mem_cons.1 mem with rfl | mem
    · exact honest
    · exact balances.honest entry mem
  · exact tells.countFinal outcome.result
  · have kept : (report.countFinal outcome.result).scheduled = report.scheduled := by
      unfold Report.countFinal
      split <;> rfl
    exact (kept.trans scheduled).trans balances.scheduled

/-- The ledger is made of tasks, outcomes and figures. -/
theorem Balances.congr {other : Manager} (balances : manager.Balances held selected)
    (tasks : (other.pending, other.inFlight, other.nextTask) =
      (manager.pending, manager.inFlight, manager.nextTask))
    (history : other.history = manager.history) (report : other.report = manager.report) :
    other.Balances held selected := by
  simp only [Prod.mk.injEq] at tasks
  obtain ⟨pending, inFlight, nextTask⟩ := tasks
  have unfinished : other.openTasks held = manager.openTasks held := by
    rw [openTasks, openTasks, pending, inFlight]
  refine balances.rearrange (unfinished ▸ .refl _) history nextTask ?_ ?_
  · rw [report]
    exact balances.tells
  · rw [report]

/-- Accounting for an outcome empties the manager's hands. -/
theorem Balances.record {task : Task} {outcome : Outcome}
    (balances : manager.Balances [task] selected) (shared : Shared)
    (honest : outcome.result.Honest) :
    (manager.record shared task outcome).1.Balances [] selected := by
  have counted := (balances.tells.countDelivery outcome.delivery).countFailure
    outcome.result.errorCode
  have scheduled : ((manager.report.countDelivery outcome.delivery).countFailure
      outcome.result.errorCode).scheduled = manager.report.scheduled := by
    cases outcome.delivery <;> cases outcome.result.errorCode <;> rfl
  simp only [Manager.record]
  cases again : !outcome.result.success && manager.earnsRetry task outcome.result.errorCode with
  | true =>
      rw [if_pos rfl]
      exact balances.retry counted scheduled
  | false =>
      rw [if_neg (by decide)]
      have settled := balances.settle honest counted scheduled
      unfold saveIfDue
      split
      · exact settled.congr rfl rfl rfl
      · exact settled

theorem honest_withAttempt {result : ExtractionResult} (honest : result.Honest) (attempt : Nat) :
    (result.withAttempt attempt).Honest := honest

/-- Tasks with the workers have numbers of their own. -/
theorem Balances.task_eq (balances : manager.Balances held selected) {task other : Task}
    (mem : task ∈ manager.inFlight.map (·.task)) (also : other ∈ manager.inFlight.map (·.task))
    (same : task.id = other.id) : task = other := by
  refine List.inj_on_of_nodup_map (f := Task.id) (balances.distinct.sublist ?_) mem also same
  exact ((List.sublist_append_right _ _).trans (List.sublist_append_left _ _)).map _

/-- Tasks that are taken back from the workers are in the manager's hands. -/
theorem Balances.openTasks_takeBack (balances : manager.Balances [] selected) {back : List Task}
    (once : (back.map (·.id)).Nodup) (subset : back ⊆ manager.inFlight.map (·.task)) :
    (openTasks
      { manager with
        inFlight := manager.inFlight.filter fun entry => !back.any (·.id == entry.task.id) }
      back).Perm (manager.openTasks []) := by
  have distinct : ((manager.inFlight.map (·.task)).map (·.id)).Nodup := by
    refine balances.distinct.sublist (List.Sublist.map _ ?_)
    exact (List.sublist_append_right _ _).trans (List.sublist_append_left _ _)
  have split := perm_append_filter distinct once subset
  rw [List.filter_map] at split
  refine List.Perm.trans ?_ (split.symm.append_left manager.pending)
  rw [← List.append_assoc]
  exact List.perm_append_comm.append_right _

theorem Balances.takeBack (balances : manager.Balances [] selected) {back : List Task}
    (once : (back.map (·.id)).Nodup) (subset : back ⊆ manager.inFlight.map (·.task)) :
    ({ manager with
        inFlight := manager.inFlight.filter fun entry => !back.any (·.id == entry.task.id) } :
      Manager).Balances back selected :=
  balances.rearrange (balances.openTasks_takeBack once subset) rfl rfl balances.tells rfl

theorem flight?_eq_some {task : TaskId} {entry : InFlight}
    (found : manager.flight? task = some entry) :
    entry ∈ manager.inFlight ∧ entry.task.id = task := by
  refine ⟨List.mem_of_find?_eq_some found, ?_⟩
  simpa using List.find?_some found

theorem Balances.openTasks_land {task : TaskId} {entry : InFlight}
    (balances : manager.Balances [] selected) (found : manager.flight? task = some entry) :
    ((manager.land task).openTasks [entry.task]).Perm (manager.openTasks []) := by
  obtain ⟨mem, rfl⟩ := flight?_eq_some found
  have subset : [entry.task] ⊆ manager.inFlight.map (·.task) := by
    simpa using ⟨entry, mem, rfl⟩
  have taken := balances.openTasks_takeBack (by simp) subset
  have same : (manager.inFlight.filter fun other => !([entry.task].any (·.id == other.task.id))) =
      manager.inFlight.filter (·.task.id != entry.task.id) := by
    refine List.filter_congr fun other _ => ?_
    simp [bne, Bool.beq_comm (a := entry.task.id)]
  rwa [same] at taken

theorem Balances.land {task : TaskId} {entry : InFlight} (balances : manager.Balances [] selected)
    (found : manager.flight? task = some entry) :
    (manager.land task).Balances [entry.task] selected :=
  balances.rearrange (balances.openTasks_land found) rfl rfl balances.tells rfl

end Manager

end PartsList
