import Mathlib.Algebra.Order.BigOperators.Group.List
import Mathlib.Algebra.Order.Ring.Nat
import Mathlib.Data.Multiset.Filter
import Mathlib.Logic.Relation
import PartsList.Job.Manager

/-!
# Attempts at files

Every attempt at a file but the first follows upon one that failed because of the machine.  So the
attempts of a job fall into as many lineages as there are files, and an entry in the books of the
manager is the next event of one of them.  What holds of a lineage after each event holds of the
attempts at every file, in whatever order the outcomes of different files arrive.
-/

namespace PartsList

/-- The outcome earns the file of a task another attempt. -/
def RetryPolicy.earns (retry : RetryPolicy) (task : Task) (outcome : Outcome) : Bool :=
  !outcome.result.success &&
    (retry.enabled && outcome.result.errorCode.isRetryable &&
      decide (task.attempt ≤ retry.maxRetries))

theorem RetryPolicy.earns_iff {retry : RetryPolicy} {task : Task} {outcome : Outcome} :
    retry.earns task outcome = true ↔ outcome.result.success = false ∧
      outcome.result.errorCode.isRetryable = true ∧ retry.enabled = true ∧
        task.attempt ≤ retry.maxRetries := by
  simp only [RetryPolicy.earns, Bool.and_eq_true, Bool.not_eq_true', decide_eq_true_eq]
  tauto

/-- The attempts at one file. -/
structure Lineage where
  /-- The file. -/
  path : Path
  /-- The attempts whose outcomes are recorded, the first one first. -/
  recorded : List Recorded
  /-- The attempt that has no outcome yet. -/
  waiting : Option Task

namespace Lineage

/-- All attempts, in their order. -/
def attempts (lineage : Lineage) : List Task :=
  lineage.recorded.map (·.task) ++ lineage.waiting.toList

/-- The lineage of a file whose first attempt waits. -/
def start (task : Task) : Lineage :=
  ⟨task.path, [], some task⟩

/-- How the attempts at a file come about. -/
inductive Comes (retry : RetryPolicy) : Path → List Recorded → Option Task → Prop
  /-- The first attempt waits. -/
  | first {task : Task} (fresh : task.attempt = 1) : Comes retry task.path [] (some task)
  /-- The outcome of the attempt earns the file another one. -/
  | again {path : Path} {recorded : List Recorded} {task : Task} {outcome : Outcome}
      (before : Comes retry path recorded (some task)) (earns : retry.earns task outcome = true)
      (id : TaskId) :
      Comes retry path (recorded ++ [⟨task, outcome, false⟩]) (some (task.next id))
  /-- The outcome of the attempt is the last word on the file. -/
  | final {path : Path} {recorded : List Recorded} {task : Task} {outcome : Outcome}
      (before : Comes retry path recorded (some task)) (ends : retry.earns task outcome = false) :
      Comes retry path (recorded ++ [⟨task, outcome, true⟩]) none

/-- The attempts at a file are as many as the policy justifies. -/
structure Justified (retry : RetryPolicy) (lineage : Lineage) : Prop where
  /-- They are about the file. -/
  path : ∀ task ∈ lineage.attempts, task.path = lineage.path
  /-- They are numbered from one on, without gaps. -/
  numbered : lineage.attempts.map (·.attempt) = List.range' 1 lineage.attempts.length
  /-- There is one, -/
  nonempty : lineage.attempts ≠ []
  /-- and there are no more than the policy allows. -/
  most : lineage.attempts.length ≤ if retry.enabled then retry.maxRetries + 1 else 1
  /-- Every recorded attempt but the last one failed because of the machine, and another one was
  queued. -/
  spent : ∀ entry ∈ lineage.recorded.dropLast, entry.final = false ∧
    entry.outcome.result.success = false ∧ entry.outcome.result.errorCode.isRetryable = true
  /-- The last one is the last word on the file exactly if nothing justifies another one. -/
  final : ∀ last, lineage.recorded.getLast? = some last →
    (last.final = true ↔ last.outcome.result.success = true ∨
      last.outcome.result.errorCode.isRetryable = false ∨ retry.enabled = false ∨
      lineage.recorded.length = retry.maxRetries + 1)
  /-- If it is, then no attempt waits, -/
  ended : ∀ last, lineage.recorded.getLast? = some last → last.final = true →
    lineage.waiting = none
  /-- and else its successor does. -/
  follows : ∀ last, lineage.recorded.getLast? = some last → last.final = false →
    ∃ id, lineage.waiting = some (last.task.next id)

variable {retry : RetryPolicy} {path : Path} {recorded : List Recorded} {waiting : Option Task}
  {task : Task} {outcome : Outcome} {lineage : Lineage}

/-- As long as an attempt waits, every recorded one has earned the file another one. -/
theorem Comes.earned (comes : Comes retry path recorded waiting) (waits : waiting ≠ none) :
    ∀ entry ∈ recorded, entry.final = false ∧ retry.earns entry.task entry.outcome = true := by
  induction comes with
  | first fresh => simp
  | again before earns id induction =>
      intro entry mem
      rcases List.mem_append.1 mem with mem | mem
      · exact induction (by simp) entry mem
      · obtain rfl := List.mem_singleton.1 mem
        exact ⟨rfl, earns⟩
  | final => exact absurd rfl waits

theorem Comes.path_eq (comes : Comes retry path recorded waiting) :
    ∀ task ∈ attempts ⟨path, recorded, waiting⟩, task.path = path := by
  induction comes with
  | first fresh => simp [attempts]
  | again before earns id induction => simp_all [attempts, Task.next, or_imp, forall_and]
  | final before ends induction => simp_all [attempts]

theorem Comes.path_recorded (comes : Comes retry path recorded waiting) {entry : Recorded}
    (mem : entry ∈ recorded) : entry.task.path = path :=
  comes.path_eq entry.task (List.mem_append_left _ (List.mem_map_of_mem mem))

theorem Comes.path_waiting (comes : Comes retry path recorded waiting) (mem : task ∈ waiting) :
    task.path = path :=
  comes.path_eq task (List.mem_append_right _ (Option.mem_toList.2 mem))

theorem Comes.attempts_ne_nil (comes : Comes retry path recorded waiting) :
    attempts ⟨path, recorded, waiting⟩ ≠ [] := by
  cases comes <;> simp [attempts]

/-- The attempt that waits has the number after those of the recorded ones. -/
theorem Comes.counted (comes : Comes retry path recorded waiting) :
    recorded.map (·.task.attempt) = List.range' 1 recorded.length ∧
      ∀ task ∈ waiting, task.attempt = recorded.length + 1 := by
  induction comes with
  | first fresh => simp [fresh]
  | again before earns id induction =>
      obtain ⟨numbers, next⟩ := induction
      simp only [Option.mem_some_iff, forall_eq'] at next
      simp [numbers, next, Task.next, List.range'_concat, Nat.add_comm]
  | final before ends induction =>
      obtain ⟨numbers, next⟩ := induction
      simp only [Option.mem_some_iff, forall_eq'] at next
      simp [numbers, next, List.range'_concat, Nat.add_comm]

theorem Comes.numbered (comes : Comes retry path recorded waiting) :
    (attempts ⟨path, recorded, waiting⟩).map (·.attempt) =
      List.range' 1 (attempts ⟨path, recorded, waiting⟩).length := by
  obtain ⟨numbers, next⟩ := comes.counted
  cases waiting with
  | none => simpa [attempts, Function.comp_def] using numbers
  | some task =>
      have next := next task rfl
      simp [attempts, Function.comp_def, numbers, next, List.range'_concat, Nat.add_comm]

theorem Comes.most (comes : Comes retry path recorded waiting) :
    (attempts ⟨path, recorded, waiting⟩).length ≤
      if retry.enabled then retry.maxRetries + 1 else 1 := by
  induction comes with
  | first fresh => split <;> simp [attempts]
  | again before earns id induction =>
      obtain ⟨-, -, enabled, less⟩ := retry.earns_iff.1 earns
      have count := before.counted.2 _ rfl
      simp only [enabled, if_true, attempts, List.length_append, List.length_map,
        Option.toList_some, List.length_singleton]
      omega
  | final before ends induction => simpa [attempts] using induction

theorem Comes.spent (comes : Comes retry path recorded waiting) :
    ∀ entry ∈ recorded.dropLast, entry.final = false ∧
      entry.outcome.result.success = false ∧ entry.outcome.result.errorCode.isRetryable = true := by
  intro entry mem
  have earned : entry.final = false ∧ retry.earns entry.task entry.outcome = true := by
    cases comes with
    | first => simp at mem
    | again before | final before =>
        rw [List.dropLast_concat] at mem
        exact before.earned nofun entry mem
  obtain ⟨failed, retryable, -⟩ := retry.earns_iff.1 earned.2
  exact ⟨earned.1, failed, retryable⟩

/-- The last recorded attempt is the last word on the file if nothing justifies another one, and
another one waits if something does. -/
theorem Comes.last (comes : Comes retry path recorded waiting) (last : Recorded)
    (latest : recorded.getLast? = some last) :
    (last.final = true ↔ last.outcome.result.success = true ∨
      last.outcome.result.errorCode.isRetryable = false ∨ retry.enabled = false ∨
      recorded.length = retry.maxRetries + 1) ∧
    (last.final = true → waiting = none) ∧
    (last.final = false → ∃ id, waiting = some (last.task.next id)) := by
  have most := comes.most
  cases comes with
  | first => simp at latest
  | @again path recorded task outcome before earns id =>
      obtain rfl : _ = last := by simpa using latest
      obtain ⟨failed, retryable, enabled, less⟩ := retry.earns_iff.1 earns
      have count : task.attempt = recorded.length + 1 := before.counted.2 _ rfl
      have spare : recorded.length ≠ retry.maxRetries := by omega
      refine ⟨iff_of_false nofun ?_, nofun, fun _ => ⟨id, rfl⟩⟩
      simp [failed, retryable, enabled, spare]
  | @final path recorded task outcome before ends =>
      obtain rfl : _ = last := by simpa using latest
      have count : task.attempt = recorded.length + 1 := before.counted.2 _ rfl
      refine ⟨iff_of_true rfl ?_, fun _ => rfl, nofun⟩
      -- If nothing justified the end, then the outcome would have earned another attempt.
      by_contra! justified
      obtain ⟨failed, retryable, enabled, spare⟩ := justified
      rw [ne_eq, Bool.not_eq_false] at retryable enabled
      rw [ne_eq, Bool.not_eq_true] at failed
      simp only [attempts, enabled, if_true, List.length_append, List.length_map,
        List.length_singleton, Option.toList_none, List.length_nil] at most spare
      have earns := retry.earns_iff.2 ⟨failed, retryable, enabled, show task.attempt ≤ _ by omega⟩
      rw [ends] at earns
      cases earns

theorem Comes.justified (comes : Comes retry lineage.path lineage.recorded lineage.waiting) :
    lineage.Justified retry where
  path := comes.path_eq
  numbered := comes.numbered
  nonempty := comes.attempts_ne_nil
  most := comes.most
  spent := comes.spent
  final := fun last latest => (comes.last last latest).1
  ended := fun last latest => (comes.last last latest).2.1
  follows := fun last latest => (comes.last last latest).2.2

/-- A policy allows each file no more than so many attempts after the first one. -/
theorem Justified.retries_le (justified : lineage.Justified retry) :
    lineage.attempts.length - 1 ≤ retry.maxRetries := by
  have most := justified.most
  split at most <;> omega

/-- Each lineage has one attempt under way at most, which is about its file. -/
theorem sublist_waiting {lineages : List Lineage}
    (about : ∀ lineage ∈ lineages, ∀ task ∈ lineage.waiting, task.path = lineage.path) :
    ((lineages.filterMap (·.waiting)).map (·.path)).Sublist (lineages.map (·.path)) := by
  induction lineages with
  | nil => simp
  | cons lineage lineages induction =>
      obtain ⟨first, others⟩ := List.forall_mem_cons.1 about
      have rest := induction others
      cases waits : lineage.waiting with
      | none => simpa [waits] using rest.cons lineage.path
      | some task => simpa [waits, first task waits] using rest.cons_cons lineage.path

/-- What only lineages of one file contribute to, and there is only one of them. -/
theorem flatMap_eq_of_once {α : Type} {lineages : List Lineage} {part : Lineage → List α}
    (mem : lineage ∈ lineages) (once : (lineages.map (·.path)).count lineage.path = 1)
    (none : ∀ other ∈ lineages, other.path ≠ lineage.path → part other = []) :
    lineages.flatMap part = part lineage := by
  obtain ⟨front, back, rfl⟩ := List.append_of_mem mem
  simp only [List.map_append, List.map_cons, List.count_append, List.count_cons_self] at once
  have nothing (others : List Lineage) (among : others ⊆ front ++ lineage :: back)
      (absent : (others.map (·.path)).count lineage.path = 0) : others.flatMap part = [] := by
    refine List.flatMap_eq_nil_iff.2 fun other inside => none other (among inside) fun same => ?_
    exact List.count_eq_zero.1 absent (same ▸ List.mem_map_of_mem inside)
  simp [nothing front (by simp) (by omega), nothing back (by simp) (by omega)]

end Lineage

/-! ## Entries in the books -/

/-- What the books of a manager say of attempts. -/
structure Tally where
  /-- Which results earn a file another attempt. -/
  retry : RetryPolicy
  /-- The attempts that have no outcome yet. -/
  waiting : Multiset Task
  /-- The outcomes that were recorded, the latest first. -/
  history : List Recorded
  /-- How many further attempts were queued. -/
  retried : Nat
  /-- The number of an attempt did not fit. -/
  fault : Option Overflow

namespace Tally

/-- The manager records an outcome. -/
inductive Entry : Tally → Tally → Prop
  /-- The file gets another attempt. -/
  | again {tally : Tally} {task : Task} {others : Multiset Task} {outcome : Outcome}
      (waits : tally.waiting = task ::ₘ others) (earns : tally.retry.earns task outcome = true)
      (id : TaskId) :
      Entry tally
        { tally with
          waiting := task.next id ::ₘ others
          history := ⟨task, outcome, false⟩ :: tally.history
          retried := tally.retried + 1
          fault := if task.isLast then some .addition else tally.fault }
  /-- The outcome is the last word on its file. -/
  | final {tally : Tally} {task : Task} {others : Multiset Task} {outcome : Outcome}
      (waits : tally.waiting = task ::ₘ others) (ends : tally.retry.earns task outcome = false) :
      Entry tally
        { tally with waiting := others, history := ⟨task, outcome, true⟩ :: tally.history }

/-- The attempts in the books are those of the given lineages. -/
structure Sorts (tally : Tally) (lineages : List Lineage) : Prop where
  /-- Each lineage came about by the policy. -/
  comes : ∀ lineage ∈ lineages,
    Lineage.Comes tally.retry lineage.path lineage.recorded lineage.waiting
  /-- The attempts without an outcome are those that wait in the lineages. -/
  waiting : tally.waiting = ↑(lineages.filterMap (·.waiting))
  /-- The recorded outcomes are those in the lineages, -/
  recorded : tally.history.Perm (lineages.flatMap (·.recorded))
  /-- and those of a lineage were recorded in its order. -/
  order : ∀ lineage ∈ lineages, lineage.recorded.reverse.Sublist tally.history
  /-- Every attempt of a lineage but its first one is counted. -/
  retried : tally.retried = (lineages.map fun lineage => lineage.attempts.length - 1).sum

variable {tally next : Tally} {lineages : List Lineage} {task : Task} {others : Multiset Task}
  {outcome : Outcome}

/-- An attempt that waits is the last one of a lineage. -/
theorem Sorts.split (sorts : tally.Sorts lineages) (waits : tally.waiting = task ::ₘ others) :
    ∃ front back path recorded, lineages = front ++ ⟨path, recorded, some task⟩ :: back ∧
      others = ↑(front.filterMap (·.waiting) ++ back.filterMap (·.waiting)) := by
  have mem : task ∈ lineages.filterMap (·.waiting) := by
    rw [← Multiset.mem_coe, ← sorts.waiting, waits]
    exact Multiset.mem_cons_self task others
  obtain ⟨⟨path, recorded, waiting⟩, inside, rfl⟩ := List.mem_filterMap.1 mem
  obtain ⟨front, back, rfl⟩ := List.append_of_mem inside
  refine ⟨front, back, path, recorded, rfl, ?_⟩
  have same := sorts.waiting
  rw [waits, List.filterMap_append, List.filterMap_cons] at same
  dsimp only at same
  rw [Multiset.coe_eq_coe.2 List.perm_middle, ← Multiset.cons_coe, Multiset.cons_inj_right] at same
  exact same

/-- An outcome is the next event of the lineage of its attempt. -/
theorem Sorts.record {front back : List Lineage} {path : Path} {recorded : List Recorded}
    {waiting : Option Task} {final : Bool}
    (sorts : tally.Sorts (front ++ ⟨path, recorded, some task⟩ :: back))
    (comes : Lineage.Comes tally.retry path (recorded ++ [⟨task, outcome, final⟩]) waiting)
    (policy : next.retry = tally.retry)
    (waits : next.waiting =
      ↑(waiting.toList ++ (front.filterMap (·.waiting) ++ back.filterMap (·.waiting))))
    (history : next.history = ⟨task, outcome, final⟩ :: tally.history)
    (retried : next.retried = tally.retried + waiting.toList.length) :
    next.Sorts (front ++ ⟨path, recorded ++ [⟨task, outcome, final⟩], waiting⟩ :: back) := by
  obtain ⟨all, -, perm, order, count⟩ := sorts
  constructor
  · rw [policy]
    simp only [List.mem_append, List.mem_cons] at all ⊢
    rintro lineage (mem | rfl | mem)
    · exact all lineage (Or.inl mem)
    · exact comes
    · exact all lineage (Or.inr (Or.inr mem))
  · rw [waits, Multiset.coe_eq_coe, List.filterMap_append, List.filterMap_cons]
    cases waiting with
    | none => simp
    | some task => simpa using List.perm_middle.symm
  · rw [history]
    refine (perm.cons _).trans ?_
    simpa using (@List.perm_middle _ ⟨task, outcome, final⟩
      (front.flatMap (·.recorded) ++ recorded) (back.flatMap (·.recorded))).symm
  · rw [history]
    simp only [List.mem_append, List.mem_cons] at order ⊢
    rintro lineage (mem | rfl | mem)
    · exact (order lineage (Or.inl mem)).cons _
    · have before := order _ (Or.inr (Or.inl rfl))
      simpa using before.cons_cons ⟨task, outcome, final⟩
    · exact (order lineage (Or.inr (Or.inr mem))).cons _
  · rw [retried, count]
    simp [Lineage.attempts]
    omega

/-- The lineages tell of the same files after an entry. -/
theorem Sorts.entry (sorts : tally.Sorts lineages) (entry : Entry tally next) :
    ∃ more : List Lineage, more.map (·.path) = lineages.map (·.path) ∧ next.Sorts more := by
  cases entry with
  | again waits earns id =>
      obtain ⟨front, back, path, recorded, rfl, rfl⟩ := sorts.split waits
      have before := sorts.comes _ (List.mem_append_right _ List.mem_cons_self)
      refine ⟨_, ?_, sorts.record (.again before earns id) rfl rfl rfl rfl⟩
      simp
  | final waits ends =>
      obtain ⟨front, back, path, recorded, rfl, rfl⟩ := sorts.split waits
      have before := sorts.comes _ (List.mem_append_right _ List.mem_cons_self)
      refine ⟨_, ?_, sorts.record (.final before ends) rfl rfl rfl rfl⟩
      simp

theorem Sorts.entries (sorts : tally.Sorts lineages)
    (entries : Relation.ReflTransGen Entry tally next) :
    ∃ more : List Lineage, more.map (·.path) = lineages.map (·.path) ∧ next.Sorts more := by
  induction entries with
  | refl => exact ⟨lineages, rfl, sorts⟩
  | tail _ entry induction =>
      obtain ⟨middle, same, sorts⟩ := induction
      obtain ⟨more, same', sorts⟩ := sorts.entry entry
      exact ⟨more, same'.trans same, sorts⟩

theorem retry_of_entries (entries : Relation.ReflTransGen Entry tally next) :
    next.retry = tally.retry := by
  induction entries with
  | refl => rfl
  | tail _ entry induction => cases entry <;> exact induction

/-- The number of an attempt fits, if the policy allows no more attempts than can be numbered. -/
theorem fault_of_entries (few : tally.retry.maxRetries + 1 < attemptLimit)
    (entries : Relation.ReflTransGen Entry tally next) (fits : tally.fault = none) :
    next.fault = none := by
  induction entries with
  | refl => exact fits
  | @tail middle last made entry induction =>
      cases entry with
      | @again task _ _ waits earns id =>
          obtain ⟨-, -, -, least⟩ := middle.retry.earns_iff.1 earns
          rw [retry_of_entries made] at least
          have spare : task.isLast = false := by
            simp only [Task.isLast, decide_eq_false_iff_not, not_le]
            omega
          simp [spare, induction]
      | final => exact induction

/-- Every file has had as many further attempts as the policy allows, at most. -/
theorem Sorts.retried_le (sorts : tally.Sorts lineages) :
    tally.retried ≤ lineages.length * tally.retry.maxRetries := by
  rw [sorts.retried]
  have most := List.sum_le_card_nsmul (lineages.map fun lineage => lineage.attempts.length - 1)
    tally.retry.maxRetries fun count mem => by
      obtain ⟨lineage, inside, rfl⟩ := List.mem_map.1 mem
      exact (sorts.comes lineage inside).justified.retries_le
  simpa using most

/-- The attempts at a file that was selected once are those of its lineage. -/
theorem Sorts.alone (sorts : tally.Sorts lineages) {lineage : Lineage} (mem : lineage ∈ lineages)
    (once : (lineages.map (·.path)).count lineage.path = 1) :
    tally.history.filter (·.task.path = lineage.path) = lineage.recorded.reverse ∧
      tally.waiting.filter (·.path = lineage.path) = ↑lineage.waiting.toList := by
  have comes := sorts.comes lineage mem
  constructor
  · have own : lineage.recorded.filter (·.task.path = lineage.path) = lineage.recorded :=
      List.filter_eq_self.2 fun entry inside => decide_eq_true (comes.path_recorded inside)
    have perm := sorts.recorded.filter (·.task.path = lineage.path)
    rw [List.filter_flatMap, Lineage.flatMap_eq_of_once mem once
      fun other among apart => ?_] at perm
    · -- The outcomes of the lineage are among those of the file, and there are as many of them.
      have inside := (sorts.order lineage mem).filter (·.task.path = lineage.path)
      rw [List.filter_reverse, own] at inside
      refine (inside.eq_of_length ?_).symm
      rw [List.length_reverse, perm.length_eq, own]
    · refine List.filter_eq_nil_iff.2 fun entry inside => ?_
      rwa [(sorts.comes other among).path_recorded inside, decide_eq_true_eq]
  · rw [sorts.waiting, List.filterMap_eq_flatMap_toList, Multiset.filter_coe, List.filter_flatMap,
      Lineage.flatMap_eq_of_once mem once fun other among apart => ?_]
    · rw [List.filter_eq_self.2 fun task inside => ?_]
      exact decide_eq_true (comes.path_waiting (Option.mem_toList.1 inside))
    · refine List.filter_eq_nil_iff.2 fun task inside => ?_
      rwa [(sorts.comes other among).path_waiting (Option.mem_toList.1 inside), decide_eq_true_eq]

/-- Files whose first attempts wait have lineages of nothing else. -/
theorem sorts_start {tasks : List Task} (first : ∀ task ∈ tasks, task.attempt = 1)
    (waiting : tally.waiting = ↑tasks) (history : tally.history = [])
    (retried : tally.retried = 0) :
    tally.Sorts (tasks.map .start) := by
  constructor
  · intro lineage mem
    obtain ⟨task, inside, rfl⟩ := List.mem_map.1 mem
    exact .first (first task inside)
  · simp [waiting, List.filterMap_map, Lineage.start, Function.comp_def]
  · simp [history, List.flatMap_map, Lineage.start]
  · intro lineage mem
    obtain ⟨task, -, rfl⟩ := List.mem_map.1 mem
    simp [Lineage.start]
  · simp [retried, Lineage.attempts, Lineage.start, Function.comp_def]

end Tally

end PartsList
