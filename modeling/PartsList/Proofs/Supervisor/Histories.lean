import Mathlib.Data.List.Induction
import Mathlib.Order.Bounds.Basic
import PartsList.Supervisor

/-!
# Histories of the supervision

What the supervision answers, told by the calls it has had and by nothing else: when a worker was
last heard of, whether it counts as stalled, which workers a check reports.  The times of the calls
may come in any order.
-/

namespace PartsList

namespace Supervisor

/-- A call of the supervision. -/
inductive Call
  /-- A worker is supervised from a time on. -/
  | register (worker : WorkerId) (time : Instant)
  /-- A worker gives a sign of life. -/
  | heartbeat (worker : WorkerId) (time : Instant)
  /-- A worker is no longer supervised. -/
  | remove (worker : WorkerId)
  /-- The workers that became stalled are asked for. -/
  | check (now : Instant)

/-- A call with its answer. -/
inductive Event
  /-- A worker was registered. -/
  | registered (worker : WorkerId) (time : Instant)
  /-- A worker was heard, and whether that ended a stall. -/
  | heard (worker : WorkerId) (time : Instant) (recovered : Bool)
  /-- A worker was removed. -/
  | removed (worker : WorkerId)
  /-- Workers were reported as stalled. -/
  | checked (now : Instant) (reported : List WorkerId)

namespace Event

/-- The call that was answered. -/
def call : Event → Call
  | registered worker time => .register worker time
  | heard worker time _ => .heartbeat worker time
  | removed worker => .remove worker
  | checked now _ => .check now

/-- The workers that the event reports. -/
def reports : Event → List WorkerId
  | checked _ reported => reported
  | _ => []

/-- Supervision of the worker begins anew or ends. -/
def Resets (worker : WorkerId) : Event → Prop
  | registered other _ => other = worker
  | removed other => other = worker
  | _ => False

/-- The worker is heard at that time. -/
def Hears (worker : WorkerId) (time : Instant) : Event → Prop
  | heard other heardAt _ => other = worker ∧ heardAt = time
  | _ => False

/-- The worker is heard, or supervision of it begins anew or ends. -/
def Concerns (worker : WorkerId) (event : Event) : Prop :=
  event.Resets worker ∨ ∃ time, event.Hears worker time

end Event

namespace Event

variable {worker other : WorkerId} {time now : Instant} {recovered : Bool}
  {reported : List WorkerId}

@[simp] theorem concerns_registered : (registered other time).Concerns worker ↔ other = worker := by
  simp [Concerns, Resets, Hears]

@[simp] theorem concerns_heard : (heard other time recovered).Concerns worker ↔ other = worker := by
  simp [Concerns, Resets, Hears]

@[simp] theorem concerns_removed : (removed other).Concerns worker ↔ other = worker := by
  simp [Concerns, Resets, Hears]

@[simp] theorem not_concerns_checked : ¬ (checked now reported).Concerns worker := by
  simp [Concerns, Resets, Hears]

end Event

/-- Answers a call. -/
def answer (supervisor : Supervisor) : Call → Event × Supervisor
  | .register worker time => (.registered worker time, supervisor.register worker time)
  | .heartbeat worker time =>
    let (recovered, supervisor) := supervisor.heartbeat worker time
    (.heard worker time recovered, supervisor)
  | .remove worker => (.removed worker, supervisor.remove worker)
  | .check now =>
    let (reported, supervisor) := supervisor.check now
    (.checked now reported, supervisor)

/-- Answers calls one after another. -/
def run (supervisor : Supervisor) (calls : List Call) : List Event × Supervisor :=
  calls.foldl
    (fun state call =>
      let (event, supervisor) := state.2.answer call
      (state.1 ++ [event], supervisor))
    ([], supervisor)

theorem run_append_singleton (supervisor : Supervisor) (calls : List Call) (call : Call) :
    supervisor.run (calls ++ [call]) =
      ((supervisor.run calls).1 ++ [((supervisor.run calls).2.answer call).1],
        ((supervisor.run calls).2.answer call).2) := by
  simp only [run, List.foldl_append, List.foldl_cons, List.foldl_nil]

theorem call_answer (supervisor : Supervisor) (call : Call) :
    (supervisor.answer call).1.call = call := by
  cases call <;> rfl

/-- A worker is supervised since a time, and these events came since. -/
def Enlisted (history : List Event) (worker : WorkerId) (start : Instant) (since : List Event) :
    Prop :=
  (∃ before, history = before ++ .registered worker start :: since) ∧
    ∀ event ∈ since, ¬ event.Resets worker

/-- The signs of life of a worker: its registration, and each time at which it was heard since. -/
def signs (worker : WorkerId) (start : Instant) (since : List Event) : Set Instant :=
  {time | time = start ∨ ∃ event ∈ since, event.Hears worker time}

/-- The latest sign of life of a supervised worker. -/
def LatestSign (history : List Event) (worker : WorkerId) (latest : Instant) : Prop :=
  ∃ start since, Enlisted history worker start since ∧ IsGreatest (signs worker start since) latest

/-- A worker was reported, and no event concerned it since. -/
def Stalled (history : List Event) (worker : WorkerId) : Prop :=
  ∃ before report since, history = before ++ report :: since ∧ worker ∈ report.reports ∧
    ∀ event ∈ since, ¬ event.Concerns worker

/-! ## Histories that grow -/

section Growing

variable {history : List Event} {worker : WorkerId} {event : Event}

theorem not_enlisted_nil {start : Instant} {since : List Event} :
    ¬ Enlisted [] worker start since := by
  rintro ⟨⟨before, split⟩, -⟩
  simp at split

theorem not_stalled_nil : ¬ Stalled [] worker := by
  rintro ⟨before, report, since, split, -⟩
  simp at split

/-- After one more event, supervision began with that event or lasted through it. -/
theorem enlisted_append {start : Instant} {since : List Event} :
    Enlisted (history ++ [event]) worker start since ↔
      (event = .registered worker start ∧ since = []) ∨
        ∃ earlier, since = earlier ++ [event] ∧ Enlisted history worker start earlier ∧
          ¬ event.Resets worker := by
  constructor
  · rintro ⟨⟨before, split⟩, kept⟩
    cases since using List.reverseRecOn with
    | nil =>
      obtain ⟨-, same⟩ := List.append_inj' split rfl
      exact .inl ⟨(List.cons.inj same).1, rfl⟩
    | append_singleton earlier last _ =>
      rw [← List.cons_append, ← List.append_assoc] at split
      obtain ⟨earlierSplit, same⟩ := List.append_inj' split rfl
      obtain rfl := (List.cons.inj same).1
      exact .inr ⟨earlier, rfl,
        ⟨⟨before, earlierSplit⟩, fun other mem => kept other (by simp [mem])⟩, kept event (by simp)⟩
  · rintro (⟨rfl, rfl⟩ | ⟨earlier, rfl, ⟨⟨before, rfl⟩, kept⟩, lasts⟩)
    · exact ⟨⟨history, rfl⟩, by simp⟩
    · refine ⟨⟨before, by simp⟩, fun other mem => ?_⟩
      rcases List.mem_append.mp mem with mem | mem
      · exact kept other mem
      · rwa [List.mem_singleton.mp mem]

theorem signs_append_of_hears {start time : Instant} {since : List Event}
    (hears : event.Hears worker time) :
    signs worker start (since ++ [event]) = insert time (signs worker start since) := by
  have once : ∀ other, event.Hears worker other ↔ other = time := by
    intro other
    cases event with
    | heard => exact ⟨fun heard => heard.2.symm.trans hears.2, fun same => same ▸ hears⟩
    | _ => cases hears
  ext other
  simp only [signs, Set.mem_ofPred_eq, Set.mem_insert_iff, List.mem_append, List.mem_singleton,
    or_and_right, exists_or, exists_eq_left, once]
  rw [← or_assoc, or_comm]

theorem signs_append_of_not_hears {start : Instant} {since : List Event}
    (silent : ∀ time, ¬ event.Hears worker time) :
    signs worker start (since ++ [event]) = signs worker start since := by
  ext other
  simp only [signs, Set.mem_ofPred_eq, List.mem_append, List.mem_singleton, or_and_right, exists_or,
    exists_eq_left, silent, or_false]

/-- Among the signs of life of a worker one is the latest. -/
theorem exists_isGreatest_signs (worker : WorkerId) (start : Instant) (since : List Event) :
    ∃ latest, IsGreatest (signs worker start since) latest := by
  induction since using List.reverseRecOn with
  | nil => exact ⟨start, .inl rfl, by rintro time (rfl | ⟨_, mem, -⟩) <;> simp_all⟩
  | append_singleton since event exists_earlier =>
    obtain ⟨latest, greatest⟩ := exists_earlier
    by_cases heard : ∃ time, event.Hears worker time
    · obtain ⟨time, hears⟩ := heard
      exact ⟨_, signs_append_of_hears hears ▸ greatest.insert time⟩
    · exact ⟨latest, by rwa [signs_append_of_not_hears (not_exists.mp heard)]⟩

/-- A registration is the latest sign of life whatever was heard before. -/
theorem latestSign_append_registered {start latest : Instant} :
    LatestSign (history ++ [.registered worker start]) worker latest ↔ latest = start := by
  constructor
  · rintro ⟨_, since, enlisted, greatest⟩
    rcases enlisted_append.mp enlisted with ⟨same, rfl⟩ | ⟨_, -, -, lasts⟩
    · cases same
      simpa [signs] using greatest.1
    · exact absurd rfl lasts
  · rintro rfl
    exact ⟨latest, [], enlisted_append.mpr (.inl ⟨rfl, rfl⟩), by simp [signs]⟩

/-- There is no latest sign of life of a worker that was removed. -/
theorem not_latestSign_append_removed {latest : Instant} :
    ¬ LatestSign (history ++ [.removed worker]) worker latest := by
  rintro ⟨_, since, enlisted, -⟩
  rcases enlisted_append.mp enlisted with ⟨same, -⟩ | ⟨_, -, -, lasts⟩
  · cases same
  · exact lasts rfl

/-- A worker that is heard was last heard of then or before, whichever is later. -/
theorem latestSign_append_heard {time latest : Instant} {recovered : Bool} :
    LatestSign (history ++ [.heard worker time recovered]) worker latest ↔
      ∃ before, LatestSign history worker before ∧ latest = max time before := by
  have hears : (Event.heard worker time recovered).Hears worker time := ⟨rfl, rfl⟩
  constructor
  · rintro ⟨start, since, enlisted, greatest⟩
    rcases enlisted_append.mp enlisted with ⟨same, -⟩ | ⟨earlier, rfl, enlisted, -⟩
    · cases same
    · obtain ⟨before, greatestBefore⟩ := exists_isGreatest_signs worker start earlier
      rw [signs_append_of_hears hears] at greatest
      exact ⟨before, ⟨start, earlier, enlisted, greatestBefore⟩,
        greatest.unique (greatestBefore.insert time)⟩
  · rintro ⟨before, ⟨start, earlier, enlisted, greatest⟩, rfl⟩
    exact ⟨start, _, enlisted_append.mpr (.inr ⟨earlier, rfl, enlisted, not_false⟩),
      signs_append_of_hears hears ▸ greatest.insert time⟩

/-- An event that does not concern a worker leaves its latest sign of life as it is. -/
theorem latestSign_append_of_not_concerns {latest : Instant} (apart : ¬ event.Concerns worker) :
    LatestSign (history ++ [event]) worker latest ↔ LatestSign history worker latest := by
  have lasts : ¬ event.Resets worker := fun resets => apart (.inl resets)
  have silent : ∀ time, ¬ event.Hears worker time := fun time hears => apart (.inr ⟨time, hears⟩)
  constructor
  · rintro ⟨start, since, enlisted, greatest⟩
    rcases enlisted_append.mp enlisted with ⟨rfl, -⟩ | ⟨earlier, rfl, enlisted, -⟩
    · exact absurd rfl lasts
    · exact ⟨start, earlier, enlisted, signs_append_of_not_hears silent ▸ greatest⟩
  · rintro ⟨start, earlier, enlisted, greatest⟩
    exact ⟨start, _, enlisted_append.mpr (.inr ⟨earlier, rfl, enlisted, lasts⟩),
      (signs_append_of_not_hears silent).symm ▸ greatest⟩

/-- After one more event, a worker counts as stalled if the event reports it, or if it did so before
and the event does not concern it. -/
theorem stalled_append :
    Stalled (history ++ [event]) worker ↔
      worker ∈ event.reports ∨ (Stalled history worker ∧ ¬ event.Concerns worker) := by
  constructor
  · rintro ⟨before, report, since, split, reported, quiet⟩
    cases since using List.reverseRecOn with
    | nil =>
      obtain ⟨-, same⟩ := List.append_inj' split rfl
      exact .inl ((List.cons.inj same).1 ▸ reported)
    | append_singleton earlier last _ =>
      rw [← List.cons_append, ← List.append_assoc] at split
      obtain ⟨earlierSplit, same⟩ := List.append_inj' split rfl
      obtain rfl := (List.cons.inj same).1
      exact .inr ⟨⟨before, report, earlier, earlierSplit, reported,
        fun other mem => quiet other (by simp [mem])⟩, quiet event (by simp)⟩
  · rintro (reported | ⟨⟨before, report, earlier, rfl, reported, quiet⟩, apart⟩)
    · exact ⟨history, event, [], rfl, reported, by simp⟩
    · refine ⟨before, report, earlier ++ [event], by simp, reported, fun other mem => ?_⟩
      rcases List.mem_append.mp mem with mem | mem
      · exact quiet other mem
      · rwa [List.mem_singleton.mp mem]

end Growing

/-! ## The records -/

section Records

variable {supervisor : Supervisor} {worker other : WorkerId} {time now : Instant}

theorem worker_of_find? {record : Liveness} (found : supervisor.find? worker = some record) :
    record.worker = worker := by
  have matched := List.find?_some found
  exact beq_iff_eq.mp matched

theorem isStalled_iff :
    supervisor.isStalled worker = true ↔
      (supervisor.find? worker).map (·.stalled) = some true := by
  unfold isStalled
  cases supervisor.find? worker <;> simp

theorem find?_remove :
    (supervisor.remove worker).find? other =
      if other = worker then none else supervisor.find? other := by
  simp only [find?, remove, List.find?_filter]
  split
  · next same =>
    rw [List.find?_eq_none]
    intro record _
    simp [same]
  · next differs =>
    congr 1
    funext record
    by_cases of : record.worker = other
    · simp [of, differs]
    · simp [of]

theorem find?_register :
    (supervisor.register worker time).find? other =
      if other = worker then some ⟨worker, time, false⟩ else supervisor.find? other := by
  have kept := @find?_remove supervisor worker other
  simp only [find?, register, List.find?_append] at kept ⊢
  rw [kept]
  split
  · next same => simp [same]
  · next differs => simp [Ne.symm differs]

/-- A change of the records that leaves the workers' numbers changes the record that is found. -/
theorem find?_map {change : Liveness → Liveness}
    (keeps : ∀ record, (change record).worker = record.worker) :
    (supervisor.workers.map change).find? (·.worker == worker) =
      (supervisor.find? worker).map change := by
  rw [List.find?_map]
  congr 2
  funext record
  simp [keeps]

theorem find?_heartbeat :
    (supervisor.heartbeat worker time).2.find? other =
      if other = worker then (supervisor.find? worker).map (revive · time)
      else supervisor.find? other := by
  unfold heartbeat
  cases found : supervisor.find? worker with
  | none =>
    by_cases same : other = worker
    · simp [same, found]
    · simp [same]
  | some record =>
    dsimp only
    change List.find? _ (supervisor.workers.map _) = _
    rw [find?_map (fun record => by simp only [revive]; split <;> rfl)]
    by_cases same : other = worker
    · subst same
      simp [found, worker_of_find? found]
    · rw [if_neg same]
      cases foundOther : supervisor.find? other with
      | none => rfl
      | some record =>
        have apart : record.worker ≠ worker := worker_of_find? foundOther ▸ same
        simp [apart]

/-- The answer to a heartbeat tells whether the worker counted as stalled. -/
theorem fst_heartbeat : (supervisor.heartbeat worker time).1 = supervisor.isStalled worker := by
  unfold heartbeat isStalled
  cases supervisor.find? worker <;> rfl

theorem find?_check :
    (supervisor.check now).2.find? worker =
      (supervisor.find? worker).map fun record =>
        if supervisor.isOverdue now record then { record with stalled := true } else record := by
  simp only [find?, check]
  exact find?_map (fun record => by split <;> rfl)

/-- While no worker has two records, each record is the one that is found. -/
theorem find?_of_mem {records : List Liveness} (once : (records.map (·.worker)).Nodup)
    {record : Liveness} (mem : record ∈ records) :
    records.find? (·.worker == record.worker) = some record := by
  induction records with
  | nil => cases mem
  | cons first rest found =>
    obtain ⟨new, once⟩ := List.nodup_cons.mp once
    rcases List.mem_cons.mp mem with rfl | mem
    · exact List.find?_cons_of_pos (by simp)
    · have apart : first.worker ≠ record.worker := fun same =>
        new (List.mem_map.mpr ⟨record, mem, same.symm⟩)
      rw [List.find?_cons_of_neg (by simpa using apart)]
      exact found once mem

/-- A check reports the workers whose records are overdue. -/
theorem mem_check (once : (supervisor.workers.map (·.worker)).Nodup) :
    worker ∈ (supervisor.check now).1 ↔
      ∃ record, supervisor.find? worker = some record ∧ supervisor.isOverdue now record = true := by
  simp only [check, List.mem_mergeSort, List.mem_map, List.mem_filter]
  constructor
  · rintro ⟨record, ⟨mem, overdue⟩, rfl⟩
    exact ⟨record, find?_of_mem once mem, overdue⟩
  · rintro ⟨record, found, overdue⟩
    exact ⟨record, ⟨List.mem_of_find?_eq_some found, overdue⟩, worker_of_find? found⟩

/-- A check reports each worker once, in the order of their numbers. -/
theorem pairwise_check (once : (supervisor.workers.map (·.worker)).Nodup) :
    (supervisor.check now).1.Pairwise (· < ·) := by
  let overdue := (supervisor.workers.filter (supervisor.isOverdue now)).map (·.worker)
  have ranked : (overdue.mergeSort (· ≤ ·)).Pairwise fun a b => decide (a ≤ b) = true :=
    List.pairwise_mergeSort (by simpa using fun _ _ _ => Nat.le_trans) (by simpa using Nat.le_total)
      overdue
  have sorted : (overdue.mergeSort (· ≤ ·)).Pairwise (· ≤ ·) := ranked.imp of_decide_eq_true
  have distinct : (overdue.mergeSort (· ≤ ·)).Nodup :=
    (List.mergeSort_perm overdue _).nodup_iff.mpr
      (once.sublist (List.filter_sublist.map _))
  exact sorted.imp₂ (fun _ _ le ne => Nat.lt_of_le_of_ne le ne) distinct

theorem nodup_register (once : (supervisor.workers.map (·.worker)).Nodup) :
    ((supervisor.register worker time).workers.map (·.worker)).Nodup := by
  simp only [register, List.map_append, List.map_cons, List.map_nil]
  refine List.nodup_append.mpr ⟨once.sublist (List.filter_sublist.map _), by simp, ?_⟩
  intro other mem _ new
  obtain ⟨record, kept, rfl⟩ := List.mem_map.mp mem
  rw [List.mem_singleton.mp new]
  simpa using (List.mem_filter.mp kept).2

/-- A sign of life changes nothing but the worker's record. -/
theorem heartbeat_keeps :
    (supervisor.heartbeat worker time).2.stallAfter = supervisor.stallAfter ∧
    (supervisor.heartbeat worker time).2.stallEvents = supervisor.stallEvents ∧
    (supervisor.heartbeat worker time).2.workers.map (·.worker) =
      supervisor.workers.map (·.worker) := by
  unfold heartbeat
  cases supervisor.find? worker with
  | none => exact ⟨rfl, rfl, rfl⟩
  | some _ =>
    refine ⟨rfl, rfl, ?_⟩
    simp only [List.map_map]
    refine List.map_congr_left fun record _ => ?_
    simp only [Function.comp_apply, revive]
    split <;> rfl

theorem workers_check :
    (supervisor.check now).2.workers.map (·.worker) = supervisor.workers.map (·.worker) := by
  simp only [check, List.map_map]
  refine List.map_congr_left fun record _ => ?_
  simp only [Function.comp_apply]
  split <;> rfl

end Records

/-! ## Records and histories -/

/-- What is recorded of a worker is what the history says of it. -/
structure Agrees (history : List Event) (supervisor : Supervisor) (worker : WorkerId) : Prop where
  /-- There is a record if the worker is supervised, with its latest sign of life. -/
  seen : ∀ latest, LatestSign history worker latest ↔
    (supervisor.find? worker).map (·.lastSeen) = some latest
  /-- The record is marked if the worker counts as stalled. -/
  stalled : Stalled history worker ↔ (supervisor.find? worker).map (·.stalled) = some true

/-- A supervision is in line with its history. -/
structure Tracks (span : Nat) (history : List Event) (supervisor : Supervisor) : Prop where
  /-- The span of silence is the one that was set. -/
  span : supervisor.stallAfter = span
  /-- No worker has two records. -/
  once : (supervisor.workers.map (·.worker)).Nodup
  /-- The records say what the history says. -/
  agrees : ∀ worker, Agrees history supervisor worker
  /-- All reports are counted. -/
  counted : supervisor.stallEvents = (history.flatMap Event.reports).length

section Agreement

variable {history : List Event} {supervisor next : Supervisor} {worker : WorkerId} {event : Event}

/-- An event that neither concerns nor reports a worker, and leaves its record as it is. -/
theorem Agrees.apart (agrees : Agrees history supervisor worker)
    (apart : ¬ event.Concerns worker) (silent : worker ∉ event.reports)
    (found : next.find? worker = supervisor.find? worker) :
    Agrees (history ++ [event]) next worker where
  seen latest := by rw [found, latestSign_append_of_not_concerns apart, agrees.seen]
  stalled := by
    rw [found, stalled_append, agrees.stalled]
    simp [silent, apart]

theorem agrees_register (time : Instant) :
    Agrees (history ++ [.registered worker time]) (supervisor.register worker time) worker where
  seen latest := by
    rw [find?_register, if_pos rfl, latestSign_append_registered]
    simp [eq_comm]
  stalled := by
    rw [find?_register, if_pos rfl, stalled_append]
    simp [Event.reports]

theorem agrees_remove :
    Agrees (history ++ [.removed worker]) (supervisor.remove worker) worker where
  seen latest := by
    rw [find?_remove, if_pos rfl]
    simp [not_latestSign_append_removed]
  stalled := by
    rw [find?_remove, if_pos rfl, stalled_append]
    simp [Event.reports]

theorem Agrees.heartbeat (agrees : Agrees history supervisor worker) (time : Instant)
    (recovered : Bool) :
    Agrees (history ++ [.heard worker time recovered]) (supervisor.heartbeat worker time).2
      worker where
  seen latest := by
    rw [find?_heartbeat, if_pos rfl, latestSign_append_heard]
    simp only [agrees.seen]
    cases supervisor.find? worker with
    | none => simp
    | some record => simp [revive, eq_comm, Nat.max_comm]
  stalled := by
    rw [find?_heartbeat, if_pos rfl, stalled_append]
    cases supervisor.find? worker <;> simp [revive, Event.reports]

/-- A check marks the workers that it reports. -/
theorem Agrees.check (agrees : Agrees history supervisor worker)
    (once : (supervisor.workers.map (·.worker)).Nodup) (now : Instant) :
    Agrees (history ++ [.checked now (supervisor.check now).1]) (supervisor.check now).2
      worker where
  seen latest := by
    rw [find?_check, latestSign_append_of_not_concerns Event.not_concerns_checked, agrees.seen]
    cases supervisor.find? worker with
    | none => rfl
    | some record =>
      simp only [Option.map_some, Option.some.injEq]
      split <;> rfl
  stalled := by
    rw [find?_check, stalled_append, agrees.stalled]
    simp only [Event.reports, mem_check once, Event.not_concerns_checked, not_false_eq_true,
      and_true]
    cases supervisor.find? worker with
    | none => simp
    | some record => cases overdue : supervisor.isOverdue now record <;> simp [overdue]

end Agreement

namespace Tracks

variable {span : Nat} {history : List Event} {supervisor : Supervisor}

theorem start (span : Nat) : Tracks span [] { stallAfter := span } where
  span := rfl
  once := List.nodup_nil
  agrees _ :=
    { seen := fun _ => ⟨fun ⟨_, _, enlisted, _⟩ => absurd enlisted not_enlisted_nil, nofun⟩
      stalled := ⟨fun stalled => absurd stalled not_stalled_nil, nofun⟩ }
  counted := rfl

/-- Every answer keeps the records in line with the history. -/
theorem answer (tracks : Tracks span history supervisor) (call : Call) :
    Tracks span (history ++ [(supervisor.answer call).1]) (supervisor.answer call).2 := by
  cases call with
  | register worker time =>
    refine ⟨tracks.span, ?_, fun other => ?_, ?_⟩
    · exact nodup_register tracks.once
    · by_cases same : other = worker
      · exact same ▸ agrees_register time
      · exact (tracks.agrees other).apart (by simpa [Supervisor.answer] using Ne.symm same)
          List.not_mem_nil (by simp only [Supervisor.answer, find?_register, if_neg same])
    · simp [Supervisor.answer, register, tracks.counted, Event.reports]
  | heartbeat worker time =>
    obtain ⟨span_eq, counted_eq, workers_eq⟩ := heartbeat_keeps
    refine ⟨span_eq.trans tracks.span, workers_eq ▸ tracks.once, fun other => ?_, ?_⟩
    · by_cases same : other = worker
      · exact same ▸ (tracks.agrees worker).heartbeat time _
      · exact (tracks.agrees other).apart (by simpa [Supervisor.answer] using Ne.symm same)
          List.not_mem_nil (by simp only [Supervisor.answer, find?_heartbeat, if_neg same])
    · simp [Supervisor.answer, counted_eq, tracks.counted, Event.reports]
  | remove worker =>
    refine ⟨tracks.span, tracks.once.sublist (List.filter_sublist.map _), fun other => ?_, ?_⟩
    · by_cases same : other = worker
      · exact same ▸ agrees_remove
      · exact (tracks.agrees other).apart (by simpa [Supervisor.answer] using Ne.symm same)
          List.not_mem_nil (by simp only [Supervisor.answer, find?_remove, if_neg same])
    · simp [Supervisor.answer, remove, tracks.counted, Event.reports]
  | check now =>
    refine ⟨tracks.span, ?_, fun worker => (tracks.agrees worker).check tracks.once now, ?_⟩
    · change ((supervisor.check now).2.workers.map (·.worker)).Nodup
      rw [workers_check]
      exact tracks.once
    · simp [Supervisor.answer, check, tracks.counted, Event.reports]

/-- The records are in line with the history after any calls. -/
theorem run (span : Nat) (calls : List Call) :
    Tracks span (Supervisor.run { stallAfter := span } calls).1
      (Supervisor.run { stallAfter := span } calls).2 := by
  induction calls using List.reverseRecOn with
  | nil => exact start span
  | append_singleton calls call tracks =>
    rw [run_append_singleton]
    exact tracks.answer call

end Tracks

/-- A history answers the calls in their order. -/
theorem map_call_run (supervisor : Supervisor) (calls : List Call) :
    (supervisor.run calls).1.map Event.call = calls := by
  induction calls using List.reverseRecOn with
  | nil => rfl
  | append_singleton calls call answered =>
    rw [run_append_singleton, List.map_append, answered, List.map_singleton, call_answer]

/-- Each event of a history answers a call made to the supervision as it was then. -/
theorem exists_moment {supervisor : Supervisor} {calls : List Call} {before after : List Event}
    {event : Event} (split : (supervisor.run calls).1 = before ++ event :: after) :
    ∃ earlier, (supervisor.run earlier).1 = before ∧
      event = ((supervisor.run earlier).2.answer event.call).1 := by
  induction calls using List.reverseRecOn generalizing after with
  | nil => simp [run] at split
  | append_singleton calls call exists_earlier =>
    rw [run_append_singleton] at split
    cases after using List.reverseRecOn with
    | nil =>
      obtain ⟨earlier, same⟩ := List.append_inj' split rfl
      obtain rfl := (List.cons.inj same).1
      exact ⟨calls, earlier, by rw [call_answer]⟩
    | append_singleton rest last _ =>
      dsimp only at split
      rw [← List.cons_append, ← List.append_assoc] at split
      exact exists_earlier (List.append_inj' split rfl).1

/-- A worker that was reported counts as stalled until it is heard or registered anew. -/
theorem exists_sign_between {before between : List Event} {report : Event} {worker : WorkerId}
    {latest : Instant} (reported : worker ∈ report.reports)
    (recovered : ¬ Stalled (before ++ report :: between) worker)
    (seen : LatestSign (before ++ report :: between) worker latest) :
    ∃ event ∈ between, ∃ time, event = .registered worker time ∨ event.Hears worker time := by
  obtain ⟨start, since, ⟨⟨earlier, split⟩, kept⟩, -⟩ := seen
  have other : report ≠ .registered worker start := by
    rintro rfl
    cases reported
  rcases List.append_eq_append_iff.mp split with ⟨passed, -, after⟩ | ⟨passed, -, after⟩
  · -- supervision began anew after the report
    cases passed with
    | nil => exact absurd (List.cons.inj after).1 other
    | cons _ passed =>
      refine ⟨.registered worker start, ?_, start, .inl rfl⟩
      rw [(List.cons.inj after).2]
      simp
  · -- the worker was supervised at the time of the report and is still
    cases passed with
    | nil => exact absurd (List.cons.inj after).1.symm other
    | cons _ passed =>
      by_contra silent
      refine recovered ⟨before, report, between, rfl, reported, ?_⟩
      rintro event mem (resets | ⟨time, hears⟩)
      · refine kept event ?_ resets
        rw [(List.cons.inj after).2]
        simp [mem]
      · exact silent ⟨event, mem, time, .inr hears⟩

/-- A check reports, sorted and each once, the workers that do not count as stalled and whose latest
sign of life is longer ago than the span of silence. -/
theorem Tracks.check {span : Nat} {history : List Event} {supervisor : Supervisor}
    (tracks : Tracks span history supervisor) (now : Instant) :
    (supervisor.check now).1.Pairwise (· < ·) ∧
    ∀ worker, worker ∈ (supervisor.check now).1 ↔
      ¬ Stalled history worker ∧
        ∃ latest, LatestSign history worker latest ∧ latest + span < now := by
  refine ⟨pairwise_check tracks.once, fun worker => ?_⟩
  rw [mem_check tracks.once, (tracks.agrees worker).stalled]
  simp only [(tracks.agrees worker).seen]
  cases supervisor.find? worker with
  | none => simp
  | some record =>
    simp [isOverdue, tracks.span, Nat.lt_sub_iff_add_lt']

/-- A sign of life of a worker that is not supervised changes nothing. -/
theorem Tracks.heartbeat_of_not_enlisted {span : Nat} {history : List Event}
    {supervisor : Supervisor} (tracks : Tracks span history supervisor) {worker : WorkerId}
    (unknown : ∀ start since, ¬ Enlisted history worker start since) (time : Instant) :
    supervisor.heartbeat worker time = (false, supervisor) := by
  have absent : supervisor.find? worker = none := by
    rw [Option.eq_none_iff_forall_ne_some]
    intro record found
    obtain ⟨start, since, enlisted, -⟩ :=
      ((tracks.agrees worker).seen record.lastSeen).mpr (congrArg (Option.map _) found)
    exact unknown start since enlisted
  unfold heartbeat
  rw [absent]

section Moments

variable {span : Nat} {calls : List Call} {before after : List Event} {now time : Instant}
  {reported : List WorkerId} {worker : WorkerId} {recovered : Bool}

/-- Each check of a history reports what the history before it says. -/
theorem check_of_run
    (split : (Supervisor.run { stallAfter := span } calls).1 =
      before ++ .checked now reported :: after) :
    reported.Pairwise (· < ·) ∧
    ∀ worker, worker ∈ reported ↔
      ¬ Stalled before worker ∧
        ∃ latest, LatestSign before worker latest ∧ latest + span < now := by
  obtain ⟨earlier, rfl, same⟩ := exists_moment split
  cases same
  exact (Tracks.run span earlier).check now

/-- Each answer to a sign of life tells whether the worker counted as stalled. -/
theorem recovered_of_run
    (split : (Supervisor.run { stallAfter := span } calls).1 =
      before ++ .heard worker time recovered :: after) :
    recovered = true ↔ Stalled before worker := by
  obtain ⟨earlier, rfl, same⟩ := exists_moment split
  rw [(Event.heard.inj same).2.2, ((Tracks.run span earlier).agrees worker).stalled,
    ← isStalled_iff]
  exact Bool.eq_iff_iff.mp fst_heartbeat

end Moments

/-- For any calls at any times, the history answers them in their order; each check reports, sorted
and each once, the supervised workers that do not count as stalled and whose latest sign of life is
longer ago than the span of silence; between two reports of a worker it is heard or registered anew;
it counts as stalled from a report until it is heard, registered or removed, and being heard tells
so; a sign of life of a worker that is not supervised changes nothing; and all reports are
counted. -/
theorem run_history (span : Nat) (calls : List Call) :
    let history := (Supervisor.run { stallAfter := span } calls).1
    let supervisor := (Supervisor.run { stallAfter := span } calls).2
    history.map Event.call = calls ∧
    (∀ before now reported after, history = before ++ .checked now reported :: after →
      reported.Pairwise (· < ·) ∧
      ∀ worker, worker ∈ reported ↔
        ¬ Stalled before worker ∧
          ∃ latest, LatestSign before worker latest ∧ latest + span < now) ∧
    (∀ before now reported between now' reported' after worker,
      history = before ++ .checked now reported :: (between ++ .checked now' reported' :: after) →
      worker ∈ reported → worker ∈ reported' →
        ∃ event ∈ between, ∃ time, event = .registered worker time ∨ event.Hears worker time) ∧
    (∀ worker, supervisor.isStalled worker = true ↔ Stalled history worker) ∧
    (∀ before worker time recovered after,
      history = before ++ .heard worker time recovered :: after →
        (recovered = true ↔ Stalled before worker)) ∧
    (∀ worker, (∀ start since, ¬ Enlisted history worker start since) →
      ∀ time, supervisor.heartbeat worker time = (false, supervisor)) ∧
    supervisor.stallEvents = (history.flatMap Event.reports).length := by
  intro history supervisor
  have tracks := Tracks.run span calls
  refine ⟨?_, fun _ _ _ _ split => check_of_run split, ?_, fun worker => ?_,
    fun _ _ _ _ _ split => recovered_of_run split,
    fun _ unknown time => tracks.heartbeat_of_not_enlisted unknown time, tracks.counted⟩
  · exact map_call_run _ calls
  · intro before now reported between now' reported' after worker split first second
    rw [← List.cons_append, ← List.append_assoc] at split
    obtain ⟨recovered, latest, seen, -⟩ := ((check_of_run split).2 worker).mp second
    have told : worker ∈ (Event.checked now reported).reports := first
    exact exists_sign_between told recovered seen
  · rw [isStalled_iff, (tracks.agrees worker).stalled]

end Supervisor

end PartsList
