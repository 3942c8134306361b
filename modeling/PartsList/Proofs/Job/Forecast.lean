import PartsList.Job.Manager
import PartsList.Proofs.Job.Results
import PartsList.Proofs.Store.Answers

/-!
# What attempts at a file come to

What an attempt at a file comes to depends on the file and on how often the engine has been asked
for it before, but not on who makes the attempt and when.  Since a file has one attempt after the
other, this settles which attempt is the last one and what it comes to, up to time, memory and the
budget that a refusal for memory names, which is the share of one worker.
-/

namespace PartsList

namespace ExtractionResult

/-- The result without what depends on the clock, on the memory in use and on a worker's share of
the memory. -/
def essence (result : ExtractionResult) : ExtractionResult :=
  { result with
    errorMessage :=
      if result.errorCode = .memoryLimitExceeded then
        result.errorMessage.map beforeBudget
      else result.errorMessage
    metrics := { result.metrics with durationMs := 0, memoryPeakMb := none } }

@[simp] theorem essence_essence (result : ExtractionResult) :
    result.essence.essence = result.essence := by
  unfold essence
  dsimp only
  split
  · rw [Option.map_map]
    congr 2
    funext message
    exact beforeBudget_beforeBudget message
  · rfl

theorem essence_withAttempt (result : ExtractionResult) (attempt : Nat) :
    (result.withAttempt attempt).essence = result.essence.withAttempt attempt := rfl

/-- What is left of the words of a refusal names what the document may need. -/
theorem beforeBudget_memoryMessage (estimate budget : Nat) :
    beforeBudget (Pipeline.memoryMessage estimate budget) =
      "estimated " ++ toString estimate ++ " bytes exceeds " := by
  have words : (Pipeline.memoryMessage estimate budget).toList =
      ("estimated " ++ toString estimate ++ " bytes exceeds ").toList ++
        ("worker budget of ".toList ++ (toString budget ++ " bytes").toList) := by
    simp [Pipeline.memoryMessage]
  have free : 'w' ∉ ("estimated " ++ toString estimate ++ " bytes exceeds ").toList := by
    intro inside
    simp only [String.toList_append, List.mem_append] at inside
    rcases inside with (word | digit) | word
    · exact absurd word (by decide)
    · rw [Nat.toString_eq_repr, Nat.toList_repr] at digit
      exact absurd (@Nat.isDigit_of_mem_toDigits 10 _ _ (by decide) (by decide) digit) (by decide)
    · exact absurd word (by decide)
  rw [beforeBudget, words]
  exact (congrArg String.ofList (upTo_append free _ _)).trans String.ofList_toList

/-- A refusal for memory, without the share of one worker. -/
theorem essence_refused (path : Path) (estimate budget : Nat) (metrics : Metrics) :
    (failed path .memoryLimitExceeded (Pipeline.memoryMessage estimate budget) metrics).essence =
      (failed path .memoryLimitExceeded (Pipeline.memoryMessage estimate 0) metrics).essence := by
  simp [essence, failed, beforeBudget_memoryMessage]

end ExtractionResult

/-- The result earns its file another attempt. -/
def RetryPolicy.again (retry : RetryPolicy) (result : ExtractionResult) : Bool :=
  !result.success &&
    (retry.enabled && result.errorCode.isRetryable && decide (result.attempt ≤ retry.maxRetries))

theorem RetryPolicy.again_essence (retry : RetryPolicy) (result : ExtractionResult) :
    retry.again result.essence = retry.again result := rfl

/-- What an attempt at a file comes to when the engine has been asked for the file so often: its
result, or nothing if the engine takes the worker down, and how often the engine has been asked
then. -/
def WorkerRules.attempt (rules : WorkerRules) (path : Path) (status : Except OsError FileStatus)
    (loads : Nat) : Option ExtractionResult × Nat :=
  match rules.pipeline.precheck path status with
  | .error result => (some result, loads)
  | .ok sizeBytes =>
    (match (rules.engine path (loads + 1)).outcome with
      | .opened document => some (rules.pipeline.finish path sizeBytes (.ok document))
      | .failed error => some (rules.pipeline.finish path sizeBytes (.error error))
      | .brokeDown reason => some (Worker.breakdown path reason)
      | .crashed => none,
     loads + 1)

/-- A worker gets what the attempt comes to, and asks the engine for no other file. -/
theorem Worker.process_eq (rules : WorkerRules) (path : Path) (shared : Shared) :
    (process rules path shared).1 =
        (rules.attempt path (shared.disk.status path) (shared.loads.times path)).1 ∧
      (process rules path shared).2.loads.times path =
        (rules.attempt path (shared.disk.status path) (shared.loads.times path)).2 ∧
      ∀ other, other ≠ path →
        (process rules path shared).2.loads.times other = shared.loads.times other := by
  unfold process WorkerRules.attempt
  cases rules.pipeline.precheck path (shared.disk.status path) with
  | error result => exact ⟨rfl, rfl, fun _ _ => rfl⟩
  | ok sizeBytes =>
      have noted : (shared.loads.note path).times path = shared.loads.times path + 1 :=
        List.count_cons_self
      have others (other : Path) (apart : other ≠ path) :
          (shared.loads.note path).times other = shared.loads.times other := by
        refine List.count_cons_of_ne fun same => apart ?_
        exact congrArg Path.mk same.symm
      dsimp only [load]
      cases (rules.engine path (shared.loads.times path + 1)).outcome <;>
        exact ⟨rfl, noted, others⟩

/-- What is to be expected of a file. -/
structure Prospect where
  /-- The file. -/
  path : Path
  /-- Which results earn it another attempt. -/
  retry : RetryPolicy
  /-- What an attempt comes to in essence when the engine has been asked for the file so often. -/
  attempt : Nat → Option ExtractionResult × Nat

namespace Prospect

variable {prospect : Prospect} {attempt loads : Nat} {result other : ExtractionResult}

/-- What the manager accounts for after an attempt. -/
def comesTo (prospect : Prospect) (attempt loads : Nat) : ExtractionResult :=
  (((prospect.attempt loads).1.getD (Manager.orphanResult prospect.path)).withAttempt
    attempt).essence

/-- The file gets an attempt before which the engine has been asked for it so often. -/
inductive Reaches (prospect : Prospect) : (attempt loads : Nat) → Prop
  /-- The first attempt. -/
  | first : Reaches prospect 1 0
  /-- Another attempt after a failure. -/
  | next {attempt loads : Nat} (reaches : Reaches prospect attempt loads)
      (again : prospect.retry.again (prospect.comesTo attempt loads) = true) :
      Reaches prospect (attempt + 1) (prospect.attempt loads).2

/-- The result is, in essence, that of an attempt which the file gets, and after which the engine
has been asked for the file so often. -/
def Foresees (prospect : Prospect) (attempt loads : Nat) (result : ExtractionResult) : Prop :=
  ∃ before, prospect.Reaches attempt before ∧ (prospect.attempt before).2 = loads ∧
    result.essence = prospect.comesTo attempt before

/-- The result is, in essence, that of the last attempt. -/
def EndsWith (prospect : Prospect) (result : ExtractionResult) : Prop :=
  ∃ attempt loads, prospect.Reaches attempt loads ∧
    prospect.retry.again (prospect.comesTo attempt loads) = false ∧
      result.essence = prospect.comesTo attempt loads

theorem Reaches.pos (reaches : prospect.Reaches attempt loads) : 0 < attempt := by
  cases reaches with
  | first => exact Nat.one_pos
  | next => exact Nat.succ_pos _

theorem Reaches.unique {others : Nat} (reaches : prospect.Reaches attempt loads)
    (also : prospect.Reaches attempt others) : loads = others := by
  induction reaches generalizing others with
  | first =>
      cases also with
      | first => rfl
      | next reaches => exact absurd reaches.pos (Nat.lt_irrefl 0)
  | next reaches again induction =>
      cases also with
      | first => exact absurd reaches.pos (Nat.lt_irrefl 0)
      | next before => rw [induction before]

/-- All attempts before another one earned the file that one. -/
theorem Reaches.again_of_lt {earlier before : Nat} (reaches : prospect.Reaches attempt loads)
    (also : prospect.Reaches earlier before) (earlier_lt : earlier < attempt) :
    prospect.retry.again (prospect.comesTo earlier before) = true := by
  induction reaches with
  | first => exact absurd also.pos (Nat.not_lt_of_le (Nat.le_of_lt_succ earlier_lt))
  | @next attempt loads reaches again induction =>
      rcases Nat.lt_or_eq_of_le (Nat.le_of_lt_succ earlier_lt) with lt | rfl
      · exact induction lt
      · rwa [also.unique reaches]

/-- A file has one last attempt, which comes to one thing. -/
theorem EndsWith.unique (ends : prospect.EndsWith result) (also : prospect.EndsWith other) :
    result.essence = other.essence := by
  obtain ⟨attempt, loads, reaches, last, same⟩ := ends
  obtain ⟨attempt', loads', reaches', last', same'⟩ := also
  rcases Nat.lt_trichotomy attempt attempt' with lt | rfl | lt
  · rw [reaches'.again_of_lt reaches lt] at last
    cases last
  · rw [same, same', reaches.unique reaches']
  · rw [reaches.again_of_lt reaches' lt] at last'
    cases last'

/-- A result that was foreseen earns the file another attempt, or is the last one. -/
theorem Foresees.next (foresees : prospect.Foresees attempt loads result) :
    if prospect.retry.again result then prospect.Reaches (attempt + 1) loads
    else prospect.EndsWith result := by
  obtain ⟨before, reaches, rfl, same⟩ := foresees
  have again :
      prospect.retry.again result = prospect.retry.again (prospect.comesTo attempt before) := by
    rw [← same, RetryPolicy.again_essence]
  cases earns : prospect.retry.again result with
  | true => exact .next reaches (again.symm.trans earns)
  | false => exact ⟨attempt, before, reaches, again.symm.trans earns, same⟩

theorem Foresees.attempt_eq (foresees : prospect.Foresees attempt loads result) :
    result.attempt = attempt := by
  obtain ⟨before, -, -, same⟩ := foresees
  exact congrArg ExtractionResult.attempt same

end Prospect

end PartsList
