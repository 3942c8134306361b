import Mathlib.Algebra.Order.Ring.Nat
import PartsList.Plan
import PartsList.Supervisor

/-!
# Limits of the planner

How large the settings may be before a plan or the supervision of its workers no longer fits machine
words.  The check of the settings bounds them from below only, so it does not keep them within these
limits.
-/

namespace PartsList

namespace Word

theorem add_eq_ok {a b : Nat} (fits : a + b < size) : add a b = .ok (a + b) := by
  simp [add, fits]

theorem add_eq_error {a b : Nat} (large : size ≤ a + b) : add a b = .error .addition := by
  simp [add, Nat.not_lt.mpr large]

theorem mul_eq_ok {a b : Nat} (fits : a * b < size) : mul a b = .ok (a * b) := by
  simp [mul, fits]

theorem mul_eq_error {a b : Nat} (large : size ≤ a * b) : mul a b = .error .multiplication := by
  simp [mul, Nat.not_lt.mpr large]

theorem size_eq : size = 2 ^ 64 := rfl

end Word

namespace Settings

/-- Accepted settings break none of the rules. -/
theorem rule_of_validate {settings : Settings} (accepted : settings.validate = .ok ())
    {rule : Bool × SettingError} (mem : rule ∈ settings.rules) : rule.1 = true := by
  unfold validate at accepted
  split at accepted
  · cases accepted
  · rename_i unbroken
    simpa using List.find?_eq_none.mp unbroken rule mem

theorem writerPoolSize_pos {settings : Settings} (accepted : settings.validate = .ok ()) :
    0 < settings.writerPoolSize := by
  have kept := rule_of_validate accepted
    (show (settings.writerPoolSize != 0,
        (⟨"writer_pool_size", "must be at least 1"⟩ : SettingError)) ∈
          settings.rules by simp [rules])
  simpa [Nat.pos_iff_ne_zero] using kept

theorem stallMultiple_pos {settings : Settings} (accepted : settings.validate = .ok ()) :
    0 < settings.stallMultiple := by
  have kept := rule_of_validate accepted
    (show (settings.heartbeatIntervalMs != 0 && settings.stallMultiple != 0,
        (⟨"heartbeat_interval_ms",
          "heartbeat interval and stall multiple must be positive"⟩ : SettingError)) ∈
      settings.rules by simp [rules])
  simp only [Bool.and_eq_true, bne_iff_ne] at kept
  omega

end Settings

namespace Plan

/-- Every writer's memory reserve is 256 mebibytes, so this many writers are too many for a word. -/
def tooManyWriters : Nat := 2 ^ 56

theorem coresHeldBack_of_fits {writers : Nat} (fits : writers + 3 < Word.size) :
    coresHeldBack writers = .ok (writers + 3) := by
  unfold coresHeldBack
  rw [Word.add_eq_ok (by omega : writers + 1 < Word.size)]
  simp only [bind, Except.bind]
  rw [Word.add_eq_ok (by omega : writers + 1 + 1 < Word.size)]
  exact Word.add_eq_ok fits

theorem coresHeldBack_of_large {writers : Nat} (large : Word.size ≤ writers + 3) :
    coresHeldBack writers = .error .addition := by
  unfold coresHeldBack
  by_cases first : writers + 1 < Word.size
  · rw [Word.add_eq_ok first]
    simp only [bind, Except.bind]
    by_cases second : writers + 1 + 1 < Word.size
    · rw [Word.add_eq_ok second]
      exact Word.add_eq_error large
    · rw [Word.add_eq_error (Nat.not_lt.mp second)]
  · rw [Word.add_eq_error (Nat.not_lt.mp first)]
    rfl

/-- With fewer writers than too many, a plan for that many tasks exists, and its counts are those
that unbounded numbers would give. -/
theorem exists_derive_of_few {host : Host} {settings : Settings} {taskCount : Nat}
    (positive : 0 < settings.writerPoolSize) (few : taskCount < 2 ^ 32)
    (small : settings.writerPoolSize < tooManyWriters) :
    ∃ plan, derive host settings taskCount = .ok plan ∧
      plan.writerCount = settings.writerPoolSize ∧
      plan.reservedCores = settings.writerPoolSize + 3 ∧
      1 ≤ plan.workerCount ∧ plan.workerCount ≤ Nat.max taskCount 1 ∧
      plan.taskCapacity = plan.workerCount * 2 ∧
      plan.eventCapacity = plan.workerCount * 4 + 16 ∧
      plan.writerCapacity = plan.workerCount * 2 := by
  have pool : Nat.max settings.writerPoolSize 1 = settings.writerPoolSize :=
    Nat.max_eq_left positive
  have reserve : 256 * settings.writerPoolSize < Word.size := by
    simp only [tooManyWriters, Word.size_eq] at small ⊢; omega
  have cores : settings.writerPoolSize + 3 < Word.size := by
    simp only [tooManyWriters, Word.size_eq] at small ⊢; omega
  have held := coresHeldBack_of_fits cores
  unfold derive deriveWith
  simp only [pool, workersFor, held, bind, Except.bind, pure, Except.pure, MemoryPolicy.budgetMb,
    MemoryPolicy.standard, Word.mul_eq_ok reserve]
  -- whatever is requested, there are at most as many workers as tasks
  generalize requested_eq : Nat.max (settings.workers.getD _) 1 = requested
  have requestedPos : 1 ≤ requested := requested_eq ▸ Nat.le_max_right _ _
  generalize workers_eq : Nat.min requested (Nat.max taskCount 1) = workers
  have atMost : workers ≤ Nat.max taskCount 1 := workers_eq ▸ Nat.min_le_right _ _
  have atLeast : 1 ≤ workers :=
    workers_eq ▸ Nat.le_min.mpr ⟨requestedPos, Nat.le_max_right _ _⟩
  have bounded : workers < 2 ^ 32 :=
    Nat.lt_of_le_of_lt atMost (Nat.max_lt.mpr ⟨few, by decide⟩)
  have doubled : workers * 2 < Word.size := by rw [Word.size_eq]; omega
  have quadrupled : workers * 4 < Word.size := by rw [Word.size_eq]; omega
  have events : workers * 4 + 16 < Word.size := by rw [Word.size_eq]; omega
  simp only [Word.mul_eq_ok doubled, Word.mul_eq_ok quadrupled, Word.add_eq_ok events]
  exact ⟨_, rfl, rfl, rfl, atLeast, atMost, rfl, rfl, rfl⟩

/-- With too many writers there is no plan, and the operation that overflows is named. -/
theorem derive_eq_error_of_many {host : Host} {settings : Settings} {taskCount : Nat}
    (many : tooManyWriters ≤ settings.writerPoolSize) :
    derive host settings taskCount =
      .error (if settings.writerPoolSize + 3 < Word.size then .multiplication else .addition) := by
  have pool : Nat.max settings.writerPoolSize 1 = settings.writerPoolSize :=
    Nat.max_eq_left (Nat.le_trans (by decide) many)
  have reserve : Word.size ≤ 256 * settings.writerPoolSize := by
    simp only [tooManyWriters, Word.size_eq] at many ⊢; omega
  unfold derive deriveWith
  by_cases cores : settings.writerPoolSize + 3 < Word.size
  · simp only [pool, workersFor, coresHeldBack_of_fits cores, bind, Except.bind, pure, Except.pure,
      MemoryPolicy.budgetMb, MemoryPolicy.standard, Word.mul_eq_error reserve, if_pos cores]
  · simp only [pool, workersFor, coresHeldBack_of_large (Nat.not_lt.mp cores), bind, Except.bind,
      if_neg cores]

end Plan

namespace Supervisor

/-- Spans of this many milliseconds are longer than the longest that can be told. -/
def tooLongMs : Nat := 1000 * Word.size

/-- Supervision starts exactly if the silence it waits for can be told. -/
theorem start_eq {intervalMs multiple : Nat} (positive : 0 < multiple) :
    start intervalMs multiple =
      if intervalMs * multiple < tooLongMs then .ok { stallAfter := intervalMs * multiple * 1000 }
      else .error .duration := by
  have missed : Nat.max multiple 1 = multiple := Nat.max_eq_left positive
  unfold start
  simp only [missed]
  by_cases fits : intervalMs * multiple < tooLongMs
  · rw [if_pos fits, if_neg]
    simp only [tooLongMs, longestSeconds, Word.size_eq] at fits ⊢
    omega
  · rw [if_neg fits, if_pos]
    simp only [tooLongMs, longestSeconds, Word.size_eq] at fits ⊢
    omega

end Supervisor

/-- Accepted settings give a plan for fewer than 2³² tasks on every host exactly up to 2⁵⁶ - 1
writers, and supervision exactly while the silence that is waited for is shorter than 2⁶⁴ seconds;
beyond these limits the operation that overflows is named. -/
theorem planner_overflow_of_accepted {settings : Settings} (host : Host) {taskCount : Nat}
    (accepted : settings.validate = .ok ()) (few : taskCount < 2 ^ 32) :
    ((∃ plan, Plan.derive host settings taskCount = .ok plan ∧
        plan.workerCount ≤ Nat.max taskCount 1 ∧
        plan.reservedCores = settings.writerPoolSize + 3) ↔
      settings.writerPoolSize < 2 ^ 56) ∧
    (2 ^ 56 ≤ settings.writerPoolSize →
      Plan.derive host settings taskCount =
        .error (if settings.writerPoolSize + 3 < Word.size then .multiplication else .addition)) ∧
    Supervisor.start settings.heartbeatIntervalMs settings.stallMultiple =
      if settings.heartbeatIntervalMs * settings.stallMultiple < 1000 * Word.size then
        .ok { stallAfter := settings.heartbeatIntervalMs * settings.stallMultiple * 1000 }
      else .error .duration := by
  refine ⟨⟨?_, ?_⟩, Plan.derive_eq_error_of_many,
    Supervisor.start_eq (Settings.stallMultiple_pos accepted)⟩
  · rintro ⟨plan, derived, -, -⟩
    apply Nat.lt_of_not_le
    intro many
    rw [Plan.derive_eq_error_of_many many] at derived
    cases derived
  · intro small
    obtain ⟨plan, derived, -, reserved, -, atMost, -⟩ :=
      Plan.exists_derive_of_few (Settings.writerPoolSize_pos accepted) few small
    exact ⟨plan, derived, atMost, reserved⟩

/-- Settings with one writer too many, and a heartbeat that may be missed for more than 2⁶⁴ seconds,
are accepted. -/
def oversized : Settings :=
  { Settings.standard ⟨"home"⟩ with
    writerPoolSize := 2 ^ 56
    heartbeatIntervalMs := 2 ^ 64 - 1
    stallMultiple := 2 ^ 32 - 1 }

theorem planner_overflow_of_oversized :
    oversized.validate = .ok () ∧
    Plan.derive ⟨8, 2 ^ 34⟩ oversized 1 = .error .multiplication ∧
    Supervisor.start oversized.heartbeatIntervalMs oversized.stallMultiple = .error .duration := by
  have accepted : oversized.validate = .ok () := by rfl
  obtain ⟨-, planned, supervised⟩ :=
    planner_overflow_of_accepted ⟨8, 2 ^ 34⟩ accepted (show 1 < 2 ^ 32 by decide)
  exact ⟨accepted, planned (by decide), supervised.trans (by rfl)⟩

end PartsList
