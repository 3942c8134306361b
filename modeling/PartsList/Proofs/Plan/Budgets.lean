import Mathlib.Data.Rat.Floor
import Mathlib.Tactic.Linarith
import Mathlib.Tactic.NormNum
import PartsList.Proofs.Basic
import PartsList.Proofs.Number.Comparison
import PartsList.Proofs.Plan.Limits

/-!
# Budgets

How the counts and the memory of a plan relate to the machine.  Rounding down, the two bounds of a
worker's share and the limit by the number of tasks come one after another; what holds through all
of them is that a plan whose workers get more than the least share fits the memory that is used at
all.  The shares are divided in exact arithmetic.
-/

namespace PartsList

namespace Word

theorem eq_of_add {a b c : Nat} (fits : add a b = .ok c) : c = a + b := by
  unfold add at fits
  split at fits
  · exact (Except.ok.inj fits).symm
  · cases fits

theorem eq_of_mul {a b c : Nat} (fits : mul a b = .ok c) : c = a * b := by
  unfold mul at fits
  split at fits
  · exact (Except.ok.inj fits).symm
  · cases fits

end Word

/-- Amounts of memory in exact arithmetic. -/
instance : Amount ℚ where
  wholePart x := min ⌊x⌋.toNat (Word.size - 1)

namespace Amount

theorem wholePart_rat (x : ℚ) : wholePart x = min ⌊x⌋.toNat (Word.size - 1) := rfl

theorem wholePart_le {x : ℚ} (positive : 0 ≤ x) : (wholePart x : ℚ) ≤ x := by
  have floored : ((⌊x⌋.toNat : Int) : ℚ) ≤ x := by
    rw [Int.toNat_of_nonneg (Int.floor_nonneg.mpr positive)]
    exact Int.floor_le x
  calc (wholePart x : ℚ) ≤ (⌊x⌋.toNat : ℚ) := by exact_mod_cast min_le_left _ _
    _ ≤ x := by exact_mod_cast floored

theorem wholePart_mono {x y : ℚ} (le : x ≤ y) : wholePart x ≤ wholePart y := by
  rw [wholePart_rat, wholePart_rat]
  exact min_le_min_right _ (Int.toNat_le_toNat (Int.floor_le_floor le))

end Amount

namespace MemoryPolicy

/-- The policy that applies when nothing is said, with its share in exact arithmetic. -/
def exact : MemoryPolicy ℚ where
  safetyFraction := 17 / 20

theorem usable_rat (policy : MemoryPolicy ℚ) (host : Host) (writerReserve : Nat) :
    policy.usable host writerReserve =
      host.ramMb * policy.safetyFraction - policy.osReserveMb - writerReserve := rfl

theorem share_of_nonpos {usable : ℚ} (none : usable ≤ 0) (workers : Nat) :
    share usable workers = 0 :=
  if_pos (by simpa [Scalar.ofNat] using none)

theorem share_of_pos {usable : ℚ} (some : 0 < usable) {workers : Nat} (positive : 1 ≤ workers) :
    share usable workers = Amount.wholePart (usable / workers) := by
  have nonempty : ¬ usable ≤ Scalar.ofNat 0 := by simpa [Scalar.ofNat] using some
  unfold share
  rw [if_neg nonempty, show Nat.max workers 1 = workers from Nat.max_eq_left positive]
  rfl

/-- All shares together are no more than what is shared out. -/
theorem mul_share_le {usable : ℚ} {workers : Nat} (positive : 1 ≤ workers)
    (shared : 0 < share usable workers) : (workers * share usable workers : ℚ) ≤ usable := by
  have some : 0 < usable := by
    by_contra none
    rw [share_of_nonpos (not_lt.mp none)] at shared
    exact Nat.lt_irrefl 0 shared
  have counted : (0 : ℚ) < workers := by exact_mod_cast positive
  have whole : (share usable workers : ℚ) ≤ usable / workers := by
    rw [share_of_pos some positive]
    exact Amount.wholePart_le (div_nonneg some.le counted.le)
  calc (workers * share usable workers : ℚ) ≤ workers * (usable / workers) :=
        mul_le_mul_of_nonneg_left whole counted.le
    _ = usable := mul_div_cancel₀ usable counted.ne'

/-- With less to share out or more workers, no share grows. -/
theorem share_anti {less more : ℚ} (le : less ≤ more) {few many : Nat} (positive : 1 ≤ few)
    (crowded : few ≤ many) : share less many ≤ share more few := by
  by_cases none : less ≤ 0
  · rw [share_of_nonpos none]
    exact Nat.zero_le _
  · have some : 0 < less := not_le.mp none
    rw [share_of_pos some (positive.trans crowded), share_of_pos (some.trans_le le) positive]
    apply Amount.wholePart_mono
    have counted : (0 : ℚ) < few := by exact_mod_cast positive
    exact div_le_div₀ (some.le.trans le) le counted (by exact_mod_cast crowded)

theorem le_clamp (value least most : Nat) : least ≤ clamp value least most :=
  Nat.le_max_left _ _

theorem clamp_le (value least most : Nat) : clamp value least most ≤ Nat.max least most :=
  Nat.max_le.mpr
    ⟨Nat.le_max_left _ _, (Nat.min_le_right value most).trans (Nat.le_max_right least most)⟩

theorem clamp_mono {value value' : Nat} (le : value ≤ value') (least most : Nat) :
    clamp value least most ≤ clamp value' least most :=
  Nat.max_le.mpr ⟨Nat.le_max_left _ _,
    (Nat.le_min.mpr ⟨(Nat.min_le_left value most).trans le, Nat.min_le_right value most⟩).trans
      (Nat.le_max_right _ _)⟩

/-- A clamped value above the lower bound was not raised. -/
theorem clamp_le_of_lt {value least most : Nat} (raised : least < clamp value least most) :
    clamp value least most ≤ value := by
  change least < max least (min value most) at raised
  change max least (min value most) ≤ value
  omega

end MemoryPolicy

namespace Plan

section Derivation

variable {α : Type} [Amount α]

/-- The plan that numbers without bound would give. -/
def unbounded (policy : MemoryPolicy α) (host : Host) (settings : Settings) (taskCount : Nat) :
    Plan :=
  let writers := Nat.max settings.writerPoolSize 1
  let computed := Nat.max (host.cores - (writers + 3)) 1
  let workers := Nat.min (Nat.max (settings.workers.getD computed) 1) (Nat.max taskCount 1)
  let share := MemoryPolicy.share (policy.usable host (policy.writerReserveMb * writers)) workers
  { workerCount := workers
    writerCount := writers
    memoryPerWorkerMb := MemoryPolicy.clamp share policy.minPerWorkerMb
      (Nat.max settings.maxMemoryPerWorkerMb policy.minPerWorkerMb)
    reservedCores := writers + 3
    taskCapacity := workers * 2
    eventCapacity := workers * 4 + 16
    writerCapacity := workers * 2 }

theorem eq_of_coresHeldBack {writers held : Nat} (fits : coresHeldBack writers = .ok held) :
    held = writers + 3 := by
  obtain ⟨first, added, fits⟩ := exists_of_bind_eq_ok fits
  obtain ⟨second, added', fits⟩ := exists_of_bind_eq_ok fits
  rw [Word.eq_of_add fits, Word.eq_of_add added', Word.eq_of_add added]

variable {policy : MemoryPolicy α} {host : Host} {settings : Settings} {taskCount : Nat}
  {plan : Plan}

/-- A plan whose derivation does not overflow is the one that unbounded numbers give. -/
theorem eq_unbounded (derived : deriveWith policy host settings taskCount = .ok plan) :
    plan = unbounded policy host settings taskCount := by
  unfold deriveWith at derived
  obtain ⟨computed, computes, derived⟩ := exists_of_bind_eq_ok derived
  obtain ⟨_, holds, returned⟩ := exists_of_bind_eq_ok computes
  cases returned
  obtain ⟨_, budgets, derived⟩ := exists_of_bind_eq_ok derived
  obtain ⟨_, reserves, returned⟩ := exists_of_bind_eq_ok budgets
  cases returned
  obtain ⟨_, reserved, derived⟩ := exists_of_bind_eq_ok derived
  obtain ⟨_, queued, derived⟩ := exists_of_bind_eq_ok derived
  obtain ⟨_, multiplied, derived⟩ := exists_of_bind_eq_ok derived
  obtain ⟨_, heard, derived⟩ := exists_of_bind_eq_ok derived
  obtain ⟨_, boxed, derived⟩ := exists_of_bind_eq_ok derived
  cases derived
  obtain rfl := eq_of_coresHeldBack holds
  obtain rfl := Word.eq_of_mul reserves
  obtain rfl := eq_of_coresHeldBack reserved
  obtain rfl := Word.eq_of_mul queued
  obtain rfl := Word.eq_of_mul multiplied
  obtain rfl := Word.eq_of_add heard
  obtain rfl := Word.eq_of_mul boxed
  rfl

/-- Which arithmetic shares the memory out matters for nothing but the memory of a worker. -/
theorem exists_deriveWith {β : Type} [Amount β]
    (derived : deriveWith policy host settings taskCount = .ok plan) (policy' : MemoryPolicy β)
    (reserve : policy'.writerReserveMb = policy.writerReserveMb) :
    ∃ plan', deriveWith policy' host settings taskCount = .ok plan' ∧
      plan' = { plan with memoryPerWorkerMb := plan'.memoryPerWorkerMb } := by
  unfold deriveWith MemoryPolicy.budgetMb at derived ⊢
  obtain ⟨computed, computes, derived⟩ := exists_of_bind_eq_ok derived
  obtain ⟨_, budgets, derived⟩ := exists_of_bind_eq_ok derived
  obtain ⟨_, reserves, -⟩ := exists_of_bind_eq_ok budgets
  obtain ⟨_, reserved, derived⟩ := exists_of_bind_eq_ok derived
  obtain ⟨_, queued, derived⟩ := exists_of_bind_eq_ok derived
  obtain ⟨_, multiplied, derived⟩ := exists_of_bind_eq_ok derived
  obtain ⟨_, heard, derived⟩ := exists_of_bind_eq_ok derived
  obtain ⟨_, boxed, derived⟩ := exists_of_bind_eq_ok derived
  cases derived
  simp only [computes, bind, Except.bind, pure, Except.pure, reserve, reserves, reserved, queued,
    multiplied, heard]
  obtain rfl := Except.ok.inj (queued.symm.trans boxed)
  exact ⟨_, rfl, rfl⟩

theorem workerCount_pos (derived : deriveWith policy host settings taskCount = .ok plan) :
    1 ≤ plan.workerCount := by
  rw [eq_unbounded derived]
  exact Nat.le_min.mpr ⟨Nat.le_max_right _ _, Nat.le_max_right _ _⟩

theorem workerCount_le (derived : deriveWith policy host settings taskCount = .ok plan) :
    plan.workerCount ≤ Nat.max 1 taskCount := by
  rw [eq_unbounded derived, show Nat.max 1 taskCount = Nat.max taskCount 1 from Nat.max_comm _ _]
  exact Nat.min_le_right _ _

theorem workerCount_of_given (derived : deriveWith policy host settings taskCount = .ok plan)
    {workers : Nat} (given : settings.workers = some workers) :
    plan.workerCount = Nat.min (Nat.max workers 1) (Nat.max 1 taskCount) := by
  rw [eq_unbounded derived, show Nat.max 1 taskCount = Nat.max taskCount 1 from Nat.max_comm _ _]
  simp only [unbounded, given, Option.getD_some]

/-- No queue is shorter than two. -/
theorem two_le_capacities (derived : deriveWith policy host settings taskCount = .ok plan) :
    2 ≤ plan.taskCapacity ∧ 2 ≤ plan.eventCapacity ∧ 2 ≤ plan.writerCapacity := by
  have some := workerCount_pos derived
  obtain rfl := eq_unbounded derived
  refine ⟨?_, ?_, ?_⟩
  · exact Nat.mul_le_mul_right 2 some
  · exact Nat.le_add_left_of_le (by decide)
  · exact Nat.mul_le_mul_right 2 some

/-- The memory of a worker lies between the policy's bounds, of which the lower one prevails. -/
theorem memoryPerWorkerMb_bounds
    (derived : deriveWith policy host settings taskCount = .ok plan) :
    policy.minPerWorkerMb ≤ plan.memoryPerWorkerMb ∧
    plan.memoryPerWorkerMb ≤ Nat.max policy.minPerWorkerMb settings.maxMemoryPerWorkerMb := by
  rw [eq_unbounded derived]
  refine ⟨MemoryPolicy.le_clamp _ _ _, (MemoryPolicy.clamp_le _ _ _).trans ?_⟩
  exact Nat.max_le.mpr ⟨Nat.le_max_left _ _,
    Nat.max_le.mpr ⟨Nat.le_max_right _ _, Nat.le_max_left _ _⟩⟩

end Derivation

section Exact

variable {policy : MemoryPolicy ℚ} {host : Host} {settings : Settings} {taskCount : Nat}
  {plan : Plan}

/-- Workers that get more than the least share, the writers and everything else together use no more
than the share of the machine's memory that a run may use. -/
theorem total_le_of_lt (derived : deriveWith policy host settings taskCount = .ok plan)
    (raised : policy.minPerWorkerMb < plan.memoryPerWorkerMb) :
    (plan.workerCount * plan.memoryPerWorkerMb + policy.osReserveMb +
        policy.writerReserveMb * plan.writerCount : ℚ) ≤
      policy.safetyFraction * host.ramMb := by
  have some := workerCount_pos derived
  have planned := eq_unbounded derived
  set usable := policy.usable host (policy.writerReserveMb * plan.writerCount) with usable_eq
  have kept : plan.memoryPerWorkerMb ≤ MemoryPolicy.share usable plan.workerCount := by
    rw [usable_eq]
    rw [planned] at raised ⊢
    exact MemoryPolicy.clamp_le_of_lt raised
  have fits := MemoryPolicy.mul_share_le some
    (Nat.lt_of_lt_of_le (Nat.zero_lt_of_lt raised) kept)
  have total : (plan.workerCount * plan.memoryPerWorkerMb : ℚ) ≤ usable :=
    le_trans (by exact_mod_cast Nat.mul_le_mul_left _ kept) fits
  rw [usable_eq, MemoryPolicy.usable_rat] at total
  push_cast at total
  linarith

/-- With the number of workers given, more tasks and more writers never mean more memory for a
worker. -/
theorem memoryPerWorkerMb_anti (derived : deriveWith policy host settings taskCount = .ok plan)
    {workers : Nat} (given : settings.workers = some workers) {writers taskCount' : Nat}
    (pooled : settings.writerPoolSize ≤ writers) (busier : taskCount ≤ taskCount') {plan' : Plan}
    (derived' :
      deriveWith policy host { settings with writerPoolSize := writers } taskCount' = .ok plan') :
    plan'.memoryPerWorkerMb ≤ plan.memoryPerWorkerMb := by
  have some := workerCount_pos derived
  have staffed : plan.workerCount ≤ plan'.workerCount := by
    rw [workerCount_of_given derived given, workerCount_of_given derived' given]
    exact min_le_min_left _ (max_le_max_left 1 busier)
  have planned := eq_unbounded derived
  have planned' := eq_unbounded derived'
  have reserved : policy.writerReserveMb * plan.writerCount ≤
      policy.writerReserveMb * plan'.writerCount := by
    rw [planned, planned']
    exact Nat.mul_le_mul_left _ (max_le_max_right 1 pooled)
  have narrowed : policy.usable host (policy.writerReserveMb * plan'.writerCount) ≤
      policy.usable host (policy.writerReserveMb * plan.writerCount) := by
    rw [MemoryPolicy.usable_rat, MemoryPolicy.usable_rat]
    exact sub_le_sub_left (by exact_mod_cast reserved) _
  have shared := MemoryPolicy.share_anti narrowed some staffed
  rw [planned, planned'] at shared ⊢
  exact MemoryPolicy.clamp_mono shared _ _

end Exact

/-- A plan with exact shares has at least one worker and no more than tasks, as many as were asked
for within these bounds, queues no shorter than two, and between 512 mebibytes and the given limit
for a worker.  Unless a worker gets just the least, workers, writers and the rest of the machine
together stay within 85 percent of the machine's memory; and with the number of workers given, more
tasks or writers never mean more memory for a worker.  The plan of a run is this one, but for the
rounding in the memory of a worker. -/
theorem deriveWith_never_oversubscribes {host : Host} {settings : Settings} {taskCount : Nat}
    {plan : Plan} (derived : deriveWith MemoryPolicy.exact host settings taskCount = .ok plan) :
    1 ≤ plan.workerCount ∧ plan.workerCount ≤ Nat.max 1 taskCount ∧
    (∀ workers, settings.workers = some workers →
      plan.workerCount = Nat.min (Nat.max workers 1) (Nat.max 1 taskCount)) ∧
    (2 ≤ plan.taskCapacity ∧ 2 ≤ plan.eventCapacity ∧ 2 ≤ plan.writerCapacity) ∧
    (512 ≤ plan.memoryPerWorkerMb ∧
      plan.memoryPerWorkerMb ≤ Nat.max 512 settings.maxMemoryPerWorkerMb) ∧
    (512 < plan.memoryPerWorkerMb →
      (plan.workerCount * plan.memoryPerWorkerMb + 2048 + 256 * plan.writerCount : ℚ) ≤
        85 / 100 * host.ramMb) ∧
    (∀ workers, settings.workers = some workers →
      ∀ writers taskCount', settings.writerPoolSize ≤ writers → taskCount ≤ taskCount' →
        ∀ plan', deriveWith MemoryPolicy.exact host { settings with writerPoolSize := writers }
            taskCount' = .ok plan' →
          plan'.memoryPerWorkerMb ≤ plan.memoryPerWorkerMb) ∧
    ∃ actual, derive host settings taskCount = .ok actual ∧
      actual = { plan with memoryPerWorkerMb := actual.memoryPerWorkerMb } ∧
      512 ≤ actual.memoryPerWorkerMb ∧
      actual.memoryPerWorkerMb ≤ Nat.max 512 settings.maxMemoryPerWorkerMb := by
  refine ⟨workerCount_pos derived, workerCount_le derived,
    fun _ given => workerCount_of_given derived given, two_le_capacities derived,
    memoryPerWorkerMb_bounds derived, ?_, ?_, ?_⟩
  · intro raised
    have total := total_le_of_lt derived raised
    simp only [MemoryPolicy.exact] at total
    norm_num at total ⊢
    exact total
  · intro _ given _ _ pooled busier _ derived'
    exact memoryPerWorkerMb_anti derived given pooled busier derived'
  · obtain ⟨actual, derives, agrees⟩ :=
      exists_deriveWith derived MemoryPolicy.standard rfl
    exact ⟨actual, derives, agrees, memoryPerWorkerMb_bounds derives⟩

/-- Settings with three workers. -/
def threeWorkers : Settings :=
  { Settings.standard ⟨"home"⟩ with workers := some 3 }

/-- On a machine with eight cores and sixteen gibibytes, three workers get less than the limit
allows and more than the least; with another writer it is 85 mebibytes less. -/
theorem deriveWith_never_oversubscribes_three :
    ∃ plan plan', deriveWith MemoryPolicy.exact ⟨8, 2 ^ 34⟩ threeWorkers 100 = .ok plan ∧
      deriveWith MemoryPolicy.exact ⟨8, 2 ^ 34⟩ { threeWorkers with writerPoolSize := 3 } 200 =
        .ok plan' ∧
      512 < plan.memoryPerWorkerMb ∧ plan.memoryPerWorkerMb = plan'.memoryPerWorkerMb + 85 ∧
      (plan.workerCount * plan.memoryPerWorkerMb + 2048 + 256 * plan.writerCount : ℚ) ≤
        85 / 100 * (⟨8, 2 ^ 34⟩ : Host).ramMb ∧
      plan'.memoryPerWorkerMb ≤ plan.memoryPerWorkerMb := by
  have derived : deriveWith MemoryPolicy.exact ⟨8, 2 ^ 34⟩ threeWorkers 100 =
      .ok ⟨3, 2, 3788, 5, 6, 28, 6⟩ := by decide +kernel
  have derived' : deriveWith MemoryPolicy.exact ⟨8, 2 ^ 34⟩
      { threeWorkers with writerPoolSize := 3 } 200 = .ok ⟨3, 3, 3703, 6, 6, 28, 6⟩ := by
    decide +kernel
  obtain ⟨-, -, -, -, -, total, fewer, -⟩ := deriveWith_never_oversubscribes derived
  exact ⟨_, _, derived, derived', by decide, by decide, total (by decide),
    fewer 3 rfl 3 200 (by decide) (by decide) _ derived'⟩

end Plan

end PartsList
