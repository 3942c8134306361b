import Mathlib.Algebra.Order.Field.Power
import Mathlib.Tactic.Linarith
import Mathlib.Tactic.Ring
import PartsList.Proofs.Number.Comparison

/-!
# The numbers that coordinates stand for

Coordinates are compared by the rational numbers they stand for.  A finite one is unpacked into a
sign, a mantissa of 24 binary digits and an exponent, and the digits are full unless the exponent is
the least one; so exponents come first in the order.  Infinity is given the place of the least power
of two above all finite coordinates.
-/

namespace PartsList.Coordinate

open Float.Model UnpackedFloat

/-- A mantissa of 24 binary digits, fewer only with the least exponent. -/
structure Fits (mantissa : ℕ) (exponent : ℤ) : Prop where
  /-- There are no more digits. -/
  lt : mantissa < 2 ^ 24
  /-- The exponent is no less than the least one. -/
  least : -149 ≤ exponent
  /-- There are no fewer digits, unless the exponent is the least one. -/
  full : exponent ≠ -149 → 2 ^ 23 ≤ mantissa

/-- A number or its opposite. -/
def signed : UnpackedFloat.Sign → ℚ → ℚ
  | .positive, number => number
  | .negative, number => -number

/-- The rational number that a value stands for.  Infinity stands at the least power of two above
all finite coordinates. -/
def place : UnpackedFloat → ℚ
  | .notANumber => 0
  | .infinity sign => signed sign (2 ^ 128)
  | .zero _ => 0
  | .finite sign mantissa exponent _ => signed sign (mantissa * 2 ^ exponent)

/-- The value is one that a coordinate can have. -/
def IsCoordinate : UnpackedFloat → Prop
  | .finite _ mantissa exponent _ => Fits mantissa exponent ∧ exponent ≤ 104
  | _ => True

theorem isCoordinate_unpack (x : Coordinate) : IsCoordinate x.toModel.unpack := by
  delta Float32.Model.unpack UnpackedFloat.unpack
  extract_lets mantissa exponent place sign sign'
  have small : mantissa.toNat < 2 ^ 23 := mantissa.isLt
  by_cases all : exponent = -1#8
  · rw [if_pos all]
    by_cases none : mantissa = 0#23
    · rw [if_pos none]
      trivial
    · rw [if_neg none]
      trivial
  rw [if_neg all]
  by_cases least : exponent = 0#8
  · rw [if_pos least]
    by_cases none : mantissa = 0#23
    · rw [dif_pos none]
      trivial
    rw [dif_neg none]
    have place_eq : place = -150 := by
      simp only [place, least]
      rfl
    rw [place_eq]
    exact ⟨⟨by omega, by decide, fun more => absurd rfl more⟩, by decide⟩
  · rw [if_neg least]
    have bound : exponent.toNat < 2 ^ 8 := exponent.isLt
    have notAll : exponent.toNat ≠ 255 := fun same => all (BitVec.eq_of_toNat_eq same)
    have some : exponent.toNat ≠ 0 := fun same => least (BitVec.eq_of_toNat_eq same)
    have place_eq : place = exponent.toNat - 150 := rfl
    have digits : (1#1 ++ mantissa).toNat = 2 ^ 23 + mantissa.toNat := by
      rw [BitVec.toNat_append, ← Nat.shiftLeft_add_eq_or_of_lt mantissa.isLt]
      rfl
    refine ⟨⟨?_, ?_, fun _ => ?_⟩, ?_⟩ <;> omega

/-- Exponents come first in the order of values. -/
theorem magnitude_lt {mantissa mantissa' : ℕ} {exponent exponent' : ℤ}
    (fits : Fits mantissa exponent)
    (fits' : Fits mantissa' exponent')
    (less : exponent < exponent' ∨ exponent = exponent' ∧ mantissa < mantissa') :
    (mantissa * 2 ^ exponent : ℚ) < mantissa' * 2 ^ exponent' := by
  rcases less with less | ⟨rfl, less⟩
  · have full : 2 ^ 23 ≤ mantissa' := fits'.full (by have := fits.least; omega)
    have power : (0 : ℚ) < 2 ^ exponent := by positivity
    have step : (2 : ℚ) ^ exponent * 2 ≤ 2 ^ exponent' := by
      rw [← zpow_add_one₀ two_ne_zero]
      exact zpow_le_zpow_right₀ one_le_two less
    calc (mantissa * 2 ^ exponent : ℚ) < 2 ^ 24 * 2 ^ exponent := by
          have lt : (mantissa : ℚ) < 2 ^ 24 := by exact_mod_cast fits.lt
          exact mul_lt_mul_of_pos_right lt power
      _ = 2 ^ 23 * (2 ^ exponent * 2) := by ring
      _ ≤ mantissa' * 2 ^ exponent' := by
          have full : (2 ^ 23 : ℚ) ≤ mantissa' := by exact_mod_cast full
          gcongr
  · have power : (0 : ℚ) < 2 ^ exponent := by positivity
    have less : (mantissa : ℚ) < mantissa' := by exact_mod_cast less
    exact mul_lt_mul_of_pos_right less power

theorem compare_magnitude {mantissa mantissa' : ℕ} {exponent exponent' : ℤ}
    (fits : Fits mantissa exponent) (fits' : Fits mantissa' exponent') :
    (compare exponent exponent').then (compare mantissa mantissa') =
      compare (mantissa * 2 ^ exponent : ℚ) (mantissa' * 2 ^ exponent') := by
  rcases lt_trichotomy exponent exponent' with less | rfl | more
  · rw [compare_lt_iff_lt.2 less, compare_lt_iff_lt.2 (magnitude_lt fits fits' (.inl less))]
    rfl
  · rcases lt_trichotomy mantissa mantissa' with less | rfl | more
    · rw [compare_lt_iff_lt.2 less,
        compare_lt_iff_lt.2 (magnitude_lt fits fits' (.inr ⟨rfl, less⟩)), compare_eq_iff_eq.2 rfl]
      rfl
    · rw [compare_eq_iff_eq.2 rfl, compare_eq_iff_eq.2 rfl, compare_eq_iff_eq.2 rfl]
      rfl
    · rw [compare_gt_iff_gt.2 more,
        compare_gt_iff_gt.2 (magnitude_lt fits' fits (.inr ⟨rfl, more⟩)), compare_eq_iff_eq.2 rfl]
      rfl
  · rw [compare_gt_iff_gt.2 more, compare_gt_iff_gt.2 (magnitude_lt fits' fits (.inl more))]
    rfl

theorem magnitude_lt_infinity {mantissa : ℕ} {exponent : ℤ} (fits : Fits mantissa exponent)
    (most : exponent ≤ 104) : (mantissa * 2 ^ exponent : ℚ) < 2 ^ 128 := by
  have power : (2 : ℚ) ^ exponent ≤ 2 ^ (104 : ℤ) := zpow_le_zpow_right₀ one_le_two most
  calc (mantissa * 2 ^ exponent : ℚ) < 2 ^ 24 * 2 ^ exponent := by
        have lt : (mantissa : ℚ) < 2 ^ 24 := by exact_mod_cast fits.lt
        exact mul_lt_mul_of_pos_right lt (by positivity)
    _ ≤ 2 ^ 24 * 2 ^ (104 : ℤ) := by gcongr
    _ = 2 ^ 128 := by norm_num

theorem compare_swap (x y : ℚ) : (compare x y).swap = compare (-x) (-y) := by
  rcases lt_trichotomy x y with less | rfl | more
  · rw [compare_lt_iff_lt.2 less, compare_gt_iff_gt.2 (neg_lt_neg less)]
    rfl
  · rw [compare_eq_iff_eq.2 rfl, compare_eq_iff_eq.2 rfl]
    rfl
  · rw [compare_gt_iff_gt.2 more, compare_lt_iff_lt.2 (neg_lt_neg more)]
    rfl

theorem lt_eq_compare {x y : ℚ} : .lt = compare x y ↔ x < y :=
  eq_comm.trans compare_lt_iff_lt

theorem gt_eq_compare {x y : ℚ} : .gt = compare x y ↔ y < x :=
  eq_comm.trans compare_gt_iff_gt

/-- Values are compared by the rational numbers that they stand for. -/
theorem compare_eq {value other : UnpackedFloat} (of : IsCoordinate value)
    (of' : IsCoordinate other)
    (number : value ≠ .notANumber) (number' : other ≠ .notANumber) :
    value.compare other = some (compare (place value) (place other)) := by
  have top : (0 : ℚ) < 2 ^ 128 := by norm_num
  cases value with
  | notANumber => exact absurd rfl number
  | infinity sign =>
    cases other with
    | notANumber => exact absurd rfl number'
    | infinity sign' =>
      cases sign <;> cases sign' <;> refine congrArg some ?_
      · exact (compare_eq_iff_eq.2 rfl).symm
      · exact lt_eq_compare.2 (by dsimp only [place, signed]; linarith)
      · exact gt_eq_compare.2 (by dsimp only [place, signed]; linarith)
      · exact (compare_eq_iff_eq.2 rfl).symm
    | zero sign' =>
      cases sign <;> dsimp only [UnpackedFloat.compare, place, signed] <;>
        simp only [Option.some.injEq, lt_eq_compare, gt_eq_compare] <;> linarith
    | finite sign' mantissa exponent positive =>
      have positive : (0 : ℚ) < mantissa * 2 ^ exponent := by positivity
      have less := magnitude_lt_infinity of'.1 of'.2
      cases sign <;> cases sign' <;> dsimp only [UnpackedFloat.compare, place, signed] <;>
        simp only [Option.some.injEq, lt_eq_compare, gt_eq_compare] <;> linarith
  | zero sign =>
    cases other with
    | notANumber => exact absurd rfl number'
    | infinity sign' =>
      cases sign' <;> dsimp only [UnpackedFloat.compare, place, signed] <;>
        simp only [Option.some.injEq, lt_eq_compare, gt_eq_compare] <;> linarith
    | zero sign' => exact congrArg some (compare_eq_iff_eq.2 rfl).symm
    | finite sign' mantissa exponent positive =>
      have positive : (0 : ℚ) < mantissa * 2 ^ exponent := by positivity
      cases sign' <;> dsimp only [UnpackedFloat.compare, place, signed] <;>
        simp only [Option.some.injEq, lt_eq_compare, gt_eq_compare] <;> linarith
  | finite sign mantissa exponent positive =>
    have positive : (0 : ℚ) < mantissa * 2 ^ exponent := by positivity
    cases other with
    | notANumber => exact absurd rfl number'
    | infinity sign' =>
      have less := magnitude_lt_infinity of.1 of.2
      cases sign <;> cases sign' <;> dsimp only [UnpackedFloat.compare, place, signed] <;>
        simp only [Option.some.injEq, lt_eq_compare, gt_eq_compare] <;> linarith
    | zero sign' =>
      cases sign <;> dsimp only [UnpackedFloat.compare, place, signed] <;>
        simp only [Option.some.injEq, lt_eq_compare, gt_eq_compare] <;> linarith
    | finite sign' mantissa' exponent' positive' =>
      have positive' : (0 : ℚ) < mantissa' * 2 ^ exponent' := by positivity
      cases sign <;> cases sign' <;> refine congrArg some ?_
      · rw [compare_magnitude of.1 of'.1, compare_swap]
        rfl
      · exact lt_eq_compare.2 (by dsimp only [place, signed]; linarith)
      · exact gt_eq_compare.2 (by dsimp only [place, signed]; linarith)
      · exact compare_magnitude of.1 of'.1

/-- The coordinate is a number. -/
def IsNumber (x : Coordinate) : Prop := x.toModel.unpack ≠ .notANumber

/-- The rational number that a coordinate stands for. -/
def value (x : Coordinate) : ℚ := place x.toModel.unpack

variable {x y : Coordinate}

theorem le_iff_value : x ≤ y ↔ IsNumber x ∧ IsNumber y ∧ value x ≤ value y := by
  rw [le_iff]
  by_cases number : IsNumber x
  · by_cases number' : IsNumber y
    · rw [compare_eq (isCoordinate_unpack x) (isCoordinate_unpack y) number number',
        Option.any_some, Ordering.isLE_iff_ne_gt, ← ne_eq, compare_le_iff_le]
      simp [number, number', value]
    · rw [not_not.1 number', compare_notANumber]
      simp [number']
  · rw [not_not.1 number, notANumber_compare]
    simp [number]

theorem lt_iff_value : x < y ↔ IsNumber x ∧ IsNumber y ∧ value x < value y := by
  have model : x < y ↔ x.toModel.unpack.compare y.toModel.unpack = some .lt := by
    change decide (x.toModel < y.toModel) = true ↔ _
    rw [decide_eq_true_iff]
    change (x.toModel.unpack.compare y.toModel.unpack == some .lt) = true ↔ _
    rw [beq_iff_eq]
  rw [model]
  by_cases number : IsNumber x
  · by_cases number' : IsNumber y
    · rw [compare_eq (isCoordinate_unpack x) (isCoordinate_unpack y) number number',
        Option.some.injEq, compare_lt_iff_lt]
      simp [number, number', value]
    · rw [not_not.1 number', compare_notANumber]
      simp [number']
  · rw [not_not.1 number, notANumber_compare]
    simp [number]

/-! ## The order of coordinates -/

theorem isNaN_iff : x.isNaN = true ↔ ¬IsNumber x := by
  change x.toModel.unpack.isNaN = true ↔ _
  unfold IsNumber
  cases x.toModel.unpack with
  | notANumber => exact iff_of_true rfl fun number => number rfl
  | infinity | zero | finite =>
    exact iff_of_false Bool.false_ne_true fun none => none (by rintro ⟨⟩)

theorem isNaN_eq_false_iff : x.isNaN = false ↔ IsNumber x := by
  rw [← Bool.not_eq_true, isNaN_iff, not_not]

theorem IsNumber.of_lt (less : x < y) : IsNumber x ∧ IsNumber y :=
  have iff := lt_iff_value.1 less
  ⟨iff.1, iff.2.1⟩

theorem IsNumber.of_le (le : x ≤ y) : IsNumber x ∧ IsNumber y :=
  have iff := le_iff_value.1 le
  ⟨iff.1, iff.2.1⟩

theorem IsNumber.le_refl (number : IsNumber x) : x ≤ x :=
  le_iff_value.2 ⟨number, number, le_rfl⟩

theorem le_trans {z : Coordinate} (le : x ≤ y) (le' : y ≤ z) : x ≤ z := by
  rw [le_iff_value] at *
  exact ⟨le.1, le'.2.1, le.2.2.trans le'.2.2⟩

theorem least_cases (x y : Coordinate) :
    (¬IsNumber x ∧ Scalar.least x y = y) ∨ (y < x ∧ Scalar.least x y = y) ∨
      (IsNumber x ∧ ¬y < x ∧ Scalar.least x y = x) := by
  change (¬IsNumber x ∧ (if x.isNaN then y else if y < x then y else x) = y) ∨
    (y < x ∧ (if x.isNaN then y else if y < x then y else x) = y) ∨
      (IsNumber x ∧ ¬y < x ∧ (if x.isNaN then y else if y < x then y else x) = x)
  split_ifs with none less
  · exact .inl ⟨isNaN_iff.1 none, rfl⟩
  · exact .inr (.inl ⟨less, rfl⟩)
  · exact .inr (.inr ⟨not_not.1 (mt isNaN_iff.2 none), less, rfl⟩)

theorem greatest_cases (x y : Coordinate) :
    (¬IsNumber x ∧ Scalar.greatest x y = y) ∨ (x < y ∧ Scalar.greatest x y = y) ∨
      (IsNumber x ∧ ¬x < y ∧ Scalar.greatest x y = x) := by
  change (¬IsNumber x ∧ (if x.isNaN then y else if x < y then y else x) = y) ∨
    (x < y ∧ (if x.isNaN then y else if x < y then y else x) = y) ∨
      (IsNumber x ∧ ¬x < y ∧ (if x.isNaN then y else if x < y then y else x) = x)
  split_ifs with none less
  · exact .inl ⟨isNaN_iff.1 none, rfl⟩
  · exact .inr (.inl ⟨less, rfl⟩)
  · exact .inr (.inr ⟨not_not.1 (mt isNaN_iff.2 none), less, rfl⟩)

theorem le_of_not_lt (number : IsNumber x) (number' : IsNumber y) (more : ¬y < x) : x ≤ y := by
  rw [lt_iff_value] at more
  exact le_iff_value.2 ⟨number, number', not_lt.1 fun less => more ⟨number', number, less⟩⟩

theorem le_of_lt (less : x < y) : x ≤ y := by
  rw [lt_iff_value] at less
  exact le_iff_value.2 ⟨less.1, less.2.1, less.2.2.le⟩

theorem least_le_left (number : IsNumber x) : Scalar.least x y ≤ x := by
  rcases least_cases x y with ⟨none, -⟩ | ⟨less, same⟩ | ⟨-, -, same⟩
  · exact absurd number none
  · rw [same]
    exact le_of_lt less
  · rw [same]
    exact number.le_refl

theorem least_le_right (number : IsNumber y) : Scalar.least x y ≤ y := by
  rcases least_cases x y with ⟨-, same⟩ | ⟨-, same⟩ | ⟨number', more, same⟩
  · rw [same]
    exact number.le_refl
  · rw [same]
    exact number.le_refl
  · rw [same]
    exact le_of_not_lt number' number more

theorem le_greatest_left (number : IsNumber x) : x ≤ Scalar.greatest x y := by
  rcases greatest_cases x y with ⟨none, -⟩ | ⟨less, same⟩ | ⟨-, -, same⟩
  · exact absurd number none
  · rw [same]
    exact le_of_lt less
  · rw [same]
    exact number.le_refl

theorem le_greatest_right (number : IsNumber y) : y ≤ Scalar.greatest x y := by
  rcases greatest_cases x y with ⟨-, same⟩ | ⟨-, same⟩ | ⟨number', more, same⟩
  · rw [same]
    exact number.le_refl
  · rw [same]
    exact number.le_refl
  · rw [same]
    exact le_of_not_lt number number' more

end PartsList.Coordinate
