import Mathlib.Algebra.Order.Field.Rat
import PartsList.Number.Scalar

/-!
# Comparing coordinates

Two coordinates that are equal as numbers stand in the same order to every other one.  They need not
be the same, as zero has two signs, and the value that is no number is not even equal to itself; but
it is in no order to any other.  Rational numbers are coordinates too, for which the laws of
geometry can be stated without rounding.
-/

namespace PartsList

namespace Coordinate

open Float.Model

variable {x y z : Coordinate} {value other : UnpackedFloat}

theorem le_iff : x ≤ y ↔ (x.toModel.unpack.compare y.toModel.unpack).any (·.isLE) = true := by
  change decide (x.toModel ≤ y.toModel) = true ↔ _
  rw [decide_eq_true_iff]
  rfl

theorem beq_iff : (x == y) = true ↔ x.toModel.unpack.compare y.toModel.unpack = some .eq := by
  change (x.toModel.unpack.compare y.toModel.unpack == some .eq) = true ↔ _
  rw [beq_iff_eq]

theorem compare_self (number : value ≠ .notANumber) : value.compare value = some .eq := by
  cases value with
  | notANumber => exact (number rfl).elim
  | infinity sign => cases sign <;> rfl
  | zero sign => rfl
  | finite sign mantissa exponent =>
      have same : (compare exponent exponent).then (compare mantissa mantissa) = .eq := by simp
      cases sign with
      | positive => exact congrArg some same
      | negative => exact congrArg (some ·.swap) same

/-- Values are equal as numbers if they are the same or both are zero. -/
theorem eq_or_zeros_of_compare (same : value.compare other = some .eq) :
    value = other ∨ ∃ sign sign', value = .zero sign ∧ other = .zero sign' := by
  cases value with
  | notANumber => cases same
  | infinity sign =>
    cases other with
    | infinity sign' => cases sign <;> cases sign' <;> first | exact .inl rfl | cases same
    | notANumber => cases same
    | zero => cases sign <;> cases same
    | finite => cases sign <;> cases same
  | zero sign =>
    cases other with
    | zero sign' => exact .inr ⟨sign, sign', rfl, rfl⟩
    | notANumber => cases same
    | infinity sign' => cases sign' <;> cases same
    | finite sign' => cases sign' <;> cases same
  | finite sign mantissa exponent =>
    cases other with
    | finite sign' mantissa' exponent' =>
      obtain ⟨rfl, equal⟩ : sign = sign' ∧
          (compare exponent exponent').then (compare mantissa mantissa') = .eq := by
        cases sign <;> cases sign'
        · exact ⟨rfl, Ordering.swap_eq_eq.1 (Option.some.inj same)⟩
        · cases same
        · cases same
        · exact ⟨rfl, Option.some.inj same⟩
      obtain ⟨exponents, mantissas⟩ := Ordering.then_eq_eq.1 equal
      obtain rfl := Std.LawfulEqCmp.eq_of_compare exponents
      obtain rfl := Std.LawfulEqCmp.eq_of_compare mantissas
      exact .inl rfl
    | notANumber => cases same
    | infinity sign' => cases sign' <;> cases same
    | zero => cases sign <;> cases same

theorem compare_zero (value : UnpackedFloat) (sign sign' : UnpackedFloat.Sign) :
    value.compare (.zero sign) = value.compare (.zero sign') := by
  cases value with
  | notANumber | zero => rfl
  | infinity sign | finite sign => cases sign <;> rfl

theorem zero_compare (value : UnpackedFloat) (sign sign' : UnpackedFloat.Sign) :
    (UnpackedFloat.zero sign).compare value = (UnpackedFloat.zero sign').compare value := by
  cases value with
  | notANumber | zero => rfl
  | infinity sign | finite sign => cases sign <;> rfl

theorem compare_notANumber (value : UnpackedFloat) : value.compare .notANumber = none := by
  cases value <;> rfl

theorem notANumber_compare (value : UnpackedFloat) :
    UnpackedFloat.notANumber.compare value = none :=
  rfl

theorem le_congr_left (same : (x == y) = true) : x ≤ z ↔ y ≤ z := by
  rw [le_iff, le_iff]
  obtain equal | ⟨sign, sign', zero, zero'⟩ := eq_or_zeros_of_compare (beq_iff.1 same)
  · rw [equal]
  · rw [zero, zero', zero_compare _ sign sign']

theorem le_congr_right (same : (x == y) = true) : z ≤ x ↔ z ≤ y := by
  rw [le_iff, le_iff]
  obtain equal | ⟨sign, sign', zero, zero'⟩ := eq_or_zeros_of_compare (beq_iff.1 same)
  · rw [equal]
  · rw [zero, zero', compare_zero _ sign sign']

theorem beq_self_of_le (least : x ≤ y) : (x == x) = true := by
  rw [beq_iff]
  refine compare_self fun none => ?_
  rw [le_iff, none] at least
  cases least

theorem beq_self_of_ge (most : y ≤ x) : (x == x) = true := by
  rw [beq_iff]
  refine compare_self fun none => ?_
  rw [le_iff, none, compare_notANumber] at most
  cases most

end Coordinate

/-! ## Exact coordinates -/

/-- Exact arithmetic; the total order is that of the numbers. -/
instance : Scalar ℚ where
  ofNat count := count
  half := 1 / 2
  abs x := |x|
  least := min
  greatest := max
  ranked x y := decide (x ≤ y)
  decLt := inferInstance
  decLe := inferInstance

theorem Scalar.ranked_iff {x y : ℚ} : Scalar.ranked x y = true ↔ x ≤ y :=
  decide_eq_true_iff

end PartsList
