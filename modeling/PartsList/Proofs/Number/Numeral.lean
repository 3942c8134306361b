import Mathlib.Data.List.TakeWhile
import Mathlib.Tactic.IntervalCases
import PartsList.Number.Shortest

/-!
# Proper numerals

A numeral is proper when each of its parts has digits and no zero stands in front of other digits.
The numerals of natural numbers are proper, and so are the shortest numerals of floating point
values.
-/

namespace PartsList

namespace Numeral

theorem digitsValue_digits (n : Nat) : digitsValue (digits n) = n := by
  simpa [digitsValue, digits, Nat.ofDigitChars] using Nat.ofDigitChars_ten_toDigits (n := n)

theorem isDigit_of_mem_digits {n : Nat} {c : Char} (mem : c ∈ digits n) : c.isDigit :=
  Nat.isDigit_of_mem_toDigits (by decide) (by decide) mem

theorem digits_ne_nil (n : Nat) : digits n ≠ [] :=
  Nat.toDigits_ne_nil

/-- A number below a power of ten has no more digits than its exponent says. -/
theorem length_digits_le {width n : Nat} (small : n < 10 ^ (width + 1)) :
    (digits n).length ≤ width + 1 := by
  induction width generalizing n with
  | zero =>
      have one : digits n = [n.digitChar] := Nat.toDigits_of_lt_base (by omega)
      rw [one]
      exact Nat.le_refl 1
  | succ width induction =>
      by_cases one : n < 10
      · have alone : digits n = [n.digitChar] := Nat.toDigits_of_lt_base one
        rw [alone]
        exact Nat.le_add_left ..
      · have split : digits n = digits (n / 10) ++ [(n % 10).digitChar] :=
          Nat.toDigits_of_base_le (by decide) (by omega)
        rw [split, List.length_append]
        exact Nat.succ_le_succ (induction (by rw [Nat.pow_succ] at small; omega))

/-- The digits of a positive number do not begin with zero. -/
theorem head_digits_ne_zero {n : Nat} (pos : 0 < n) : (digits n).head? ≠ some '0' := by
  induction n using Nat.strongRecOn with
  | _ n induction =>
      by_cases small : n < 10
      · have one : digits n = [n.digitChar] := Nat.toDigits_of_lt_base small
        rw [one]
        interval_cases n <;> decide
      · have split : digits n = digits (n / 10) ++ [(n % 10).digitChar] :=
          Nat.toDigits_of_base_le (by decide) (by omega)
        have front := induction (n / 10) (by omega) (by omega)
        obtain ⟨first, rest, front_eq⟩ := List.exists_cons_of_ne_nil (digits_ne_nil (n / 10))
        rw [front_eq] at front
        rw [split, front_eq]
        exact front

/-- One digit or more. -/
def AreDigits (digits : List Char) : Prop :=
  digits ≠ [] ∧ ∀ c ∈ digits, c.isDigit

theorem areDigits_digits (n : Nat) : AreDigits (digits n) :=
  ⟨digits_ne_nil n, fun _ mem => isDigit_of_mem_digits mem⟩

/-- Every part of the numeral has digits, and no zero stands in front of other digits. -/
structure Proper (n : Numeral) : Prop where
  /-- There are digits before the point. -/
  whole : AreDigits n.whole
  /-- A zero in front stands alone. -/
  lead : n.whole.head? = some '0' → n.whole = ['0']
  /-- A point is followed by digits. -/
  fraction : ∀ digits ∈ n.fraction, AreDigits digits
  /-- An exponent has digits. -/
  exponent : ∀ part ∈ n.exponent, AreDigits part.2

theorem proper_ofNat (n : Nat) : (ofNat n).Proper where
  whole := areDigits_digits n
  lead := by
    intro zero
    rcases Nat.eq_zero_or_pos n with rfl | pos
    · rfl
    · exact absurd zero (head_digits_ne_zero pos)
  fraction := by simp [ofNat]
  exponent := by simp [ofNat]

theorem proper_zero (negative : Bool) : (⟨negative, ['0'], some ['0'], none⟩ : Numeral).Proper where
  whole := ⟨by simp, by simp⟩
  lead := fun _ => rfl
  fraction := by simp [AreDigits]
  exponent := by simp

end Numeral

namespace RoundingInterval

variable {interval : RoundingInterval}

theorem coefficient_pos_of_holds {d : Decimal} (lower_pos : 0 < interval.lower)
    (holds : interval.holds d) : 0 < d.coefficient := by
  have scaled_pos : 0 < (scaleDown interval.lower interval.denominator d.exponent).1 := by
    unfold scaleDown
    split
    · exact lower_pos
    · exact Nat.mul_pos lower_pos (Nat.pow_pos (by decide))
  by_contra not_pos
  have zero : d.coefficient = 0 := by omega
  simp only [RoundingInterval.holds, zero] at holds
  split at holds
  · simp only [Nat.zero_mul, Nat.le_zero_eq, Bool.and_eq_true, decide_eq_true_eq] at holds
    omega
  · simp at holds

theorem coefficient_pos_of_nearestOnGrid {unit : Int} {d : Decimal}
    (lower_pos : 0 < interval.lower) (found : interval.nearestOnGrid unit = some d) :
    0 < d.coefficient := by
  unfold nearestOnGrid at found
  simp only at found
  split at found
  · cases found
  · next below _ =>
    cases found
    exact coefficient_pos_of_holds lower_pos below
  · cases found
    exact Nat.succ_pos _
  · next below _ =>
    have below_pos := coefficient_pos_of_holds lower_pos below
    split at found
    · cases found
      exact below_pos
    · split at found
      · cases found
        exact Nat.succ_pos _
      · split at found
        · cases found
          exact below_pos
        · cases found
          exact Nat.succ_pos _

theorem coefficient_pos_of_stripZeros (fuel : Nat) {d : Decimal} (pos : 0 < d.coefficient) :
    0 < (d.stripZeros fuel).coefficient := by
  induction fuel generalizing d with
  | zero => exact pos
  | succ fuel induction =>
      unfold Decimal.stripZeros
      split
      · next strippable =>
        apply induction
        simp only
        omega
      · exact pos

/-- A search that fails ends with a zero that has no exponent. -/
theorem search_pos_or_zero (lower_pos : 0 < interval.lower) (fuel digits : Nat) :
    0 < (interval.search fuel digits).coefficient ∨ interval.search fuel digits = ⟨0, 0⟩ := by
  induction fuel generalizing digits with
  | zero =>
      unfold search
      split
      · next found =>
        exact .inl (coefficient_pos_of_stripZeros 20
          (coefficient_pos_of_nearestOnGrid lower_pos found))
      · exact .inr rfl
  | succ fuel induction =>
      unfold search
      split
      · next found =>
        exact .inl (coefficient_pos_of_stripZeros 20
          (coefficient_pos_of_nearestOnGrid lower_pos found))
      · exact induction (digits + 1)

theorem shortest_pos_or_zero (lower_pos : 0 < interval.lower) :
    0 < interval.shortest.coefficient ∨ interval.shortest = ⟨0, 0⟩ :=
  search_pos_or_zero lower_pos 16 1

theorem around_lower_pos {mantissa : Nat} (exponent : Int) (narrow : Bool)
    (pos : mantissa ≠ 0) : 0 < (around mantissa exponent narrow).lower := by
  unfold around
  simp only
  split
  · refine Nat.mul_pos ?_ (Nat.pow_pos (by decide))
    split <;> omega
  · simp only
    split <;> omega

end RoundingInterval

namespace NumberStyle

open Numeral

theorem proper_layout_zero (style : NumberStyle) (negative : Bool)
    (least : style.leastPoint ≤ 1) (greatest : 1 ≤ style.greatestPoint) :
    (style.layout negative ⟨0, 0⟩).Proper := by
  have zero_digits : digits 0 = ['0'] := Nat.toDigits_zero 10
  have laid : style.layout negative ⟨0, 0⟩ = ⟨negative, ['0'], some ['0'], none⟩ := by
    simp [layout, zero_digits, least, greatest]
  rw [laid]
  exact proper_zero negative

theorem proper_layout (style : NumberStyle) (negative : Bool) {d : Decimal}
    (pos : 0 < d.coefficient) : (style.layout negative d).Proper := by
  have some_digits := digits_ne_nil d.coefficient
  have all_digits := fun c => isDigit_of_mem_digits (n := d.coefficient) (c := c)
  have no_zero := head_digits_ne_zero pos
  have length_pos := List.length_pos_iff.mpr some_digits
  obtain ⟨first, rest, split_digits⟩ := List.exists_cons_of_ne_nil some_digits
  have first_ne : first ≠ '0' := by
    rintro rfl
    exact no_zero (by rw [split_digits]; rfl)
  unfold layout
  simp only
  split
  · split
    · refine ⟨⟨by simp [some_digits], ?_⟩, ?_, by simp [AreDigits], by simp⟩
      · intro c mem
        rcases List.mem_append.mp mem with mem | mem
        · exact all_digits c mem
        · rw [List.eq_of_mem_replicate mem]
          rfl
      · simp only [split_digits, List.cons_append, List.head?_cons, Option.some.injEq]
        exact fun zero => absurd zero first_ne
    · split
      · next negative_exponent point_pos =>
        obtain ⟨point, point_eq⟩ :
            ∃ point : Nat, ((digits d.coefficient).length + d.exponent : Int) = point + 1 :=
          ⟨((digits d.coefficient).length + d.exponent - 1 : Int).toNat, by omega⟩
        have short : point + 1 < (digits d.coefficient).length := by omega
        rw [point_eq]
        simp only [Int.toNat_natCast_add_one]
        refine ⟨⟨by simp [some_digits], ?_⟩, ?_, ?_, by simp⟩
        · exact fun c mem => all_digits c (List.mem_of_mem_take mem)
        · simp only [split_digits, List.take_succ_cons, List.head?_cons, Option.some.injEq]
          exact fun zero => absurd zero first_ne
        · intro fraction mem
          cases mem
          refine ⟨?_, fun c mem => all_digits c (List.mem_of_mem_drop mem)⟩
          simp only [ne_eq, List.drop_eq_nil_iff]
          omega
      · refine ⟨⟨by simp, by simp⟩, fun _ => rfl, ?_, by simp⟩
        intro fraction mem
        cases mem
        refine ⟨by simp [some_digits], ?_⟩
        intro c mem
        rcases List.mem_append.mp mem with mem | mem
        · rw [List.eq_of_mem_replicate mem]
          rfl
        · exact all_digits c mem
  · refine ⟨⟨by simp [some_digits], ?_⟩, ?_, ?_, ?_⟩
    · exact fun c mem => all_digits c (List.mem_of_mem_take mem)
    · simp only [split_digits, List.take_succ_cons, List.head?_cons, Option.some.injEq]
      exact fun zero => absurd zero first_ne
    · intro fraction mem
      simp only at mem
      split at mem
      · cases mem
      · next long =>
        cases mem
        refine ⟨?_, fun c mem => all_digits c (List.mem_of_mem_drop mem)⟩
        simp only [ne_eq, List.drop_eq_nil_iff]
        omega
    · intro part mem
      cases mem
      exact areDigits_digits _

/-- The shortest numeral of a floating point value is proper. -/
theorem proper_of_numeral? {style : NumberStyle} {value : Binary} {numeral : Numeral}
    (least : style.leastPoint ≤ 1) (greatest : 1 ≤ style.greatestPoint)
    (written : style.numeral? value = some numeral) : numeral.Proper := by
  cases value with
  | nan => cases written
  | infinite negative => cases written
  | finite negative mantissa exponent narrow =>
      simp only [numeral?] at written
      split at written
      · cases written
        exact proper_zero negative
      · next mantissa_ne =>
        cases written
        have lower_pos := RoundingInterval.around_lower_pos exponent narrow mantissa_ne
        rcases RoundingInterval.shortest_pos_or_zero lower_pos with pos | zero
        · exact proper_layout style negative pos
        · rw [zero]
          exact proper_layout_zero style negative least greatest

end NumberStyle

end PartsList
