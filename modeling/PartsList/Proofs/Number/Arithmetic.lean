import PartsList.Proofs.Number.Rounding

/-!
# Sums, differences and signs of coordinates

A margin that is not negative never moves an edge inward, as a rounded sum is no less than what the
margin is added to.  A product or a quotient of such values is not negative either.
-/

namespace PartsList.Coordinate

open Float.Model UnpackedFloat

section Values

/-! ## Sums -/

variable {value other : UnpackedFloat}

/-- Decreasing the exponent keeps the number. -/
theorem place_apply (sign : UnpackedFloat.Sign) (mantissa : ℕ) {exponent least : ℤ}
    (less : least ≤ exponent) :
    (sign.apply (decreaseExponent mantissa exponent least).1 * 2 ^ least : ℚ) =
      signed sign (mantissa * 2 ^ exponent) := by
  have digits : ((decreaseExponent mantissa exponent least).1 * 2 ^ least : ℚ) =
      mantissa * 2 ^ exponent := by
    rw [mul_zpow_shift _ less, decreaseExponent, Nat.shiftLeft_eq]
    push_cast
    rfl
  cases sign with
  | positive => exact digits
  | negative =>
    rw [signed, ← digits]
    simp [Sign.apply]

theorem abs_place_le (of : IsCoordinate value) : |place value| ≤ 2 ^ 128 := by
  by_cases number : value = .notANumber
  · rw [number]
    norm_num [place]
  · obtain ⟨sign, mantissa, exponent, -, same, most⟩ := exists_fits of number
    rw [same]
    cases sign <;> simpa [signed, abs_of_nonneg] using most

/-- What is added decides on which side of the other number the sum lies. -/
theorem place_add (of : IsCoordinate value) (of' : IsCoordinate other)
    (number : UnpackedFloat.add Format.binary32 value other ≠ .notANumber) :
    (0 ≤ place other →
        place value ≤ place (restored (UnpackedFloat.add Format.binary32 value other))) ∧
      (place other ≤ 0 →
        place (restored (UnpackedFloat.add Format.binary32 value other)) ≤ place value) := by
  have same {sum : UnpackedFloat} (eq : UnpackedFloat.add Format.binary32 value other = sum)
      (of : IsCoordinate sum) :
      place (restored (UnpackedFloat.add Format.binary32 value other)) = place sum := by
    rw [eq, restored_eq of]
  have stays {sum : UnpackedFloat} (eq : UnpackedFloat.add Format.binary32 value other = sum)
      (of : IsCoordinate sum) (unmoved : place sum = place value) :
      (0 ≤ place other →
          place value ≤ place (restored (UnpackedFloat.add Format.binary32 value other))) ∧
        (place other ≤ 0 →
          place (restored (UnpackedFloat.add Format.binary32 value other)) ≤ place value) := by
    rw [same eq of, unmoved]
    exact ⟨fun _ => le_rfl, fun _ => le_rfl⟩
  cases value with
  | notANumber => exact absurd rfl number
  | infinity sign =>
    cases other with
    | notANumber => exact absurd rfl number
    | zero | finite => exact stays rfl trivial rfl
    | infinity sign' =>
      cases sign <;> cases sign'
      · exact stays rfl trivial rfl
      · exact absurd rfl number
      · exact absurd rfl number
      · exact stays rfl trivial rfl
  | zero sign =>
    cases other with
    | notANumber => exact absurd rfl number
    | infinity | finite =>
      rw [same rfl of']
      exact ⟨id, id⟩
    | zero sign' =>
      cases sign <;> cases sign' <;> exact stays rfl trivial rfl
  | finite sign mantissa exponent positive =>
    cases other with
    | notANumber => exact absurd rfl number
    | zero sign' => exact stays rfl of rfl
    | infinity sign' =>
      obtain ⟨low, high⟩ := abs_le.1 (abs_place_le of)
      rw [same rfl trivial]
      cases sign' with
      | positive => exact ⟨fun _ => high, fun none => by norm_num [place, signed] at none⟩
      | negative => exact ⟨fun none => by norm_num [place, signed] at none, fun _ => low⟩
    | finite sign' mantissa' exponent' positive' =>
      let least := min exponent exponent'
      let total := sign.apply (decreaseExponent mantissa exponent least).1 +
        sign'.apply (decreaseExponent mantissa' exponent' least).1
      have total_eq : (total * 2 ^ least : ℚ) =
          place (.finite sign mantissa exponent positive) +
            place (.finite sign' mantissa' exponent' positive') := by
        rw [Int.cast_add, add_mul, place_apply _ _ (min_le_left _ _),
          place_apply _ _ (min_le_right _ _)]
        rfl
      obtain ⟨below, above⟩ := uncrossed_normalize total least .positive _ of (by simp)
      rw [total_eq] at below above
      exact ⟨fun more => below (by linarith), fun less => above (by linarith)⟩

theorem apply_neg (sign : UnpackedFloat.Sign) (number : ℤ) :
    (-sign).apply number = -sign.apply number := by
  cases sign with
  | negative => exact (neg_neg number).symm
  | positive => rfl

theorem sub_eq_add_neg (value other : UnpackedFloat) :
    UnpackedFloat.sub Format.binary32 value other =
      UnpackedFloat.add Format.binary32 value other.neg := by
  cases value with
  | notANumber => rfl
  | infinity sign => cases other <;> rfl
  | zero sign => cases other <;> rfl
  | finite sign mantissa exponent positive =>
    cases other with
    | notANumber | infinity | zero => rfl
    | finite sign' mantissa' exponent' positive' =>
      simp only [UnpackedFloat.sub, UnpackedFloat.add, UnpackedFloat.neg, apply_neg,
        Int.sub_eq_add_neg]

theorem isCoordinate_neg (of : IsCoordinate value) : IsCoordinate value.neg := by
  cases value <;> exact of

/-! ## Signs -/

/-- The value has the sign of positive numbers, or is none. -/
def Upright : UnpackedFloat → Prop
  | .notANumber => True
  | .infinity sign | .zero sign | .finite sign _ _ _ => sign = .positive

theorem Upright.place_nonneg (upright : Upright value) : 0 ≤ place value := by
  cases value with
  | notANumber | zero => exact le_rfl
  | infinity sign =>
    cases upright
    norm_num [place, signed]
  | finite sign =>
    cases upright
    simp only [place, signed]
    positivity

theorem upright_of_place (nonneg : 0 ≤ place value) :
    Upright value ∨ ∃ sign, value = .zero sign := by
  cases value with
  | notANumber => exact .inl trivial
  | zero sign => exact .inr ⟨sign, rfl⟩
  | infinity sign =>
    cases sign with
    | positive => exact .inl rfl
    | negative => norm_num [place, signed] at nonneg
  | finite sign mantissa exponent positive =>
    cases sign with
    | positive => exact .inl rfl
    | negative =>
      have magnitude : (0 : ℚ) < mantissa * 2 ^ exponent := by positivity
      simp only [place, signed] at nonneg
      linarith

theorem upright_ofMantissa (mantissa : ℕ) (exponent : ℤ) :
    Upright (ofMantissa .positive mantissa exponent) := by
  unfold ofMantissa
  split_ifs <;> rfl

/-- Packing keeps the sign. -/
theorem Upright.restored (upright : Upright value) : Upright (restored value) := by
  have components (exponent : BitVec 8) (digits : BitVec 23) : Upright
      (UnpackedFloat.unpack Format.binary32
        (packComponents Format.binary32 .positive exponent digits)) := by
    rw [unpack_packComponents]
    split_ifs
    · rfl
    · trivial
    · exact upright_ofMantissa _ _
    · exact upright_ofMantissa _ _
  cases value with
  | notANumber => simp [Upright]
  | infinity sign => simpa using upright
  | zero sign => simpa using upright
  | finite sign mantissa exponent positive =>
    cases upright
    unfold Coordinate.restored
    rw [pack_finite]
    split_ifs <;> exact components _ _

theorem upright_roundWithAccuracy (mantissa : ℕ) (exponent : ℤ) (accuracy : Accuracy) :
    Upright (roundWithAccuracy Format.binary32 .positive mantissa exponent accuracy) :=
  upright_ofMantissa _ _

theorem place_restored_nonneg (nonneg : 0 ≤ place value) : 0 ≤ place (restored value) := by
  rcases upright_of_place nonneg with upright | ⟨sign, rfl⟩
  · exact upright.restored.place_nonneg
  · rw [restored_zero]
    exact le_rfl

theorem place_mul_nonneg (nonneg : 0 ≤ place value) (nonneg' : 0 ≤ place other) :
    0 ≤ place (UnpackedFloat.mul Format.binary32 value other) := by
  rcases upright_of_place nonneg with upright | ⟨sign, rfl⟩
  · rcases upright_of_place nonneg' with upright' | ⟨sign', rfl⟩
    · refine Upright.place_nonneg ?_
      cases value <;> cases other <;> cases upright <;> cases upright' <;>
        first | trivial | rfl | exact upright_roundWithAccuracy _ _ _
    · cases value <;> exact le_rfl
  · cases other <;> exact le_rfl

theorem place_div_nonneg (nonneg : 0 ≤ place value) (upright : Upright other) :
    0 ≤ place (UnpackedFloat.div Format.binary32 value other) := by
  rcases upright_of_place nonneg with upright' | ⟨sign, rfl⟩
  · refine Upright.place_nonneg ?_
    cases value <;> cases other <;> cases upright <;> cases upright' <;>
      first | trivial | rfl | exact upright_roundWithAccuracy _ _ _
  · cases other <;> exact le_rfl

theorem upright_normalize (count : ℕ) :
    Upright (UnpackedFloat.normalize Format.binary32 count 0 .positive) := by
  unfold UnpackedFloat.normalize
  split
  · next less => exact absurd (compare_lt_iff_lt.1 less) (by omega)
  · rfl
  · exact upright_roundWithAccuracy _ _ _

end Values

/-! ## Coordinates -/

variable {x y : Coordinate}

theorem unpack_add (x y : Coordinate) : (x + y).toModel.unpack =
    restored (UnpackedFloat.add Format.binary32 x.toModel.unpack y.toModel.unpack) :=
  rfl

theorem unpack_sub (x y : Coordinate) : (x - y).toModel.unpack =
    restored (UnpackedFloat.add Format.binary32 x.toModel.unpack y.toModel.unpack.neg) :=
  congrArg restored (sub_eq_add_neg _ _)

theorem isNumber_of_add {value other : UnpackedFloat}
    (number : restored (UnpackedFloat.add Format.binary32 value other) ≠ .notANumber) :
    UnpackedFloat.add Format.binary32 value other ≠ .notANumber ∧ value ≠ .notANumber := by
  refine ⟨fun none => number (by rw [none, restored_notANumber]), ?_⟩
  rintro rfl
  exact number restored_notANumber

/-- Something that is not negative is added. -/
theorem le_add (nonneg : 0 ≤ value y) (number : IsNumber (x + y)) : x ≤ x + y := by
  rw [IsNumber, unpack_add] at number
  obtain ⟨sum, of⟩ := isNumber_of_add number
  refine le_iff_value.2 ⟨of, number, ?_⟩
  exact (place_add (isCoordinate_unpack x) (isCoordinate_unpack y) sum).1 nonneg

/-- Something that is not negative is taken away. -/
theorem sub_le (nonneg : 0 ≤ value y) (number : IsNumber (x - y)) : x - y ≤ x := by
  rw [IsNumber, unpack_sub] at number
  obtain ⟨sum, of⟩ := isNumber_of_add number
  refine le_iff_value.2 ⟨?_, of, ?_⟩
  · rwa [IsNumber, unpack_sub]
  · rw [value, unpack_sub]
    refine (place_add (isCoordinate_unpack x) (isCoordinate_neg (isCoordinate_unpack y)) sum).2 ?_
    rw [place_neg]
    exact neg_nonpos.2 nonneg

theorem value_mul_nonneg (nonneg : 0 ≤ value x) (nonneg' : 0 ≤ value y) : 0 ≤ value (x * y) :=
  place_restored_nonneg (place_mul_nonneg nonneg nonneg')

/-- A count is a number with the sign of positive ones, so that a quotient by it keeps its sign even
if the count is zero. -/
theorem value_div_nonneg (nonneg : 0 ≤ value x) (count : ℕ) :
    0 ≤ value (x / (Scalar.ofNat count : Coordinate)) :=
  place_restored_nonneg (place_div_nonneg nonneg (upright_normalize _).restored)

end PartsList.Coordinate
