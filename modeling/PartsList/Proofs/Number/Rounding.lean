import Mathlib
import PartsList.Proofs.Number.Place

/-!
# Rounding coordinates

A result that is not a coordinate is rounded to one that is nearest to it.  The distance to it does
not matter here, only that no coordinate lies strictly between the two: rounding a number never
carries it across a coordinate.  So a sum is no less than what something is added to, and a
difference no more than what something is taken from.  What is known about the bits of packed
numbers comes with the whole of the library only.
-/

namespace PartsList.Coordinate

open Float.Model UnpackedFloat

/-! ## Shifting out digits -/

/-- The mantissa that is left when the last digits are shifted out, rounded. -/
def cut (mantissa places : ℕ) : ℕ :=
  (ExtendedMantissa.ofMantissaAndAccuracy mantissa .exact >>> places).roundedMantissa

theorem shiftRight_succ (extended : ExtendedMantissa) (places : ℕ) :
    extended >>> (places + 1) = (extended >>> places).shiftRightOne :=
  rfl

/-- What is left is the quotient, and the bits say whether there is a remainder. -/
theorem shiftRight_exact (mantissa places : ℕ) :
    let shifted := ExtendedMantissa.ofMantissaAndAccuracy mantissa .exact >>> places
    shifted.mantissa = mantissa / 2 ^ places ∧
      ((shifted.roundBit || shifted.stickyBit) = false ↔ mantissa % 2 ^ places = 0) := by
  induction places with
  | zero => exact ⟨(Nat.div_one mantissa).symm, iff_of_true rfl (Nat.mod_one mantissa)⟩
  | succ places induction =>
    obtain ⟨quotient, bits⟩ := induction
    dsimp only
    rw [shiftRight_succ]
    refine ⟨?_, ?_⟩
    · rw [pow_succ, ← Nat.div_div_eq_div_mul, ← quotient]
      rfl
    · have digit : (mantissa / 2 ^ places) % 2 = 0 ∨ (mantissa / 2 ^ places) % 2 = 1 := by omega
      have positive : 0 < 2 ^ places := by positivity
      rw [ExtendedMantissa.shiftRightOne, Bool.or_eq_false_iff, bits, quotient,
        Nat.mod_pow_succ, Nat.add_eq_zero_iff, mul_eq_zero]
      simp only [bne_eq_false_iff_eq, positive.ne', false_or]
      exact and_comm

theorem roundedMantissa_cases (extended : ExtendedMantissa) :
    extended.roundedMantissa = extended.mantissa ∨
      extended.roundedMantissa = extended.mantissa + 1 ∧
        (extended.roundBit || extended.stickyBit) = true := by
  obtain ⟨mantissa, round, sticky⟩ := extended
  cases round <;> cases sticky
  · exact .inl rfl
  · exact .inl rfl
  · rcases Nat.mod_two_eq_zero_or_one mantissa with even | odd
    · exact .inl (congrArg (mantissa + ·) even)
    · exact .inr ⟨congrArg (mantissa + ·) odd, rfl⟩
  · exact .inr ⟨rfl, rfl⟩

theorem le_cut {count mantissa places : ℕ} (least : count * 2 ^ places ≤ mantissa) :
    count ≤ cut mantissa places := by
  have quotient := (shiftRight_exact mantissa places).1
  have least : count ≤ mantissa / 2 ^ places := (Nat.le_div_iff_mul_le (by positivity)).2 least
  have cases := roundedMantissa_cases
    (ExtendedMantissa.ofMantissaAndAccuracy mantissa .exact >>> places)
  unfold cut
  omega

theorem cut_le {count mantissa places : ℕ} (most : mantissa ≤ count * 2 ^ places) :
    cut mantissa places ≤ count := by
  obtain ⟨quotient, bits⟩ := shiftRight_exact mantissa places
  have most' : mantissa / 2 ^ places ≤ count := Nat.div_le_of_le_mul (by rwa [mul_comm])
  rcases roundedMantissa_cases
    (ExtendedMantissa.ofMantissaAndAccuracy mantissa .exact >>> places) with down | ⟨up, rest⟩
  · rw [cut, down, quotient]
    exact most'
  · -- Something is shifted out when the mantissa is rounded up, so the bound is not met.
    rw [cut, up, quotient]
    refine (Nat.div_lt_iff_lt_mul (by positivity)).2 (lt_of_le_of_ne most fun same => ?_)
    have none := bits.2 (by rw [same, Nat.mul_mod_left])
    rw [rest] at none
    cases none

/-! ## Rounding a number -/

/-- A mantissa and an exponent with a sign, zero when the mantissa is. -/
def ofMantissa (sign : UnpackedFloat.Sign) (mantissa : ℕ) (exponent : ℤ) : UnpackedFloat :=
  if zero : mantissa = 0 then .zero sign
  else .finite sign mantissa exponent (Nat.pos_of_ne_zero zero)

/-- No coordinate lies strictly between the two numbers. -/
def Neighbors (number rounded : ℚ) : Prop :=
  ∀ mantissa exponent, Fits mantissa exponent →
    (mantissa * 2 ^ exponent ≤ number → mantissa * 2 ^ exponent ≤ rounded) ∧
      (number ≤ mantissa * 2 ^ exponent → rounded ≤ mantissa * 2 ^ exponent)

/-- The exponent at which a number of 24 digits begins with the first digit of the mantissa. -/
def target (mantissa : ℕ) (exponent : ℤ) : ℤ :=
  max (mantissa.log2 + 1 + exponent - 24) (-149)

theorem mul_zpow_shift (number : ℚ) {exponent exponent' : ℤ} (less : exponent ≤ exponent') :
    number * 2 ^ exponent' = number * 2 ^ (exponent' - exponent).toNat * 2 ^ exponent := by
  rw [mul_assoc, ← zpow_natCast, ← zpow_add₀ two_ne_zero]
  congr 2
  omega

variable {mantissa : ℕ} {exponent : ℤ}

theorem lt_of_target (least : exponent ≤ target mantissa exponent) :
    mantissa < 2 ^ (24 + (target mantissa exponent - exponent).toNat) := by
  refine Nat.lt_of_lt_of_le Nat.lt_log2_self (Nat.pow_le_pow_right two_pos ?_)
  unfold target at least ⊢
  omega

theorem le_of_target (positive : 0 < mantissa) (more : target mantissa exponent ≠ -149) :
    (2 ^ 23 * 2 ^ target mantissa exponent : ℚ) ≤ mantissa * 2 ^ exponent := by
  have first : (2 ^ mantissa.log2 : ℚ) ≤ mantissa := by
    exact_mod_cast Nat.log2_self_le positive.ne'
  calc (2 ^ 23 * 2 ^ target mantissa exponent : ℚ) = 2 ^ mantissa.log2 * 2 ^ exponent := by
        rw [← zpow_natCast, ← zpow_natCast, ← zpow_add₀ two_ne_zero, ← zpow_add₀ two_ne_zero]
        unfold target at more ⊢
        congr 1
        omega
    _ ≤ mantissa * 2 ^ exponent := by gcongr

/-- A mantissa keeps 24 digits, unless the target is the least exponent. -/
theorem le_cut_of_target (positive : 0 < mantissa) (least : exponent ≤ target mantissa exponent)
    (more : target mantissa exponent ≠ -149) :
    2 ^ 23 ≤ cut mantissa (target mantissa exponent - exponent).toNat := by
  have full := le_of_target positive more
  rw [mul_zpow_shift _ least, mul_le_mul_iff_left₀ (by positivity)] at full
  exact le_cut (by exact_mod_cast full)

/-- Rounding to the digits from the target exponent on crosses no coordinate. -/
theorem neighbors_cut (positive : 0 < mantissa) (least : exponent ≤ target mantissa exponent) :
    Neighbors (mantissa * 2 ^ exponent)
      (cut mantissa
        (target mantissa exponent - exponent).toNat * 2 ^ target mantissa exponent) := by
  intro other place fits
  have power : (0 : ℚ) < 2 ^ target mantissa exponent := by positivity
  by_cases wide : target mantissa exponent ≤ place
  · -- The coordinate is a multiple of the power of two to which the number is rounded.
    obtain ⟨count, multiple⟩ : ∃ count : ℕ,
        (other * 2 ^ place : ℚ) = count * 2 ^ target mantissa exponent :=
      ⟨other * 2 ^ (place - target mantissa exponent).toNat, by
        rw [mul_zpow_shift _ wide]
        push_cast
        rfl⟩
    rw [multiple, mul_le_mul_iff_left₀ power, mul_le_mul_iff_left₀ power,
      mul_zpow_shift (count : ℚ) least, mul_le_mul_iff_left₀ (by positivity),
      mul_le_mul_iff_left₀ (by positivity)]
    exact ⟨fun below => by exact_mod_cast le_cut (by exact_mod_cast below),
      fun above => by exact_mod_cast cut_le (by exact_mod_cast above)⟩
  · -- The coordinate lies below all numbers with as many digits as this one.
    have more : target mantissa exponent ≠ -149 := by
      have := fits.least
      omega
    have full := le_of_target positive more
    have low : (other * 2 ^ place : ℚ) < 2 ^ 23 * 2 ^ target mantissa exponent := by
      calc (other * 2 ^ place : ℚ) < 2 ^ 24 * 2 ^ place := by
            have lt : (other : ℚ) < 2 ^ 24 := by exact_mod_cast fits.lt
            gcongr
        _ = 2 ^ 23 * 2 ^ (place + 1) := by rw [zpow_add_one₀ two_ne_zero]; ring
        _ ≤ 2 ^ 23 * 2 ^ target mantissa exponent := by
            gcongr
            · norm_num
            · omega
    have high : (2 ^ 23 : ℚ) ≤ cut mantissa (target mantissa exponent - exponent).toNat := by
      exact_mod_cast le_cut_of_target positive least more
    refine ⟨fun _ => low.le.trans (by gcongr), fun above => ?_⟩
    exact absurd (full.trans above) (not_le.2 low)

theorem cut_le_of_target (least : exponent ≤ target mantissa exponent) :
    cut mantissa (target mantissa exponent - exponent).toNat ≤ 2 ^ 24 := by
  refine cut_le ?_
  rw [← pow_add]
  exact (lt_of_target least).le

/-- A mantissa of no more than 24 digits stays as it is, and the least one with more digits is
shifted once more. -/
theorem fits_shift {rounded : ℕ} {place : ℤ} (most : rounded ≤ 2 ^ 24) (least : -149 ≤ place)
    (full : place ≠ -149 → 2 ^ 23 ≤ rounded) :
    let places := (target rounded place - place).toNat
    Fits (rounded / 2 ^ places) (place + places) ∧
      ((rounded / 2 ^ places : ℕ) * 2 ^ (place + places) : ℚ) = rounded * 2 ^ place := by
  intro places
  rcases most.lt_or_eq with less | rfl
  · have digits : rounded.log2 < 24 ∨ rounded = 0 := by
      by_cases zero : rounded = 0
      · exact .inr zero
      · exact .inl ((Nat.log2_lt zero).2 less)
    have none : places = 0 := by
      rcases digits with digits | rfl <;> simp only [places, target, Nat.log2_zero] <;> omega
    rw [none, pow_zero, Nat.div_one, Nat.cast_zero, add_zero]
    exact ⟨⟨less, least, full⟩, rfl⟩
  · have one : places = 1 := by
      simp only [places, target, Nat.log2_two_pow]
      omega
    rw [one, Nat.cast_one, zpow_add_one₀ two_ne_zero]
    exact ⟨⟨by norm_num, by omega, fun _ => by norm_num⟩, by push_cast; ring⟩

theorem shiftToTargetExponent_exact (mantissa : ℕ) (exponent : ℤ) :
    shiftToTargetExponent Format.binary32 mantissa exponent .exact =
      (ExtendedMantissa.ofMantissaAndAccuracy mantissa .exact >>>
        (target mantissa exponent - exponent).toNat,
        exponent + (target mantissa exponent - exponent).toNat) :=
  rfl

theorem roundWithAccuracy_eq (sign : UnpackedFloat.Sign)
    (least : exponent ≤ target mantissa exponent) :
    let rounded := cut mantissa (target mantissa exponent - exponent).toNat
    let places := (target rounded (target mantissa exponent) - target mantissa exponent).toNat
    roundWithAccuracy Format.binary32 sign mantissa exponent .exact =
      ofMantissa sign (rounded / 2 ^ places) (target mantissa exponent + places) := by
  intro rounded places
  have shifted := shiftToTargetExponent_exact mantissa exponent
  rw [Int.toNat_of_nonneg (by omega), add_sub_cancel] at shifted
  unfold roundWithAccuracy
  rw [shifted]
  dsimp only
  rw [shiftToTargetExponent_exact, ← (shiftRight_exact rounded places).1]
  rfl

theorem exists_roundWithAccuracy (sign : UnpackedFloat.Sign) (positive : 0 < mantissa)
    (least : exponent ≤ target mantissa exponent) :
    ∃ (rounded : ℕ) (place : ℤ), Fits rounded place ∧
      roundWithAccuracy Format.binary32 sign mantissa exponent .exact =
        ofMantissa sign rounded place ∧
      Neighbors (mantissa * 2 ^ exponent) (rounded * 2 ^ place) := by
  obtain ⟨fits, same⟩ := fits_shift (cut_le_of_target least) (le_max_right _ _)
    (le_cut_of_target positive least)
  exact ⟨_, _, fits, roundWithAccuracy_eq sign least, same ▸ neighbors_cut positive least⟩

theorem log2_mul_two_pow (positive : 0 < mantissa) (places : ℕ) :
    (mantissa * 2 ^ places).log2 = mantissa.log2 + places := by
  refine (Nat.log2_eq_iff (by positivity)).2 ⟨?_, ?_⟩
  · rw [pow_add]
    exact Nat.mul_le_mul_right _ (Nat.log2_self_le positive.ne')
  · rw [add_right_comm, pow_add]
    exact Nat.mul_lt_mul_of_pos_right Nat.lt_log2_self (by positivity)

theorem exists_round (sign : UnpackedFloat.Sign) (positive : 0 < mantissa) :
    ∃ (rounded : ℕ) (place : ℤ), Fits rounded place ∧
      round Format.binary32 sign mantissa exponent = ofMantissa sign rounded place ∧
      Neighbors (mantissa * 2 ^ exponent) (rounded * 2 ^ place) := by
  -- The exponent is first decreased to the target, which leaves the target as it is.
  let more := (exponent - target mantissa exponent).toNat
  have rounds : round Format.binary32 sign mantissa exponent =
      roundWithAccuracy Format.binary32 sign (mantissa * 2 ^ more) (exponent - more) .exact := by
    rw [← Nat.shiftLeft_eq]
    rfl
  have same : (mantissa * 2 ^ more : ℕ) *
      (2 : ℚ) ^ (exponent - more) = mantissa * 2 ^ exponent := by
    rw [zpow_sub₀ two_ne_zero, zpow_natCast]
    push_cast
    field_simp
  have target_eq : target (mantissa * 2 ^ more) (exponent - more) = target mantissa exponent := by
    rw [target, log2_mul_two_pow positive, target]
    push_cast
    congr 1
    ring
  rw [← same, rounds]
  exact exists_roundWithAccuracy sign (by positivity) (by rw [target_eq]; omega)

/-! ## Packing -/

/-- The value that is read back after a value has been packed. -/
def restored (value : UnpackedFloat) : UnpackedFloat :=
  UnpackedFloat.unpack Format.binary32 (UnpackedFloat.pack Format.binary32 value)

@[simp]
theorem restored_notANumber : restored .notANumber = .notANumber :=
  unpack_packedNaN

@[simp]
theorem restored_zero (sign : UnpackedFloat.Sign) : restored (.zero sign) = .zero sign :=
  unpack_packedZero

theorem ofMantissa_of_pos (sign : UnpackedFloat.Sign) (exponent : ℤ) (positive : 0 < mantissa) :
    ofMantissa sign mantissa exponent = .finite sign mantissa exponent positive :=
  dif_neg positive.ne'

theorem unpack_packComponents (sign : UnpackedFloat.Sign) (exponent : BitVec 8)
    (digits : BitVec 23) :
    UnpackedFloat.unpack Format.binary32 (packComponents Format.binary32 sign exponent digits) =
      if exponent = -1#8 then if digits = 0#23 then .infinity sign else .notANumber
      else if exponent = 0#8 then ofMantissa sign digits.toNat (-149)
      else ofMantissa sign (2 ^ 23 + digits.toNat) (exponent.toNat - 150) := by
  unfold UnpackedFloat.unpack
  simp only [unpackExponent_packComponents, unpackMantissa_packComponents,
    unpackSign_packComponents, Sign.ofBitVec_toBitVec]
  split_ifs with all empty least empty
  · rfl
  · rfl
  · rw [empty]
    rfl
  · rw [ofMantissa_of_pos _ _ ((BitVec.toNat_pos _).2 ((BitVec.pos_iff_ne_zero _).2 empty))]
    congr 1
    rw [least]
    rfl
  · rw [ofMantissa_of_pos _ _ (by omega)]
    congr 1
    rw [BitVec.toNat_append, ← Nat.shiftLeft_add_eq_or_of_lt digits.isLt]
    rfl

theorem pack_finite (sign : UnpackedFloat.Sign) (exponent : ℤ) (positive : 0 < mantissa) :
    UnpackedFloat.pack Format.binary32 (.finite sign mantissa exponent positive) =
      if 2 ^ 8 ≤ (exponent + 127 + 23).toNat + 1 then packedInfinity Format.binary32 sign
      else if mantissa.log2 + 1 = 24 then
        packComponents Format.binary32 sign (BitVec.ofNat 8 (exponent + 127 + 23).toNat)
          (BitVec.ofNat 23 mantissa)
      else packComponents Format.binary32 sign 0#8 (BitVec.ofNat 23 mantissa) :=
  rfl

@[simp]
theorem restored_infinity (sign : UnpackedFloat.Sign) :
    restored (.infinity sign) = .infinity sign := by
  refine (unpack_packComponents sign (-1#8) 0#23).trans ?_
  rw [if_pos rfl, if_pos rfl]

theorem restored_of_le (sign : UnpackedFloat.Sign) (fits : Fits mantissa exponent)
    (most : exponent ≤ 104) : restored (ofMantissa sign mantissa exponent) =
      ofMantissa sign mantissa exponent := by
  rcases Nat.eq_zero_or_pos mantissa with rfl | positive
  · exact restored_zero sign
  have least := fits.least
  have lt := fits.lt
  have field : (BitVec.ofNat 8 (exponent + 127 + 23).toNat).toNat = (exponent + 150).toNat := by
    rw [BitVec.toNat_ofNat]
    omega
  have digits : (BitVec.ofNat 23 mantissa).toNat = mantissa % 2 ^ 23 := BitVec.toNat_ofNat _ _
  unfold restored
  rw [ofMantissa_of_pos _ _ positive, pack_finite, if_neg (by omega)]
  split_ifs with full
  · rw [unpack_packComponents, if_neg, if_neg, field, digits, ← ofMantissa_of_pos]
    · have least : 2 ^ 23 ≤ mantissa := by
        rw [← (show mantissa.log2 = 23 by omega)]
        exact Nat.log2_self_le positive.ne'
      congr 1 <;> omega
    all_goals
      intro same
      have same := congrArg BitVec.toNat same
      rw [field] at same
      simp at same
      omega
  · have less : mantissa < 2 ^ 23 := by
      have := (Nat.log2_lt positive.ne').2 lt
      exact (Nat.log2_lt positive.ne').1 (by omega)
    have place : exponent = -149 := by
      by_contra more
      exact absurd (fits.full more) (by omega)
    rw [unpack_packComponents, if_neg (by decide), if_pos rfl, digits, Nat.mod_eq_of_lt less,
      ofMantissa_of_pos _ _ positive, place]

theorem restored_of_lt (sign : UnpackedFloat.Sign) (fits : Fits mantissa exponent)
    (more : 104 < exponent) : restored (ofMantissa sign mantissa exponent) = .infinity sign := by
  have full := fits.full (by omega)
  rw [ofMantissa_of_pos _ _ (by omega), restored, pack_finite, if_pos (by omega)]
  exact restored_infinity sign

theorem place_ofMantissa (sign : UnpackedFloat.Sign) (mantissa : ℕ) (exponent : ℤ) :
    place (ofMantissa sign mantissa exponent) = signed sign (mantissa * 2 ^ exponent) := by
  unfold ofMantissa
  split_ifs with zero
  · cases sign <;> simp [place, signed, zero]
  · rfl

/-- A value that is too great for a coordinate is packed as infinity. -/
theorem place_restored (sign : UnpackedFloat.Sign) (fits : Fits mantissa exponent) :
    place (restored (ofMantissa sign mantissa exponent)) =
      signed sign (min (mantissa * 2 ^ exponent) (2 ^ 128)) := by
  rcases le_or_gt exponent 104 with most | more
  · rw [restored_of_le sign fits most, place_ofMantissa,
      min_eq_left (magnitude_lt_infinity fits most).le]
  · have full : (2 ^ 23 : ℚ) ≤ mantissa := by exact_mod_cast fits.full (by omega)
    have great : (2 ^ 128 : ℚ) ≤ mantissa * 2 ^ exponent := by
      calc (2 ^ 128 : ℚ) = 2 ^ 23 * 2 ^ (105 : ℤ) := by norm_num
        _ ≤ mantissa * 2 ^ exponent := by
            gcongr
            · norm_num
            · omega
    rw [restored_of_lt sign fits more, min_eq_right great]
    rfl

/-! ## Rounding across no coordinate -/

variable {value other : UnpackedFloat}

/-- A coordinate is packed as it is. -/
theorem restored_eq (of : IsCoordinate value) : restored value = value := by
  cases value with
  | notANumber => exact restored_notANumber
  | infinity sign => exact restored_infinity sign
  | zero sign => exact restored_zero sign
  | finite sign mantissa exponent positive =>
    rw [← ofMantissa_of_pos]
    exact restored_of_le sign of.1 of.2

theorem signed_neg (sign : UnpackedFloat.Sign) (number : ℚ) :
    signed (-sign) number = -signed sign number := by
  cases sign with
  | negative => exact (neg_neg number).symm
  | positive => rfl

theorem place_neg (value : UnpackedFloat) : place value.neg = -place value := by
  cases value with
  | notANumber | zero => exact neg_zero.symm
  | infinity | finite => exact signed_neg _ _

/-- Every place of a coordinate that is a number is one of 24 binary digits. -/
theorem exists_fits (of : IsCoordinate value) (number : value ≠ .notANumber) :
    ∃ (sign : UnpackedFloat.Sign) (mantissa : ℕ) (exponent : ℤ), Fits mantissa exponent ∧
      place value = signed sign (mantissa * 2 ^ exponent) ∧
      (mantissa * 2 ^ exponent : ℚ) ≤ 2 ^ 128 := by
  cases value with
  | notANumber => exact absurd rfl number
  | infinity sign =>
    have same : ((2 ^ 23 : ℕ) * 2 ^ (105 : ℤ) : ℚ) = 2 ^ 128 := by norm_num
    refine ⟨sign, 2 ^ 23, 105, ⟨by norm_num, by norm_num, fun _ => le_rfl⟩, ?_, same.le⟩
    rw [same]
    rfl
  | zero sign =>
    refine ⟨.positive, 0, -149, ⟨by norm_num, le_rfl, fun more => absurd rfl more⟩, ?_, by simp⟩
    simp [place, signed]
  | finite sign mantissa exponent positive =>
    exact ⟨sign, mantissa, exponent, of.1, rfl, (magnitude_lt_infinity of.1 of.2).le⟩

/-- No coordinate lies strictly between the two numbers, whatever their signs. -/
def Uncrossed (number rounded : ℚ) : Prop :=
  ∀ value, IsCoordinate value → value ≠ .notANumber →
    (place value ≤ number → place value ≤ rounded) ∧ (number ≤ place value → rounded ≤ place value)

theorem Uncrossed.neg {number rounded : ℚ} (uncrossed : Uncrossed number rounded) :
    Uncrossed (-number) (-rounded) := by
  intro value of isNumber
  have of' : IsCoordinate value.neg := by cases value <;> exact of
  have isNumber' : value.neg ≠ .notANumber := by
    cases value with
    | notANumber => exact isNumber
    | infinity | zero | finite => simp [UnpackedFloat.neg]
  obtain ⟨below, above⟩ := uncrossed value.neg of' isNumber'
  rw [place_neg] at below above
  exact ⟨fun less => by linarith [above (by linarith)],
    fun less => by linarith [below (by linarith)]⟩

theorem Neighbors.uncrossed {number rounded : ℚ} (neighbors : Neighbors number rounded)
    (nonneg : 0 ≤ number) : Uncrossed number (min rounded (2 ^ 128)) := by
  intro value of isNumber
  have zero := neighbors 0 (-149) ⟨by norm_num, le_rfl, fun more => absurd rfl more⟩
  rw [Nat.cast_zero, zero_mul] at zero
  obtain ⟨sign, mantissa, exponent, fits, same, most⟩ := exists_fits of isNumber
  have magnitude : (0 : ℚ) ≤ mantissa * 2 ^ exponent := by positivity
  obtain ⟨below, above⟩ := neighbors mantissa exponent fits
  rw [same]
  cases sign with
  | positive =>
    exact ⟨fun less => le_min (below less) most, fun less => (min_le_left _ _).trans (above less)⟩
  | negative =>
    refine ⟨fun _ => ?_, fun less => ?_⟩
    · exact (neg_nonpos.2 magnitude).trans (le_min (zero.1 nonneg) (by positivity))
    · -- A number that is no less than zero and no greater than its opposite is zero.
      simp only [signed] at less ⊢
      have none : (mantissa * 2 ^ exponent : ℚ) = 0 := by linarith
      rw [none, neg_zero]
      exact (min_le_left _ _).trans (zero.2 (by linarith))

theorem Uncrossed.signed {number rounded : ℚ} (sign : UnpackedFloat.Sign)
    (uncrossed : Uncrossed number rounded) :
    Uncrossed (signed sign number) (signed sign rounded) := by
  cases sign with
  | positive => exact uncrossed
  | negative => exact uncrossed.neg

theorem uncrossed_round (sign : UnpackedFloat.Sign) (positive : 0 < mantissa) :
    Uncrossed (signed sign (mantissa * 2 ^ exponent))
      (place (restored (round Format.binary32 sign mantissa exponent))) := by
  obtain ⟨rounded, place, fits, rounds, neighbors⟩ := exists_round sign positive
  rw [rounds, place_restored sign fits]
  exact (neighbors.uncrossed (by positivity)).signed sign

theorem uncrossed_normalize (mantissa exponent : ℤ) (sign : UnpackedFloat.Sign) :
    Uncrossed (mantissa * 2 ^ exponent)
      (place (restored (normalize Format.binary32 mantissa exponent sign))) := by
  unfold UnpackedFloat.normalize
  split
  · next less =>
    have less : mantissa < 0 := compare_lt_iff_lt.1 less
    obtain ⟨count, rfl⟩ : ∃ count : ℕ, mantissa = -count := ⟨mantissa.natAbs, by omega⟩
    convert uncrossed_round .negative (by omega : 0 < (- -(count : ℤ)).toNat) using 1
    simp [signed]
  · next same =>
    rw [compare_eq_iff_eq.1 same, restored_zero, Int.cast_zero, zero_mul]
    exact fun _ _ _ => ⟨id, id⟩
  · next more =>
    have more : 0 < mantissa := compare_gt_iff_gt.1 more
    obtain ⟨count, rfl⟩ := Int.eq_ofNat_of_zero_le more.le
    convert uncrossed_round .positive (by omega : 0 < (count : ℤ).toNat) using 1
    simp [signed]

end PartsList.Coordinate
