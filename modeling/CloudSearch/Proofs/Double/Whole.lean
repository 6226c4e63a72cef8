import CloudSearch.Decimal.Binary
import CloudSearch.Proofs.Double.Arithmetic

/-!
# Rounding doubles to whole numbers

`Decimal.nearestWhole` works on the bits of a double and goes through a word. It is the rounding of the
number that the double stands for, with a half away from zero (`toRat_nearestWhole`).
-/

namespace CloudSearch.Double

open Float.Model Float.Model.UnpackedFloat Decimal

/-! ## Mantissas and exponents off the bits -/

theorem fraction_eq (x : Float) :
    fraction x.toModel = x.toBits.toNat % 0x10000000000000 := by
  simp [fraction, unpackMantissa, Float.toBits]

theorem biased_eq (x : Float) :
    biased x.toModel = x.toBits.toNat / 0x10000000000000 % 0x800 := by
  simp [biased, unpackExponent, Float.toBits, Nat.shiftRight_eq_div_pow]

theorem ofBitVec_unpackSign (x : Float) :
    Sign.ofBitVec (@unpackSign Format.binary64 x.toModel.toBits.toBitVec) =
      if 0x8000000000000000 ≤ x.toBits.toNat then .negative else .positive := by
  have bit_eq : (@unpackSign Format.binary64 x.toModel.toBits.toBitVec).toNat =
      x.toBits.toNat / 0x8000000000000000 := by
    have := x.toBits.toNat_lt
    simp [unpackSign, Float.toBits, Nat.shiftRight_eq_div_pow] at *
    omega
  have := x.toBits.toNat_lt
  unfold Sign.ofBitVec
  split
  next unset =>
    rw [unset, BitVec.toNat_zero] at bit_eq
    rw [if_neg (by omega)]
  next set =>
    have ne_zero : (@unpackSign Format.binary64 x.toModel.toBits.toBitVec).toNat ≠ 0 :=
      fun same => set (BitVec.eq_of_toNat_eq same)
    rw [if_pos (by omega)]

theorem decide_negative_eq (x : Float) : decide (0x8000000000000000 ≤ x.toBits.toNat) =
    (Sign.ofBitVec (@unpackSign Format.binary64 x.toModel.toBits.toBitVec) == .negative) := by
  rw [ofBitVec_unpackSign]
  split
  next set => exact decide_eq_true set
  next unset => exact decide_eq_false unset

/-- Reading off the bits loses nothing of a finite double. -/
theorem toRat_eq_of_isFinite {x : Float} (finite : x.isFinite = true) :
    ∃ s m e, Binary.ofFloat x = ⟨s == .negative, m, e⟩ ∧ toRat x = signed s (m * 2 ^ e) ∧
      m < 2 ^ 53 := by
  unfold toRat
  rcases isFinite_cases finite with ⟨s, read⟩ | ⟨s, m, e, positive, read, held⟩
  · obtain ⟨sign_eq, zero, none⟩ := fields_of_unpack_zero read
    rw [biased_eq] at zero
    rw [fraction_eq] at none
    refine ⟨s, 0, -1074, ?_, by simp [read, value], by norm_num⟩
    simp only [Binary.ofFloat, decide_negative_eq, ← sign_eq, if_pos zero, none]
  · obtain ⟨sign_eq, fields⟩ := fields_of_unpack read
    rw [fraction_eq, biased_eq] at fields
    refine ⟨s, m, e, ?_, by rw [read, value], held.short⟩
    simp only [Binary.ofFloat, decide_negative_eq, ← sign_eq]
    rcases fields with ⟨zero, rfl, rfl⟩ | ⟨nonzero, -, rfl, rfl⟩
    · rw [if_pos zero, if_pos zero]
    · rw [if_neg (by omega), if_neg (by omega)]
      rfl

/-! ## Rounding -/

/-- The nearest whole number, and the one farther from zero of two that are equally near. -/
def roundAway (q : ℚ) : ℚ :=
  if q < 0 then -⌊-q + 1 / 2⌋₊ else ⌊q + 1 / 2⌋₊

theorem roundAway_mono {q r : ℚ} (h : q ≤ r) : roundAway q ≤ roundAway r := by
  unfold roundAway
  split_ifs with negative negative' negative'
  · rw [neg_le_neg_iff, Nat.cast_le]
    exact Nat.floor_mono (by linarith)
  · have : (0 : ℚ) ≤ ⌊-q + 1 / 2⌋₊ := by positivity
    have : (0 : ℚ) ≤ ⌊r + 1 / 2⌋₊ := by positivity
    linarith
  · linarith
  · rw [Nat.cast_le]
    exact Nat.floor_mono (by linarith)

theorem roundAway_signed (s : Sign) {v : ℚ} (nonneg : 0 ≤ v) :
    roundAway (signed s v) = signed s ⌊v + 1 / 2⌋₊ := by
  cases s with
  | positive => rw [signed, signed, roundAway, if_neg (by linarith)]
  | negative =>
    rcases nonneg.eq_or_lt with rfl | positive
    · norm_num [roundAway, signed]
    · rw [signed, signed, roundAway, if_pos (by linarith), neg_neg]

theorem isNumber_of_isFinite {x : Float} (finite : x.isFinite = true) : IsNumber x := by
  change x.toModel.unpack.isFinite = true at finite
  change x.toModel.unpack.isNaN = false
  cases read : x.toModel.unpack with
  | notANumber =>
    rw [read] at finite
    cases finite
  | infinity | zero | finite => rfl

/-- **Rounding to a whole number** goes by the number alone. -/
theorem toRat_nearestWhole {x : Float} (finite : x.isFinite = true) :
    IsNumber (nearestWhole x) ∧ toRat (nearestWhole x) = roundAway (toRat x) := by
  obtain ⟨s, m, e, bits_eq, value_eq, short⟩ := toRat_eq_of_isFinite finite
  rw [value_eq, roundAway_signed s (by positivity)]
  unfold nearestWhole
  simp only [bits_eq, finite, Bool.not_true, Bool.false_or, decide_eq_true_eq]
  split
  next whole =>
    have integral : (m : ℚ) * 2 ^ e = (m * 2 ^ e.toNat : ℕ) := by
      push_cast
      rw [← zpow_natCast, Int.toNat_of_nonneg whole]
    have floor_eq : ⌊((m * 2 ^ e.toNat : ℕ) : ℚ) + 1 / 2⌋₊ = m * 2 ^ e.toNat :=
      (Nat.floor_eq_iff (by positivity)).2 ⟨by linarith, by linarith⟩
    rw [value_eq, integral, floor_eq]
    exact ⟨isNumber_of_isFinite finite, rfl⟩
  next broken =>
    obtain ⟨unit, unit_eq⟩ : ∃ unit, Nat.pow 2 (-e).toNat = unit := ⟨_, rfl⟩
    have unit_ge : 2 ≤ unit := by
      rw [← unit_eq]
      exact Nat.pow_le_pow_right two_pos (show 1 ≤ (-e).toNat by omega)
    have unit_eq' : (2 : ℚ) ^ e = 1 / unit := by
      have cast_eq : (unit : ℚ) = 2 ^ ((-e).toNat : ℤ) := by
        rw [← unit_eq, zpow_natCast]
        exact Nat.cast_pow 2 _
      rw [cast_eq, Int.toNat_of_nonneg (by omega), zpow_neg, one_div, inv_inv]
    obtain ⟨n, n_eq⟩ : ∃ n, (2 * m + unit) / (2 * unit) = n := ⟨_, rfl⟩
    have floor_eq : ⌊(m : ℚ) * 2 ^ e + 1 / 2⌋₊ = n := by
      rw [← n_eq, ← Nat.floor_div_eq_div (K := ℚ), unit_eq']
      congr 1
      push_cast
      field_simp
    have n_lt : n < 2 ^ 53 := by
      rw [← n_eq]
      exact Nat.div_lt_of_lt_mul (by omega)
    have word_eq : (UInt64.ofNat n).toNat = n :=
      UInt64.toNat_ofNat_of_lt' (n_lt.trans (by norm_num))
    obtain ⟨number, float_eq⟩ := toRat_toFloat (UInt64.ofNat n)
    rw [word_eq, rounded_natCast n_lt] at float_eq
    rw [unit_eq, n_eq, floor_eq]
    cases s with
    | positive => exact ⟨number, float_eq⟩
    | negative =>
      obtain ⟨number', neg_eq⟩ := toRat_neg number
      exact ⟨number', neg_eq.trans (congrArg _ float_eq)⟩

end CloudSearch.Double
