import CloudSearch.Proofs.Double.Value

/-!
# Arithmetic of doubles

Products, quotients, sums and differences are computed with integers and two bits that stand for what
was cut off. Those bits are enough to round by (`Shows.roundedMantissa`), and shifting more of the
mantissa off keeps them so. Each operation therefore comes down to the one on rational numbers,
followed by `rounded` (`toRat_mul`, `toRat_div`, `toRat_add`, `toRat_sub`); the same goes for words
(`toRat_toFloat`, `toNat_toUInt64`).
-/

namespace CloudSearch.Double

open Float.Model Float.Model.UnpackedFloat

/-! ## Rounding by bits -/

/-- The mantissa is the whole part of a number; the two bits tell how the number compares to that and
a half. -/
structure Shows (em : ExtendedMantissa) (x : ℚ) : Prop where
  whole : em.mantissa ≤ x ∧ x < em.mantissa + 1
  round : em.roundBit = true ↔ em.mantissa + 1 / 2 ≤ x
  sticky : em.stickyBit = true ↔ x ≠ em.mantissa ∧ x ≠ em.mantissa + 1 / 2

theorem Shows.exact (m : ℕ) : Shows (.ofMantissaAndAccuracy m .exact) m where
  whole := ⟨le_rfl, lt_add_one _⟩
  round := by simp [ExtendedMantissa.ofMantissaAndAccuracy]
  sticky := by simp [ExtendedMantissa.ofMantissaAndAccuracy]

/-- What division leaves tells how the quotient compares to its whole part and a half. -/
theorem Shows.quotient (n : ℕ) {d : ℕ} (positive : 0 < d) :
    Shows (.ofMantissaAndAccuracy (n / d) (accuracyOfFraction (n % d) d)) (n / d) := by
  have positive' : (0 : ℚ) < d := by exact_mod_cast positive
  obtain ⟨rest, rest_eq⟩ : ∃ rest : ℚ, rest = (n % d : ℕ) / d := ⟨_, rfl⟩
  have split : (n : ℚ) / d = (n / d : ℕ) + rest := by
    rw [rest_eq, eq_comm, eq_div_iff positive'.ne', add_mul, div_mul_cancel₀ _ positive'.ne']
    exact_mod_cast Nat.div_add_mod' n d
  have rest_lt : rest < 1 := by
    rw [rest_eq, div_lt_one positive']
    exact_mod_cast Nat.mod_lt n positive
  have twice_eq : 2 * rest * d = (2 * (n % d) : ℕ) := by
    rw [rest_eq, mul_assoc, div_mul_cancel₀ _ positive'.ne']
    push_cast
    rfl
  rw [split]
  unfold accuracyOfFraction
  split_ifs with none
  · rw [rest_eq, none, Nat.cast_zero, zero_div, add_zero]
    exact .exact _
  have rest_pos : 0 < rest := by
    have : 0 < n % d := Nat.pos_of_ne_zero none
    rw [rest_eq]
    positivity
  rcases lt_trichotomy (2 * (n % d)) d with below | half | above
  · have : rest < 1 / 2 := by
      have : 2 * rest * d < 1 * d := by
        rw [twice_eq, one_mul]
        exact_mod_cast below
      linarith [lt_of_mul_lt_mul_right this positive'.le]
    rw [Nat.compare_eq_lt.2 below]
    constructor <;> simp only [ExtendedMantissa.ofMantissaAndAccuracy] <;> grind
  · have : rest = 1 / 2 := by
      have : 2 * rest * d = 1 * d := by rw [twice_eq, half, one_mul]
      linarith [mul_right_cancel₀ positive'.ne' this]
    rw [Nat.compare_eq_eq.2 half]
    constructor <;> simp only [ExtendedMantissa.ofMantissaAndAccuracy] <;> grind
  · have : 1 / 2 < rest := by
      have : 1 * d < 2 * rest * d := by
        rw [twice_eq, one_mul]
        exact_mod_cast above
      linarith [lt_of_mul_lt_mul_right this positive'.le]
    rw [Nat.compare_eq_gt.2 above]
    constructor <;> simp only [ExtendedMantissa.ofMantissaAndAccuracy] <;> grind

/-- A shift by one place halves the number. -/
theorem Shows.shiftRightOne {em : ExtendedMantissa} {x : ℚ} (h : Shows em x) :
    Shows em.shiftRightOne (x / 2) := by
  obtain ⟨whole, round, sticky⟩ := h
  have split : (em.mantissa : ℚ) = 2 * (em.mantissa / 2 : ℕ) + (em.mantissa % 2 : ℕ) := by
    exact_mod_cast (Nat.div_add_mod em.mantissa 2).symm
  rcases Nat.mod_two_eq_zero_or_one em.mantissa with even | odd
  · rw [even, Nat.cast_zero, add_zero] at split
    constructor <;> simp only [ExtendedMantissa.shiftRightOne, even, Bool.or_eq_true] <;> grind
  · rw [odd, Nat.cast_one] at split
    constructor <;> simp only [ExtendedMantissa.shiftRightOne, odd, Bool.or_eq_true] <;> grind

theorem Shows.shiftRight {em : ExtendedMantissa} {x : ℚ} (h : Shows em x) (k : ℕ) :
    Shows (em >>> k) (x / 2 ^ k) := by
  induction k with
  | zero =>
    rw [pow_zero, div_one]
    exact h
  | succ k ih =>
    rw [pow_succ, ← div_div]
    exact ih.shiftRightOne

theorem Shows.floor {em : ExtendedMantissa} {x : ℚ} (h : Shows em x) : ⌊x⌋ = em.mantissa :=
  Int.floor_eq_iff.2 (by exact_mod_cast h.whole)

/-- The two bits are enough to round. -/
theorem Shows.roundedMantissa {em : ExtendedMantissa} {x : ℚ} (h : Shows em x) :
    (em.roundedMantissa : ℤ) = roundEven x := by
  have fract_eq : Int.fract x = x - em.mantissa := by
    rw [Int.fract, h.floor]
    rfl
  rw [roundEven, h.floor, fract_eq]
  obtain ⟨-, round, sticky⟩ := h
  obtain ⟨m, _ | _, _ | _⟩ := em
  · rw [if_pos (by grind)]
    rfl
  · rw [if_pos (by grind)]
    rfl
  · rw [if_neg (by grind), if_neg (by grind)]
    rfl
  · rw [if_neg (by grind), if_pos (by grind)]
    rfl

theorem log_mul_zpow {x : ℚ} (positive : 0 < x) (e : ℤ) :
    Int.log 2 (x * 2 ^ e) = Int.log 2 x + e := by
  have lower := Int.zpow_log_le_self one_lt_two positive
  have upper := Int.lt_zpow_succ_log_self one_lt_two x
  rw [Nat.cast_two] at lower upper
  apply le_antisymm
  · rw [← Int.lt_add_one_iff, ← Int.lt_zpow_iff_log_lt one_lt_two (by positivity), Nat.cast_two,
      add_right_comm, zpow_add₀ two_ne_zero]
    gcongr
  · rw [← Int.zpow_le_iff_le_log one_lt_two (by positivity), Nat.cast_two, zpow_add₀ two_ne_zero]
    gcongr

/-- The exponent is found with the whole part of the mantissa, unless it is too large already. -/
theorem exponentOf_eq {x : ℚ} {m : ℕ} {e : ℤ} (positive : 0 < x) (whole : m ≤ x ∧ x < m + 1)
    (low : e ≤ max (m.log2 + e - 52) (-1074)) :
    exponentOf (x * 2 ^ e) = max (m.log2 + e - 52) (-1074) := by
  unfold exponentOf
  rw [log_mul_zpow positive]
  rcases Nat.eq_zero_or_pos m with rfl | positive'
  · have log_neg : Int.log 2 x < 0 := by
      rw [← Int.lt_zpow_iff_log_lt one_lt_two positive, zpow_zero]
      simpa using whole.2
    rw [Nat.log2_zero] at low ⊢
    omega
  · have log_eq : Int.log 2 x = m.log2 := by
      have one_le : (1 : ℚ) ≤ x := (Nat.one_le_cast.2 positive').trans whole.1
      have floor_eq : ⌊x⌋₊ = m := (Nat.floor_eq_iff positive.le).2 whole
      rw [Int.log_of_one_le_right _ one_le, floor_eq, Nat.log2_eq_log_two]
    rw [log_eq]

/-- The first shift and the rounding after it make a mantissa of the rounded number, which is too long
by one bit at most. -/
theorem roundedMantissa_shiftToTargetExponent {m : ℕ} {e : ℤ} {accuracy : Accuracy} {x : ℚ}
    (positive : 0 < x) (shows : Shows (.ofMantissaAndAccuracy m accuracy) x)
    (low : e ≤ Format.binary64.targetExponent (totalExponent m e)) :
    ∃ em t, shiftToTargetExponent Format.binary64 m e accuracy = (em, t) ∧ -1074 ≤ t ∧
      (em.roundedMantissa : ℚ) * 2 ^ t = roundMagnitude (x * 2 ^ e) ∧
      em.roundedMantissa ≤ 2 ^ 53 ∧ (2 ^ 52 ≤ em.roundedMantissa ∨ t = -1074) := by
  have whole : (m : ℚ) ≤ x ∧ x < m + 1 := by
    have := shows.whole
    cases accuracy with
    | exact => exact this
    | inexact o => cases o <;> exact this
  have target_eq : exponentOf (x * 2 ^ e) = Format.binary64.targetExponent (totalExponent m e) := by
    rw [targetExponent_eq] at low ⊢
    exact exponentOf_eq positive whole low
  obtain ⟨t, t_eq⟩ : ∃ t, exponentOf (x * 2 ^ e) = t := ⟨_, rfl⟩
  rw [← target_eq, t_eq] at low
  have shift_eq : x / 2 ^ (t - e).toNat = x * 2 ^ e / 2 ^ t := by
    rw [← zpow_natCast, Int.toNat_of_nonneg (by omega), zpow_sub₀ two_ne_zero, div_div_eq_mul_div]
  have rounded_eq := (shows.shiftRight (t - e).toNat).roundedMantissa
  rw [shift_eq] at rounded_eq
  refine ⟨ExtendedMantissa.ofMantissaAndAccuracy m accuracy >>> (t - e).toNat, t, ?_, t_eq ▸ le_exponentOf _, ?_, ?_, ?_⟩
  · simp only [shiftToTargetExponent, ← target_eq, t_eq, shiftToExponent]
    rw [Int.toNat_of_nonneg (by omega), add_sub_cancel]
  · rw [roundMagnitude, t_eq, ← rounded_eq]
    rfl
  · zify
    rw [rounded_eq]
    refine roundEven_le ?_
    rw [← t_eq]
    exact_mod_cast (div_lt_of_exponentOf _).le
  · rw [or_iff_not_imp_right]
    intro above
    zify
    rw [rounded_eq]
    refine le_roundEven ?_
    rw [← t_eq] at above ⊢
    exact_mod_cast le_div_of_exponentOf (by positivity)
      (lt_of_le_of_ne (le_exponentOf _) (Ne.symm above))

/-- Mantissas of no more than 53 bits stay where they are. -/
theorem shiftToTargetExponent_of_short {m : ℕ} {e : ℤ} (short : m < 2 ^ 53) (least : -1074 ≤ e) :
    shiftToTargetExponent Format.binary64 m e .exact = (.ofMantissaAndAccuracy m .exact, e) := by
  have log_lt : m.log2 < 53 := by
    rcases Nat.eq_zero_or_pos m with rfl | positive
    · decide
    · exact (Nat.log2_lt positive.ne').2 short
  have unshifted : (max (m.log2 + e - 52) (-1074) - e).toNat = 0 := by omega
  simp only [shiftToTargetExponent, targetExponent_eq, shiftToExponent, unshifted]
  rw [Nat.cast_zero, add_zero]
  rfl

/-- A mantissa that has become too long is halved. -/
theorem shiftToTargetExponent_two_pow {e : ℤ} (least : -1074 ≤ e) :
    shiftToTargetExponent Format.binary64 (2 ^ 53) e .exact =
      (.ofMantissaAndAccuracy (2 ^ 52) .exact, e + 1) := by
  have shifted : (max ((2 ^ 53 : ℕ).log2 + e - 52) (-1074) - e).toNat = 1 := by
    rw [Nat.log2_two_pow]
    omega
  simp only [shiftToTargetExponent, targetExponent_eq, shiftToExponent, shifted]
  rfl

/-- The result is the number rounded to 53 bits, with the sign, and perhaps with an exponent that is
too large. -/
def IsRounding (u : UnpackedFloat) (s : Sign) (v : ℚ) : Prop :=
  (u = .zero s ∧ roundMagnitude v = 0) ∨
    ∃ m e positive, u = .finite s m e positive ∧ IsCanonical m e ∧ (m : ℚ) * 2 ^ e = roundMagnitude v

theorem roundWithAccuracy_of_shifts {s : Sign} {m : ℕ} {e t f : ℤ} {accuracy : Accuracy}
    {em fm : ExtendedMantissa} (first : shiftToTargetExponent Format.binary64 m e accuracy = (em, t))
    (second : shiftToTargetExponent Format.binary64 em.roundedMantissa t .exact = (fm, f)) :
    roundWithAccuracy Format.binary64 s m e accuracy =
      if none : fm.mantissa = 0 then .zero s
      else .finite s fm.mantissa f (Nat.pos_of_ne_zero none) := by
  unfold roundWithAccuracy
  rw [first]
  dsimp only
  rw [second]

/-- **Rounding by bits is rounding.** -/
theorem isRounding_roundWithAccuracy (s : Sign) {m : ℕ} {e : ℤ} {accuracy : Accuracy} {x : ℚ}
    (positive : 0 < x) (shows : Shows (.ofMantissaAndAccuracy m accuracy) x)
    (low : e ≤ Format.binary64.targetExponent (totalExponent m e)) :
    IsRounding (roundWithAccuracy Format.binary64 s m e accuracy) s (x * 2 ^ e) := by
  obtain ⟨em, t, first, least, value_eq, bound, full⟩ :=
    roundedMantissa_shiftToTargetExponent positive shows low
  rcases bound.lt_or_eq with short | carried
  · rw [roundWithAccuracy_of_shifts first (shiftToTargetExponent_of_short short least)]
    change IsRounding (if none : em.roundedMantissa = 0 then _ else _) s _
    by_cases none : em.roundedMantissa = 0
    · rw [dif_pos none]
      refine .inl ⟨rfl, ?_⟩
      rw [← value_eq, none, Nat.cast_zero, zero_mul]
    · rw [dif_neg none]
      exact .inr ⟨_, t, _, rfl, ⟨short, least, full⟩, value_eq⟩
  · rw [roundWithAccuracy_of_shifts first (carried ▸ shiftToTargetExponent_two_pow least)]
    refine .inr ⟨2 ^ 52, t + 1, by positivity, rfl, ⟨by norm_num, by omega, .inl le_rfl⟩, ?_⟩
    rw [← value_eq, carried, zpow_add_one₀ two_ne_zero]
    push_cast
    ring

/-! ## Packing -/

theorem rounded_signed (s : Sign) {v : ℚ} (nonneg : 0 ≤ v) :
    rounded (signed s v) = signed s (min infinite (roundMagnitude v)) := by
  have rounded_eq : rounded v = min infinite (roundMagnitude v) := by
    rw [rounded, if_neg (by linarith)]
  cases s with
  | negative => rw [signed, signed, rounded_neg, rounded_eq]
  | positive => exact rounded_eq

theorem unpack_pack_zero (s : Sign) : (Float.Model.pack (.zero s)).unpack = .zero s := by
  cases s <;> rfl

theorem unpack_pack_infinity (s : Sign) :
    (Float.Model.pack (.infinity s)).unpack = .infinity s := by
  cases s <;> rfl

/-- Numbers with too large an exponent are as large as infinity. -/
theorem IsCanonical.infinite_le {m : ℕ} {e : ℤ} (h : IsCanonical m e) (large : ¬e ≤ 971) :
    infinite ≤ m * 2 ^ e := by
  have full : 2 ^ 52 ≤ m := h.full.resolve_right (by omega)
  calc infinite ≤ 2 ^ (52 + e) := zpow_le_zpow_right₀ one_le_two (by omega)
    _ = 2 ^ (52 : ℤ) * 2 ^ e := zpow_add₀ two_ne_zero _ _
    _ ≤ m * 2 ^ e := by
      gcongr
      exact_mod_cast full

/-- The result is the number, sign and all, rounded to 53 bits. -/
def RoundsTo (u : UnpackedFloat) (q : ℚ) : Prop :=
  ∃ s v, 0 ≤ v ∧ q = signed s v ∧ IsRounding u s v

@[simp] theorem signed_zero (s : Sign) : signed s 0 = 0 := by
  cases s
  · exact neg_zero
  · rfl

theorem roundsTo_zero (s : Sign) : RoundsTo (.zero s) 0 :=
  ⟨s, 0, le_rfl, (signed_zero s).symm, .inl ⟨rfl, roundMagnitude_zero⟩⟩

theorem IsCanonical.roundsTo {s : Sign} {m : ℕ} {e : ℤ} {positive : 0 < m} (h : IsCanonical m e) :
    RoundsTo (.finite s m e positive) (value (.finite s m e positive)) :=
  ⟨s, m * 2 ^ e, by positivity, rfl,
    .inr ⟨m, e, positive, rfl, h, (roundMagnitude_natCast_mul h.short h.least).symm⟩⟩

/-- **What is packed is rounded**, range included. -/
theorem RoundsTo.toRat_pack {u : UnpackedFloat} {q : ℚ} (h : RoundsTo u q) :
    IsNumber (.ofModel (.pack u)) ∧ toRat (.ofModel (.pack u)) = rounded q := by
  change (Float.Model.pack u).unpack.isNaN = false ∧ value (Float.Model.pack u).unpack = _
  obtain ⟨s, v, nonneg, rfl, ⟨rfl, zero⟩ | ⟨m, e, positive, rfl, canonical, value_eq⟩⟩ := h
  · rw [rounded_signed s nonneg, unpack_pack_zero, zero, min_eq_right infinite_pos.le, signed_zero]
    exact ⟨rfl, rfl⟩
  · rw [rounded_signed s nonneg, unpack_pack_finite positive canonical, ← value_eq]
    split_ifs with most
    · have held : IsHeld m e := ⟨canonical, most⟩
      rw [min_eq_right held.lt_infinite.le]
      exact ⟨rfl, rfl⟩
    · rw [min_eq_left (canonical.infinite_le most)]
      exact ⟨rfl, rfl⟩

/-! ## Finite doubles -/

theorem isFinite_cases {x : Float} (finite : x.isFinite = true) :
    (∃ s, x.toModel.unpack = .zero s) ∨
      ∃ s m e positive, x.toModel.unpack = .finite s m e positive ∧ IsHeld m e := by
  change x.toModel.unpack.isFinite = true at finite
  cases read : x.toModel.unpack with
  | notANumber | infinity =>
    rw [read] at finite
    cases finite
  | zero s => exact .inl ⟨s, rfl⟩
  | finite s m e positive => exact .inr ⟨s, m, e, positive, rfl, isHeld_of_unpack read⟩

/-! ## Products -/

theorem signed_mul (s t : Sign) (v w : ℚ) : signed s v * signed t w = signed (s * t) (v * w) := by
  cases s <;> cases t
  · exact neg_mul_neg v w
  · exact neg_mul v w
  · exact mul_neg v w
  · rfl

theorem IsHeld.le_log2 {m : ℕ} {e : ℤ} (h : IsHeld m e) (above : e ≠ -1074) : 52 ≤ m.log2 := by
  have full : 2 ^ 52 ≤ m := h.full.resolve_right above
  exact (Nat.le_log2 (by omega)).2 full

/-- A product is not too long for its exponent unless both factors have the least exponent. -/
theorem add_le_targetExponent_mul {m n : ℕ} {e f : ℤ} (hm : IsHeld m e) (hn : IsHeld n f)
    (positive : 0 < m) (positive' : 0 < n) :
    e + f ≤ Format.binary64.targetExponent (totalExponent (m * n) (e + f)) := by
  have log_le (k : ℕ) (le : k ≤ m * n) (nonzero : k ≠ 0) : k.log2 ≤ (m * n).log2 :=
    (Nat.le_log2 (by positivity)).2 ((Nat.log2_self_le nonzero).trans le)
  rw [targetExponent_eq]
  by_cases least : e = -1074
  · by_cases least' : f = -1074
    · omega
    · have := log_le n (Nat.le_mul_of_pos_left n positive) positive'.ne'
      have := hn.le_log2 least'
      omega
  · have := log_le m (Nat.le_mul_of_pos_right m positive') positive.ne'
    have := hm.le_log2 least
    omega

theorem roundsTo_mul {u v : UnpackedFloat} (hu : Held u) (hv : Held v) (finite : u.isFinite = true)
    (finite' : v.isFinite = true) :
    RoundsTo (UnpackedFloat.mul Format.binary64 u v) (value u * value v) := by
  cases u with
  | notANumber | infinity => cases finite
  | zero s =>
    cases v with
    | notANumber | infinity => cases finite'
    | zero t | finite t =>
      rw [value, zero_mul]
      exact roundsTo_zero _
  | finite s m e positive =>
    cases v with
    | notANumber | infinity => cases finite'
    | zero t =>
      rw [value, value, mul_zero]
      exact roundsTo_zero _
    | finite t n f positive' =>
      refine ⟨s * t, (m * n : ℕ) * 2 ^ (e + f), by positivity, ?_, ?_⟩
      · rw [value, value, signed_mul, zpow_add₀ two_ne_zero]
        push_cast
        ring_nf
      · exact isRounding_roundWithAccuracy _ (by positivity) (.exact _)
          (add_le_targetExponent_mul hu hv positive positive')

/-- **The product of two doubles is the product of the numbers, rounded.** -/
theorem toRat_mul {x y : Float} (finite : x.isFinite = true) (finite' : y.isFinite = true) :
    IsNumber (x * y) ∧ toRat (x * y) = rounded (toRat x * toRat y) :=
  (roundsTo_mul (held_unpack _) (held_unpack _) finite finite').toRat_pack

/-! ## Quotients -/

theorem signed_div (s t : Sign) (v w : ℚ) : signed s v / signed t w = signed (s / t) (v / w) := by
  cases s <;> cases t
  · exact neg_div_neg_eq v w
  · exact neg_div w v
  · exact div_neg v
  · rfl

/-- The quotient has enough bits for the exponent that is chosen for it. -/
theorem le_targetExponent_div {m n k : ℕ} {g : ℤ} (positive : 0 < m) (positive' : 0 < n)
    (long : -1074 < g → n.log2 + 53 ≤ m.log2 + k) :
    g ≤ Format.binary64.targetExponent (totalExponent (m <<< k / n) g) := by
  rw [targetExponent_eq]
  by_cases above : -1074 < g
  case neg => omega
  have quotient_ge : 2 ^ 52 ≤ m <<< k / n := by
    rw [Nat.le_div_iff_mul_le positive', Nat.shiftLeft_eq]
    calc 2 ^ 52 * n ≤ 2 ^ 52 * 2 ^ (n.log2 + 1) := Nat.mul_le_mul_left _ Nat.lt_log2_self.le
      _ = 2 ^ (n.log2 + 53) := by ring
      _ ≤ 2 ^ (m.log2 + k) := Nat.pow_le_pow_right two_pos (long above)
      _ = 2 ^ m.log2 * 2 ^ k := pow_add ..
      _ ≤ m * 2 ^ k := Nat.mul_le_mul_right _ (Nat.log2_self_le positive.ne')
  have := (Nat.le_log2 (by omega)).2 quotient_ge
  omega

theorem targetExponent_eq_of_total (total : ℤ) :
    Format.binary64.targetExponent total = max (total - 53) (-1074) := by
  rw [Format.targetExponent, minExponent_eq]
  rfl

theorem roundsTo_div {u v : UnpackedFloat} (finite : u.isFinite = true) (finite' : v.isFinite = true)
    (nonzero : value v ≠ 0) : RoundsTo (UnpackedFloat.div Format.binary64 u v) (value u / value v) := by
  cases v with
  | notANumber | infinity => cases finite'
  | zero t => exact absurd rfl nonzero
  | finite t n f positive' =>
    cases u with
    | notANumber | infinity => cases finite
    | zero s =>
      rw [value, zero_div]
      exact roundsTo_zero _
    | finite s m e positive =>
      obtain ⟨g, g_eq⟩ : ∃ g, min (e - f) (Format.binary64.targetExponent
        (totalExponent m e - totalExponent n f)) = g := ⟨_, rfl⟩
      obtain ⟨k, k_eq⟩ : ∃ k, (e - f - g).toNat = k := ⟨_, rfl⟩
      have core : UnpackedFloat.div Format.binary64 (.finite s m e positive) (.finite t n f positive') =
          roundWithAccuracy Format.binary64 (s / t) (m <<< k / n) g
            (accuracyOfFraction (m <<< k % n) n) := by
        simp only [UnpackedFloat.div, divCore, g_eq, k_eq]
      rw [targetExponent_eq_of_total, totalExponent, totalExponent] at g_eq
      have long : -1074 < g → n.log2 + 53 ≤ m.log2 + k := by omega
      have shifted : 0 < m <<< k := Nat.shiftLeft_pos_iff.2 positive
      have rounding := isRounding_roundWithAccuracy (s / t) (x := (m <<< k : ℕ) / n) (by positivity)
        (.quotient _ positive') (le_targetExponent_div positive positive' long)
      rw [core]
      refine ⟨s / t, _, by positivity, ?_, rounding⟩
      rw [value, value, signed_div]
      congr 1
      have split : (2 : ℚ) ^ e = 2 ^ (k : ℤ) * 2 ^ g * 2 ^ f := by
        rw [← zpow_add₀ two_ne_zero, ← zpow_add₀ two_ne_zero]
        congr 1
        omega
      rw [Nat.shiftLeft_eq, split]
      push_cast
      rw [zpow_natCast]
      field_simp

/-- **The quotient of two doubles is the quotient of the numbers, rounded.** -/
theorem toRat_div {x y : Float} (finite : x.isFinite = true) (finite' : y.isFinite = true)
    (nonzero : toRat y ≠ 0) :
    IsNumber (x / y) ∧ toRat (x / y) = rounded (toRat x / toRat y) :=
  (roundsTo_div finite finite' nonzero).toRat_pack

/-! ## Sums -/

theorem signed_apply (s : Sign) (n : ℕ) : ((s.apply n : ℤ) : ℚ) = signed s n := by
  cases s
  · exact Int.cast_neg _
  · rfl

/-- A smaller exponent with a longer mantissa makes the same number. -/
theorem shiftLeft_mul_zpow (m k : ℕ) (e : ℤ) : ((m <<< k : ℕ) : ℚ) * 2 ^ (e - k) = m * 2 ^ e := by
  rw [Nat.shiftLeft_eq, zpow_sub₀ two_ne_zero, zpow_natCast]
  push_cast
  field_simp

/-- A mantissa that is too short for its exponent is lengthened before it is rounded. -/
theorem isRounding_round (s : Sign) {m : ℕ} (e : ℤ) (positive : 0 < m) :
    IsRounding (UnpackedFloat.round Format.binary64 s m e) s (m * 2 ^ e) := by
  obtain ⟨k, k_eq⟩ :
      ∃ k, (e - Format.binary64.targetExponent (totalExponent m e)).toNat = k := ⟨_, rfl⟩
  have longer : m.log2 + k ≤ (m <<< k).log2 := by
    rw [Nat.le_log2 (Nat.shiftLeft_pos_iff.2 positive).ne', Nat.shiftLeft_eq, pow_add]
    exact Nat.mul_le_mul_right _ (Nat.log2_self_le positive.ne')
  have low : e - k ≤ Format.binary64.targetExponent (totalExponent (m <<< k) (e - k)) := by
    rw [targetExponent_eq] at k_eq ⊢
    omega
  have shifted : 0 < m <<< k := Nat.shiftLeft_pos_iff.2 positive
  have unfolded : UnpackedFloat.round Format.binary64 s m e =
      roundWithAccuracy Format.binary64 s (m <<< k) (e - k) .exact := by
    simp only [UnpackedFloat.round, decreaseExponent, k_eq]
  rw [unfolded, ← shiftLeft_mul_zpow m k]
  exact isRounding_roundWithAccuracy s (by positivity) (.exact _) low

theorem roundsTo_normalize (z e : ℤ) :
    RoundsTo (UnpackedFloat.normalize Format.binary64 z e .positive) (z * 2 ^ e) := by
  unfold UnpackedFloat.normalize
  rcases lt_trichotomy z 0 with negative | rfl | positive
  · rw [compare_lt_iff_lt.2 negative]
    refine ⟨.negative, _, by positivity, ?_, isRounding_round .negative e (by omega)⟩
    rw [signed, ← neg_mul]
    congr 1
    exact_mod_cast (show z = -((-z).toNat : ℤ) by omega)
  · rw [compare_eq_iff_eq.2 rfl, Int.cast_zero, zero_mul]
    exact roundsTo_zero _
  · rw [compare_gt_iff_gt.2 positive]
    refine ⟨.positive, _, by positivity, ?_, isRounding_round .positive e (by omega)⟩
    rw [signed]
    congr 1
    exact_mod_cast (show z = (z.toNat : ℤ) by omega)

theorem signed_mul_right (s : Sign) (v w : ℚ) : signed s v * w = signed s (v * w) := by
  cases s
  · exact neg_mul v w
  · rfl

/-- With a smaller exponent for both, the mantissas are added as whole numbers. -/
theorem roundsTo_add {u v : UnpackedFloat} (hu : Held u) (hv : Held v) (finite : u.isFinite = true)
    (finite' : v.isFinite = true) :
    RoundsTo (UnpackedFloat.add Format.binary64 u v) (value u + value v) := by
  cases u with
  | notANumber | infinity => cases finite
  | zero s =>
    cases v with
    | notANumber | infinity => cases finite'
    | zero t =>
      rw [value, value, add_zero]
      cases s <;> cases t <;> exact roundsTo_zero _
    | finite t n f positive' =>
      rw [value, zero_add]
      exact hv.roundsTo
  | finite s m e positive =>
    cases v with
    | notANumber | infinity => cases finite'
    | zero t =>
      rw [add_comm, value, zero_add]
      exact hu.roundsTo
    | finite t n f positive' =>
      obtain ⟨j, j_eq⟩ : ∃ j, (e - min e f).toNat = j := ⟨_, rfl⟩
      obtain ⟨k, k_eq⟩ : ∃ k, (f - min e f).toNat = k := ⟨_, rfl⟩
      have unfolded : UnpackedFloat.add Format.binary64 (.finite s m e positive)
          (.finite t n f positive') = normalize Format.binary64
            (s.apply (m <<< j : ℕ) + t.apply (n <<< k : ℕ)) (min e f) .positive := by
        simp only [UnpackedFloat.add, decreaseExponent, j_eq, k_eq]
      have rounding := roundsTo_normalize (s.apply (m <<< j : ℕ) + t.apply (n <<< k : ℕ)) (min e f)
      rw [Int.cast_add, signed_apply, signed_apply, add_mul, signed_mul_right, signed_mul_right,
        show min e f = e - j by omega, shiftLeft_mul_zpow, show e - j = f - k by omega,
        shiftLeft_mul_zpow] at rounding
      rw [unfolded, show min e f = f - k by omega]
      exact rounding

/-- **The sum of two doubles is the sum of the numbers, rounded.** -/
theorem toRat_add {x y : Float} (finite : x.isFinite = true) (finite' : y.isFinite = true) :
    IsNumber (x + y) ∧ toRat (x + y) = rounded (toRat x + toRat y) :=
  (roundsTo_add (held_unpack _) (held_unpack _) finite finite').toRat_pack

theorem apply_neg (s : Sign) (n : ℤ) : (-s).apply n = -s.apply n := by
  cases s
  · exact (neg_neg n).symm
  · rfl

/-- The difference is the sum with the negated number. -/
theorem unpackedSub_eq_add_neg (u v : UnpackedFloat) :
    UnpackedFloat.sub Format.binary64 u v = UnpackedFloat.add Format.binary64 u v.neg := by
  cases u with
  | notANumber | infinity | zero => cases v <;> rfl
  | finite s m e positive =>
    cases v with
    | notANumber | infinity | zero => rfl
    | finite t n f positive' =>
      simp only [UnpackedFloat.sub, UnpackedFloat.neg, UnpackedFloat.add, apply_neg,
        ← sub_eq_add_neg]

theorem value_neg (u : UnpackedFloat) : value u.neg = -value u := by
  have signed_neg (s : Sign) (v : ℚ) : signed (-s) v = -signed s v := by
    cases s
    · exact (neg_neg v).symm
    · rfl
  cases u with
  | notANumber | zero => exact neg_zero.symm
  | infinity s => exact signed_neg s _
  | finite s m e positive => exact signed_neg s _

theorem held_neg {u : UnpackedFloat} (h : Held u) : Held u.neg := by
  cases u <;> exact h

theorem isFinite_neg {u : UnpackedFloat} : u.neg.isFinite = u.isFinite := by
  cases u <;> rfl

/-- **The difference of two doubles is the difference of the numbers, rounded.** -/
theorem toRat_sub {x y : Float} (finite : x.isFinite = true) (finite' : y.isFinite = true) :
    IsNumber (x - y) ∧ toRat (x - y) = rounded (toRat x - toRat y) := by
  have rounding := roundsTo_add (held_unpack x.toModel) (held_neg (held_unpack y.toModel)) finite
    (isFinite_neg.trans finite')
  rw [value_neg, ← sub_eq_add_neg, ← unpackedSub_eq_add_neg] at rounding
  exact rounding.toRat_pack

theorem unpack_pack_of_held {u : UnpackedFloat} (h : Held u) : (Float.Model.pack u).unpack = u := by
  cases u with
  | notANumber => rfl
  | infinity s => exact unpack_pack_infinity s
  | zero s => exact unpack_pack_zero s
  | finite s m e positive => rw [unpack_pack_finite positive h.toIsCanonical, if_pos h.most]

theorem toRat_neg {x : Float} (number : IsNumber x) : IsNumber (-x) ∧ toRat (-x) = -toRat x := by
  have read : (-x).toModel.unpack = x.toModel.unpack.neg :=
    unpack_pack_of_held (held_neg (held_unpack _))
  refine ⟨?_, ?_⟩
  · change (-x).toModel.unpack.isNaN = false
    change x.toModel.unpack.isNaN = false at number
    rw [read]
    cases seen : x.toModel.unpack with
    | notANumber =>
      rw [seen] at number
      cases number
    | infinity | zero | finite => rfl
  · rw [toRat, read, value_neg]
    rfl

/-! ## Whole numbers -/

/-- A word becomes the nearest double. -/
theorem toRat_toFloat (n : UInt64) : IsNumber n.toFloat ∧ toRat n.toFloat = rounded n.toNat := by
  have rounding := roundsTo_normalize n.toNat 0
  rw [zpow_zero, mul_one, Int.cast_natCast] at rounding
  exact rounding.toRat_pack

theorem roundToInt_eq (s : Sign) (m : ℕ) (e : ℤ) :
    roundToInt s m e = s.apply (⌊(m : ℚ) * 2 ^ e⌋₊ : ℕ) := by
  obtain ⟨j, j_eq⟩ : ∃ j, (e - 0).toNat = j := ⟨_, rfl⟩
  obtain ⟨k, k_eq⟩ : ∃ k, (0 - (e - j)).toNat = k := ⟨_, rfl⟩
  have shows := (Shows.exact (m <<< j)).shiftRight k
  have value_eq : ((m <<< j : ℕ) : ℚ) / 2 ^ k = m * 2 ^ e := by
    rw [← shiftLeft_mul_zpow m j, show e - j = -(k : ℤ) by omega, zpow_neg, zpow_natCast]
    rfl
  rw [value_eq] at shows
  have floor_eq := (Nat.floor_eq_iff (by positivity)).2 shows.whole
  simp only [roundToInt, decreaseExponent, j_eq, shiftToExponent, k_eq, floor_eq]

theorem toNat_ofNatClamp (n : ℕ) : (UInt64.ofNatClamp n).toNat = min n 18446744073709551615 := by
  unfold UInt64.ofNatClamp
  split
  next small =>
    change n = _
    change n < 18446744073709551616 at small
    omega
  next large =>
    change ¬n < 18446744073709551616 at large
    rw [min_eq_right (by omega)]
    rfl

/-- A double becomes the whole number towards zero, as far as words go. -/
theorem toNat_toUInt64 (x : Float) : x.toUInt64.toNat = min ⌊toRat x⌋₊ 18446744073709551615 := by
  change x.toModel.unpack.toUInt64.toNat = min ⌊value x.toModel.unpack⌋₊ _
  rw [UnpackedFloat.toUInt64, toNat_ofNatClamp]
  cases x.toModel.unpack with
  | notANumber | zero => simp [UnpackedFloat.toInt, value]
  | infinity s =>
    cases s with
    | negative =>
      rw [value, signed, Nat.floor_of_nonpos (by linarith [infinite_pos])]
      rfl
    | positive =>
      have beyond : 18446744073709551615 ≤ ⌊infinite⌋₊ := by
        refine Nat.le_floor ?_
        calc ((18446744073709551615 : ℕ) : ℚ) ≤ 2 ^ (64 : ℤ) := by norm_num
          _ ≤ infinite := zpow_le_zpow_right₀ one_le_two (by norm_num)
      rw [value, signed, min_eq_right beyond]
      rfl
  | finite s m e positive =>
    rw [UnpackedFloat.toInt, roundToInt_eq, value]
    cases s with
    | negative =>
      have floor_eq : ⌊-((m : ℚ) * 2 ^ e)⌋₊ = 0 :=
        Nat.floor_of_nonpos (by rw [neg_nonpos]; positivity)
      rw [signed, floor_eq, Sign.apply, Int.toNat_of_nonpos (by omega)]
    | positive => rfl

end CloudSearch.Double
