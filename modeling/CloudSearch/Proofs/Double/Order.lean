import CloudSearch.Proofs.Double.Whole

/-!
# Arithmetic keeps the order of doubles

No operation with a fixed other operand turns the order of doubles around: each is monotone on rational
numbers, followed by `rounded`, and infinities stay what they are (`le_of_mono`). For a function made of
such operations, two evaluations on either side tell exactly which arguments give values within bounds
(`within_iff`), since there is nothing between a double and the next one (`Adjacent`).
-/

namespace CloudSearch.Double

open Float.Model Float.Model.UnpackedFloat Decimal

/-! ## Infinite doubles -/

theorem finite_or_infinite {x : Float} (number : IsNumber x) :
    x.isFinite = true ∨ ∃ s, x.toModel.unpack = .infinity s := by
  change x.toModel.unpack.isNaN = false at number
  change x.toModel.unpack.isFinite = true ∨ _
  cases read : x.toModel.unpack with
  | notANumber =>
    rw [read] at number
    cases number
  | infinity s => exact .inr ⟨s, rfl⟩
  | zero | finite => exact .inl rfl

theorem abs_toRat_lt {x : Float} (finite : x.isFinite = true) : |toRat x| < infinite := by
  have abs_signed (s : Sign) (v : ℚ) : |signed s v| = |v| := by
    cases s
    · exact abs_neg v
    · rfl
  unfold toRat
  rcases isFinite_cases finite with ⟨s, read⟩ | ⟨s, m, e, positive, read, held⟩
  · rw [read]
    simpa [value] using infinite_pos
  · rw [read, value, abs_signed, abs_of_nonneg (by positivity)]
    exact held.lt_infinite

theorem isNumber_of_finite {x : Float} {s : Sign} {m : ℕ} {e : ℤ} {positive : 0 < m}
    (read : x.toModel.unpack = .finite s m e positive) : IsNumber x := by
  change x.toModel.unpack.isNaN = false
  rw [read]
  rfl

theorem rounded_toRat {x : Float} (finite : x.isFinite = true) : rounded (toRat x) = toRat x := by
  have rounds : RoundsTo x.toModel.unpack (toRat x) := by
    unfold toRat
    rcases isFinite_cases finite with ⟨s, read⟩ | ⟨s, m, e, positive, read, held⟩
    · rw [read]
      exact roundsTo_zero s
    · rw [read]
      exact held.roundsTo
  refine rounds.toRat_pack.2.symm.trans ?_
  exact congrArg value (unpack_pack_of_held (held_unpack x.toModel))

theorem toRat_of_infinity {x : Float} {s : Sign} (read : x.toModel.unpack = .infinity s) :
    IsNumber x ∧ toRat x = signed s infinite := by
  refine ⟨?_, by rw [toRat, read, value]⟩
  change x.toModel.unpack.isNaN = false
  rw [read]
  rfl

theorem abs_toRat_le {x : Float} (number : IsNumber x) : |toRat x| ≤ infinite := by
  rcases finite_or_infinite number with finite | ⟨s, read⟩
  · exact (abs_toRat_lt finite).le
  · rw [(toRat_of_infinity read).2]
    cases s
    · rw [signed, abs_neg, abs_of_pos infinite_pos]
    · rw [signed, abs_of_pos infinite_pos]

theorem not_lt_self (x : Float) : ¬x < x := fun lt =>
  lt_irrefl _ (lt_iff.1 lt).2.2

theorem lt_or_le {x y : Float} (number : IsNumber x) (number' : IsNumber y) : x < y ∨ y ≤ x := by
  rw [lt_iff, le_iff]
  rcases lt_or_ge (toRat x) (toRat y) with below | above
  · exact .inl ⟨number, number', below⟩
  · exact .inr ⟨number', number, above⟩

theorem le_of_lt {x y : Float} (h : x < y) : x ≤ y := by
  obtain ⟨number, number', lt⟩ := lt_iff.1 h
  exact le_iff.2 ⟨number, number', lt.le⟩

theorem lt_of_lt_of_le {x y z : Float} (h : x < y) (h' : y ≤ z) : x < z := by
  obtain ⟨number, -, lt⟩ := lt_iff.1 h
  obtain ⟨-, number', le⟩ := le_iff.1 h'
  exact lt_iff.2 ⟨number, number', lt.trans_le le⟩

theorem lt_of_le_of_lt {x y z : Float} (h : x ≤ y) (h' : y < z) : x < z := by
  obtain ⟨number, -, le⟩ := le_iff.1 h
  obtain ⟨-, number', lt⟩ := lt_iff.1 h'
  exact lt_iff.2 ⟨number, number', le.trans_lt lt⟩

/-- What is between finite doubles is finite. -/
theorem isFinite_of_le_of_le {x lower upper : Float} (finite : lower.isFinite = true)
    (finite' : upper.isFinite = true) (h : lower ≤ x) (h' : x ≤ upper) : x.isFinite = true := by
  obtain ⟨-, number, le⟩ := le_iff.1 h
  obtain ⟨-, -, le'⟩ := le_iff.1 h'
  rcases finite_or_infinite number with finite_x | ⟨s, read⟩
  · exact finite_x
  · have bound := abs_lt.1 (abs_toRat_lt finite)
    have bound' := abs_lt.1 (abs_toRat_lt finite')
    rw [(toRat_of_infinity read).2] at le le'
    cases s <;> simp only [signed] at le le' <;> linarith

/-- What keeps the order of finite doubles and leaves infinite ones alone keeps the order. -/
theorem le_of_mono {f : Float → Float} {F : ℚ → ℚ} (mono : ∀ {q r}, q ≤ r → F q ≤ F r)
    (finite : ∀ x : Float, x.isFinite = true → IsNumber (f x) ∧ toRat (f x) = F (toRat x))
    (infinity : ∀ (x : Float) s, x.toModel.unpack = .infinity s →
      (f x).toModel.unpack = .infinity s) {x y : Float} (h : x ≤ y) : f x ≤ f y := by
  obtain ⟨number, number', le⟩ := le_iff.1 h
  have image {z : Float} (number : IsNumber z) : IsNumber (f z) := by
    rcases finite_or_infinite number with finite_z | ⟨s, read⟩
    · exact (finite z finite_z).1
    · exact (toRat_of_infinity (infinity z s read)).1
  refine le_iff.2 ⟨image number, image number', ?_⟩
  have range := abs_le.1 (abs_toRat_le (image number))
  have range' := abs_le.1 (abs_toRat_le (image number'))
  have infinite_pos := infinite_pos
  rcases finite_or_infinite number with finite_x | ⟨s, read⟩
  · have bound := abs_lt.1 (abs_toRat_lt finite_x)
    rcases finite_or_infinite number' with finite_y | ⟨t, read'⟩
    · rw [(finite x finite_x).2, (finite y finite_y).2]
      exact mono le
    · rw [(toRat_of_infinity read').2] at le
      rw [(toRat_of_infinity (infinity y t read')).2]
      cases t <;> simp only [signed] at le ⊢ <;> linarith
  · rw [(toRat_of_infinity read).2] at le
    rw [(toRat_of_infinity (infinity x s read)).2]
    cases s with
    | negative => exact range'.1
    | positive =>
      rcases finite_or_infinite number' with finite_y | ⟨t, read'⟩
      · have bound := abs_lt.1 (abs_toRat_lt finite_y)
        simp only [signed] at le
        linarith
      · rw [(toRat_of_infinity read').2] at le
        rw [(toRat_of_infinity (infinity y t read')).2]
        cases t <;> simp only [signed] at le ⊢ <;> linarith

/-! ## Arithmetic -/

theorem unpack_of_not_isNumber {x : Float} (undefined : ¬IsNumber x) :
    x.toModel.unpack = .notANumber :=
  isNaN_iff.1 (Bool.eq_true_of_not_eq_false undefined)

theorem unpack_ofModel_pack_infinity {u : UnpackedFloat} {s : Sign} (h : u = .infinity s) :
    (Float.ofModel (.pack u)).toModel.unpack = .infinity s := by
  rw [h]
  exact unpack_pack_infinity s

variable {x y c : Float}

theorem add_of_not_isNumber (undefined : ¬IsNumber x) (c : Float) :
    x + c = .ofModel (.pack .notANumber) := by
  change Float.ofModel (.pack (.add .binary64 x.toModel.unpack c.toModel.unpack)) = _
  rw [unpack_of_not_isNumber undefined]
  rfl

theorem mul_of_not_isNumber (undefined : ¬IsNumber x) (c : Float) :
    x * c = .ofModel (.pack .notANumber) := by
  change Float.ofModel (.pack (.mul .binary64 x.toModel.unpack c.toModel.unpack)) = _
  rw [unpack_of_not_isNumber undefined]
  rfl

/-- Adding keeps the order. -/
theorem add_le_add_right (h : x ≤ y) (finite : c.isFinite = true) : x + c ≤ y + c := by
  refine le_of_mono (F := fun q => rounded (q + toRat c)) (fun le => rounded_mono (by linarith))
    (fun z hz => toRat_add hz finite) (fun z s read => unpack_ofModel_pack_infinity ?_) h
  rw [read]
  rcases isFinite_cases finite with ⟨t, seen⟩ | ⟨t, n, f, positive, seen, -⟩ <;> rw [seen] <;> rfl

/-- Subtracting keeps the order. -/
theorem sub_le_sub_right (h : x ≤ y) (finite : c.isFinite = true) : x - c ≤ y - c := by
  refine le_of_mono (F := fun q => rounded (q - toRat c)) (fun le => rounded_mono (by linarith))
    (fun z hz => toRat_sub hz finite) (fun z s read => unpack_ofModel_pack_infinity ?_) h
  rw [read]
  rcases isFinite_cases finite with ⟨t, seen⟩ | ⟨t, n, f, positive, seen, -⟩ <;> rw [seen] <;> rfl

theorem unpack_of_infinite_of_nonneg {s : Sign} (read : c.toModel.unpack = .infinity s)
    (nonneg : 0 ≤ c) : c.toModel.unpack = .infinity .positive := by
  have le : 0 ≤ toRat c := (le_iff.1 nonneg).2.2
  rw [(toRat_of_infinity read).2] at le
  cases s with
  | negative =>
    rw [signed] at le
    linarith [infinite_pos]
  | positive => exact read

/-- Adding what is not negative makes no smaller. -/
theorem le_add_of_nonneg (finite : x.isFinite = true) (nonneg : 0 ≤ c) : x ≤ x + c := by
  have le : 0 ≤ toRat c := (le_iff.1 nonneg).2.2
  have number := isNumber_of_isFinite finite
  rcases finite_or_infinite (le_iff.1 nonneg).2.1 with finite' | ⟨s, read⟩
  · obtain ⟨number', sum_eq⟩ := toRat_add finite finite'
    refine le_iff.2 ⟨number, number', ?_⟩
    calc toRat x = rounded (toRat x) := (rounded_toRat finite).symm
      _ ≤ rounded (toRat x + toRat c) := rounded_mono (by linarith)
      _ = toRat (x + c) := sum_eq.symm
  · have sum_read : (x + c).toModel.unpack = .infinity .positive := by
      refine unpack_ofModel_pack_infinity ?_
      rw [unpack_of_infinite_of_nonneg read nonneg]
      rcases isFinite_cases finite with ⟨t, seen⟩ | ⟨t, n, f, positive, seen, -⟩ <;> rw [seen] <;> rfl
    obtain ⟨number', sum_eq⟩ := toRat_of_infinity sum_read
    refine le_iff.2 ⟨number, number', ?_⟩
    rw [sum_eq]
    exact (abs_lt.1 (abs_toRat_lt finite)).2.le

/-- Subtracting what is not negative makes no larger. -/
theorem sub_le_of_nonneg (finite : x.isFinite = true) (nonneg : 0 ≤ c) : x - c ≤ x := by
  have le : 0 ≤ toRat c := (le_iff.1 nonneg).2.2
  have number := isNumber_of_isFinite finite
  rcases finite_or_infinite (le_iff.1 nonneg).2.1 with finite' | ⟨s, read⟩
  · obtain ⟨number', difference_eq⟩ := toRat_sub finite finite'
    refine le_iff.2 ⟨number', number, ?_⟩
    calc toRat (x - c) = rounded (toRat x - toRat c) := difference_eq
      _ ≤ rounded (toRat x) := rounded_mono (by linarith)
      _ = toRat x := rounded_toRat finite
  · have difference_read : (x - c).toModel.unpack = .infinity .negative := by
      refine unpack_ofModel_pack_infinity ?_
      rw [unpack_of_infinite_of_nonneg read nonneg]
      rcases isFinite_cases finite with ⟨t, seen⟩ | ⟨t, n, f, positive, seen, -⟩ <;> rw [seen] <;> rfl
    obtain ⟨number', difference_eq⟩ := toRat_of_infinity difference_read
    refine le_iff.2 ⟨number', number, ?_⟩
    rw [difference_eq]
    exact (abs_lt.1 (abs_toRat_lt finite)).1.le

theorem toRat_pos (positive : 0 < c) : 0 < toRat c :=
  (lt_iff.1 positive).2.2

theorem unpack_of_pos (finite : c.isFinite = true) (above_zero : 0 < c) :
    ∃ n f above, c.toModel.unpack = .finite .positive n f above := by
  have positive := toRat_pos above_zero
  unfold toRat at positive
  rcases isFinite_cases finite with ⟨t, seen⟩ | ⟨t, n, f, above, seen, -⟩
  · rw [seen] at positive
    exact absurd positive (lt_irrefl 0)
  · cases t with
    | negative =>
      have : (0 : ℚ) ≤ n * 2 ^ f := by positivity
      rw [seen, value, signed] at positive
      linarith
    | positive => exact ⟨n, f, above, seen⟩

/-- Multiplying by a positive number keeps the order. -/
theorem mul_le_mul_right (h : x ≤ y) (finite : c.isFinite = true) (positive : 0 < c) :
    x * c ≤ y * c := by
  refine le_of_mono (F := fun q => rounded (q * toRat c))
    (fun le => rounded_mono (mul_le_mul_of_nonneg_right le (toRat_pos positive).le))
    (fun z hz => toRat_mul hz finite) (fun z s read => unpack_ofModel_pack_infinity ?_) h
  obtain ⟨n, f, above, seen⟩ := unpack_of_pos finite positive
  rw [read, seen]
  cases s <;> rfl

/-- Dividing by a positive number keeps the order. -/
theorem div_le_div_right (h : x ≤ y) (finite : c.isFinite = true) (positive : 0 < c) :
    x / c ≤ y / c := by
  refine le_of_mono (F := fun q => rounded (q / toRat c))
    (fun le => rounded_mono (div_le_div_of_nonneg_right le (toRat_pos positive).le))
    (fun z hz => toRat_div hz finite (toRat_pos positive).ne')
    (fun z s read => unpack_ofModel_pack_infinity ?_) h
  obtain ⟨n, f, above, seen⟩ := unpack_of_pos finite positive
  rw [read, seen]
  cases s <;> rfl

theorem sign_mul_comm (s t : Sign) : s * t = t * s := by
  cases s <;> cases t <;> rfl

theorem mul_comm (x y : Float) : x * y = y * x := by
  have unpacked (u v : UnpackedFloat) : UnpackedFloat.mul .binary64 u v = .mul .binary64 v u := by
    cases u <;> cases v <;>
      simp [UnpackedFloat.mul, sign_mul_comm, Nat.mul_comm, Int.add_comm]
  exact congrArg (fun u => Float.ofModel (.pack u)) (unpacked _ _)

theorem toRat_one_mul (finite : x.isFinite = true) :
    IsNumber (1 * x) ∧ toRat (1 * x) = toRat x := by
  have one : toRat 1 = 1 := by
    change signed .positive (4503599627370496 * 2 ^ (-52 : ℤ)) = 1
    norm_num [signed]
  obtain ⟨number, product_eq⟩ := toRat_mul (x := 1) rfl finite
  rw [one, one_mul, rounded_toRat finite] at product_eq
  exact ⟨number, product_eq⟩

/-- A part of a number that is not below one is positive, however small it is, and no larger than the
number. -/
theorem mul_pos_and_le (finite : x.isFinite = true) (one_le : 1 ≤ x) (positive : 0 < c)
    (le_one : c ≤ 1) : 0 < x * c ∧ x * c ≤ x := by
  have finite_c : c.isFinite = true :=
    isFinite_of_le_of_le rfl rfl (le_of_lt positive) le_one
  have zero_lt : 0 < x := lt_of_lt_of_le (by decide +kernel) one_le
  refine ⟨?_, ?_⟩
  · have unit := toRat_one_mul finite_c
    refine lt_of_lt_of_le (lt_iff.2 ⟨rfl, unit.1, ?_⟩) (mul_le_mul_right one_le finite_c positive)
    rw [unit.2]
    exact (lt_iff.1 positive).2.2
  · have unit := toRat_one_mul finite
    rw [mul_comm]
    refine le_trans (mul_le_mul_right le_one finite zero_lt) (le_iff.2 ⟨unit.1, ?_, unit.2.le⟩)
    exact isNumber_of_isFinite finite

/-- Zero has no other quotient. -/
theorem zero_div (finite : c.isFinite = true) (positive : 0 < c) : (0 : Float) / c = 0 := by
  obtain ⟨n, f, above, seen⟩ := unpack_of_pos finite positive
  change Float.ofModel (.pack (.div .binary64 (0 : Float).toModel.unpack c.toModel.unpack)) = 0
  rw [seen]
  rfl

/-! ## Rounding and words -/

/-- Rounding to whole numbers keeps the order. -/
theorem nearestWhole_le (h : x ≤ y) : nearestWhole x ≤ nearestWhole y := by
  refine le_of_mono roundAway_mono (fun z hz => toRat_nearestWhole hz) (fun z s read => ?_) h
  have infinite : z.isFinite = false := by
    change z.toModel.unpack.isFinite = false
    rw [read]
    rfl
  rw [nearestWhole, infinite]
  exact read

/-- Conversion to words keeps the order. -/
theorem toUInt64_le (h : x ≤ y) : x.toUInt64 ≤ y.toUInt64 := by
  rw [UInt64.le_iff_toNat_le, toNat_toUInt64, toNat_toUInt64]
  exact min_le_min_right _ (Nat.floor_mono (le_iff.1 h).2.2)

/-- Conversion from words keeps the order. -/
theorem toFloat_le {v w : UInt64} (h : v ≤ w) : v.toFloat ≤ w.toFloat := by
  obtain ⟨number, eq⟩ := toRat_toFloat v
  obtain ⟨number', eq'⟩ := toRat_toFloat w
  refine le_iff.2 ⟨number, number', ?_⟩
  rw [eq, eq']
  exact rounded_mono (Nat.cast_le.2 h)

/-! ## Neighbours -/

/-- No number that a double holds lies between two neighbouring ones. -/
theorem IsCanonical.le_of_lt_next {k m : ℕ} {g e : ℤ} (h : IsCanonical k g) (full : 2 ^ 52 ≤ m)
    (below : (k : ℚ) * 2 ^ g < (m + 1) * 2 ^ e) : (k : ℚ) * 2 ^ g ≤ m * 2 ^ e := by
  rcases lt_or_ge g e with smaller | larger
  · calc (k : ℚ) * 2 ^ g ≤ 2 ^ (53 + g) := h.lt_two_zpow.le
      _ ≤ 2 ^ (52 + e) := zpow_le_zpow_right₀ one_le_two (by omega)
      _ = 2 ^ (52 : ℤ) * 2 ^ e := zpow_add₀ two_ne_zero _ _
      _ ≤ m * 2 ^ e := by
        gcongr
        exact_mod_cast full
  · -- with the larger exponent the number is a whole multiple of the smaller power of two
    have multiple : (k : ℚ) * 2 ^ g = (k * 2 ^ (g - e).toNat : ℕ) * 2 ^ e := by
      push_cast
      rw [← zpow_natCast, Int.toNat_of_nonneg (by omega), mul_assoc, ← zpow_add₀ two_ne_zero,
        sub_add_cancel]
    rw [multiple] at below ⊢
    have fewer : ((k * 2 ^ (g - e).toNat : ℕ) : ℚ) < (m + 1 : ℕ) := by
      push_cast at below ⊢
      exact lt_of_mul_lt_mul_right below (by positivity)
    gcongr
    exact_mod_cast Nat.le_of_lt_succ (by exact_mod_cast fewer)

/-- A number that is below the larger of two neighbours, counted from zero on the side of the sign, is
at most the smaller one. -/
theorem signed_toRat_le_of_lt_next (s : Sign) {m : ℕ} {e : ℤ} (full : 2 ^ 52 ≤ m)
    (held : IsHeld (m + 1) e) (number : IsNumber x)
    (below : signed s (toRat x) < (m + 1) * 2 ^ e) : signed s (toRat x) ≤ m * 2 ^ e := by
  have nonneg : (0 : ℚ) ≤ m * 2 ^ e := by positivity
  have range := held.lt_infinite
  push_cast at range
  rcases finite_or_infinite number with finite | ⟨t, read⟩
  · unfold toRat at below ⊢
    rcases isFinite_cases finite with ⟨t, read⟩ | ⟨t, k, g, positive, read, held'⟩
    · rw [read, value, signed_zero]
      exact nonneg
    · rw [read, value] at below ⊢
      have : (0 : ℚ) ≤ k * 2 ^ g := by positivity
      cases s <;> cases t <;> simp only [signed, neg_neg] at below ⊢
      · exact held'.toIsCanonical.le_of_lt_next full below
      · linarith
      · linarith
      · exact held'.toIsCanonical.le_of_lt_next full below
  · rw [(toRat_of_infinity read).2] at below ⊢
    cases s <;> cases t <;> simp only [signed, neg_neg] at below ⊢ <;> linarith [infinite_pos]

/-- The second double is the next one after the first. -/
structure Adjacent (x y : Float) : Prop where
  lt : x < y
  le_or_le : ∀ z, IsNumber z → z ≤ x ∨ y ≤ z

section Neighbours

variable {a b : Float} {m : ℕ} {e : ℤ} {above above' : 0 < _}

/-- Positive doubles are neighbours where their mantissas are. -/
theorem adjacent_of_positive (full : 2 ^ 52 ≤ m)
    (ha : a.toModel.unpack = .finite .positive m e above)
    (hb : b.toModel.unpack = .finite .positive (m + 1) e above') : Adjacent a b := by
  have a_eq : toRat a = m * 2 ^ e := by
    rw [toRat, ha]
    rfl
  have b_eq : toRat b = (m + 1) * 2 ^ e := by
    rw [toRat, hb]
    push_cast [value, signed]
    rfl
  have step : (m : ℚ) * 2 ^ e < (m + 1) * 2 ^ e := by
    gcongr
    exact lt_add_one _
  refine ⟨lt_iff.2 ⟨isNumber_of_finite ha, isNumber_of_finite hb, by rwa [a_eq, b_eq]⟩, ?_⟩
  intro z number
  refine (lt_or_le number (isNumber_of_finite hb)).imp_left fun below => ?_
  have below := (lt_iff.1 below).2.2
  rw [b_eq] at below
  rw [le_iff, a_eq]
  exact ⟨number, isNumber_of_finite ha,
    signed_toRat_le_of_lt_next .positive full (isHeld_of_unpack hb) number below⟩

/-- So are negative ones, the other way round. -/
theorem adjacent_of_negative (full : 2 ^ 52 ≤ m)
    (ha : a.toModel.unpack = .finite .negative (m + 1) e above)
    (hb : b.toModel.unpack = .finite .negative m e above') : Adjacent a b := by
  have a_eq : toRat a = -((m + 1) * 2 ^ e) := by
    rw [toRat, ha]
    push_cast [value, signed]
    rfl
  have b_eq : toRat b = -(m * 2 ^ e) := by
    rw [toRat, hb]
    rfl
  have step : -((m + 1) * 2 ^ e) < (-(m * 2 ^ e) : ℚ) := by
    gcongr
    exact lt_add_one _
  refine ⟨lt_iff.2 ⟨isNumber_of_finite ha, isNumber_of_finite hb, by rwa [a_eq, b_eq]⟩, ?_⟩
  intro z number
  refine (lt_or_le (isNumber_of_finite ha) number).symm.imp_right fun beyond => ?_
  have beyond := (lt_iff.1 beyond).2.2
  rw [a_eq] at beyond
  rw [le_iff, b_eq]
  have le := signed_toRat_le_of_lt_next .negative full (isHeld_of_unpack ha) number
    (by rw [signed]; linarith)
  rw [signed] at le
  exact ⟨isNumber_of_finite hb, number, by linarith⟩

/-- **Two steps decide** where the values of a function that keeps the order are within bounds: the one
to the first argument with such a value, and the one from the last. -/
theorem within_iff {f : Float → Float} (mono : ∀ {x y}, x ≤ y → f x ≤ f y)
    {lower upper : Float} (undefined : ∀ {x}, ¬IsNumber x → ¬lower ≤ f x)
    {before first last after : Float} (start : Adjacent before first) (stop : Adjacent last after)
    (below : ¬lower ≤ f before) (lower_le : lower ≤ f first)
    (le_upper : f last ≤ upper) (above : ¬f after ≤ upper) (x : Float) :
    lower ≤ f x ∧ f x ≤ upper ↔ before < x ∧ x < after := by
  have number_before := (lt_iff.1 start.lt).1
  have number_after := (lt_iff.1 stop.lt).2.1
  constructor
  · rintro ⟨from_lower, to_upper⟩
    have number : IsNumber x := by_contra fun other => undefined other from_lower
    refine ⟨?_, ?_⟩
    · refine (lt_or_le number_before number).resolve_right fun le => below ?_
      exact le_trans from_lower (mono le)
    · refine (lt_or_le number number_after).resolve_right fun le => above ?_
      exact le_trans (mono le) to_upper
  · rintro ⟨from_before, to_after⟩
    have number : IsNumber x := (lt_iff.1 to_after).1
    refine ⟨?_, ?_⟩
    · refine le_trans lower_le (mono ((start.le_or_le x number).resolve_left fun le => ?_))
      exact not_lt_self _ (lt_of_le_of_lt le from_before)
    · refine le_trans (mono ((stop.le_or_le x number).resolve_right fun le => ?_)) le_upper
      exact not_lt_self _ (lt_of_lt_of_le to_after le)

end Neighbours

end CloudSearch.Double
