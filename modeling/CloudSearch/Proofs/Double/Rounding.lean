import Mathlib.Algebra.Order.Field.Power
import Mathlib.Data.Int.Log
import Mathlib.Data.Rat.Floor
import Mathlib.Tactic.Linarith
import Mathlib.Tactic.Positivity
import Mathlib.Tactic.Ring

/-!
# Rounding to a double

What a double cannot hold is rounded to one that it can: a whole number of up to 53 bits times a power
of two, but not one below the least exponent, and nothing beyond the range. `rounded` says this of
rational numbers, as the standard does and without a word about bits. It keeps small whole numbers
(`rounded_natCast`) and never turns the order around (`rounded_mono`).
-/

namespace CloudSearch.Double

/-! ## To whole numbers -/

/-- The nearest whole number, and the even one of two that are equally near. -/
def roundEven (x : ℚ) : ℤ :=
  if Int.fract x < 1 / 2 then ⌊x⌋
  else if 1 / 2 < Int.fract x then ⌊x⌋ + 1
  else ⌊x⌋ + ⌊x⌋ % 2

theorem floor_le_roundEven (x : ℚ) : ⌊x⌋ ≤ roundEven x := by
  unfold roundEven
  split_ifs <;> omega

theorem roundEven_le_floor_add_one (x : ℚ) : roundEven x ≤ ⌊x⌋ + 1 := by
  unfold roundEven
  split_ifs <;> omega

theorem roundEven_intCast (n : ℤ) : roundEven n = n := by
  unfold roundEven
  rw [Int.fract_intCast, if_pos (by norm_num), Int.floor_intCast]

theorem roundEven_mono {x y : ℚ} (h : x ≤ y) : roundEven x ≤ roundEven y := by
  rcases (Int.floor_le_floor h).lt_or_eq with below | same
  · calc roundEven x ≤ ⌊x⌋ + 1 := roundEven_le_floor_add_one x
      _ ≤ ⌊y⌋ := below
      _ ≤ roundEven y := floor_le_roundEven y
  · have fract_le : Int.fract x ≤ Int.fract y := by
      unfold Int.fract
      rw [same]
      linarith
    unfold roundEven
    rw [same]
    split_ifs <;> first | omega | linarith

theorem le_roundEven {n : ℤ} {x : ℚ} (h : (n : ℚ) ≤ x) : n ≤ roundEven x := by
  simpa only [roundEven_intCast] using roundEven_mono h

theorem roundEven_le {n : ℤ} {x : ℚ} (h : x ≤ n) : roundEven x ≤ n := by
  simpa only [roundEven_intCast] using roundEven_mono h

/-! ## To multiples of a power of two -/

/-- The exponent in which a positive number has 53 bits, but not one below the least. -/
def exponentOf (v : ℚ) : ℤ :=
  max (Int.log 2 v - 52) (-1074)

theorem le_exponentOf (v : ℚ) : -1074 ≤ exponentOf v :=
  le_max_right _ _

theorem exponentOf_mono {v w : ℚ} (positive : 0 < v) (h : v ≤ w) : exponentOf v ≤ exponentOf w :=
  max_le_max_right _ (sub_le_sub_right (Int.log_mono_right positive h) _)

/-- In its exponent a number has no more than 53 bits. -/
theorem div_lt_of_exponentOf (v : ℚ) :
    v / 2 ^ exponentOf v < 2 ^ (53 : ℤ) := by
  rw [div_lt_iff₀ (by positivity), ← zpow_add₀ two_ne_zero]
  calc v < 2 ^ (Int.log 2 v + 1) := Int.lt_zpow_succ_log_self one_lt_two v
    _ ≤ 2 ^ (53 + exponentOf v) := by
      refine zpow_le_zpow_right₀ one_le_two ?_
      have := le_max_left (Int.log 2 v - 52) (-1074)
      unfold exponentOf
      omega

/-- Above the least exponent it has no fewer. -/
theorem le_div_of_exponentOf {v : ℚ} (positive : 0 < v) (above : -1074 < exponentOf v) :
    2 ^ (52 : ℤ) ≤ v / 2 ^ exponentOf v := by
  have exponent_eq : exponentOf v = Int.log 2 v - 52 := by
    unfold exponentOf at above ⊢
    omega
  rw [le_div_iff₀ (by positivity), ← zpow_add₀ two_ne_zero, exponent_eq, add_sub_cancel]
  exact Int.zpow_log_le_self one_lt_two positive

/-- The nearest multiple of the power of two. -/
def roundMagnitude (v : ℚ) : ℚ :=
  roundEven (v / 2 ^ exponentOf v) * 2 ^ exponentOf v

theorem roundMagnitude_nonneg {v : ℚ} (nonneg : 0 ≤ v) : 0 ≤ roundMagnitude v := by
  have : 0 ≤ roundEven (v / 2 ^ exponentOf v) := le_roundEven (by push_cast; positivity)
  unfold roundMagnitude
  positivity

@[simp] theorem roundMagnitude_zero : roundMagnitude 0 = 0 := by
  rw [roundMagnitude, zero_div, show roundEven 0 = 0 from roundEven_intCast 0, Int.cast_zero, zero_mul]

theorem roundMagnitude_mono {v w : ℚ} (nonneg : 0 ≤ v) (h : v ≤ w) :
    roundMagnitude v ≤ roundMagnitude w := by
  rcases nonneg.eq_or_lt with rfl | positive
  · rw [roundMagnitude_zero]
    exact roundMagnitude_nonneg h
  rcases (exponentOf_mono positive h).lt_or_eq with below | same
  · -- a power of two lies between two numbers with different exponents
    have above : -1074 < exponentOf w := lt_of_le_of_lt (le_exponentOf v) below
    have upper : roundEven (v / 2 ^ exponentOf v) ≤ 2 ^ 53 :=
      roundEven_le (by exact_mod_cast (div_lt_of_exponentOf v).le)
    have lower : 2 ^ 52 ≤ roundEven (w / 2 ^ exponentOf w) :=
      le_roundEven (by exact_mod_cast le_div_of_exponentOf (positive.trans_le h) above)
    calc roundMagnitude v ≤ 2 ^ (53 : ℤ) * 2 ^ exponentOf v := by
          unfold roundMagnitude
          gcongr
          exact_mod_cast upper
      _ = 2 ^ (53 + exponentOf v) := (zpow_add₀ two_ne_zero _ _).symm
      _ ≤ 2 ^ (52 + exponentOf w) := zpow_le_zpow_right₀ one_le_two (by omega)
      _ = 2 ^ (52 : ℤ) * 2 ^ exponentOf w := zpow_add₀ two_ne_zero _ _
      _ ≤ roundMagnitude w := by
          unfold roundMagnitude
          gcongr
          exact_mod_cast lower
  · unfold roundMagnitude
    rw [same]
    gcongr
    exact roundEven_mono (by gcongr)

/-- What has 53 bits is not changed. -/
theorem roundMagnitude_natCast_mul {m : ℕ} {e : ℤ} (short : m < 2 ^ 53) (least : -1074 ≤ e) :
    roundMagnitude (m * 2 ^ e) = m * 2 ^ e := by
  rcases Nat.eq_zero_or_pos m with rfl | positive
  · simp
  have exponent_le : exponentOf (m * 2 ^ e) ≤ e := by
    have log_lt : Int.log 2 ((m : ℚ) * 2 ^ e) < 53 + e := by
      rw [← Int.lt_zpow_iff_log_lt one_lt_two (by positivity), Nat.cast_two, zpow_add₀ two_ne_zero]
      gcongr
      exact_mod_cast short
    unfold exponentOf
    omega
  have whole : (m : ℚ) * 2 ^ e / 2 ^ exponentOf (m * 2 ^ e) =
      ((m * 2 ^ (e - exponentOf (m * 2 ^ e)).toNat : ℤ) : ℚ) := by
    rw [mul_div_assoc, ← zpow_sub₀ two_ne_zero]
    push_cast
    rw [← zpow_natCast, Int.toNat_of_nonneg (by omega)]
  unfold roundMagnitude
  rw [whole, roundEven_intCast, ← whole, div_mul_cancel₀ _ (by positivity)]

/-! ## To doubles -/

/-- What stands for infinity: the first power of two that no double reaches. -/
def infinite : ℚ :=
  2 ^ (1024 : ℤ)

theorem infinite_pos : 0 < infinite := by
  unfold infinite
  positivity

/-- The double that stands for a number, which is infinity from `infinite` on. -/
def rounded (v : ℚ) : ℚ :=
  if v < 0 then -min infinite (roundMagnitude (-v)) else min infinite (roundMagnitude v)

theorem rounded_neg (v : ℚ) : rounded (-v) = -rounded v := by
  rcases lt_trichotomy v 0 with negative | rfl | positive
  · rw [rounded, rounded, if_neg (by linarith), if_pos negative, neg_neg]
  · simp [rounded, infinite_pos.le]
  · rw [rounded, rounded, if_pos (by linarith), if_neg (by linarith), neg_neg]

/-- Small whole numbers are not changed. -/
theorem rounded_natCast {n : ℕ} (short : n < 2 ^ 53) : rounded n = n := by
  have magnitude_eq := roundMagnitude_natCast_mul (e := 0) short (by norm_num)
  rw [zpow_zero, mul_one] at magnitude_eq
  have below : (n : ℚ) ≤ infinite :=
    calc (n : ℚ) ≤ 2 ^ (53 : ℤ) := by exact_mod_cast short.le
      _ ≤ infinite := zpow_le_zpow_right₀ one_le_two (by norm_num)
  rw [rounded, if_neg (by simp), magnitude_eq, min_eq_right below]

theorem rounded_nonneg {v : ℚ} (nonneg : 0 ≤ v) : 0 ≤ rounded v := by
  rw [rounded, if_neg (by linarith)]
  exact le_min infinite_pos.le (roundMagnitude_nonneg nonneg)

theorem rounded_mono {v w : ℚ} (h : v ≤ w) : rounded v ≤ rounded w := by
  have of_nonneg {v w : ℚ} (nonneg : 0 ≤ v) (h : v ≤ w) : rounded v ≤ rounded w := by
    rw [rounded, rounded, if_neg (by linarith), if_neg (by linarith)]
    exact min_le_min_left _ (roundMagnitude_mono nonneg h)
  rcases le_total 0 v with nonneg | nonpos
  · exact of_nonneg nonneg h
  rcases le_total 0 w with nonneg' | nonpos'
  · have := rounded_nonneg (v := -v) (by linarith)
    rw [rounded_neg] at this
    linarith [rounded_nonneg nonneg']
  · have := of_nonneg (v := -w) (w := -v) (by linarith) (by linarith)
    rw [rounded_neg, rounded_neg] at this
    linarith

end CloudSearch.Double
