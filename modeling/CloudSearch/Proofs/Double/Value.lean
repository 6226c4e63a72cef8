import CloudSearch.Proofs.Double.Rounding
import Mathlib

/-!
# The numbers that doubles stand for

A double stands for a rational number (`toRat`), and infinity for the least power of two that is beyond
the range, so that it counts as larger than all others. What is read from the bits of a double is read
back unchanged after packing (`unpack_pack_finite`), and doubles are compared as these numbers
(`compare_eq`). What is not a number is neither below nor above anything (`le_iff`, `lt_iff`).
-/

namespace CloudSearch.Double

open Float.Model Float.Model.UnpackedFloat

/-- The number with the sign. -/
def signed (s : Sign) (v : ℚ) : ℚ :=
  match s with
  | .negative => -v
  | .positive => v

/-- The number that a double stands for; one that is not a number counts as zero. -/
def value : UnpackedFloat → ℚ
  | .notANumber => 0
  | .infinity s => signed s infinite
  | .zero _ => 0
  | .finite s m e _ => signed s (m * 2 ^ e)

/-- A mantissa and an exponent as rounding leaves them: 53 bits, or fewer with the least exponent. -/
structure IsCanonical (m : ℕ) (e : ℤ) : Prop where
  short : m < 2 ^ 53
  least : -1074 ≤ e
  full : 2 ^ 52 ≤ m ∨ e = -1074

/-- A mantissa and an exponent as they stand in a double. -/
structure IsHeld (m : ℕ) (e : ℤ) : Prop extends IsCanonical m e where
  most : e ≤ 971

/-! ## Bits -/

theorem minExponent_eq : Format.binary64.minExponent = -1074 := by decide

theorem targetExponent_eq (m : ℕ) (e : ℤ) :
    Format.binary64.targetExponent (totalExponent m e) = max (m.log2 + e - 52) (-1074) := by
  have : (Format.binary64.mantissaBits : ℤ) = 53 := by decide
  rw [Format.targetExponent, minExponent_eq, this, totalExponent]
  omega

/-- The bit that is not stored stands before the others. -/
theorem toNat_implicit (fraction : BitVec 52) : (1#1 ++ fraction).toNat = 2 ^ 52 + fraction.toNat := by
  rw [BitVec.toNat_append, ← Nat.shiftLeft_add_eq_or_of_lt fraction.isLt]
  rfl

theorem toNat_implicit_pos (fraction : BitVec 52) : 0 < (1#1 ++ fraction).toNat := by
  rw [toNat_implicit]
  positivity

theorem toNat_pos_of_ne {fraction : BitVec 52} (nonzero : fraction ≠ 0#52) : 0 < fraction.toNat :=
  Nat.pos_of_ne_zero fun zero => nonzero (BitVec.eq_of_toNat_eq zero)

/-- The stored bits of the mantissa. -/
def fraction (x : Float.Model) : ℕ :=
  (@unpackMantissa Format.binary64 x.toBits.toBitVec).toNat

/-- The stored exponent, which is never negative. -/
def biased (x : Float.Model) : ℕ :=
  (@unpackExponent Format.binary64 x.toBits.toBitVec).toNat

theorem fraction_lt (x : Float.Model) : fraction x < 2 ^ 52 :=
  BitVec.isLt _

theorem biased_lt (x : Float.Model) : biased x < 2048 :=
  BitVec.isLt _

/-- What the stored bits of a finite double mean: the least exponent is stored as zero, and then all
bits of the mantissa are. -/
theorem fields_of_unpack {x : Float.Model} {s : Sign} {m : ℕ} {e : ℤ} {positive : 0 < m}
    (read : x.unpack = .finite s m e positive) :
    s = Sign.ofBitVec (@unpackSign Format.binary64 x.toBits.toBitVec) ∧
      ((biased x = 0 ∧ m = fraction x ∧ e = -1074) ∨
        (0 < biased x ∧ biased x < 2047 ∧ m = 2 ^ 52 + fraction x ∧ e = biased x - 1075)) := by
  have bias : Format.binary64.exponentBias = 1023 := rfl
  unfold Float.Model.unpack UnpackedFloat.unpack at read
  dsimp only at read
  split at read
  next => split at read <;> cases read
  next special =>
    have ne_last : biased x ≠ 2047 := fun same => special (BitVec.eq_of_toNat_eq same)
    split at read
    next unbiased =>
      have zero : biased x = 0 := congrArg BitVec.toNat unbiased
      split at read
      next => cases read
      next =>
        cases read
        rw [unbiased, bias]
        exact ⟨rfl, .inl ⟨zero, rfl, rfl⟩⟩
    next nonzero =>
      have ne_zero : biased x ≠ 0 := fun same => nonzero (BitVec.eq_of_toNat_eq same)
      have := biased_lt x
      cases read
      exact ⟨rfl, .inr ⟨by omega, by omega, toNat_implicit _, rfl⟩⟩

theorem fields_of_unpack_zero {x : Float.Model} {s : Sign} (read : x.unpack = .zero s) :
    s = Sign.ofBitVec (@unpackSign Format.binary64 x.toBits.toBitVec) ∧ biased x = 0 ∧
      fraction x = 0 := by
  unfold Float.Model.unpack UnpackedFloat.unpack at read
  dsimp only at read
  split at read
  next => split at read <;> cases read
  next =>
    split at read
    next unbiased =>
      split at read
      next none =>
        cases read
        exact ⟨rfl, congrArg BitVec.toNat unbiased, congrArg BitVec.toNat none⟩
      next => cases read
    next => cases read

/-- What stands in a double is held by it. -/
theorem isHeld_of_unpack {x : Float.Model} {s : Sign} {m : ℕ} {e : ℤ} {positive : 0 < m}
    (read : x.unpack = .finite s m e positive) : IsHeld m e := by
  have := fraction_lt x
  obtain ⟨-, ⟨-, rfl, rfl⟩ | ⟨above, below, rfl, rfl⟩⟩ := fields_of_unpack read
  · exact ⟨⟨by omega, le_rfl, .inr rfl⟩, by omega⟩
  · exact ⟨⟨by omega, by omega, .inl (by omega)⟩, by omega⟩

/-- What is read from the three parts of a double. -/
theorem unpack_packComponents (s : Sign) (exponent : BitVec 11) (fraction : BitVec 52) :
    UnpackedFloat.unpack Format.binary64 (packComponents Format.binary64 s exponent fraction) =
      if exponent = -1#11 then if fraction = 0#52 then .infinity s else .notANumber
      else if exponent = 0#11 then
        if nothing : fraction = 0#52 then .zero s
        else .finite s fraction.toNat (-1074) (toNat_pos_of_ne nothing)
      else .finite s (1#1 ++ fraction).toNat (exponent.toNat - 1075) (toNat_implicit_pos fraction) := by
  unfold UnpackedFloat.unpack
  simp only [unpackMantissa_packComponents, unpackExponent_packComponents, unpackSign_packComponents,
    Sign.ofBitVec_toBitVec]
  split
  next => rfl
  next =>
    split
    next zero =>
      subst zero
      rfl
    next => rfl

/-- A mantissa of 53 bits is read back without its first bit. -/
theorem unpack_packComponents_full {s : Sign} {m : ℕ} {e : ℤ} (positive : 0 < m)
    (range : 2 ^ 52 ≤ m ∧ m < 2 ^ 53) (exponents : -1074 ≤ e ∧ e ≤ 971) :
    UnpackedFloat.unpack Format.binary64 (packComponents Format.binary64 s
      (BitVec.ofNat 11 (e + 1023 + 52).toNat) (BitVec.ofNat 52 m)) = .finite s m e positive := by
  have exponent_eq : (BitVec.ofNat 11 (e + 1023 + 52).toNat).toNat = (e + 1023 + 52).toNat := by
    rw [BitVec.toNat_ofNat, Nat.mod_eq_of_lt (by omega)]
  rw [unpack_packComponents, if_neg, if_neg]
  · congr 1
    · rw [toNat_implicit, BitVec.toNat_ofNat]
      omega
    · rw [exponent_eq]
      omega
  · intro zero
    have := congrArg BitVec.toNat zero
    rw [exponent_eq, BitVec.toNat_zero] at this
    omega
  · intro last
    have := congrArg BitVec.toNat last
    rw [exponent_eq, show (-1#11).toNat = 2047 from rfl] at this
    omega

/-- A shorter one is read back as it is, with the least exponent. -/
theorem unpack_packComponents_short {s : Sign} {m : ℕ} (positive : 0 < m) (short : m < 2 ^ 52) :
    UnpackedFloat.unpack Format.binary64
      (packComponents Format.binary64 s 0#11 (BitVec.ofNat 52 m)) = .finite s m (-1074) positive := by
  have fraction_eq : (BitVec.ofNat 52 m).toNat = m := by
    rw [BitVec.toNat_ofNat, Nat.mod_eq_of_lt (by omega)]
  have nonzero : BitVec.ofNat 52 m ≠ 0#52 := by
    intro zero
    have := congrArg BitVec.toNat zero
    rw [fraction_eq, BitVec.toNat_zero] at this
    omega
  rw [unpack_packComponents, if_neg (by decide), if_pos rfl, dif_neg nonzero]
  congr 1

/-- What rounding leaves is kept, and becomes infinite if its exponent is too large. -/
theorem unpack_pack_finite {s : Sign} {m : ℕ} {e : ℤ} (positive : 0 < m)
    (canonical : IsCanonical m e) :
    (Float.Model.pack (.finite s m e positive)).unpack =
      if e ≤ 971 then .finite s m e positive else .infinity s := by
  obtain ⟨short, least, full⟩ := canonical
  change UnpackedFloat.unpack Format.binary64
    (if 2 ^ 11 ≤ (e + 1023 + 52).toNat + 1 then packComponents Format.binary64 s (-1#11) 0#52
      else if m.log2 + 1 = 53 then
        packComponents Format.binary64 s (BitVec.ofNat 11 (e + 1023 + 52).toNat) (BitVec.ofNat 52 m)
      else packComponents Format.binary64 s 0#11 (BitVec.ofNat 52 m)) = _
  by_cases most : e ≤ 971
  case neg =>
    rw [if_pos (by omega), if_neg most, unpack_packComponents, if_pos rfl, if_pos rfl]
  rw [if_neg (by omega), if_pos most]
  have log_lt : m.log2 < 53 := (Nat.log2_lt positive.ne').2 short
  by_cases normal : 2 ^ 52 ≤ m
  · have := (Nat.le_log2 positive.ne').2 normal
    rw [if_pos (by omega)]
    exact unpack_packComponents_full positive ⟨normal, short⟩ ⟨least, most⟩
  · have := (Nat.log2_lt positive.ne').2 (show m < 2 ^ 52 by omega)
    obtain rfl := full.resolve_left normal
    rw [if_neg (by omega)]
    exact unpack_packComponents_short positive (by omega)

/-! ## Order -/

/-- Whatever stands in a double stands there as it is held. -/
def Held : UnpackedFloat → Prop
  | .finite _ m e _ => IsHeld m e
  | _ => True

theorem held_unpack (x : Float.Model) : Held x.unpack := by
  cases read : x.unpack with
  | finite s m e positive => exact isHeld_of_unpack read
  | notANumber | infinity | zero => trivial

theorem IsCanonical.lt_two_zpow {m : ℕ} {e : ℤ} (h : IsCanonical m e) :
    (m : ℚ) * 2 ^ e < 2 ^ (53 + e) := by
  rw [zpow_add₀ two_ne_zero]
  gcongr
  exact_mod_cast h.short

theorem IsHeld.lt_infinite {m : ℕ} {e : ℤ} (h : IsHeld m e) : (m : ℚ) * 2 ^ e < infinite :=
  calc (m : ℚ) * 2 ^ e < 2 ^ (53 + e) := h.lt_two_zpow
    _ ≤ infinite := zpow_le_zpow_right₀ one_le_two (by have := h.most; omega)

/-- A greater exponent makes a greater number. -/
theorem IsCanonical.lt_of_exponent_lt {m n : ℕ} {e f : ℤ} (hm : IsCanonical m e)
    (hn : IsCanonical n f) (below : e < f) : (m : ℚ) * 2 ^ e < n * 2 ^ f := by
  have full : 2 ^ 52 ≤ n := hn.full.resolve_right (by have := hm.least; omega)
  calc (m : ℚ) * 2 ^ e < 2 ^ (53 + e) := hm.lt_two_zpow
    _ ≤ 2 ^ (52 + f) := zpow_le_zpow_right₀ one_le_two (by omega)
    _ = 2 ^ (52 : ℤ) * 2 ^ f := zpow_add₀ two_ne_zero _ _
    _ ≤ n * 2 ^ f := by
      gcongr
      exact_mod_cast full

/-- Exponents count first, then mantissas. -/
theorem IsCanonical.compare_eq {m n : ℕ} {e f : ℤ} (hm : IsCanonical m e) (hn : IsCanonical n f) :
    (compare e f).then (compare m n) = compare ((m : ℚ) * 2 ^ e) (n * 2 ^ f) := by
  rcases lt_trichotomy e f with below | rfl | above
  · rw [compare_lt_iff_lt.2 below, compare_lt_iff_lt.2 (hm.lt_of_exponent_lt hn below)]
    rfl
  · rw [compare_eq_iff_eq.2 rfl, Ordering.then]
    rcases lt_trichotomy m n with below | rfl | above
    · rw [compare_lt_iff_lt.2 below, compare_lt_iff_lt.2 (by gcongr)]
    · rw [compare_eq_iff_eq.2 rfl, compare_eq_iff_eq.2 rfl]
    · rw [compare_gt_iff_gt.2 above, compare_gt_iff_gt.2 (by gcongr)]
  · rw [compare_gt_iff_gt.2 above, compare_gt_iff_gt.2 (hn.lt_of_exponent_lt hm above)]
    rfl

theorem swap_compare_eq_compare_neg (v w : ℚ) : (compare v w).swap = compare (-v) (-w) := by
  rcases lt_trichotomy v w with below | rfl | above
  · rw [compare_lt_iff_lt.2 below, compare_gt_iff_gt.2 (neg_lt_neg below)]
    rfl
  · rw [compare_eq_iff_eq.2 rfl, compare_eq_iff_eq.2 rfl]
    rfl
  · rw [compare_gt_iff_gt.2 above, compare_lt_iff_lt.2 (neg_lt_neg above)]
    rfl

/-- **Doubles are compared as the numbers that they stand for.** -/
theorem compare_eq {u v : UnpackedFloat} (hu : Held u) (hv : Held v) (number : u.isNaN = false)
    (number' : v.isNaN = false) : u.compare v = some (compare (value u) (value v)) := by
  have range {m : ℕ} {e : ℤ} (positive : 0 < m) (held : IsHeld m e) :
      0 < (m : ℚ) * 2 ^ e ∧ (m : ℚ) * 2 ^ e < infinite := ⟨by positivity, held.lt_infinite⟩
  have infinite_pos := infinite_pos
  have lt (h : value u < value v) : some .lt = some (compare (value u) (value v)) :=
    congrArg some (compare_lt_iff_lt.2 h).symm
  have eq (h : value u = value v) : some .eq = some (compare (value u) (value v)) :=
    congrArg some (compare_eq_iff_eq.2 h).symm
  have gt (h : value v < value u) : some .gt = some (compare (value u) (value v)) :=
    congrArg some (compare_gt_iff_gt.2 h).symm
  -- numbers of different kinds or signs are apart, so that mantissas and exponents only count where
  -- both numbers are finite and have the same sign
  cases u with
  | notANumber => cases number
  | infinity s =>
    cases v with
    | notANumber => cases number'
    | infinity s' =>
      cases s <;> cases s'
      · exact eq rfl
      · exact lt (by simp only [value, signed]; linarith)
      · exact gt (by simp only [value, signed]; linarith)
      · exact eq rfl
    | zero s' =>
      cases s <;> simp only [value, signed] at lt gt <;>
        first | exact lt (by linarith) | exact gt (by linarith)
    | finite s' n f positive' =>
      have := range positive' hv
      cases s <;> cases s' <;> simp only [value, signed] at lt gt <;>
        first | exact lt (by linarith) | exact gt (by linarith)
  | zero s =>
    cases v with
    | notANumber => cases number'
    | infinity s' =>
      cases s' <;> simp only [value, signed] at lt gt <;>
        first | exact lt (by linarith) | exact gt (by linarith)
    | zero s' => exact eq rfl
    | finite s' n f positive' =>
      have := range positive' hv
      cases s' <;> simp only [value, signed] at lt gt <;>
        first | exact lt (by linarith) | exact gt (by linarith)
  | finite s m e positive =>
    have := range positive hu
    cases v with
    | notANumber => cases number'
    | infinity s' =>
      cases s <;> cases s' <;> simp only [value, signed] at lt gt <;>
        first | exact lt (by linarith) | exact gt (by linarith)
    | zero s' =>
      cases s <;> simp only [value, signed] at lt gt <;>
        first | exact lt (by linarith) | exact gt (by linarith)
    | finite s' n f positive' =>
      have := range positive' hv
      have digits := hu.toIsCanonical.compare_eq hv.toIsCanonical
      cases s <;> cases s'
      · change some ((compare e f).then (compare m n)).swap = _
        rw [digits, swap_compare_eq_compare_neg]
        rfl
      · exact lt (by simp only [value, signed]; linarith)
      · exact gt (by simp only [value, signed]; linarith)
      · exact congrArg some digits

/-- The number that the double stands for. -/
def toRat (x : Float) : ℚ :=
  value x.toModel.unpack

/-- The double is a number, perhaps an infinite one. -/
def IsNumber (x : Float) : Prop :=
  x.isNaN = false

theorem compare_toModel_eq {x y : Float} (number : IsNumber x) (number' : IsNumber y) :
    x.toModel.unpack.compare y.toModel.unpack = some (compare (toRat x) (toRat y)) :=
  compare_eq (held_unpack _) (held_unpack _) number number'

theorem isNaN_eq_of_compare_ne_none {u v : UnpackedFloat} (comparable : u.compare v ≠ none) :
    u.isNaN = false ∧ v.isNaN = false := by
  cases u with
  | notANumber => exact absurd rfl comparable
  | infinity | zero | finite =>
    cases v with
    | notANumber => exact absurd (by simp [UnpackedFloat.compare]) comparable
    | infinity | zero | finite => exact ⟨rfl, rfl⟩

/-- **One double is at most another** if both are numbers and the numbers are in that order. -/
theorem le_iff {x y : Float} : x ≤ y ↔ IsNumber x ∧ IsNumber y ∧ toRat x ≤ toRat y := by
  have unfolded : x ≤ y ↔ (x.toModel.unpack.compare y.toModel.unpack).any (·.isLE) = true := by
    change decide (UnpackedFloat.le _ _ = true) = true ↔ _
    rw [decide_eq_true_iff]
    rfl
  rw [unfolded]
  constructor
  · intro le
    obtain ⟨number, number'⟩ : IsNumber x ∧ IsNumber y := by
      refine isNaN_eq_of_compare_ne_none fun none => ?_
      simp [none] at le
    rw [compare_toModel_eq number number', Option.any_some, Ordering.isLE_iff_ne_gt] at le
    exact ⟨number, number', compare_le_iff_le.1 le⟩
  · rintro ⟨number, number', le⟩
    rw [compare_toModel_eq number number', Option.any_some, Ordering.isLE_iff_ne_gt]
    exact compare_le_iff_le.2 le

/-- One double is below another if both are numbers and the numbers are in that order. -/
theorem lt_iff {x y : Float} : x < y ↔ IsNumber x ∧ IsNumber y ∧ toRat x < toRat y := by
  have unfolded : x < y ↔ (x.toModel.unpack.compare y.toModel.unpack == some .lt) = true := by
    change decide (UnpackedFloat.lt _ _ = true) = true ↔ _
    rw [decide_eq_true_iff]
    rfl
  rw [unfolded, beq_iff_eq]
  constructor
  · intro lt
    obtain ⟨number, number'⟩ : IsNumber x ∧ IsNumber y := by
      refine isNaN_eq_of_compare_ne_none fun none => ?_
      rw [none] at lt
      cases lt
    rw [compare_toModel_eq number number', Option.some_inj] at lt
    exact ⟨number, number', compare_lt_iff_lt.1 lt⟩
  · rintro ⟨number, number', lt⟩
    rw [compare_toModel_eq number number', compare_lt_iff_lt.2 lt]

theorem le_trans {x y z : Float} (h : x ≤ y) (h' : y ≤ z) : x ≤ z := by
  obtain ⟨number, -, le⟩ := le_iff.1 h
  obtain ⟨-, number', le'⟩ := le_iff.1 h'
  exact le_iff.2 ⟨number, number', le.trans le'⟩

end CloudSearch.Double
