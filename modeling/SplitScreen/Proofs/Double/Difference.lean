import Mathlib
import SplitScreen.Proofs.Double.Order

/-!
Differences of doubles. A difference is rounded, but not to zero unless it is zero: the doubles are
so dense around zero that the difference of two of them is a multiple of the smallest one, and what
is rounded is its mantissa, which keeps its first bit. So a difference is positive just when the
first double is above the second (`sub_pos_iff`, `sub_neg_iff`), whatever the two doubles are.
-/

namespace SplitScreen

namespace Double

open Float.Model Float.Model.UnpackedFloat

theorem mantissa_shiftRight (em : ExtendedMantissa) (k : Nat) :
    (em >>> k).mantissa = em.mantissa / 2 ^ k := by
  induction k with
  | zero => exact (Nat.div_one _).symm
  | succ k ih =>
      calc
        (em >>> (k + 1)).mantissa = (em >>> k).mantissa / 2 := rfl
        _ = em.mantissa / 2 ^ (k + 1) := by rw [ih, Nat.div_div_eq_div_mul, Nat.pow_succ]

theorem mantissa_ofMantissaAndAccuracy (m : Nat) (a : Accuracy) :
    (ExtendedMantissa.ofMantissaAndAccuracy m a).mantissa = m := by
  cases a with
  | exact => rfl
  | inexact o => cases o <;> rfl

theorem le_roundedMantissa (em : ExtendedMantissa) : em.mantissa ≤ em.roundedMantissa := by
  obtain ⟨m, roundBit, stickyBit⟩ := em
  cases roundBit <;> cases stickyBit
  · exact Nat.le_refl _
  · exact Nat.le_refl _
  · exact Nat.le_add_right _ _
  · exact Nat.le_add_right _ _

section Rounding

variable {m : Nat} {e : Int}

theorem targetExponent_eq (t : Int) : Format.binary64.targetExponent t = max (t - 53) (-1074) :=
  rfl

/-- A positive mantissa that is shifted to its target exponent stays positive and keeps at most 53
bits. -/
theorem shiftToTargetExponent_bounds (hm : 0 < m) (he : -1074 ≤ e) (a : Accuracy) :
    let shifted := shiftToTargetExponent Format.binary64 m e a
    0 < shifted.1.mantissa ∧ shifted.1.mantissa < 2 ^ 53 ∧ -1074 ≤ shifted.2 := by
  have hamount : (Format.binary64.targetExponent (totalExponent m e) - e).toNat = m.log2 - 52 := by
    rw [targetExponent_eq, totalExponent]
    omega
  have hle : 2 ^ m.log2 ≤ m := Nat.log2_self_le (Nat.ne_of_gt hm)
  have hlt : m < 2 ^ (m.log2 + 1) := Nat.lt_log2_self
  have hmantissa : (shiftToTargetExponent Format.binary64 m e a).1.mantissa =
      m / 2 ^ (m.log2 - 52) := by
    rw [shiftToTargetExponent, shiftToExponent, mantissa_shiftRight,
      mantissa_ofMantissaAndAccuracy, hamount]
  intro shifted
  refine ⟨?_, ?_, ?_⟩
  · rw [hmantissa]
    exact Nat.div_pos (Nat.le_trans (Nat.pow_le_pow_right Nat.two_pos (Nat.sub_le _ _)) hle)
      (Nat.two_pow_pos _)
  · rw [hmantissa, Nat.div_lt_iff_lt_mul (Nat.two_pow_pos _), ← Nat.pow_add]
    exact Nat.lt_of_lt_of_le hlt (Nat.pow_le_pow_right Nat.two_pos (by omega))
  · exact Int.le_trans he (Int.le_add_of_nonneg_right (Int.natCast_nonneg _))

/-- Rounding does not take a positive mantissa to zero. -/
theorem roundWithAccuracy_eq (hm : 0 < m) (he : -1074 ≤ e) (s : Sign) (a : Accuracy) :
    ∃ m' e' hm', roundWithAccuracy Format.binary64 s m e a = .finite s m' e' hm' ∧
      m' < 2 ^ 53 ∧ -1074 ≤ e' := by
  obtain ⟨hpos, -, hexponent⟩ := shiftToTargetExponent_bounds hm he a
  obtain ⟨hpos', hlt', hexponent'⟩ := shiftToTargetExponent_bounds
    (Nat.lt_of_lt_of_le hpos (le_roundedMantissa _)) hexponent .exact
  exact ⟨_, _, hpos', dif_neg (Nat.ne_of_gt hpos'), hlt', hexponent'⟩

theorem round_eq (hm : 0 < m) (he : -1074 ≤ e) (s : Sign) :
    ∃ m' e' hm', UnpackedFloat.round Format.binary64 s m e = .finite s m' e' hm' ∧
      m' < 2 ^ 53 ∧ -1074 ≤ e' := by
  refine roundWithAccuracy_eq ?_ ?_ s .exact
  · rw [Nat.shiftLeft_eq]
    exact Nat.mul_pos hm (Nat.two_pow_pos _)
  · rw [targetExponent_eq]
    omega

end Rounding

section Packing

variable {s : Sign}

theorem sign_finite {m : Nat} {e : Int} {hm : 0 < m} :
    (unitsOf (.finite s m e hm)).sign = s.apply 1 := by
  cases s with
  | negative => exact Int.sign_eq_neg_one_of_neg unitsOf_neg
  | positive => exact Int.sign_eq_one_of_pos unitsOf_pos

theorem sign_infinity : (unitsOf (.infinity s)).sign = s.apply 1 := by
  have hbeyond : 0 < (beyond : Int) := Int.ofNat_lt.mpr beyond_pos
  cases s with
  | negative => exact Int.sign_eq_neg_one_of_neg (Int.neg_neg_of_pos hbeyond)
  | positive => exact Int.sign_eq_one_of_pos hbeyond

/-- What is packed with an exponent between the greatest and the least is finite. -/
theorem sign_unpack_packComponents {e : BitVec 11} {m : BitVec 52} (hones : e ≠ -1#11)
    (h : e = 0#11 → m ≠ 0#52) :
    (unitsOf (UnpackedFloat.unpack Format.binary64
      (packComponents Format.binary64 s e m))).sign = s.apply 1 := by
  unfold UnpackedFloat.unpack
  simp only [unpackExponent_packComponents, unpackMantissa_packComponents,
    unpackSign_packComponents, Sign.ofBitVec_toBitVec, if_neg hones]
  by_cases hzero : e = 0#11
  · rw [if_pos hzero, dif_neg (h hzero), sign_finite]
  · rw [if_neg hzero, sign_finite]

theorem unpack_packedInfinity :
    UnpackedFloat.unpack Format.binary64 (packedInfinity Format.binary64 s) = .infinity s := by
  cases s <;> rfl

/-- An unpacked double that has not too many bits to be packed, but may be too large. -/
def Rounded : UnpackedFloat → Prop
  | .finite _ mantissa exponent _ => mantissa < 2 ^ 53 ∧ -1074 ≤ exponent
  | _ => True

theorem Canonical.rounded {u : UnpackedFloat} (h : Canonical u) : Rounded u := by
  cases u with
  | finite s m e hm => exact ⟨h.1, h.2.2.1⟩
  | _ => trivial

/-- Packing keeps the sign, and takes only zero to zero. -/
theorem sign_unpack_pack {u : UnpackedFloat} (h : Rounded u) :
    (unitsOf (Float.Model.pack u).unpack).sign = (unitsOf u).sign := by
  change (unitsOf (UnpackedFloat.unpack Format.binary64
    (UnpackedFloat.pack Format.binary64 u))).sign = _
  fun_cases UnpackedFloat.pack Format.binary64 u with
  | case1 => rfl
  | case2 s => rw [unpack_packedInfinity]
  | case3 s => rw [unpack_packedZero]
  | case4 s m e hm biased hlarge => rw [unpack_packedInfinity, sign_infinity, sign_finite]
  | case5 s m e hm bits biased hlarge hbits =>
      obtain ⟨-, hexponent⟩ := h
      have hbiased : biased = (e + 1023 + 52).toNat := rfl
      have hlarge' : biased + 1 < 2 ^ 11 := Nat.lt_of_not_le hlarge
      rw [sign_finite]
      refine sign_unpack_packComponents ?_ fun hzero => absurd hzero ?_
      · rw [ne_eq, ← BitVec.toNat_inj, BitVec.toNat_ofNat]
        change biased % 2 ^ 11 ≠ 2047
        omega
      · rw [← BitVec.toNat_inj, BitVec.toNat_ofNat]
        change biased % 2 ^ 11 ≠ 0
        omega
  | case6 s m e hm bits biased hlarge hbits =>
      obtain ⟨hmantissa, -⟩ := h
      have hbits' : m.log2 + 1 ≠ 53 := hbits
      have hlog : m.log2 < 53 := (Nat.log2_lt (Nat.ne_of_gt hm)).mpr hmantissa
      have hlt : m < 2 ^ 52 := (Nat.log2_lt (Nat.ne_of_gt hm)).mp (by omega)
      rw [sign_finite]
      refine sign_unpack_packComponents (by decide) fun _ => ?_
      rw [ne_eq, ← BitVec.toNat_inj, BitVec.toNat_ofNat]
      change m % 2 ^ 52 ≠ 0
      omega

end Packing

theorem normalize_rounded {t : Int} (ht : -1074 ≤ t) (n : Int) :
    Rounded (UnpackedFloat.normalize Format.binary64 n t .positive) ∧
      (unitsOf (UnpackedFloat.normalize Format.binary64 n t .positive)).sign = n.sign := by
  unfold UnpackedFloat.normalize
  rcases Int.lt_trichotomy n 0 with hn | rfl | hn
  · rw [Int.compare_eq_lt.mpr hn]
    obtain ⟨m', e', hm', hround, hbits, hexponent⟩ :=
      round_eq (m := (-n).toNat) (by omega) ht .negative
    simp only [hround, sign_finite, Int.sign_eq_neg_one_of_neg hn]
    exact ⟨⟨hbits, hexponent⟩, rfl⟩
  · exact ⟨trivial, rfl⟩
  · rw [Int.compare_eq_gt.mpr hn]
    obtain ⟨m', e', hm', hround, hbits, hexponent⟩ :=
      round_eq (m := n.toNat) (by omega) ht .positive
    simp only [hround, sign_finite, Int.sign_eq_one_of_pos hn]
    exact ⟨⟨hbits, hexponent⟩, rfl⟩

theorem apply_neg (s : Sign) (n : Int) : (-s).apply n = -s.apply n := by
  cases s with
  | negative => exact (Int.neg_neg n).symm
  | positive => rfl

theorem unitsOf_infinity_neg (s : Sign) :
    unitsOf (.infinity (-s)) = -unitsOf (.infinity s) :=
  apply_neg s beyond

/-- The units of a finite double, counted from a lower exponent. -/
theorem unitsOf_finite_eq {s : Sign} {m : Nat} {e t : Int} {hm : 0 < m} (ht : -1074 ≤ t)
    (hte : t ≤ e) :
    unitsOf (.finite s m e hm) =
      s.apply (m <<< (e - t).toNat : Nat) * (2 ^ (t + 1074).toNat : Nat) := by
  have hk : (e + 1074).toNat = (e - t).toNat + (t + 1074).toNat := by omega
  have hscaled : scaled m e = m <<< (e - t).toNat * 2 ^ (t + 1074).toNat := by
    rw [scaled, hk, Nat.pow_add, Nat.shiftLeft_eq, Nat.mul_assoc]
  cases s with
  | negative => simp only [unitsOf, Sign.apply, hscaled, Int.natCast_mul, Int.neg_mul]
  | positive => simp only [unitsOf, Sign.apply, hscaled, Int.natCast_mul]

theorem sign_infinity_sub {s : Sign} {n : Int} (hlt : -(beyond : Int) < n) (hgt : n < beyond) :
    (unitsOf (.infinity s) - n).sign = s.apply 1 := by
  cases s with
  | negative =>
      refine Int.sign_eq_neg_one_of_neg ?_
      change -(beyond : Int) - n < 0
      omega
  | positive =>
      refine Int.sign_eq_one_of_pos ?_
      change 0 < (beyond : Int) - n
      omega

/-- The difference of two numbers has the sign of the difference of their units. -/
theorem sub_rounded {u v : UnpackedFloat} (hu : Canonical u) (hv : Canonical v)
    (hu' : u ≠ .notANumber) (hv' : v ≠ .notANumber) :
    Rounded (UnpackedFloat.sub Format.binary64 u v) ∧
      (unitsOf (UnpackedFloat.sub Format.binary64 u v)).sign = (unitsOf u - unitsOf v).sign := by
  have hbeyond : 0 < (beyond : Int) := Int.ofNat_lt.mpr beyond_pos
  fun_cases UnpackedFloat.sub Format.binary64 u v
  case case1 => exact absurd rfl hu'
  case case2 => exact absurd rfl hv'
  case case3 s s' h =>
    refine ⟨trivial, ?_⟩
    obtain rfl : s = -s' := by cases s <;> cases s' <;> first | rfl | cases h
    have hdouble : -unitsOf (.infinity s') - unitsOf (.infinity s') =
        2 * -unitsOf (.infinity s') := by omega
    rw [unitsOf_infinity_neg, hdouble, Int.sign_mul]
    exact (Int.one_mul _).symm
  case case4 s s' h =>
    refine ⟨trivial, ?_⟩
    obtain rfl : s = s' := by cases s <;> cases s' <;> first | rfl | exact absurd rfl h
    rw [Int.sub_self]
    rfl
  case case5 s _ hinf =>
    obtain ⟨hlt, hgt⟩ := unitsOf_bounds hv hinf
    exact ⟨trivial, by rw [sign_infinity, sign_infinity_sub hlt hgt]⟩
  case case6 s _ hinf =>
    obtain ⟨hlt, hgt⟩ := unitsOf_bounds hu hinf
    refine ⟨trivial, ?_⟩
    rw [unitsOf_infinity_neg, Int.sign_neg, ← Int.neg_sub, Int.sign_neg, sign_infinity,
      sign_infinity_sub hlt hgt]
  case case7 | case8 => exact ⟨trivial, rfl⟩
  case case9 s' s m e hm =>
    have hsign : (unitsOf (.finite s m e hm)).sign = s.apply 1 := sign_finite
    refine ⟨hv.rounded, ?_⟩
    rw [sign_finite, apply_neg, ← hsign, ← Int.sign_neg]
    exact congrArg Int.sign (Int.zero_sub _).symm
  case case10 s _ _ _ => exact ⟨hu.rounded, congrArg Int.sign (Int.sub_zero _).symm⟩
  case case11 s m e hm s' m' e' hm' t n _ hdecrease n' _ hdecrease' d =>
    obtain rfl := congrArg Prod.fst hdecrease
    obtain rfl := congrArg Prod.fst hdecrease'
    have ht : -1074 ≤ t := Int.le_min.mpr ⟨hu.rounded.2, hv.rounded.2⟩
    obtain ⟨hrounded, hsign⟩ := normalize_rounded ht d
    refine ⟨hrounded, ?_⟩
    have hunit : 0 < ((2 ^ (t + 1074).toNat : Nat) : Int) := Int.ofNat_lt.mpr (Nat.two_pow_pos _)
    rw [hsign, unitsOf_finite_eq ht (Int.min_le_left _ _),
      unitsOf_finite_eq ht (Int.min_le_right _ _), ← Int.sub_mul, Int.sign_mul,
      Int.sign_eq_one_of_pos hunit, Int.mul_one]
    rfl

variable {x y : Float}

theorem sign_units_sub (hx : x.isNaN = false) (hy : y.isNaN = false) :
    (units (x - y)).sign = (units x - units y).sign := by
  rw [isNaN_eq_false_iff] at hx hy
  obtain ⟨hrounded, hsign⟩ := sub_rounded (canonical_unpack _) (canonical_unpack _) hx hy
  exact (sign_unpack_pack hrounded).trans hsign

theorem units_sub_of_isNaN (h : x.isNaN = true ∨ y.isNaN = true) : units (x - y) = 0 := by
  have hsub : UnpackedFloat.sub Format.binary64 x.toModel.unpack y.toModel.unpack =
      .notANumber := by
    rcases h with h | h
    · rw [isNaN_iff.mp h]
      rfl
    · rw [isNaN_iff.mp h]
      cases x.toModel.unpack <;> rfl
  change unitsOf (Float.Model.pack (UnpackedFloat.sub Format.binary64 _ _)).unpack = 0
  rw [hsub]
  rfl

theorem units_zero : (0.0 : Float).isNaN = false ∧ units 0.0 = 0 := by
  decide

theorem neg_iff : x < 0.0 ↔ units x < 0 := by
  rw [lt_iff, units_zero.1, units_zero.2]
  cases hx : x.isNaN with
  | true => simp [units_of_isNaN hx]
  | false => simp

theorem pos_iff : x > 0.0 ↔ 0 < units x := by
  rw [gt_iff_lt, lt_iff, units_zero.1, units_zero.2]
  cases hx : x.isNaN with
  | true => simp [units_of_isNaN hx]
  | false => simp

theorem sub_neg_iff : x - y < 0.0 ↔ x < y := by
  rw [neg_iff, lt_iff]
  by_cases h : x.isNaN = true ∨ y.isNaN = true
  · rw [units_sub_of_isNaN h]
    grind
  · obtain ⟨hx, hy⟩ : x.isNaN = false ∧ y.isNaN = false := by simpa using h
    rw [← Int.sign_eq_neg_one_iff_neg, sign_units_sub hx hy, Int.sign_eq_neg_one_iff_neg]
    grind

theorem sub_pos_iff : x - y > 0.0 ↔ y < x := by
  rw [pos_iff, lt_iff]
  by_cases h : x.isNaN = true ∨ y.isNaN = true
  · rw [units_sub_of_isNaN h]
    grind
  · obtain ⟨hx, hy⟩ : x.isNaN = false ∧ y.isNaN = false := by simpa using h
    rw [← Int.sign_eq_one_iff_pos, sign_units_sub hx hy, Int.sign_eq_one_iff_pos]
    grind

end Double

end SplitScreen
