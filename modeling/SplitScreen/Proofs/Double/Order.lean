import Mathlib.Algebra.Group.Nat.Defs
import SplitScreen.Decimal

/-!
Doubles in order. Every finite double is a multiple of the smallest one, so its place among the
others is told by an integer, the number of those units (`units`); the infinities stand beyond all
of them. Doubles that are numbers are compared by their units (`lt_iff`, `beq_iff`), so they are in a
total order (`lt_trichotomy`), and a double that is no number is neither below nor above any other.
-/

namespace SplitScreen

namespace Double

open Float.Model Float.Model.UnpackedFloat

/-- A mantissa at an exponent, in units of the smallest double. -/
def scaled (mantissa : Nat) (exponent : Int) : Nat := mantissa * 2 ^ (exponent + 1074).toNat

/-- More units than any finite double has. -/
def beyond : Nat := scaled (2 ^ 53) 971

/-- An unpacked double in units of the smallest one. -/
def unitsOf : UnpackedFloat → Int
  | .finite sign mantissa exponent _ => sign.apply (scaled mantissa exponent)
  | .infinity sign => sign.apply beyond
  | .zero _ | .notANumber => 0

def units (x : Float) : Int := unitsOf x.toModel.unpack

/-- What the unpacked form of a double may be: a mantissa of at most 53 bits, and of just as many
unless the exponent is the least. -/
def Canonical : UnpackedFloat → Prop
  | .finite _ mantissa exponent _ =>
    mantissa < 2 ^ 53 ∧ (2 ^ 52 ≤ mantissa ∨ exponent = -1074) ∧ -1074 ≤ exponent ∧ exponent ≤ 971
  | _ => True

theorem toNat_ne_of_ne {n : Nat} {v w : BitVec n} (h : v ≠ w) : v.toNat ≠ w.toNat :=
  fun heq => h (BitVec.eq_of_toNat_eq heq)

theorem toNat_implicit (mantissa : BitVec 52) :
    (1#1 ++ mantissa).toNat = 2 ^ 52 + mantissa.toNat := by
  rw [BitVec.toNat_append, ← Nat.shiftLeft_add_eq_or_of_lt mantissa.isLt]
  rfl

section Unpack

variable {mantissa : BitVec 52} {bits : BitVec 11} {s : Sign}

theorem canonical_subnormal {hm : 0 < mantissa.toNat} (hzero : bits = 0#11) :
    Canonical (.finite s mantissa.toNat (bits.toNat - 1075 + 1) hm) := by
  have hlt : mantissa.toNat < 2 ^ 52 := mantissa.isLt
  have hleast : bits.toNat = 0 := congrArg BitVec.toNat hzero
  refine ⟨?_, ?_, ?_, ?_⟩ <;> omega

theorem canonical_normal {hm : 0 < (1#1 ++ mantissa).toNat} (hones : bits ≠ -1#11)
    (hzero : bits ≠ 0#11) :
    Canonical (.finite s (1#1 ++ mantissa).toNat (bits.toNat - 1075) hm) := by
  have hlt : mantissa.toNat < 2 ^ 52 := mantissa.isLt
  have hbound : bits.toNat < 2 ^ 11 := bits.isLt
  have hpos : bits.toNat ≠ 0 := toNat_ne_of_ne hzero
  have hmax : bits.toNat ≠ 2047 := toNat_ne_of_ne hones
  have himplicit : (1#1 ++ mantissa).toNat = 2 ^ 52 + mantissa.toNat := toNat_implicit mantissa
  refine ⟨?_, ?_, ?_, ?_⟩ <;> omega

theorem canonical_unpack (x : Float.Model) : Canonical x.unpack := by
  change Canonical (UnpackedFloat.unpack Format.binary64 x.toBits.toBitVec)
  delta UnpackedFloat.unpack
  dsimp only
  by_cases hones : @unpackExponent Format.binary64 x.toBits.toBitVec = -1#11
  · rw [if_pos hones]
    split <;> exact trivial
  · rw [if_neg hones]
    by_cases hzero : @unpackExponent Format.binary64 x.toBits.toBitVec = 0#11
    · rw [if_pos hzero]
      by_cases hnone : @unpackMantissa Format.binary64 x.toBits.toBitVec = 0#52
      · rw [dif_pos hnone]
        exact trivial
      · rw [dif_neg hnone]
        exact canonical_subnormal hzero
    · rw [if_neg hzero]
      exact canonical_normal hones hzero

end Unpack

section Scaled

variable {m m' : Nat} {e e' : Int}

theorem scaled_pos (h : 0 < m) : 0 < scaled m e :=
  Nat.mul_pos h (Nat.two_pow_pos _)

theorem beyond_pos : 0 < beyond :=
  scaled_pos (Nat.two_pow_pos 53)

theorem scaled_mono (hm : m ≤ m') (he : e ≤ e') : scaled m e ≤ scaled m' e' :=
  Nat.mul_le_mul hm (Nat.pow_le_pow_right Nat.two_pos (by omega))

theorem scaled_strictMono (hm : m < m') : scaled m e < scaled m' e :=
  Nat.mul_lt_mul_of_pos_right hm (Nat.two_pow_pos _)

/-- A mantissa may be doubled instead of going to the next exponent. -/
theorem scaled_succ (he : -1074 ≤ e) : scaled m (e + 1) = scaled (2 * m) e := by
  have hk : (e + 1 + 1074).toNat = (e + 1074).toNat + 1 := by omega
  rw [scaled, scaled, hk, Nat.pow_succ]
  ac_rfl

theorem scaled_lt (hm : m < 2 ^ 53) (hm' : 2 ^ 52 ≤ m' ∨ e' = -1074) (he : -1074 ≤ e) (h : e < e') :
    scaled m e < scaled m' e' := by
  have hfull : 2 ^ 52 ≤ m' := hm'.resolve_right (by omega)
  calc
    scaled m e < scaled (2 * 2 ^ 52) e := scaled_strictMono hm
    _ = scaled (2 ^ 52) (e + 1) := (scaled_succ he).symm
    _ ≤ scaled m' e' := scaled_mono hfull h

theorem compare_scaled {hm : 0 < m} {hm' : 0 < m'} {s s' : Sign} (h : Canonical (.finite s m e hm))
    (h' : Canonical (.finite s' m' e' hm')) :
    (compare e e').then (compare m m') = compare (scaled m e) (scaled m' e') := by
  obtain ⟨hlt, hfull, hle, -⟩ := h
  obtain ⟨hlt', hfull', hle', -⟩ := h'
  rcases Int.lt_trichotomy e e' with he | rfl | he
  · rw [Int.compare_eq_lt.mpr he, Nat.compare_eq_lt.mpr (scaled_lt hlt hfull' hle he)]
    rfl
  · rw [Int.compare_eq_eq.mpr rfl, Ordering.eq_then]
    rcases Nat.lt_trichotomy m m' with hm | rfl | hm
    · rw [Nat.compare_eq_lt.mpr hm, Nat.compare_eq_lt.mpr (scaled_strictMono hm)]
    · rw [Nat.compare_eq_eq.mpr rfl, Nat.compare_eq_eq.mpr rfl]
    · rw [Nat.compare_eq_gt.mpr hm, Nat.compare_eq_gt.mpr (scaled_strictMono hm)]
  · rw [Int.compare_eq_gt.mpr he, Nat.compare_eq_gt.mpr (scaled_lt hlt' hfull hle' he)]
    rfl

end Scaled

section Compare

variable {u v : UnpackedFloat}

theorem unitsOf_bounds (h : Canonical u) (hinf : ∀ s, u ≠ .infinity s) :
    -(beyond : Int) < unitsOf u ∧ unitsOf u < beyond := by
  have hbeyond := beyond_pos
  cases u with
  | infinity s => exact absurd rfl (hinf s)
  | zero | notANumber =>
      change -(beyond : Int) < 0 ∧ (0 : Int) < beyond
      omega
  | finite s m e hm =>
      have hlt : scaled m e < beyond :=
        Nat.lt_of_lt_of_le (scaled_strictMono h.1) (scaled_mono (Nat.le_refl _) h.2.2.2)
      cases s with
      | negative =>
          change -(beyond : Int) < -(scaled m e : Int) ∧ -(scaled m e : Int) < beyond
          omega
      | positive =>
          change -(beyond : Int) < (scaled m e : Int) ∧ (scaled m e : Int) < beyond
          omega

theorem compare_natCast (a b : Nat) : compare (a : Int) (b : Int) = compare a b := by
  simp only [compare, compareOfLessAndEq, Int.ofNat_lt, Int.ofNat_inj]

theorem compare_neg_natCast (a b : Nat) : compare (-(a : Int)) (-b) = (compare a b).swap := by
  rw [Nat.compare_swap, ← compare_natCast]
  simp only [compare, compareOfLessAndEq, Int.neg_lt_neg_iff, Int.neg_inj, eq_comm]

variable {m : Nat} {e : Int} {hm : 0 < m}

theorem unitsOf_pos : 0 < unitsOf (.finite .positive m e hm) :=
  Int.ofNat_lt.mpr (scaled_pos hm)

theorem unitsOf_neg : unitsOf (.finite .negative m e hm) < 0 :=
  Int.neg_neg_of_pos (Int.ofNat_lt.mpr (scaled_pos hm))

theorem compare_eq (hu : Canonical u) (hv : Canonical v) (hu' : u ≠ .notANumber)
    (hv' : v ≠ .notANumber) : u.compare v = some (compare (unitsOf u) (unitsOf v)) := by
  have hbeyond : -(beyond : Int) < beyond := by
    have := beyond_pos
    omega
  -- The units are put aside, so that it is the comparison that is split.
  generalize hx : unitsOf u = x
  generalize hy : unitsOf v = y
  delta UnpackedFloat.compare
  split <;> subst hx hy
  · exact absurd rfl hu'
  · exact absurd rfl hv'
  · next s s' =>
      refine congrArg some (Eq.symm ?_)
      cases s <;> cases s'
      · exact Int.compare_eq_eq.mpr rfl
      · exact Int.compare_eq_lt.mpr hbeyond
      · exact Int.compare_eq_gt.mpr hbeyond
      · exact Int.compare_eq_eq.mpr rfl
  · next hinf => exact congrArg some (Int.compare_eq_gt.mpr (unitsOf_bounds hv hinf).2).symm
  · next hinf => exact congrArg some (Int.compare_eq_lt.mpr (unitsOf_bounds hv hinf).1).symm
  · next hinf => exact congrArg some (Int.compare_eq_lt.mpr (unitsOf_bounds hu hinf).2).symm
  · next hinf => exact congrArg some (Int.compare_eq_gt.mpr (unitsOf_bounds hu hinf).1).symm
  · exact congrArg some (Int.compare_eq_gt.mpr unitsOf_pos).symm
  · exact congrArg some (Int.compare_eq_lt.mpr unitsOf_neg).symm
  · exact congrArg some (Int.compare_eq_lt.mpr unitsOf_pos).symm
  · exact congrArg some (Int.compare_eq_gt.mpr unitsOf_neg).symm
  · rfl
  · rw [compare_scaled hu hv]
    exact congrArg some (compare_neg_natCast _ _).symm
  · exact congrArg some (Int.compare_eq_lt.mpr (Int.lt_trans unitsOf_neg unitsOf_pos)).symm
  · exact congrArg some (Int.compare_eq_gt.mpr (Int.lt_trans unitsOf_neg unitsOf_pos)).symm
  · rw [compare_scaled hu hv]
    exact congrArg some (compare_natCast _ _).symm

theorem ne_notANumber_of_compare {o : Ordering} (h : u.compare v = some o) :
    u ≠ .notANumber ∧ v ≠ .notANumber := by
  constructor
  · rintro rfl
    cases h
  · rintro rfl
    cases u <;> cases h

end Compare

theorem isNaN_iff {x : Float} : x.isNaN = true ↔ x.toModel.unpack = .notANumber := by
  change x.toModel.unpack.isNaN = true ↔ _
  cases x.toModel.unpack with
  | notANumber => exact iff_of_true rfl rfl
  | infinity | zero | finite => exact iff_of_false Bool.false_ne_true nofun

theorem isNaN_eq_false_iff {x : Float} : x.isNaN = false ↔ x.toModel.unpack ≠ .notANumber := by
  rw [← Bool.not_eq_true, ne_eq, isNaN_iff]

theorem units_of_isNaN {x : Float} (h : x.isNaN = true) : units x = 0 := by
  rw [units, isNaN_iff.mp h]
  rfl

theorem compare_eq_some_iff {x y : Float} {o : Ordering} :
    x.toModel.unpack.compare y.toModel.unpack = some o ↔
      x.isNaN = false ∧ y.isNaN = false ∧ compare (units x) (units y) = o := by
  rw [isNaN_eq_false_iff, isNaN_eq_false_iff]
  constructor
  · intro h
    obtain ⟨hx, hy⟩ := ne_notANumber_of_compare h
    rw [compare_eq (canonical_unpack _) (canonical_unpack _) hx hy] at h
    exact ⟨hx, hy, Option.some.inj h⟩
  · rintro ⟨hx, hy, h⟩
    rw [compare_eq (canonical_unpack _) (canonical_unpack _) hx hy]
    exact congrArg some h

variable {x y z : Float}

theorem lt_iff : x < y ↔ x.isNaN = false ∧ y.isNaN = false ∧ units x < units y := by
  rw [← Int.compare_eq_lt, ← compare_eq_some_iff]
  exact decide_eq_true_iff.trans beq_iff_eq

theorem beq_iff : (x == y) = true ↔ x.isNaN = false ∧ y.isNaN = false ∧ units x = units y := by
  rw [← Int.compare_eq_eq, ← compare_eq_some_iff]
  change (x.toModel.unpack.compare y.toModel.unpack == some .eq) = true ↔ _
  rw [beq_iff_eq]

theorem lt_irrefl (x : Float) : ¬ x < x :=
  fun h => Int.lt_irrefl _ (lt_iff.mp h).2.2

theorem lt_trans (h : x < y) (h' : y < z) : x < z := by
  rw [lt_iff] at *
  grind

theorem beq_symm (h : (x == y) = true) : (y == x) = true := by
  rw [beq_iff] at *
  exact ⟨h.2.1, h.1, h.2.2.symm⟩

theorem lt_of_beq_of_lt (h : (x == y) = true) (h' : y < z) : x < z := by
  rw [beq_iff] at h
  rw [lt_iff] at *
  grind

theorem lt_trichotomy (hx : x.isNaN = false) (hy : y.isNaN = false) :
    x < y ∨ (x == y) = true ∨ y < x := by
  simp only [lt_iff, beq_iff, hx, hy, true_and]
  omega

end Double

end SplitScreen
