import Norma.Lib.CNumber
import Mathlib.Tactic.Ring
import Mathlib.Order.Compare

namespace FloatOrder

open Float.Model (UnpackedFloat)
open Float.Model.UnpackedFloat (Sign)

-- The form in which every packed number is read back.
structure Canonical (m : Nat) (e : Int) : Prop where
  mantissa_lt : m < 2 ^ 53
  exponent_ge : -1074 ≤ e
  normal : e = -1074 ∨ 2 ^ 52 ≤ m

-- The number of smallest subnormal numbers in 1.
def unitsOfOne : Nat := 2 ^ 1074

def units (m : Nat) (e : Int) : Nat := m * 2 ^ (e + 1074).toNat

-- The value of a finite number, counted in the smallest subnormal number.
def valueOf : UnpackedFloat → Int
  | .finite s m e _ => CNumber.signedInt s (units m e)
  | _ => 0

def value (x : Float) : Int := valueOf x.toModel.unpack

theorem implicit_bit (mantissa : BitVec 52) : (1#1 ++ mantissa).toNat = 2 ^ 52 + mantissa.toNat := by
  rw [BitVec.toNat_append, ← Nat.shiftLeft_add_eq_or_of_lt mantissa.isLt]
  rfl

theorem unpack_canonical {x : Float} {s : Sign} {m : Nat} {e : Int} {h : 0 < m}
    (hx : x.toModel.unpack = .finite s m e h) : Canonical m e := by
  let bits := x.toModel.toBits.toBitVec
  let mantissa : BitVec 52 := @UnpackedFloat.unpackMantissa .binary64 bits
  let exponent : BitVec 11 := @UnpackedFloat.unpackExponent .binary64 bits
  have hmantissa : mantissa.toNat < 2 ^ 52 := mantissa.isLt
  unfold Float.Model.unpack UnpackedFloat.unpack at hx
  dsimp only at hx
  by_cases hones : exponent = -1#11
  · rw [if_pos hones] at hx
    by_cases hzero : mantissa = 0#52
    · rw [if_pos hzero] at hx
      cases hx
    · rw [if_neg hzero] at hx
      cases hx
  · rw [if_neg hones] at hx
    by_cases hzero : exponent = 0#11
    · rw [if_pos hzero] at hx
      by_cases hnone : mantissa = 0#52
      · rw [dif_pos hnone] at hx
        cases hx
      · rw [dif_neg hnone] at hx
        cases hx
        have hexponent : exponent.toNat = 0 := congrArg BitVec.toNat hzero
        have hvalue : (exponent.toNat : Int) - 1075 + 1 = -1074 := by omega
        exact ⟨Nat.lt_trans hmantissa (by decide), hvalue.ge, .inl hvalue⟩
    · rw [if_neg hzero] at hx
      cases hx
      have hexponent : exponent.toNat ≠ 0 := fun h0 => hzero (BitVec.eq_of_toNat_eq h0)
      have hbits := implicit_bit mantissa
      have hvalue : (-1074 : Int) ≤ (exponent.toNat : Int) - 1075 := by omega
      refine ⟨?_, hvalue, .inr ?_⟩
      · change (1#1 ++ mantissa).toNat < 2 ^ 53
        omega
      · change 2 ^ 52 ≤ (1#1 ++ mantissa).toNat
        omega

theorem units_lt {m n : Nat} {e f : Int} (hm : Canonical m e) (hn : Canonical n f) (h : e < f) :
    units m e < units n f := by
  have hnormal : 2 ^ 52 ≤ n := by
    rcases hn.normal with hsub | hnormal
    · have := hm.exponent_ge
      omega
    · exact hnormal
  have hexponent : (e + 1074).toNat + 1 ≤ (f + 1074).toNat := by
    have := hm.exponent_ge
    omega
  calc units m e < 2 ^ 53 * 2 ^ (e + 1074).toNat :=
        Nat.mul_lt_mul_of_pos_right hm.mantissa_lt (Nat.two_pow_pos _)
    _ = 2 ^ 52 * 2 ^ ((e + 1074).toNat + 1) := by ring
    _ ≤ n * 2 ^ (f + 1074).toNat :=
        Nat.mul_le_mul hnormal (Nat.pow_le_pow_right (by decide) hexponent)

theorem compare_units {m n : Nat} {e f : Int} (hm : Canonical m e) (hn : Canonical n f) :
    (compare e f).then (compare m n) = compare (units m e) (units n f) := by
  rcases lt_trichotomy e f with hlt | rfl | hgt
  · rw [compare_lt_iff_lt.mpr hlt, compare_lt_iff_lt.mpr (units_lt hm hn hlt)]
    rfl
  · have hpos : 0 < 2 ^ (e + 1074).toNat := Nat.two_pow_pos _
    rw [compare_eq_iff_eq.mpr rfl]
    change compare m n = compare (m * _) (n * _)
    rcases lt_trichotomy m n with hless | rfl | hmore
    · rw [compare_lt_iff_lt.mpr hless,
        compare_lt_iff_lt.mpr (Nat.mul_lt_mul_of_pos_right hless hpos)]
    · rw [compare_eq_iff_eq.mpr rfl, compare_eq_iff_eq.mpr rfl]
    · rw [compare_gt_iff_gt.mpr hmore,
        compare_gt_iff_gt.mpr (Nat.mul_lt_mul_of_pos_right hmore hpos)]
  · rw [compare_gt_iff_gt.mpr hgt, compare_gt_iff_gt.mpr (units_lt hn hm hgt)]
    rfl

theorem units_pos {m : Nat} (h : 0 < m) (e : Int) : 0 < units m e :=
  Nat.mul_pos h (Nat.two_pow_pos _)

def CanonicalFloat : UnpackedFloat → Prop
  | .finite _ m e _ => Canonical m e
  | _ => True

theorem unpack_canonicalFloat (x : Float) : CanonicalFloat x.toModel.unpack := by
  cases hx : x.toModel.unpack with
  | finite s m e h => exact unpack_canonical hx
  | _ => trivial

theorem compare_natCast (m n : Nat) : compare (m : Int) (n : Int) = compare m n := by
  rcases lt_trichotomy m n with hlt | rfl | hgt
  · rw [compare_lt_iff_lt.mpr hlt, compare_lt_iff_lt.mpr (Int.ofNat_lt.mpr hlt)]
  · rw [compare_eq_iff_eq.mpr rfl, compare_eq_iff_eq.mpr rfl]
  · rw [compare_gt_iff_gt.mpr hgt, compare_gt_iff_gt.mpr (Int.ofNat_lt.mpr hgt)]

theorem compare_neg (m n : Int) : compare (-m) (-n) = (compare m n).swap := by
  rcases lt_trichotomy m n with hlt | rfl | hgt
  · rw [compare_lt_iff_lt.mpr hlt, compare_gt_iff_gt.mpr (Int.neg_lt_neg hlt)]
    rfl
  · rw [compare_eq_iff_eq.mpr rfl, compare_eq_iff_eq.mpr rfl]
    rfl
  · rw [compare_gt_iff_gt.mpr hgt, compare_lt_iff_lt.mpr (Int.neg_lt_neg hgt)]
    rfl

theorem compare_valueOf {a b : UnpackedFloat} (ha : CanonicalFloat a) (hb : CanonicalFloat b)
    (hfa : a.isFinite = true) (hfb : b.isFinite = true) :
    a.compare b = some (compare (valueOf a) (valueOf b)) := by
  cases a with
  | notANumber => cases hfa
  | infinity s => cases hfa
  | zero s =>
    cases b with
    | notANumber => cases hfb
    | infinity t => cases hfb
    | zero t => rfl
    | finite t n f hn =>
      have hpos := units_pos hn f
      cases t with
      | positive =>
        refine congrArg some (compare_lt_iff_lt.mpr ?_).symm
        change (0 : Int) < (units n f : Int)
        omega
      | negative =>
        refine congrArg some (compare_gt_iff_gt.mpr ?_).symm
        change -(units n f : Int) < 0
        omega
  | finite s m e hm =>
    have hpos := units_pos hm e
    cases b with
    | notANumber => cases hfb
    | infinity t => cases hfb
    | zero t =>
      cases s with
      | positive =>
        refine congrArg some (compare_gt_iff_gt.mpr ?_).symm
        change (0 : Int) < (units m e : Int)
        omega
      | negative =>
        refine congrArg some (compare_lt_iff_lt.mpr ?_).symm
        change -(units m e : Int) < 0
        omega
    | finite t n f hn =>
      have hpos' := units_pos hn f
      have hunits := compare_units ha hb
      cases s with
      | positive =>
        cases t with
        | positive =>
          change some ((compare e f).then (compare m n)) = _
          rw [hunits]
          exact congrArg some (compare_natCast _ _).symm
        | negative =>
          refine congrArg some (compare_gt_iff_gt.mpr ?_).symm
          change -(units n f : Int) < (units m e : Int)
          omega
      | negative =>
        cases t with
        | positive =>
          refine congrArg some (compare_lt_iff_lt.mpr ?_).symm
          change -(units m e : Int) < (units n f : Int)
          omega
        | negative =>
          change some ((compare e f).then (compare m n)).swap = _
          rw [hunits, ← compare_natCast, ← compare_neg]
          rfl

variable {x y lo hi : Float}

theorem lt_iff_compare : x < y ↔ x.toModel.unpack.compare y.toModel.unpack = some .lt := by
  change decide (x.toModel < y.toModel) = true ↔ _
  rw [decide_eq_true_iff]
  change (x.toModel.unpack.compare y.toModel.unpack == some .lt) = true ↔ _
  rw [beq_iff_eq]

theorem le_iff_compare :
    x ≤ y ↔ (x.toModel.unpack.compare y.toModel.unpack).any (·.isLE) = true := by
  change decide (x.toModel ≤ y.toModel) = true ↔ _
  rw [decide_eq_true_iff]
  rfl

theorem compare_value (hx : x.isFinite = true) (hy : y.isFinite = true) :
    x.toModel.unpack.compare y.toModel.unpack = some (compare (value x) (value y)) :=
  compare_valueOf (unpack_canonicalFloat x) (unpack_canonicalFloat y) hx hy

theorem lt_iff (hx : x.isFinite = true) (hy : y.isFinite = true) : x < y ↔ value x < value y := by
  rw [lt_iff_compare, compare_value hx hy, Option.some.injEq, compare_lt_iff_lt]

theorem le_iff (hx : x.isFinite = true) (hy : y.isFinite = true) : x ≤ y ↔ value x ≤ value y := by
  rw [le_iff_compare, compare_value hx hy, Option.any_some, Ordering.isLE_iff_ne_gt,
    compare_gt_iff_gt, not_lt]

theorem finite_of_range (hlo : lo.isFinite = true) (hhi : hi.isFinite = true)
    (hnan : x.isNaN = false) (hlow : ¬x < lo) (hhigh : ¬hi < x) : x.isFinite = true := by
  rw [lt_iff_compare] at hlow hhigh
  change x.toModel.unpack.isFinite = true
  change x.toModel.unpack.isNaN = false at hnan
  change lo.toModel.unpack.isFinite = true at hlo
  change hi.toModel.unpack.isFinite = true at hhi
  cases hx : x.toModel.unpack with
  | notANumber =>
    rw [hx] at hnan
    exact absurd hnan (by decide)
  | zero s => rfl
  | finite s m e h => rfl
  | infinity s =>
    rw [hx] at hlow hhigh
    cases s with
    | positive =>
      refine absurd ?_ hhigh
      cases hu : hi.toModel.unpack with
      | notANumber =>
        rw [hu] at hhi
        exact Bool.noConfusion hhi
      | infinity t =>
        rw [hu] at hhi
        exact Bool.noConfusion hhi
      | zero t => rfl
      | finite t n f hn => cases t <;> rfl
    | negative =>
      refine absurd ?_ hlow
      cases hu : lo.toModel.unpack with
      | notANumber =>
        rw [hu] at hlo
        exact Bool.noConfusion hlo
      | infinity t =>
        rw [hu] at hlo
        exact Bool.noConfusion hlo
      | zero t => rfl
      | finite t n f hn => cases t <;> rfl

theorem finite_of_le (hlo : lo.isFinite = true) (hhi : hi.isFinite = true) (hlow : lo ≤ x)
    (hhigh : x ≤ hi) : x.isFinite = true := by
  rw [le_iff_compare] at hlow hhigh
  change x.toModel.unpack.isFinite = true
  change lo.toModel.unpack.isFinite = true at hlo
  change hi.toModel.unpack.isFinite = true at hhi
  cases hx : x.toModel.unpack with
  | notANumber =>
    rw [hx] at hhigh
    cases hhigh
  | zero s => rfl
  | finite s m e h => rfl
  | infinity s =>
    rw [hx] at hlow hhigh
    cases s with
    | positive =>
      cases hu : hi.toModel.unpack with
      | notANumber =>
        rw [hu] at hhi
        exact Bool.noConfusion hhi
      | infinity t =>
        rw [hu] at hhi
        exact Bool.noConfusion hhi
      | zero t =>
        rw [hu] at hhigh
        cases hhigh
      | finite t n f hn =>
        rw [hu] at hhigh
        cases t <;> cases hhigh
    | negative =>
      cases hu : lo.toModel.unpack with
      | notANumber =>
        rw [hu] at hlo
        exact Bool.noConfusion hlo
      | infinity t =>
        rw [hu] at hlo
        exact Bool.noConfusion hlo
      | zero t =>
        rw [hu] at hlow
        cases hlow
      | finite t n f hn =>
        rw [hu] at hlow
        cases t <;> cases hlow

theorem unpack_of_nan (h : x.isNaN = true) : x.toModel.unpack = .notANumber := by
  change x.toModel.unpack.isNaN = true at h
  cases hx : x.toModel.unpack with
  | notANumber => rfl
  | _ =>
    rw [hx] at h
    exact Bool.noConfusion h

theorem nan_not_lt (h : x.isNaN = true) : ¬x < y := by
  rw [lt_iff_compare, unpack_of_nan h]
  cases y.toModel.unpack <;> nofun

theorem not_lt_nan (h : x.isNaN = true) : ¬y < x := by
  rw [lt_iff_compare, unpack_of_nan h]
  cases y.toModel.unpack <;> nofun

theorem not_nan_of_finite (h : x.isFinite = true) : x.isNaN = false := by
  change x.toModel.unpack.isFinite = true at h
  change x.toModel.unpack.isNaN = false
  cases hx : x.toModel.unpack with
  | notANumber =>
    rw [hx] at h
    exact Bool.noConfusion h
  | _ => rfl

theorem value_of_range (hlo : lo.isFinite = true) (hhi : hi.isFinite = true)
    (hnan : x.isNaN = false) (hlow : ¬x < lo) (hhigh : ¬hi < x) :
    value lo ≤ value x ∧ value x ≤ value hi := by
  have hx := finite_of_range hlo hhi hnan hlow hhigh
  rw [lt_iff hx hlo, Int.not_lt] at hlow
  rw [lt_iff hhi hx, Int.not_lt] at hhigh
  exact ⟨hlow, hhigh⟩

theorem mem_range (hlo : lo.isFinite = true) (hhi : hi.isFinite = true) (hnan : x.isNaN = false)
    (hlow : ¬x < lo) (hhigh : ¬hi < x) : lo ≤ x ∧ x ≤ hi := by
  have hx := finite_of_range hlo hhi hnan hlow hhigh
  obtain ⟨hvalue, hvalue'⟩ := value_of_range hlo hhi hnan hlow hhigh
  exact ⟨(le_iff hlo hx).mpr hvalue, (le_iff hx hhi).mpr hvalue'⟩

theorem unitsOfOne_split {k l : Nat} (h : k + l = 1074) : unitsOfOne = 2 ^ k * 2 ^ l := by
  rw [← Nat.pow_add, h]
  rfl

theorem unitsOfOne_pos : 0 < unitsOfOne := by
  obtain ⟨k, hk⟩ : ∃ k, k + 0 = 1074 := ⟨_, rfl⟩
  rw [unitsOfOne_split hk]
  exact Nat.mul_pos (Nat.two_pow_pos _) (Nat.two_pow_pos _)

theorem units_of_nonneg {m : Nat} {e : Int} (he : 0 ≤ e) :
    units m e = m * 2 ^ e.toNat * unitsOfOne := by
  obtain ⟨k, hk⟩ : ∃ k, k + 0 = 1074 := ⟨_, rfl⟩
  have hsum : (e + 1074).toNat = e.toNat + k := by omega
  rw [unitsOfOne_split hk, units, hsum]
  ring

theorem magnitude_div {m : Nat} {e : Int} (he : -1074 ≤ e) :
    (CNumber.magnitude m e).1 / (CNumber.magnitude m e).2 = units m e / unitsOfOne := by
  rcases Int.le_total 0 e with hpos | hneg
  · have hzero : (-e).toNat = 0 := by omega
    rw [units_of_nonneg hpos, Nat.mul_div_cancel _ unitsOfOne_pos, CNumber.magnitude, hzero]
    exact Nat.div_one _
  · have hzero : e.toNat = 0 := by omega
    have hsum : (-e).toNat + (e + 1074).toNat = 1074 := by omega
    rw [unitsOfOne_split hsum, units, Nat.mul_div_mul_right _ _ (Nat.two_pow_pos _),
      CNumber.magnitude, hzero, Nat.pow_zero, Nat.mul_one]

theorem truncInt32_eq (hx : x.isFinite = true) (hlow : 0 ≤ value x)
    (hhigh : value x < 2 ^ 31 * unitsOfOne) : CNumber.truncInt32 x = value x / unitsOfOne := by
  change x.toModel.unpack.isFinite = true at hx
  unfold value at hlow hhigh ⊢
  unfold CNumber.truncInt32
  have hcanonical := unpack_canonicalFloat x
  cases hu : x.toModel.unpack with
  | notANumber =>
    rw [hu] at hx
    exact Bool.noConfusion hx
  | infinity s =>
    rw [hu] at hx
    exact Bool.noConfusion hx
  | zero s => exact (Int.zero_ediv _).symm
  | finite s m e hm =>
    rw [hu] at hlow hhigh hcanonical
    have hpos := units_pos hm e
    cases s with
    | negative =>
      change (0 : Int) ≤ -(units m e : Int) at hlow
      omega
    | positive =>
      have hdiv := magnitude_div (m := m) hcanonical.exponent_ge
      have hless : units m e / unitsOfOne < 2 ^ 31 := by
        rw [Nat.div_lt_iff_lt_mul unitsOfOne_pos]
        change (units m e : Int) < 2 ^ 31 * unitsOfOne at hhigh
        exact_mod_cast hhigh
      dsimp only
      rw [hdiv]
      have hcast : ((units m e / unitsOfOne : Nat) : Int) < 2 ^ 31 := by exact_mod_cast hless
      exact (if_pos ⟨Int.le_trans (by decide) (Int.natCast_nonneg _), hcast⟩).trans rfl

theorem truncInt32_bounds {low high : Int} (hlo : lo.isFinite = true) (hhi : hi.isFinite = true)
    (hlowest : value lo = low * unitsOfOne) (hhighest : value hi = high * unitsOfOne)
    (hzero : 0 ≤ low) (hsmall : high < 2 ^ 31) (hnan : x.isNaN = false) (hlow : ¬x < lo)
    (hhigh : ¬hi < x) : low ≤ CNumber.truncInt32 x ∧ CNumber.truncInt32 x ≤ high := by
  have hx := finite_of_range hlo hhi hnan hlow hhigh
  obtain ⟨hlow, hhigh⟩ := value_of_range hlo hhi hnan hlow hhigh
  rw [hlowest] at hlow
  rw [hhighest] at hhigh
  have hunit : (0 : Int) < unitsOfOne := Int.natCast_pos.mpr unitsOfOne_pos
  have hvalue : 0 ≤ value x := Int.le_trans (Int.mul_nonneg hzero (Int.le_of_lt hunit)) hlow
  have hfits : value x < 2 ^ 31 * unitsOfOne :=
    Int.lt_of_le_of_lt hhigh (Int.mul_lt_mul_of_pos_right hsmall hunit)
  rw [truncInt32_eq hx hvalue hfits]
  constructor
  · exact (Int.le_ediv_iff_mul_le hunit).mpr hlow
  · calc value x / unitsOfOne ≤ high * unitsOfOne / unitsOfOne := Int.ediv_le_ediv hunit hhigh
      _ = high := Int.mul_ediv_cancel _ (Int.ne_of_gt hunit)

end FloatOrder
