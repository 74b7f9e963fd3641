import Norma.Lib.FloatOrder

namespace FloatOrder

open Float.Model (UnpackedFloat Format totalExponent)
open Float.Model.UnpackedFloat

section Pack

theorem unpackSign_packComponents (s : Sign) (exponent : BitVec 11) (mantissa : BitVec 52) :
    @unpackSign .binary64 (packComponents .binary64 s exponent mantissa) = s.toBitVec := by
  refine BitVec.eq_of_getLsbD_eq fun i hi => ?_
  obtain rfl : i = 0 := by omega
  delta unpackSign packComponents
  simp only [BitVec.getLsbD_cast, BitVec.getLsbD_extractLsb]
  rw [BitVec.getLsbD_append, BitVec.getLsbD_append]
  simp

theorem ofBitVec_toBitVec (s : Sign) : Sign.ofBitVec s.toBitVec = s := by
  cases s <;> rfl

theorem bitVec_ne {w n : Nat} {b : BitVec w} (hn : n < 2 ^ w) (h : n ≠ b.toNat) :
    BitVec.ofNat w n ≠ b := by
  rintro rfl
  rw [BitVec.toNat_ofNat, Nat.mod_eq_of_lt hn] at h
  exact h rfl

theorem log2_normal {m : Nat} (hlow : 2 ^ 52 ≤ m) (hhigh : m < 2 ^ 53) : m.log2 = 52 :=
  (Nat.log2_eq_iff (by omega)).mpr ⟨hlow, hhigh⟩

theorem finite_eq {s : Sign} {m n : Nat} {e f : Int} (hm : 0 < m) (hn : 0 < n) (hmn : m = n)
    (hef : e = f) : UnpackedFloat.finite s m e hm = .finite s n f hn := by
  subst hmn hef
  rfl

theorem unpack_parts {b : BitVec Format.binary64.numBits} {exponent : BitVec 11}
    {mantissa : BitVec 52} {s : Sign} (hexponent : @unpackExponent .binary64 b = exponent)
    (hmantissa : @unpackMantissa .binary64 b = mantissa)
    (hsign : Sign.ofBitVec (@unpackSign .binary64 b) = s) (hones : exponent ≠ -1#11) :
    (exponent ≠ 0#11 → ∃ hpos, UnpackedFloat.unpack .binary64 b =
        .finite s (1#1 ++ mantissa).toNat (exponent.toNat - 1075) hpos) ∧
      (exponent = 0#11 → mantissa ≠ 0#52 → ∃ hpos, UnpackedFloat.unpack .binary64 b =
        .finite s mantissa.toNat (exponent.toNat - 1075 + 1) hpos) := by
  subst hexponent hmantissa hsign
  constructor
  · intro hzero
    exact ⟨_, (if_neg hones).trans (if_neg hzero)⟩
  · intro hzero hsome
    exact ⟨_, ((if_neg hones).trans (if_pos hzero)).trans (dif_neg hsome)⟩

theorem unpack_pack {s : Sign} {m : Nat} {e : Int} (h : 0 < m) (hcanonical : Canonical m e)
    (hexponent : e ≤ 971) :
    (Float.Model.pack (.finite s m e h)).unpack = .finite s m e h := by
  have hlow := hcanonical.exponent_ge
  have hlt := hcanonical.mantissa_lt
  change UnpackedFloat.unpack .binary64 (UnpackedFloat.pack .binary64 (.finite s m e h)) = _
  obtain ⟨biased, hbiased⟩ : ∃ biased : Nat, (biased : Int) = e + 1023 + 52 :=
    ⟨(e + 1023 + 52).toNat, by omega⟩
  have hpack : (e + Format.exponentBias .binary64 + (52 : Nat)).toNat = biased := by
    change (e + 1023 + 52).toNat = biased
    omega
  delta UnpackedFloat.pack
  dsimp only
  rw [hpack, if_neg (show ¬2 ^ 11 ≤ biased + 1 by omega)]
  by_cases hnormal : 2 ^ 52 ≤ m
  · have hlog : m.log2 + 1 = Format.mantissaBits .binary64 := by
      rw [log2_normal hnormal hlt]
      rfl
    rw [if_pos hlog]
    have hones : BitVec.ofNat 11 biased ≠ -1#11 := bitVec_ne (by omega) (by simp; omega)
    have hzero : BitVec.ofNat 11 biased ≠ 0#11 := bitVec_ne (by omega) (by simp; omega)
    obtain ⟨hpos, hunpack⟩ := (unpack_parts (unpackExponent_packComponents ..)
      (unpackMantissa_packComponents ..)
      ((congrArg _ (unpackSign_packComponents ..)).trans (ofBitVec_toBitVec s)) hones).1 hzero
    refine hunpack.trans (finite_eq hpos h ?_ ?_)
    · rw [implicit_bit, BitVec.toNat_ofNat]
      omega
    · rw [BitVec.toNat_ofNat]
      omega
  · obtain he : e = -1074 := hcanonical.normal.resolve_right hnormal
    have hlog : m.log2 + 1 ≠ Format.mantissaBits .binary64 := by
      change m.log2 + 1 ≠ 53
      have := (Nat.log2_lt (Nat.ne_of_gt h)).mpr (show m < 2 ^ 52 by omega)
      omega
    rw [if_neg hlog]
    have hones : (0#11 : BitVec 11) ≠ -1#11 := by decide
    have hmantissa : BitVec.ofNat 52 m ≠ 0#52 := bitVec_ne (by omega) (by simp; omega)
    obtain ⟨hpos, hunpack⟩ := (unpack_parts (unpackExponent_packComponents ..)
      (unpackMantissa_packComponents ..)
      ((congrArg _ (unpackSign_packComponents ..)).trans (ofBitVec_toBitVec s)) hones).2 rfl
        hmantissa
    refine hunpack.trans (finite_eq hpos h ?_ ?_)
    · rw [BitVec.toNat_ofNat]
      omega
    · rw [he]
      rfl

end Pack

section Round

theorem shift_mantissa (em : ExtendedMantissa) (n : Nat) :
    (em >>> n).mantissa = em.mantissa / 2 ^ n := by
  change (n.repeat ExtendedMantissa.shiftRightOne em).mantissa = _
  induction n with
  | zero => simp [Nat.repeat]
  | succ n ih =>
    change (n.repeat ExtendedMantissa.shiftRightOne em).mantissa / 2 = _
    rw [ih, Nat.div_div_eq_div_mul, Nat.pow_succ]

theorem shift_exact {m n : Nat} (h : 2 ^ n ∣ m) :
    (⟨m, false, false⟩ : ExtendedMantissa) >>> n = ⟨m / 2 ^ n, false, false⟩ := by
  change n.repeat ExtendedMantissa.shiftRightOne ⟨m, false, false⟩ = _
  induction n with
  | zero => simp [Nat.repeat]
  | succ n ih =>
    obtain ⟨k, rfl⟩ := h
    have hsplit : 2 ^ (n + 1) * k / 2 ^ n = 2 * k := by
      rw [Nat.pow_succ, Nat.mul_assoc, Nat.mul_div_cancel_left _ (Nat.two_pow_pos _)]
    change (n.repeat ExtendedMantissa.shiftRightOne _).shiftRightOne = _
    rw [ih ⟨2 * k, by ring⟩, hsplit, Nat.mul_div_cancel_left _ (Nat.two_pow_pos _)]
    simp [ExtendedMantissa.shiftRightOne]

theorem ofMantissaAndAccuracy_mantissa (m : Nat) (accuracy : Accuracy) :
    (ExtendedMantissa.ofMantissaAndAccuracy m accuracy).mantissa = m := by
  cases accuracy with
  | exact => rfl
  | inexact order => cases order <;> rfl

theorem roundedMantissa_bounds (em : ExtendedMantissa) :
    em.mantissa ≤ em.roundedMantissa ∧ em.roundedMantissa ≤ em.mantissa + 1 := by
  obtain ⟨m, roundBit, stickyBit⟩ := em
  have hmod := Nat.mod_lt m (show 0 < 2 by decide)
  cases roundBit <;> cases stickyBit <;>
    simp only [ExtendedMantissa.roundedMantissa, ExtendedMantissa.accuracy,
      Accuracy.roundToNearestEven] <;> omega

structure Rounds (a b n : Nat) : Prop where
  low : a / b ≤ n
  high : n ≤ a / b + 1
  exact : b ∣ a → n = a / b

theorem Rounds.le {a b n k : Nat} (h : Rounds a b n) (hb : 0 < b) (hk : k * b ≤ a) : k ≤ n :=
  Nat.le_trans ((Nat.le_div_iff_mul_le hb).mpr hk) h.low

theorem Rounds.ge {a b n k : Nat} (h : Rounds a b n) (hk : a ≤ k * b) : n ≤ k := by
  have hquotient : a / b ≤ k := Nat.div_le_of_le_mul (by rwa [Nat.mul_comm])
  rcases Nat.lt_or_eq_of_le hquotient with hlt | heq
  · exact Nat.le_trans h.high hlt
  · have hwhole : a = a / b * b :=
      Nat.le_antisymm (by rwa [heq]) (Nat.div_mul_le_self a b)
    exact (h.exact ⟨a / b, by rw [Nat.mul_comm, ← hwhole]⟩).trans heq |>.le

theorem Rounds.scale {a b n c : Nat} (h : Rounds a b n) (hc : 0 < c) :
    Rounds (a * c) (b * c) n := by
  obtain ⟨hlow, hhigh, hexact⟩ := h
  have hquotient : a * c / (b * c) = a / b := Nat.mul_div_mul_right a b hc
  exact ⟨hquotient ▸ hlow, hquotient ▸ hhigh, fun hdvd =>
    hquotient ▸ hexact (Nat.dvd_of_mul_dvd_mul_right hc hdvd)⟩

theorem rounds_shift {m₁ m₂ : Nat} (hm₂ : 0 < m₂) (l n : Nat) :
    Rounds (m₁ * 2 ^ l) (m₂ * 2 ^ n)
      (ExtendedMantissa.ofMantissaAndAccuracy (m₁ * 2 ^ l / m₂)
        (accuracyOfFraction (m₁ * 2 ^ l % m₂) m₂) >>> n).roundedMantissa := by
  have hbounds := roundedMantissa_bounds (ExtendedMantissa.ofMantissaAndAccuracy (m₁ * 2 ^ l / m₂)
    (accuracyOfFraction (m₁ * 2 ^ l % m₂) m₂) >>> n)
  rw [shift_mantissa, ofMantissaAndAccuracy_mantissa, Nat.div_div_eq_div_mul] at hbounds
  refine ⟨hbounds.1, hbounds.2, fun hdvd => ?_⟩
  obtain ⟨k, hk⟩ := hdvd
  have hrest : m₁ * 2 ^ l % m₂ = 0 := by
    rw [hk, Nat.mul_assoc, Nat.mul_mod_right]
  have hquotient : m₁ * 2 ^ l / m₂ = 2 ^ n * k := by
    rw [hk, Nat.mul_assoc, Nat.mul_div_cancel_left _ hm₂]
  rw [hrest, ← Nat.div_div_eq_div_mul, hquotient]
  change ((⟨2 ^ n * k, false, false⟩ : ExtendedMantissa) >>> n).roundedMantissa = _
  rw [shift_exact ⟨k, rfl⟩]
  rfl

theorem shiftToExponent_le {n : Nat} {e target : Int} (h : target ≤ e) :
    shiftToExponent n e .exact target = (⟨n, false, false⟩, e) := by
  have hshift : (target - e).toNat = 0 := by omega
  rw [shiftToExponent, hshift]
  exact Prod.ext rfl (Int.add_zero e)

theorem units_carry {e : Int} (he : -1074 ≤ e) : units (2 ^ 52) (e + 1) = units (2 ^ 53) e := by
  have hexponent : (e + 1 + 1074).toNat = (e + 1074).toNat + 1 := by omega
  rw [units, units, hexponent]
  ring

-- The second shift only takes up the carry of the rounding.
theorem shiftToTarget_carry {n : Nat} {e : Int} (he : -1074 ≤ e) (hn : n ≤ 2 ^ 53)
    (hnormal : e = -1074 ∨ 2 ^ 52 ≤ n) :
    ∃ m f, shiftToTargetExponent .binary64 n e .exact = (⟨m, false, false⟩, f) ∧
      units m f = units n e ∧ Canonical m f := by
  rcases Nat.lt_or_eq_of_le hn with hlt | rfl
  · refine ⟨n, e, shiftToExponent_le ?_, rfl, hlt, he, hnormal⟩
    have hlog : n.log2 ≤ 52 := by
      rcases Nat.eq_zero_or_pos n with rfl | hpos
      · decide
      · have := (Nat.log2_lt (Nat.ne_of_gt hpos)).mpr hlt
        omega
    change max ((n.log2 : Int) + 1 + e - 53) (-1074) ≤ e
    omega
  · have htarget : Format.targetExponent .binary64 (totalExponent (2 ^ 53) e) = e + 1 := by
      change max (((2 ^ 53 : Nat).log2 : Int) + 1 + e - 53) (-1074) = e + 1
      rw [Nat.log2_two_pow]
      omega
    have hshift : (e + 1 - e).toNat = 1 := by omega
    refine ⟨2 ^ 52, e + 1, ?_, units_carry he, by decide, by omega, .inr (Nat.le_refl _)⟩
    rw [shiftToTargetExponent, htarget, shiftToExponent, hshift]
    rfl

inductive Nonnegative : UnpackedFloat → Nat → Prop where
  | zero : Nonnegative (.zero .positive) 0
  | finite {m : Nat} {e : Int} (h : 0 < m) (hcanonical : Canonical m e) :
      Nonnegative (.finite .positive m e h) (units m e)

theorem roundWithAccuracy_rounds {q : Nat} {accuracy : Accuracy} {n : Nat} {f : Int}
    (hshift : (shiftToTargetExponent .binary64 q e accuracy).1.roundedMantissa = n)
    (hexponent : (shiftToTargetExponent .binary64 q e accuracy).2 = f) (he : -1074 ≤ f)
    (hn : n ≤ 2 ^ 53) (hnormal : f = -1074 ∨ 2 ^ 52 ≤ n) :
    Nonnegative (roundWithAccuracy .binary64 .positive q e accuracy) (units n f) := by
  obtain ⟨m, f', hcarry, hunits, hcanonical⟩ := shiftToTarget_carry he hn hnormal
  have hfinal (r : ExtendedMantissa × Int) (hr : r = (⟨m, false, false⟩, f')) :
      Nonnegative (if hzero : r.1.mantissa = 0 then .zero .positive
        else .finite .positive r.1.mantissa r.2 (Nat.pos_of_ne_zero hzero)) (units m f') := by
    subst hr
    by_cases hzero : m = 0
    · rw [dif_pos hzero, hzero, units, Nat.zero_mul]
      exact .zero
    · rw [dif_neg hzero]
      exact .finite _ hcanonical
  subst hshift hexponent
  rw [← hunits]
  exact hfinal _ hcarry

theorem shift_bounds {q n : Nat} {e : Int}
    (hn : n = (max ((q.log2 : Int) + 1 + e - 53) (-1074) - e).toNat)
    (hlarge : -1074 < e → 2 ^ 52 ≤ q) :
    q / 2 ^ n < 2 ^ 53 ∧ (e + n = -1074 ∨ 2 ^ 52 ≤ q / 2 ^ n) := by
  constructor
  · rw [Nat.div_lt_iff_lt_mul (Nat.two_pow_pos n), ← Nat.pow_add]
    calc q < 2 ^ (q.log2 + 1) := Nat.lt_log2_self
      _ ≤ 2 ^ (53 + n) := Nat.pow_le_pow_right (by decide) (by omega)
  · have hlog : -1074 < e → 52 ≤ q.log2 := fun he =>
      (Nat.le_log2 (Nat.ne_of_gt (Nat.lt_of_lt_of_le (by decide) (hlarge he)))).mpr (hlarge he)
    rcases Int.lt_or_le (-1074) (q.log2 + 1 + e - 53) with htarget | htarget
    · right
      have hsum : 52 + n = q.log2 := by omega
      have hq : q ≠ 0 := by
        rintro rfl
        rw [show Nat.log2 0 = 0 from rfl] at hsum
        omega
      rw [Nat.le_div_iff_mul_le (Nat.two_pow_pos n), ← Nat.pow_add, hsum]
      exact Nat.log2_self_le hq
    · exact .inl (by omega)

end Round

section Value

variable {x : Float}

theorem unpack_of_pos (h : 0 < value x) :
    ∃ m e hm, x.toModel.unpack = .finite .positive m e hm ∧ Canonical m e ∧ value x = units m e := by
  unfold value at h ⊢
  have hcanonical := unpack_canonicalFloat x
  cases hx : x.toModel.unpack with
  | notANumber =>
    rw [hx] at h
    exact absurd h (Int.lt_irrefl 0)
  | infinity s =>
    rw [hx] at h
    exact absurd h (Int.lt_irrefl 0)
  | zero s =>
    rw [hx] at h
    exact absurd h (Int.lt_irrefl 0)
  | finite s m e hm =>
    rw [hx] at h hcanonical
    cases s with
    | negative =>
      have hpos := units_pos hm e
      change (0 : Int) < -(units m e : Int) at h
      omega
    | positive => exact ⟨m, e, hm, rfl, hcanonical, rfl⟩

theorem unpack_exponent_le {s : Sign} {m : Nat} {e : Int} {h : 0 < m}
    (hx : x.toModel.unpack = .finite s m e h) : e ≤ 971 := by
  let exponent : BitVec 11 := @unpackExponent .binary64 x.toModel.toBits.toBitVec
  unfold Float.Model.unpack UnpackedFloat.unpack at hx
  dsimp only at hx
  by_cases hones : exponent = -1#11
  · rw [if_pos hones] at hx
    by_cases hnone : @unpackMantissa .binary64 x.toModel.toBits.toBitVec = 0#52
    · rw [if_pos hnone] at hx
      cases hx
    · rw [if_neg hnone] at hx
      cases hx
  · rw [if_neg hones] at hx
    by_cases hzero : exponent = 0#11
    · rw [if_pos hzero] at hx
      by_cases hnone : @unpackMantissa .binary64 x.toModel.toBits.toBitVec = 0#52
      · rw [dif_pos hnone] at hx
        cases hx
      · rw [dif_neg hnone] at hx
        cases hx
        have hexponent : exponent.toNat = 0 := congrArg BitVec.toNat hzero
        change (exponent.toNat : Int) - 1075 + 1 ≤ 971
        omega
    · rw [if_neg hzero] at hx
      cases hx
      have hexponent : exponent.toNat ≠ 2047 := fun h => hones (BitVec.eq_of_toNat_eq h)
      have hlt : exponent.toNat < 2 ^ 11 := exponent.isLt
      change (exponent.toNat : Int) - 1075 ≤ 971
      omega

theorem pack_infinity {m : Nat} {e : Int} (h : 0 < m) (hexponent : 971 < e) :
    (Float.Model.pack (.finite .positive m e h)).unpack = .infinity .positive := by
  have hlarge : 2 ^ 11 ≤ (e + Format.exponentBias .binary64 + (52 : Nat)).toNat + 1 := by
    change 2048 ≤ (e + 1023 + 52).toNat + 1
    omega
  change UnpackedFloat.unpack .binary64 (UnpackedFloat.pack .binary64 (.finite _ m e h)) = _
  delta UnpackedFloat.pack
  dsimp only
  rw [if_pos hlarge]
  rfl

theorem packed_value {u : UnpackedFloat} {v : Nat} (hu : Nonnegative u v)
    (hx : x.toModel = .pack u) :
    (x.isFinite = true ∧ value x = v) ∨
      (x.isFinite = false ∧ ∀ z : Float, z.isFinite = true → value z < v) := by
  cases hu with
  | zero =>
    have hzero : x.toModel.unpack = .zero .positive := by
      rw [hx]
      rfl
    refine .inl ⟨?_, ?_⟩
    · change x.toModel.unpack.isFinite = true
      rw [hzero]
      rfl
    · rw [value, hzero]
      rfl
  | @finite m e h hcanonical =>
    rcases Int.lt_or_le 971 e with hlarge | hsmall
    · refine .inr ⟨?_, fun z hz => ?_⟩
      · change x.toModel.unpack.isFinite = false
        rw [hx, pack_infinity h hlarge]
        rfl
      · rcases Int.lt_or_le 0 (value z) with hpos | hneg
        · obtain ⟨n, f, hn, hunpack, hcanonical', hvalue⟩ := unpack_of_pos hpos
          rw [hvalue]
          have hexponent := unpack_exponent_le hunpack
          exact Int.ofNat_lt.mpr (units_lt hcanonical' hcanonical (by omega))
        · exact Int.lt_of_le_of_lt hneg (Int.natCast_pos.mpr (units_pos h e))
    · have hunpack := unpack_pack (s := .positive) h hcanonical hsmall
      rw [← hx] at hunpack
      refine .inl ⟨?_, ?_⟩
      · change x.toModel.unpack.isFinite = true
        rw [hunpack]
        rfl
      · rw [value, hunpack]
        rfl

end Value

end FloatOrder
