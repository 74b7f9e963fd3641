import Norma.Lib.FloatRounding

namespace FloatOrder

open Float.Model (UnpackedFloat Format totalExponent)
open Float.Model.UnpackedFloat

section Unpacked

variable {s : Sign} {m : Nat} {e : Int}

theorem log2_shifted {n : Nat} (hpos : 0 < n) (l : Nat) : (n * 2 ^ l).log2 = n.log2 + l := by
  rw [Nat.log2_eq_iff (Nat.ne_of_gt (Nat.mul_pos hpos (Nat.two_pow_pos l))), Nat.pow_add,
    Nat.add_right_comm, Nat.pow_add]
  exact ⟨Nat.mul_le_mul_right _ (Nat.log2_self_le (Nat.ne_of_gt hpos)),
    Nat.mul_lt_mul_of_pos_right Nat.lt_log2_self (Nat.two_pow_pos l)⟩

theorem targetExponent_canonical (hm : 0 < m) (h : Canonical m e) :
    Format.targetExponent .binary64 (totalExponent m e) = e := by
  have hleast := h.exponent_ge
  have hlt : m.log2 < 53 := (Nat.log2_lt (Nat.ne_of_gt hm)).mpr h.mantissa_lt
  have hnormal : e = -1074 ∨ m.log2 = 52 :=
    h.normal.imp id fun h' => log2_normal h' h.mantissa_lt
  change max ((m.log2 : Int) + 1 + e - 53) (-1074) = e
  omega

theorem roundWithAccuracy_canonical (hm : 0 < m) (h : Canonical m e) (k : Nat) :
    roundWithAccuracy .binary64 s (m * 2 ^ k) (e - k) .exact = .finite s m e hm := by
  have htotal : totalExponent (m * 2 ^ k) (e - k) = totalExponent m e := by
    unfold totalExponent
    rw [log2_shifted hm]
    push_cast
    omega
  have hfirst : shiftToTargetExponent .binary64 (m * 2 ^ k) (e - k) .exact =
      (⟨m, false, false⟩, e) := by
    have hshift : (e - (e - k)).toNat = k := by omega
    rw [shiftToTargetExponent, htotal, targetExponent_canonical hm h, shiftToExponent, hshift]
    have hexact := shift_exact (Nat.dvd_mul_left (2 ^ k) m)
    rw [Nat.mul_div_cancel _ (Nat.two_pow_pos k)] at hexact
    exact Prod.ext hexact (by dsimp only; omega)
  have hsecond : shiftToTargetExponent .binary64 m e .exact = (⟨m, false, false⟩, e) := by
    rw [shiftToTargetExponent, targetExponent_canonical hm h, shiftToExponent, Int.sub_self]
    exact Prod.ext rfl (by simp)
  have hrounded : (⟨m, false, false⟩ : ExtendedMantissa).roundedMantissa = m := rfl
  have hfinal (r : ExtendedMantissa × Int) (hr : r = (⟨m, false, false⟩, e)) :
      (if hzero : r.1.mantissa = 0 then .zero s
        else .finite s r.1.mantissa r.2 (Nat.pos_of_ne_zero hzero)) =
        UnpackedFloat.finite s m e hm := by
    subst hr
    exact dif_neg (Nat.ne_of_gt hm)
  have hcarry : shiftToTargetExponent .binary64
      (shiftToTargetExponent .binary64 (m * 2 ^ k) (e - k) .exact).1.roundedMantissa
      (shiftToTargetExponent .binary64 (m * 2 ^ k) (e - k) .exact).2 .exact =
        (⟨m, false, false⟩, e) := by
    rw [hfirst, hrounded]
    exact hsecond
  exact hfinal _ hcarry

theorem div_one_unpacked (hm : 0 < m) (h : Canonical m e) (hone : 0 < 2 ^ 52) :
    UnpackedFloat.div .binary64 (.finite s m e hm) (.finite .positive (2 ^ 52) (-52) hone) =
      .finite s m e hm := by
  have hleast := h.exponent_ge
  have hlt : m.log2 < 53 := (Nat.log2_lt (Nat.ne_of_gt hm)).mpr h.mantissa_lt
  have hnormal : e = -1074 ∨ m.log2 = 52 :=
    h.normal.imp id fun h' => log2_normal h' h.mantissa_lt
  have hlog : (2 ^ 52 : Nat).log2 = 52 := by decide +kernel
  obtain ⟨k, hk⟩ : ∃ k : Nat, min (e + 52)
      (Format.targetExponent .binary64 (totalExponent m e - totalExponent (2 ^ 52) (-52))) =
        e - k := by
    unfold totalExponent
    rw [hlog]
    change ∃ k : Nat, min (e + 52)
      (max ((m.log2 : Int) + 1 + e - ((52 : Nat) + 1 + -52) - 53) (-1074)) = e - k
    exact ⟨(e - min (e + 52) (max ((m.log2 : Int) + 1 + e - ((52 : Nat) + 1 + -52) - 53)
      (-1074))).toNat, by omega⟩
  have hcore : divCore .binary64 m e (2 ^ 52) (-52) = (m * 2 ^ k, e - k, .exact) := by
    have hexponent : e - -52 = e + 52 := by omega
    have hshift : (e + 52 - (e - k)).toNat = 52 + k := by omega
    have hsplit : m * 2 ^ (52 + k) = m * 2 ^ k * 2 ^ 52 := by ring
    unfold divCore
    rw [hexponent, hk]
    dsimp only
    rw [hshift, Nat.shiftLeft_eq, hsplit, Nat.mul_div_cancel _ hone, Nat.mul_mod_left]
    rfl
  have hsign : s / .positive = s := by cases s <;> rfl
  delta UnpackedFloat.div
  dsimp only
  rw [hcore, hsign]
  exact roundWithAccuracy_canonical hm h k

inductive SameNumber : UnpackedFloat → UnpackedFloat → Prop where
  | same (u : UnpackedFloat) : SameNumber u u
  | zeros (s t : Sign) : SameNumber (.zero s) (.zero t)

theorem SameNumber.compare {u v : UnpackedFloat} (h : SameNumber u v) (w : UnpackedFloat) :
    u.compare w = v.compare w ∧ w.compare u = w.compare v := by
  cases h with
  | same => exact ⟨rfl, rfl⟩
  | zeros s t =>
    cases w with
    | finite r m e hm => cases r <;> exact ⟨rfl, rfl⟩
    | infinity r => cases r <;> exact ⟨rfl, rfl⟩
    | _ => exact ⟨rfl, rfl⟩

end Unpacked

variable {x y : Float}

theorem unpack_repack (x : Float) :
    (Float.Model.pack x.toModel.unpack).unpack = x.toModel.unpack := by
  have hcanonical := unpack_canonicalFloat x
  cases hx : x.toModel.unpack with
  | notANumber => rfl
  | infinity s => cases s <;> rfl
  | zero s => cases s <;> rfl
  | finite s m e hm =>
    rw [hx] at hcanonical
    exact unpack_pack hm hcanonical (unpack_exponent_le hx)

theorem zero_add_same {zero : Float} (hzero : zero.toModel.unpack = .zero .positive) (x : Float) :
    SameNumber (zero + x).toModel.unpack x.toModel.unpack := by
  have hmodel : (zero + x).toModel.unpack =
      (Float.Model.pack (UnpackedFloat.add .binary64 zero.toModel.unpack
        x.toModel.unpack)).unpack := rfl
  have hrepack := unpack_repack x
  rw [hmodel, hzero]
  cases hx : x.toModel.unpack with
  | notANumber => exact .same _
  | infinity s => cases s <;> exact .same _
  | zero s => cases s <;> exact .zeros _ _
  | finite s m e hm =>
    rw [hx] at hrepack
    have hsum : UnpackedFloat.add .binary64 (.zero .positive) (.finite s m e hm) =
        .finite s m e hm := rfl
    rw [hsum, hrepack]
    exact .same _

theorem div_one_same {one : Float} (hone : one.toModel.unpack =
      .finite .positive (2 ^ 52) (-52) (Nat.two_pow_pos 52)) (x : Float) :
    (x / one).toModel.unpack = x.toModel.unpack := by
  have hmodel : (x / one).toModel.unpack =
      (Float.Model.pack (UnpackedFloat.div .binary64 x.toModel.unpack
        one.toModel.unpack)).unpack := rfl
  have hcanonical := unpack_canonicalFloat x
  have hrepack := unpack_repack x
  rw [hmodel, hone]
  cases hx : x.toModel.unpack with
  | notANumber => rfl
  | infinity s => cases s <;> rfl
  | zero s => cases s <;> rfl
  | finite s m e hm =>
    rw [hx] at hcanonical hrepack
    rw [div_one_unpacked hm hcanonical, hrepack]

theorem lt_zero_add_div_one {zero one : Float} (hzero : zero.toModel.unpack = .zero .positive)
    (hone : one.toModel.unpack = .finite .positive (2 ^ 52) (-52) (Nat.two_pow_pos 52)) :
    ((zero + x) / one < y ↔ x < y) ∧ (y < (zero + x) / one ↔ y < x) := by
  obtain ⟨hleft, hright⟩ := (zero_add_same hzero x).compare y.toModel.unpack
  simp only [lt_iff_compare, div_one_same hone, hleft, hright, and_self]

end FloatOrder
