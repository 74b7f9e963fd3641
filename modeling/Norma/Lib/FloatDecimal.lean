import Norma.Lib.FloatNearest
import Norma.Lib.Numeral

namespace FloatOrder

open Float.Model (UnpackedFloat Format)
open Float.Model.UnpackedFloat

def IsNearest (x : Float) (r : ℚ) : Prop :=
  x.isFinite = true ∧ ∀ y : Float, y.isFinite = true → |rational x - r| ≤ |rational y - r|

section Decimal

variable {m₁ m₂ : Nat} {e₁ e₂ : Int}

theorem zpow_units (e : Int) : (2 : ℚ) ^ (e + 1074) = 2 ^ e * unitsOfOne := by
  obtain ⟨k, hk⟩ : ∃ k : Nat, k = 1074 := ⟨_, rfl⟩
  have hunit : unitsOfOne = 2 ^ k := by rw [hk]; rfl
  rw [show (1074 : Int) = (k : Nat) by omega, zpow_add₀ two_ne_zero, zpow_natCast, hunit,
    Nat.cast_pow, Nat.cast_ofNat]

theorem mul_nearby (h₁ : 0 < m₁) (h₂ : 0 < m₂) (hlarge : -1074 < e₁ + e₂ → 2 ^ 52 ≤ m₁ * m₂) :
    Nearby (UnpackedFloat.mul .binary64 (.finite .positive m₁ e₁ h₁) (.finite .positive m₂ e₂ h₂))
      (m₁ * 2 ^ e₁ * (m₂ * 2 ^ e₂) * unitsOfOne) := by
  have hround := roundWithAccuracy_nearby (tracks_exact (m₁ * m₂)) hlarge
  have hvalue : ((m₁ * m₂ : Nat) : ℚ) * 2 ^ (e₁ + e₂ + 1074) =
      m₁ * 2 ^ e₁ * (m₂ * 2 ^ e₂) * unitsOfOne := by
    rw [zpow_units, zpow_add₀ two_ne_zero]
    push_cast
    ring
  rwa [hvalue] at hround

theorem div_nearby (h₁ : 0 < m₁) (h₂ : 0 < m₂) :
    Nearby (UnpackedFloat.div .binary64 (.finite .positive m₁ e₁ h₁) (.finite .positive m₂ e₂ h₂))
      (m₁ * 2 ^ e₁ / (m₂ * 2 ^ e₂) * unitsOfOne) := by
  generalize he : min (e₁ - e₂)
    (max (((m₁.log2 : Int) + 1 + e₁) - (m₂.log2 + 1 + e₂) - 53) (-1074)) = e
  obtain ⟨l, hl⟩ : ∃ l : Nat, (l : Int) = e₁ - e₂ - e := ⟨(e₁ - e₂ - e).toNat, by omega⟩
  have hround := roundWithAccuracy_nearby (e := e) (tracks_fraction (m₁ * 2 ^ l) h₂)
    fun hnormal => quotient_large h₁ h₂ (by omega)
  have hvalue : ((m₁ * 2 ^ l : Nat) : ℚ) / m₂ * 2 ^ (e + 1074) =
      m₁ * 2 ^ e₁ / (m₂ * 2 ^ e₂) * unitsOfOne := by
    have hexponent : e = e₁ - e₂ - l := by omega
    rw [zpow_units, hexponent, zpow_sub₀ two_ne_zero, zpow_sub₀ two_ne_zero, zpow_natCast]
    push_cast
    generalize (unitsOfOne : ℚ) = unit
    field_simp
  rw [hvalue] at hround
  delta UnpackedFloat.div
  dsimp only
  rw [divCore_eq he.symm hl]
  exact hround

theorem units_rational {m : Nat} {e : Int} (he : -1074 ≤ e) :
    (units m e : ℚ) = m * 2 ^ e * unitsOfOne := by
  obtain ⟨n, hn⟩ : ∃ n : Nat, (n : Int) = e + 1074 := ⟨(e + 1074).toNat, by omega⟩
  rw [mul_assoc, ← zpow_units, units, show (e + 1074).toNat = n by omega, ← hn, zpow_natCast]
  push_cast
  rfl

theorem negligible {m k : Nat} (hk : 2 ^ 11 + m.log2 < k) :
    (m : ℚ) * 10 ^ (-(k : Int)) * unitsOfOne ≤ 1 / 2 := by
  obtain ⟨l, hl⟩ : ∃ l, l = 1074 := ⟨_, rfl⟩
  have hunit : unitsOfOne = 2 ^ l := by rw [hl]; rfl
  have hsmall : 2 * (m * unitsOfOne) ≤ 10 ^ k := by
    have hm : m * 2 ^ l ≤ 2 ^ (m.log2 + 1) * 2 ^ l :=
      Nat.mul_le_mul_right _ (Nat.le_of_lt Nat.lt_log2_self)
    calc 2 * (m * unitsOfOne) ≤ 2 * (2 ^ (m.log2 + 1) * 2 ^ l) := by
          rw [hunit]
          exact Nat.mul_le_mul_left 2 hm
      _ = 2 ^ (1 + (m.log2 + 1) + l) := by ring
      _ ≤ 2 ^ k := Nat.pow_le_pow_right (by decide) (by omega)
      _ ≤ 10 ^ k := Nat.pow_le_pow_left (by decide) k
  have hpow : (0 : ℚ) < 10 ^ k := by positivity
  rw [zpow_neg, zpow_natCast, mul_right_comm, ← div_eq_mul_inv, div_le_div_iff₀ hpow two_pos]
  have hcast : (2 * (m * unitsOfOne) : ℚ) ≤ 10 ^ k := by exact_mod_cast hsmall
  linarith

theorem ofScientific_nearby {m : Nat} (hm : 0 < m) {e : Int} (he : e ≤ 2 ^ 11) :
    Nearby (UnpackedFloat.ofScientific .binary64 m e) (m * 10 ^ e * unitsOfOne) := by
  rw [UnpackedFloat.ofScientific, dif_neg (Nat.ne_of_gt hm), if_neg (by change ¬2 ^ 11 < e; omega)]
  by_cases hsmall : e < -((2 ^ Float.Model.Format.binary64.exponentBits : Int) + m.log2)
  · rw [if_pos hsmall]
    obtain ⟨k, hk⟩ : ∃ k : Nat, (k : Int) = -e := by
      change e < -(2 ^ 11 + (m.log2 : Int)) at hsmall
      exact ⟨(-e).toNat, by omega⟩
    have hbound := negligible (m := m) (k := k) (by
      change e < -(2 ^ 11 + (m.log2 : Int)) at hsmall
      omega)
    rw [hk, neg_neg] at hbound
    refine ⟨0, 0, by simpa using Nonnegative.zero, ?_, .inl rfl⟩
    have hnonneg : (0 : ℚ) ≤ m * 10 ^ e * unitsOfOne :=
      mul_nonneg (mul_nonneg (Nat.cast_nonneg _) (zpow_nonneg (by norm_num) _)) (Nat.cast_nonneg _)
    rw [Nat.cast_zero, zero_mul, sub_zero, pow_zero, abs_of_nonneg hnonneg]
    exact hbound
  · rw [if_neg hsmall]
    by_cases hnonneg : 0 ≤ e
    · rw [if_pos hnonneg]
      have hproduct := @mul_nearby (m <<< 53) (10 ^ e.toNat) (-53) 0
        (by rw [Nat.shiftLeft_eq]; positivity) (by positivity) fun _ => by
          rw [Nat.shiftLeft_eq]
          have hpow : 0 < 10 ^ e.toNat := by positivity
          nlinarith [Nat.mul_pos hm hpow]
      have hvalue : ((m <<< 53 : Nat) : ℚ) * 2 ^ (-53 : Int) *
          ((10 ^ e.toNat : Nat) * 2 ^ (0 : Int)) = m * 10 ^ e := by
        obtain ⟨k, rfl⟩ := Int.eq_ofNat_of_zero_le hnonneg
        rw [Nat.shiftLeft_eq, Int.toNat_natCast, zpow_natCast]
        push_cast
        norm_num
        ring
      rw [hvalue] at hproduct
      exact hproduct
    · rw [if_neg hnonneg]
      have hquotient := @div_nearby m (10 ^ (-e).toNat) 0 0 hm (by positivity)
      have hvalue : (m : ℚ) * 2 ^ (0 : Int) / ((10 ^ (-e).toNat : Nat) * 2 ^ (0 : Int)) =
          m * 10 ^ e := by
        obtain ⟨k, hk⟩ : ∃ k : Nat, (k : Int) = -e := ⟨(-e).toNat, by omega⟩
        rw [show e = -k by omega, neg_neg, Int.toNat_natCast, zpow_neg, zpow_natCast, zpow_zero]
        push_cast
        rw [mul_one, mul_one, div_eq_mul_inv]
      rw [hvalue] at hquotient
      exact hquotient

theorem powersOfTen_value (i : Fin Float.exactlyRepresentablePowersOfTen.size) :
    value Float.exactlyRepresentablePowersOfTen[i] = (10 ^ i.val * unitsOfOne : Nat) := by
  revert i
  decide +kernel

theorem unpack_integer {x : Float} {n : Nat} (hn : 0 < n) (hx : value x = (n * unitsOfOne : Nat)) :
    ∃ m e hm, x.toModel.unpack = .finite .positive m e hm ∧ 2 ^ 52 ≤ m ∧ -1074 < e ∧
      (m : ℚ) * 2 ^ e = n := by
  have hpos : 0 < value x := by
    rw [hx]
    exact Int.natCast_pos.mpr (Nat.mul_pos hn unitsOfOne_pos)
  obtain ⟨m, e, hm, hunpack, hcanonical, hvalue⟩ := unpack_of_pos hpos
  rw [hx] at hvalue
  have hunits : n * unitsOfOne = units m e := by exact_mod_cast hvalue
  have hexponent : -1074 < e := by
    by_contra hleast
    obtain rfl : e = -1074 := by
      have := hcanonical.exponent_ge
      omega
    obtain ⟨k, hk⟩ : ∃ k, 53 + k = 1074 := ⟨1021, rfl⟩
    have hsmall : units m (-1074) < 2 ^ 53 := by
      rw [units, show (-1074 + 1074 : Int).toNat = 0 from rfl, Nat.pow_zero, Nat.mul_one]
      exact hcanonical.mantissa_lt
    have hlarge : 2 ^ 53 ≤ n * unitsOfOne := by
      rw [unitsOfOne_split hk]
      calc 2 ^ 53 = 1 * (2 ^ 53 * 1) := by rw [Nat.one_mul, Nat.mul_one]
        _ ≤ n * (2 ^ 53 * 2 ^ k) := Nat.mul_le_mul hn (Nat.mul_le_mul_left _ (Nat.two_pow_pos k))
    omega
  have hnormal := hcanonical.normal.resolve_left (by omega)
  refine ⟨m, e, hm, hunpack, hnormal, hexponent, ?_⟩
  have hunit : (unitsOfOne : ℚ) ≠ 0 := by exact_mod_cast Nat.ne_of_gt unitsOfOne_pos
  have hrational := units_rational (m := m) hcanonical.exponent_ge
  rw [← hunits, Nat.cast_mul] at hrational
  exact (mul_right_cancel₀ hunit hrational).symm

section Scale

variable {x y : Float} {a b : Nat}

theorem mul_integers (ha : 0 < a) (hb : 0 < b) (hx : value x = (a * unitsOfOne : Nat))
    (hy : value y = (b * unitsOfOne : Nat)) :
    ∃ u, (x * y).toModel = .pack u ∧ Nearby u (a * b * unitsOfOne) := by
  obtain ⟨m₁, e₁, h₁, hux, hn₁, he₁, hv₁⟩ := unpack_integer ha hx
  obtain ⟨m₂, e₂, h₂, huy, hn₂, he₂, hv₂⟩ := unpack_integer hb hy
  have hmodel : (x * y).toModel = .pack (UnpackedFloat.mul .binary64 x.toModel.unpack
    y.toModel.unpack) := rfl
  rw [hux, huy] at hmodel
  refine ⟨_, hmodel, ?_⟩
  rw [← hv₁, ← hv₂]
  exact mul_nearby h₁ h₂ fun _ =>
    Nat.le_trans hn₁ (Nat.le_mul_of_pos_right _ h₂)

theorem div_integers (ha : 0 < a) (hb : 0 < b) (hx : value x = (a * unitsOfOne : Nat))
    (hy : value y = (b * unitsOfOne : Nat)) :
    ∃ u, (x / y).toModel = .pack u ∧ Nearby u (a / b * unitsOfOne) := by
  obtain ⟨m₁, e₁, h₁, hux, -, -, hv₁⟩ := unpack_integer ha hx
  obtain ⟨m₂, e₂, h₂, huy, -, -, hv₂⟩ := unpack_integer hb hy
  have hmodel : (x / y).toModel = .pack (UnpackedFloat.div .binary64 x.toModel.unpack
    y.toModel.unpack) := rfl
  rw [hux, huy] at hmodel
  refine ⟨_, hmodel, ?_⟩
  rw [← hv₁, ← hv₂]
  exact div_nearby h₁ h₂

theorem ofScientific_model {m : Nat} (hm : 0 < m) (s : Bool) {k : Nat}
    (hk : s = false → k ≤ 2 ^ 11) :
    ∃ u, (Float.ofScientific m s k).toModel = .pack u ∧
      Nearby u (m * 10 ^ (if s then -(k : Int) else k) * unitsOfOne) := by
  by_cases hfast : m < 2 ^ 53 ∧ k ≤ 22
  · have hvalue : value m.toUInt64.toFloat = (m * unitsOfOne : Nat) := by
      rw [(toFloat_value hm hfast.1).2, Int.natCast_mul]
    have hpower := powersOfTen_value ⟨k, Nat.lt_succ_of_le hfast.2⟩
    have hten : 0 < 10 ^ k := Nat.pow_pos (by decide)
    rw [Float.ofScientific, dif_pos hfast]
    cases s with
    | true =>
      obtain ⟨u, hmodel, hnear⟩ := div_integers hm hten hvalue hpower
      refine ⟨u, hmodel, ?_⟩
      rw [if_pos rfl, zpow_neg, zpow_natCast, ← div_eq_mul_inv]
      exact_mod_cast hnear
    | false =>
      obtain ⟨u, hmodel, hnear⟩ := mul_integers hm hten hvalue hpower
      refine ⟨u, hmodel, ?_⟩
      rw [if_neg Bool.false_ne_true, zpow_natCast]
      exact_mod_cast hnear
  · rw [Float.ofScientific, dif_neg hfast]
    cases s with
    | true =>
      refine ⟨_, rfl, ofScientific_nearby hm ?_⟩
      change -(k : Int) ≤ 2 ^ 11
      omega
    | false =>
      refine ⟨_, rfl, ofScientific_nearby hm ?_⟩
      change (k : Int) ≤ 2 ^ 11
      exact_mod_cast hk rfl

theorem scaleTen_model {m : Nat} (hm : 0 < m) {e : Int} (he : e ≤ 2 ^ 11) :
    ∃ u, (CNumber.scaleTen m e).toModel = .pack u ∧ Nearby u (m * 10 ^ e * unitsOfOne) := by
  rw [CNumber.scaleTen]
  split
  · next hneg =>
    obtain ⟨u, hmodel, hnear⟩ := @ofScientific_model _ hm true e.natAbs
      fun h => absurd h (by decide)
    rw [if_pos rfl, show -(e.natAbs : Int) = e by omega] at hnear
    exact ⟨u, hmodel, hnear⟩
  · next hnonneg =>
    obtain ⟨u, hmodel, hnear⟩ := ofScientific_model hm false (k := e.natAbs) fun _ => by omega
    rw [if_neg Bool.false_ne_true, show (e.natAbs : Int) = e by omega] at hnear
    exact ⟨u, hmodel, hnear⟩

theorem ofScientific_zero (s : Bool) (k : Nat) :
    (Float.ofScientific 0 s k).isFinite = true ∧ value (Float.ofScientific 0 s k) = 0 := by
  by_cases hfast : k < 23
  · have hall : ∀ i : Fin 23, ∀ s : Bool, (Float.ofScientific 0 s i).isFinite = true ∧
        value (Float.ofScientific 0 s i) = 0 := by decide +kernel
    exact hall ⟨k, hfast⟩ s
  · have hzero (e : Int) : Float.Model.ofScientific 0 e = .pack (.zero .positive) := by
      rw [Float.Model.ofScientific, UnpackedFloat.ofScientific, dif_pos rfl]
    rw [Float.ofScientific, dif_neg (by omega)]
    dsimp only
    rw [hzero]
    exact ⟨rfl, rfl⟩

theorem rational_distance (r : ℚ) (x : Float) :
    |rational x - r| = |r * unitsOfOne - value x| / unitsOfOne := by
  have hunit : (0 : ℚ) < unitsOfOne := by exact_mod_cast unitsOfOne_pos
  have hsplit : rational x - r = -((r * unitsOfOne - value x) / unitsOfOne) := by
    rw [rational, sub_div, mul_div_cancel_right₀ _ hunit.ne']
    ring
  rw [hsplit, abs_neg, abs_div, abs_of_pos hunit]

theorem value_lt (z : Float) : value z < (2 ^ 2 ^ 11 * unitsOfOne : Nat) := by
  have hbound : 0 < 2 ^ 2 ^ 11 * unitsOfOne := Nat.mul_pos (Nat.two_pow_pos _) unitsOfOne_pos
  rcases Int.lt_or_le 0 (value z) with hpos | hneg
  · obtain ⟨m, e, hm, hunpack, hcanonical, hvalue⟩ := unpack_of_pos hpos
    rw [hvalue]
    exact Int.ofNat_lt.mpr (units_bounded hcanonical (unpack_exponent_le hunpack))
  · exact Int.lt_of_le_of_lt hneg (Int.natCast_pos.mpr hbound)

theorem scaleTen_value {m : Nat} (hm : 0 < m) (e : Int) {z : Float} (hz : z.isFinite = true)
    (hle : (m : ℚ) * 10 ^ e ≤ rational z) : (CNumber.scaleTen m e).isFinite = true ∧
      (∀ y : Float, |(m : ℚ) * 10 ^ e * unitsOfOne - value (CNumber.scaleTen m e)| ≤
        |(m : ℚ) * 10 ^ e * unitsOfOne - value y|) ∧
      (2 ^ 52 ≤ (m : ℚ) * 10 ^ e * unitsOfOne →
        |(m : ℚ) * 10 ^ e * unitsOfOne - value (CNumber.scaleTen m e)| ≤
          (m : ℚ) * 10 ^ e * unitsOfOne / 2 ^ 53) := by
  have hunit : (0 : ℚ) < unitsOfOne := by exact_mod_cast unitsOfOne_pos
  have hnonneg : (0 : ℚ) ≤ m * 10 ^ e * unitsOfOne :=
    mul_nonneg (mul_nonneg (Nat.cast_nonneg _) (zpow_nonneg (by norm_num) _)) hunit.le
  have hbound : (m : ℚ) * 10 ^ e * unitsOfOne ≤ value z := (le_div_iff₀ hunit).mp hle
  have hsmall : e ≤ 2 ^ 11 := by
    by_contra hlarge
    obtain ⟨k, rfl⟩ := Int.eq_ofNat_of_zero_le (show 0 ≤ e by omega)
    have hk : 2 ^ 11 < k := by
      have hcast : ((2 ^ 11 : Nat) : Int) < k := by simpa using hlarge
      exact Int.ofNat_lt.mp hcast
    have hpow : 2 ^ 2 ^ 11 ≤ m * 10 ^ k :=
      calc 2 ^ 2 ^ 11 ≤ 2 ^ k := Nat.pow_le_pow_right (by decide) hk.le
        _ ≤ 10 ^ k := Nat.pow_le_pow_left (by decide) k
        _ ≤ m * 10 ^ k := Nat.le_mul_of_pos_left _ hm
    have hlow : 2 ^ 2 ^ 11 * unitsOfOne ≤ m * 10 ^ k * unitsOfOne := Nat.mul_le_mul_right _ hpow
    have hcast : ((m * 10 ^ k * unitsOfOne : Nat) : ℚ) ≤ value z := by
      push_cast
      exact hbound
    have hhigh : m * 10 ^ k * unitsOfOne ≤ value z := by exact_mod_cast hcast
    have hless := Int.lt_of_le_of_lt hhigh (value_lt z)
    exact absurd (Int.lt_of_le_of_lt (Int.ofNat_le.mpr hlow) hless) (Int.lt_irrefl _)
  obtain ⟨u, hmodel, hnear⟩ := scaleTen_model hm hsmall
  exact hnear.packed hmodel hnonneg hz hbound

theorem scaleTen_nearest (m : Nat) (e : Int) {z : Float} (hz : z.isFinite = true)
    (hle : (m : ℚ) * 10 ^ e ≤ rational z) : IsNearest (CNumber.scaleTen m e) (m * 10 ^ e) := by
  have hunit : (0 : ℚ) < unitsOfOne := by exact_mod_cast unitsOfOne_pos
  rcases Nat.eq_zero_or_pos m with rfl | hm
  · have hzero : (CNumber.scaleTen 0 e).isFinite = true ∧ value (CNumber.scaleTen 0 e) = 0 := by
      rw [CNumber.scaleTen]
      split
      · exact ofScientific_zero _ _
      · exact ofScientific_zero _ _
    refine ⟨hzero.1, fun y _ => ?_⟩
    rw [rational, hzero.2, Nat.cast_zero, zero_mul, Int.cast_zero, zero_div, sub_zero, abs_zero]
    exact abs_nonneg _
  · obtain ⟨hfinite, hclosest, -⟩ := scaleTen_value hm e hz hle
    refine ⟨hfinite, fun y _ => ?_⟩
    rw [rational_distance, rational_distance]
    exact div_le_div_of_nonneg_right (hclosest y) hunit.le

theorem scaleTen_close {m : Nat} (hm : 0 < m) (e : Int) {z : Float} (hz : z.isFinite = true)
    (hle : (m : ℚ) * 10 ^ e ≤ rational z) (hlarge : (1 / 10 ^ 9 : ℚ) ≤ m * 10 ^ e) :
    |rational (CNumber.scaleTen m e) - m * 10 ^ e| ≤ m * 10 ^ e / 2 ^ 53 := by
  have hunit : (0 : ℚ) < unitsOfOne := by exact_mod_cast unitsOfOne_pos
  have hnormal : (2 : ℚ) ^ 52 ≤ m * 10 ^ e * unitsOfOne := by
    obtain ⟨k, hk⟩ : ∃ k, 82 + k = 1074 := ⟨992, rfl⟩
    have hmore : (2 : ℚ) ^ 82 ≤ unitsOfOne := by
      have hnat : 2 ^ 82 ≤ unitsOfOne := by
        rw [unitsOfOne_split hk]
        exact Nat.le_mul_of_pos_right _ (Nat.two_pow_pos k)
      exact_mod_cast hnat
    calc (2 : ℚ) ^ 52 ≤ (1 : ℚ) / 10 ^ 9 * 2 ^ 82 := by norm_num
      _ ≤ (m : ℚ) * 10 ^ e * unitsOfOne :=
        mul_le_mul hlarge hmore (by positivity) (le_trans (by positivity) hlarge)
  rw [rational_distance, div_le_iff₀ hunit]
  refine le_trans ((scaleTen_value hm e hz hle).2.2 hnormal) (le_of_eq ?_)
  rw [div_mul_eq_mul_div]

end Scale

section Signed

theorem neg_rational {x : Float} (hx : x.isFinite = true) :
    (-x).isFinite = true ∧ rational (-x) = -rational x := by
  have hmodel : (-x).toModel.unpack = (Float.Model.pack x.toModel.unpack.neg).unpack := rfl
  have hcanonical := unpack_canonicalFloat x
  change x.toModel.unpack.isFinite = true at hx
  change (-x).toModel.unpack.isFinite = true ∧ _
  rw [hmodel]
  cases hu : x.toModel.unpack with
  | notANumber =>
    rw [hu] at hx
    exact Bool.noConfusion hx
  | infinity s =>
    rw [hu] at hx
    exact Bool.noConfusion hx
  | zero s =>
    have hzero : (Float.Model.pack (UnpackedFloat.zero s).neg).unpack = (UnpackedFloat.zero s).neg := by
      cases s <;> rfl
    rw [hzero, rational_zero hu, rational_zero (hmodel.trans (by rw [hu]; exact hzero)), neg_zero]
    exact ⟨rfl, rfl⟩
  | finite s m e hm =>
    rw [hu] at hcanonical
    have hneg : (Float.Model.pack (UnpackedFloat.finite s m e hm).neg).unpack =
        (UnpackedFloat.finite s m e hm).neg :=
      unpack_pack hm hcanonical (unpack_exponent_le hu)
    rw [rational, rational, value, value, hmodel, hu, hneg, ← neg_div]
    refine ⟨rfl, ?_⟩
    congr 1
    cases s with
    | positive => exact Int.cast_neg _
    | negative =>
      change ((units m e : Int) : ℚ) = -((-(units m e : Int) : Int) : ℚ)
      rw [Int.cast_neg, neg_neg]

theorem IsNearest.ge {x z : Float} {r : ℚ} (h : IsNearest x r) (hz : z.isFinite = true)
    (hle : rational z ≤ r) : rational z ≤ rational x := by
  by_contra hless
  rw [not_le] at hless
  have hclose := h.2 z hz
  rw [abs_of_nonpos (by linarith), abs_of_nonpos (by linarith)] at hclose
  linarith

theorem IsNearest.le {x z : Float} {r : ℚ} (h : IsNearest x r) (hz : z.isFinite = true)
    (hge : r ≤ rational z) : rational x ≤ rational z := by
  by_contra hmore
  rw [not_le] at hmore
  have hclose := h.2 z hz
  rw [abs_of_nonneg (by linarith), abs_of_nonneg (by linarith)] at hclose
  linarith

theorem IsNearest.neg {x : Float} {r : ℚ} (h : IsNearest x r) : IsNearest (-x) (-r) := by
  have hflip (y : Float) (hy : y.isFinite = true) : |rational (-y) - -r| = |rational y - r| := by
    rw [(neg_rational hy).2, neg_sub_neg, abs_sub_comm]
  refine ⟨(neg_rational h.1).1, fun y hy => ?_⟩
  have hclose := h.2 (-y) (neg_rational hy).1
  rw [hflip x h.1]
  refine le_trans hclose (le_of_eq ?_)
  rw [(neg_rational hy).2, abs_sub_comm]
  congr 1
  ring

theorem numeral_nearest (d : CNumber.Numeral) {z : Float} (hz : z.isFinite = true)
    (hle : |d.value| ≤ rational z) : IsNearest d.float d.value := by
  have hnonneg : (0 : ℚ) ≤ d.mantissa * 10 ^ d.power :=
    mul_nonneg (Nat.cast_nonneg _) (zpow_nonneg (by norm_num) _)
  rw [CNumber.Numeral.value, CNumber.NumeralSign.apply] at hle ⊢
  rw [CNumber.Numeral.float, CNumber.applySign]
  split
  · next hneg =>
    rw [if_pos hneg, abs_neg, abs_of_nonneg hnonneg] at hle
    exact (scaleTen_nearest _ _ hz hle).neg
  · next hpos =>
    rw [if_neg hpos, abs_of_nonneg hnonneg] at hle
    exact scaleTen_nearest _ _ hz hle

end Signed

end Decimal

end FloatOrder
