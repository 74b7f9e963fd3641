import Norma.Lib.FloatRounding

namespace FloatOrder

open Float.Model (UnpackedFloat Format totalExponent)
open Float.Model.UnpackedFloat

section Quotient

variable {m₁ m₂ : Nat} {e₁ e₂ e : Int}

theorem quotient_units {l n : Nat} (hl : (l : Int) = e₁ - e₂ - e) (he₁ : -1074 ≤ e₁)
    (he₂ : -1074 ≤ e₂) (hlow : e = e₁ - e₂ ∨ -1074 ≤ e) (hsum : -1074 ≤ e + n) :
    ∃ w, units m₁ e₁ * unitsOfOne = m₁ * 2 ^ l * 2 ^ w ∧
      units m₂ e₂ * 2 ^ (e + n + 1074).toNat = m₂ * 2 ^ n * 2 ^ w := by
  obtain ⟨k, hk⟩ : ∃ k, k + 0 = 1074 := ⟨_, rfl⟩
  obtain ⟨w, hw⟩ : ∃ w : Nat, (w : Int) = e + e₂ + 2148 := ⟨(e + e₂ + 2148).toNat, by omega⟩
  have hfirst : (e₁ + 1074).toNat + k = l + w := by omega
  have hsecond : (e₂ + 1074).toNat + (e + n + 1074).toNat = n + w := by omega
  refine ⟨w, ?_, ?_⟩
  · rw [unitsOfOne_split hk, Nat.pow_zero, Nat.mul_one, units, Nat.mul_assoc, Nat.mul_assoc,
      ← Nat.pow_add, ← Nat.pow_add, hfirst]
  · rw [units, Nat.mul_assoc, Nat.mul_assoc, ← Nat.pow_add, ← Nat.pow_add, hsecond]

theorem quotient_large (h₁ : 0 < m₁) (h₂ : 0 < m₂) {l : Nat}
    (hl : (m₂.log2 : Int) - m₁.log2 + 53 ≤ l) : 2 ^ 52 ≤ m₁ * 2 ^ l / m₂ := by
  rw [Nat.le_div_iff_mul_le h₂]
  have hlog : 52 + (m₂.log2 + 1) ≤ m₁.log2 + l := by omega
  calc 2 ^ 52 * m₂ ≤ 2 ^ 52 * 2 ^ (m₂.log2 + 1) :=
        Nat.mul_le_mul_left _ (Nat.le_of_lt Nat.lt_log2_self)
    _ = 2 ^ (52 + (m₂.log2 + 1)) := (Nat.pow_add 2 52 _).symm
    _ ≤ 2 ^ (m₁.log2 + l) := Nat.pow_le_pow_right (by decide) hlog
    _ = 2 ^ m₁.log2 * 2 ^ l := Nat.pow_add 2 _ _
    _ ≤ m₁ * 2 ^ l := Nat.mul_le_mul_right _ (Nat.log2_self_le (Nat.ne_of_gt h₁))

theorem divCore_eq {l : Nat} (he : e = min (e₁ - e₂)
      (max ((m₁.log2 + 1 + e₁) - (m₂.log2 + 1 + e₂) - 53) (-1074)))
    (hl : (l : Int) = e₁ - e₂ - e) :
    divCore .binary64 m₁ e₁ m₂ e₂ =
      (m₁ * 2 ^ l / m₂, e, accuracyOfFraction (m₁ * 2 ^ l % m₂) m₂) := by
  have hshift : (e₁ - e₂ - e).toNat = l := by omega
  have htarget : min (e₁ - e₂) (Format.targetExponent .binary64
      (totalExponent m₁ e₁ - totalExponent m₂ e₂)) = e := he.symm
  rw [divCore]
  simp only [htarget, hshift, Nat.shiftLeft_eq]

theorem div_rounds (h₁ : 0 < m₁) (h₂ : 0 < m₂) (he₁ : -1074 ≤ e₁) (he₂ : -1074 ≤ e₂) :
    ∃ t n, Rounds (units m₁ e₁ * unitsOfOne) (units m₂ e₂ * 2 ^ t) n ∧
      (t = 0 ∨ units m₂ e₂ * 2 ^ t * 2 ^ 52 ≤ units m₁ e₁ * unitsOfOne) ∧
      Nonnegative (UnpackedFloat.div .binary64 (.finite .positive m₁ e₁ h₁)
        (.finite .positive m₂ e₂ h₂)) (n * 2 ^ t) := by
  generalize he : min (e₁ - e₂)
    (max (((m₁.log2 : Int) + 1 + e₁) - (m₂.log2 + 1 + e₂) - 53) (-1074)) = e
  generalize hl' : (e₁ - e₂ - e).toNat = l
  have hl : (l : Int) = e₁ - e₂ - e := by omega
  have hcore := divCore_eq he.symm hl
  generalize haccuracy : accuracyOfFraction (m₁ * 2 ^ l % m₂) m₂ = accuracy at hcore
  have hlarge (hnormal : -1074 < e) : 2 ^ 52 ≤ m₁ * 2 ^ l / m₂ := quotient_large h₁ h₂ (by omega)
  generalize hn : (max (((m₁ * 2 ^ l / m₂).log2 : Int) + 1 + e - 53) (-1074) - e).toNat = n
  obtain ⟨hsmall, hnormal⟩ := shift_bounds hn.symm hlarge
  have hsum : -1074 ≤ e + n := by omega
  obtain ⟨w, hw₁, hw₂⟩ := @quotient_units m₁ m₂ e₁ e₂ e l n hl he₁ he₂ (by omega) hsum
  have hrounds := @rounds_shift m₁ m₂ h₂ l n
  rw [haccuracy] at hrounds
  have hquotient : m₁ * 2 ^ l / (m₂ * 2 ^ n) = m₁ * 2 ^ l / m₂ / 2 ^ n :=
    (Nat.div_div_eq_div_mul ..).symm
  have hlow := hrounds.low
  have hhigh := hrounds.high
  rw [hquotient] at hlow hhigh
  have hshift : shiftToTargetExponent .binary64 (m₁ * 2 ^ l / m₂) e accuracy =
      (ExtendedMantissa.ofMantissaAndAccuracy (m₁ * 2 ^ l / m₂) accuracy >>> n, e + n) := by
    rw [shiftToTargetExponent, shiftToExponent, ← hn]
    rfl
  refine ⟨(e + n + 1074).toNat,
    (ExtendedMantissa.ofMantissaAndAccuracy (m₁ * 2 ^ l / m₂) accuracy >>> n).roundedMantissa,
    ?_, ?_, ?_⟩
  · rw [hw₁, hw₂]
    exact hrounds.scale (Nat.two_pow_pos w)
  · rcases hnormal with hleast | hnormal
    · exact .inl (by omega)
    · right
      rw [← hquotient, Nat.le_div_iff_mul_le (Nat.mul_pos h₂ (Nat.two_pow_pos n))] at hnormal
      rw [hw₁, hw₂]
      calc m₂ * 2 ^ n * 2 ^ w * 2 ^ 52 = 2 ^ 52 * (m₂ * 2 ^ n) * 2 ^ w := by ring
        _ ≤ m₁ * 2 ^ l * 2 ^ w := Nat.mul_le_mul_right _ hnormal
  · delta UnpackedFloat.div
    dsimp only
    rw [hcore]
    exact roundWithAccuracy_rounds (by rw [hshift]) (by rw [hshift]) hsum (by omega) (by omega)

end Quotient

section Divide

variable {x y z : Float}

theorem div_toModel (hx : 0 < value x) (hy : 0 < value y) :
    ∃ a b t n u, value x = (a : Nat) ∧ value y = (b : Nat) ∧ 0 < b ∧
      Rounds (a * unitsOfOne) (b * 2 ^ t) n ∧
      (t = 0 ∨ b * 2 ^ t * 2 ^ 52 ≤ a * unitsOfOne) ∧ Nonnegative u (n * 2 ^ t) ∧
      (x / y).toModel = .pack u := by
  obtain ⟨m₁, e₁, h₁, hx', hc₁, hvalue₁⟩ := unpack_of_pos hx
  obtain ⟨m₂, e₂, h₂, hy', hc₂, hvalue₂⟩ := unpack_of_pos hy
  obtain ⟨t, n, hrounds, hlarge, hnonnegative⟩ := div_rounds h₁ h₂ hc₁.exponent_ge hc₂.exponent_ge
  refine ⟨_, _, t, n, _, hvalue₁, hvalue₂, units_pos h₂ e₂, hrounds, hlarge, hnonnegative, ?_⟩
  rw [← hx', ← hy']
  rfl

theorem units_multiple {m : Nat} {e : Int} (hcanonical : Canonical m e) (t : Nat) :
    (∃ k, units m e = k * 2 ^ t) ∨ (t ≠ 0 ∧ units m e < 2 ^ 52 * 2 ^ t) := by
  have hleast := hcanonical.exponent_ge
  rcases Nat.lt_or_ge (e + 1074).toNat t with hlt | hle
  · refine .inr ⟨Nat.ne_of_gt (Nat.lt_of_le_of_lt (Nat.zero_le _) hlt), ?_⟩
    calc units m e < 2 ^ 53 * 2 ^ (e + 1074).toNat :=
          Nat.mul_lt_mul_of_pos_right hcanonical.mantissa_lt (Nat.two_pow_pos _)
      _ = 2 ^ 52 * 2 ^ ((e + 1074).toNat + 1) := by ring
      _ ≤ 2 ^ 52 * 2 ^ t := Nat.mul_le_mul_left _ (Nat.pow_le_pow_right (by decide) hlt)
  · obtain ⟨d, hd⟩ := Nat.exists_eq_add_of_le hle
    refine .inl ⟨m * 2 ^ d, ?_⟩
    rw [units, hd, Nat.pow_add]
    ring

theorem rounds_le {a b n k t : Nat} (h : Rounds a (b * 2 ^ t) n) (hk : a ≤ k * 2 ^ t * b) :
    n * 2 ^ t ≤ k * 2 ^ t :=
  Nat.mul_le_mul_right _ (h.ge (by rwa [Nat.mul_assoc, Nat.mul_comm _ b] at hk))

theorem le_rounds {a b n k t : Nat} (h : Rounds a (b * 2 ^ t) n) (hb : 0 < b)
    (hk : k * 2 ^ t * b ≤ a) : k * 2 ^ t ≤ n * 2 ^ t :=
  Nat.mul_le_mul_right _ (h.le (Nat.mul_pos hb (Nat.two_pow_pos t))
    (by rwa [Nat.mul_assoc, Nat.mul_comm _ b] at hk))

theorem div_le (hx : 0 < value x) (hy : 0 < value y) (hz : z.isFinite = true)
    (h : value x * unitsOfOne ≤ value z * value y) :
    (x / y).isFinite = true ∧ value (x / y) ≤ value z := by
  have hpos : 0 < value z := by
    have hproduct : 0 < value z * value y :=
      Int.lt_of_lt_of_le (Int.mul_pos hx (Int.natCast_pos.mpr unitsOfOne_pos)) h
    exact Int.pos_of_mul_pos_left hproduct hy
  obtain ⟨a, b, t, n, u, hxa, hyb, hb, hrounds, hlarge, hu, hmodel⟩ := div_toModel hx hy
  obtain ⟨m, e, -, -, hcanonical, hvalue⟩ := unpack_of_pos hpos
  rw [hxa, hyb, hvalue] at h
  have hproduct : a * unitsOfOne ≤ units m e * b := by exact_mod_cast h
  have hle : n * 2 ^ t ≤ units m e := by
    rcases units_multiple hcanonical t with ⟨k, hk⟩ | ⟨ht, hsmall⟩
    · rw [hk] at hproduct ⊢
      exact rounds_le hrounds hproduct
    · have hnormal := hlarge.resolve_left ht
      have hless : units m e * b < b * 2 ^ t * 2 ^ 52 :=
        calc units m e * b < 2 ^ 52 * 2 ^ t * b := Nat.mul_lt_mul_of_pos_right hsmall hb
          _ = b * 2 ^ t * 2 ^ 52 := by ring
      exact absurd (Nat.le_trans hnormal hproduct) (Nat.not_le.mpr hless)
  rcases packed_value hu hmodel with ⟨hfinite, hquotient⟩ | ⟨-, hless⟩
  · rw [hquotient, hvalue]
    exact ⟨hfinite, Int.ofNat_le.mpr hle⟩
  · have hlt := hless z hz
    rw [hvalue] at hlt
    exact absurd hle (Nat.not_le.mpr (Int.ofNat_lt.mp hlt))

theorem le_div (hx : 0 < value x) (hy : 0 < value y) (hz : 0 < value z)
    (hfinite : (x / y).isFinite = true) (h : value z * value y ≤ value x * unitsOfOne) :
    value z ≤ value (x / y) := by
  obtain ⟨a, b, t, n, u, hxa, hyb, hb, hrounds, hlarge, hu, hmodel⟩ := div_toModel hx hy
  obtain ⟨m, e, -, -, hcanonical, hvalue⟩ := unpack_of_pos hz
  rw [hxa, hyb, hvalue] at h
  have hproduct : units m e * b ≤ a * unitsOfOne := by exact_mod_cast h
  have hle : units m e ≤ n * 2 ^ t := by
    rcases units_multiple hcanonical t with ⟨k, hk⟩ | ⟨ht, hsmall⟩
    · rw [hk] at hproduct ⊢
      exact le_rounds hrounds hb hproduct
    · have hnormal := hlarge.resolve_left ht
      rw [Nat.mul_comm] at hnormal
      exact Nat.le_trans (Nat.le_of_lt hsmall)
        (Nat.mul_le_mul_right _ (hrounds.le (Nat.mul_pos hb (Nat.two_pow_pos t)) hnormal))
  rcases packed_value hu hmodel with ⟨-, hquotient⟩ | ⟨hinfinite, -⟩
  · rw [hquotient, hvalue]
    exact Int.ofNat_le.mpr hle
  · rw [hinfinite] at hfinite
    cases hfinite

theorem value_one : value 1 = unitsOfOne := by decide +kernel

def belowOne : Float := 0.9999999999999999

theorem value_belowOne : value belowOne * 2 ^ 53 = (2 ^ 53 - 1) * unitsOfOne := by decide +kernel

theorem units_gap {m n : Nat} {e f : Int} (hm : Canonical m e) (hn : Canonical n f)
    (h : units m e < units n f) : units m e * 2 ^ 53 ≤ (2 ^ 53 - 1) * units n f := by
  have hmantissa := hm.mantissa_lt
  rcases Int.lt_trichotomy e f with hlt | rfl | hgt
  · have hnormal : 2 ^ 52 ≤ n := by
      have := hm.exponent_ge
      have := hn.normal
      omega
    have hexponent : (e + 1074).toNat + 1 ≤ (f + 1074).toNat := by
      have := hm.exponent_ge
      omega
    calc units m e * 2 ^ 53 = m * (2 ^ 52 * 2 ^ ((e + 1074).toNat + 1)) := by
          rw [units]
          ring
      _ ≤ (2 ^ 53 - 1) * units n f :=
          Nat.mul_le_mul (by omega) (Nat.mul_le_mul hnormal
            (Nat.pow_le_pow_right (by decide) hexponent))
  · have hless : m < n := Nat.lt_of_mul_lt_mul_right h
    have hmantissa' := hn.mantissa_lt
    calc units m e * 2 ^ 53 = m * 2 ^ 53 * 2 ^ (e + 1074).toNat := by
          rw [units]
          ring
      _ ≤ (2 ^ 53 - 1) * n * 2 ^ (e + 1074).toNat := Nat.mul_le_mul_right _ (by omega)
      _ = (2 ^ 53 - 1) * units n e := Nat.mul_assoc _ _ _
  · exact absurd h (Nat.not_lt.mpr (Nat.le_of_lt (units_lt hn hm hgt)))

theorem div_lt_one (hx : 0 < value x) (hy : 0 < value y) (h : value x < value y) :
    value (x / y) < unitsOfOne := by
  obtain ⟨m, e, -, -, hm, hvalue⟩ := unpack_of_pos hx
  obtain ⟨n, f, -, -, hn, hvalue'⟩ := unpack_of_pos hy
  have hgap : value x * 2 ^ 53 ≤ (2 ^ 53 - 1) * value y := by
    have hnat := units_gap hm hn (Int.ofNat_lt.mp (hvalue ▸ hvalue' ▸ h))
    have hpred : ((2 ^ 53 - 1 : Nat) : Int) = 2 ^ 53 - 1 := by decide
    rw [hvalue, hvalue', ← hpred]
    exact_mod_cast hnat
  have hunit : (0 : Int) < unitsOfOne := Int.natCast_pos.mpr unitsOfOne_pos
  have hproduct : value x * unitsOfOne ≤ value belowOne * value y := by
    refine Int.le_of_mul_le_mul_right ?_ (show (0 : Int) < 2 ^ 53 by decide)
    calc value x * unitsOfOne * 2 ^ 53 = value x * 2 ^ 53 * unitsOfOne := by ring
      _ ≤ (2 ^ 53 - 1) * value y * unitsOfOne := Int.mul_le_mul_of_nonneg_right hgap hunit.le
      _ = value belowOne * value y * 2 ^ 53 := by
          rw [Int.mul_right_comm (value belowOne), value_belowOne]
          ring
  have hle := (div_le hx hy (z := belowOne) (by decide +kernel) hproduct).2
  have hbelow := value_belowOne
  omega

theorem truncInt32_div {high : Float} {n : Int} (hx : 0 < value x) (hy : 0 < value y)
    (hhigh : high.isFinite = true) (hvalue : value high = n * unitsOfOne) (hn : n < 2 ^ 31)
    (h : value x * unitsOfOne ≤ value high * value y) :
    0 ≤ CNumber.truncInt32 (x / y) ∧ CNumber.truncInt32 (x / y) ≤ n ∧
      (CNumber.truncInt32 (x / y) = 0 ↔ value x < value y) := by
  obtain ⟨hfinite, hle⟩ := div_le hx hy hhigh h
  have hunit : (0 : Int) < unitsOfOne := Int.natCast_pos.mpr unitsOfOne_pos
  have hnonneg : 0 ≤ value (x / y) := by
    obtain ⟨a, b, t, k, u, -, -, -, -, -, hu, hmodel⟩ := div_toModel hx hy
    rcases packed_value hu hmodel with ⟨-, hquotient⟩ | ⟨hinfinite, -⟩
    · rw [hquotient]
      exact Int.natCast_nonneg _
    · rw [hinfinite] at hfinite
      cases hfinite
  rw [hvalue] at hle
  have hfits : value (x / y) < 2 ^ 31 * unitsOfOne :=
    Int.lt_of_le_of_lt hle (Int.mul_lt_mul_of_pos_right hn hunit)
  rw [truncInt32_eq hfinite hnonneg hfits]
  refine ⟨Int.ediv_nonneg hnonneg hunit.le, ?_, ?_⟩
  · calc value (x / y) / unitsOfOne ≤ n * unitsOfOne / unitsOfOne := Int.ediv_le_ediv hunit hle
      _ = n := Int.mul_ediv_cancel _ (Int.ne_of_gt hunit)
  · constructor
    · intro hzero
      by_contra hge
      have hproduct : value 1 * value y ≤ value x * unitsOfOne := by
        rw [value_one, Int.mul_comm]
        exact Int.mul_le_mul_of_nonneg_right (Int.not_lt.mp hge) hunit.le
      have hone := le_div hx hy (z := 1) (by rw [value_one]; exact hunit) hfinite hproduct
      rw [value_one] at hone
      have hpos : 1 ≤ value (x / y) / unitsOfOne := by
        rw [Int.le_ediv_iff_mul_le hunit, Int.one_mul]
        exact hone
      omega
    · intro hlt
      exact Int.ediv_eq_zero_of_lt hnonneg (div_lt_one hx hy hlt)

end Divide

end FloatOrder
