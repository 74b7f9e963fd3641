import Norma.Lib.FloatDivision
import Mathlib.Algebra.Order.Ring.Abs
import Mathlib.Tactic.Linarith
import Mathlib.Tactic.FieldSimp

namespace FloatOrder

open Float.Model (UnpackedFloat Format totalExponent)
open Float.Model.UnpackedFloat

section Residue

-- The mantissa is the whole part of `r`, and the two bits say where in between `r` is.
structure Tracks (em : ExtendedMantissa) (r : ℚ) : Prop where
  low : (em.mantissa : ℚ) ≤ r
  high : r < em.mantissa + 1
  round : em.roundBit = true ↔ (em.mantissa : ℚ) + 1 / 2 ≤ r
  sticky : em.stickyBit = true ↔ r ≠ em.mantissa ∧ r ≠ em.mantissa + 1 / 2

variable {em : ExtendedMantissa} {r : ℚ}

theorem Tracks.dropped (h : Tracks em r) :
    (em.roundBit || em.stickyBit) = true ↔ r ≠ em.mantissa := by
  rw [Bool.or_eq_true, h.round, h.sticky]
  constructor
  · rintro (hround | hsticky)
    · intro heq
      linarith
    · exact hsticky.1
  · intro hne
    by_cases hhalf : r = em.mantissa + 1 / 2
    · exact .inl (le_of_eq hhalf.symm)
    · exact .inr ⟨hne, hhalf⟩

theorem Tracks.shiftRightOne (h : Tracks em r) : Tracks em.shiftRightOne (r / 2) := by
  have hlow := h.low
  have hhigh := h.high
  have hdropped := h.dropped
  have hsplit : ((2 * (em.mantissa / 2) + em.mantissa % 2 : Nat) : ℚ) = em.mantissa := by
    rw [Nat.div_add_mod]
  generalize hq : em.mantissa / 2 = q at hsplit
  push_cast at hsplit
  have hbit : em.shiftRightOne = ⟨q, em.mantissa % 2 != 0, em.roundBit || em.stickyBit⟩ := by
    rw [← hq]
    rfl
  rw [hbit]
  rcases Nat.mod_two_eq_zero_or_one em.mantissa with heven | hodd
  · rw [heven] at hsplit ⊢
    push_cast at hsplit
    refine ⟨?_, ?_, ?_, ?_⟩
    · change (q : ℚ) ≤ _
      linarith
    · change _ < (q : ℚ) + 1
      linarith
    · refine iff_of_false (by simp) fun hle => ?_
      change (q : ℚ) + 1 / 2 ≤ _ at hle
      linarith
    · change _ ↔ r / 2 ≠ q ∧ r / 2 ≠ (q : ℚ) + 1 / 2
      rw [hdropped]
      constructor
      · intro hne
        refine ⟨fun heq => hne ?_, fun heq => ?_⟩
        · linarith
        · linarith
      · rintro ⟨hne, -⟩ heq
        exact hne (by linarith)
  · rw [hodd] at hsplit ⊢
    push_cast at hsplit
    refine ⟨?_, ?_, ?_, ?_⟩
    · change (q : ℚ) ≤ _
      linarith
    · change _ < (q : ℚ) + 1
      linarith
    · refine iff_of_true (by simp) ?_
      change (q : ℚ) + 1 / 2 ≤ _
      linarith
    · change _ ↔ r / 2 ≠ q ∧ r / 2 ≠ (q : ℚ) + 1 / 2
      rw [hdropped]
      constructor
      · intro hne
        refine ⟨fun heq => ?_, fun heq => hne ?_⟩
        · linarith
        · linarith
      · rintro ⟨-, hne⟩ heq
        exact hne (by linarith)

theorem Tracks.shiftRight (h : Tracks em r) (n : Nat) : Tracks (em >>> n) (r / 2 ^ n) := by
  change Tracks (n.repeat ExtendedMantissa.shiftRightOne em) _
  induction n with
  | zero => simpa [Nat.repeat] using h
  | succ n ih =>
    have hshift := ih.shiftRightOne
    rw [div_div, ← pow_succ] at hshift
    exact hshift

theorem Tracks.nearest (h : Tracks em r) : |r - em.roundedMantissa| ≤ 1 / 2 := by
  obtain ⟨hlow, hhigh, hround, hsticky⟩ := h
  obtain ⟨m, roundBit, stickyBit⟩ := em
  dsimp only at hlow hhigh hround hsticky
  rw [abs_le]
  cases roundBit with
  | false =>
    have hless : ¬(m : ℚ) + 1 / 2 ≤ r := fun hle => Bool.false_ne_true (hround.mpr hle)
    have hrounded : (⟨m, false, stickyBit⟩ : ExtendedMantissa).roundedMantissa = m := by
      cases stickyBit <;> rfl
    rw [hrounded]
    constructor <;> linarith
  | true =>
    have hmore := hround.mp rfl
    cases stickyBit with
    | true =>
      change -(1 / 2) ≤ r - ((m + 1 : Nat) : ℚ) ∧ r - ((m + 1 : Nat) : ℚ) ≤ 1 / 2
      push_cast
      constructor <;> linarith
    | false =>
      have hhalf : r = m + 1 / 2 := by
        by_contra hne
        exact Bool.false_ne_true (hsticky.mpr ⟨by intro heq; linarith, hne⟩)
      change -(1 / 2) ≤ r - ((m + m % 2 : Nat) : ℚ) ∧ r - ((m + m % 2 : Nat) : ℚ) ≤ 1 / 2
      rcases Nat.mod_two_eq_zero_or_one m with heven | hodd
      · rw [heven, Nat.add_zero]
        constructor <;> linarith
      · rw [hodd]
        push_cast
        constructor <;> linarith

theorem tracks_exact (m : Nat) :
    Tracks (ExtendedMantissa.ofMantissaAndAccuracy m .exact) (m : ℚ) where
  low := le_refl _
  high := lt_add_one _
  round := iff_of_false Bool.false_ne_true (by change ¬(m : ℚ) + 1 / 2 ≤ m; linarith)
  sticky := iff_of_false Bool.false_ne_true fun h => h.1 rfl

theorem tracks_fraction (a : Nat) {b : Nat} (hb : 0 < b) :
    Tracks (ExtendedMantissa.ofMantissaAndAccuracy (a / b) (accuracyOfFraction (a % b) b))
      ((a : ℚ) / b) := by
  have hpos : (0 : ℚ) < b := by exact_mod_cast hb
  have hless : ((a % b : Nat) : ℚ) < b := by exact_mod_cast Nat.mod_lt a hb
  have hwhole : (a : ℚ) = b * (a / b : Nat) + (a % b : Nat) := by
    exact_mod_cast (Nat.div_add_mod a b).symm
  have hsplit : (a : ℚ) / b = (a / b : Nat) + ((a % b : Nat) : ℚ) / b := by
    rw [hwhole, add_div, mul_div_cancel_left₀ _ hpos.ne']
  rw [hsplit]
  generalize a / b = q
  generalize a % b = c at hless
  by_cases hzero : c = 0
  · subst hzero
    rw [accuracyOfFraction, if_pos rfl, Nat.cast_zero, zero_div, add_zero]
    exact tracks_exact q
  have hc : (0 : ℚ) < c := by exact_mod_cast Nat.pos_of_ne_zero hzero
  have hfraction : (0 : ℚ) < (c : ℚ) / b := div_pos hc hpos
  have hone : (c : ℚ) / b < 1 := (div_lt_one₀ hpos).mpr hless
  rw [accuracyOfFraction, if_neg hzero]
  rcases Nat.lt_trichotomy (2 * c) b with hlt | heq | hgt
  · have hhalf : (c : ℚ) / b < 1 / 2 := by
      rw [div_lt_div_iff₀ hpos two_pos]
      exact_mod_cast (show c * 2 < 1 * b by omega)
    rw [Nat.compare_eq_lt.mpr hlt]
    refine ⟨?_, ?_, iff_of_false Bool.false_ne_true ?_, iff_of_true rfl ⟨?_, ?_⟩⟩
    · change (q : ℚ) ≤ _
      linarith
    · change _ < (q : ℚ) + 1
      linarith
    · change ¬(q : ℚ) + 1 / 2 ≤ _
      linarith
    · change _ ≠ (q : ℚ)
      linarith
    · change _ ≠ (q : ℚ) + 1 / 2
      linarith
  · have hhalf : (c : ℚ) / b = 1 / 2 := by
      rw [div_eq_div_iff hpos.ne' two_ne_zero]
      exact_mod_cast (show c * 2 = 1 * b by omega)
    rw [Nat.compare_eq_eq.mpr heq, hhalf]
    refine ⟨?_, ?_, iff_of_true rfl (le_refl _), iff_of_false Bool.false_ne_true fun h => h.2 rfl⟩
    · change (q : ℚ) ≤ _
      linarith
    · change _ < (q : ℚ) + 1
      linarith
  · have hhalf : 1 / 2 < (c : ℚ) / b := by
      rw [div_lt_div_iff₀ two_pos hpos]
      exact_mod_cast (show 1 * b < c * 2 by omega)
    rw [Nat.compare_eq_gt.mpr hgt]
    refine ⟨?_, ?_, iff_of_true rfl ?_, iff_of_true rfl ⟨?_, ?_⟩⟩
    · change (q : ℚ) ≤ _
      linarith
    · change _ < (q : ℚ) + 1
      linarith
    · change (q : ℚ) + 1 / 2 ≤ _
      linarith
    · change _ ≠ (q : ℚ)
      linarith
    · change _ ≠ (q : ℚ) + 1 / 2
      linarith

end Residue

section Nearby

-- A number rounded to a nearest multiple of `2 ^ t` units, the spacing of the numbers around it.
def Nearby (u : UnpackedFloat) (v : ℚ) : Prop :=
  ∃ t n : Nat, Nonnegative u (n * 2 ^ t) ∧ |v - n * 2 ^ t| ≤ 2 ^ t / 2 ∧
    (t = 0 ∨ 2 ^ 52 * 2 ^ t ≤ v)

theorem roundWithAccuracy_nearby {q : Nat} {e : Int} {accuracy : Accuracy} {r : ℚ}
    (htracks : Tracks (ExtendedMantissa.ofMantissaAndAccuracy q accuracy) r)
    (hlarge : -1074 < e → 2 ^ 52 ≤ q) :
    Nearby (roundWithAccuracy .binary64 .positive q e accuracy) (r * 2 ^ (e + 1074)) := by
  generalize hn : (max ((q.log2 : Int) + 1 + e - 53) (-1074) - e).toNat = n
  obtain ⟨hsmall, hnormal⟩ := shift_bounds hn.symm hlarge
  have hsum : -1074 ≤ e + n := by omega
  have hshift : shiftToTargetExponent .binary64 q e accuracy =
      (ExtendedMantissa.ofMantissaAndAccuracy q accuracy >>> n, e + n) := by
    rw [shiftToTargetExponent, shiftToExponent, ← hn]
    rfl
  have hshifted := htracks.shiftRight n
  have hbounds := roundedMantissa_bounds (ExtendedMantissa.ofMantissaAndAccuracy q accuracy >>> n)
  have hmantissa := shift_mantissa (ExtendedMantissa.ofMantissaAndAccuracy q accuracy) n
  rw [ofMantissaAndAccuracy_mantissa] at hmantissa
  have hlow := hshifted.low
  have hhalf := hshifted.nearest
  rw [hmantissa] at hbounds hlow
  generalize hk : (ExtendedMantissa.ofMantissaAndAccuracy q accuracy >>> n).roundedMantissa = k
    at hbounds hhalf
  obtain ⟨t, ht⟩ : ∃ t : Nat, (t : Int) = e + n + 1074 := ⟨(e + n + 1074).toNat, by omega⟩
  have hscale : r * 2 ^ (e + 1074) = r / 2 ^ n * 2 ^ t := by
    have hexponent : e + 1074 = (t : Int) - n := by omega
    rw [hexponent, zpow_sub₀ two_ne_zero, zpow_natCast, zpow_natCast]
    ring
  have hpow : (0 : ℚ) < 2 ^ t := by positivity
  refine ⟨t, k, ?_, ?_, ?_⟩
  · have hrounded : Nonnegative (roundWithAccuracy .binary64 .positive q e accuracy)
        (units k (e + n)) :=
      roundWithAccuracy_rounds (by rw [hshift]; exact hk) (by rw [hshift]) hsum (by omega) (by omega)
    rwa [units, show (e + n + 1074).toNat = t by omega] at hrounded
  · rw [hscale, ← sub_mul, abs_mul, abs_of_pos hpow]
    calc |r / 2 ^ n - k| * 2 ^ t ≤ 1 / 2 * 2 ^ t := mul_le_mul_of_nonneg_right hhalf hpow.le
      _ = 2 ^ t / 2 := by ring
  · rcases hnormal with hleast | hnormal
    · exact .inl (by omega)
    · right
      rw [hscale]
      refine mul_le_mul_of_nonneg_right (le_trans ?_ hlow) hpow.le
      exact_mod_cast hnormal

end Nearby

section Closest

variable {u : UnpackedFloat} {v : ℚ} {x z : Float}

theorem multiple_closest {w : ℚ} (hw : 0 < w) {n : Nat} (h : |v - n * w| ≤ w / 2) (k : Nat) :
    |v - n * w| ≤ |v - k * w| := by
  rcases eq_or_ne n k with rfl | hne
  · exact le_refl _
  · have hgap : (1 : ℚ) ≤ |(k : ℚ) - n| := by
      have hint : 1 ≤ |(k : Int) - n| := Int.one_le_abs (sub_ne_zero.mpr (by omega))
      exact_mod_cast hint
    have hdistance : w ≤ |(k : ℚ) * w - n * w| := by
      rw [← sub_mul, abs_mul, abs_of_pos hw]
      exact le_mul_of_one_le_left hw.le hgap
    have htriangle := abs_sub_le ((k : ℚ) * w) v (n * w)
    rw [abs_sub_comm (k * w) v] at htriangle
    linarith

theorem Nearby.closest (h : Nearby u v) : ∃ w : Nat, Nonnegative u w ∧
    (∀ {m : Nat} {e : Int}, Canonical m e → |v - w| ≤ |v - units m e|) ∧
    (2 ^ 52 ≤ v → |v - w| ≤ v / 2 ^ 53) := by
  obtain ⟨t, n, hu, hhalf, hnormal⟩ := h
  have hpow : (0 : ℚ) < 2 ^ t := by positivity
  refine ⟨_, hu, fun {m e} hcanonical => ?_, fun hv => ?_⟩
  · push_cast
    rcases units_multiple hcanonical t with ⟨k, hk⟩ | ⟨ht, hsmall⟩
    · rw [hk]
      push_cast
      exact multiple_closest hpow hhalf k
    · have hlarge := hnormal.resolve_left ht
      have hless : (units m e : ℚ) < 2 ^ 52 * 2 ^ t := by exact_mod_cast hsmall
      calc |v - n * 2 ^ t| ≤ |v - (2 ^ 52 : Nat) * 2 ^ t| := multiple_closest hpow hhalf _
        _ ≤ |v - units m e| := by
          push_cast
          rw [abs_of_nonneg (by linarith), abs_of_nonneg (by linarith)]
          linarith
  · have hlarge : 2 ^ 52 * 2 ^ t ≤ v := by
      rcases hnormal with rfl | hlarge
      · rwa [pow_zero, mul_one]
      · exact hlarge
    push_cast
    refine le_trans hhalf ?_
    rw [div_le_div_iff₀ two_pos (by positivity)]
    calc (2 : ℚ) ^ t * 2 ^ 53 = 2 ^ 52 * 2 ^ t * 2 := by ring
      _ ≤ v * 2 := mul_le_mul_of_nonneg_right hlarge two_pos.le

theorem canonical_of_nonneg (hz : 0 ≤ value z) :
    ∃ m e, Canonical m e ∧ value z = units m e := by
  rcases Int.lt_or_eq_of_le hz with hpos | hzero
  · obtain ⟨m, e, -, -, hcanonical, hvalue⟩ := unpack_of_pos hpos
    exact ⟨m, e, hcanonical, hvalue⟩
  · refine ⟨0, -1074, ⟨by decide, le_refl _, .inl rfl⟩, ?_⟩
    rw [← hzero, units, Nat.zero_mul]
    rfl

theorem Nearby.packed (h : Nearby u v) (hx : x.toModel = .pack u) (hv : 0 ≤ v)
    (hz : z.isFinite = true) (hle : v ≤ value z) :
    x.isFinite = true ∧ (∀ y : Float, |v - value x| ≤ |v - value y|) ∧
      (2 ^ 52 ≤ v → |v - value x| ≤ v / 2 ^ 53) := by
  obtain ⟨w, hu, hclosest, hrelative⟩ := h.closest
  have hcompare (y : Float) : |v - w| ≤ |v - value y| := by
    rcases Int.le_total 0 (value y) with hnonneg | hneg
    · obtain ⟨m, e, hcanonical, hvalue⟩ := canonical_of_nonneg hnonneg
      rw [hvalue]
      exact hclosest hcanonical
    · obtain ⟨m, e, hcanonical, hvalue⟩ := canonical_of_nonneg (z := 0) (by decide +kernel)
      have hzero : value 0 = 0 := by decide +kernel
      rw [hzero] at hvalue
      have hbound := hclosest hcanonical
      rw [← Nat.cast_zero, Nat.cast_inj] at hvalue
      rw [← hvalue, Nat.cast_zero, sub_zero, abs_of_nonneg hv] at hbound
      have hneg' : (value y : ℚ) ≤ 0 := by exact_mod_cast hneg
      rw [abs_of_nonneg (show 0 ≤ v - value y by linarith)]
      linarith
  rcases packed_value hu hx with ⟨hfinite, hvalue⟩ | ⟨-, hless⟩
  · rw [hvalue]
    exact ⟨hfinite, hcompare, hrelative⟩
  · have hbelow : (value z : ℚ) < w := by exact_mod_cast hless z hz
    have hfar := hcompare z
    rw [abs_of_nonpos (by linarith), abs_of_nonpos (by linarith)] at hfar
    linarith

theorem units_bounded {m : Nat} {e : Int} (hcanonical : Canonical m e) (he : e ≤ 971) :
    units m e < 2 ^ 2 ^ 11 * unitsOfOne := by
  obtain ⟨k, hk⟩ : ∃ k, k + 0 = 1074 := ⟨_, rfl⟩
  rw [unitsOfOne_split hk]
  calc units m e < 2 ^ 53 * 2 ^ (e + 1074).toNat :=
        Nat.mul_lt_mul_of_pos_right hcanonical.mantissa_lt (Nat.two_pow_pos _)
    _ = 2 ^ (53 + (e + 1074).toNat) := (Nat.pow_add ..).symm
    _ ≤ 2 ^ (2 ^ 11 + (k + 0)) := Nat.pow_le_pow_right (by decide) (by omega)
    _ = 2 ^ 2 ^ 11 * (2 ^ k * 2 ^ 0) := by rw [Nat.pow_add, Nat.pow_add]

end Closest

end FloatOrder
