import Norma.Lib.CNumber
import Mathlib.Algebra.Order.Ring.Abs
import Mathlib.Algebra.Order.Field.Basic
import Mathlib.Tactic.Linarith
import Mathlib.Tactic.FieldSimp
import Mathlib.Tactic.Ring

namespace CNumber

section Quotient

variable {a b : Nat}

theorem roundQuotient_near (hb : 0 < b) : |(roundQuotient a b : ℚ) - a / b| ≤ 1 / 2 := by
  have hpos : (0 : ℚ) < b := by exact_mod_cast hb
  have hmod := Nat.mod_lt a hb
  have hsplit : b * (a / b) + a % b = a := Nat.div_add_mod a b
  have hparity := Nat.mod_lt (a / b) (show 0 < 2 by decide)
  have hdistance : 2 * a ≤ (2 * roundQuotient a b + 1) * b ∧
      2 * roundQuotient a b * b ≤ 2 * a + b := by
    have hless (c : Nat) : (2 * c + 1) * b = 2 * (b * c) + b := by ring
    have hmore (c : Nat) : 2 * c * b = 2 * (b * c) := by ring
    have hnext : b * (a / b + 1) = b * (a / b) + b := by ring
    rw [roundQuotient, hless, hmore]
    split
    · omega
    · split
      · rw [hnext]
        omega
      · rcases Nat.mod_two_eq_zero_or_one (a / b) with heven | hodd
        · rw [heven, Nat.add_zero]
          omega
        · rw [hodd, hnext]
          omega
  obtain ⟨hlow, hhigh⟩ := hdistance
  have hlow' : 2 * (a : ℚ) ≤ (2 * roundQuotient a b + 1) * b := by exact_mod_cast hlow
  have hhigh' : 2 * (roundQuotient a b : ℚ) * b ≤ 2 * a + b := by exact_mod_cast hhigh
  have hquotient : (a : ℚ) / b * b = a := div_mul_cancel₀ _ hpos.ne'
  rw [abs_le]
  constructor
  · refine le_of_mul_le_mul_right ?_ hpos
    rw [sub_mul, hquotient]
    linarith
  · refine le_of_mul_le_mul_right ?_ hpos
    rw [sub_mul, hquotient]
    linarith

theorem ten_zpow_pos (k : Int) : (0 : ℚ) < 10 ^ k := zpow_pos (by norm_num) k

theorem ten_zpow (k : Int) : (10 : ℚ) ^ k = (10 ^ k.toNat : Nat) / (10 ^ (-k).toNat : Nat) := by
  obtain ⟨n, rfl | rfl⟩ := k.eq_nat_or_neg
  · rw [Int.toNat_natCast, zpow_natCast, show (-(n : Int)).toNat = 0 by omega, Nat.pow_zero,
      Nat.cast_one, div_one]
    push_cast
    rfl
  · rw [neg_neg, Int.toNat_natCast, show (-(n : Int)).toNat = 0 by omega, Nat.pow_zero,
      Nat.cast_one, one_div, zpow_neg, zpow_natCast]
    push_cast
    rfl

theorem ten_le_quotient (hb : 0 < b) (x : Int) :
    b * 10 ^ x.toNat ≤ a * 10 ^ (-x).toNat ↔ (10 : ℚ) ^ x ≤ a / b := by
  have hpos : (0 : ℚ) < b := by exact_mod_cast hb
  have hpow : (0 : ℚ) < (10 ^ (-x).toNat : Nat) := by exact_mod_cast Nat.pow_pos (by decide)
  rw [ten_zpow, div_le_div_iff₀ hpow hpos, mul_comm _ (b : ℚ)]
  norm_cast

theorem digitCount_bounds (ha : 0 < a) :
    (10 : ℚ) ^ ((digitCount a : Int) - 1) ≤ a ∧ (a : ℚ) < 10 ^ (digitCount a : Int) := by
  have hcount : 0 < digitCount a := Nat.length_toDigits_pos
  obtain ⟨k, hk⟩ := Nat.exists_eq_succ_of_ne_zero (Nat.ne_of_gt hcount)
  constructor
  · have hlow : 10 ^ k ≤ a := by
      rcases Nat.eq_zero_or_pos k with rfl | hkpos
      · exact ha
      · by_contra hless
        have hle := (Nat.length_toDigits_le_iff (by decide) hkpos).mpr (Nat.not_le.mp hless)
        change digitCount a ≤ k at hle
        omega
    rw [hk, show ((k.succ : Nat) : Int) - 1 = k by omega, zpow_natCast]
    exact_mod_cast hlow
  · have hhigh := (Nat.length_toDigits_le_iff (b := 10) (by decide) hcount).mp (Nat.le_refl _)
    rw [zpow_natCast]
    exact_mod_cast hhigh

theorem decimalExponent_bounds (ha : 0 < a) (hb : 0 < b) :
    (10 : ℚ) ^ decimalExponent a b ≤ a / b ∧ (a : ℚ) / b < 10 ^ (decimalExponent a b + 1) := by
  obtain ⟨halow, hahigh⟩ := digitCount_bounds ha
  obtain ⟨hblow, hbhigh⟩ := digitCount_bounds hb
  have hpos : (0 : ℚ) < b := by exact_mod_cast hb
  have hapos : (0 : ℚ) < a := by exact_mod_cast ha
  rw [decimalExponent]
  generalize hx : (digitCount a : Int) - digitCount b = x
  split
  · next hle =>
    refine ⟨(ten_le_quotient hb x).mp hle, ?_⟩
    rw [div_lt_iff₀ hpos]
    calc (a : ℚ) < 10 ^ (digitCount a : Int) := hahigh
      _ = 10 ^ (x + 1) * 10 ^ ((digitCount b : Int) - 1) := by
        rw [← zpow_add₀ (by norm_num)]
        congr 1
        omega
      _ ≤ 10 ^ (x + 1) * b := mul_le_mul_of_nonneg_left hblow (ten_zpow_pos _).le
  · next hless =>
    constructor
    · rw [le_div_iff₀ hpos]
      calc (10 : ℚ) ^ (x - 1) * b ≤ 10 ^ (x - 1) * 10 ^ (digitCount b : Int) :=
            mul_le_mul_of_nonneg_left hbhigh.le (ten_zpow_pos _).le
        _ = 10 ^ ((digitCount a : Int) - 1) := by
          rw [← zpow_add₀ (by norm_num)]
          congr 1
          omega
        _ ≤ a := halow
    · rw [sub_add_cancel]
      exact not_le.mp fun hle => hless ((ten_le_quotient hb x).mpr hle)

theorem decimalExponent_unique (ha : 0 < a) (hb : 0 < b) {x : Int}
    (hlow : (10 : ℚ) ^ x ≤ a / b) (hhigh : (a : ℚ) / b < 10 ^ (x + 1)) :
    decimalExponent a b = x := by
  obtain ⟨hlow', hhigh'⟩ := decimalExponent_bounds ha hb
  have hten : (1 : ℚ) < 10 := by norm_num
  have h := (zpow_lt_zpow_iff_right₀ hten).mp (lt_of_le_of_lt hlow hhigh')
  have h' := (zpow_lt_zpow_iff_right₀ hten).mp (lt_of_le_of_lt hlow' hhigh)
  omega

end Quotient

section Scaled

variable {a b : Nat} {precision : Nat}

theorem shifted_near (hb : 0 < b) (k : Int) :
    |(roundQuotient (a * 10 ^ k.toNat) (b * 10 ^ (-k).toNat) : ℚ) - a / b * 10 ^ k| ≤ 1 / 2 := by
  have hnear := roundQuotient_near (a := a * 10 ^ k.toNat) (b := b * 10 ^ (-k).toNat)
    (Nat.mul_pos hb (Nat.pow_pos (by decide)))
  have hquotient : ((a * 10 ^ k.toNat : Nat) : ℚ) / (b * 10 ^ (-k).toNat : Nat) =
      a / b * 10 ^ k := by
    rw [ten_zpow, div_mul_div_comm]
    push_cast
    rfl
  rwa [hquotient] at hnear

theorem near_nat {n k : Nat} {r : ℚ} (h : |(n : ℚ) - r| ≤ 1 / 2) (hk : (k : ℚ) ≤ r) : k ≤ n := by
  have hlow := (abs_le.mp h).1
  by_contra hless
  have hstep : (n : ℚ) + 1 ≤ k := by exact_mod_cast Nat.not_le.mp hless
  linarith

theorem nat_near {n k : Nat} {r : ℚ} (h : |(n : ℚ) - r| ≤ 1 / 2) (hk : r ≤ k) : n ≤ k := by
  have hhigh := (abs_le.mp h).2
  by_contra hless
  have hstep : (k : ℚ) + 1 ≤ n := by exact_mod_cast Nat.not_le.mp hless
  linarith

theorem digits_bounds {n : Nat} (hlow : 10 ^ precision ≤ n) (hhigh : n < 10 ^ (precision + 1))
    (x : Int) : (10 : ℚ) ^ x ≤ n * 10 ^ (x - precision) ∧
      ((n : ℚ) + 1) * 10 ^ (x - precision) ≤ 10 ^ (x + 1) := by
  have hten : (10 : ℚ) ≠ 0 := by norm_num
  have hunit := ten_zpow_pos (x - precision)
  constructor
  · have hcast : (10 : ℚ) ^ precision ≤ n := by exact_mod_cast hlow
    calc (10 : ℚ) ^ x = 10 ^ precision * 10 ^ (x - precision) := by
          rw [← zpow_natCast, ← zpow_add₀ hten, add_sub_cancel]
      _ ≤ n * 10 ^ (x - precision) := mul_le_mul_of_nonneg_right hcast hunit.le
  · have hcast : (n : ℚ) + 1 ≤ 10 ^ (precision + 1) := by exact_mod_cast hhigh
    calc ((n : ℚ) + 1) * 10 ^ (x - precision) ≤ 10 ^ (precision + 1) * 10 ^ (x - precision) :=
          mul_le_mul_of_nonneg_right hcast hunit.le
      _ = 10 ^ (x + 1) := by
        rw [← zpow_natCast, ← zpow_add₀ hten]
        congr 1
        push_cast
        ring

structure Shows (precision : Nat) (r : ℚ) (shown : Nat × Int) : Prop where
  low : 10 ^ precision ≤ shown.1
  high : shown.1 < 10 ^ (precision + 1)
  near : |shown.1 * 10 ^ (shown.2 - precision) - r| ≤ 10 ^ (shown.2 - precision) / 2
  start : 10 ^ shown.2 - 10 ^ (shown.2 - precision) / 20 ≤ r

theorem scaled_shows (ha : 0 < a) (hb : 0 < b) :
    Shows precision ((a : ℚ) / b) (scaled precision a b) := by
  obtain ⟨hlow, hhigh⟩ := decimalExponent_bounds ha hb
  rw [scaled]
  generalize decimalExponent a b = x at hlow hhigh
  have hnear := shifted_near (a := a) hb (precision - x)
  have hten : (10 : ℚ) ≠ 0 := by norm_num
  have hpow : (0 : ℚ) < 10 ^ (precision - x) := ten_zpow_pos _
  generalize roundQuotient (a * 10 ^ ((precision : Int) - x).toNat)
    (b * 10 ^ (-((precision : Int) - x)).toNat) = n at hnear
  have hmore : 10 ^ precision ≤ n := by
    refine near_nat hnear ?_
    push_cast
    calc (10 : ℚ) ^ precision = 10 ^ x * 10 ^ (precision - x) := by
          rw [← zpow_add₀ hten, add_sub_cancel, zpow_natCast]
      _ ≤ a / b * 10 ^ (precision - x) := mul_le_mul_of_nonneg_right hlow hpow.le
  have hless : n ≤ 10 ^ (precision + 1) := by
    refine nat_near hnear ?_
    push_cast
    calc (a : ℚ) / b * 10 ^ (precision - x) ≤ 10 ^ (x + 1) * 10 ^ (precision - x) :=
          mul_le_mul_of_nonneg_right hhigh.le hpow.le
      _ = 10 ^ (precision + 1) := by
        rw [← zpow_add₀ hten, ← zpow_natCast]
        congr 1
        push_cast
        ring
  have hunit : (0 : ℚ) < 10 ^ (x - precision) := ten_zpow_pos _
  have hscaled : |(n : ℚ) * 10 ^ (x - precision) - a / b| ≤ 10 ^ (x - precision) / 2 := by
    have hsplit : (n : ℚ) * 10 ^ (x - precision) - a / b =
        (n - a / b * 10 ^ (precision - x)) * 10 ^ (x - precision) := by
      rw [sub_mul, mul_assoc, ← zpow_add₀ hten, sub_add_sub_cancel, sub_self, zpow_zero, mul_one]
    rw [hsplit, abs_mul, abs_of_pos hunit]
    linarith [mul_le_mul_of_nonneg_right hnear hunit.le]
  have hgrow : (10 : ℚ) ^ (x + 1 - precision) = 10 * 10 ^ (x - precision) := by
    rw [← zpow_one_add₀ hten]
    congr 1
    ring
  split
  · next hcarry =>
    refine ⟨Nat.le_refl _, Nat.pow_lt_pow_right (by decide) (Nat.lt_succ_self _), ?_, ?_⟩
    · have hsame : ((10 ^ precision : Nat) : ℚ) * 10 ^ (x + 1 - precision) =
          n * 10 ^ (x - precision) := by
        rw [hcarry, hgrow]
        push_cast
        ring
      dsimp only
      rw [hsame, hgrow]
      linarith
    · have hwhole : (n : ℚ) * 10 ^ (x - precision) = 10 ^ (x + 1) := by
        rw [hcarry]
        push_cast
        rw [← zpow_natCast, ← zpow_add₀ hten]
        congr 1
        push_cast
        ring
      rw [hwhole] at hscaled
      dsimp only
      rw [hgrow]
      linarith [(abs_le.mp hscaled).2]
  · next hcarry => exact ⟨hmore, Nat.lt_of_le_of_ne hless hcarry, hscaled, by linarith⟩

theorem step_down {x y : Int} (h : x < y) : 10 * (10 : ℚ) ^ x ≤ 10 ^ y := by
  rw [← zpow_one_add₀ (by norm_num)]
  exact zpow_le_zpow_right₀ (by norm_num) (by omega)

theorem Shows.le {r : ℚ} {shown : Nat × Int} (h : Shows precision r shown) {k : Nat} {y : Int}
    (hlow : 10 ^ precision ≤ k) (hhigh : k < 10 ^ (precision + 1))
    (hle : r ≤ k * 10 ^ (y - precision)) :
    (shown.1 : ℚ) * 10 ^ (shown.2 - precision) ≤ k * 10 ^ (y - precision) := by
  obtain ⟨n, x⟩ := shown
  obtain ⟨hleast, hmost, hnear, hstart⟩ := h
  dsimp only at hleast hmost hnear hstart ⊢
  obtain ⟨hfirst, hlast⟩ := digits_bounds hleast hmost x
  obtain ⟨hfirst', hlast'⟩ := digits_bounds hlow hhigh y
  have hunit := ten_zpow_pos (x - precision)
  obtain ⟨hbelow, habove⟩ := abs_le.mp hnear
  rcases Int.lt_trichotomy x y with hlt | rfl | hgt
  · have hpower : (10 : ℚ) ^ (x + 1) ≤ 10 ^ y := zpow_le_zpow_right₀ (by norm_num) (by omega)
    linarith
  · by_contra hmore
    have hless : (k : ℚ) < n := lt_of_mul_lt_mul_right (not_le.mp hmore) hunit.le
    have hstep : (k : ℚ) + 1 ≤ n := by
      have hnat : k < n := by exact_mod_cast hless
      exact_mod_cast hnat
    have hgrown := mul_le_mul_of_nonneg_right hstep hunit.le
    rw [add_mul, one_mul] at hgrown
    linarith
  · by_contra hmore
    rw [add_mul, one_mul] at hlast'
    rcases Int.lt_or_eq_of_le (Int.add_one_le_iff.mpr hgt) with hfar | rfl
    · have hpower := step_down hfar
      have hshare : (10 : ℚ) ^ (x - precision) ≤ 10 ^ x :=
        zpow_le_zpow_right₀ (by norm_num) (by omega)
      have hunit' := ten_zpow_pos (y - precision)
      have hpositive := ten_zpow_pos x
      linarith
    · have hshare : (10 : ℚ) ^ (y + 1 - precision) = 10 * 10 ^ (y - precision) := by
        rw [← zpow_one_add₀ (by norm_num)]
        congr 1
        ring
      have hunit' := ten_zpow_pos (y - precision)
      linarith

theorem Shows.ge {r : ℚ} {shown : Nat × Int} (h : Shows precision r shown) {k : Nat} {y : Int}
    (hlow : 10 ^ precision ≤ k) (hhigh : k < 10 ^ (precision + 1))
    (hge : k * 10 ^ (y - precision) - 10 ^ (y - precision) / 40 ≤ r) :
    (k : ℚ) * 10 ^ (y - precision) ≤ shown.1 * 10 ^ (shown.2 - precision) := by
  obtain ⟨n, x⟩ := shown
  obtain ⟨hleast, hmost, hnear, -⟩ := h
  dsimp only at hleast hmost hnear ⊢
  obtain ⟨hfirst, hlast⟩ := digits_bounds hleast hmost x
  obtain ⟨hfirst', hlast'⟩ := digits_bounds hlow hhigh y
  have hunit := ten_zpow_pos (x - precision)
  have hunit' := ten_zpow_pos (y - precision)
  obtain ⟨hbelow, habove⟩ := abs_le.mp hnear
  rw [add_mul, one_mul] at hlast hlast'
  rcases Int.lt_trichotomy x y with hlt | rfl | hgt
  · exfalso
    rcases Int.lt_or_eq_of_le (Int.add_one_le_iff.mpr hlt) with hfar | rfl
    · have hpower := step_down hfar
      have hshare : (10 : ℚ) ^ (y - precision) ≤ 10 ^ y :=
        zpow_le_zpow_right₀ (by norm_num) (by omega)
      have hpositive := ten_zpow_pos y
      linarith
    · have hshare : (10 : ℚ) ^ (x + 1 - precision) = 10 * 10 ^ (x - precision) := by
        rw [← zpow_one_add₀ (by norm_num)]
        congr 1
        ring
      linarith
  · by_contra hmore
    have hless : (n : ℚ) < k := lt_of_mul_lt_mul_right (not_le.mp hmore) hunit.le
    have hstep : (n : ℚ) + 1 ≤ k := by
      have hnat : n < k := by exact_mod_cast hless
      exact_mod_cast hnat
    have hgrown := mul_le_mul_of_nonneg_right hstep hunit.le
    rw [add_mul, one_mul] at hgrown
    linarith
  · have hpower : (10 : ℚ) ^ (y + 1) ≤ 10 ^ x := zpow_le_zpow_right₀ (by norm_num) (by omega)
    linarith

theorem nat_eq {n k : Nat} (h : |(n : ℚ) - k| < 1) : n = k := by
  obtain ⟨hlow, hhigh⟩ := abs_lt.mp h
  have hless : (k : ℚ) < (n + 1 : Nat) := by
    push_cast
    linarith
  have hmore : (n : ℚ) < (k + 1 : Nat) := by
    push_cast
    linarith
  have hk : k < n + 1 := by exact_mod_cast hless
  have hn : n < k + 1 := by exact_mod_cast hmore
  omega

-- A number much closer to a decimal number than half a unit is printed as that decimal number,
-- also where it falls short of a power of ten and the rounding carries.
theorem scaled_unique (ha : 0 < a) (hb : 0 < b) {n : Nat} {x : Int} (hlow : 10 ^ precision ≤ n)
    (hhigh : n < 10 ^ (precision + 1))
    (hnear : |(n : ℚ) * 10 ^ (x - precision) - a / b| < 10 ^ (x - precision) / 20) :
    scaled precision a b = (n, x) := by
  have hten : (10 : ℚ) ≠ 0 := by norm_num
  have hunit := ten_zpow_pos (x - precision)
  obtain ⟨hfirst, hlast⟩ := digits_bounds hlow hhigh x
  obtain ⟨hbelow, habove⟩ := abs_lt.mp hnear
  have hinverse : (10 : ℚ) ^ (x - precision) * 10 ^ (precision - x) = 1 := by
    rw [← zpow_add₀ hten, sub_add_sub_cancel, sub_self, zpow_zero]
  have hscale := ten_zpow_pos (precision - x)
  rcases le_or_gt ((10 : ℚ) ^ x) (a / b) with hmore | hless
  · have hexponent : decimalExponent a b = x := decimalExponent_unique ha hb hmore (by linarith)
    have hrounded := shifted_near (a := a) hb (precision - x)
    have hsame : roundQuotient (a * 10 ^ ((precision : Int) - x).toNat)
        (b * 10 ^ (-((precision : Int) - x)).toNat) = n := by
      refine nat_eq ?_
      have hclose : |(n : ℚ) - a / b * 10 ^ (precision - x)| < 1 / 20 := by
        have hsplit : (n : ℚ) - a / b * 10 ^ (precision - x) =
            (n * 10 ^ (x - precision) - a / b) * 10 ^ (precision - x) := by
          rw [sub_mul, mul_assoc, hinverse, mul_one]
        rw [hsplit, abs_mul, abs_of_pos hscale]
        calc |(n : ℚ) * 10 ^ (x - precision) - a / b| * 10 ^ (precision - x) <
              10 ^ (x - precision) / 20 * 10 ^ (precision - x) :=
              mul_lt_mul_of_pos_right hnear hscale
          _ = 1 / 20 := by rw [div_mul_eq_mul_div, hinverse]
      have htriangle := abs_sub_le ((roundQuotient (a * 10 ^ ((precision : Int) - x).toNat)
        (b * 10 ^ (-((precision : Int) - x)).toNat) : Nat) : ℚ) (a / b * 10 ^ (precision - x)) n
      rw [abs_sub_comm (a / b * 10 ^ (precision - x) : ℚ)] at htriangle
      linarith
    rw [scaled, hexponent, hsame, if_neg (Nat.ne_of_lt hhigh)]
  · have hpower : (10 : ℚ) ^ x = 10 ^ precision * 10 ^ (x - precision) := by
      rw [← zpow_natCast, ← zpow_add₀ hten, add_sub_cancel]
    have hcarry : n = 10 ^ precision := by
      refine Nat.le_antisymm ?_ hlow
      by_contra hgreater
      have hstep : (10 : ℚ) ^ precision + 1 ≤ n := by exact_mod_cast Nat.not_le.mp hgreater
      have hgrown := mul_le_mul_of_nonneg_right hstep hunit.le
      rw [add_mul, one_mul, ← hpower] at hgrown
      linarith
    have hstart : (n : ℚ) * 10 ^ (x - precision) = 10 ^ x := by
      rw [hcarry, hpower]
      push_cast
      rfl
    have hsmaller : (10 : ℚ) ^ (x - 1) * 10 = 10 ^ x := by
      rw [← zpow_add_one₀ hten, sub_add_cancel]
    have hshare : (10 : ℚ) ^ (x - precision) ≤ 10 ^ x :=
      zpow_le_zpow_right₀ (by norm_num) (by omega)
    have hexponent : decimalExponent a b = x - 1 := by
      refine decimalExponent_unique ha hb ?_ ?_
      · linarith
      · rw [sub_add_cancel]
        exact hless
    have hrounded := shifted_near (a := a) hb (precision - (x - 1))
    have htens : (10 : ℚ) ^ (precision - (x - 1)) = 10 * 10 ^ (precision - x) := by
      rw [← zpow_one_add₀ hten]
      congr 1
      ring
    have hsame : roundQuotient (a * 10 ^ ((precision : Int) - (x - 1)).toNat)
        (b * 10 ^ (-((precision : Int) - (x - 1))).toNat) = 10 ^ (precision + 1) := by
      rw [htens] at hrounded
      have hwhole : (10 : ℚ) ^ x * 10 ^ (precision - x) = 10 ^ precision := by
        rw [← zpow_add₀ hten, add_sub_cancel, zpow_natCast]
      have hunder := mul_lt_mul_of_pos_right hless hscale
      have hover : ((10 : ℚ) ^ x - 10 ^ (x - precision) / 20) * 10 ^ (precision - x) <
          a / b * 10 ^ (precision - x) := mul_lt_mul_of_pos_right (by linarith) hscale
      rw [sub_mul, div_mul_eq_mul_div, hinverse, hwhole] at hover
      rw [hwhole] at hunder
      refine nat_eq (abs_lt.mpr ?_)
      obtain ⟨hleft, hright⟩ := abs_le.mp hrounded
      push_cast
      rw [pow_succ]
      constructor
      · linarith
      · linarith
    rw [scaled, hexponent, hsame, if_pos rfl, sub_add_cancel, hcarry]

end Scaled

end CNumber
