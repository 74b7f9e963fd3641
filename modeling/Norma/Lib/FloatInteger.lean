import Norma.Lib.FloatIdentity

namespace FloatOrder

open Float.Model (UnpackedFloat Format totalExponent)
open Float.Model.UnpackedFloat

variable {x : Float} {n : Nat}

theorem roundWithAccuracy_exact {q k : Nat} {e : Int}
    (hk : k = (max ((q.log2 : Int) + 1 + e - 53) (-1074) - e).toNat) (hdvd : 2 ^ k ∣ q)
    (hlarge : -1074 < e → 2 ^ 52 ≤ q) :
    Nonnegative (roundWithAccuracy .binary64 .positive q e .exact) (units (q / 2 ^ k) (e + k)) := by
  obtain ⟨hsmall, hnormal⟩ := shift_bounds hk hlarge
  have hshift : shiftToTargetExponent .binary64 q e .exact =
      (⟨q / 2 ^ k, false, false⟩, e + k) := by
    rw [← shift_exact hdvd, shiftToTargetExponent, shiftToExponent, hk]
    rfl
  refine roundWithAccuracy_rounds ?_ ?_ (by omega) (Nat.le_of_lt hsmall) hnormal
  · rw [hshift]
    rfl
  · rw [hshift]

theorem units_shifted {l : Nat} (hl : l ≤ 1074) : units (n * 2 ^ l) (-l) = n * unitsOfOne := by
  have hexponent : l + (-(l : Int) + 1074).toNat = 1074 := by omega
  rw [units, unitsOfOne_split hexponent, Nat.mul_assoc]

theorem ofNat_nonnegative (hpos : 0 < n) (hsmall : n < 2 ^ 53) :
    Nonnegative (UnpackedFloat.ofNat .binary64 n) (n * unitsOfOne) := by
  have hlog : n.log2 < 53 := (Nat.log2_lt (Nat.ne_of_gt hpos)).mpr hsmall
  obtain ⟨l, hl⟩ : ∃ l, n.log2 + l = 52 := ⟨52 - n.log2, by omega⟩
  have hlog' := log2_shifted hpos l
  have hround : UnpackedFloat.ofNat .binary64 n =
      roundWithAccuracy .binary64 .positive (n * 2 ^ l) (-l) .exact := by
    have htarget : Format.targetExponent .binary64 (totalExponent n 0) = -l := by
      change max ((n.log2 : Int) + 1 + 0 - 53) (-1074) = -l
      omega
    have hshift : (- -(l : Int)).toNat = l := by omega
    have hcompare : compare (n : Int) 0 = .gt := by
      rw [compare_gt_iff_gt]
      exact Int.natCast_pos.mpr hpos
    rw [UnpackedFloat.ofNat, UnpackedFloat.ofInt, UnpackedFloat.normalize, hcompare]
    simp only [UnpackedFloat.round, Int.toNat_natCast, htarget, decreaseExponent, hshift,
      Nat.shiftLeft_eq, Int.zero_sub]
  have hlarge : 2 ^ 52 ≤ n * 2 ^ l := by
    rw [← hl, ← hlog']
    exact Nat.log2_self_le (Nat.ne_of_gt (Nat.mul_pos hpos (Nat.two_pow_pos l)))
  have hexact := roundWithAccuracy_exact (q := n * 2 ^ l) (k := 0) (e := -l) (by omega)
    (Nat.one_dvd _) fun _ => hlarge
  rw [hround, ← units_shifted (show l ≤ 1074 by omega)]
  simpa using hexact

theorem mul_one_nonnegative {m : Nat} {e : Int} (hm : 0 < m) (hcanonical : Canonical m e)
    (hone : 0 < 2 ^ 52) :
    Nonnegative (UnpackedFloat.mul .binary64 (.finite .positive m e hm)
      (.finite .positive (2 ^ 52) (-52) hone)) (units m e) := by
  have hproduct : UnpackedFloat.mul .binary64 (.finite .positive m e hm)
      (.finite .positive (2 ^ 52) (-52) hone) = .finite .positive m e hm :=
    roundWithAccuracy_canonical hm hcanonical 52
  rw [hproduct]
  exact .finite hm hcanonical

theorem value_largeInteger : (9007199254740992 : Float).isFinite = true ∧
    value 9007199254740992 = 2 ^ 53 * unitsOfOne := by decide +kernel

theorem packed_integer {u : UnpackedFloat} (hu : Nonnegative u (n * unitsOfOne))
    (hsmall : n < 2 ^ 53) (hx : x.toModel = .pack u) :
    x.isFinite = true ∧ value x = n * unitsOfOne := by
  rcases packed_value hu hx with ⟨hfinite, hvalue⟩ | ⟨-, hless⟩
  · exact ⟨hfinite, by rw [hvalue, Int.natCast_mul]⟩
  · have hlarge := hless _ value_largeInteger.1
    rw [value_largeInteger.2, Int.natCast_mul] at hlarge
    have hunit : (0 : Int) < unitsOfOne := Int.natCast_pos.mpr unitsOfOne_pos
    have hlt := Int.lt_of_mul_lt_mul_right hlarge hunit.le
    omega

theorem toFloat_value (hpos : 0 < n) (hsmall : n < 2 ^ 53) :
    n.toUInt64.toFloat.isFinite = true ∧ value n.toUInt64.toFloat = n * unitsOfOne := by
  have hn : n.toUInt64.toNat = n := by
    rw [Nat.toUInt64_eq, UInt64.toNat_ofNat_of_lt' (Nat.lt_trans hsmall (by decide))]
  have hmodel : n.toUInt64.toFloat.toModel =
      .pack (UnpackedFloat.ofNat .binary64 n.toUInt64.toNat) := rfl
  rw [hn] at hmodel
  exact packed_integer (ofNat_nonnegative hpos hsmall) hsmall hmodel

theorem mul_one_value {one : Float} (hone : one.toModel.unpack =
      .finite .positive (2 ^ 52) (-52) (Nat.two_pow_pos 52))
    (hsmall : n < 2 ^ 53) (hpos : 0 < n) (hx : value x = n * unitsOfOne) :
    (x * one).isFinite = true ∧ value (x * one) = n * unitsOfOne := by
  have hunit : (0 : Int) < unitsOfOne := Int.natCast_pos.mpr unitsOfOne_pos
  obtain ⟨m, e, hm, hunpack, hcanonical, hvalue⟩ :=
    unpack_of_pos (hx ▸ Int.mul_pos (Int.natCast_pos.mpr hpos) hunit)
  have hunits : units m e = n * unitsOfOne := by exact_mod_cast hvalue.symm.trans hx
  have hmodel : (x * one).toModel = .pack (UnpackedFloat.mul .binary64 x.toModel.unpack
    one.toModel.unpack) := rfl
  rw [hunpack, hone] at hmodel
  have hproduct := mul_one_nonnegative hm hcanonical (Nat.two_pow_pos 52)
  rw [hunits] at hproduct
  exact packed_integer hproduct hsmall hmodel

theorem ofScientific_value (hsmall : n < 2 ^ 53) :
    (Float.ofScientific n false 0).isFinite = true ∧
      value (Float.ofScientific n false 0) = n * unitsOfOne := by
  rcases Nat.eq_zero_or_pos n with rfl | hpos
  · decide +kernel
  · rw [Float.ofScientific, dif_pos ⟨hsmall, by decide⟩]
    have hone : (Float.ofBits 0x3FF0000000000000).toModel.unpack =
        .finite .positive (2 ^ 52) (-52) (Nat.two_pow_pos 52) := rfl
    exact mul_one_value hone hsmall hpos (toFloat_value hpos hsmall).2

theorem neg_value (hpos : 0 < value x) : (-x).isFinite = true ∧ value (-x) = -value x := by
  obtain ⟨m, e, hm, hunpack, hcanonical, hvalue⟩ := unpack_of_pos hpos
  have hmodel : (-x).toModel.unpack = (Float.Model.pack x.toModel.unpack.neg).unpack := rfl
  rw [hunpack] at hmodel
  have hneg := hmodel.trans
    (unpack_pack (s := .negative) hm hcanonical (unpack_exponent_le hunpack))
  constructor
  · change (-x).toModel.unpack.isFinite = true
    rw [hneg]
    rfl
  · rw [hvalue, value, hneg]
    rfl

theorem magnitude_units {m : Nat} {e : Int} (he : -1074 ≤ e) :
    (CNumber.magnitude m e).1 * unitsOfOne = units m e * (CNumber.magnitude m e).2 := by
  rcases Int.le_total 0 e with hpos | hneg
  · have hzero : (-e).toNat = 0 := by omega
    rw [units_of_nonneg hpos, CNumber.magnitude, hzero, Nat.pow_zero, Nat.mul_one]
  · have hzero : e.toNat = 0 := by omega
    have hsum : (-e).toNat + (e + 1074).toNat = 1074 := by omega
    rw [unitsOfOne_split hsum, units, CNumber.magnitude, hzero]
    ring

theorem lround_integer (hfinite : x.isFinite = true) (hvalue : value x = n * unitsOfOne)
    (hsmall : n < 2 ^ 53) : CNumber.lround x = n := by
  have hunit : (0 : Int) < unitsOfOne := Int.natCast_pos.mpr unitsOfOne_pos
  change x.toModel.unpack.isFinite = true at hfinite
  rcases Nat.eq_zero_or_pos n with rfl | hpos
  · unfold value at hvalue
    rw [Int.natCast_zero, Int.zero_mul] at hvalue
    unfold CNumber.lround
    cases hu : x.toModel.unpack with
    | notANumber =>
      rw [hu] at hfinite
      exact Bool.noConfusion hfinite
    | infinity s =>
      rw [hu] at hfinite
      exact Bool.noConfusion hfinite
    | zero s => rfl
    | finite s m e hm =>
      rw [hu] at hvalue
      have hunits := units_pos hm e
      cases s with
      | positive =>
        change (units m e : Int) = 0 at hvalue
        omega
      | negative =>
        change -(units m e : Int) = 0 at hvalue
        omega
  · obtain ⟨m, e, hm, hunpack, hcanonical, hvalue'⟩ :=
      unpack_of_pos (hvalue ▸ Int.mul_pos (Int.natCast_pos.mpr hpos) hunit)
    have hunits : units m e = n * unitsOfOne := by exact_mod_cast hvalue'.symm.trans hvalue
    have hmagnitude := magnitude_units (m := m) hcanonical.exponent_ge
    rw [hunits, Nat.mul_right_comm] at hmagnitude
    have hwhole := Nat.eq_of_mul_eq_mul_right unitsOfOne_pos hmagnitude
    have hdenominator : 0 < (CNumber.magnitude m e).2 := Nat.two_pow_pos _
    have hrounded : (2 * (CNumber.magnitude m e).1 + (CNumber.magnitude m e).2) /
        (2 * (CNumber.magnitude m e).2) = n := by
      rw [hwhole]
      generalize (CNumber.magnitude m e).2 = b at hdenominator
      have hsplit : 2 * (n * b) + b = b + n * (2 * b) := by ring
      rw [hsplit, Nat.add_mul_div_right _ _ (by omega), Nat.div_eq_of_lt (by omega), Nat.zero_add]
    unfold CNumber.lround
    rw [hunpack]
    dsimp only
    rw [hrounded]
    have hfits : CNumber.longMin ≤ (n : Int) ∧ (n : Int) ≤ CNumber.longMax := by
      simp only [CNumber.longMin, CNumber.longMax]
      omega
    exact if_pos hfits

theorem truncInt32_integer {n : Int} (hfinite : x.isFinite = true)
    (hvalue : value x = n * unitsOfOne) (hlow : -2 ^ 31 ≤ n) (hhigh : n < 2 ^ 31) :
    CNumber.truncInt32 x = n := by
  have hunit : (0 : Int) < unitsOfOne := Int.natCast_pos.mpr unitsOfOne_pos
  have hcanonical := unpack_canonicalFloat x
  change x.toModel.unpack.isFinite = true at hfinite
  unfold value at hvalue
  unfold CNumber.truncInt32
  cases hu : x.toModel.unpack with
  | notANumber =>
    rw [hu] at hfinite
    exact Bool.noConfusion hfinite
  | infinity s =>
    rw [hu] at hfinite
    exact Bool.noConfusion hfinite
  | zero s =>
    rw [hu] at hvalue
    exact ((Int.mul_eq_zero.mp hvalue.symm).resolve_right (Int.ne_of_gt hunit)).symm
  | finite s m e hm =>
    rw [hu] at hvalue hcanonical
    have hdiv := magnitude_div (m := m) hcanonical.exponent_ge
    have hsigned : CNumber.signedInt s (units m e / unitsOfOne) = n := by
      cases s with
      | positive =>
        change (units m e : Int) = n * unitsOfOne at hvalue
        change ((units m e / unitsOfOne : Nat) : Int) = n
        rw [Int.natCast_ediv, hvalue, Int.mul_ediv_cancel _ (Int.ne_of_gt hunit)]
      | negative =>
        change -(units m e : Int) = n * unitsOfOne at hvalue
        change -((units m e / unitsOfOne : Nat) : Int) = n
        have hunits : (units m e : Int) = -n * unitsOfOne := by
          rw [Int.neg_mul, ← hvalue, Int.neg_neg]
        rw [Int.natCast_ediv, hunits, Int.mul_ediv_cancel _ (Int.ne_of_gt hunit), Int.neg_neg]
    dsimp only
    rw [hdiv, hsigned]
    exact if_pos ⟨hlow, hhigh⟩

section Read

open CNumber

theorem toLower_digit {c : Char} (h : c.isDigit = true) : c.toLower = c := by
  have hupper : ¬(65 ≤ c.val ∧ c.val ≤ 90) := by
    simp only [Char.isDigit, Bool.and_eq_true, decide_eq_true_eq, ge_iff_le] at h
    simp only [UInt32.le_iff_toNat_le] at h ⊢
    have := h.2
    change c.val.toNat ≤ 57 at this
    change ¬(65 ≤ c.val.toNat ∧ c.val.toNat ≤ 90)
    omega
  delta Char.toLower
  rw [dif_neg]
  simpa using hupper

theorem sameLetters_digit {d w : Char} {ds ws : List Char} (hd : d.isDigit = true)
    (hw : w.isDigit = false) : sameLetters (d :: ds) (w :: ws) = false := by
  have hne : d.toLower ≠ w := by
    rw [toLower_digit hd]
    rintro rfl
    rw [hd] at hw
    cases hw
  simp [sameLetters, hne]

theorem readSpecial_digit {d : Char} (hd : d.isDigit = true) (ds : List Char) :
    readSpecial (d :: ds) = none := by
  have hletter {w : Char} (ds ws : List Char) (hw : w.isDigit = false) :
      ¬sameLetters (d :: ds) (w :: ws) = true := by
    rw [sameLetters_digit hd hw]
    exact Bool.false_ne_true
  rw [readSpecial, List.take_succ_cons, List.take_succ_cons, if_neg (hletter _ _ rfl),
    if_neg (hletter _ _ rfl), if_neg (hletter _ _ rfl)]

theorem readHex_digits {ds : List Char} (hdigits : ∀ c ∈ ds, c.isDigit = true) :
    readHex ds = none := by
  have hstart : sameLetters (ds.take 2) ['0', 'x'] = false := by
    rcases ds with _ | ⟨d, _ | ⟨e, ds⟩⟩
    · rfl
    · simp [sameLetters]
    · have he := hdigits e (by simp)
      have hne : e.toLower ≠ 'x' := by
        rw [toLower_digit he]
        rintro rfl
        cases he
      simp [sameLetters, hne]
  rw [readHex, if_neg (by simp [hstart])]

theorem strtod_digits {ds : List Char} (hne : ds ≠ []) (hdigits : ∀ c ∈ ds, c.isDigit = true) :
    ((readSpecial ds).orElse fun _ => (readHex ds).orElse fun _ => readDecimal ds) =
      some (Float.ofScientific (Nat.ofDigitChars 10 ds 0) false 0, []) := by
  obtain ⟨d, rest, rfl⟩ := List.exists_cons_of_ne_nil hne
  have hall : (d :: rest).takeWhile Char.isDigit = d :: rest := List.takeWhile_eq_self_iff.mpr hdigits
  have hnone : (d :: rest).dropWhile Char.isDigit = [] := List.dropWhile_eq_nil_iff.mpr hdigits
  rw [readSpecial_digit (hdigits d (by simp)), readHex_digits hdigits]
  simp [readDecimal, hall, hnone, takeFraction, takeExponent, scaleTen]

theorem strtod_decimal {n : Int} (hlow : -2 ^ 53 < n) (hhigh : n < 2 ^ 53) :
    ∃ x, strtod (decimal n) = some (x, []) ∧ x.isFinite = true ∧ value x = n * unitsOfOne := by
  have hsmall : n.natAbs < 2 ^ 53 := by omega
  obtain ⟨hfinite, hvalue⟩ := ofScientific_value hsmall
  have hdigits := toDigits_isDigit (n := n.natAbs)
  have hread : Nat.ofDigitChars 10 (Nat.toDigits 10 n.natAbs) 0 = n.natAbs :=
    Nat.ofDigitChars_toDigits (by decide) (by decide)
  have hstrtod := strtod_digits (Nat.toDigits_ne_nil (b := 10) (n := n.natAbs)) hdigits
  rw [hread] at hstrtod
  have hspace : (decimal n).dropWhile isSpace = decimal n := by
    obtain ⟨c, cs, hcons⟩ := List.exists_cons_of_ne_nil (decimal_ne_nil n)
    have hc := isSpace_of_isNumberChar (decimal_chars n c (by simp [hcons]))
    simp [hcons, hc]
  rw [strtod, hspace, decimal]
  by_cases hneg : n < 0
  · have hpos : 0 < value (Float.ofScientific n.natAbs false 0) := by
      rw [hvalue]
      exact Int.mul_pos (by omega) (Int.natCast_pos.mpr unitsOfOne_pos)
    obtain ⟨hfinite', hvalue'⟩ := neg_value hpos
    refine ⟨-Float.ofScientific n.natAbs false 0, ?_, hfinite', ?_⟩
    · simp only [if_pos hneg, takeSign, hstrtod]
      rfl
    · rw [hvalue', hvalue, ← Int.neg_mul]
      congr 1
      omega
  · refine ⟨Float.ofScientific n.natAbs false 0, ?_, hfinite, ?_⟩
    · obtain ⟨d, ds, hcons, hd⟩ := toDigits_head n.natAbs
      have hsign : takeSign (Nat.toDigits 10 n.natAbs) = (false, Nat.toDigits 10 n.natAbs) := by
        rw [hcons, takeSign_digit hd]
      simp only [if_neg hneg, hsign, hstrtod]
      rfl
    · rw [hvalue]
      congr 1
      omega

end Read

end FloatOrder
