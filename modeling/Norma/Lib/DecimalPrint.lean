import Norma.Lib.DecimalRounding
import Norma.Lib.FloatNearest
import Norma.Lib.Numeral

namespace CNumber

open Float.Model (UnpackedFloat)
open Float.Model.UnpackedFloat (Sign)
open FloatOrder (rational rational_finite unpack_canonicalFloat)

section Build

def signOf (plus : Bool) : Sign → NumeralSign
  | .negative => .minus
  | .positive => if plus then .plus else .none

theorem signOf_chars (plus : Bool) (s : Sign) : (signOf plus s).chars = signText plus s := by
  cases s with
  | negative => rfl
  | positive => cases plus <;> rfl

theorem signOf_apply (plus : Bool) (s : Sign) (r : ℚ) :
    (signOf plus s).apply r = signedInt s 1 * r := by
  cases s with
  | negative => simp [signOf, NumeralSign.apply, NumeralSign.negative, signedInt]
  | positive => cases plus <;> simp [signOf, NumeralSign.apply, NumeralSign.negative, signedInt]

def exponentOf (mark : Char) (hmark : mark = 'e' ∨ mark = 'E') (x : Int) : Exponent where
  mark := mark
  sign := if x < 0 then .minus else .plus
  digits := List.replicate (2 - (Nat.toDigits 10 x.natAbs).length) '0' ++ Nat.toDigits 10 x.natAbs
  mark_eq := hmark
  digits_ne := List.append_ne_nil_of_right_ne_nil _ Nat.toDigits_ne_nil
  isDigit := List.forall_mem_append.mpr ⟨replicate_isDigit _, toDigits_isDigit⟩

variable {mark : Char} {hmark : mark = 'e' ∨ mark = 'E'}

theorem exponentOf_text (x : Int) : (exponentOf mark hmark x).text = exponentText mark x := by
  rw [Exponent.text, exponentOf, exponentText]
  dsimp only
  split
  · rfl
  · rfl

theorem exponentOf_value (x : Int) : (exponentOf mark hmark x).value = x := by
  have hdigits : Nat.ofDigitChars 10 (exponentOf mark hmark x).digits 0 = x.natAbs := by
    rw [exponentOf, Nat.ofDigitChars_append, Nat.ofDigitChars_replicate_zero, Nat.mul_zero]
    exact Nat.ofDigitChars_ten_toDigits
  rw [Exponent.value, hdigits, exponentOf, NumeralSign.apply]
  dsimp only
  split
  · next hneg =>
    rw [if_pos (by rfl)]
    omega
  · next hnonneg =>
    rw [if_neg (by decide)]
    omega

-- The point stands only where digits follow it.
def pointedNumeral (sign : NumeralSign) (whole fraction : List Char) (exponent : Option Exponent)
    (hwhole : whole ≠ []) (hdigits : ∀ c ∈ whole ++ fraction, c.isDigit = true) : Numeral where
  sign := sign
  whole := whole
  fraction := if fraction = [] then none else some fraction
  exponent := exponent
  digits_ne := List.append_ne_nil_of_left_ne_nil hwhole _
  isDigit := by
    split
    · next hnil =>
      rw [hnil] at hdigits
      exact hdigits
    · exact hdigits

variable {sign : NumeralSign} {whole fraction : List Char} {exponent : Option Exponent}
  {hwhole : whole ≠ []} {hdigits : ∀ c ∈ whole ++ fraction, c.isDigit = true}

theorem pointedNumeral_fraction :
    (pointedNumeral sign whole fraction exponent hwhole hdigits).fraction.getD [] = fraction := by
  rw [pointedNumeral]
  dsimp only
  split
  · next hnil => exact hnil.symm
  · rfl

theorem pointedNumeral_text :
    (pointedNumeral sign whole fraction exponent hwhole hdigits).text =
      sign.chars ++ (whole ++ ((if fraction = [] then [] else '.' :: fraction) ++
        exponent.elim [] Exponent.text)) := by
  rw [Numeral.text, Numeral.body, Numeral.fractionText, Numeral.exponentTail, pointedNumeral]
  dsimp only
  congr 2
  by_cases hnil : fraction = []
  · rw [if_pos hnil, if_pos hnil]
    cases exponent <;> rfl
  · rw [if_neg hnil, if_neg hnil]
    cases exponent <;> rfl

theorem pointedNumeral_power :
    (pointedNumeral sign whole fraction exponent hwhole hdigits).power =
      exponent.elim 0 Exponent.value - fraction.length := by
  rw [Numeral.power, pointedNumeral_fraction]
  rfl

theorem pointedNumeral_mantissa :
    (pointedNumeral sign whole fraction exponent hwhole hdigits).mantissa =
      Nat.ofDigitChars 10 (whole ++ fraction) 0 := by
  rw [Numeral.mantissa, pointedNumeral_fraction]
  rfl

end Build

section Scientific

structure Scientific (precision : Nat) (d : Numeral) : Prop where
  signed : d.sign ≠ .none
  whole : d.whole.length = 1
  fraction : (d.fraction.getD []).length = precision
  exponent : d.exponent.isSome = true

theorem pointed_scientific (s : Sign) {digits : List Char} {precision : Nat}
    (hdigits : ∀ c ∈ digits, c.isDigit = true) (hlength : digits.length = precision + 1) (x : Int) :
    ∃ d : Numeral, signText true s ++ pointed digits ++ exponentText 'E' x = d.text ∧
      Scientific precision d ∧ d.power = x - precision ∧
      d.value = signedInt s 1 * (Nat.ofDigitChars 10 digits 0 * 10 ^ (x - precision)) := by
  obtain ⟨c, fraction, rfl⟩ := List.exists_cons_of_length_eq_add_one hlength
  obtain rfl : fraction.length = precision := Nat.succ.inj hlength
  refine ⟨pointedNumeral (signOf true s) [c] fraction (some (exponentOf 'E' (.inr rfl) x))
    (List.cons_ne_nil _ _) hdigits, ?_, ⟨?_, rfl, ?_, rfl⟩, ?_, ?_⟩
  · rw [pointedNumeral_text, signOf_chars, Option.elim_some, exponentOf_text, List.append_assoc]
    congr 1
    cases fraction with
    | nil => rfl
    | cons c' fraction => rfl
  · cases s with
    | negative => exact nofun
    | positive => exact nofun
  · rw [pointedNumeral_fraction]
  · rw [pointedNumeral_power, Option.elim_some, exponentOf_value]
  · rw [Numeral.value, pointedNumeral_mantissa, pointedNumeral_power, Option.elim_some,
      exponentOf_value]
    exact signOf_apply true s _

theorem toDigits_length {n precision : Nat} (hlow : 10 ^ precision ≤ n)
    (hhigh : n < 10 ^ (precision + 1)) : (Nat.toDigits 10 n).length = precision + 1 := by
  refine Nat.le_antisymm
    ((Nat.length_toDigits_le_iff (by decide) (Nat.succ_pos _)).mpr hhigh) ?_
  by_contra hless
  rcases Nat.eq_zero_or_pos precision with rfl | hpos
  · exact hless Nat.length_toDigits_pos
  · have hle := (Nat.length_toDigits_le_iff (b := 10) (by decide) hpos).mp
      (Nat.lt_succ_iff.mp (Nat.not_le.mp hless))
    omega

theorem signedInt_abs (s : Sign) (r : ℚ) : |(signedInt s 1 : ℚ) * r| = |r| := by
  cases s <;> simp [signedInt]

theorem printE_scientific {x : Float} (hx : x.isFinite = true) (precision : Nat) :
    ∃ d : Numeral, printE precision x = d.text ∧ Scientific precision d ∧
      |d.value - rational x| ≤ 10 ^ d.power / 2 := by
  have hcanonical := unpack_canonicalFloat x
  change x.toModel.unpack.isFinite = true at hx
  rw [printE]
  cases hu : x.toModel.unpack with
  | notANumber =>
    rw [hu] at hx
    exact Bool.noConfusion hx
  | infinity s =>
    rw [hu] at hx
    exact Bool.noConfusion hx
  | zero s =>
    obtain ⟨d, htext, hscientific, hpower, hvalue⟩ := pointed_scientific s
      (replicate_isDigit (precision + 1)) (List.length_replicate ..) 0
    refine ⟨d, htext, hscientific, ?_⟩
    rw [hvalue, FloatOrder.rational_zero hu, Nat.ofDigitChars_replicate_zero, Nat.mul_zero, Nat.cast_zero, zero_mul,
      mul_zero, sub_zero, abs_zero]
    exact div_nonneg (ten_zpow_pos _).le (by norm_num)
  | finite s m e hm =>
    rw [hu] at hcanonical
    have hshows : Shows precision (((magnitude m e).1 : ℚ) / (magnitude m e).2)
        (scaled precision (magnitude m e).1 (magnitude m e).2) :=
      scaled_shows (Nat.mul_pos hm (Nat.two_pow_pos _)) (Nat.two_pow_pos _)
    dsimp only
    generalize scaled precision (magnitude m e).1 (magnitude m e).2 = shown at hshows
    obtain ⟨d, htext, hscientific, hpower, hvalue⟩ := pointed_scientific s toDigits_isDigit
      (toDigits_length hshows.low hshows.high) shown.2
    refine ⟨d, htext, hscientific, ?_⟩
    rw [hvalue, Nat.ofDigitChars_ten_toDigits, rational_finite hu hcanonical.exponent_ge, ← mul_sub,
      signedInt_abs, hpower]
    exact hshows.near

theorem Numeral.abs_value (d : Numeral) : |d.value| = d.mantissa * 10 ^ d.power := by
  have hnonneg : (0 : ℚ) ≤ d.mantissa * 10 ^ d.power :=
    mul_nonneg (Nat.cast_nonneg _) (ten_zpow_pos _).le
  rw [Numeral.value, NumeralSign.apply]
  split
  · rw [abs_neg, abs_of_nonneg hnonneg]
  · exact abs_of_nonneg hnonneg

theorem Numeral.abs_le_twice (d : Numeral) {r : ℚ} (hnear : |d.value - r| ≤ 10 ^ d.power / 2) :
    |d.value| ≤ 2 * |r| := by
  have habs := d.abs_value
  rcases Nat.eq_zero_or_pos d.mantissa with hzero | hpos
  · rw [habs, hzero, Nat.cast_zero, zero_mul]
    exact mul_nonneg (by norm_num) (abs_nonneg r)
  · have hone : (1 : ℚ) ≤ d.mantissa := by exact_mod_cast hpos
    have hunit : (10 : ℚ) ^ d.power ≤ |d.value| := by
      rw [habs]
      exact le_mul_of_one_le_left (ten_zpow_pos _).le hone
    have htriangle := abs_sub_abs_le_abs_sub d.value r
    linarith

end Scientific

section Length

theorem exponentText_length (mark : Char) {x : Int} (hlow : -1000 < x) (hhigh : x < 1000) :
    (exponentText mark x).length ≤ 5 := by
  have hdigits : (Nat.toDigits 10 x.natAbs).length ≤ 3 :=
    (Nat.length_toDigits_le_iff (by decide) (by decide)).mpr (by omega)
  rw [exponentText]
  simp only [List.length_cons, List.length_append, List.length_replicate]
  omega

theorem pointed_length (digits : List Char) : (pointed digits).length ≤ digits.length + 1 := by
  rcases digits with _ | ⟨d, _ | ⟨e, ds⟩⟩
  · exact Nat.zero_le _
  · exact Nat.le_succ _
  · exact Nat.le_refl _

theorem signText_length (s : Sign) : (signText true s).length = 1 := by
  cases s <;> rfl

theorem Shows.exponent {precision : Nat} {r : ℚ} {shown : Nat × Int} (h : Shows precision r shown)
    {low high : Int} (hlow : 10 ^ low ≤ r) (hhigh : 2 * r ≤ 10 ^ high) :
    low ≤ shown.2 ∧ shown.2 ≤ high := by
  obtain ⟨n, x⟩ := shown
  obtain ⟨hleast, hmost, hnear⟩ := h
  dsimp only at hleast hmost hnear
  have hmore : (1 : ℚ) < 10 := by norm_num
  have hunit := ten_zpow_pos (x - precision)
  obtain ⟨hfirst, hlast⟩ := digits_bounds hleast hmost x
  have hone : (1 : ℚ) ≤ n := by
    exact_mod_cast Nat.le_trans (Nat.pow_pos (by decide)) hleast
  have hwhole : (10 : ℚ) ^ (x - precision) ≤ n * 10 ^ (x - precision) :=
    le_mul_of_one_le_left hunit.le hone
  obtain ⟨hbelow, habove⟩ := abs_le.mp hnear
  constructor
  · have hpower : (10 : ℚ) ^ low < 10 ^ (x + 1) := by linarith
    exact Int.lt_add_one_iff.mp ((zpow_lt_zpow_iff_right₀ hmore).mp hpower)
  · have hpower : (10 : ℚ) ^ x ≤ 10 ^ high := by linarith
    exact (zpow_le_zpow_iff_right₀ hmore).mp hpower

theorem magnitude_bounds {m : Nat} {e : Int} (hm : 0 < m) (hcanonical : FloatOrder.Canonical m e)
    (he : e ≤ 971) : (10 : ℚ) ^ (-358 : Int) ≤ (magnitude m e).1 / (magnitude m e).2 ∧
      2 * (((magnitude m e).1 : ℚ) / (magnitude m e).2) ≤ 10 ^ (683 : Int) := by
  obtain ⟨k, hk⟩ : ∃ k, 3 * k = 1074 := ⟨358, rfl⟩
  obtain ⟨l, hl⟩ : ∃ l, 3 * l = 2 ^ 11 + 1 := ⟨683, rfl⟩
  have hunit : (0 : ℚ) < FloatOrder.unitsOfOne := by exact_mod_cast FloatOrder.unitsOfOne_pos
  have hsmall : (FloatOrder.unitsOfOne : ℚ) ≤ 10 ^ k := by
    have hle : FloatOrder.unitsOfOne ≤ 10 ^ k := by
      rw [FloatOrder.unitsOfOne, ← hk, Nat.pow_mul]
      exact Nat.pow_le_pow_left (by decide) k
    exact_mod_cast hle
  have hlarge : (2 : ℚ) * FloatOrder.units m e ≤ 10 ^ l * FloatOrder.unitsOfOne := by
    have hpow : 2 * 2 ^ 2 ^ 11 ≤ 10 ^ l := by
      rw [← Nat.pow_add_one', ← hl, Nat.pow_mul]
      exact Nat.pow_le_pow_left (by decide) l
    have hle : 2 * FloatOrder.units m e ≤ 10 ^ l * FloatOrder.unitsOfOne :=
      calc 2 * FloatOrder.units m e ≤ 2 * (2 ^ 2 ^ 11 * FloatOrder.unitsOfOne) :=
            Nat.mul_le_mul_left _ (FloatOrder.units_bounded hcanonical he).le
        _ = 2 * 2 ^ 2 ^ 11 * FloatOrder.unitsOfOne := (Nat.mul_assoc ..).symm
        _ ≤ 10 ^ l * FloatOrder.unitsOfOne := Nat.mul_le_mul_right _ hpow
    exact_mod_cast hle
  rw [FloatOrder.magnitude_quotient hcanonical.exponent_ge, show (-358 : Int) = -(k : Nat) by omega, show (683 : Int) = (l : Nat) by omega,
    zpow_neg, zpow_natCast, zpow_natCast]
  constructor
  · rw [le_div_iff₀ hunit, inv_mul_le_iff₀ (by positivity), mul_comm]
    have hone : (1 : ℚ) ≤ FloatOrder.units m e := by exact_mod_cast FloatOrder.units_pos hm e
    exact le_trans hsmall (le_mul_of_one_le_left (by positivity) hone)
  · rw [mul_div_assoc', div_le_iff₀ hunit]
    exact hlarge

theorem printE_length {x : Float} (hx : x.isFinite = true) (precision : Nat) :
    (printE precision x).length ≤ precision + 8 := by
  have hcanonical := unpack_canonicalFloat x
  change x.toModel.unpack.isFinite = true at hx
  rw [printE]
  cases hu : x.toModel.unpack with
  | notANumber =>
    rw [hu] at hx
    exact Bool.noConfusion hx
  | infinity s =>
    rw [hu] at hx
    exact Bool.noConfusion hx
  | zero s =>
    have hpointed := pointed_length (List.replicate (precision + 1) '0')
    have hexponent := exponentText_length 'E' (show -1000 < (0 : Int) by decide) (by decide)
    rw [List.length_replicate] at hpointed
    simp only [List.length_append, signText_length]
    omega
  | finite s m e hm =>
    rw [hu] at hcanonical
    have hshows : Shows precision (((magnitude m e).1 : ℚ) / (magnitude m e).2)
        (scaled precision (magnitude m e).1 (magnitude m e).2) :=
      scaled_shows (Nat.mul_pos hm (Nat.two_pow_pos _)) (Nat.two_pow_pos _)
    obtain ⟨hleast, hmost⟩ := magnitude_bounds hm hcanonical (FloatOrder.unpack_exponent_le hu)
    dsimp only
    generalize scaled precision (magnitude m e).1 (magnitude m e).2 = shown at hshows
    obtain ⟨hlow, hhigh⟩ := hshows.exponent hleast hmost
    have hpointed := pointed_length (Nat.toDigits 10 shown.1)
    have hexponent := exponentText_length 'E' (show -1000 < shown.2 by omega) (by omega)
    rw [toDigits_length hshows.low hshows.high] at hpointed
    simp only [List.length_append, signText_length]
    omega

end Length

section Power

def powerOf (text : List Char) : Int :=
  let body := (takeSign text).2
  let (fraction, rest) := takeFraction Char.isDigit (body.dropWhile Char.isDigit)
  (takeExponent 'e' rest).1 - fraction.length

theorem powerOf_text (d : Numeral) : powerOf d.text = d.power := by
  obtain ⟨c, rest, hbody, hplus, hminus⟩ := Numeral.body_head (d := d)
  have hsign : takeSign d.text = (d.sign.negative, d.body) := by
    rw [Numeral.text, hbody]
    exact takeSign_chars hplus hminus
  have hdrop : d.body.dropWhile Char.isDigit = d.fractionText ++ d.exponentTail := by
    refine (takeWhile_digits (fun c hc => d.isDigit c (List.mem_append_left _ hc)) ?_).2
    unfold Numeral.fractionText
    split
    · exact exponentTail_head.1
    · rfl
  rw [powerOf, hsign]
  dsimp only
  rw [hdrop, takeFraction_text]
  dsimp only
  rw [takeExponent_tail]
  rfl

end Power

end CNumber
