import Norma.Grammar
import Norma.IntegerArgument
import Norma.PreambleData
import Norma.Lib.DecimalGeneral

namespace Norma

open FloatOrder (rational value IsNearest)
open CNumber (Shows Numeral)

section ReadBack

theorem formatSetting_readBack {x z : Float} (hx : 0 < value x)
    (hsmall : (1 / 10 ^ 8 : ℚ) ≤ rational x) (hz : z.isFinite = true)
    (hlarge : 2 * rational x ≤ rational z) :
    ∃ (d : Numeral) (shown : Nat × Int), formatSetting x = d.text ∧ Shows 8 (rational x) shown ∧
      IsNearest d.float (shown.1 * 10 ^ (shown.2 - 8)) ∧
      formatSetting d.float = formatSetting x := by
  obtain ⟨d, shown, htext, hshows, hvalue, hnearest, hprint⟩ :=
    CNumber.printG9_readBack hx hsmall hz hlarge
  refine ⟨d.capital, shown, ?_, hshows, ?_, ?_⟩
  · rw [d.capital_text, ← htext]
    rfl
  · rw [d.capital_float, ← hvalue]
    exact hnearest
  · rw [d.capital_float, formatSetting, hprint]
    rfl

theorem rational_le {x y : Float} (h : value x ≤ value y) : rational x ≤ rational y := by
  have hunit : (0 : ℚ) < FloatOrder.unitsOfOne := by exact_mod_cast FloatOrder.unitsOfOne_pos
  rw [rational, rational, div_le_div_iff_of_pos_right hunit]
  exact_mod_cast h

theorem value_le {x y : Float} (h : rational x ≤ rational y) : value x ≤ value y := by
  have hunit : (0 : ℚ) < FloatOrder.unitsOfOne := by exact_mod_cast FloatOrder.unitsOfOne_pos
  rw [rational, rational, div_le_div_iff_of_pos_right hunit] at h
  exact_mod_cast h

end ReadBack

section Aperture

theorem aperture_bounds : kMinAperture.isFinite = true ∧ kMaxAperture.isFinite = true ∧
    (14999999999999 * FloatOrder.unitsOfOne : Int) ≤ 10 ^ 15 * value kMinAperture ∧
    1000 * value kMinAperture ≤ (15 * FloatOrder.unitsOfOne : Int) ∧
    value kMaxAperture = (3600 * FloatOrder.unitsOfOne : Int) ∧
    (7200 : Float).isFinite = true ∧ value 7200 = (7200 * FloatOrder.unitsOfOne : Int) := by
  decide +kernel

theorem aperture_limits : (14999999999999 / 10 ^ 15 : ℚ) ≤ rational kMinAperture ∧
    rational kMinAperture ≤ 15 / 1000 ∧ rational kMaxAperture = 3600 ∧ rational 7200 = 7200 := by
  obtain ⟨-, -, hlow, hhigh, hmax, -, hdouble⟩ := aperture_bounds
  have hunit : (0 : ℚ) < FloatOrder.unitsOfOne := by exact_mod_cast FloatOrder.unitsOfOne_pos
  have hlow' : (14999999999999 * FloatOrder.unitsOfOne : ℚ) ≤ 10 ^ 15 * value kMinAperture := by
    exact_mod_cast hlow
  have hhigh' : (1000 * value kMinAperture : ℚ) ≤ 15 * FloatOrder.unitsOfOne := by
    exact_mod_cast hhigh
  refine ⟨?_, ?_, ?_, ?_⟩
  · rw [rational, div_le_div_iff₀ (by positivity) hunit, mul_comm (value kMinAperture : ℚ)]
    exact hlow'
  · rw [rational, div_le_div_iff₀ hunit (by positivity), mul_comm (value kMinAperture : ℚ)]
    exact hhigh'
  · rw [rational, hmax]
    push_cast
    exact mul_div_cancel_right₀ _ hunit.ne'
  · rw [rational, hdouble]
    push_cast
    exact mul_div_cancel_right₀ _ hunit.ne'

theorem formatSetting_nan {x : Float} (h : x.isNaN = true) : formatSetting x = "nan" := by
  rw [formatSetting, CNumber.printG9, FloatOrder.unpack_of_nan h]
  rfl

theorem aperture_numeral {x : Float} (h : Unrejected kMinAperture kMaxAperture x)
    (hnan : x.isNaN = false) : ∃ d : Numeral, formatSetting x = d.text ∧
      ¬(d.float < kMinAperture ∨ kMaxAperture < d.float) ∧
      formatSetting d.float = formatSetting x := by
  obtain ⟨hmin, hmax, -, -, -, hdouble, -⟩ := aperture_bounds
  obtain ⟨hleast, hclose, hmost, htwice⟩ := aperture_limits
  obtain ⟨hlow, hhigh⟩ := FloatOrder.value_of_range hmin hmax hnan h.low h.high
  have hlow' := rational_le hlow
  have hhigh' := rational_le hhigh
  have hpos : 0 < value x := Int.lt_of_lt_of_le (by decide +kernel) hlow
  obtain ⟨d, shown, htext, hshows, hnearest, hprint⟩ := formatSetting_readBack (z := 7200) hpos
    (by linarith) hdouble (by linarith)
  have hbelow := hshows.ge (k := 150000000) (y := -2) (by decide) (by decide)
    (by norm_num; linarith)
  have habove := hshows.le (k := 360000000) (y := 3) (by decide) (by decide)
    (by norm_num; linarith)
  norm_num at hbelow habove
  have hfrom := value_le (hnearest.ge hmin (by linarith))
  have hto := value_le (hnearest.le hmax (by linarith))
  refine ⟨d, htext, not_or.mpr ⟨?_, ?_⟩, hprint⟩
  · rw [FloatOrder.lt_iff hnearest.1 hmin]
    exact Int.not_lt.mpr hfrom
  · rw [FloatOrder.lt_iff hmax hnearest.1]
    exact Int.not_lt.mpr hto

theorem aperture_readBack {x : Float} (h : Unrejected kMinAperture kMaxAperture x) :
    ∃ y, parseNumber (formatSetting x) = some y ∧ ¬(y < kMinAperture ∨ kMaxAperture < y) ∧
      formatSetting y = formatSetting x := by
  cases hnan : x.isNaN with
  | true =>
    have hread : ∃ y : Float, parseNumber "nan" = some y ∧ y.isNaN = true :=
      ⟨CNumber.nan, by decide +kernel, by decide +kernel⟩
    obtain ⟨y, hparse, hy⟩ := hread
    refine ⟨y, by rw [formatSetting_nan hnan, hparse], ?_, ?_⟩
    · exact not_or.mpr ⟨FloatOrder.nan_not_lt hy, FloatOrder.not_lt_nan hy⟩
    · rw [formatSetting_nan hnan, formatSetting_nan hy]
  | false =>
    obtain ⟨d, htext, hrange, hprint⟩ := aperture_numeral h hnan
    exact ⟨d.float, htext ▸ parseNumber_numeral d, hrange, hprint⟩

def hasNoHeadLetter (c : Char) : Bool := c.toUpper != 'F' && c.toUpper != 'T'

theorem numeral_noHeadLetter (d : Numeral) : ∀ c ∈ d.text, hasNoHeadLetter c = true := by
  have hmarks : ['.', 'e', 'E', '+', '-'].all hasNoHeadLetter = true := by decide
  have hmark {c : Char} (h : CNumber.isNumeralMark c = true) : hasNoHeadLetter c = true :=
    List.all_eq_true.mp hmarks c (List.contains_iff_mem.mp h)
  intro c hc
  rcases List.mem_append.mp hc with hsign | hbody
  · exact hmark (CNumber.NumeralSign.mem_chars hsign)
  · rcases CNumber.Numeral.mem_body hbody with hdigit | hsymbol
    · rw [hasNoHeadLetter, toUpper_digit hdigit, Bool.and_eq_true, bne_iff_ne, bne_iff_ne]
      constructor
      · rintro rfl
        cases hdigit
      · rintro rfl
        cases hdigit
    · exact hmark hsymbol

theorem aperture_noHeadLetter {x : Float} (h : Unrejected kMinAperture kMaxAperture x) :
    ∀ c ∈ formatSetting x, hasNoHeadLetter c = true := by
  cases hnan : x.isNaN with
  | true =>
    have hall : ("nan" : Text).all hasNoHeadLetter = true := by decide
    rw [formatSetting_nan hnan]
    exact List.all_eq_true.mp hall
  | false =>
    obtain ⟨d, htext, -⟩ := aperture_numeral h hnan
    rw [htext]
    exact numeral_noHeadLetter d

end Aperture

end Norma
