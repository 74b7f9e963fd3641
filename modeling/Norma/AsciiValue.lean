import Norma.DataStatus
import Norma.Lib.DecimalPrint
import Norma.Lib.FloatDecimal

namespace Norma

open ScpiClient
open CNumber (Numeral Scientific printE powerOf)
open FloatOrder (rational IsNearest)

section Written

variable {state : State} {value : Float}

-- The digits after the point: one less than the length, or five where the length is zero.
def asciiPrecision (state : State) : Nat :=
  if 0 < state.dataFormat.length then (state.dataFormat.length - 1).toNat else 5

-- The text that the format string calls for leaves room for the terminator.
def FitsBuffer (state : State) (value : Float) : Prop :=
  0 < state.dataFormat.length → (printE (asciiPrecision state) value).length ≤ 63

theorem fits_of_length (hfinite : value.isFinite = true) (h : state.dataFormat.length ≤ 56) :
    FitsBuffer state value := by
  intro hpos
  have hlength := CNumber.printE_length hfinite (asciiPrecision state)
  have hprecision : asciiPrecision state ≤ 55 := by
    rw [asciiPrecision, if_pos hpos]
    omega
  omega

theorem formatValue_fits (hfinite : value.isFinite = true) (hfits : FitsBuffer state value) :
    formatValue state value = printE (asciiPrecision state) value := by
  rw [FitsBuffer, asciiPrecision] at hfits
  have hnumber := FloatOrder.not_nan_of_finite hfinite
  rw [formatValue, if_neg (by rw [hnumber]; exact Bool.false_ne_true), asciiPrecision]
  split
  · next hpos =>
    have hlength := hfits hpos
    rw [if_pos hpos] at hlength
    exact List.take_of_length_le hlength
  · rfl

theorem toDouble_numeral (d : Numeral) (htrim : trim d.text = d.text) :
    toDouble d.text = .ok (if kScpiNanThreshold ≤ d.float.abs then CNumber.nan else d.float) := by
  have hne : d.text ≠ [] := by
    obtain ⟨c, rest, hbody, -⟩ := Numeral.body_head (d := d)
    rw [Numeral.text, hbody]
    exact List.append_ne_nil_of_right_ne_nil _ (List.cons_ne_nil _ _)
  rw [toDouble, htrim, if_neg hne, CNumber.cstr_numeral, CNumber.strtod_numeral]

theorem threshold_doubled : (1e39 : Float).isFinite = true ∧
    2 * FloatOrder.value kScpiNanThreshold ≤ FloatOrder.value 1e39 := by
  decide +kernel

theorem written_value (state : State) (value : Float) (hfinite : value.isFinite = true)
    (hbelow : |rational value| < rational kScpiNanThreshold) (hfits : FitsBuffer state value) :
    ∃ d : Numeral, ∃ read : Float, formatValue state value = d.text ∧
      Scientific (asciiPrecision state) d ∧ |d.value - rational value| ≤ 10 ^ d.power / 2 ∧
      IsNearest read d.value ∧
      toDouble (formatValue state value) =
        .ok (if kScpiNanThreshold ≤ read.abs then CNumber.nan else read) := by
  obtain ⟨d, htext, hscientific, hnear⟩ := CNumber.printE_scientific hfinite (asciiPrecision state)
  have hformat := (formatValue_fits hfinite hfits).trans htext
  have htrim := trim_of_spaceless (formatValue_plain state value).spaceless
  rw [hformat] at htrim ⊢
  refine ⟨d, d.float, rfl, hscientific, hnear, ?_, toDouble_numeral d htrim⟩
  obtain ⟨hlarge, hdoubled⟩ := threshold_doubled
  have hunit : (0 : ℚ) < FloatOrder.unitsOfOne := by exact_mod_cast FloatOrder.unitsOfOne_pos
  have htwice : 2 * rational kScpiNanThreshold ≤ rational 1e39 := by
    rw [rational, rational, mul_div_assoc', div_le_div_iff_of_pos_right hunit]
    exact_mod_cast hdoubled
  refine FloatOrder.numeral_nearest d hlarge ?_
  have hwritten := d.abs_le_twice hnear
  linarith

end Written

section Tie

theorem tie_value : (1.015625 : Float).isFinite = true ∧
    FloatOrder.value 1.015625 < FloatOrder.value kScpiNanThreshold ∧
    0 < FloatOrder.value 1.015625 := by
  decide +kernel

theorem tie_below : |rational 1.015625| < rational kScpiNanThreshold := by
  obtain ⟨-, hbelow, hpos⟩ := tie_value
  have hunit : (0 : ℚ) < FloatOrder.unitsOfOne := by exact_mod_cast FloatOrder.unitsOfOne_pos
  rw [rational, rational, abs_of_pos (div_pos (by exact_mod_cast hpos) hunit),
    div_lt_div_iff_of_pos_right hunit]
  exact_mod_cast hbelow

theorem tie_text : formatValue (NormaSimulator.new {}).state 1.015625 = "+1.01562E+00" := by
  decide +kernel

theorem tie_read : (toDouble "+1.01562E+00").map (fun read =>
    decide (FloatOrder.unitsOfOne <
      200000 * (FloatOrder.value 1.015625 - FloatOrder.value read))) = .ok true := by
  decide +kernel

theorem written_value_tie : ∃ d : Numeral, ∃ read : Float,
    formatValue (NormaSimulator.new {}).state 1.015625 = d.text ∧ Scientific 5 d ∧
      |d.value - rational 1.015625| ≤ 10 ^ d.power / 2 ∧ IsNearest read d.value ∧
      toDouble (formatValue (NormaSimulator.new {}).state 1.015625) =
        .ok (if kScpiNanThreshold ≤ read.abs then CNumber.nan else read) :=
  written_value (NormaSimulator.new {}).state 1.015625 tie_value.1 tie_below
    (fits_of_length tie_value.1 (by decide))

theorem half_unit_exceeded : ¬∀ sim, Reachable sim → ∀ value : Float, value.isFinite = true →
    |rational value| < rational kScpiNanThreshold →
    ∃ d : Numeral, ∃ read : Float, formatValue sim.state value = d.text ∧
      Scientific (asciiPrecision sim.state) d ∧
      toDouble (formatValue sim.state value) = .ok read ∧
      |rational read - rational value| ≤ 10 ^ d.power / 2 := by
  intro hall
  have hunit : (0 : ℚ) < FloatOrder.unitsOfOne := by exact_mod_cast FloatOrder.unitsOfOne_pos
  obtain ⟨d, read, htext, -, hread, hnear⟩ := hall _ (.new {}) _ tie_value.1 tie_below
  have hpower : d.power = -5 := by
    rw [← CNumber.powerOf_text, ← htext, tie_text]
    decide
  have hfar := tie_read
  rw [tie_text] at hread
  rw [hread] at hfar
  have hunits : (FloatOrder.unitsOfOne : ℚ) <
      200000 * (FloatOrder.value 1.015625 - FloatOrder.value read) := by
    exact_mod_cast of_decide_eq_true (Except.ok.inj hfar)
  rw [hpower, abs_sub_comm, rational, rational, ← sub_div] at hnear
  have hmore := le_trans (le_abs_self _) hnear
  rw [div_le_iff₀ hunit] at hmore
  generalize (FloatOrder.unitsOfOne : ℚ) = unit at hunits hmore
  norm_num at hmore
  linarith

end Tie

end Norma
