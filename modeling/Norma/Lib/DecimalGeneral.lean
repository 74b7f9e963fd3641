import Norma.Lib.DecimalPrint
import Norma.Lib.FloatDecimal

namespace CNumber

open FloatOrder (rational rational_finite unpack_of_pos)

section Strip

theorem strip_zeros (digits : List Char) :
    ∃ k, digits = digits.rdropWhile (· == '0') ++ List.replicate k '0' := by
  induction digits using List.reverseRecOn with
  | nil => exact ⟨0, rfl⟩
  | append_singleton digits c ih =>
    obtain ⟨k, hk⟩ := ih
    rw [List.rdropWhile_concat]
    split
    · next hzero =>
      obtain rfl : c = '0' := beq_iff_eq.mp hzero
      refine ⟨k + 1, ?_⟩
      rw [List.replicate_succ', ← List.append_assoc, ← hk]
    · exact ⟨0, (List.append_nil _).symm⟩

theorem stripFraction_text (whole fraction : List Char) : stripFraction whole fraction =
    whole ++ (if fraction.rdropWhile (· == '0') = [] then []
      else '.' :: fraction.rdropWhile (· == '0')) := by
  unfold stripFraction
  split
  · next hnil => rw [if_pos hnil, List.append_nil]
  · next hne => rw [if_neg hne]

theorem strip_value (whole fraction : List Char) (x : Int) :
    (Nat.ofDigitChars 10 (whole ++ fraction.rdropWhile (· == '0')) 0 : ℚ) *
        10 ^ (x - (fraction.rdropWhile (· == '0')).length) =
      Nat.ofDigitChars 10 (whole ++ fraction) 0 * 10 ^ (x - fraction.length) := by
  obtain ⟨k, hk⟩ := strip_zeros fraction
  generalize fraction.rdropWhile (· == '0') = kept at hk
  have hten : (10 : ℚ) ≠ 0 := by norm_num
  rw [hk, ← List.append_assoc, Nat.ofDigitChars_append (l := whole ++ kept),
    Nat.ofDigitChars_replicate_zero,
    List.length_append, List.length_replicate]
  have hpower : (10 : ℚ) ^ (x - kept.length) = 10 ^ k * 10 ^ (x - (kept.length + k : Nat)) := by
    rw [← zpow_natCast, ← zpow_add₀ hten]
    congr 1
    push_cast
    ring
  rw [hpower]
  push_cast
  ring

end Strip

section General

def generalText (shown : Nat × Int) : List Char :=
  let digits := Nat.toDigits 10 shown.1
  if shown.2 < -4 ∨ 9 ≤ shown.2 then
    stripFraction (digits.take 1) (digits.drop 1) ++ exponentText 'e' shown.2
  else if shown.2 < 0 then
    stripFraction ['0'] (List.replicate (-shown.2 - 1).toNat '0' ++ digits)
  else stripFraction (digits.take (shown.2.toNat + 1)) (digits.drop (shown.2.toNat + 1))

variable {shown : Nat × Int}

theorem stripFraction_numeral {whole fraction : List Char} (hwhole : whole ≠ [])
    (hdigits : ∀ c ∈ whole ++ fraction, c.isDigit = true) (exponent : Option Exponent) :
    ∃ d : Numeral, stripFraction whole fraction ++ exponent.elim [] Exponent.text = d.text ∧
      d.sign = .none ∧ (d.mantissa : ℚ) * 10 ^ d.power =
        Nat.ofDigitChars 10 (whole ++ fraction) 0 *
          10 ^ (exponent.elim 0 Exponent.value - fraction.length) := by
  have hkept : ∀ c ∈ whole ++ fraction.rdropWhile (· == '0'), c.isDigit = true := by
    intro c hc
    refine hdigits c ?_
    rcases List.mem_append.mp hc with hmem | hmem
    · exact List.mem_append_left _ hmem
    · exact List.mem_append_right _ ((List.rdropWhile_prefix _ _).subset hmem)
  refine ⟨pointedNumeral .none whole _ exponent hwhole hkept, ?_, rfl, ?_⟩
  · rw [stripFraction_text, pointedNumeral_text, List.append_assoc]
    rfl
  · rw [pointedNumeral_mantissa, pointedNumeral_power, strip_value]

theorem generalText_numeral (hlow : 10 ^ 8 ≤ shown.1) (hhigh : shown.1 < 10 ^ (8 + 1)) :
    ∃ d : Numeral, generalText shown = d.text ∧ d.sign = .none ∧
      (d.mantissa : ℚ) * 10 ^ d.power = shown.1 * 10 ^ (shown.2 - 8) := by
  have hlength := toDigits_length hlow hhigh
  have hdigits := toDigits_isDigit (n := shown.1)
  have hvalue : Nat.ofDigitChars 10 (Nat.toDigits 10 shown.1) 0 = shown.1 :=
    Nat.ofDigitChars_ten_toDigits
  have hsplit (n : Nat) : ∀ c ∈ (Nat.toDigits 10 shown.1).take n ++ (Nat.toDigits 10 shown.1).drop n,
      c.isDigit = true := by
    rw [List.take_append_drop]
    exact hdigits
  have hfirst (n : Nat) : (Nat.toDigits 10 shown.1).take (n + 1) ≠ [] := by
    intro hnil
    have hempty := congrArg List.length hnil
    rw [List.length_take, hlength, List.length_nil] at hempty
    omega
  rw [generalText]
  split
  · obtain ⟨d, htext, hsign, hnumber⟩ := stripFraction_numeral (hfirst 0) (hsplit 1)
      (some (exponentOf 'e' (.inl rfl) shown.2))
    rw [Option.elim_some, exponentOf_text] at htext
    refine ⟨d, htext, hsign, ?_⟩
    rw [hnumber, List.take_append_drop, hvalue, Option.elim_some, exponentOf_value,
      List.length_drop, hlength]
    rfl
  · split
    · next hneg =>
      obtain ⟨d, htext, hsign, hnumber⟩ := @stripFraction_numeral ['0']
        (List.replicate (-shown.2 - 1).toNat '0' ++ Nat.toDigits 10 shown.1)
        (List.cons_ne_nil _ _) (List.forall_mem_append.mpr
          ⟨by simp, List.forall_mem_append.mpr ⟨replicate_isDigit _, hdigits⟩⟩) none
      rw [Option.elim_none, List.append_nil] at htext
      refine ⟨d, htext, hsign, ?_⟩
      have hzeros : Nat.ofDigitChars 10 (['0'] ++ (List.replicate (-shown.2 - 1).toNat '0' ++
          Nat.toDigits 10 shown.1)) 0 = shown.1 := by
        rw [Nat.ofDigitChars_append, Nat.ofDigitChars_append]
        change Nat.ofDigitChars 10 _ (Nat.ofDigitChars 10 _ 0) = _
        rw [Nat.ofDigitChars_replicate_zero, Nat.mul_zero, hvalue]
      rw [hnumber, hzeros, Option.elim_none, List.length_append, List.length_replicate, hlength]
      congr 2
      omega
    · obtain ⟨d, htext, hsign, hnumber⟩ :=
        stripFraction_numeral (hfirst shown.2.toNat) (hsplit (shown.2.toNat + 1)) none
      rw [Option.elim_none, List.append_nil] at htext
      refine ⟨d, htext, hsign, ?_⟩
      rw [hnumber, List.take_append_drop, hvalue, Option.elim_none, List.length_drop, hlength]
      congr 2
      omega

theorem printG9_of_pos {x : Float} (hx : 0 < FloatOrder.value x) : ∃ a b : Nat, 0 < a ∧ 0 < b ∧
    rational x = (a : ℚ) / b ∧ printG9 x = generalText (scaled 8 a b) := by
  obtain ⟨m, e, hm, hunpack, hcanonical, -⟩ := unpack_of_pos hx
  refine ⟨(magnitude m e).1, (magnitude m e).2, Nat.mul_pos hm (Nat.two_pow_pos _),
    Nat.two_pow_pos _, ?_, ?_⟩
  · rw [rational_finite hunpack hcanonical.exponent_ge, signedInt, Nat.cast_one, Int.cast_one,
      one_mul]
  · unfold printG9
    rw [hunpack]
    rfl

theorem Shows.twice {precision : Nat} {r : ℚ} (h : Shows precision r shown) :
    r ≤ 2 * (shown.1 * 10 ^ (shown.2 - precision)) ∧
      shown.1 * 10 ^ (shown.2 - precision) ≤ 2 * r := by
  have hone : (1 : ℚ) ≤ shown.1 := by
    exact_mod_cast Nat.le_trans (Nat.pow_pos (by decide)) h.low
  have hunit := ten_zpow_pos (shown.2 - precision)
  have hwhole := le_mul_of_one_le_left hunit.le hone
  obtain ⟨hbelow, habove⟩ := abs_le.mp h.near
  constructor <;> linarith

theorem printG9_readBack {x z : Float} (hx : 0 < FloatOrder.value x)
    (hsmall : (1 / 10 ^ 8 : ℚ) ≤ rational x) (hz : z.isFinite = true)
    (hlarge : 2 * rational x ≤ rational z) :
    ∃ d : Numeral, ∃ shown : Nat × Int, printG9 x = d.text ∧ Shows 8 (rational x) shown ∧
      d.value = shown.1 * 10 ^ (shown.2 - 8) ∧ FloatOrder.IsNearest d.float d.value ∧
      printG9 d.float = printG9 x := by
  obtain ⟨a, b, ha, hb, hrational, hprint⟩ := printG9_of_pos hx
  have hshows : Shows 8 (rational x) (scaled 8 a b) := by
    rw [hrational]
    exact scaled_shows ha hb
  generalize hshown : scaled 8 a b = shown at hshows hprint
  obtain ⟨d, htext, hsign, hnumber⟩ := generalText_numeral hshows.low hshows.high
  obtain ⟨hhalf, htwice⟩ := hshows.twice
  have hvalue : d.value = shown.1 * 10 ^ (shown.2 - 8) := by
    rw [Numeral.value, hsign, ← hnumber]
    exact if_neg (by decide)
  have hfloat : d.float = scaleTen d.mantissa d.power := by
    rw [Numeral.float, hsign]
    exact if_neg (by decide)
  have hbound : (d.mantissa : ℚ) * 10 ^ d.power ≤ rational z := by
    rw [hnumber]
    exact le_trans htwice hlarge
  have hleast : (1 / 10 ^ 9 : ℚ) ≤ d.mantissa * 10 ^ d.power := by
    rw [hnumber]
    push_cast at hhalf
    linarith
  have hmantissa : 0 < d.mantissa := by
    refine Nat.pos_of_ne_zero fun hzero => ?_
    rw [hzero, Nat.cast_zero, zero_mul] at hleast
    norm_num at hleast
  have hclose := FloatOrder.scaleTen_close hmantissa d.power hz hbound hleast
  rw [← hfloat, hnumber] at hclose
  have hunit := ten_zpow_pos (shown.2 - 8)
  have hfew : (shown.1 : ℚ) * 10 ^ (shown.2 - 8) / 2 ^ 53 < 10 ^ (shown.2 - 8) / 20 := by
    have hcast : (shown.1 : ℚ) ≤ 10 ^ 9 := by exact_mod_cast hshows.high.le
    have hgrown := mul_le_mul_of_nonneg_right hcast hunit.le
    rw [div_lt_div_iff₀ (by positivity) (by norm_num)]
    linarith
  have hpositive : 0 < FloatOrder.value d.float := by
    have hwhole : (1 / 10 ^ 9 : ℚ) ≤ shown.1 * 10 ^ (shown.2 - 8) := by rwa [hnumber] at hleast
    have hrational' : 0 < rational d.float := by
      have hlow := (abs_le.mp hclose).1
      linarith
    rw [rational] at hrational'
    have hunits : (0 : ℚ) < FloatOrder.unitsOfOne := by exact_mod_cast FloatOrder.unitsOfOne_pos
    exact_mod_cast (div_pos_iff_of_pos_right hunits).mp hrational'
  refine ⟨d, shown, hprint.trans htext, hshows, hvalue,
    FloatOrder.numeral_nearest d hz (by rwa [d.abs_value]), ?_⟩
  obtain ⟨a', b', ha', hb', hrational', hprint'⟩ := printG9_of_pos hpositive
  rw [hprint', hprint, scaled_unique ha' hb' hshows.low hshows.high ?_]
  rw [← hrational', abs_sub_comm]
  exact lt_of_le_of_lt hclose hfew

end General

section Capital

def capitalMark (c : Char) : Char := if c = 'e' then 'E' else c

def Exponent.capital (e : Exponent) : Exponent where
  mark := 'E'
  sign := e.sign
  digits := e.digits
  mark_eq := .inr rfl
  digits_ne := e.digits_ne
  isDigit := e.isDigit

def Numeral.capital (d : Numeral) : Numeral where
  sign := d.sign
  whole := d.whole
  fraction := d.fraction
  exponent := d.exponent.map Exponent.capital
  digits_ne := d.digits_ne
  isDigit := d.isDigit

theorem map_capitalMark {digits : List Char} (h : ∀ c ∈ digits, c.isDigit = true) :
    digits.map capitalMark = digits := by
  refine (List.map_congr_left fun c hc => if_neg ?_).trans (List.map_id digits)
  rintro rfl
  cases h _ hc

theorem NumeralSign.map_capitalMark (sign : NumeralSign) :
    sign.chars.map capitalMark = sign.chars := by
  cases sign <;> rfl

theorem Exponent.capital_text (e : Exponent) : e.capital.text = e.text.map capitalMark := by
  have hmark : capitalMark e.mark = 'E' := by
    rcases e.mark_eq with h | h
    · rw [h]
      rfl
    · rw [h]
      rfl
  rw [Exponent.text, Exponent.text, List.map_cons, List.map_append, hmark,
    e.sign.map_capitalMark, CNumber.map_capitalMark e.isDigit]
  rfl

theorem Numeral.capital_text (d : Numeral) : d.capital.text = d.text.map capitalMark := by
  have hwhole := map_capitalMark fun c hc => d.isDigit c (List.mem_append_left _ hc)
  have hfraction : d.capital.fractionText = d.fractionText.map capitalMark := by
    have hdigits := map_capitalMark fun c hc => d.isDigit c (List.mem_append_right _ hc)
    change d.fractionText = _
    unfold Numeral.fractionText
    cases hsome : d.fraction with
    | none => rfl
    | some digits =>
      rw [hsome] at hdigits
      rw [List.map_cons]
      exact congrArg ('.' :: ·) hdigits.symm
  have htail : d.capital.exponentTail = d.exponentTail.map capitalMark := by
    unfold Numeral.exponentTail
    cases hsome : d.exponent with
    | none =>
      rw [Numeral.capital, hsome]
      rfl
    | some e =>
      rw [Numeral.capital, hsome]
      exact e.capital_text
  rw [Numeral.text, Numeral.text, Numeral.body, Numeral.body, List.map_append, List.map_append,
    List.map_append, d.sign.map_capitalMark, hwhole, hfraction, htail]
  rfl

theorem Numeral.capital_float (d : Numeral) : d.capital.float = d.float := by
  have hpower : d.capital.power = d.power := by
    rw [Numeral.power, Numeral.power, Numeral.capital]
    cases d.exponent <;> rfl
  rw [Numeral.float, Numeral.float, hpower]
  rfl

end Capital

end CNumber
