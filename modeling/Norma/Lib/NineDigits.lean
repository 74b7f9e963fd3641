import Norma.Lib.DecimalGeneral

namespace CNumber

open Float.Model.UnpackedFloat (Sign)
open FloatOrder (rational IsNearest unpack_canonicalFloat)

def nineDigits (x : Float) : Float := ((strtod (printG9 x)).map Prod.fst).getD nan

section Read

def Numeral.signed (d : Numeral) (s : Sign) : Numeral where
  sign := signOf false s
  whole := d.whole
  fraction := d.fraction
  exponent := d.exponent
  digits_ne := d.digits_ne
  isDigit := d.isDigit

theorem Numeral.signed_text {d : Numeral} (hsign : d.sign = .none) (s : Sign) :
    (d.signed s).text = signText false s ++ d.text := by
  have hbody : (d.signed s).body = d.body := rfl
  rw [Numeral.text, hbody, Numeral.text, hsign]
  exact congrArg (· ++ d.body) (signOf_chars false s)

theorem printG9_finite {x : Float} {s : Sign} {m : Nat} {e : Int} {hm : 0 < m}
    (hx : x.toModel.unpack = .finite s m e hm) : printG9 x =
      signText false s ++ generalText (scaled 8 (magnitude m e).1 (magnitude m e).2) := by
  unfold printG9
  rw [hx]
  rfl

theorem printG9_numeral {x : Float} (hx : x.isFinite = true) : ∃ d : Numeral, printG9 x = d.text := by
  change x.toModel.unpack.isFinite = true at hx
  cases hu : x.toModel.unpack with
  | notANumber =>
    rw [hu] at hx
    exact Bool.noConfusion hx
  | infinity s =>
    rw [hu] at hx
    exact Bool.noConfusion hx
  | zero s =>
    have hdigits : ∀ c ∈ ['0'] ++ [], c.isDigit = true := List.all_eq_true.mp rfl
    refine ⟨(pointedNumeral .none ['0'] [] none (List.cons_ne_nil _ _) hdigits).signed s, ?_⟩
    rw [Numeral.signed_text rfl, pointedNumeral_text]
    unfold printG9
    rw [hu]
    rfl
  | finite s m e hm =>
    have hshows : Shows 8 (((magnitude m e).1 : ℚ) / (magnitude m e).2)
        (scaled 8 (magnitude m e).1 (magnitude m e).2) :=
      scaled_shows (Nat.mul_pos hm (Nat.two_pow_pos _)) (Nat.two_pow_pos _)
    obtain ⟨d, htext, hsign, -⟩ := generalText_numeral hshows.low hshows.high
    exact ⟨d.signed s, by rw [printG9_finite hu, htext, d.signed_text hsign]⟩

theorem printG9_special {x : Float} (hx : x.isFinite = false) :
    printG9 x ∈ [['n', 'a', 'n'], ['i', 'n', 'f'], ['-', 'i', 'n', 'f']] := by
  change x.toModel.unpack.isFinite = false at hx
  unfold printG9
  cases hu : x.toModel.unpack with
  | notANumber => exact List.mem_cons_self
  | infinity s => cases s <;> decide
  | zero s =>
    rw [hu] at hx
    exact Bool.noConfusion hx
  | finite s m e hm =>
    rw [hu] at hx
    exact Bool.noConfusion hx

theorem strtod_special : ∀ text ∈ [['n', 'a', 'n'], ['i', 'n', 'f'], ['-', 'i', 'n', 'f']],
    ((strtod text).map Prod.snd = some []) ∧ text.map capitalMark = text := by
  decide +kernel

theorem strtod_printG9 (x : Float) : strtod (printG9 x) = some (nineDigits x, []) := by
  cases hx : x.isFinite with
  | true =>
    obtain ⟨d, htext⟩ := printG9_numeral hx
    rw [nineDigits, htext, strtod_numeral]
    rfl
  | false =>
    obtain ⟨hrest, -⟩ := strtod_special _ (printG9_special hx)
    obtain ⟨⟨value, rest⟩, hvalue, rfl⟩ := Option.map_eq_some_iff.mp hrest
    rw [nineDigits, hvalue]
    rfl

theorem strtod_capital (x : Float) :
    strtod ((printG9 x).map capitalMark) = some (nineDigits x, []) := by
  cases hx : x.isFinite with
  | true =>
    obtain ⟨d, htext⟩ := printG9_numeral hx
    have hread := strtod_printG9 x
    rw [htext, strtod_numeral] at hread
    rw [htext, ← d.capital_text, strtod_numeral, d.capital_float]
    exact hread
  | false =>
    rw [(strtod_special _ (printG9_special hx)).2, strtod_printG9]

end Read

end CNumber
