import Norma.Quoting
import Norma.Measured

namespace Norma

open Cut (Scanner)

section Letters

def isLetter (c : Char) : Bool :=
  (65 ≤ c.toNat && c.toNat ≤ 90) || (97 ≤ c.toNat && c.toNat ≤ 122)

theorem toUpper_cases (c : Char) :
    c.toUpper = c ∨ 97 ≤ c.toNat ∧ c.toNat ≤ 122 ∧ c.toUpper.toNat + 32 = c.toNat := by
  unfold Char.toUpper
  split
  · next hlower =>
    simp only [UInt32.le_iff_toNat_le] at hlower
    have hlow : 97 ≤ c.toNat := hlower.1
    have hhigh : c.toNat ≤ 122 := hlower.2
    refine .inr ⟨hlow, hhigh, ?_⟩
    have hsum : (c.val + ('A'.val - 'a'.val)).toNat = (c.val.toNat + 4294967264) % 4294967296 := by
      simp [UInt32.toNat_add]
    change (c.val + ('A'.val - 'a'.val)).toNat + 32 = c.val.toNat
    rw [hsum]
    change 97 ≤ c.val.toNat at hlow
    change c.val.toNat ≤ 122 at hhigh
    omega
  · exact .inl rfl

theorem toUpper_keeps {p : Char → Bool} (hp : ∀ c, isLetter c = true → p c = false) (c : Char) :
    p c.toUpper = p c := by
  rcases toUpper_cases c with hsame | ⟨hlow, hhigh, hshift⟩
  · rw [hsame]
  · rw [hp c (by simp [isLetter]; omega), hp c.toUpper (by simp [isLetter]; omega)]

theorem toUpper_toUpper (c : Char) : c.toUpper.toUpper = c.toUpper := by
  rcases toUpper_cases c with hsame | ⟨hlow, hhigh, hshift⟩
  · rw [hsame, hsame]
  · rcases toUpper_cases c.toUpper with hsame | ⟨hlow', -⟩
    · exact hsame
    · omega

theorem upper_upper (s : Text) : upper (upper s) = upper s := by
  rw [upper, upper, List.map_map]
  exact List.map_congr_left fun c _ => toUpper_toUpper c

theorem isLetter_ne {c d : Char} (hd : isLetter d = false) (hc : isLetter c = true) :
    (c == d) = false := by
  rw [beq_eq_false_iff_ne]
  rintro rfl
  rw [hd] at hc
  cases hc

theorem toUpper_beq {d : Char} (hd : isLetter d = false) (c : Char) :
    (c.toUpper == d) = (c == d) :=
  toUpper_keeps (fun _ => isLetter_ne hd) c

theorem isQuote_toUpper (c : Char) : isQuote c.toUpper = isQuote c :=
  toUpper_keeps (fun c hc => by
    rw [isQuote, isLetter_ne (by decide) hc, isLetter_ne (by decide) hc]
    rfl) c

theorem isSpace_toUpper (c : Char) : isSpace c.toUpper = isSpace c :=
  toUpper_keeps (fun c hc => by
    rw [isSpace, isLetter_ne (by decide) hc]
    simp [isLetter] at hc ⊢
    omega) c

theorem trim_upper (s : Text) : trim (upper s) = upper (trim s) := by
  have hspace : isSpace ∘ Char.toUpper = isSpace := funext isSpace_toUpper
  simp only [trim, upper, List.rdropWhile, List.dropWhile_map, ← List.map_reverse, hspace]

end Letters

section Names

theorem isLetter_quote {q : Char} (h : isQuote q = true) : isLetter q = false := by
  rcases Bool.or_eq_true_iff.mp h with hq | hq
  · rw [beq_iff_eq.mp hq]
    rfl
  · rw [beq_iff_eq.mp hq]
    rfl

theorem toUpper_of_isQuote {c : Char} (h : isQuote c = true) : c.toUpper = c := by
  rcases Bool.or_eq_true_iff.mp h with hc | hc
  · rw [beq_iff_eq.mp hc]
    rfl
  · rw [beq_iff_eq.mp hc]
    rfl

theorem splitUnquoted_upper {separator : Char} (hsep : isLetter separator = false) (text : Text) :
    splitUnquoted (upper text) separator = (splitUnquoted text separator).map upper := by
  rw [splitUnquoted_eq, splitUnquoted_eq]
  refine (quoting separator).pieces_map
    (I := fun quote => ∀ q, quote = some q → isQuote q = true) ?_ ?_ ?_ (by simp) text
  · intro quote c hquote q hq
    cases quote with
    | none =>
      by_cases hc : isQuote c = true
      · simp only [quoting, quoteNext, if_pos hc, Option.some.injEq] at hq
        rwa [← hq]
      · simp [quoting, quoteNext, hc] at hq
    | some open' =>
      by_cases hc : c = open'
      · simp [quoting, quoteNext, hc] at hq
      · simp only [quoting, quoteNext, if_neg hc] at hq
        exact hquote q hq
  · intro quote c hquote
    cases quote with
    | none =>
      by_cases hc : isQuote c = true
      · rw [toUpper_of_isQuote hc]
      · simp [quoting, quoteNext, isQuote_toUpper, hc]
    | some q =>
      have hq := toUpper_beq (isLetter_quote (hquote q rfl)) c
      simp only [beq_eq_beq] at hq
      simp [quoting, quoteNext, hq]
  · intro quote c hquote
    simp [quoting, isQuote_toUpper, toUpper_beq hsep]

theorem makeToken_upper (node : Text) : makeToken (upper node) = makeToken node := by
  rw [makeToken, makeToken, trim_upper, upper_upper]

theorem splitFunction_upper (function : Text) :
    splitFunction (upper function) = splitFunction function := by
  rw [splitFunction, splitFunction, splitUnquoted_upper (by decide)]
  cases splitUnquoted function ':' with
  | nil => rfl
  | cons head tail =>
    have hnode : (fun node => upper (trim node)) ∘ upper = fun node => upper (trim node) := by
      funext node
      rw [Function.comp_apply, trim_upper, upper_upper]
    simp only [List.map_cons, makeToken_upper, List.map_map, hnode]

variable {D : Type} [Arith D] (state : SimulatorState D) (signal : SimulatedSignal D)

theorem measureFuel_upper (fuel : Nat) (function : Text) :
    measureFuel state signal fuel (upper function) = measureFuel state signal fuel function := by
  cases fuel with
  | zero => rfl
  | succ fuel =>
    rw [measureFuel, measureFuel, measureStep, measureStep, splitFunction_upper]

end Names

end Norma
