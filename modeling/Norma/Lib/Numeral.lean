import Norma.Lib.FloatInteger
import Mathlib.Data.Rat.Floor
import Mathlib.Tactic.Linarith
import Mathlib.Tactic.FieldSimp

namespace CNumber

open FloatOrder (toLower_digit)

inductive NumeralSign where
  | none | plus | minus
  deriving DecidableEq

def NumeralSign.chars : NumeralSign → List Char
  | .none => []
  | .plus => ['+']
  | .minus => ['-']

def NumeralSign.negative (sign : NumeralSign) : Bool := sign = .minus

def NumeralSign.apply {A : Type} [Neg A] (sign : NumeralSign) (a : A) : A :=
  if sign.negative then -a else a

structure Exponent where
  mark : Char
  sign : NumeralSign
  digits : List Char
  mark_eq : mark = 'e' ∨ mark = 'E'
  digits_ne : digits ≠ []
  isDigit : ∀ c ∈ digits, c.isDigit = true

structure Numeral where
  sign : NumeralSign
  whole : List Char
  fraction : Option (List Char)
  exponent : Option Exponent
  digits_ne : whole ++ fraction.getD [] ≠ []
  isDigit : ∀ c ∈ whole ++ fraction.getD [], c.isDigit = true

def Exponent.text (e : Exponent) : List Char := e.mark :: (e.sign.chars ++ e.digits)

def Exponent.value (e : Exponent) : Int := e.sign.apply (Nat.ofDigitChars 10 e.digits 0 : Int)

namespace Numeral

variable (d : Numeral)

def fractionText : List Char :=
  match d.fraction with
  | none => []
  | some digits => '.' :: digits

def exponentTail : List Char :=
  match d.exponent with
  | none => []
  | some e => e.text

def body : List Char := d.whole ++ (d.fractionText ++ d.exponentTail)

def text : List Char := d.sign.chars ++ d.body

def mantissa : Nat := Nat.ofDigitChars 10 (d.whole ++ d.fraction.getD []) 0

def power : Int := (d.exponent.elim 0 Exponent.value) - (d.fraction.getD []).length

def value : ℚ := d.sign.apply ((d.mantissa : ℚ) * 10 ^ d.power)

def float : Float := applySign d.sign.negative (scaleTen d.mantissa d.power)

end Numeral

section Read

variable {d : Numeral}

theorem Exponent.head_not_digit (e : Exponent) : e.mark.isDigit = false ∧ e.mark ≠ '.' ∧
    e.mark.toLower = 'e' := by
  rcases e.mark_eq with h | h
  · rw [h]
    decide
  · rw [h]
    decide

theorem takeWhile_digits {digits rest : List Char} (hdigits : ∀ c ∈ digits, c.isDigit = true)
    (hrest : rest.head?.all (fun c => !c.isDigit) = true) :
    (digits ++ rest).takeWhile Char.isDigit = digits ∧
      (digits ++ rest).dropWhile Char.isDigit = rest := by
  have hstop : rest.takeWhile Char.isDigit = [] ∧ rest.dropWhile Char.isDigit = rest := by
    cases rest with
    | nil => exact ⟨rfl, rfl⟩
    | cons c rest =>
      have hc : c.isDigit = false := by simpa using hrest
      exact ⟨by simp [hc], by simp [hc]⟩
  constructor
  · rw [List.takeWhile_append_of_pos hdigits, hstop.1, List.append_nil]
  · rw [List.dropWhile_append_of_pos hdigits, hstop.2]

theorem takeSign_chars {sign : NumeralSign} {c : Char} {rest : List Char}
    (hplus : c ≠ '+') (hminus : c ≠ '-') :
    takeSign (sign.chars ++ c :: rest) = (sign.negative, c :: rest) := by
  cases sign with
  | plus => rfl
  | minus => rfl
  | none =>
    change takeSign (c :: rest) = (false, c :: rest)
    unfold takeSign
    split
    · next heq => exact absurd (List.cons.inj heq).1 hminus
    · next heq => exact absurd (List.cons.inj heq).1 hplus
    · rfl

theorem digit_not_sign {c : Char} (h : c.isDigit = true) : c ≠ '+' ∧ c ≠ '-' := by
  constructor
  · rintro rfl
    cases h
  · rintro rfl
    cases h

theorem takeExponent_text (e : Exponent) : takeExponent 'e' e.text = (e.value, []) := by
  obtain ⟨c, rest, hcons⟩ := List.exists_cons_of_ne_nil e.digits_ne
  have hc := digit_not_sign (e.isDigit c (by rw [hcons]; exact List.mem_cons_self))
  have hsign : takeSign (e.sign.chars ++ e.digits) = (e.sign.negative, e.digits) := by
    rw [hcons]
    exact takeSign_chars hc.1 hc.2
  have hread := @takeWhile_digits e.digits [] e.isDigit rfl
  rw [List.append_nil] at hread
  rw [Exponent.text, takeExponent, hsign]
  dsimp only
  rw [hread.1, hread.2, if_pos ⟨e.head_not_digit.2.2, e.digits_ne⟩]
  rfl

theorem exponentTail_head : d.exponentTail.head?.all (fun c => !c.isDigit) = true ∧
    d.exponentTail.head? ≠ some '.' := by
  unfold Numeral.exponentTail
  split
  · exact ⟨rfl, nofun⟩
  · next e he =>
    obtain ⟨hdigit, hpoint, hlower⟩ := e.head_not_digit
    refine ⟨by simp [Exponent.text, hdigit], ?_⟩
    rintro hhead
    exact hpoint (Option.some.inj hhead)

theorem takeExponent_tail : takeExponent 'e' d.exponentTail =
    (d.exponent.elim 0 Exponent.value, []) := by
  unfold Numeral.exponentTail
  split
  · next h => rw [h]; rfl
  · next e h =>
    rw [h]
    exact takeExponent_text e

theorem takeFraction_text : takeFraction Char.isDigit (d.fractionText ++ d.exponentTail) =
    (d.fraction.getD [], d.exponentTail) := by
  obtain ⟨hhead, hpoint⟩ := exponentTail_head (d := d)
  have hdigits := d.isDigit
  unfold Numeral.fractionText
  split
  · next h =>
    rw [h, List.nil_append]
    unfold takeFraction
    split
    · next heq =>
      rw [heq] at hpoint
      exact absurd rfl hpoint
    · rfl
  · next digits h =>
    rw [h] at hdigits ⊢
    have hread := takeWhile_digits
      (fun c hc => hdigits c (List.mem_append_right _ hc)) hhead
    exact Prod.ext hread.1 hread.2

theorem readDecimal_body : readDecimal d.body = some (scaleTen d.mantissa d.power, []) := by
  have hrest : (d.fractionText ++ d.exponentTail).head?.all (fun c => !c.isDigit) = true := by
    unfold Numeral.fractionText
    split
    · exact exponentTail_head.1
    · rfl
  obtain ⟨htake, hdrop⟩ := takeWhile_digits
    (fun c hc => d.isDigit c (List.mem_append_left _ hc)) hrest
  rw [readDecimal, Numeral.body, htake, hdrop, takeFraction_text]
  dsimp only
  rw [if_neg d.digits_ne, takeExponent_tail]
  rfl

def isNumeralMark (c : Char) : Bool := ['.', 'e', 'E', '+', '-'].contains c

theorem numeral_char {c : Char} (h : c.isDigit = true ∨ isNumeralMark c = true) :
    c.toLower ≠ 'x' ∧ c.toLower ≠ 'i' ∧ c.toLower ≠ 'n' ∧ isSpace c = false ∧ c ≠ '\x00' := by
  rcases h with hdigit | hmark
  · rw [toLower_digit hdigit]
    refine ⟨?_, ?_, ?_, isSpace_of_isNumberChar (isNumberChar_of_isDigit hdigit), ?_⟩
    all_goals
      rintro rfl
      cases hdigit
  · have hall : ['.', 'e', 'E', '+', '-'].all (fun c => c.toLower ≠ 'x' ∧ c.toLower ≠ 'i' ∧
      c.toLower ≠ 'n' ∧ isSpace c = false ∧ c ≠ '\x00') = true := by decide
    have hc := List.all_eq_true.mp hall c (List.contains_iff_mem.mp hmark)
    exact of_decide_eq_true hc

theorem NumeralSign.mem_chars {sign : NumeralSign} {c : Char} (h : c ∈ sign.chars) :
    isNumeralMark c = true := by
  cases sign with
  | none => cases h
  | plus =>
    obtain rfl := List.mem_singleton.mp h
    rfl
  | minus =>
    obtain rfl := List.mem_singleton.mp h
    rfl

theorem Numeral.mem_body {c : Char} (h : c ∈ d.body) :
    c.isDigit = true ∨ isNumeralMark c = true := by
  rcases List.mem_append.mp h with hwhole | hrest
  · exact .inl (d.isDigit c (List.mem_append_left _ hwhole))
  · rcases List.mem_append.mp hrest with hfraction | htail
    · have hdigits := d.isDigit
      unfold Numeral.fractionText at hfraction
      split at hfraction
      · cases hfraction
      · next digits hsome =>
        rw [hsome] at hdigits
        rcases List.mem_cons.mp hfraction with rfl | hmem
        · exact .inr rfl
        · exact .inl (hdigits c (List.mem_append_right _ hmem))
    · unfold Numeral.exponentTail at htail
      split at htail
      · cases htail
      · next e he =>
        rcases List.mem_cons.mp htail with rfl | hmem
        · rcases e.mark_eq with hmark | hmark
          · exact .inr (by rw [hmark]; rfl)
          · exact .inr (by rw [hmark]; rfl)
        · rcases List.mem_append.mp hmem with hsign | hdigit
          · exact .inr (NumeralSign.mem_chars hsign)
          · exact .inl (e.isDigit c hdigit)

theorem Numeral.body_head : ∃ c rest, d.body = c :: rest ∧ c ≠ '+' ∧ c ≠ '-' := by
  have hdigits := d.isDigit
  have hne := d.digits_ne
  cases hwhole : d.whole with
  | cons c rest =>
    rw [hwhole] at hdigits
    exact ⟨c, rest ++ (d.fractionText ++ d.exponentTail), by rw [Numeral.body, hwhole]; rfl,
      digit_not_sign (hdigits c List.mem_cons_self)⟩
  | nil =>
    cases hfraction : d.fraction with
    | none =>
      rw [hwhole, hfraction] at hne
      exact absurd rfl hne
    | some digits =>
      refine ⟨'.', digits ++ d.exponentTail, ?_, by decide, by decide⟩
      rw [Numeral.body, hwhole, Numeral.fractionText, hfraction]
      rfl

theorem sameLetters_head {c w : Char} {s t : List Char} (h : c.toLower ≠ w) :
    sameLetters (c :: s) (w :: t) = false := by
  simp [sameLetters, h]

theorem readSpecial_body : readSpecial d.body = none := by
  obtain ⟨c, rest, hbody, -⟩ := Numeral.body_head (d := d)
  obtain ⟨-, hi, hn, -⟩ := numeral_char (Numeral.mem_body (d := d) (by
    rw [hbody]
    exact List.mem_cons_self))
  rw [hbody, readSpecial, List.take_succ_cons, List.take_succ_cons, sameLetters_head hi,
    sameLetters_head hi, sameLetters_head hn]
  rfl

theorem readHex_body : readHex d.body = none := by
  have hchars : ∀ c ∈ d.body, c.toLower ≠ 'x' := fun c hc => (numeral_char (Numeral.mem_body hc)).1
  have hstart : sameLetters (d.body.take 2) ['0', 'x'] = false := by
    generalize d.body = body at hchars
    rcases body with _ | ⟨c, _ | ⟨c', rest⟩⟩
    · rfl
    · simp [sameLetters]
    · have hx := hchars c' (by simp)
      simp [sameLetters, hx]
  rw [readHex, if_neg (by simp [hstart])]

theorem strtod_numeral (d : Numeral) : strtod d.text = some (d.float, []) := by
  obtain ⟨c, rest, hbody, hplus, hminus⟩ := Numeral.body_head (d := d)
  have hspace : d.text.dropWhile isSpace = d.text := by
    have hchars : ∀ c ∈ d.text, isSpace c = false := by
      intro c hc
      rcases List.mem_append.mp hc with hsign | hmem
      · exact (numeral_char (.inr (NumeralSign.mem_chars hsign))).2.2.2.1
      · exact (numeral_char (Numeral.mem_body hmem)).2.2.2.1
    cases htext : d.text with
    | nil => rfl
    | cons c' rest' =>
      have hc := hchars c' (by rw [htext]; exact List.mem_cons_self)
      rw [List.dropWhile_cons_of_neg (by rw [hc]; exact Bool.false_ne_true)]
  have hsign : takeSign d.text = (d.sign.negative, d.body) := by
    rw [Numeral.text, hbody]
    exact takeSign_chars hplus hminus
  rw [strtod, hspace, hsign]
  dsimp only
  rw [readSpecial_body, readHex_body, readDecimal_body]
  rfl

theorem cstr_numeral (d : Numeral) : cstr d.text = d.text := by
  refine cstr_eq_self fun hnul => ?_
  rcases List.mem_append.mp hnul with hsign | hmem
  · exact (numeral_char (.inr (NumeralSign.mem_chars hsign))).2.2.2.2 rfl
  · exact (numeral_char (Numeral.mem_body hmem)).2.2.2.2 rfl

end Read

section Start

def digitFirst : List Char → Bool
  | [] => false
  | c :: _ => c.isDigit

def pointFirst : List Char → Bool
  | '.' :: s => digitFirst s
  | _ => false

def unsigned (s : List Char) : List Char := (takeSign (s.dropWhile isSpace)).2

-- What `strtol` takes for an integer, whatever follows.
def startsInteger (s : List Char) : Bool := digitFirst (unsigned s)

-- What `strtod` takes for a number, whatever follows.
def startsNumber (s : List Char) : Bool :=
  digitFirst (unsigned s) || pointFirst (unsigned s) ||
    sameLetters ((unsigned s).take 3) ['i', 'n', 'f'] ||
    sameLetters ((unsigned s).take 3) ['n', 'a', 'n']

variable {s : List Char}

theorem takeWhile_isDigit_eq_nil_iff : s.takeWhile Char.isDigit = [] ↔ digitFirst s = false := by
  cases s with
  | nil => exact iff_of_true rfl rfl
  | cons c s => cases hc : c.isDigit <;> simp [digitFirst, hc]

theorem strtol_eq_none_iff : strtol s = none ↔ startsInteger s = false := by
  rw [startsInteger, ← takeWhile_isDigit_eq_nil_iff, unsigned, strtol]
  generalize takeSign (s.dropWhile isSpace) = signed
  obtain ⟨neg, body⟩ := signed
  dsimp only
  split
  · next hnil => exact iff_of_true rfl hnil
  · next hne => exact iff_of_false (by simp) hne

theorem readDecimal_eq_none_iff :
    readDecimal s = none ↔ digitFirst s = false ∧ pointFirst s = false := by
  have hfraction (hwhole : digitFirst s = false) :
      (takeFraction Char.isDigit (s.dropWhile Char.isDigit)).1 = [] ↔ pointFirst s = false := by
    cases s with
    | nil => exact iff_of_true rfl rfl
    | cons c s =>
      have hc : c.isDigit = false := hwhole
      rw [List.dropWhile_cons_of_neg (by rw [hc]; exact Bool.false_ne_true)]
      by_cases hpoint : c = '.'
      · subst hpoint
        exact takeWhile_isDigit_eq_nil_iff
      · have htake : takeFraction Char.isDigit (c :: s) = ([], c :: s) := by
          unfold takeFraction
          split
          · next heq => exact absurd (List.cons.inj heq).1 hpoint
          · rfl
        have hfirst : pointFirst (c :: s) = false := by
          unfold pointFirst
          split
          · next heq => exact absurd (List.cons.inj heq).1 hpoint
          · rfl
        rw [htake, hfirst]
        exact iff_of_true rfl rfl
  rw [readDecimal]
  dsimp only
  rw [← takeWhile_isDigit_eq_nil_iff]
  constructor
  · intro h
    split at h
    · next hnil =>
      obtain ⟨hwhole, hpoint⟩ := List.append_eq_nil_iff.mp hnil
      exact ⟨hwhole, (hfraction (takeWhile_isDigit_eq_nil_iff.mp hwhole)).mp hpoint⟩
    · cases h
  · rintro ⟨hwhole, hpoint⟩
    have hfirst := (hfraction (takeWhile_isDigit_eq_nil_iff.mp hwhole)).mpr hpoint
    rw [if_pos (List.append_eq_nil_iff.mpr ⟨hwhole, hfirst⟩)]

theorem toLower_eq_zero {c : Char} (h : c.toLower = '0') : c = '0' := by
  delta Char.toLower at h
  split at h
  · next hupper =>
    have hval := congrArg (fun c : Char => c.val.toNat) h
    have hlow : 65 ≤ c.val.toNat := UInt32.le_iff_toNat_le.mp hupper.1
    have hhigh : c.val.toNat ≤ 90 := UInt32.le_iff_toNat_le.mp hupper.2
    have hsum : (c.val + 32).toNat = c.val.toNat + 32 := by
      rw [UInt32.toNat_add]
      exact Nat.mod_eq_of_lt (by change c.val.toNat + 32 < _; omega)
    change (c.val + 32).toNat = 48 at hval
    omega
  · exact h

theorem orElse_eq_none_iff {A : Type} {a : Option A} {b : Unit → Option A} :
    a.orElse b = none ↔ a = none ∧ b () = none := by
  cases a with
  | none => simp
  | some a => simp

theorem readHex_digitFirst (h : readHex s ≠ none) : digitFirst s = true := by
  unfold readHex at h
  split at h
  · next hmark =>
    rcases s with _ | ⟨c, _ | ⟨d, s⟩⟩
    · cases hmark
    · simp [sameLetters] at hmark
    · have hc : c.toLower = '0' := by
        simp only [sameLetters, List.take_succ_cons, List.take_zero, List.map_cons, List.map_nil,
          beq_iff_eq, List.cons.injEq] at hmark
        exact hmark.1
      obtain rfl := toLower_eq_zero hc
      rfl
  · exact absurd rfl h

theorem readSpecial_eq_none_iff : readSpecial s = none ↔
    sameLetters (s.take 3) ['i', 'n', 'f'] = false ∧
      sameLetters (s.take 3) ['n', 'a', 'n'] = false := by
  have hlong (h : sameLetters (s.take 8) ['i', 'n', 'f', 'i', 'n', 'i', 't', 'y'] = true) :
      sameLetters (s.take 3) ['i', 'n', 'f'] = true := by
    rw [sameLetters, beq_iff_eq] at h ⊢
    have hthree := congrArg (List.take 3) h
    rwa [← List.map_take, List.take_take] at hthree
  unfold readSpecial
  split
  · next h => exact iff_of_false (by simp) fun hnone => by rw [hlong h] at hnone; cases hnone.1
  · split
    · next h => exact iff_of_false (by simp) fun hnone => by rw [h] at hnone; cases hnone.1
    · next hinf =>
      split
      · next h => exact iff_of_false (by simp) fun hnone => by rw [h] at hnone; cases hnone.2
      · next hnan =>
        exact iff_of_true rfl ⟨Bool.eq_false_iff.mpr hinf, Bool.eq_false_iff.mpr hnan⟩

theorem strtod_eq_none_iff : strtod s = none ↔ startsNumber s = false := by
  rw [startsNumber, unsigned, strtod]
  generalize takeSign (s.dropWhile isSpace) = signed
  obtain ⟨neg, body⟩ := signed
  simp only [Option.map_eq_none_iff, orElse_eq_none_iff, Bool.or_eq_false_iff]
  rw [readSpecial_eq_none_iff, readDecimal_eq_none_iff]
  constructor
  · rintro ⟨⟨hinf, hnan⟩, -, hdigit, hpoint⟩
    exact ⟨⟨⟨hdigit, hpoint⟩, hinf⟩, hnan⟩
  · rintro ⟨⟨⟨hdigit, hpoint⟩, hinf⟩, hnan⟩
    refine ⟨⟨hinf, hnan⟩, ?_, hdigit, hpoint⟩
    by_contra hhex
    exact absurd (hdigit.symm.trans (readHex_digitFirst hhex)) Bool.false_ne_true

end Start

section Nearest

-- The nearest integer, halves away from zero.
def nearest (v : ℚ) : Int := if v < 0 then -⌊-v + 1 / 2⌋ else ⌊v + 1 / 2⌋

theorem nearest_intCast (n : Int) : nearest n = n := by
  have hhalf : ⌊(1 / 2 : ℚ)⌋ = 0 := by norm_num
  unfold nearest
  split
  · rw [← Int.cast_neg, Int.floor_intCast_add, hhalf]
    omega
  · rw [Int.floor_intCast_add, hhalf, add_zero]

end Nearest

end CNumber

namespace FloatOrder

open Float.Model (UnpackedFloat)
open CNumber

def rational (x : Float) : ℚ := value x / unitsOfOne

theorem magnitude_quotient {m : Nat} {e : Int} (he : -1074 ≤ e) :
    ((magnitude m e).1 : ℚ) / (magnitude m e).2 = units m e / unitsOfOne := by
  have hunit : (unitsOfOne : ℚ) ≠ 0 := by exact_mod_cast Nat.ne_of_gt unitsOfOne_pos
  have hdenominator : ((magnitude m e).2 : ℚ) ≠ 0 := by
    exact_mod_cast Nat.ne_of_gt (Nat.two_pow_pos _)
  rw [div_eq_div_iff hdenominator hunit]
  exact_mod_cast magnitude_units he

theorem rational_zero {x : Float} {s : UnpackedFloat.Sign} (hx : x.toModel.unpack = .zero s) :
    rational x = 0 := by
  have hvalue : valueOf (.zero s) = 0 := rfl
  rw [rational, value, hx, hvalue, Int.cast_zero, zero_div]

theorem rational_finite {x : Float} {s : UnpackedFloat.Sign} {m : Nat} {e : Int} {hm : 0 < m}
    (hx : x.toModel.unpack = .finite s m e hm) (he : -1074 ≤ e) :
    rational x = signedInt s 1 * (((magnitude m e).1 : ℚ) / (magnitude m e).2) := by
  rw [rational, value, hx, magnitude_quotient he]
  cases s with
  | positive =>
    change (((units m e : Nat) : Int) : ℚ) / unitsOfOne = ((1 : Int) : ℚ) * _
    rw [Int.cast_one, Int.cast_natCast, one_mul]
  | negative =>
    change ((-((units m e : Nat) : Int) : Int) : ℚ) / unitsOfOne = ((-1 : Int) : ℚ) * _
    rw [Int.cast_neg, Int.cast_neg, Int.cast_one, Int.cast_natCast, neg_mul, one_mul, neg_div]

theorem nearest_quotient (s : UnpackedFloat.Sign) {a b : Nat} (ha : 0 < a) (hb : 0 < b) :
    nearest (signedInt s 1 * ((a : ℚ) / b)) = signedInt s ((2 * a + b) / (2 * b)) := by
  have hpos : (0 : ℚ) < (a : ℚ) / b := div_pos (by exact_mod_cast ha) (by exact_mod_cast hb)
  have hb' : (b : ℚ) ≠ 0 := by exact_mod_cast Nat.ne_of_gt hb
  have hhalf : (a : ℚ) / b + 1 / 2 = ((2 * a + b : Nat) : ℚ) / ((2 * b : Nat) : ℚ) := by
    push_cast
    field_simp
  have hfloor : ⌊(a : ℚ) / b + 1 / 2⌋ = (((2 * a + b) / (2 * b) : Nat) : Int) := by
    rw [hhalf]
    exact Rat.floor_natCast_div_natCast _ _
  cases s with
  | positive =>
    have hvalue : ((signedInt .positive 1 : Int) : ℚ) * ((a : ℚ) / b) = a / b := by
      simp [signedInt]
    rw [hvalue, nearest, if_neg (not_lt.mpr hpos.le), hfloor]
    rfl
  | negative =>
    have hvalue : ((signedInt .negative 1 : Int) : ℚ) * ((a : ℚ) / b) = -(a / b) := by
      simp [signedInt]
    rw [hvalue, nearest, if_pos (neg_lt_zero.mpr hpos), neg_neg, hfloor]
    rfl

theorem lround_eq (x : Float) : lround x =
    if x.isFinite = true ∧ longMin ≤ nearest (rational x) ∧ nearest (rational x) ≤ longMax then
      nearest (rational x)
    else longMin := by
  have hcanonical := unpack_canonicalFloat x
  have hfinite : x.isFinite = x.toModel.unpack.isFinite := rfl
  rw [hfinite]
  cases hx : x.toModel.unpack with
  | notANumber =>
    rw [lround, hx, if_neg fun h => Bool.noConfusion h.1]
  | infinity s =>
    rw [lround, hx, if_neg fun h => Bool.noConfusion h.1]
  | zero s =>
    have hzero : nearest (rational x) = 0 := by
      rw [rational_zero hx]
      norm_num [nearest]
    rw [lround, hx, hzero, if_pos]
    exact ⟨rfl, by decide, by decide⟩
  | finite s m e hm =>
    rw [hx] at hcanonical
    have he : -1074 ≤ e := hcanonical.exponent_ge
    have hnumerator : 0 < (magnitude m e).1 := Nat.mul_pos hm (Nat.two_pow_pos _)
    have hround : nearest (rational x) = signedInt s ((2 * (magnitude m e).1 + (magnitude m e).2) /
        (2 * (magnitude m e).2)) := by
      rw [rational_finite hx he]
      exact nearest_quotient s hnumerator (Nat.two_pow_pos _)
    rw [lround, hx, hround]
    dsimp only
    by_cases hlong : longMin ≤ signedInt s ((2 * (magnitude m e).1 + (magnitude m e).2) /
        (2 * (magnitude m e).2)) ∧ signedInt s ((2 * (magnitude m e).1 + (magnitude m e).2) /
        (2 * (magnitude m e).2)) ≤ longMax
    · rw [if_pos hlong, if_pos ⟨rfl, hlong⟩]
    · rw [if_neg hlong, if_neg fun h => hlong h.2]

end FloatOrder
