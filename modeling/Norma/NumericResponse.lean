import Norma.Client
import Norma.Lib.Numeral

namespace Norma

open CNumber ScpiClient

inductive DecimalInteger : Text → Int → Prop where
  | mk (sign : NumeralSign) (digits : Text) (hne : digits ≠ [])
      (hdigits : ∀ c ∈ digits, c.isDigit = true) :
      DecimalInteger (sign.chars ++ digits) (sign.apply (Nat.ofDigitChars 10 digits 0 : Int))

def ReadsInt (text : Text) (n : Int) : Prop :=
  DecimalInteger (trim text) n ∧ -2 ^ 31 ≤ n ∧ n < 2 ^ 31

def scpiNumber (value : Float) : Float :=
  if kScpiNanThreshold ≤ value.abs then CNumber.nan else value

def ReadsDouble (text : Text) (x : Float) : Prop :=
  ∃ d : Numeral, trim text = d.text ∧ x = scpiNumber d.float

def keywordOf (text : Text) : Option Bool :=
  let text := upper (trim text)
  if text = "ON" ∨ text = "TRUE" then some true
  else if text = "OFF" ∨ text = "FALSE" then some false
  else none

def ReadsBool (text : Text) (b : Bool) : Prop :=
  match keywordOf text with
  | some keyword => b = keyword
  | none => ∃ n, ReadsInt text n ∧ b = decide (n ≠ 0)

def ReadsValues (line : Text) (xs : List Float) : Prop :=
  List.Forall₂ ReadsDouble (splitCsv line) xs

namespace ScpiClient

def toBool (field : Text) : Except Fault Bool :=
  let text := upper (trim field)
  if text = "ON" ∨ text = "TRUE" then .ok true
  else if text = "OFF" ∨ text = "FALSE" then .ok false
  else (toInt field).map fun n => decide (n ≠ 0)

section

variable {T : Type} [Transport T]

def queryValue (command : Text) : Session T Float := do
  Session.ofExcept (toDouble (← query command))

def queryInt (command : Text) : Session T Int := do
  Session.ofExcept (toInt (← query command))

def queryBool (command : Text) : Session T Bool := do
  Session.ofExcept (toBool (← query command))

end

end ScpiClient

structure TakenWhole {A : Type} (result : Except Fault A) (Means : A → Prop) : Prop where
  returned : ∀ a, result = .ok a ↔ Means a
  rejected : (∀ a, ¬Means a) → ∃ message, result = .error (.protocol message)

-- A reader that is right about complete texts and looks only at how the others start.
structure Reader {F A : Type} (read : F → Except Fault A) (Reads : F → A → Prop)
    (starts : F → Bool) : Prop where
  reads : ∀ {field a}, Reads field a → read field = .ok a
  accepts : ∀ {field}, starts field = true → ∃ a, read field = .ok a
  rejects : ∀ {field}, starts field = false → ∃ message, read field = .error (.protocol message)

namespace Reader

variable {F A : Type} {read : F → Except Fault A} {Reads : F → A → Prop} {starts : F → Bool}

theorem takenWhole_iff (h : Reader read Reads starts) (field : F) :
    TakenWhole (read field) (Reads field) ↔ (∃ a, Reads field a) ∨ starts field = false := by
  by_cases hreads : ∃ a, Reads field a
  · obtain ⟨a, ha⟩ := hreads
    have hread := h.reads ha
    refine iff_of_true ⟨fun b => ⟨fun hb => ?_, h.reads⟩, fun hnone => absurd ha (hnone a)⟩
      (.inl ⟨a, ha⟩)
    obtain rfl := Except.ok.inj (hread.symm.trans hb)
    exact ha
  · have hnone : ∀ a, ¬Reads field a := fun a ha => hreads ⟨a, ha⟩
    rw [or_iff_right hreads]
    cases hstarts : starts field with
    | true =>
      obtain ⟨a, ha⟩ := h.accepts hstarts
      exact iff_of_false (fun htaken => hnone a ((htaken.returned a).mp ha)) (by simp)
    | false =>
      obtain ⟨message, hmessage⟩ := h.rejects hstarts
      refine iff_of_true ⟨fun a => iff_of_false ?_ (hnone a), fun _ => ⟨message, hmessage⟩⟩ rfl
      rw [hmessage]
      nofun

theorem mapM (h : Reader read Reads starts) :
    Reader (fun fields => fields.mapM read) (List.Forall₂ Reads) (·.all starts) where
  reads {fields as} hforall := by
    induction hforall with
    | nil => rfl
    | cons hfield _ ih =>
      rw [List.mapM_cons, h.reads hfield, ih]
      rfl
  accepts {fields} hall := by
    induction fields with
    | nil => exact ⟨[], rfl⟩
    | cons field fields ih =>
      rw [List.all_cons, Bool.and_eq_true] at hall
      obtain ⟨a, ha⟩ := h.accepts hall.1
      obtain ⟨as, has⟩ := ih hall.2
      exact ⟨a :: as, by rw [List.mapM_cons, ha, has]; rfl⟩
  rejects {fields} hall := by
    induction fields with
    | nil => cases hall
    | cons field fields ih =>
      rw [List.all_cons] at hall
      cases hstarts : starts field with
      | false =>
        obtain ⟨message, hmessage⟩ := h.rejects hstarts
        exact ⟨message, by rw [List.mapM_cons, hmessage]; rfl⟩
      | true =>
        rw [hstarts, Bool.true_and] at hall
        obtain ⟨a, ha⟩ := h.accepts hstarts
        obtain ⟨message, hmessage⟩ := ih hall
        exact ⟨message, by rw [List.mapM_cons, ha, hmessage]; rfl⟩

end Reader

section Integers

variable {text : Text} {sign : NumeralSign} {digits : Text}

theorem unsigned_signed (hne : digits ≠ []) (hdigits : ∀ c ∈ digits, c.isDigit = true) :
    takeSign ((sign.chars ++ digits).dropWhile isSpace) = (sign.negative, digits) := by
  obtain ⟨d, ds, rfl⟩ := List.exists_cons_of_ne_nil hne
  have hd : d.isDigit = true := hdigits d List.mem_cons_self
  have hspace : (sign.chars ++ d :: ds).dropWhile isSpace = sign.chars ++ d :: ds := by
    have hdigit := isSpace_of_isNumberChar (isNumberChar_of_isDigit hd)
    cases sign with
    | none => exact List.dropWhile_cons_of_neg (by rw [hdigit]; exact Bool.false_ne_true)
    | plus => rfl
    | minus => rfl
  rw [hspace]
  exact takeSign_chars (digit_not_sign hd).1 (digit_not_sign hd).2

theorem strtol_signed (hne : digits ≠ []) (hdigits : ∀ c ∈ digits, c.isDigit = true) :
    strtol (sign.chars ++ digits) =
      some (max longMin (min longMax (sign.apply (Nat.ofDigitChars 10 digits 0 : Int)))) := by
  have htake : digits.takeWhile Char.isDigit = digits := List.takeWhile_eq_self_iff.mpr hdigits
  rw [strtol, unsigned_signed hne hdigits]
  dsimp only
  rw [htake, if_neg hne]
  rfl

theorem DecimalInteger.mem {n : Int} {c : Char} (h : DecimalInteger text n) (hc : c ∈ text) :
    c.isDigit = true ∨ c = '+' ∨ c = '-' := by
  cases h with
  | mk sign digits hne hdigits =>
    rcases List.mem_append.mp hc with hsign | hmem
    · right
      cases sign with
      | none => cases hsign
      | plus => exact .inl (List.mem_singleton.mp hsign)
      | minus => exact .inr (List.mem_singleton.mp hsign)
    · exact .inl (hdigits c hmem)

theorem toInt_reads {n : Int} (h : ReadsInt text n) : ScpiClient.toInt text = .ok n := by
  obtain ⟨hinteger, hlow, hhigh⟩ := h
  have hcstr : cstr (trim text) = trim text :=
    cstr_eq_self fun hnul => absurd (hinteger.mem hnul) (by decide)
  rw [ScpiClient.toInt, hcstr]
  generalize trim text = trimmed at hinteger
  cases hinteger with
  | mk sign digits hne hdigits =>
    have hlong : max longMin (min longMax (sign.apply (Nat.ofDigitChars 10 digits 0 : Int))) =
        sign.apply (Nat.ofDigitChars 10 digits 0 : Int) := by
      simp only [longMin, longMax]
      omega
    rw [strtol_signed hne hdigits, hlong]
    dsimp only
    rw [toInt32_eq_self hlow hhigh]

theorem toInt_reader : Reader ScpiClient.toInt ReadsInt
    (fun text => startsInteger (cstr (trim text))) where
  reads := toInt_reads
  accepts {text} hstarts := by
    have hsome : strtol (cstr (trim text)) ≠ none := fun hnone =>
      absurd (hstarts.symm.trans (strtol_eq_none_iff.mp hnone)) (by simp)
    obtain ⟨value, hvalue⟩ := Option.ne_none_iff_exists'.mp hsome
    exact ⟨_, by rw [ScpiClient.toInt, hvalue]⟩
  rejects {text} hstarts :=
    ⟨_, by rw [ScpiClient.toInt, strtol_eq_none_iff.mpr hstarts]⟩

theorem toBool_eq (text : Text) : toBool text =
    match keywordOf text with
    | some keyword => .ok keyword
    | none => (ScpiClient.toInt text).map fun n => decide (n ≠ 0) := by
  rw [ScpiClient.toBool, keywordOf]
  split
  · rfl
  · split <;> rfl

theorem toBool_reader : Reader toBool ReadsBool
    (fun text => (keywordOf text).isSome || startsInteger (cstr (trim text))) where
  reads {text b} hreads := by
    rw [toBool_eq]
    rw [ReadsBool] at hreads
    cases hkeyword : keywordOf text with
    | some keyword =>
      rw [hkeyword] at hreads
      exact congrArg Except.ok hreads.symm
    | none =>
      rw [hkeyword] at hreads
      obtain ⟨n, hn, rfl⟩ := hreads
      dsimp only
      rw [toInt_reads hn]
      rfl
  accepts {text} hstarts := by
    rw [toBool_eq]
    cases hkeyword : keywordOf text with
    | some keyword => exact ⟨keyword, rfl⟩
    | none =>
      rw [hkeyword] at hstarts
      obtain ⟨n, hn⟩ := toInt_reader.accepts hstarts
      exact ⟨decide (n ≠ 0), by dsimp only; rw [hn]; rfl⟩
  rejects {text} hstarts := by
    rw [Bool.or_eq_false_iff, Option.isSome_eq_false_iff, Option.isNone_iff_eq_none] at hstarts
    obtain ⟨message, hmessage⟩ := toInt_reader.rejects hstarts.2
    exact ⟨message, by rw [toBool_eq, hstarts.1]; dsimp only; rw [hmessage]; rfl⟩

end Integers

section Numbers

theorem toDouble_reader : Reader toDouble ReadsDouble
    (fun text => startsNumber (cstr (trim text))) where
  reads {text x} hreads := by
    obtain ⟨d, htext, hx⟩ := hreads
    have hne : d.text ≠ [] := by
      intro hnil
      have hread := strtod_numeral d
      rw [hnil] at hread
      cases hread
    rw [toDouble, htext, if_neg hne, cstr_numeral, strtod_numeral, hx, scpiNumber]
  accepts {text} hstarts := by
    have hne : trim text ≠ [] := by
      intro hnil
      rw [hnil] at hstarts
      cases hstarts
    have hsome : strtod (cstr (trim text)) ≠ none := fun hnone =>
      absurd (hstarts.symm.trans (strtod_eq_none_iff.mp hnone)) (by simp)
    obtain ⟨value, hvalue⟩ := Option.ne_none_iff_exists'.mp hsome
    exact ⟨_, by rw [toDouble, if_neg hne, hvalue]⟩
  rejects {text} hstarts := by
    rw [toDouble]
    split
    · exact ⟨_, rfl⟩
    · rw [strtod_eq_none_iff.mpr hstarts]
      exact ⟨_, rfl⟩

theorem parseValues_reader : Reader parseValues ReadsValues
    (fun line => (splitCsv line).all fun field => startsNumber (cstr (trim field))) where
  reads := toDouble_reader.mapM.reads
  accepts := toDouble_reader.mapM.accepts
  rejects := toDouble_reader.mapM.rejects

end Numbers

section Responses

variable {T A : Type}

def readBy (read : Text → Except Fault A) (outcome : Option (Except Fault Text × ScpiClient T)) :
    Option (Except Fault A × ScpiClient T) :=
  outcome.map fun (response, after) => (response.bind read, after)

theorem bind_ofExcept (read : Text → Except Fault A) (m : Session T Text) (client : ScpiClient T) :
    (m >>= fun response => Session.ofExcept (read response)) client = readBy read (m client) := by
  change Session.bind' m (fun response => Session.ofExcept (read response)) client = _
  rw [Session.bind', readBy]
  rcases m client with _ | ⟨_ | response, after⟩
  · rfl
  · rfl
  · rfl

theorem numeric_response_whole_iff [Transport T] (text : Text) (client : ScpiClient T) (command : Text) :
    (TakenWhole (ScpiClient.toInt text) (ReadsInt text) ↔
        (∃ n, ReadsInt text n) ∨ startsInteger (cstr (trim text)) = false) ∧
      (TakenWhole (toDouble text) (ReadsDouble text) ↔
        (∃ x, ReadsDouble text x) ∨ startsNumber (cstr (trim text)) = false) ∧
      (TakenWhole (toBool text) (ReadsBool text) ↔ (∃ b, ReadsBool text b) ∨
        ((keywordOf text).isSome || startsInteger (cstr (trim text))) = false) ∧
      (TakenWhole (parseValues text) (ReadsValues text) ↔ (∃ xs, ReadsValues text xs) ∨
        ((splitCsv text).all fun field => startsNumber (cstr (trim field))) = false) ∧
      queryInt command client = readBy ScpiClient.toInt (query command client) ∧
      queryValue command client = readBy toDouble (query command client) ∧
      queryBool command client = readBy toBool (query command client) ∧
      queryValues command client = readBy parseValues (query command client) :=
  ⟨toInt_reader.takenWhole_iff text, toDouble_reader.takenWhole_iff text,
    toBool_reader.takenWhole_iff text, parseValues_reader.takenWhole_iff text,
    bind_ofExcept _ _ _, bind_ofExcept _ _ _, bind_ofExcept _ _ _, bind_ofExcept _ _ _⟩

theorem real_taken_for_integer : ¬∀ text, TakenWhole (ScpiClient.toInt text) (ReadsInt text) := by
  intro hall
  have hread : ScpiClient.toInt "+2.30000E+02" = .ok 2 := by decide +kernel
  obtain ⟨hinteger, -⟩ := ((hall "+2.30000E+02").returned 2).mp hread
  have hpoint : ('.' : Char) ∈ trim "+2.30000E+02" := by decide +kernel
  exact absurd (hinteger.mem hpoint) (by decide)

end Responses

end Norma
