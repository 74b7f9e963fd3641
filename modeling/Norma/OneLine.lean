import Norma.Upper
import Norma.Calculate

namespace Norma

theorem formatSetting_chars (x : Float) :
    ∀ c ∈ formatSetting x, CNumber.isSettingChar c = true := by
  intro c hc
  obtain ⟨d, hd, rfl⟩ := List.mem_map.mp hc
  split
  · rfl
  · exact CNumber.printG9_chars x d hd

theorem readFunctions_cons {arg : Text} {args names : List Text}
    (h : readFunctions (arg :: args) = .ok names) : 2 ≤ (trim arg).length ∧
      ∃ rest, readFunctions args = .ok rest ∧ names = upper (unquote (trim arg)) :: rest := by
  rw [readFunctions] at h
  split at h
  · cases h
  · next hquoted =>
    cases hrest : readFunctions args with
    | error raw =>
      rw [hrest] at h
      cases h
    | ok rest =>
      rw [hrest] at h
      cases h
      exact ⟨Nat.not_lt.mp (not_or.mp hquoted).1, rest, rfl, rfl⟩

def isLineChar (c : Char) : Bool := c != '\n' && c != '\r'

def OneLine (text : Text) : Prop := text.all isLineChar = true

instance (text : Text) : Decidable (OneLine text) := inferInstanceAs (Decidable (_ = true))

namespace OneLine

variable {s t : Text}

@[simp] theorem nil : OneLine [] := rfl

@[simp] theorem cons_iff {c : Char} : OneLine (c :: s) ↔ isLineChar c = true ∧ OneLine s := by
  simp [OneLine]

@[simp] theorem append_iff : OneLine (s ++ t) ↔ OneLine s ∧ OneLine t := by
  simp [OneLine]

theorem of_chars (h : ∀ c ∈ s, isLineChar c = true) : OneLine s := List.all_eq_true.mpr h

theorem chars (h : OneLine s) : ∀ c ∈ s, isLineChar c = true := List.all_eq_true.mp h

theorem subset (h : OneLine t) (hsub : s ⊆ t) : OneLine s := of_chars fun c hc => h.chars c (hsub hc)

theorem sublist (h : OneLine t) (hsub : s.Sublist t) : OneLine s := h.subset hsub.subset

theorem newline_notMem (h : OneLine s) : '\n' ∉ s := fun hmem => by cases h.chars _ hmem

theorem of_notMem (hnewline : '\n' ∉ s) (hreturn : '\r' ∉ s) : OneLine s := by
  refine of_chars fun c hc => ?_
  have hn : c ≠ '\n' := fun heq => hnewline (heq ▸ hc)
  have hr : c ≠ '\r' := fun heq => hreturn (heq ▸ hc)
  simp [isLineChar, hn, hr]

theorem trim (h : OneLine s) : OneLine (trim s) :=
  h.sublist ((List.rdropWhile_prefix _ _).sublist.trans (List.dropWhile_suffix _).sublist)

theorem unquote (h : OneLine s) : OneLine (unquote s) := by
  unfold Norma.unquote
  dsimp only
  split
  · exact h.trim.sublist ((List.dropLast_sublist _).trans (List.tail_sublist _))
  · exact h.trim

theorem upper (h : OneLine s) : OneLine (upper s) := by
  refine of_chars fun c hc => ?_
  obtain ⟨d, hd, rfl⟩ := List.mem_map.mp hc
  have hchar := h.chars d hd
  simp only [isLineChar, bne] at hchar ⊢
  rwa [toUpper_beq (by decide), toUpper_beq (by decide)]

theorem quote (h : OneLine s) : OneLine (quote s) :=
  cons_iff.mpr ⟨rfl, append_iff.mpr ⟨h, rfl⟩⟩

theorem flatten {values : List Text} (h : ∀ value ∈ values, OneLine value) :
    OneLine values.flatten := by
  refine of_chars fun c hc => ?_
  obtain ⟨value, hvalue, hmem⟩ := List.mem_flatten.mp hc
  exact (h value hvalue).chars c hmem

theorem join {separator : Char} (hsep : isLineChar separator = true) {values : List Text}
    (h : ∀ value ∈ values, OneLine value) : OneLine (join separator values) :=
  of_chars (forall_mem_join hsep fun value hvalue => (h value hvalue).chars)

theorem quoteJoin {values : List Text} (h : ∀ value ∈ values, OneLine value) :
    OneLine (quoteJoin values) := by
  refine join rfl fun text htext => ?_
  obtain ⟨value, hvalue, rfl⟩ := List.mem_map.mp htext
  exact (h value hvalue).quote

theorem of_settingChars (h : ∀ c ∈ s, CNumber.isSettingChar c = true) : OneLine s := by
  refine of_notMem (fun hmem => ?_) fun hmem => ?_
  · cases h _ hmem
  · cases h _ hmem

theorem of_numberChars (h : ∀ c ∈ s, CNumber.isNumberChar c = true) : OneLine s :=
  of_settingChars fun c hc => CNumber.isSettingChar_of_isNumberChar (h c hc)

theorem toText (n : Int) : OneLine (toText n) := of_numberChars (CNumber.decimal_chars n)

theorem formatSetting (x : Float) : OneLine (formatSetting x) :=
  of_settingChars (formatSetting_chars x)

theorem formatBool (value : Bool) : OneLine (formatBool value) := by
  cases value with
  | false => rfl
  | true => rfl

theorem joinValues (values : List Float) : OneLine (joinValues values) := by
  refine join rfl fun text htext => ?_
  obtain ⟨value, -, rfl⟩ := List.mem_map.mp htext
  exact formatSetting value

theorem formatValue (state : State) (x : Float) : OneLine (formatValue state x) := by
  unfold Norma.formatValue
  split
  · exact of_numberChars (CNumber.printE_chars _ _)
  · split
    · exact of_numberChars fun c hc => CNumber.printE_chars _ _ c (List.mem_of_mem_take hc)
    · exact of_numberChars (CNumber.printE_chars _ _)

theorem joinCommas {values : List Text} (h : ∀ value ∈ values, OneLine value) :
    OneLine (Norma.join ',' values) :=
  join rfl h

theorem binaryBlock (count : Nat) : OneLine (binaryBlock count) := by
  have hzeros : OneLine (List.replicate (count * 8) '\x00') :=
    of_chars fun c hc => by rw [(List.mem_replicate.mp hc).2]; rfl
  exact cons_iff.mpr ⟨rfl, append_iff.mpr ⟨append_iff.mpr ⟨toText _, toText _⟩, hzeros⟩⟩

theorem readFunctions_ok {args names : List Text} (hargs : ∀ arg ∈ args, OneLine arg)
    (hread : readFunctions args = .ok names) : ∀ name ∈ names, OneLine name := by
  induction args generalizing names with
  | nil =>
    cases hread
    simp
  | cons arg args ih =>
    obtain ⟨-, rest, hrest, rfl⟩ := readFunctions_cons hread
    intro name hname
    rcases List.mem_cons.mp hname with rfl | hmem
    · exact (hargs arg List.mem_cons_self).trim.unquote.upper
    · exact ih (fun arg harg => hargs arg (List.mem_cons_of_mem _ harg)) hrest name hmem

theorem readFunctions_error {args : List Text} {raw : Text} (hargs : ∀ arg ∈ args, OneLine arg)
    (hread : readFunctions args = .error raw) : OneLine raw := by
  induction args with
  | nil => cases hread
  | cons arg args ih =>
    rw [readFunctions] at hread
    split at hread
    · cases hread
      exact (hargs arg List.mem_cons_self).trim
    · cases hrest : readFunctions args with
      | error other =>
        rw [hrest] at hread
        cases hread
        exact ih (fun arg harg => hargs arg (List.mem_cons_of_mem _ harg)) hrest
      | ok rest => simp [hrest, Except.map] at hread

theorem readCounts_error {n : Nat} {args : List Text} {arg : Text}
    (hargs : ∀ arg ∈ args, OneLine arg) (hread : readCounts n args = .error arg) :
    OneLine arg := by
  induction n generalizing args with
  | zero => cases hread
  | succ n ih =>
    cases args with
    | nil => cases hread
    | cons head args =>
      rw [readCounts] at hread
      split at hread
      · cases hread
      · split at hread
        · cases hread
          exact hargs _ List.mem_cons_self
        · split at hread
          · cases hread
            exact hargs _ List.mem_cons_self
          · cases hrest : readCounts n args with
            | error other =>
              rw [hrest] at hread
              cases hread
              exact ih (fun arg harg => hargs arg (List.mem_cons_of_mem _ harg)) hrest
            | ok counts => simp [hrest, Except.map] at hread

end OneLine

end Norma
