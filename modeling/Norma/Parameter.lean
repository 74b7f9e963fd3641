import Norma.Driver
import Norma.IntegerArgument
import Norma.LearnString
import Norma.Lib.NineDigits

namespace Norma

open ScpiClient
open CNumber (nineDigits)

def isBareChar (c : Char) : Bool := !isQuote c && !isSpace c && c != ',' && c != ';'

-- A text that stands for itself wherever a parameter or a field of a response can stand.
structure Bare (text : Text) : Prop where
  nonempty : text ≠ []
  chars : ∀ c ∈ text, isBareChar c = true

section Bare

variable {text : Text}

theorem bareChar {c : Char} (h : isBareChar c = true) :
    isQuote c = false ∧ isSpace c = false ∧ c ≠ ',' ∧ c ≠ ';' := by
  simpa [isBareChar, and_assoc] using h

theorem Bare.plainField (h : Bare text) : PlainField text where
  unquoted c hc := (bareChar (h.chars c hc)).1
  spaceless c hc := (bareChar (h.chars c hc)).2.1
  comma hmem := (bareChar (h.chars _ hmem)).2.2.1 rfl
  nonempty := h.nonempty

theorem Bare.whole (h : Bare text) : Whole ';' text :=
  h.plainField.unquoted.whole_iff.mpr fun hmem => (bareChar (h.chars _ hmem)).2.2.2 rfl

theorem spaceless_plain (h : Spaceless text) : hasLineTerminator text = false :=
  @hasLineTerminator_append [] text rfl h

theorem Bare.plain (h : Bare text) : hasLineTerminator text = false :=
  spaceless_plain h.plainField.spaceless

theorem bareChar_of_settingChar {c : Char} (h : CNumber.isSettingChar c = true) :
    isBareChar c = true := by
  have hspace : isSpace c = false := by
    rw [CNumber.isSettingChar, Bool.or_eq_true, List.contains_iff_mem] at h
    rcases h with hnumber | hmem
    · exact CNumber.isSpace_of_isNumberChar hnumber
    · have hletters : ['e', 'n', 'a', 'i', 'f'].all (fun c => !isSpace c) = true := rfl
      simpa using List.all_eq_true.mp hletters c hmem
  have hne {d : Char} (hd : CNumber.isSettingChar d = false) : c ≠ d := by
    rintro rfl
    rw [h] at hd
    cases hd
  simp [isBareChar, isQuote, hspace, @hne '"' rfl, @hne '\'' rfl, @hne ',' rfl, @hne ';' rfl]

theorem bare_formatDouble (x : Float) : Bare (formatDouble x) where
  nonempty hnil := by
    have hread := CNumber.strtod_printG9 x
    rw [show CNumber.printG9 x = [] from hnil] at hread
    cases hread
  chars c hc := bareChar_of_settingChar (CNumber.printG9_chars x c hc)

theorem bare_toText (n : Int) : Bare (toText n) where
  nonempty := CNumber.decimal_ne_nil n
  chars c hc := bareChar_of_settingChar
    (CNumber.isSettingChar_of_isNumberChar (CNumber.decimal_chars n c hc))

theorem bare_keyword (keyword : Keyword) (value : keyword.Value) : Bare (keyword.toScpi value) := by
  have hall : (keyword.toScpi value).all isBareChar = true ∧ keyword.toScpi value ≠ [] := by
    cases keyword <;> cases value <;> decide
  exact ⟨hall.2, List.all_eq_true.mp hall.1⟩

theorem bare_formatOn (on : Bool) : Bare (formatOn on) := by
  have hall : (formatOn on).all isBareChar = true ∧ formatOn on ≠ [] := by
    cases on <;> decide
  exact ⟨hall.2, List.all_eq_true.mp hall.1⟩

end Bare

-- A type of values as they go over the link: written by the driver as `text`, taken apart by the
-- simulator into `args`, answered by it as `answer` and read by the driver as `seen`.
class Parameter (A : Type) where
  text : A → Text
  args : A → List Text
  answer : A → Text
  parse : Text → Except Fault A
  seen : A → A
  Fits : A → Prop
  whole : ∀ a, Whole ';' (text a)
  plain : ∀ a, hasLineTerminator (text a) = false
  argumentsOf_text : ∀ a, argumentsOf (text a) = args a
  parse_answer : ∀ a, Fits a → parse (answer a) = .ok (seen a)

section Numbers

theorem cstr_printed {text : Text} (h : ∀ c ∈ text, CNumber.isSettingChar c = true) :
    CNumber.cstr text = text :=
  CNumber.cstr_eq_self fun hmem => by cases h _ hmem

theorem parseNumber_formatDouble (x : Float) : parseNumber (formatDouble x) = some (nineDigits x) := by
  rw [parseNumber, formatDouble, cstr_printed (CNumber.printG9_chars x), CNumber.strtod_printG9]
  rfl

-- A number beyond the one that means that there is none is taken for it.
theorem toDouble_shown (x : Float) :
    toDouble (formatSetting x) = .ok (scpiNumber (nineDigits x)) := by
  have hplain := plainField_formatSetting x
  have hread : CNumber.strtod (formatSetting x) = some (nineDigits x, []) := CNumber.strtod_capital x
  rw [toDouble, trim_of_spaceless hplain.spaceless, if_neg hplain.nonempty,
    cstr_printed (formatSetting_chars x), hread]
  rfl

def FitsInt (n : Int) : Prop := -2 ^ 31 ≤ n ∧ n < 2 ^ 31

instance (n : Int) : Decidable (FitsInt n) := inferInstanceAs (Decidable (_ ∧ _))

theorem toInt_small {n : Int} (h : FitsInt n) : ScpiClient.toInt (toText n) = .ok n := by
  obtain ⟨hlow, hhigh⟩ := h
  have htrim : trim (toText n) = toText n := trim_of_spaceless (bare_toText n).plainField.spaceless
  have hclamp : max CNumber.longMin (min CNumber.longMax n) = n := by
    simp only [CNumber.longMin, CNumber.longMax]
    omega
  rw [ScpiClient.toInt, htrim, toText, CNumber.cstr_decimal, CNumber.strtol_decimal_clamped, hclamp]
  exact congrArg Except.ok (CNumber.toInt32_eq_self hlow hhigh)

structure IsInteger (x : Float) (n : Int) : Prop where
  finite : x.isFinite = true
  value : FloatOrder.value x = n * FloatOrder.unitsOfOne

namespace IsInteger

variable {x y : Float} {n m : Int}

theorem lt_iff (hx : IsInteger x n) (hy : IsInteger y m) : x < y ↔ n < m := by
  have hunit : (0 : Int) < FloatOrder.unitsOfOne := Int.natCast_pos.mpr FloatOrder.unitsOfOne_pos
  rw [FloatOrder.lt_iff hx.finite hy.finite, hx.value, hy.value]
  exact Int.mul_lt_mul_right hunit

theorem truncated (hx : IsInteger x n) (h : FitsInt n) : CNumber.truncInt32 x = n :=
  FloatOrder.truncInt32_integer hx.finite hx.value h.1 h.2

theorem rounded (hx : IsInteger x n) (h : FitsInt n) : toInt x = n := by
  have hunit : (FloatOrder.unitsOfOne : ℚ) ≠ 0 := by
    exact_mod_cast Nat.ne_of_gt FloatOrder.unitsOfOne_pos
  have hrational : FloatOrder.rational x = n := by
    rw [FloatOrder.rational, hx.value]
    push_cast
    exact mul_div_cancel_right₀ _ hunit
  have hnearest : CNumber.nearest (FloatOrder.rational x) = n := by
    rw [hrational]
    exact CNumber.nearest_intCast n
  have hnarrowed := narrowed_small hx.finite (hnearest ▸ h.1) (hnearest ▸ h.2)
  rw [toInt, toInt32_lround, hnarrowed, hnearest]

end IsInteger

theorem parseNumber_small {n : Int} (h : FitsInt n) :
    ∃ x, parseNumber (toText n) = some x ∧ IsInteger x n := by
  obtain ⟨hlow, hhigh⟩ := h
  obtain ⟨x, hx, hfinite, hvalue⟩ := FloatOrder.strtod_decimal (n := n) (by omega) (by omega)
  refine ⟨x, ?_, hfinite, hvalue⟩
  rw [parseNumber, toText, CNumber.cstr_decimal, hx]
  rfl

end Numbers

section Instances

instance parameterFloat : Parameter Float where
  text := formatDouble
  args x := [formatDouble x]
  answer := formatSetting
  parse := toDouble
  seen x := scpiNumber (nineDigits x)
  Fits _ := True
  whole x := (bare_formatDouble x).whole
  plain x := (bare_formatDouble x).plain
  argumentsOf_text x := argumentsOf_plainField (bare_formatDouble x).plainField
  parse_answer x _ := toDouble_shown x

instance parameterInt : Parameter Int where
  text := toText
  args n := [toText n]
  answer := toText
  parse := ScpiClient.toInt
  seen := id
  Fits := FitsInt
  whole n := (bare_toText n).whole
  plain n := (bare_toText n).plain
  argumentsOf_text n := argumentsOf_plainField (bare_toText n).plainField
  parse_answer _ := toInt_small

instance parameterBool : Parameter Bool where
  text := formatOn
  args on := [formatOn on]
  answer := formatBool
  parse := toBool
  seen := id
  Fits _ := True
  whole on := (bare_formatOn on).whole
  plain on := (bare_formatOn on).plain
  argumentsOf_text on := argumentsOf_plainField (bare_formatOn on).plainField
  parse_answer on _ := by cases on <;> decide

abbrev Keyword.parameter (keyword : Keyword) : Parameter keyword.Value where
  text := keyword.toScpi
  args value := [keyword.toScpi value]
  answer := shortForm keyword.offered
  parse := keyword.parse
  seen := id
  Fits _ := True
  whole value := (bare_keyword keyword value).whole
  plain value := (bare_keyword keyword value).plain
  argumentsOf_text value := argumentsOf_plainField (bare_keyword keyword value).plainField
  parse_answer value _ := keyword.parse_shortForm value

instance parameterCoupling : Parameter Coupling := Keyword.parameter .coupling
instance parameterShunt : Parameter Shunt := Keyword.parameter .shunt
instance parameterSlope : Parameter Slope := Keyword.parameter .slope
instance parameterLevelUnit : Parameter LevelUnit := Keyword.parameter .levelUnit
instance parameterByteOrder : Parameter ByteOrder := Keyword.parameter .byteOrder
instance parameterKeyLock : Parameter KeyLock := Keyword.parameter .keyLock
instance parameterTransformMode : Parameter TransformMode := Keyword.parameter .transformMode
instance parameterGrouping : Parameter HarmonicGrouping := Keyword.parameter .harmonicGrouping
instance parameterCorrection : Parameter PowerCorrection := Keyword.parameter .powerCorrection
instance parameterStart : Parameter IntegralStartSource := Keyword.parameter .integralStartSource
instance parameterStop : Parameter IntegralStopSource := Keyword.parameter .integralStopSource

def wiringText (system : WiringSystem) : Text :=
  if system = .twoWattmeter then "\"2W\"" else "\"3W\""

instance parameterWiring : Parameter WiringSystem where
  text := wiringText
  args system := [wiringText system]
  answer := wiringText
  parse := NormaInstrument.parseWiringSystem
  seen := id
  Fits _ := True
  whole system := by
    unfold Whole
    cases system <;> decide
  plain system := by cases system <;> decide
  argumentsOf_text system := by cases system <;> decide
  parse_answer system _ := by cases system <;> decide

theorem ints_texts (values : List Int) : ∀ field ∈ values.map toText, ∃ n, field = toText n := by
  intro field hfield
  obtain ⟨n, -, rfl⟩ := List.mem_map.mp hfield
  exact ⟨n, rfl⟩

theorem threeInts_join (what : Text) {x y z : Int} (hx : FitsInt x) (hy : FitsInt y)
    (hz : FitsInt z) : threeInts what (joinInts [x, y, z]) = .ok (x, y, z) := by
  rw [threeInts, joinInts, splitCsv_join (integers_plain (ints_texts _))]
  simp only [List.map_cons, toInt_small hx, toInt_small hy, toInt_small hz]
  rfl

section Ints

variable (values : List Int)

theorem whole_joinInts : Whole ';' (joinInts values) :=
  (join_integers (ints_texts values)).unquoted.whole_iff.mpr
    (join_integers (ints_texts values)).semicolon

theorem plain_joinInts : hasLineTerminator (joinInts values) = false :=
  spaceless_plain (join_integers (ints_texts values)).spaceless

end Ints

instance parameterDate : Parameter Date where
  text date := joinInts [date.year, date.month, date.day]
  args date := [toText date.year, toText date.month, toText date.day]
  answer date := joinInts [date.year, date.month, date.day]
  parse := NormaInstrument.parseDate
  seen := id
  Fits date := FitsInt date.year ∧ FitsInt date.month ∧ FitsInt date.day
  whole _ := whole_joinInts _
  plain _ := plain_joinInts _
  argumentsOf_text _ := argumentsOf_join (ints_texts _)
  parse_answer date h := by
    rw [NormaInstrument.parseDate, threeInts_join _ h.1 h.2.1 h.2.2]
    rfl

instance parameterTime : Parameter Time where
  text time := joinInts [time.hours, time.minutes, time.seconds]
  args time := [toText time.hours, toText time.minutes, toText time.seconds]
  answer time := joinInts [time.hours, time.minutes, time.seconds]
  parse := NormaInstrument.parseTime
  seen := id
  Fits time := FitsInt time.hours ∧ FitsInt time.minutes ∧ FitsInt time.seconds
  whole _ := whole_joinInts _
  plain _ := plain_joinInts _
  argumentsOf_text _ := argumentsOf_join (ints_texts _)
  parse_answer time h := by
    rw [NormaInstrument.parseTime, threeInts_join _ h.1 h.2.1 h.2.2]
    rfl

end Instances

end Norma
