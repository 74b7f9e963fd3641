import Norma.EventLatch

namespace Norma

def isPlainChar (c : Char) : Bool := !isQuote c && c != ';'

def Plain (text : Text) : Prop := text.all isPlainChar = true

instance (text : Text) : Decidable (Plain text) := inferInstanceAs (Decidable (_ = true))

-- Standing between semicolons, the text is read back in one piece.
structure Tidy (text : Text) : Prop where
  whole : Whole ';' text
  closed : quoteAfter text = none

namespace Plain

variable {s t : Text}

theorem of_chars (h : ∀ c ∈ s, isPlainChar c = true) : Plain s := List.all_eq_true.mpr h

theorem chars (h : Plain s) : ∀ c ∈ s, isPlainChar c = true := List.all_eq_true.mp h

theorem unquoted (h : Plain s) : Unquoted s := by
  intro c hc
  have hplain := h.chars c hc
  simp only [isPlainChar, Bool.and_eq_true, Bool.not_eq_true'] at hplain
  exact hplain.1

theorem semicolon (h : Plain s) : ';' ∉ s := fun hmem => absurd (h.chars _ hmem) (by decide)

theorem tidy (h : Plain s) : Tidy s :=
  ⟨h.unquoted.whole_iff.mpr h.semicolon, h.unquoted.quoteAfter⟩

theorem doubleQuote (h : Plain s) : '"' ∉ s := fun hmem => absurd (h.chars _ hmem) (by decide)

theorem append (hs : Plain s) (ht : Plain t) : Plain (s ++ t) := by
  simp only [Plain, List.all_append, Bool.and_eq_true]
  exact ⟨hs, ht⟩

theorem of_settingChars (h : ∀ c ∈ s, CNumber.isSettingChar c = true) : Plain s := by
  refine of_chars fun c hc => ?_
  have hchar := h c hc
  rw [isPlainChar, isQuote, Bool.and_eq_true, Bool.not_eq_true', Bool.or_eq_false_iff]
  refine ⟨⟨?_, ?_⟩, ?_⟩
  · rw [beq_eq_false_iff_ne]
    rintro rfl
    cases hchar
  · rw [beq_eq_false_iff_ne]
    rintro rfl
    cases hchar
  · rw [bne_iff_ne]
    rintro rfl
    cases hchar

theorem of_numberChars (h : ∀ c ∈ s, CNumber.isNumberChar c = true) : Plain s :=
  of_settingChars fun c hc => CNumber.isSettingChar_of_isNumberChar (h c hc)

theorem toText (n : Int) : Plain (toText n) := of_numberChars (CNumber.decimal_chars n)

theorem formatSetting (x : Float) : Plain (formatSetting x) :=
  of_settingChars (formatSetting_chars x)

theorem formatBool (value : Bool) : Plain (formatBool value) := by
  cases value <;> rfl

theorem formatValue (state : State) (x : Float) : Plain (formatValue state x) := by
  unfold Norma.formatValue
  split
  · exact of_numberChars (CNumber.printE_chars _ _)
  · split
    · exact of_numberChars fun c hc => CNumber.printE_chars _ _ c (List.mem_of_mem_take hc)
    · exact of_numberChars (CNumber.printE_chars _ _)

theorem formatText (format : DataFormat) : Plain (formatText format) := by
  cases format <;> decide

theorem binaryBlock (count : Nat) : Plain (binaryBlock count) := by
  have hzeros : Plain (List.replicate (count * 8) '\x00') :=
    of_chars fun c hc => by rw [(List.mem_replicate.mp hc).2]; rfl
  have hmark : Plain ['#'] := by decide
  exact hmark.append (((toText _).append (toText _)).append hzeros)

end Plain

namespace Tidy

variable {s t : Text} {values : List Text}

theorem append (hs : Tidy s) (ht : Tidy t) : Tidy (s ++ t) := by
  refine ⟨(Whole.append_iff hs.closed).mpr ⟨hs.whole, ht.whole⟩, ?_⟩
  rw [quoteAfter_append, hs.closed]
  exact ht.closed

theorem nil : Tidy [] := Plain.tidy rfl

theorem quote (h : '"' ∉ s) : Tidy (quote s) := ⟨whole_quote h, quoteAfter_quote h⟩

theorem flatten (h : ∀ value ∈ values, Tidy value) : Tidy values.flatten := by
  induction values with
  | nil => exact nil
  | cons value values ih =>
    exact (h value (by simp)).append (ih fun next hnext => h next (by simp [hnext]))

theorem comma (h : Tidy s) : Tidy (',' :: s) := by
  have hcomma : Plain [','] := by decide
  exact hcomma.tidy.append h

theorem joinCommas (h : ∀ value ∈ values, Tidy value) : Tidy (join ',' values) := by
  cases values with
  | nil => exact nil
  | cons value values =>
    rw [join_cons]
    refine (h value (by simp)).append (flatten fun text htext => ?_)
    obtain ⟨next, hnext, rfl⟩ := List.mem_map.mp htext
    exact (h next (by simp [hnext])).comma

theorem quoteJoin (h : ∀ value ∈ values, '"' ∉ value) : Tidy (quoteJoin values) := by
  refine joinCommas fun text htext => ?_
  obtain ⟨value, hvalue, rfl⟩ := List.mem_map.mp htext
  exact quote (h value hvalue)

theorem joinValues (values : List Float) : Tidy (joinValues values) := by
  refine joinCommas fun text htext => ?_
  obtain ⟨value, -, rfl⟩ := List.mem_map.mp htext
  exact (Plain.formatSetting value).tidy

theorem errorText {entry : ScpiErrorInfo} (h : '"' ∉ entry.message) : Tidy (errorText entry) := by
  have hcomma : Plain ("," : Text) := by decide
  exact ((Plain.toText _).append hcomma).tidy.append (quote h)

theorem quoteJoin_inner {names : List Text} (hne : names ≠ []) (h : ∀ name ∈ names, Plain name) :
    ∃ inner, Norma.quoteJoin names = Norma.quote inner ∧ Tidy inner := by
  induction names with
  | nil => exact absurd rfl hne
  | cons name names ih =>
    have hname := (h name (by simp)).tidy
    by_cases hnil : names = []
    · exact ⟨name, by simp [hnil, Norma.quoteJoin, join], hname⟩
    · obtain ⟨inner, hinner, htidy⟩ := ih hnil fun next hnext => h next (by simp [hnext])
      have hcomma : Tidy (Norma.quote [',']) := quote (by decide)
      refine ⟨name ++ Norma.quote [','] ++ inner, ?_, (hname.append hcomma).append htidy⟩
      rw [quoteJoin_cons name hnil, hinner]
      simp [Norma.quote]

-- The quotes nest: the names stand outside of them, and what follows stands inside again.
theorem learn {names : List Text} (h : ∀ name ∈ names, Plain name) {rest : Text}
    (hrest : '"' ∉ rest) :
    Tidy (Norma.quote ("FUNC " ++ Norma.quoteJoin names ++ ";APER " ++ rest)) := by
  have htail : '"' ∉ (";APER " ++ rest : Text) := by
    simp only [List.mem_append, not_or]
    exact ⟨by decide, hrest⟩
  by_cases hne : names = []
  · subst hne
    refine quote ?_
    have hnone : Norma.quoteJoin [] = [] := rfl
    rw [hnone, List.append_nil, List.append_assoc]
    simp only [List.mem_append, not_or] at htail ⊢
    exact ⟨by decide, htail⟩
  · obtain ⟨inner, hinner, htidy⟩ := quoteJoin_inner hne h
    have hhead : Tidy (Norma.quote "FUNC ") := quote (by decide)
    have hsplit : Norma.quote ("FUNC " ++ Norma.quoteJoin names ++ ";APER " ++ rest) =
        Norma.quote "FUNC " ++ inner ++ Norma.quote (";APER " ++ rest) := by
      rw [hinner]
      simp [Norma.quote]
    rw [hsplit]
    exact (hhead.append htidy).append (quote htail)

end Tidy

structure SimulatorOptions.Plain (options : SimulatorOptions) : Prop where
  manufacturer : Norma.Plain options.identification.manufacturer
  model : Norma.Plain options.identification.model
  serialNumber : Norma.Plain options.identification.serialNumber
  firmwareVersion : Norma.Plain options.identification.firmwareVersion
  scpiVersion : Norma.Plain options.scpiVersion
  optionsResponse : Norma.Plain options.optionsResponse

-- What is answered without quotes has none and no semicolon; what is answered in quotes has none.
structure SimulatorState.Plain (state : State) : Prop where
  triggerStartSource : Norma.Plain state.triggerStartSource
  triggerStopSource : Norma.Plain state.triggerStopSource
  functions : ∀ name ∈ state.functions, Norma.Plain name
  language : '"' ∉ state.language
  efficiencyInput : '"' ∉ state.efficiencyInput
  efficiencyOutput : '"' ∉ state.efficiencyOutput
  transformFunctions : ∀ name ∈ state.transformFunctions, '"' ∉ name
  integralFunctions : ∀ name ∈ state.integralFunctions, '"' ∉ name
  displayFunctions : ∀ name ∈ state.displayFunctions, '"' ∉ name
  sweep : ∀ block, ∀ name ∈ (state.sweep block).functions, '"' ∉ name
  errors : ∀ entry ∈ state.errors, '"' ∉ entry.message

structure NormaSimulator.Plain (sim : NormaSimulator) : Prop where
  options : sim.options.Plain
  state : sim.state.Plain
  syncSource : Norma.Plain sim.state.syncSource

inductive Tidied (a : Access) (b : Access) : Prop where
  | silent (h : b.command.response = a.command.response)
  | answered (text : Text) (h : b.command.response = some text) (htidy : a.sim.Plain → Tidy text)

namespace Tidied

variable {a b c : Access}

theorem respond {text : Text} (htidy : a.sim.Plain → Tidy text) : Tidied a (a.respond text) :=
  .answered text rfl htidy

theorem plain {text : Text} (h : Plain text) : Tidied a (a.respond text) :=
  .respond fun _ => h.tidy

theorem ite {p : Prop} [Decidable p] (hyes : Tidied a b) (hno : Tidied a c) :
    Tidied a (if p then b else c) := by
  split
  · exact hyes
  · exact hno

theorem answerOr {text : Text} (htidy : a.sim.Plain → Tidy text) (h : Tidied a b) :
    Tidied a (if a.command.query then a.respond text else b) :=
  .ite (.respond htidy) h

theorem parameter {body : Text → Access} (hbody : ∀ text, Tidied a (body text)) :
    Tidied a (a.parameter body) := by
  unfold Access.parameter
  split
  · exact .silent rfl
  · exact hbody _

theorem queryOnly (h : Tidied a b) : Tidied a (a.queryOnly b) := .ite h (.silent rfl)

theorem commandOnly (h : Tidied a b) : Tidied a (a.commandOnly b) := .ite (.silent rfl) h

theorem number (f : Setting Float) (min max : Float) : Tidied a (a.number f min max) := by
  refine .answerOr (fun _ => (Plain.formatSetting _).tidy) (.parameter fun text => ?_)
  split
  · exact .silent rfl
  · exact .ite (.silent rfl) (.silent rfl)

theorem readInteger (min max : Int) {body : Int → Access} (hbody : ∀ value, Tidied a (body value)) :
    Tidied a (a.readInteger min max body) := by
  refine .parameter fun text => ?_
  split
  · exact .silent rfl
  · exact .ite (.silent rfl) (hbody _)

theorem integer (f : Setting Int) (min max : Int) : Tidied a (a.integer f min max) :=
  .answerOr (fun _ => (Plain.toText _).tidy) (.readInteger min max fun _ => .silent rfl)

theorem boolean (f : Setting Bool) : Tidied a (a.boolean f) := by
  refine .answerOr (fun _ => (Plain.formatBool _).tidy) (.parameter fun text => ?_)
  split <;> exact .silent rfl

theorem keyword {A : Type} [DecidableEq A] (f : Setting A) {spellings : List (A × List Text)}
    (hspellings : spellings.all (fun s => (s.2.headD []).all isPlainChar) = true) :
    Tidied a (a.keyword f spellings) := by
  refine .answerOr (fun _ => ?_) (.parameter fun text => ?_)
  · cases hfind : spellings.find? (·.1 = a.read f) with
    | none => exact .nil
    | some spelling =>
      exact Plain.tidy (List.all_eq_true.mp hspellings spelling (List.mem_of_find?_eq_some hfind))
  · split <;> exact .silent rfl

theorem readFunctionList {body : List Text → Access} (hbody : ∀ names, Tidied a (body names)) :
    Tidied a (a.readFunctionList id body) := by
  unfold Access.readFunctionList
  split
  · exact .silent rfl
  · split
    · exact .silent rfl
    · exact hbody _

theorem functionList (f : Setting (List Text))
    (hnames : a.sim.Plain → ∀ name ∈ f.get a.sim.state, '"' ∉ name) :
    Tidied a (a.functionList f) :=
  .answerOr (fun h => .quoteJoin (hnames h)) (.readFunctionList fun _ => .silent rfl)

theorem range (config : Setting (ChannelConfig Float)) (ranges : Ranges) :
    Tidied a (a.range config ranges) := by
  refine .answerOr (fun _ => (Plain.formatSetting _).tidy) (.parameter fun text => ?_)
  split
  · exact .silent rfl
  · exact .ite (.silent rfl) (.silent rfl)

theorem functions : Tidied a a.functions :=
  .answerOr (fun h => .quoteJoin fun name hname => (h.state.functions name hname).doubleQuote)
    (.readFunctionList fun _ => .ite (.silent rfl) (.silent rfl))

theorem concurrent : Tidied a a.concurrent := by
  have hboolean : Tidied a (a.boolean .concurrent) := .boolean .concurrent
  unfold Access.concurrent
  dsimp only
  generalize a.boolean .concurrent = b at hboolean
  refine .ite ?_ hboolean
  cases hboolean with
  | silent h => exact .silent h
  | answered text h htidy => exact .answered text h htidy

theorem syncFilterFrequency : Tidied a a.syncFilterFrequency := by
  refine .answerOr (fun _ => (Plain.formatSetting _).tidy) (.parameter fun text => ?_)
  split
  · exact .silent rfl
  · split <;> exact .silent rfl

theorem triggerSource (f : Setting Text) (htext : a.sim.Plain → Plain (f.get a.sim.state)) :
    Tidied a (a.triggerSource f) :=
  .answerOr (fun h => (htext h).tidy) (.parameter fun _ => .silent rfl)

theorem startSequence (block : Int) : Tidied a (a.startSequence block) :=
  .commandOnly (.ite (.silent rfl) (.silent rfl))

theorem timestamp : Tidied a a.timestamp := .commandOnly (.ite (.silent rfl) (.silent rfl))

theorem format (setting other : Setting DataFormatSetting) (fallback : DataFormat) :
    Tidied a (a.format setting other fallback) := by
  have hcomma : Plain ("," : Text) := by decide
  refine .answerOr
    (fun _ => (((Plain.formatText _).append hcomma).append (Plain.toText _)).tidy)
    (.parameter fun text => ?_)
  split
  · exact .silent rfl
  · split
    · exact .silent rfl
    · split <;> exact .silent rfl

theorem operationComplete : Tidied a a.operationComplete := .ite (.plain (by decide)) (.silent rfl)

theorem saveSetup : Tidied a a.saveSetup := .readInteger 10 24 fun _ => .silent rfl

theorem recallSetup : Tidied a a.recallSetup :=
  .readInteger 1 24 fun _ => .ite (.silent rfl) (.silent rfl)

theorem identification : Tidied a a.identification := by
  refine .respond fun h => .joinCommas fun value hvalue => ?_
  simp only [List.mem_cons, List.not_mem_nil, or_false] at hvalue
  rcases hvalue with rfl | rfl | rfl | rfl
  · exact h.options.manufacturer.tidy
  · exact h.options.model.tidy
  · exact h.options.serialNumber.tidy
  · exact h.options.firmwareVersion.tidy

theorem learn : Tidied a a.learn :=
  .respond fun h => .learn h.state.functions (Plain.formatSetting _).doubleQuote

theorem integers (values : List Int) : Tidy (join ',' (values.map toText)) := by
  refine .joinCommas fun text htext => ?_
  obtain ⟨value, -, rfl⟩ := List.mem_map.mp htext
  exact (Plain.toText value).tidy

theorem date : Tidied a a.date := by
  refine .answerOr (fun _ => integers [_, _, _]) ?_
  split
  · split
    · exact .ite (.silent rfl) (.silent rfl)
    · exact .silent rfl
  · exact .silent rfl

theorem time : Tidied a a.time := by
  refine .answerOr (fun _ => integers [_, _, _]) ?_
  split
  · split
    · exact .ite (.silent rfl) (.silent rfl)
    · exact .silent rfl
  · exact .silent rfl

theorem nextError : Tidied a a.nextError := by
  unfold Access.nextError
  split
  · exact .respond fun _ => ⟨by unfold Whole; decide +kernel, by decide +kernel⟩
  · next entry rest herrors =>
    exact .answered _ rfl fun h => .errorText (h.state.errors entry (by simp [herrors]))

theorem allErrors : Tidied a a.allErrors := by
  unfold Access.allErrors
  split
  · exact .respond fun _ => ⟨by unfold Whole; decide +kernel, by decide +kernel⟩
  · refine .answered _ rfl fun h => .joinCommas fun text htext => ?_
    obtain ⟨entry, hentry, rfl⟩ := List.mem_map.mp htext
    exact .errorText (h.state.errors entry hentry)

theorem transformOnce : Tidied a a.transformOnce :=
  .ite (.silent rfl) (.parameter fun _ => .ite (.silent rfl) (.silent rfl))

theorem cycles : Tidied a a.cycles :=
  .answerOr (fun _ => (Plain.toText _).tidy)
    (.readInteger 4 12 fun _ => .ite (.silent rfl) (.silent rfl))

theorem transformPreamble : Tidied a a.transformPreamble := by
  refine .queryOnly (.respond fun _ => .joinCommas fun text htext => ?_)
  simp only [List.mem_cons, List.not_mem_nil, or_false] at htext
  rcases htext with rfl | rfl | rfl | rfl
  · exact (Plain.toText _).tidy
  · exact (Plain.toText _).tidy
  · exact (Plain.formatSetting _).tidy
  · exact (Plain.formatSetting _).tidy

theorem transformThd : Tidied a a.transformThd :=
  .queryOnly (.ite (.silent rfl) (.respond fun _ => .joinValues _))

theorem integralStart : Tidied a a.integralStart :=
  .commandOnly (.ite (.silent rfl) (.silent rfl))

theorem efficiencyReference : Tidied a a.efficiencyReference := by
  have hcomma : Plain ("," : Text) := by decide
  refine .ite (.silent rfl) (.answerOr (fun h => ?_) ?_)
  · exact ((Tidy.quote h.state.efficiencyInput).append hcomma.tidy).append
      (.quote h.state.efficiencyOutput)
  · split <;> exact .silent rfl

theorem registerPart (reg : StatusRegister) (part : RegisterPart) :
    Tidied a (a.registerPart reg part) := by
  cases part with
  | condition => exact .queryOnly (.plain (.toText _))
  | event => exact .queryOnly (.answered _ rfl fun _ => (Plain.toText _).tidy)
  | enable => exact .integer _ 0 65535
  | positiveTransition => exact .integer _ 0 65535
  | negativeTransition => exact .integer _ 0 65535

end Tidied

inductive Handled.Tidied (a : Access) : Handled → Prop where
  | declined : Tidied a .declined
  | done {b : Access} (h : Norma.Tidied a b) : Tidied a (.done b)
  | crashes : Tidied a .crashes

namespace Handled.Tidied

variable {a : Access} {first second : Handled}

theorem orElse (hfirst : first.Tidied a) (hsecond : second.Tidied a) :
    (first.orElse second).Tidied a := by
  cases hfirst with
  | declined => exact hsecond
  | done h => exact .done h
  | crashes => exact .crashes

theorem ite {p : Prop} [Decidable p] (hyes : first.Tidied a) (hno : second.Tidied a) :
    (if p then first else second).Tidied a := by
  split
  · exact hyes
  · exact hno

theorem when {p : Prop} [Decidable p] {b : Access} (h : Norma.Tidied a b)
    (hno : second.Tidied a) : (if p then .done b else second).Tidied a :=
  .ite (.done h) hno

theorem ofResult {A : Type} {result : Option A} {body : A → Handled}
    (hbody : ∀ value, result = some value → (body value).Tidied a) :
    (Handled.ofResult result body).Tidied a := by
  cases result with
  | none => exact .crashes
  | some value => exact hbody value rfl

end Handled.Tidied

section Handlers

variable {a : Access}

theorem measurementResponse_tidy {state : State} {signal : SimulatedSignal Float}
    {functions : List Text} {withStatus : Bool} {response : Text}
    (h : measurementResponse state signal functions withStatus = some response) :
    Tidy response := by
  unfold measurementResponse at h
  split at h
  · cases h
    exact .nil
  · split at h
    · cases h
      exact (Plain.binaryBlock _).tidy
    · obtain ⟨measurements, -, rfl⟩ := Option.map_eq_some_iff.mp h
      refine Tidy.append (.joinCommas fun text htext => ?_) ?_
      · obtain ⟨m, -, rfl⟩ := List.mem_map.mp htext
        exact (Plain.formatValue _ _).tidy
      · split
        · refine .flatten fun text htext => ?_
          obtain ⟨status, hstatus, rfl⟩ := List.mem_map.mp htext
          obtain ⟨m, -, rfl⟩ := List.mem_map.mp hstatus
          exact (Plain.toText _).tidy.comma
        · exact .nil

theorem data_tidied (withStatus : Bool) : (a.data withStatus).Tidied a := by
  refine .ite (.done (.queryOnly (.silent rfl))) <| .ite
    (.ofResult fun response h => .done (.respond fun _ => measurementResponse_tidy h)) <|
    .ite (.done (.silent rfl)) ?_
  split
  · exact .done (.silent rfl)
  · exact .ofResult fun response h => .done (.answered _ rfl fun _ => measurementResponse_tidy h)

theorem readWindow_tidied {firstArgument : Nat} {body : Window → Handled}
    (hbody : ∀ window, (body window).Tidied a) : (a.readWindow firstArgument body).Tidied a := by
  unfold Access.readWindow
  split
  · exact .done (.silent rfl)
  · exact hbody _

theorem windowed_tidied (source : List Float) (window : Window) {format : Float → Text}
    (hformat : ∀ value, Plain (format value)) : (a.windowed source window format).Tidied a := by
  refine .ofResult fun values _ => .done (.respond fun _ => .joinCommas fun text htext => ?_)
  obtain ⟨value, -, rfl⟩ := List.mem_map.mp htext
  exact (hformat value).tidy

theorem trace_tidied (status : Bool) (block : Fin 3) : (a.trace status block).Tidied a := by
  unfold Access.trace
  exact readWindow_tidied fun window => .ofResult fun _ _ =>
    .ite (windowed_tidied _ _ .formatSetting) (windowed_tidied _ _ (.formatValue _))

theorem traceBlock_tidied {body : Fin 3 → Handled} (hbody : ∀ block, (body block).Tidied a) :
    (a.traceBlock body).Tidied a := by
  unfold Access.traceBlock
  split
  · exact .done (.silent rfl)
  · split
    · exact .done (.silent rfl)
    · exact .ite (.done (.silent rfl)) (hbody _)

theorem tracePreamble_tidied (block : Fin 3) : Tidied a (a.tracePreamble block) := by
  refine .respond fun _ => .joinCommas fun text htext => ?_
  simp only [List.mem_cons, List.not_mem_nil, or_false] at htext
  rcases htext with rfl | rfl | rfl | rfl
  · exact (Plain.toText _).tidy
  · exact (Plain.toText _).tidy
  · exact (Plain.formatSetting _).tidy
  · exact (Plain.formatSetting _).tidy

theorem handleCommon_tidied (key : Text) : (handleCommon key a).Tidied a :=
  .when (.queryOnly .identification) <| .when (.commandOnly (.silent rfl)) <|
    .when (.commandOnly (.silent rfl)) <|
    .when (.queryOnly (.respond fun h => h.options.optionsResponse.tidy)) <|
    .when (.queryOnly .learn) <| .when .operationComplete <|
    .when (.commandOnly (.silent rfl)) <| .when (.commandOnly (.silent rfl)) <|
    .when (.integer _ 0 255) <|
    .when (.queryOnly (.answered _ rfl fun _ => (Plain.toText _).tidy)) <|
    .when (.integer _ 0 255) <|
    .when (.queryOnly (.answered _ rfl fun _ => (Plain.toText _).tidy)) <|
    .when (.commandOnly .saveSetup) <| .when (.commandOnly .recallSetup) .declined

variable (key : Key)

theorem handleRoute_tidied : (handleRoute key a).Tidied a := by
  refine .when (.answerOr (fun _ => ?_) (.parameter fun _ => .ite (.silent rfl)
    (.ite (.silent rfl) (.silent rfl)))) .declined
  split
  · exact @Tidy.quote "2W" (by decide)
  · exact @Tidy.quote "3W" (by decide)

theorem handleInput_tidied : (handleInput key a).Tidied a :=
  .ite .declined <| .ite (.done (.silent rfl)) <| .when (.keyword _ (by decide)) <|
    .when (.ite (.silent rfl) (.number _ _ _)) <|
    .when (.ite (.silent rfl) (.keyword _ (by decide))) <| .when (.boolean _) <|
    .when (.queryOnly (.plain (.formatSetting _))) .declined

theorem handleChannel_tidied : (handleChannel key a).Tidied a :=
  .ite (.done (.silent rfl)) <| .when (.range _ _) <| .when (.boolean _) <|
    .when (.queryOnly (.respond fun _ => .joinValues _)) <| .when (.number _ _ _) .declined

theorem handleSweep_tidied : (handleSweep key a).Tidied a :=
  .ite (.done (.silent rfl)) <| .when (.boolean _) <|
    .when (.ite (.silent rfl) (.number _ _ _)) <| .when (.number _ _ _) <|
    .when (.integer _ _ _) <| .when (.integer _ _ _) <|
    .when (.functionList _ fun h => h.state.sweep _) <|
    .when (.queryOnly (.plain (.toText _))) <|
    .when (.queryOnly (.plain (.toText _))) .declined

theorem handleSense_tidied : (handleSense key a).Tidied a :=
  .ite (handleChannel_tidied key) <| .when (.number _ _ _) <|
    .when (.queryOnly (.plain (.formatSetting _))) <| .when .functions <|
    .when (.commandOnly (.silent rfl)) <| .when (.commandOnly (.silent rfl)) <|
    .when .concurrent <| .when (.queryOnly (.plain (.toText _))) <|
    .ite (data_tidied _) <| .ite (handleSweep_tidied key) .declined

theorem handleSync_tidied : (handleSync key a).Tidied a := by
  refine .when (.boolean _) <| .when (.answerOr (fun h => h.syncSource.tidy) ?_) <|
    .when (.number _ _ _) <| .when (.keyword _ (by decide)) <| .when (.keyword _ (by decide)) <|
    .when (.boolean _) <| .when .syncFilterFrequency <| .when (.number _ _ _) .declined
  refine .parameter fun text => ?_
  split <;> exact .silent rfl

theorem handleAcquisition_tidied : (handleAcquisition key a).Tidied a :=
  .when (.boolean _) <| .when (.commandOnly (.silent rfl)) <| .when (.startSequence _) <|
    .when (.commandOnly (.silent rfl)) .declined

theorem handleTrigger_tidied : (handleTrigger key a).Tidied a :=
  .when (.triggerSource _ fun h => h.state.triggerStartSource) <|
    .when (.triggerSource _ fun h => h.state.triggerStopSource) <|
    .when (.number _ _ _) <| .when (.number _ _ _) <| .when (.keyword _ (by decide)) <|
    .when (.keyword _ (by decide)) <| .when .timestamp .declined

theorem handleCalculate_tidied : (handleCalculate key a).Tidied a :=
  .when .transformOnce <| .when (.keyword _ (by decide)) <|
    .when (.functionList _ fun h => h.state.transformFunctions) <| .when (.number _ _ _) <|
    .when (.number _ _ _) <| .when .cycles <| .when (.keyword _ (by decide)) <|
    .ite (.ite (.done (.queryOnly (.silent rfl)))
      (readWindow_tidied fun _ => windowed_tidied _ _ (.formatValue _))) <|
    .when .transformPreamble <| .when .transformThd <| .when (.boolean _) <|
    .when (.functionList _ fun h => h.state.integralFunctions) <|
    .when (.commandOnly (.silent rfl)) <| .when (.boolean _) <|
    .when (.keyword _ (by decide)) <| .when (.keyword _ (by decide)) <| .when .integralStart <|
    .when (.commandOnly (.silent rfl)) <| .when .timestamp <| .when (.number _ _ _) <|
    .when (.integer _ _ _) <| .when (.keyword _ (by decide)) <|
    .when .efficiencyReference .declined

theorem traceFree_tidied : a.traceFree.Tidied a :=
  .ite (.done (.queryOnly (.silent rfl))) (.ite (.done (.plain (.toText _))) .crashes)

theorem handleTrace_tidied : (handleTrace key a).Tidied a :=
  .ite traceFree_tidied <| .when (.queryOnly (.plain (.toText _))) <|
    .when (.commandOnly (.silent rfl)) <|
    .ite (.ite (.done (.queryOnly (.silent rfl))) (traceBlock_tidied fun block =>
      .ite (.done (tracePreamble_tidied block)) (trace_tidied _ block))) .declined

theorem handleFormat_tidied : (handleFormat key a).Tidied a :=
  .when (.format _ _ _) <| .when (.format _ _ _) <| .when (.keyword _ (by decide)) <|
    .when (.boolean _) .declined

theorem handleDisplayOutput_tidied : (handleDisplayOutput key a).Tidied a :=
  .when (.boolean _) <| .when (.functionList _ fun h => h.state.displayFunctions) <|
    .when (.ite (.silent rfl) (.boolean _)) .declined

theorem handleSystem_tidied : (handleSystem key a).Tidied a :=
  .when (.queryOnly (.respond fun h => h.options.scpiVersion.tidy)) <|
    .when (.queryOnly .nextError) <| .when (.queryOnly .allErrors) <|
    .when (.keyword _ (by decide)) <|
    .when (.answerOr (fun h => .quote h.state.language) (.parameter fun _ => .silent rfl)) <|
    .when .date <| .when .time <| .when (.integer _ _ _) <| .when (.integer _ _ _) .declined

theorem handleStatus_tidied : (handleStatus key a).Tidied a := by
  unfold handleStatus
  split
  · exact .declined
  · exact .done (.registerPart _ _)

theorem handleTimer_tidied : (handleTimer key a).Tidied a :=
  .when (.commandOnly (.silent rfl)) <| .when (.queryOnly (.plain (.formatSetting _))) <|
    .when (.silent rfl) .declined

theorem dispatch_tidied (a : Access) : (dispatch key a).Tidied a :=
  (handleRoute_tidied key).orElse <| (handleInput_tidied key).orElse <|
  (handleSense_tidied key).orElse <| (handleSync_tidied key).orElse <|
  (handleAcquisition_tidied key).orElse <| (handleTrigger_tidied key).orElse <|
  (handleCalculate_tidied key).orElse <| (handleTrace_tidied key).orElse <|
  (handleFormat_tidied key).orElse <| (handleDisplayOutput_tidied key).orElse <|
  (handleSystem_tidied key).orElse <| (handleStatus_tidied key).orElse <|
  handleTimer_tidied key

theorem execute_tidied {a b : Access} (h : execute key a = some b) : Tidied a b := by
  have htidied := dispatch_tidied key a
  unfold execute at h
  generalize dispatch key a = handled at h htidied
  cases htidied with
  | declined =>
    obtain rfl := Option.some.inj h
    exact .silent rfl
  | done hdone =>
    obtain rfl := Option.some.inj h
    exact hdone
  | crashes => cases h

theorem Tidied.outcome {b : Access} (h : Tidied a b) (hresponse : a.command.response = none)
    (hplain : a.sim.Plain) {text : Text} (htext : b.command.response = some text) :
    Tidy text := by
  cases h with
  | silent hsilent =>
    rw [hsilent, hresponse] at htext
    cases htext
  | answered answer hanswer htidy =>
    obtain rfl := Option.some.inj (hanswer.symm.trans htext)
    exact htidy hplain

theorem handleCommand_tidy {sim : NormaSimulator} {path : List Token} {text response : Text}
    {out : Outcome} (hplain : sim.Plain) (h : handleCommand sim path text = some out)
    (hresponse : out.response = some response) : Tidy response := by
  unfold handleCommand at h
  dsimp only at h
  split at h
  · unfold handleStar at h
    dsimp only at h
    have htidied := handleCommon_tidied (upper (parseCommand text).header)
      (a := ⟨sim, (parseCommand text).command [⟨upper (parseCommand text).header, 0, false⟩]
        (upper (parseCommand text).header) []⟩)
    generalize handleCommon _ _ = handled at h htidied
    cases htidied with
    | declined =>
      obtain rfl := Option.some.inj h
      cases hresponse
    | done hdone =>
      obtain rfl := Option.some.inj h
      exact hdone.outcome rfl hplain hresponse
    | crashes => cases h
  · unfold handleTree at h
    dsimp only at h
    split at h
    · obtain rfl := Option.some.inj h
      cases hresponse
    · obtain ⟨b, hb, rfl⟩ := Option.map_eq_some_iff.mp h
      exact (execute_tidied _ hb).outcome rfl hplain hresponse

end Handlers

end Norma
