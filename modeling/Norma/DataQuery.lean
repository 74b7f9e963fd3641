import Norma.Manual
import Norma.Lib.FloatInteger

namespace Norma

open ScpiClient
open FunctionList (sweepIndex)
open FloatOrder (unitsOfOne unitsOfOne_pos strtod_decimal lround_integer lt_iff)

section Window

variable {source values out : List Float} {count : Int} {step : Nat}

theorem applyWindow_go_length {fuel i : Nat}
    (h : applyWindow.go source count step fuel i out = some values) : out.length ≤ values.length := by
  induction fuel generalizing i out with
  | zero => cases h
  | succ fuel ih =>
    rw [applyWindow.go] at h
    split at h
    · cases h
      exact Nat.le_refl _
    · split at h
      · cases h
        exact Nat.le_refl _
      · split at h
        · cases h
        · split at h
          · have hlength := ih h
            rw [List.length_append, List.length_singleton] at hlength
            exact Nat.le_of_succ_le hlength
          · cases h

theorem applyWindow_nil {window : Window} : applyWindow source window = some [] ↔
    CNumber.toInt32 source.length ≤ max window.offset 0 := by
  have hfirst : ((max window.offset 0).toNat : Int) = max window.offset 0 := by omega
  rw [applyWindow, applyWindow.go, hfirst]
  split
  · next hend => simp [hend]
  · next hmore =>
    have hcount : ¬(0 < window.count ∧ window.count ≤ CNumber.toInt32 (([] : List Float).length)) := by
      have hzero : CNumber.toInt32 (([] : List Float).length) = 0 := rfl
      omega
    rw [if_neg hcount]
    refine iff_of_false (fun h => ?_) hmore
    split at h
    · cases h
    · split at h
      · have hlength := applyWindow_go_length h
        simp at hlength
      · cases h

end Window

section Arguments

def windowFields (count offset sparsing : Int) : List Text :=
  if count ≤ 0 then []
  else
    toText count :: ((if 0 < offset ∨ 0 < sparsing then [toText offset] else []) ++
      (if 0 < sparsing then [toText sparsing] else []))

def requestedWindow (count offset sparsing : Int) : Window :=
  if count ≤ 0 then ⟨0, 0, 0⟩ else ⟨count, max offset 0, max sparsing 0⟩

-- An offset below zero is only sent in front of a sparsing.
abbrev Rejected (count offset sparsing : Int) : Prop := 0 < count ∧ 0 < sparsing ∧ offset < 0

theorem dataArguments_eq (count offset sparsing : Int) : dataArguments count offset sparsing =
    if count ≤ 0 then [] else ' ' :: join ',' (windowFields count offset sparsing) := by
  unfold dataArguments windowFields
  by_cases hsparsing : 0 < sparsing
  · split <;> simp [hsparsing, join]
  · by_cases hoffset : 0 < offset
    · split <;> simp [hsparsing, hoffset, join]
    · split <;> simp [hsparsing, hoffset, join]

theorem traceArguments_eq (block : SweepBlock) (count offset sparsing : Int) :
    traceArguments block count offset sparsing =
      join ',' (traceBlock block :: windowFields count offset sparsing) := by
  have hcomma : literal "," = [','] := rfl
  unfold traceArguments windowFields
  by_cases hsparsing : 0 < sparsing
  · split <;> simp [hsparsing, join, hcomma]
  · by_cases hoffset : 0 < offset
    · split <;> simp [hsparsing, hoffset, join, hcomma]
    · split <;> simp [hsparsing, hoffset, join, hcomma]

-- The arguments of a data query hold nothing that a line is taken apart at.
def isArgumentChar (c : Char) : Bool := CNumber.isNumberChar c || c == ','

structure ArgumentText (text : Text) : Prop where
  unquoted : Unquoted text
  spaceless : Spaceless text
  semicolon : ';' ∉ text

theorem argumentText_of_chars {text : Text} (h : ∀ c ∈ text, isArgumentChar c = true) :
    ArgumentText text where
  unquoted c hc := by
    have hchar := h c hc
    rw [isQuote, Bool.or_eq_false_iff, beq_eq_false_iff_ne, beq_eq_false_iff_ne]
    constructor
    · rintro rfl
      cases hchar
    · rintro rfl
      cases hchar
  spaceless c hc := by
    have hchar := h c hc
    rw [isArgumentChar, Bool.or_eq_true, beq_iff_eq] at hchar
    rcases hchar with hnumber | rfl
    · exact CNumber.isSpace_of_isNumberChar hnumber
    · rfl
  semicolon hmem := by cases h ';' hmem

theorem join_chars {fields : List Text}
    (h : ∀ field ∈ fields, ∀ c ∈ field, CNumber.isNumberChar c = true) :
    ∀ c ∈ join ',' fields, isArgumentChar c = true :=
  forall_mem_join rfl fun field hfield c hc => by simp [isArgumentChar, h field hfield c hc]

theorem windowFields_integers {count offset sparsing : Int} {field : Text}
    (h : field ∈ windowFields count offset sparsing) : ∃ n, field = toText n := by
  unfold windowFields at h
  split at h
  · cases h
  · simp only [List.mem_cons, List.mem_append] at h
    rcases h with rfl | h | h
    · exact ⟨count, rfl⟩
    · split at h
      · exact ⟨offset, List.mem_singleton.mp h⟩
      · cases h
    · split at h
      · exact ⟨sparsing, List.mem_singleton.mp h⟩
      · cases h

theorem traceFields_integers {block : SweepBlock} {count offset sparsing : Int} {field : Text}
    (h : field ∈ traceBlock block :: windowFields count offset sparsing) :
    ∃ n, field = toText n := by
  rcases List.mem_cons.mp h with rfl | hmem
  · cases block with
    | block1 => exact ⟨1, rfl⟩
    | block2 => exact ⟨2, rfl⟩
  · exact windowFields_integers hmem

section Integers

variable {fields : List Text}

theorem integers_plain (h : ∀ field ∈ fields, ∃ n, field = toText n) :
    ∀ field ∈ fields, PlainField field := by
  intro field hfield
  obtain ⟨n, rfl⟩ := h field hfield
  exact plainField_toText n

theorem join_integers (h : ∀ field ∈ fields, ∃ n, field = toText n) :
    ArgumentText (join ',' fields) := by
  refine argumentText_of_chars (join_chars fun field hfield => ?_)
  obtain ⟨n, rfl⟩ := h field hfield
  exact CNumber.decimal_chars n

theorem argumentsOf_join (h : ∀ field ∈ fields, ∃ n, field = toText n) :
    argumentsOf (join ',' fields) = fields := by
  have hfields := splitCsv_join (integers_plain h)
  have htrim := trim_of_spaceless (join_integers h).spaceless
  rw [splitCsv, splitFields, htrim] at hfields
  rw [argumentsOf, htrim]
  exact hfields

end Integers

theorem parseNumber_toText (field : IntegerField) :
    ∃ x, parseNumber field.text = some x ∧ (x < 0 ↔ field.value < 0) ∧
      (0 ≤ field.value → toInt x = field.value) := by
  obtain ⟨n, hlow, hhigh⟩ := field
  obtain ⟨x, hx, hfinite, hvalue⟩ := strtod_decimal (n := n) (by omega) (by omega)
  have hzero : (0 : Float).isFinite = true ∧ FloatOrder.value 0 = 0 := by decide +kernel
  refine ⟨x, ?_, ?_, fun hnonneg => ?_⟩
  · rw [parseNumber, IntegerField.text, toText, CNumber.cstr_decimal, hx]
    rfl
  · rw [lt_iff hfinite hzero.1, hzero.2, hvalue]
    have hunit : (0 : Int) < unitsOfOne := Int.natCast_pos.mpr unitsOfOne_pos
    constructor
    · intro hneg
      by_contra hnonneg
      exact Int.not_lt.mpr (Int.mul_nonneg (Int.not_lt.mp hnonneg) hunit.le) hneg
    · exact fun hneg => Int.mul_neg_of_neg_of_pos hneg hunit
  · obtain ⟨k, rfl⟩ := Int.eq_ofNat_of_zero_le hnonneg
    rw [toInt, lround_integer hfinite hvalue (by omega)]
    exact CNumber.toInt32_eq_self hlow hhigh

theorem readCounts_field (field : IntegerField) (n : Nat) (args : List Text) :
    readCounts (n + 1) (field.text :: args) =
      if field.value < 0 then .error field.text
      else (readCounts n args).map (field.value :: ·) := by
  obtain ⟨x, hparse, hneg, hvalue⟩ := parseNumber_toText field
  have hne : field.text ≠ [] := CNumber.decimal_ne_nil _
  rw [readCounts, if_neg hne, hparse]
  by_cases h : field.value < 0
  · simp only [if_pos h, if_pos (hneg.mpr h)]
  · simp only [if_neg h, if_neg (mt hneg.mp h), hvalue (Int.not_lt.mp h)]

theorem readCounts_windowFields (count offset sparsing : IntegerField) :
    readCounts 3 (windowFields count.value offset.value sparsing.value) =
      if Rejected count.value offset.value sparsing.value then .error offset.text
      else
        let window := requestedWindow count.value offset.value sparsing.value
        .ok [window.count, window.offset, window.sparsing] := by
  unfold windowFields requestedWindow
  by_cases hcount : count.value ≤ 0
  · rw [if_pos hcount, if_neg (by omega), if_pos hcount]
    rfl
  · rw [if_neg hcount, if_neg hcount]
    have hfirst (args : List Text) :
        readCounts 3 (count.text :: args) = (readCounts 2 args).map (count.value :: ·) := by
      rw [readCounts_field, if_neg (by omega)]
    by_cases hsparsing : 0 < sparsing.value
    · have hfields : toText count.value :: ((if 0 < offset.value ∨ 0 < sparsing.value then
          [toText offset.value] else []) ++ (if 0 < sparsing.value then [toText sparsing.value]
          else [])) = [count.text, offset.text, sparsing.text] := by
        rw [if_pos (.inr hsparsing), if_pos hsparsing]
        rfl
      rw [hfields, hfirst, readCounts_field, readCounts_field,
        if_neg (show ¬sparsing.value < 0 by omega)]
      by_cases hoffset : offset.value < 0
      · rw [if_pos hoffset, if_pos ⟨by omega, hsparsing, hoffset⟩]
        rfl
      · rw [if_neg hoffset, if_neg (by omega), Int.max_eq_left (by omega),
          Int.max_eq_left (by omega)]
        rfl
    · rw [if_neg (show ¬Rejected count.value offset.value sparsing.value by omega),
        if_neg hsparsing, Int.max_eq_right (show sparsing.value ≤ 0 by omega)]
      by_cases hoffset : 0 < offset.value
      · rw [if_pos (.inl hoffset), Int.max_eq_left (by omega)]
        change readCounts 3 [count.text, offset.text] = _
        rw [hfirst, readCounts_field, if_neg (by omega)]
        rfl
      · rw [if_neg (by omega), Int.max_eq_right (by omega)]
        change readCounts 3 [count.text] = _
        rw [hfirst]
        rfl

end Arguments

section Simulator

variable (sim : NormaSimulator) (block : SweepBlock) (count offset sparsing : IntegerField)

def shown (sim : NormaSimulator) (values : List Float) : Text :=
  join ',' (values.map (formatValue sim.state))

def tracedFunctions (state : State) (block : SweepBlock) : List Text :=
  let sweep := state.sweep (sweepIndex block)
  if sweep.functions = [] then state.functions else sweep.functions

def tracedValues (sim : NormaSimulator) (block : SweepBlock) : Option (List Float) :=
  (measureAll sim.state sim.signal (tracedFunctions sim.state block)).map fun measurements =>
    measurements.flatMap (recordedValues (tracePoints sim.state).toNat)

variable {sim block count offset sparsing}

inductive Handled.Returns : Handled → Option Access → Prop where
  | done (a : Access) : Returns (.done a) (some a)
  | crashes : Returns .crashes none

theorem execute_calcData {a : Access} {result : Option Access}
    (hreturns : a.transformData.Returns result) : execute .calcData a = result := by
  have hcalculate : handleCalculate .calcData a = a.transformData := rfl
  rw [execute, dispatch, hcalculate]
  generalize a.transformData = handled at hreturns
  cases hreturns <;> rfl

theorem execute_trac {a : Access} {result : Option Access} (hquery : a.command.query = true)
    (hreturns : (a.traceBlock fun block => a.trace false block).Returns result) :
    execute .trac a = result := by
  have htrace : handleTrace .trac a = a.traceBlock fun block => a.trace false block := by
    have hnone : (!a.command.query) = false := by rw [hquery]; rfl
    simp [handleTrace, hnone]
  rw [execute, dispatch, htrace]
  generalize (a.traceBlock fun block => a.trace false block) = handled at hreturns
  cases hreturns <;> rfl

theorem windowed_returns (a : Access) (source : List Float) (window : Window)
    (format : Float → Text) : (a.windowed source window format).Returns
      ((applyWindow source window).map fun values => a.respond (join ',' (values.map format))) := by
  rw [Access.windowed]
  cases applyWindow source window with
  | none => exact .crashes
  | some values => exact .done _

-- Stated without a composition, which would be unfolded down to the printed numbers.
theorem map_bind_map {A B C D : Type} (result : Option A) (g : A → B) (h : B → Option C)
    (k : C → D) : ((result.map g).bind h).map k = result.bind fun value => (h (g value)).map k := by
  cases result <;> rfl

theorem ofResult_returns {A : Type} {result : Option A} {body : A → Handled}
    {after : A → Option Access} (h : ∀ value, (body value).Returns (after value)) :
    (Handled.ofResult result body).Returns (result.bind after) := by
  cases result with
  | none => exact .crashes
  | some value => exact h value

theorem readWindow_sent {a : Access} {firstArgument : Nat} {body : Window → Handled}
    (hargs : a.command.args.drop firstArgument =
      windowFields count.value offset.value sparsing.value) :
    a.readWindow firstArgument body =
      if Rejected count.value offset.value sparsing.value then .done (a.illegal offset.text)
      else body (requestedWindow count.value offset.value sparsing.value) := by
  rw [Access.readWindow, hargs, readCounts_windowFields]
  by_cases hrejected : Rejected count.value offset.value sparsing.value
  · rw [if_pos hrejected, if_pos hrejected]
  · rw [if_neg hrejected, if_neg hrejected]
    rfl

theorem handleLine_calcData (hrejected : ¬Rejected count.value offset.value sparsing.value) :
    sim.handleLine ("CALC:DATA?" ++ dataArguments count.value offset.value sparsing.value) =
      (applyWindow (Access.spectrum sim.signal)
        (requestedWindow count.value offset.value sparsing.value)).map fun values =>
          (sim, some (shown sim values)) := by
  have hmem : (("CALC:DATA" : Text), Key.calcData, ([] : List Int)) ∈ knownHeaders := by
    simp [knownHeaders]
  have hexecute (args : List Text)
      (hargs : args = windowFields count.value offset.value sparsing.value) :
      execute .calcData (received sim ⟨"CALC:DATA", true, args⟩ .calcData []) =
        (applyWindow (Access.spectrum sim.signal)
          (requestedWindow count.value offset.value sparsing.value)).map fun values =>
            (received sim ⟨"CALC:DATA", true, args⟩ .calcData []).respond (shown sim values) := by
    refine execute_calcData ?_
    have hquery : (received sim ⟨"CALC:DATA", true, args⟩ .calcData []).command.query = true := rfl
    rw [Access.transformData, if_neg (by simp [hquery]), readWindow_sent (show
      (received sim ⟨"CALC:DATA", true, args⟩ .calcData []).command.args.drop 0 = _ from hargs),
      if_neg hrejected]
    exact windowed_returns _ _ _ _
  rw [dataArguments_eq]
  by_cases hcount : count.value ≤ 0
  · rw [if_pos hcount, List.append_nil]
    refine (handleLine_query hmem sim).trans ?_
    rw [hexecute [] (by rw [windowFields, if_pos hcount]), Option.map_map]
    rfl
  · have hfields : ∀ field ∈ windowFields count.value offset.value sparsing.value,
        ∃ n, field = toText n := fun field hfield => windowFields_integers hfield
    have htext := join_integers hfields
    rw [if_neg hcount]
    refine (handleLine_request hmem sim (htext.unquoted.whole_iff.mpr htext.semicolon)).trans ?_
    rw [argumentsOf_join hfields, hexecute _ rfl, Option.map_map]
    rfl

theorem traceBlock_sent {a : Access} {rest : List Text} {body : Fin 3 → Handled}
    (hargs : a.command.args = traceBlock block :: rest) :
    a.traceBlock body = body (sweepIndex block) := by
  have hparse : (parseNumber (traceBlock block)).map
      (fun number => (number != 1 && number != 2, number == 1)) =
        some (false, decide (sweepIndex block = 1)) := by
    cases block <;> decide +kernel
  obtain ⟨number, hnumber, hpair⟩ := Option.map_eq_some_iff.mp hparse
  rw [Prod.mk.injEq] at hpair
  rw [Access.traceBlock, hargs]
  simp only [hnumber, hpair.1, hpair.2]
  cases block <;> rfl

theorem trace_window_returns {a : Access} {window : Window}
    (hwindow : ∀ body, a.readWindow 1 body = body window) :
    (a.trace false (sweepIndex block)).Returns
      (((tracedValues a.sim block).bind fun source => applyWindow source window).map
        fun values => a.respond (shown a.sim values)) := by
  have hfunctions : (if (a.sim.state.sweep (sweepIndex block)).functions = [] then
      a.sim.state.functions else (a.sim.state.sweep (sweepIndex block)).functions) =
        tracedFunctions a.sim.state block := rfl
  rw [Access.trace, hwindow, hfunctions, tracedValues, map_bind_map]
  refine ofResult_returns fun measurements => ?_
  rw [if_neg Bool.false_ne_true]
  exact windowed_returns _ _ _ _

theorem trace_returns {a : Access} (hargs : a.command.args.drop 1 =
      windowFields count.value offset.value sparsing.value) :
    (a.trace false (sweepIndex block)).Returns
      (if Rejected count.value offset.value sparsing.value then some (a.illegal offset.text)
      else ((tracedValues a.sim block).bind fun source =>
        applyWindow source (requestedWindow count.value offset.value sparsing.value)).map
          fun values => a.respond (shown a.sim values)) := by
  by_cases hrejected : Rejected count.value offset.value sparsing.value
  · rw [Access.trace, readWindow_sent hargs, if_pos hrejected, if_pos hrejected]
    exact .done _
  · rw [if_neg hrejected]
    refine trace_window_returns fun body => ?_
    rw [readWindow_sent hargs, if_neg hrejected]

theorem handleLine_trac : sim.handleLine
      ("TRAC? " ++ traceArguments block count.value offset.value sparsing.value) =
    if Rejected count.value offset.value sparsing.value then
      some (sim.pushError ErrorCode.kIllegalParameterValue
        ("Illegal parameter value;" ++ offset.text), none)
    else ((tracedValues sim block).bind fun source =>
      applyWindow source (requestedWindow count.value offset.value sparsing.value)).map
        fun values => (sim, some (shown sim values)) := by
  have hmem : (("TRAC" : Text), Key.trac, ([] : List Int)) ∈ knownHeaders := by
    simp [knownHeaders]
  have hfields : ∀ field ∈
      traceBlock block :: windowFields count.value offset.value sparsing.value,
      ∃ n, field = toText n := fun field hfield => traceFields_integers hfield
  have htext := join_integers hfields
  rw [traceArguments_eq]
  refine (handleLine_request hmem sim (htext.unquoted.whole_iff.mpr htext.semicolon)).trans ?_
  rw [argumentsOf_join hfields]
  have hreturns : (Access.trace (received sim ⟨"TRAC", true,
      traceBlock block :: windowFields count.value offset.value sparsing.value⟩ .trac []) false
      (sweepIndex block)).Returns _ := trace_returns rfl
  rw [execute_trac rfl (by rw [traceBlock_sent rfl]; exact hreturns)]
  split
  · rfl
  · rw [Option.map_map]
    rfl

end Simulator

section Client

variable {client : SimulatorClient} {block : SweepBlock} {count offset sparsing : Int}

theorem hasLineTerminator_append {head text : Text} (hhead : hasLineTerminator head = false)
    (htext : Spaceless text) : hasLineTerminator (head ++ text) = false := by
  obtain ⟨hnewline, hreturn⟩ := hasLineTerminator_eq_false.mp hhead
  have hnone {c : Char} (hc : isSpace c = true) : c ∉ text := fun hmem => by
    rw [htext c hmem] at hc
    cases hc
  exact hasLineTerminator_eq_false.mpr
    ⟨by simp [hnewline, hnone (c := '\n') rfl], by simp [hreturn, hnone (c := '\r') rfl]⟩

theorem calcData_plain :
    hasLineTerminator ("CALC:DATA?" ++ dataArguments count offset sparsing) = false := by
  have hhead : hasLineTerminator "CALC:DATA? " = false := by decide +kernel
  have halone : hasLineTerminator "CALC:DATA?" = false := by decide +kernel
  rw [dataArguments_eq]
  split
  · rw [List.append_nil]
    exact halone
  · have htext := join_integers fun field hfield =>
      @windowFields_integers count offset sparsing field hfield
    have hline := hasLineTerminator_append hhead htext.spaceless
    exact hline

theorem trac_plain :
    hasLineTerminator ("TRAC? " ++ traceArguments block count offset sparsing) = false := by
  have hhead : hasLineTerminator "TRAC? " = false := by decide +kernel
  rw [traceArguments_eq]
  exact hasLineTerminator_append hhead
    (join_integers fun field hfield => traceFields_integers hfield).spaceless

theorem mapM_ok {A B : Type} {f : A → Except Fault B} {g : A → B} (h : ∀ x, f x = .ok (g x))
    (xs : List A) : xs.mapM f = .ok (xs.map g) := by
  induction xs with
  | nil => rfl
  | cons x xs ih =>
    rw [List.mapM_cons, h, ih]
    rfl

theorem parseValues_map (sim : NormaSimulator) : ∃ read : Float → Float,
    (∀ value, toDouble (formatValue sim.state value) = .ok (read value)) ∧
      ∀ values, parseValues (shown sim values) = .ok (values.map read) := by
  have hread (value : Float) : ∃ result, toDouble (formatValue sim.state value) = .ok result :=
    toDouble_printed (formatValue_printed _ _) (formatValue_plain _ _)
  choose read hread using hread
  refine ⟨read, hread, fun values => ?_⟩
  have hplain : ∀ field ∈ values.map (formatValue sim.state), PlainField field := by
    intro field hfield
    obtain ⟨value, -, rfl⟩ := List.mem_map.mp hfield
    exact formatValue_plain _ _
  rw [parseValues, shown, splitCsv_join hplain, List.mapM_map]
  exact mapM_ok hread values

theorem parseValues_shown (sim : NormaSimulator) (values : List Float) :
    ∃ parsed, parseValues (shown sim values) = .ok parsed ∧ parsed.length = values.length := by
  obtain ⟨read, -, hread⟩ := parseValues_map sim
  exact ⟨_, hread values, List.length_map _⟩

theorem queryValues_shown (hidle : client.Idle) {command : Text}
    (hplain : hasLineTerminator command = false) {values : List Float}
    (hline : client.sim.handleLine command = some (client.sim, some (shown client.sim values))) :
    ∃ parsed, queryValues command client = some (.ok parsed, client) ∧
      parsed.length = values.length := by
  obtain ⟨parsed, hparsed, hlength⟩ := parseValues_shown client.sim values
  exact ⟨parsed, (ofExcept_query parseValues (query_idle hidle hplain hline)).trans
    (by rw [hparsed]; rfl), hlength⟩

end Client

end Norma
