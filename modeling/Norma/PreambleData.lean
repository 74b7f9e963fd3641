import Norma.DataQuery
import Norma.TracePoints

namespace Norma

open ScpiClient
open FunctionList (sweepIndex)

section Arithmetic

def readCount (n : Nat) : Int := CNumber.toInt32 (min CNumber.longMax n)

theorem toInt_toText (n : Nat) : ScpiClient.toInt (toText n) = .ok (readCount n) := by
  have htrim : trim (toText n) = toText n := trim_of_spaceless (plainField_toText n).spaceless
  have hclamp : max CNumber.longMin (min CNumber.longMax n) = min CNumber.longMax n := by
    simp only [CNumber.longMin, CNumber.longMax]
    omega
  rw [ScpiClient.toInt, htrim, toText, CNumber.cstr_decimal, CNumber.strtol_decimal_clamped, hclamp]
  rfl

theorem readCount_eq (n : Nat) : readCount n =
    if n < 2 ^ 63 then
      if n % 2 ^ 32 < 2 ^ 31 then ((n % 2 ^ 32 : Nat) : Int) else (n % 2 ^ 32 : Nat) - 2 ^ 32
    else -1 := by
  simp only [readCount, CNumber.toInt32, CNumber.longMax, Int.bmod_def]
  split <;> split <;> omega

theorem toInt32_mul (p : Int) (n : Nat) :
    CNumber.toInt32 (p * n) = CNumber.toInt32 (p * (n % 2 ^ 32 : Nat)) := by
  have hsplit : p * n = p * (n % 2 ^ 32 : Nat) + 2 ^ 32 * (p * (n / 2 ^ 32 : Nat)) := by
    have hn : (n : Int) = (n % 2 ^ 32 : Nat) + 2 ^ 32 * (n / 2 ^ 32 : Nat) := by omega
    conv_lhs => rw [hn]
    ring
  have hmod (a b : Int) : (a + 2 ^ 32 * b) % ((2 ^ 32 : Nat) : Int) = a % ((2 ^ 32 : Nat) : Int) := by
    omega
  rw [CNumber.toInt32, CNumber.toInt32, hsplit, Int.bmod_def, Int.bmod_def, hmod]

theorem toInt32_range (n : Int) : -2 ^ 31 ≤ CNumber.toInt32 n ∧ CNumber.toInt32 n < 2 ^ 31 := by
  rw [CNumber.toInt32, Int.bmod_def]
  split <;> omega

theorem own_count_iff {p : Int} {n : Nat} (hpos : 0 < p) :
    max 0 (CNumber.toInt32 (p * n)) = p * readCount n ↔
      n < 2 ^ 63 ∧ p * (n % 2 ^ 32 : Nat) < 2 ^ 31 := by
  rw [toInt32_mul, readCount_eq]
  have hrest : ((n % 2 ^ 32 : Nat) : Int) ≤ p * (n % 2 ^ 32 : Nat) := by
    have hmul := Int.mul_le_mul_of_nonneg_right hpos (Int.natCast_nonneg (n % 2 ^ 32))
    omega
  have hrange := toInt32_range (p * (n % 2 ^ 32 : Nat))
  have hsame (h : p * (n % 2 ^ 32 : Nat) < 2 ^ 31) :
      CNumber.toInt32 (p * (n % 2 ^ 32 : Nat)) = p * (n % 2 ^ 32 : Nat) :=
    CNumber.toInt32_eq_self (by omega) h
  split
  · next hlong =>
    split
    · next hlow =>
      constructor
      · intro heq
        refine ⟨hlong, ?_⟩
        omega
      · rintro ⟨-, hsmall⟩
        rw [hsame hsmall]
        omega
    · next hhigh =>
      have hneg : p * (((n % 2 ^ 32 : Nat) : Int) - 2 ^ 32) < 0 :=
        Int.mul_neg_of_pos_of_neg hpos (by omega)
      omega
  · omega

theorem one_count_iff {p : Int} {n : Nat} (hpos : 0 < p) (hp : p < 2 ^ 31) :
    max 0 (CNumber.toInt32 (p * n)) = p ↔ p * n % 2 ^ 32 = p := by
  rw [CNumber.toInt32, Int.bmod_def]
  split <;> omega

end Arithmetic

section Fields

theorem plainField_formatSetting (x : Float) : PlainField (formatSetting x) where
  unquoted c hc := by
    have hchar := formatSetting_chars x c hc
    rw [isQuote, Bool.or_eq_false_iff, beq_eq_false_iff_ne, beq_eq_false_iff_ne]
    constructor
    · rintro rfl
      cases hchar
    · rintro rfl
      cases hchar
  spaceless c hc := by
    have hchar := formatSetting_chars x c hc
    rw [CNumber.isSettingChar, Bool.or_eq_true, List.contains_iff_mem] at hchar
    rcases hchar with hnumber | hmem
    · exact CNumber.isSpace_of_isNumberChar hnumber
    · have hletters : ['e', 'n', 'a', 'i', 'f'].all (fun c => !isSpace c) = true := rfl
      simpa using List.all_eq_true.mp hletters c hmem
  comma hmem := by cases formatSetting_chars x _ hmem
  nonempty hnil := by
    have hsome := (CNumber.printG9_spelled x).strtod_isSome
    rw [List.map_eq_nil_iff.mp hnil] at hsome
    cases hsome

theorem toDouble_formatSetting (x : Float) : ∃ value, toDouble (formatSetting x) = .ok value := by
  have hplain := plainField_formatSetting x
  have htrim := trim_of_spaceless hplain.spaceless
  have hspelled : CNumber.Spelled (formatSetting x) := by
    refine (CNumber.printG9_spelled x).map (fun d hd => if_neg ?_) rfl
    rintro rfl
    cases hd
  obtain ⟨⟨value, rest⟩, hvalue⟩ := Option.isSome_iff_exists.mp hspelled.strtod_isSome
  refine ⟨if kScpiNanThreshold ≤ value.abs then CNumber.nan else value, ?_⟩
  simp only [toDouble, htrim, if_neg hplain.nonempty, hvalue]

end Fields

section Preambles

variable {sim : NormaSimulator} {block : SweepBlock} {client : SimulatorClient}

def preambleText (points functions : Nat) (interval start : Float) : Text :=
  join ',' [toText points, toText functions, formatSetting interval, formatSetting start]

theorem natCast_max (n : Nat) : ((max n 1 : Nat) : Int) = max (n : Int) 1 := by omega

theorem parsePreamble_text (points functions : Nat) (interval start : Float) :
    ∃ preamble, parsePreamble (preambleText points functions interval start) = .ok preamble ∧
      preamble.count = readCount points ∧ preamble.functionCount = readCount functions := by
  obtain ⟨first, hfirst⟩ := toDouble_formatSetting interval
  obtain ⟨second, hsecond⟩ := toDouble_formatSetting start
  have hplain : ∀ field ∈ [toText points, toText functions, formatSetting interval,
      formatSetting start], PlainField field := by
    simp [plainField_toText, plainField_formatSetting]
  have hparse := parsePreamble_fields hplain
  rw [toInt_toText, toInt_toText, hfirst, hsecond] at hparse
  exact ⟨_, hparse, rfl, rfl⟩

theorem handleLine_calcDataPre : sim.handleLine "CALC:DATA:PRE?" = some (sim, some (preambleText
    kSpectrumLines (max sim.state.transformFunctions.length 1) sim.signal.frequency
    sim.state.transformStart)) := by
  have hmem : (("CALC:DATA:PRE" : Text), Key.calcDataPre, ([] : List Int)) ∈ knownHeaders := by
    simp [knownHeaders]
  have hexecute (a : Access) (hquery : a.command.query = true) :
      execute .calcDataPre a = some (a.respond (preambleText kSpectrumLines
        (max a.sim.state.transformFunctions.length 1) a.sim.signal.frequency
        a.sim.state.transformStart)) := by
    have hcalculate : handleCalculate .calcDataPre a = .done a.transformPreamble := rfl
    rw [execute, dispatch, hcalculate, Access.transformPreamble, Access.queryOnly, if_pos hquery,
      preambleText, natCast_max]
    rfl
  refine (handleLine_query hmem sim).trans ?_
  rw [hexecute _ rfl]
  rfl

theorem handleLine_tracPre (hpoints : 0 ≤ tracePoints sim.state) :
    sim.handleLine ("TRAC:PRE? " ++ traceBlock block) = some (sim, some (preambleText
      (tracePoints sim.state).toNat
      (max (sim.state.sweep (sweepIndex block)).functions.length 1) sim.state.aperture
      (sim.state.sweep (sweepIndex block)).offsetTime)) := by
  have hmem : (("TRAC:PRE" : Text), Key.tracPre, ([] : List Int)) ∈ knownHeaders := by
    simp [knownHeaders]
  have hfields : ∀ field ∈ [traceBlock block], ∃ n, field = toText n := fun field hfield =>
    @traceFields_integers block 0 0 0 field hfield
  have htext := join_integers hfields
  have hjoin : traceBlock block = join ',' [traceBlock block] := by simp [join]
  rw [hjoin]
  refine (handleLine_request hmem sim (htext.unquoted.whole_iff.mpr htext.semicolon)).trans ?_
  have hexecute (a : Access) (hquery : a.command.query = true)
      (hargs : a.command.args = [traceBlock block]) :
      execute .tracPre a = some (a.tracePreamble (sweepIndex block)) := by
    have hnone : (!a.command.query) = false := by
      rw [hquery]
      rfl
    have hblock : (a.traceBlock fun block => .done (a.tracePreamble block)) =
        .done (a.tracePreamble (sweepIndex block)) := traceBlock_sent hargs
    have htrace : handleTrace .tracPre a = .done (a.tracePreamble (sweepIndex block)) := by
      rw [← hblock]
      simp [handleTrace, hnone]
    rw [execute, dispatch, htrace]
    rfl
  rw [argumentsOf_join hfields, hexecute _ rfl rfl, preambleText, natCast_max,
    Int.toNat_of_nonneg hpoints]
  rfl

end Preambles

section Counts

theorem applyWindow_go_all {source : List Float} {k : Nat} (hk : (k : Int) = max 0
      (CNumber.toInt32 source.length)) (hsource : k ≤ source.length) (hsmall : k < 2 ^ 31)
    {fuel i : Nat} (hi : i ≤ k) (hfuel : k < fuel + i) {out : List Float} :
    ∃ values, applyWindow.go source 0 1 fuel i out = some values ∧
      values.length = out.length + (k - i) := by
  induction fuel generalizing i out with
  | zero => omega
  | succ fuel ih =>
    rw [applyWindow.go]
    rcases Nat.lt_or_eq_of_le hi with hlt | rfl
    · have hmore : ¬CNumber.toInt32 source.length ≤ (i : Int) := by omega
      have hbound : i < source.length := Nat.lt_of_lt_of_le hlt hsource
      have hget : source[i]? = some source[i] := List.getElem?_eq_getElem hbound
      rw [if_neg hmore, if_neg (by omega), hget]
      dsimp only
      rw [if_pos (by omega)]
      have hrest : ∃ values,
          applyWindow.go source 0 1 fuel (i + 1) (out ++ [source[i]]) = some values ∧
            values.length = (out ++ [source[i]]).length + (k - (i + 1)) := ih (by omega) (by omega)
      obtain ⟨values, hvalues, hlength⟩ := hrest
      refine ⟨values, hvalues, ?_⟩
      rw [hlength, List.length_append, List.length_singleton]
      omega
    · rw [if_pos (by omega)]
      exact ⟨out, rfl, by omega⟩

theorem applyWindow_all (source : List Float) : ∃ values,
    applyWindow source ⟨0, 0, 0⟩ = some values ∧
      (values.length : Int) = max 0 (CNumber.toInt32 source.length) := by
  have hrange := toInt32_range source.length
  have hle : CNumber.toInt32 source.length ≤ source.length := by
    rw [CNumber.toInt32, Int.bmod_def]
    split <;> omega
  obtain ⟨k, hk⟩ := Int.eq_ofNat_of_zero_le (Int.le_max_left 0 (CNumber.toInt32 source.length))
  have hgo : ∃ values, applyWindow.go source 0 1 (source.length + 1) 0 [] = some values ∧
      values.length = ([] : List Float).length + (k - 0) :=
    applyWindow_go_all hk.symm (by omega) (by omega) (Nat.zero_le k) (by omega)
  obtain ⟨values, hvalues, hlength⟩ := hgo
  refine ⟨values, hvalues, ?_⟩
  rw [hlength, hk]
  simp

theorem flatMap_recordedValues (points : Nat) (measurements : List (SimulatedMeasurement Float)) :
    (measurements.flatMap (recordedValues points)).length = points * measurements.length := by
  induction measurements with
  | nil => rfl
  | cons m measurements ih =>
    rw [List.flatMap_cons, List.length_append, ih, List.length_cons, recordedValues,
      List.length_map, List.length_range]
    ring

theorem tracedValues_terminates {sim : NormaSimulator} {block : SweepBlock}
    (h : ∀ function ∈ tracedFunctions sim.state block, Terminates sim.state sim.signal function) :
    ∃ source, tracedValues sim block = some source ∧
      source.length = (tracePoints sim.state).toNat * (tracedFunctions sim.state block).length := by
  obtain ⟨measurements, hall, hmeasured⟩ := measureAll_terminates h
  refine ⟨_, by rw [tracedValues, hall]; rfl, ?_⟩
  rw [flatMap_recordedValues, hmeasured.length_eq]

end Counts

section Agreement

variable {client : SimulatorClient}

-- The header counts the block's own list, and one function if it is empty; the data then come
-- from the list of FUNC.
def AgreesOn (state : State) (block : SweepBlock) : Prop :=
  let own := (state.sweep (sweepIndex block)).functions
  RecordsNothing state ∨
    (own ≠ [] ∧ own.length < 2 ^ 63 ∧
      tracePoints state * (own.length % 2 ^ 32 : Nat) < 2 ^ 31) ∨
    (own = [] ∧ tracePoints state * state.functions.length % 2 ^ 32 = tracePoints state)

def AgreesOnTransform (state : State) : Prop :=
  state.transformFunctions = [] ∨
    (state.transformFunctions.length < 2 ^ 63 ∧ state.transformFunctions.length % 2 ^ 32 = 1)

instance (state : State) : Decidable (AgreesOnTransform state) :=
  inferInstanceAs (Decidable (_ ∨ _ ∧ _))

theorem agreesOn_iff {state : State} (hs : state.Timed) (hordinary : state.OrdinaryTimes)
    (block : SweepBlock) :
    (max 0 (CNumber.toInt32 (((tracePoints state).toNat *
        (tracedFunctions state block).length : Nat) : Int)) =
      tracePoints state *
        readCount (max (state.sweep (sweepIndex block)).functions.length 1)) ↔
      AgreesOn state block := by
  obtain ⟨hnonneg, hmost, hzero⟩ := tracePoints_bounds hs hordinary
  rw [AgreesOn, Int.natCast_mul, Int.toNat_of_nonneg hnonneg]
  rcases Int.lt_or_eq_of_le hnonneg with hpos | hnone
  · have hsome : ¬RecordsNothing state := mt hzero.mpr (Int.ne_of_gt hpos)
    rw [or_iff_right hsome, tracedFunctions]
    by_cases hown : (state.sweep (sweepIndex block)).functions = []
    · have hone : readCount (max ([] : List Text).length 1) = 1 := by decide
      have hsmall : tracePoints state < 2 ^ 31 := Int.lt_of_le_of_lt hmost (by decide)
      rw [if_pos hown, hown, hone, Int.mul_one, one_count_iff hpos hsmall]
      simp
    · have hlength : max (state.sweep (sweepIndex block)).functions.length 1 =
          (state.sweep (sweepIndex block)).functions.length :=
        Nat.max_eq_left (List.length_pos_iff.mpr hown)
      rw [if_neg hown, hlength, own_count_iff hpos]
      simp [hown]
  · rw [← hnone, Int.zero_mul, Int.zero_mul]
    exact iff_of_true (by decide) (.inl (hzero.mp hnone.symm))

-- With lists of a length that an instrument can be given, no count leaves `int`.
theorem agreesOn_short {state : State} (hs : state.Timed) (hordinary : state.OrdinaryTimes)
    {block : SweepBlock} (hown : (state.sweep (sweepIndex block)).functions.length < 2 ^ 19)
    (hfunctions : state.functions.length < 2 ^ 19) :
    AgreesOn state block ↔ RecordsNothing state ∨
      (state.sweep (sweepIndex block)).functions ≠ [] ∨ state.functions.length = 1 := by
  obtain ⟨hnonneg, hmost, hzero⟩ := tracePoints_bounds hs hordinary
  have hcapacity : tracePoints state ≤ 4096 := hmost
  have hproduct {n : Nat} (hn : n < 2 ^ 19) : tracePoints state * n < 2 ^ 31 := by
    have hle := Int.mul_le_mul_of_nonneg_right hcapacity (Int.natCast_nonneg n)
    omega
  rw [AgreesOn]
  rcases Int.lt_or_eq_of_le hnonneg with hpos | hnone
  · rw [or_iff_right (mt hzero.mpr (Int.ne_of_gt hpos)),
      or_iff_right (mt hzero.mpr (Int.ne_of_gt hpos))]
    by_cases hempty : (state.sweep (sweepIndex block)).functions = []
    · have hbound := hproduct hfunctions
      have hleast : 0 ≤ tracePoints state * state.functions.length :=
        Int.mul_nonneg hnonneg (Int.natCast_nonneg _)
      have hsame : tracePoints state * state.functions.length % 2 ^ 32 =
          tracePoints state * state.functions.length := by omega
      rw [or_iff_right fun h => h.1 hempty, or_iff_right fun h => h hempty, hsame,
        and_iff_right hempty]
      constructor
      · intro h
        have hone := Int.eq_of_mul_eq_mul_left (Int.ne_of_gt hpos) (h.trans (Int.mul_one _).symm)
        omega
      · intro h
        rw [h, Int.natCast_one, Int.mul_one]
    · have hrest : (state.sweep (sweepIndex block)).functions.length % 2 ^ 32 =
          (state.sweep (sweepIndex block)).functions.length := Nat.mod_eq_of_lt (by omega)
      refine iff_of_true (.inl ⟨hempty, by omega, ?_⟩) (.inl hempty)
      rw [hrest]
      exact hproduct hown
  · exact iff_of_true (.inl (hzero.mp hnone.symm)) (.inl (hzero.mp hnone.symm))

theorem readCount_points {points : Int} (hnonneg : 0 ≤ points) (hmost : points ≤ kTraceCapacity) :
    readCount points.toNat = points := by
  have hcapacity : points ≤ 4096 := hmost
  rw [readCount_eq, if_pos (by omega), if_pos (by omega)]
  omega

theorem trace_agrees_iff (hidle : client.Idle) (hreachable : Reachable client.sim)
    (hordinary : client.sim.state.OrdinaryTimes) (block : SweepBlock)
    (hterminates : ∀ function ∈ tracedFunctions client.sim.state block,
      Terminates client.sim.state client.sim.signal function) :
    ∃ values preamble,
      NormaInstrument.traceData block 0 0 0 client = some (.ok values, client) ∧
      NormaInstrument.tracePreamble block client = some (.ok preamble, client) ∧
      ((values.length : Int) = preamble.count * preamble.functionCount ↔
        AgreesOn client.sim.state block) := by
  have htimed := hreachable.timed
  obtain ⟨hnonneg, hmost, -⟩ := tracePoints_bounds htimed hordinary
  obtain ⟨source, hsource, hlength⟩ := tracedValues_terminates hterminates
  obtain ⟨shownValues, hwindow, hcount⟩ := applyWindow_all source
  have hline := @handleLine_trac client.sim block .zero .zero .zero
  rw [if_neg (by decide), hsource, Option.bind_some] at hline
  obtain ⟨values, hvalues, hvalueCount⟩ := queryValues_shown hidle trac_plain
    (hline.trans (congrArg _ hwindow))
  have hplain : hasLineTerminator ("TRAC:PRE? " ++ traceBlock block) = false := by
    cases block <;> decide +kernel
  obtain ⟨preamble, hparse, hpoints, hfunctions⟩ := parsePreamble_text
    (tracePoints client.sim.state).toNat
    (max (client.sim.state.sweep (sweepIndex block)).functions.length 1) client.sim.state.aperture
    (client.sim.state.sweep (sweepIndex block)).offsetTime
  have hpreamble : NormaInstrument.tracePreamble block client = some (.ok preamble, client) :=
    (ofExcept_query parsePreamble (query_idle hidle hplain (handleLine_tracPre hnonneg))).trans
      (by rw [hparse]; rfl)
  refine ⟨values, preamble, hvalues, hpreamble, ?_⟩
  rw [hvalueCount, hcount, hlength, hpoints, hfunctions, readCount_points hnonneg hmost]
  exact agreesOn_iff htimed hordinary block

theorem agreesOnTransform_iff {state : State} : AgreesOnTransform state ↔
    readCount (max state.transformFunctions.length 1) = 1 := by
  rw [AgreesOnTransform, readCount_eq]
  by_cases hnone : state.transformFunctions = []
  · rw [hnone]
    exact iff_of_true (.inl rfl) (by decide)
  · have hlength : max state.transformFunctions.length 1 = state.transformFunctions.length :=
      Nat.max_eq_left (List.length_pos_iff.mpr hnone)
    rw [or_iff_right hnone, hlength]
    split <;> omega

theorem transformData_all (hidle : client.Idle) : ∃ values,
    NormaInstrument.transformData 0 0 client = some (.ok values, client) ∧
      values.length = kSpectrumLines := by
  have hspectrum : (Access.spectrum client.sim.signal).length = kSpectrumLines := by
    rw [Access.spectrum, List.length_map, List.length_range]
  obtain ⟨shownValues, hwindow, hcount⟩ := applyWindow_all (Access.spectrum client.sim.signal)
  have hline := @handleLine_calcData client.sim .zero .zero .zero (by decide)
  obtain ⟨values, hvalues, hvalueCount⟩ := queryValues_shown hidle calcData_plain
    (hline.trans (congrArg _ hwindow))
  have hall : max 0 (CNumber.toInt32 ((kSpectrumLines : Nat) : Int)) = kSpectrumLines := by decide
  rw [hspectrum, hall] at hcount
  exact ⟨values, hvalues, hvalueCount.trans (Int.ofNat_inj.mp hcount)⟩

theorem transform_agrees_iff (hidle : client.Idle) :
    ∃ values preamble, NormaInstrument.transformData 0 0 client = some (.ok values, client) ∧
      NormaInstrument.transformPreamble client = some (.ok preamble, client) ∧
      ((values.length : Int) = preamble.count * preamble.functionCount ↔
        AgreesOnTransform client.sim.state) := by
  obtain ⟨values, hvalues, hcount⟩ := transformData_all hidle
  have hplain : hasLineTerminator "CALC:DATA:PRE?" = false := by decide +kernel
  obtain ⟨preamble, hparse, hlines, hfunctions⟩ := parsePreamble_text kSpectrumLines
    (max client.sim.state.transformFunctions.length 1) client.sim.signal.frequency
    client.sim.state.transformStart
  have hpreamble : NormaInstrument.transformPreamble client = some (.ok preamble, client) :=
    (ofExcept_query parsePreamble (query_idle hidle hplain handleLine_calcDataPre)).trans
      (by rw [hparse]; rfl)
  refine ⟨values, preamble, hvalues, hpreamble, ?_⟩
  have hall : ((kSpectrumLines : Nat) : Int) = 32 := rfl
  have hread : readCount kSpectrumLines = 32 := by decide
  rw [hcount, hall, hlines, hread, hfunctions, agreesOnTransform_iff]
  omega

theorem preamble_agrees_iff (hidle : client.Idle) (hreachable : Reachable client.sim)
    (hordinary : client.sim.state.OrdinaryTimes)
    (hterminates : ∀ block, ∀ function ∈ tracedFunctions client.sim.state block,
      Terminates client.sim.state client.sim.signal function) :
    (∀ block, ∃ values preamble,
      NormaInstrument.traceData block 0 0 0 client = some (.ok values, client) ∧
      NormaInstrument.tracePreamble block client = some (.ok preamble, client) ∧
      ((values.length : Int) = preamble.count * preamble.functionCount ↔
        AgreesOn client.sim.state block)) ∧
    ∃ values preamble, NormaInstrument.transformData 0 0 client = some (.ok values, client) ∧
      NormaInstrument.transformPreamble client = some (.ok preamble, client) ∧
      ((values.length : Int) = preamble.count * preamble.functionCount ↔
        AgreesOnTransform client.sim.state) :=
  ⟨fun block => trace_agrees_iff hidle hreachable hordinary block (hterminates block),
    transform_agrees_iff hidle⟩

def recordingOne : NormaSimulator :=
  let sim := FunctionList.measured.stored (.new {}) [("VOLT1" : Text)]
  { sim with state := (enableSweep 1).set sim.state true }

theorem handleLine_sweep (sim : NormaSimulator) : sim.handleLine "SWE1 ON" =
    some ({ sim with state := (enableSweep 1).set sim.state true }, none) := by
  have hunquoted : Unquoted "SWE1 ON" := by decide +kernel
  have htrim : trim "SWE1 ON" = "SWE1 ON" := by decide +kernel
  have hparse : parseCommand "SWE1 ON" = ⟨"SWE1", false, ["ON"]⟩ := by decide +kernel
  have hfind : findCommand (headerTokens [] "SWE1") = some (.sweStat, [1]) := by decide +kernel
  exact (handleLine_known (hunquoted.whole_iff.mpr (by decide +kernel)) htrim (by decide) hparse
    (by decide) hfind).trans rfl

theorem recordingOne_reachable : Reachable recordingOne := by
  have hfirst : (NormaSimulator.new {}).handleLine ("FUNC" ++ ' ' :: quoteJoin [("VOLT1" : Text)]) =
      some (FunctionList.measured.stored (.new {}) [("VOLT1" : Text)], none) :=
    FunctionList.measured.handleLine_write (by simp) (by decide +kernel) rfl
  exact .line (.line (.new {}) _ hfirst) _ (handleLine_sweep _)

theorem recordingOne_agrees : ∃ values preamble,
    NormaInstrument.traceData .block1 0 0 0 (opened recordingOne) =
      some (.ok values, opened recordingOne) ∧
    NormaInstrument.tracePreamble .block1 (opened recordingOne) =
      some (.ok preamble, opened recordingOne) ∧
    (values.length : Int) = preamble.count * preamble.functionCount := by
  have hordinary : recordingOne.state.OrdinaryTimes :=
    ⟨by decide +kernel, by decide +kernel, by decide +kernel⟩
  have hone (block : SweepBlock) : tracedFunctions recordingOne.state block = [("VOLT1" : Text)] := by
    cases block <;> decide +kernel
  have hterminates : Terminates recordingOne.state recordingOne.signal "VOLT1" :=
    ⟨1, Option.isSome_iff_exists.mp (by decide +kernel)⟩
  obtain ⟨htrace, -⟩ := preamble_agrees_iff (idle_opened recordingOne) recordingOne_reachable
    hordinary fun block function hfunction => by
      change function ∈ tracedFunctions recordingOne.state block at hfunction
      rw [hone block, List.mem_singleton] at hfunction
      rw [hfunction]
      exact hterminates
  obtain ⟨values, preamble, hvalues, hpreamble, hagrees⟩ := htrace .block1
  exact ⟨values, preamble, hvalues, hpreamble, hagrees.mpr (.inr (.inr (by decide +kernel)))⟩

theorem two_transform_functions : ¬ ∀ client : SimulatorClient, client.Idle → Reachable client.sim →
    client.sim.state.dataFormat.format = .ascii → 0 ≤ client.sim.state.dataFormat.length →
    client.sim.state.dataFormat.length ≤ 8 → client.sim.state.OrdinaryTimes →
    (∀ block, ∀ function ∈ tracedFunctions client.sim.state block,
      Terminates client.sim.state client.sim.signal function) →
    (∀ block, ∃ values preamble,
      NormaInstrument.traceData block 0 0 0 client = some (.ok values, client) ∧
      NormaInstrument.tracePreamble block client = some (.ok preamble, client) ∧
      (values.length : Int) = preamble.count * preamble.functionCount) ∧
    ∃ values preamble, NormaInstrument.transformData 0 0 client = some (.ok values, client) ∧
      NormaInstrument.transformPreamble client = some (.ok preamble, client) ∧
      (values.length : Int) = preamble.count * preamble.functionCount := by
  intro h
  let sim := FunctionList.transform.stored (.new {}) [("VOLT1" : Text), ("CURR1" : Text)]
  have hline : (NormaSimulator.new {}).handleLine ("CALC:TRAN:FREQ:FUNC" ++
      ' ' :: quoteJoin [("VOLT1" : Text), ("CURR1" : Text)]) = some (sim, none) :=
    FunctionList.transform.handleLine_write (by simp) (by decide +kernel) rfl
  have hnone (block : SweepBlock) : tracedFunctions sim.state block = [] := by
    cases block <;> rfl
  have hidle := idle_opened sim
  obtain ⟨-, values, preamble, hvalues, hpreamble, hcount⟩ := h (opened sim) hidle
    (.line (.new {}) _ hline) rfl (by decide +kernel) (by decide +kernel)
    ⟨by decide +kernel, by decide +kernel, by decide +kernel⟩ fun block function hfunction => by
      change function ∈ tracedFunctions sim.state block at hfunction
      rw [hnone block] at hfunction
      cases hfunction
  obtain ⟨values', preamble', hvalues', hpreamble', hagrees⟩ := transform_agrees_iff hidle
  rw [hvalues] at hvalues'
  rw [hpreamble] at hpreamble'
  cases hvalues'
  cases hpreamble'
  have hboth : ¬AgreesOnTransform sim.state := by decide +kernel
  exact hboth (hagrees.mp hcount)

end Agreement

end Norma
