import Norma.DataStatus
import Norma.ErrorQueue

namespace Norma

open ScpiClient
open Session (ofExcept)

structure DataPreamble where
  count : Int := 0
  functionCount : Int := 0
  interval : Float := 0
  start : Float := 0
  functions : List Text := []
  raw : Text := []

def preambleField (preamble : DataPreamble) (i : Nat) (field : Text) :
    Except Fault DataPreamble :=
  if field.head? = some '"' ∨ field.head? = some '\'' then
    .ok { preamble with functions := preamble.functions ++ [unquote field] }
  else
    match if preamble.functions = [] then i else i - preamble.functions.length with
    | 0 => (ScpiClient.toInt field).map fun count => { preamble with count }
    | 1 => (ScpiClient.toInt field).map fun functionCount => { preamble with functionCount }
    | 2 => (toDouble field).map fun interval => { preamble with interval }
    | 3 => (toDouble field).map fun start => { preamble with start }
    | _ => .ok preamble

def preambleFields (preamble : DataPreamble) (i : Nat) : List Text → Except Fault DataPreamble
  | [] => .ok preamble
  | field :: fields =>
      match preambleField preamble i field with
      | .error fault => .error fault
      | .ok preamble => preambleFields preamble (i + 1) fields

def parsePreamble (response : Text) : Except Fault DataPreamble :=
  preambleFields { raw := response } 0 (splitCsv response)

def traceBlock (block : SweepBlock) : Text :=
  match block with
  | .block1 => "1"
  | .block2 => "2"

def dataArguments (count offset sparsing : Int) : Text :=
  if count ≤ 0 then []
  else
    ' ' :: toText count ++ (if 0 < offset ∨ 0 < sparsing then ',' :: toText offset else []) ++
      (if 0 < sparsing then ',' :: toText sparsing else [])

-- Without a count none of the arguments behind it can be given.
def traceArguments (block : SweepBlock) (count offset sparsing : Int) : Text :=
  if count ≤ 0 then traceBlock block
  else
    traceBlock block ++ "," ++ toText count ++
      (if 0 < offset ∨ 0 < sparsing then ',' :: toText offset else []) ++
      (if 0 < sparsing then ',' :: toText sparsing else [])

namespace NormaInstrument

variable {T : Type} [Transport T]

def transformData (count offset : Int) : Session T (List Float) :=
  queryValues ("CALC:DATA?" ++ dataArguments count offset 0)

def transformPreamble : Session T DataPreamble := do
  ofExcept (parsePreamble (← query "CALC:DATA:PRE?"))

def tracePreamble (block : SweepBlock) : Session T DataPreamble := do
  ofExcept (parsePreamble (← query ("TRAC:PRE? " ++ traceBlock block)))

def traceData (block : SweepBlock) (count offset sparsing : Int) : Session T (List Float) :=
  queryValues ("TRAC? " ++ traceArguments block count offset sparsing)

def traceStatus (block : SweepBlock) (count offset sparsing : Int) : Session T (List Int) := do
  return (← queryValues ("TRAC:STAT? " ++ traceArguments block count offset sparsing)).map
    CNumber.truncInt32

end NormaInstrument

structure IntegerField where
  value : Int
  low : -2 ^ 31 ≤ value
  high : value < 2 ^ 31

def IntegerField.zero : IntegerField := ⟨0, by decide, by decide⟩

def IntegerField.text (field : IntegerField) : Text := toText field.value

structure NumberField where
  text : Text
  value : Float
  plain : PlainField text
  decodes : toDouble text = .ok value

def NumberField.ofText (text : Text) (plain : PlainField text)
    (h : (toDouble text).toOption.isSome = true) : NumberField where
  text
  value := (toDouble text).toOption.get h
  plain
  decodes := by
    generalize toDouble text = result at h ⊢
    cases result with
    | error fault => cases h
    | ok value => rfl

def answering (line : Text) : ScpiClient MockTransport :=
  { transport := { isOpen := true, responses := [line] } }

def answered (command : Text) : ScpiClient MockTransport :=
  { transport := { isOpen := true, writes := [command ++ ['\n']] } }

theorem query_answering {command : Text} (hplain : hasLineTerminator command = false)
    (line : Text) : query command (answering line) = some (.ok line, answered command) := by
  have hwrite : writeLine command 5000 (answering line) =
      some (.ok (), { transport :=
        { isOpen := true, writes := [command ++ ['\n']], responses := [line] } }) := by
    rw [writeLine, hplain]
    rfl
  exact Session.bind_ok hwrite _

theorem plainField_toText (n : Int) : PlainField (toText n) :=
  plainField_of_chars (CNumber.decimal_ne_nil n) (CNumber.decimal_chars n)

theorem toInt_integer (field : IntegerField) : ScpiClient.toInt field.text = .ok field.value := by
  obtain ⟨n, hlow, hhigh⟩ := field
  have htrim : trim (toText n) = toText n := trim_of_spaceless (plainField_toText n).spaceless
  have hlong : CNumber.longMin ≤ n ∧ n ≤ CNumber.longMax := by
    simp only [CNumber.longMin, CNumber.longMax]
    omega
  have hvalue : CNumber.strtol (CNumber.cstr (toText n)) = some n := by
    rw [toText, CNumber.cstr_decimal, CNumber.strtol_decimal hlong.1 hlong.2]
  simp only [IntegerField.text, ScpiClient.toInt, htrim, hvalue, CNumber.toInt32_eq_self hlow hhigh]

section Preamble

structure SpectrumResponse where
  startTime : NumberField
  lineCount : IntegerField
  functionCount : IntegerField
  frequency : NumberField
  frequencies : List NumberField

namespace SpectrumResponse

def fields (r : SpectrumResponse) : List Text :=
  [r.startTime.text, r.lineCount.text, r.functionCount.text, r.frequency.text] ++
    r.frequencies.map (·.text)

def text (r : SpectrumResponse) : Text := join ',' r.fields

def Decoded (r : SpectrumResponse) (preamble : DataPreamble) : Prop :=
  preamble.count = r.lineCount.value ∧ preamble.functionCount = r.functionCount.value ∧
    preamble.start = r.startTime.value ∧ preamble.interval = r.frequency.value

end SpectrumResponse

structure TraceResponse where
  pointsPerFunction : IntegerField
  functionCount : IntegerField
  triggerIndex : IntegerField
  firstPointTime : NumberField
  recordDuration : NumberField
  triggerTime : NumberField
  averageTime : NumberField

namespace TraceResponse

def fields (r : TraceResponse) : List Text :=
  [r.pointsPerFunction.text, r.functionCount.text, r.triggerIndex.text, r.firstPointTime.text,
    r.recordDuration.text, r.triggerTime.text, r.averageTime.text]

def text (r : TraceResponse) : Text := join ',' r.fields

def Decoded (r : TraceResponse) (preamble : DataPreamble) : Prop :=
  preamble.count = r.pointsPerFunction.value ∧ preamble.functionCount = r.functionCount.value ∧
    preamble.start = r.firstPointTime.value ∧ preamble.interval = r.averageTime.value

end TraceResponse

theorem preambleField_plain {field : Text} (hplain : PlainField field) (preamble : DataPreamble)
    (hfunctions : preamble.functions = []) (i : Nat) :
    preambleField preamble i field =
      match i with
      | 0 => (ScpiClient.toInt field).map fun count => { preamble with count }
      | 1 => (ScpiClient.toInt field).map fun functionCount => { preamble with functionCount }
      | 2 => (toDouble field).map fun interval => { preamble with interval }
      | 3 => (toDouble field).map fun start => { preamble with start }
      | _ => .ok preamble := by
  have hhead (q : Char) (hq : isQuote q = true) : field.head? ≠ some q := by
    intro hsome
    have hmem := hplain.unquoted q (List.mem_of_head? hsome)
    rw [hq] at hmem
    cases hmem
  rw [preambleField, if_neg (not_or.mpr ⟨hhead '"' rfl, hhead '\'' rfl⟩), if_pos hfunctions]

theorem preambleFields_rest {fields : List Text} (h : ∀ field ∈ fields, PlainField field)
    {preamble : DataPreamble} (hfunctions : preamble.functions = []) {i : Nat} (hi : 4 ≤ i) :
    preambleFields preamble i fields = .ok preamble := by
  induction fields generalizing i with
  | nil => rfl
  | cons field fields ih =>
    obtain ⟨k, rfl⟩ := Nat.exists_eq_add_of_le' hi
    rw [preambleFields, preambleField_plain (h field (by simp)) preamble hfunctions]
    exact ih (fun other hother => h other (by simp [hother])) (by omega)

theorem parsePreamble_fields {first second third fourth : Text} {fields : List Text}
    (h : ∀ field ∈ first :: second :: third :: fourth :: fields, PlainField field) :
    parsePreamble (join ',' (first :: second :: third :: fourth :: fields)) = (do
      let count ← ScpiClient.toInt first
      let functionCount ← ScpiClient.toInt second
      let interval ← toDouble third
      let start ← toDouble fourth
      return ⟨count, functionCount, interval, start, [],
        join ',' (first :: second :: third :: fourth :: fields)⟩) := by
  have hrest (preamble : DataPreamble) (hfunctions : preamble.functions = []) :
      preambleFields preamble 4 fields = .ok preamble :=
    preambleFields_rest (fun field hfield => h field (by simp [hfield])) hfunctions (by omega)
  have hfirst := preambleField_plain (h first (by simp))
  have hsecond := preambleField_plain (h second (by simp))
  have hthird := preambleField_plain (h third (by simp))
  have hfourth := preambleField_plain (h fourth (by simp))
  rw [parsePreamble, splitCsv_join h, preambleFields, hfirst _ rfl]
  cases ScpiClient.toInt first with
  | error fault => rfl
  | ok count =>
    simp only [Except.map, preambleFields]
    rw [hsecond _ rfl]
    cases ScpiClient.toInt second with
    | error fault => rfl
    | ok functionCount =>
      simp only [Except.map]
      rw [hthird _ rfl]
      cases toDouble third with
      | error fault => rfl
      | ok interval =>
        simp only [Except.map]
        rw [hfourth _ rfl]
        cases toDouble fourth with
        | error fault => rfl
        | ok start =>
          simp only [Except.map]
          rw [hrest _ rfl]
          rfl

theorem SpectrumResponse.fields_plain (r : SpectrumResponse) :
    ∀ field ∈ r.fields, PlainField field := by
  intro field hfield
  simp only [fields, List.mem_append, List.mem_cons, List.not_mem_nil, or_false] at hfield
  rcases hfield with (rfl | rfl | rfl | rfl) | hmem
  · exact r.startTime.plain
  · exact plainField_toText _
  · exact plainField_toText _
  · exact r.frequency.plain
  · obtain ⟨frequency, -, rfl⟩ := List.mem_map.mp hmem
    exact frequency.plain

theorem TraceResponse.fields_plain (r : TraceResponse) : ∀ field ∈ r.fields, PlainField field := by
  intro field hfield
  simp only [fields, List.mem_cons, List.not_mem_nil, or_false] at hfield
  rcases hfield with rfl | rfl | rfl | rfl | rfl | rfl | rfl
  · exact plainField_toText _
  · exact plainField_toText _
  · exact plainField_toText _
  · exact r.firstPointTime.plain
  · exact r.recordDuration.plain
  · exact r.triggerTime.plain
  · exact r.averageTime.plain

theorem spectrum_decodes_iff (r : SpectrumResponse) :
    (∃ preamble, parsePreamble r.text = .ok preamble ∧ r.Decoded preamble) ↔
      ScpiClient.toInt r.startTime.text = .ok r.lineCount.value ∧
      r.lineCount.value = r.functionCount.value ∧
      toDouble r.functionCount.text = .ok r.frequency.value ∧
      r.frequency.value = r.startTime.value := by
  have hparse : parsePreamble r.text = _ := parsePreamble_fields r.fields_plain
  rw [toInt_integer, r.frequency.decodes] at hparse
  rw [hparse]
  cases hcount : ScpiClient.toInt r.startTime.text with
  | error fault =>
    constructor
    · rintro ⟨preamble, hpreamble, -⟩
      cases hpreamble
    · rintro ⟨htoInt, -⟩
      cases htoInt
  | ok count =>
    cases hinterval : toDouble r.functionCount.text with
    | error fault =>
      constructor
      · rintro ⟨preamble, hpreamble, -⟩
        cases hpreamble
      · rintro ⟨-, -, htoDouble, -⟩
        cases htoDouble
    | ok interval =>
      constructor
      · rintro ⟨preamble, hpreamble, hlines, hfunctions, hstart, hfrequency⟩
        cases hpreamble
        exact ⟨congrArg _ hlines, hfunctions, congrArg _ hfrequency, hstart⟩
      · rintro ⟨hlines, hfunctions, hfrequency, hstart⟩
        exact ⟨_, rfl, Except.ok.inj hlines, hfunctions, hstart, Except.ok.inj hfrequency⟩

theorem trace_decodes_iff (r : TraceResponse) :
    (∃ preamble, parsePreamble r.text = .ok preamble ∧ r.Decoded preamble) ↔
      toDouble r.triggerIndex.text = .ok r.averageTime.value := by
  have hparse : parsePreamble r.text = _ := parsePreamble_fields r.fields_plain
  rw [toInt_integer, toInt_integer, r.firstPointTime.decodes] at hparse
  rw [hparse]
  cases hinterval : toDouble r.triggerIndex.text with
  | error fault =>
    constructor
    · rintro ⟨preamble, hpreamble, -⟩
      cases hpreamble
    · intro htoDouble
      cases htoDouble
  | ok interval =>
    constructor
    · rintro ⟨preamble, hpreamble, -, -, -, haverage⟩
      cases hpreamble
      exact congrArg _ haverage
    · intro haverage
      exact ⟨_, rfl, rfl, rfl, rfl, Except.ok.inj haverage⟩

variable {T : Type} [Transport T] {client after : ScpiClient T}

theorem ofExcept_query {A : Type} {command line : Text} (parse : Text → Except Fault A)
    (hquery : query command client = some (.ok line, after)) :
    (do ofExcept (parse (← query command)) : Session T A) client = some (parse line, after) :=
  Session.bind_ok hquery _

theorem preambles_decode_iff (spectrum : SpectrumResponse) (trace : TraceResponse)
    {block : SweepBlock} {client' after' : ScpiClient T}
    (hspectrum : query "CALC:DATA:PRE?" client = some (.ok spectrum.text, after))
    (htrace : query ("TRAC:PRE? " ++ traceBlock block) client' = some (.ok trace.text, after')) :
    ((∃ preamble, NormaInstrument.transformPreamble client = some (.ok preamble, after) ∧
        spectrum.Decoded preamble) ↔
      ScpiClient.toInt spectrum.startTime.text = .ok spectrum.lineCount.value ∧
      spectrum.lineCount.value = spectrum.functionCount.value ∧
      toDouble spectrum.functionCount.text = .ok spectrum.frequency.value ∧
      spectrum.frequency.value = spectrum.startTime.value) ∧
    ((∃ preamble, NormaInstrument.tracePreamble block client' = some (.ok preamble, after') ∧
        trace.Decoded preamble) ↔
      toDouble trace.triggerIndex.text = .ok trace.averageTime.value) := by
  have hfirst : NormaInstrument.transformPreamble client = _ := ofExcept_query _ hspectrum
  have hsecond : NormaInstrument.tracePreamble block client' = _ := ofExcept_query _ htrace
  rw [hfirst, hsecond, ← spectrum_decodes_iff, ← trace_decodes_iff]
  simp

def number (text : String) (hchars : (text : Text).all CNumber.isNumberChar = true)
    (hne : (text : Text) ≠ []) (h : (toDouble text).toOption.isSome = true) : NumberField :=
  .ofText text (plainField_of_chars hne (List.all_eq_true.mp hchars)) h

-- The examples of the manual.
def exampleSpectrum : SpectrumResponse where
  startTime := number "11.32" rfl (by decide) (by decide +kernel)
  lineCount := ⟨40, by decide, by decide⟩
  functionCount := ⟨3, by decide, by decide⟩
  frequency := number "50.0" rfl (by decide) (by decide +kernel)
  frequencies := [number "50.0" rfl (by decide) (by decide +kernel),
    number "50.0" rfl (by decide) (by decide +kernel)]

def exampleTrace : TraceResponse where
  pointsPerFunction := ⟨0, by decide, by decide⟩
  functionCount := ⟨0, by decide, by decide⟩
  triggerIndex := ⟨0, by decide, by decide⟩
  firstPointTime := number "0.00000E+00" rfl (by decide) (by decide +kernel)
  recordDuration := number "0.00000E+00" rfl (by decide) (by decide +kernel)
  triggerTime := number "0.00000E+00" rfl (by decide) (by decide +kernel)
  averageTime := number "0.00000E+00" rfl (by decide) (by decide +kernel)

theorem example_preambles : (¬ ∃ preamble,
      NormaInstrument.transformPreamble (answering exampleSpectrum.text) =
        some (.ok preamble, answered "CALC:DATA:PRE?") ∧ exampleSpectrum.Decoded preamble) ∧
    ∃ preamble, NormaInstrument.tracePreamble .block1 (answering exampleTrace.text) =
      some (.ok preamble, answered "TRAC:PRE? 1") ∧ exampleTrace.Decoded preamble := by
  have htracePreamble : query ("TRAC:PRE? " ++ traceBlock .block1) (answering exampleTrace.text) =
      some (.ok exampleTrace.text, answered "TRAC:PRE? 1") :=
    query_answering (by decide +kernel) _
  obtain ⟨hspectrum, htrace⟩ := preambles_decode_iff exampleSpectrum exampleTrace
    (query_answering (by decide +kernel) _) htracePreamble
  refine ⟨fun h => ?_, htrace.mpr (by decide +kernel)⟩
  have hlines : (40 : Int) = 3 := (hspectrum.mp h).2.1
  exact absurd hlines (by decide)

theorem spectrum_misread : ¬ ∀ (r : SpectrumResponse) (client after : ScpiClient MockTransport),
    query "CALC:DATA:PRE?" client = some (.ok r.text, after) →
      ∃ preamble, NormaInstrument.transformPreamble client = some (.ok preamble, after) ∧
        r.Decoded preamble := by
  intro h
  have hquery : query "CALC:DATA:PRE?" (answering exampleSpectrum.text) =
      some (.ok exampleSpectrum.text, answered "CALC:DATA:PRE?") :=
    query_answering (by decide +kernel) _
  obtain ⟨preamble, hparse, hdecoded⟩ := h exampleSpectrum _ _ hquery
  have hsession : NormaInstrument.transformPreamble _ = _ := ofExcept_query parsePreamble hquery
  rw [hsession] at hparse
  have hok : parsePreamble exampleSpectrum.text = .ok preamble :=
    congrArg Prod.fst (Option.some.inj hparse)
  have hlines : (40 : Int) = 3 :=
    ((spectrum_decodes_iff exampleSpectrum).mp ⟨preamble, hok, hdecoded⟩).2.1
  exact absurd hlines (by decide)

end Preamble

section Status

-- The values come first, then as many status flags.
structure StatusResponse where
  values : List NumberField
  flags : List IntegerField
  length_eq : values.length = flags.length

namespace StatusResponse

def fields (r : StatusResponse) : List Text := r.values.map (·.text) ++ r.flags.map (·.text)

def text (r : StatusResponse) : Text := join ',' r.fields

theorem fields_plain (r : StatusResponse) : ∀ field ∈ r.fields, PlainField field := by
  refine List.forall_mem_append.mpr ⟨fun field hfield => ?_, fun field hfield => ?_⟩
  · obtain ⟨value, -, rfl⟩ := List.mem_map.mp hfield
    exact value.plain
  · obtain ⟨flag, -, rfl⟩ := List.mem_map.mp hfield
    exact plainField_toText _

end StatusResponse

theorem mapM_length {A B : Type} {f : A → Except Fault B} {xs : List A} {ys : List B}
    (h : xs.mapM f = .ok ys) : ys.length = xs.length := by
  induction xs generalizing ys with
  | nil =>
    cases h
    rfl
  | cons x xs ih =>
    rw [List.mapM_cons] at h
    cases hx : f x with
    | error fault =>
      rw [hx] at h
      cases h
    | ok y =>
      cases hxs : xs.mapM f with
      | error fault =>
        rw [hx, hxs] at h
        cases h
      | ok rest =>
        rw [hx, hxs] at h
        cases h
        rw [List.length_cons, List.length_cons, ih hxs]

variable {T : Type} [Transport T] {client after : ScpiClient T}

theorem queryValues_eq {command line : Text}
    (hquery : query command client = some (.ok line, after)) :
    queryValues command client = some (parseValues line, after) :=
  ofExcept_query parseValues hquery

theorem traceStatus_eq {block : SweepBlock} {count offset sparsing : Int} {line : Text}
    (hquery : query ("TRAC:STAT? " ++ traceArguments block count offset sparsing) client =
      some (.ok line, after)) :
    NormaInstrument.traceStatus block count offset sparsing client =
      some ((parseValues line).map (List.map CNumber.truncInt32), after) := by
  have hvalues := queryValues_eq hquery
  cases hparse : parseValues line with
  | error fault =>
    rw [hparse] at hvalues
    exact Session.bind_error hvalues _
  | ok values =>
    rw [hparse] at hvalues
    exact Session.map_ok hvalues _

theorem statuses_decode_iff (r : StatusResponse) :
    (parseValues r.text).map (List.map CNumber.truncInt32) = .ok (r.flags.map (·.value)) ↔
      r.flags = [] := by
  rw [StatusResponse.text, parseValues, splitCsv_join r.fields_plain]
  constructor
  · intro h
    cases hparse : r.fields.mapM toDouble with
    | error fault =>
      rw [hparse] at h
      cases h
    | ok values =>
      rw [hparse] at h
      have hlength := mapM_length hparse
      have hsame := congrArg List.length (Except.ok.inj h)
      simp only [StatusResponse.fields, List.length_append, List.length_map, r.length_eq]
        at hlength hsame
      exact List.length_eq_zero_iff.mp (by omega)
  · intro hnil
    have hempty : r.values = [] := by simpa [hnil] using r.length_eq
    rw [StatusResponse.fields, hempty, hnil]
    rfl

theorem traceStatus_iff (r : StatusResponse) (block : SweepBlock) (count offset sparsing : Int)
    (hquery : query ("TRAC:STAT? " ++ traceArguments block count offset sparsing) client =
      some (.ok r.text, after)) :
    NormaInstrument.traceStatus block count offset sparsing client =
      some (.ok (r.flags.map (·.value)), after) ↔ r.flags = [] := by
  rw [traceStatus_eq hquery, ← statuses_decode_iff]
  simp

def oneStatus : StatusResponse :=
  ⟨[number "1.2345E+01" rfl (by decide) (by decide +kernel)], [⟨0, by decide, by decide⟩], rfl⟩

theorem one_status_misread :
    NormaInstrument.traceStatus .block1 0 0 0 (answering oneStatus.text) ≠
      some (.ok [0], answered "TRAC:STAT? 1") := by
  intro h
  have hflags := (traceStatus_iff oneStatus .block1 0 0 0
    (query_answering (by decide +kernel) _)).mp h
  cases hflags

theorem status_misread : ¬ ∀ (r : StatusResponse) (client after : ScpiClient MockTransport),
    query "TRAC:STAT? 1" client = some (.ok r.text, after) →
      NormaInstrument.traceStatus .block1 0 0 0 client =
        some (.ok (r.flags.map (·.value)), after) := by
  intro h
  have hquery : query ("TRAC:STAT? " ++ traceArguments .block1 0 0 0) (answering oneStatus.text) =
      some (.ok oneStatus.text, answered "TRAC:STAT? 1") :=
    query_answering (by decide +kernel) _
  have hstatus := h oneStatus _ _ hquery
  rw [traceStatus_eq hquery] at hstatus
  have hdecoded := congrArg Prod.fst (Option.some.inj hstatus)
  cases (statuses_decode_iff oneStatus).mp hdecoded

end Status

section Errors

def Blank (text : Text) : Prop := ∀ c ∈ text, isSpace c = true

-- An entry of the error queue as it is listed, with the blanks before its code and its text.
structure ListedError where
  entry : ScpiErrorInfo
  lead : Text := []
  gap : Text := []
  code_ne : entry.code ≠ 0
  low : -2 ^ 31 ≤ entry.code
  high : entry.code < 2 ^ 31
  plain : '"' ∉ entry.message
  lead_blank : Blank lead
  gap_blank : Blank gap

def ListedError.text (e : ListedError) : Text :=
  e.lead ++ (toText e.entry.code ++ ',' :: (e.gap ++ quote e.entry.message))

def listedText (errors : List ListedError) : Text := join ';' (errors.map (·.text))

theorem Blank.plain {text : Text} (h : Blank text) {separator : Char}
    (hseparator : isSpace separator = false) : Unquoted text ∧ separator ∉ text := by
  refine ⟨fun c hc => ?_, fun hmem => ?_⟩
  · have hspace := h c hc
    rw [isQuote, Bool.or_eq_false_iff, beq_eq_false_iff_ne, beq_eq_false_iff_ne]
    refine ⟨?_, ?_⟩
    · rintro rfl
      cases hspace
    · rintro rfl
      cases hspace
  · rw [h separator hmem] at hseparator
    cases hseparator

namespace ListedError

variable (e : ListedError)

theorem code_decodes : errorCode (toText e.entry.code) = some e.entry.code := by
  have hlow := e.low
  have hhigh := e.high
  have hlong : CNumber.longMin ≤ e.entry.code ∧ e.entry.code ≤ CNumber.longMax := by
    simp only [CNumber.longMin, CNumber.longMax]
    omega
  rw [errorCode, toText, CNumber.cstr_decimal, CNumber.strtol_decimal hlong.1 hlong.2,
    Option.map_some, CNumber.toInt32_eq_self hlow hhigh]

theorem trim_code : trim (e.lead ++ toText e.entry.code) = toText e.entry.code := by
  rw [trim_append_of_space e.lead_blank]
  exact trim_of_spaceless (plainField_toText _).spaceless

theorem code_unquoted : Unquoted (e.lead ++ toText e.entry.code) :=
  (e.lead_blank.plain (by decide : isSpace ',' = false)).1.append (plainField_toText _).unquoted

theorem split_code (rest : Text) :
    splitUnquoted (e.lead ++ (toText e.entry.code ++ ',' :: rest)) ',' =
      (e.lead ++ toText e.entry.code) :: splitUnquoted rest ',' := by
  have hcomma : ',' ∉ e.lead ++ toText e.entry.code := by
    rw [List.mem_append, not_or]
    exact ⟨(e.lead_blank.plain (by decide)).2, (plainField_toText _).comma⟩
  have hwhole : Whole ',' (e.lead ++ toText e.entry.code) := e.code_unquoted.whole_iff.mpr hcomma
  rw [← List.append_assoc, splitUnquoted_append (by decide) e.code_unquoted.quoteAfter,
    hwhole.split]
  rfl

theorem message_whole : Whole ',' (e.gap ++ quote e.entry.message) := by
  obtain ⟨hunquoted, hcomma⟩ := e.gap_blank.plain (by decide : isSpace ',' = false)
  exact (Whole.append_iff hunquoted.quoteAfter).mpr
    ⟨hunquoted.whole_iff.mpr hcomma, whole_quote e.plain⟩

theorem message_closed : quoteAfter (e.gap ++ quote e.entry.message) = none := by
  have hunquoted := (e.gap_blank.plain (by decide : isSpace ',' = false)).1
  rw [quoteAfter_append, hunquoted.quoteAfter]
  exact quoteAfter_quote e.plain

theorem blank_text (tail : Text) : trim (e.text ++ tail) ≠ [] := by
  obtain ⟨c, digits, hcode⟩ := List.exists_cons_of_ne_nil (plainField_toText e.entry.code).nonempty
  have hc := (plainField_toText e.entry.code).spaceless c (by simp [hcode])
  rw [text, List.append_assoc, trim_append_of_space e.lead_blank, hcode]
  exact trim_cons_ne_nil hc _

theorem parse_single : parseErrors e.text = .ok [e.entry] := by
  have hblank : trim e.text ≠ [] := by simpa using e.blank_text []
  have hfields : splitCsv e.text = [toText e.entry.code, quote e.entry.message] := by
    rw [splitCsv, splitFields, if_neg hblank, text, e.split_code, e.message_whole.split,
      List.map_cons, List.map_singleton, e.trim_code, trim_append_of_space e.gap_blank, trim_quote]
  simp [parseErrors, hfields, errorPairs, e.code_decodes, e.code_ne, Except.map]

theorem parse_several (next : ListedError) (rest : Text) (entries : List ScpiErrorInfo) :
    parseErrors (e.text ++ ';' :: (next.lead ++ (toText next.entry.code ++ ',' :: rest))) ≠
      .ok (e.entry :: entries) := by
  have hblank := e.blank_text (';' :: (next.lead ++ (toText next.entry.code ++ ',' :: rest)))
  have hnext : Unquoted (';' :: (next.lead ++ toText next.entry.code)) := by
    intro c hc
    rcases List.mem_cons.mp hc with rfl | hmem
    · rfl
    · exact next.code_unquoted c hmem
  have hcomma : ',' ∉ ';' :: (next.lead ++ toText next.entry.code) := by
    have hlead := (next.lead_blank.plain (by decide : isSpace ',' = false)).2
    have hcode := (plainField_toText next.entry.code).comma
    simp [hlead, hcode]
  have hfront : Whole ',' (e.gap ++ quote e.entry.message ++
      ';' :: (next.lead ++ toText next.entry.code)) :=
    (Whole.append_iff e.message_closed).mpr ⟨e.message_whole, hnext.whole_iff.mpr hcomma⟩
  have hclosed : quoteAfter (e.gap ++ quote e.entry.message ++
      ';' :: (next.lead ++ toText next.entry.code)) = none := by
    rw [quoteAfter_append, e.message_closed]
    exact hnext.quoteAfter
  have htext : e.text ++ ';' :: (next.lead ++ (toText next.entry.code ++ ',' :: rest)) =
      e.lead ++ (toText e.entry.code ++ ',' :: (e.gap ++ quote e.entry.message ++
        ';' :: (next.lead ++ toText next.entry.code) ++ ',' :: rest)) := by
    simp [text]
  have hmessage : unquote (trim (e.gap ++ quote e.entry.message ++
      ';' :: (next.lead ++ toText next.entry.code))) ≠ e.entry.message := by
    rw [List.append_assoc, trim_append_of_space e.gap_blank, unquote_trim]
    exact unquote_ne_of_longer (by decide) _ _
  have hfields : splitCsv (e.text ++ ';' ::
      (next.lead ++ (toText next.entry.code ++ ',' :: rest))) =
      toText e.entry.code :: trim (e.gap ++ quote e.entry.message ++
        ';' :: (next.lead ++ toText next.entry.code)) :: (splitUnquoted rest ',').map trim := by
    rw [splitCsv, splitFields, if_neg hblank, htext, e.split_code,
      splitUnquoted_append (by decide) hclosed, hfront.split, List.map_cons, e.trim_code]
    rfl
  intro h
  simp only [parseErrors, hfields, errorPairs, e.code_decodes, e.code_ne, if_false] at h
  cases hpairs : errorPairs _ ((splitUnquoted rest ',').map trim) with
  | error fault =>
    rw [hpairs] at h
    cases h
  | ok pairs =>
    rw [hpairs] at h
    simp only [Except.map, reduceCtorEq, false_and, if_false] at h
    have hhead := (List.cons.inj (Except.ok.inj h)).1
    exact hmessage (congrArg ScpiErrorInfo.message hhead)

end ListedError

theorem listed_errors_iff {errors : List ListedError} (hne : errors ≠ []) :
    parseErrors (listedText errors) = .ok (errors.map (·.entry)) ↔ errors.length = 1 := by
  obtain ⟨e, errors, rfl⟩ := List.exists_cons_of_ne_nil hne
  cases errors with
  | nil => simpa [listedText, join] using e.parse_single
  | cons next errors =>
    have htail : listedText (e :: next :: errors) =
        e.text ++ ';' :: (next.lead ++ (toText next.entry.code ++ ',' ::
          (next.gap ++ quote next.entry.message ++
            ((errors.map (·.text)).map (';' :: ·)).flatten))) := by
      simp [listedText, join_cons, ListedError.text]
    rw [htail]
    exact iff_of_false (e.parse_several next _ _) (by simp)

variable {T : Type} [Transport T] {client after : ScpiClient T}

theorem readErrorsAtOnce_eq {line : Text}
    (hquery : query "SYST:ERR:ALL?" client = some (.ok line, after)) :
    NormaInstrument.readErrorsAtOnce client = some (parseErrors line, after) :=
  ofExcept_query parseErrors hquery

theorem readErrorsAtOnce_iff {errors : List ListedError} (hne : errors ≠ [])
    {client' after' : ScpiClient T}
    (hquery : query "SYST:ERR:ALL?" client = some (.ok (listedText errors), after))
    (hempty : query "SYST:ERR:ALL?" client' = some (.ok noErrorText, after')) :
    (NormaInstrument.readErrorsAtOnce client = some (.ok (errors.map (·.entry)), after) ↔
        errors.length = 1) ∧
      NormaInstrument.readErrorsAtOnce client' = some (.ok [], after') := by
  rw [readErrorsAtOnce_eq hquery, readErrorsAtOnce_eq hempty, parseErrors_noErrorText,
    ← listed_errors_iff hne]
  simp

def syntaxError : ListedError :=
  { entry := ⟨-102, "Syntax Error"⟩, code_ne := by decide, low := by decide, high := by decide
    plain := by decide, lead_blank := by simp [Blank], gap_blank := by simp [Blank] }

def undefinedHeaderError : ListedError :=
  { entry := ⟨-113, "Undefined Header"⟩, code_ne := by decide, low := by decide, high := by decide
    plain := by decide, lead_blank := by simp [Blank], gap_blank := by simp [Blank] }

theorem one_listed_error_reads :
    NormaInstrument.readErrorsAtOnce (answering (listedText [syntaxError])) =
      some (.ok [⟨-102, "Syntax Error"⟩], answered "SYST:ERR:ALL?") :=
  (readErrorsAtOnce_iff (by simp) (query_answering (by decide +kernel) _)
    (query_answering (by decide +kernel) _)).1.mpr rfl

theorem listed_errors_misread : ¬ ∀ (errors : List ListedError)
    (client after : ScpiClient MockTransport), errors ≠ [] →
    query "SYST:ERR:ALL?" client = some (.ok (listedText errors), after) →
      NormaInstrument.readErrorsAtOnce client = some (.ok (errors.map (·.entry)), after) := by
  intro h
  have hquery : query "SYST:ERR:ALL?" (answering (listedText [syntaxError, undefinedHeaderError])) =
      some (.ok (listedText [syntaxError, undefinedHeaderError]), answered "SYST:ERR:ALL?") :=
    query_answering (by decide +kernel) _
  have hne : [syntaxError, undefinedHeaderError] ≠ [] := by simp
  have hread := h [syntaxError, undefinedHeaderError] _ _ hne hquery
  rw [readErrorsAtOnce_eq hquery] at hread
  have hparse := congrArg Prod.fst (Option.some.inj hread)
  have hlength := (listed_errors_iff hne).mp hparse
  cases hlength

end Errors

end Norma
